import RenderRelay.Proofs.Recovery.Twins

/-!
Twins do alike: they answer every command in the same way and stay twins (`fellows_paired`). What a
frame shows is what the canvas's buffer holds then, so a frame of everything shows the same for both
(`run_whole`).
-/

namespace RenderRelay

open DeviceOp

def Command.damage? {σ φ : Type} : Command σ φ → Option Damage
  | draw _ record => some (.decode record)
  | repeatLastDraw => some .whole
  | _ => none

namespace Headless

variable {ω π φ τ : Type} {report : LogRecord → ω → ω}
  {invoke : φ → Frame → FunctorInfo → StateM ω (Frame × Completion)}
  {perform : τ → StateM ω Completion} {part : ω → π}

/-- Equal contexts, or coherent ones that are twins. -/
inductive Paired (c : Context (backend report) φ) : Context (backend report) φ → Prop
  | same : Paired c c
  | twins {c' : Context (backend report) φ} (coherent : Coherent c) (twins : Twins c c') :
    Paired c c'

namespace Unread

variable (unread : Unread report invoke perform part) {config : Config}
  {c c' : Context (backend report) φ}

include unread

/-! ### Commands -/

theorem bind_twins (twins : Twins c c') (surface : Option Surface) :
    Simulates (Device.Beside config Counts part) Both
      (c.bind (host report invoke perform) surface)
      (c'.bind (host report invoke perform) surface) := by
  have own := twins
  obtain @⟨canvas, redraw, near, more⟩ := twins
  obtain ⟨h, name, canvas₁, registry, size, bound, redraw₁, stats⟩ := c
  unfold Context.bind
  cases near with
  | none => exact simulates_pure ⟨rfl, own⟩
  | @some k k' near =>
    cases surface with
    | none =>
      refine (unread.unbindSurface_near near).bind fun k k' near => ?_
      exact simulates_pure ⟨rfl, .of_canvas (.some near) more⟩
    | some s =>
      refine (unread.bindSurface_near near s size).bind ?_
      rintro ⟨result, k⟩ _ rfl
      rcases result with e | ⟨⟩
      · refine (unread.contextNote_simulates _ _ _).bind fun _ _ _ => ?_
        exact simulates_pure ⟨rfl, .of_canvas (.some (.refl _)) more⟩
      · exact simulates_pure ⟨rfl, .of_canvas (.some (.refl _)) fun _ => rfl⟩

theorem resize_twins (twins : Twins c c') (size : Viewport) :
    Simulates (Device.Beside config Counts part) Both
      (c.resize (host report invoke perform) size)
      (c'.resize (host report invoke perform) size) := by
  obtain @⟨canvas, redraw, near, more⟩ := twins
  obtain ⟨h, name, canvas₁, registry, before, bound, redraw₁, stats⟩ := c
  have stale : (redraw || decide (before ≠ some size)) = true →
      (redraw₁ || decide (before ≠ some size)) = true := by
    simp only [Bool.or_eq_true]
    exact Or.imp_left more
  unfold Context.resize
  cases near with
  | none => exact simulates_pure ⟨rfl, .of_canvas .none stale⟩
  | @some k k' near =>
    refine (unread.resize_near near size).bind ?_
    rintro ⟨_, k⟩ ⟨result, k'⟩ ⟨rfl, near⟩
    rcases result with e | ⟨⟩
    · refine (unread.contextNote_simulates _ _ _).bind fun _ _ _ => ?_
      exact simulates_pure ⟨rfl, .of_canvas (.some near) stale⟩
    · exact simulates_pure ⟨rfl, .of_canvas (.some near) stale⟩

theorem releaseAll_twins (twins : Twins c c') :
    Simulates (Device.Beside config Counts part) Twins c.releaseAll c'.releaseAll := by
  obtain @⟨canvas, redraw, near, more⟩ := twins
  obtain ⟨h, name, canvas₁, registry, size, bound, redraw₁, stats⟩ := c
  have registries := ((unread.pairing_open config presentable_counts).registries_iff perform).2
    (rfl : registry = registry)
  have destroys :
      ((unread.pairing config presentable_counts).correspondence perform).DestroysLayers :=
    Pairing.destroysLayers _
  have layers := Correspondence.destroyLayers_simulates destroys registries.layers
  unfold Context.releaseAll
  refine layers.bind fun _ _ _ => ?_
  cases near with
  | none => exact simulates_pure (.of_canvas .none more)
  | some near =>
    refine (unread.destroyCanvas_near near).bind fun _ _ _ => ?_
    exact simulates_pure (.of_canvas .none more)

theorem release_twins (twins : Twins c c') (full : Bool) :
    Simulates (Device.Beside config Counts part) Twins
      (c.release (host report invoke perform) full)
      (c'.release (host report invoke perform) full) := by
  unfold Context.release
  split
  · refine (unread.releaseAll_twins twins).bind fun c c' twins => ?_
    rw [twins.name]
    exact (unread.contextNote_simulates _ _ _).bind fun _ _ _ => simulates_pure twins
  · rw [twins.name]
    exact (unread.contextNote_simulates _ _ _).bind fun _ _ _ => simulates_pure twins

theorem destroy_twins (twins : Twins c c') (full : Bool) :
    Simulates (Device.Beside config Counts part) Twins
      (c.destroy (host report invoke perform) full)
      (c'.destroy (host report invoke perform) full) := by
  obtain @⟨canvas, redraw, near, more⟩ := twins
  obtain ⟨h, name, canvas₁, registry, size, bound, redraw₁, stats⟩ := c
  have released {k k' : Option Canvas} (near : Option.Rel Canvas.Near k k') :
      Simulates (Device.Beside config Counts part) Twins
        (Context.release (host report invoke perform)
          ⟨h, name, k, registry, size, false, redraw₁, stats⟩ full)
        (Context.release (host report invoke perform)
          ⟨h, name, k', registry, size, false, redraw, stats⟩ full) := by
    let c₀ : Context (backend report) φ := ⟨h, name, k, registry, size, false, redraw₁, stats⟩
    have twins : Twins c₀ (c₀.withCanvas k' redraw) := .of_canvas near more
    exact unread.release_twins twins full
  rw [Context.destroy_eq, Context.destroy_eq]
  cases near with
  | none => exact released .none
  | some near => exact (unread.unbindSurface_near near).bind fun k k' near => released (.some near)

omit unread in
theorem flushCaches_twins (twins : Twins c c') (fresh : LayerHandle) :
    Simulates (Device.Beside config Counts part) Both
      (c.execute (host report invoke perform) fresh .flushCaches)
      (c'.execute (host report invoke perform) fresh .flushCaches) := by
  obtain @⟨canvas, redraw, near, more⟩ := twins
  obtain ⟨h, name, canvas₁, registry, size, bound, redraw₁, stats⟩ := c
  cases near with
  | none => exact simulates_pure ⟨rfl, .of_canvas .none more⟩
  | some near =>
    exact simulates_pure ⟨rfl, .of_canvas (.some (trimCaches_near near)) more⟩

omit unread in
theorem both_reply {α : Type} {op op' : DeviceOp (Device ω) (α × Context (backend report) φ)}
    (both : Simulates (Device.Beside config Counts part) Both op op') (reply : α → Reply) :
    Simulates (Device.Beside config Counts part) Both
      (op >>= fun r => pure (some (reply r.1), r.2))
      (op' >>= fun r => pure (some (reply r.1), r.2)) := by
  refine both.bind ?_
  rintro ⟨_, c⟩ ⟨a, c'⟩ ⟨rfl, twins⟩
  exact simulates_pure ⟨rfl, twins⟩

theorem dispatch_twins_of_spares (twins : Twins c c') (fresh : LayerHandle)
    {command : Command Surface φ} (spares : command.sparesCanvas = true) :
    Simulates (Device.Beside config Counts part) Both
      (c.dispatch (host report invoke perform) fresh command)
      (c'.dispatch (host report invoke perform) fresh command) := by
  obtain @⟨canvas, redraw, near, more⟩ := twins
  have same : Simulates (Device.Beside config Counts part) _ _ _ :=
    (unread.fellows presentable_counts).obey c c fresh command rfl
  have kept := Context.dispatch_withCanvas (host report invoke perform) c.needsFullRedraw
    (c := c) rfl fresh spares
  have changed := Context.dispatch_withCanvas (host report invoke perform) redraw
    (isSome_of_rel near) fresh spares
  change c.dispatch _ fresh command = _ at kept
  have both : Simulates (Device.Beside config Counts part) Both
      (c.dispatch (host report invoke perform) fresh command >>= fun r =>
        pure (r.1, r.2.withCanvas c.canvas c.needsFullRedraw))
      (c.dispatch (host report invoke perform) fresh command >>= fun r =>
        pure (r.1, r.2.withCanvas canvas redraw)) := by
    refine same.bind ?_
    rintro ⟨_, c₁⟩ ⟨reply, _⟩ ⟨rfl, rfl⟩
    exact simulates_pure ⟨rfl, .of_canvas near more⟩
  rw [← kept, ← changed] at both
  exact both

/-- **A command is answered alike, and leaves twins.** -/
theorem dispatch_twins (heedless : ∀ f, Heedless invoke part f) (twins : Twins c c')
    (coherent : Coherent c) (fresh : LayerHandle) (command : Command Surface φ) :
    Simulates (Device.Beside config Counts part) Both
      (c.dispatch (host report invoke perform) fresh command)
      (c'.dispatch (host report invoke perform) fresh command) := by
  cases spares : command.sparesCanvas with
  | true => exact unread.dispatch_twins_of_spares twins fresh spares
  | false =>
    have noted (level : Level) (text : String) :
        Simulates (Device.Beside config Counts part) (fun _ _ => True)
          (Context.note (host report invoke perform) c.name level text)
          (Context.note (host report invoke perform) c'.name level text) := by
      rw [twins.name]
      exact unread.contextNote_simulates _ _ _
    refine (noted _ _).bind fun _ _ _ => ?_
    cases command with
    | bindSurface s =>
      exact both_reply (unread.bind_twins twins (some s)) .surface
    | updateSurface s => exact both_reply (unread.bind_twins twins s) .surface
    | setup size => exact both_reply (unread.resize_twins twins size) .resized
    | draw list record =>
      exact both_reply ((unread.draw_twins heedless twins coherent list _).mono
        fun _ _ drawn => drawn.1) .drawn
    | repeatLastDraw =>
      have own : c'.registry.lastDrawn = c.registry.lastDrawn := by rw [twins.registry]
      simp only [Context.execute, own]
      cases c.registry.lastDrawn with
      | none =>
        refine (noted _ _).bind fun _ _ _ => ?_
        exact simulates_pure ⟨rfl, twins.counted (·.count .skipped)⟩
      | some list =>
        exact both_reply ((unread.draw_twins heedless twins coherent list .whole).mono
          fun _ _ drawn => drawn.1) .drawn
    | destroy full =>
      exact (unread.destroy_twins twins full).bind fun c c' twins => simulates_pure ⟨rfl, twins⟩
    | flushCaches => exact flushCaches_twins twins fresh
    | _ => simp [Command.sparesCanvas] at spares

theorem teardown_twins (twins : Twins c c') :
    Simulates (Device.Beside config Counts part) (fun _ _ => True)
      (c.teardown (host report invoke perform)) (c'.teardown (host report invoke perform)) := by
  refine (unread.releaseAll_twins twins).bind fun c c' twins => ?_
  rw [twins.name]
  exact unread.contextNote_simulates _ _ _

/-- **Twins do alike**, and so do equal contexts. -/
theorem fellows_paired (heedless : ∀ f, Heedless invoke part f) :
    Fellows (host report invoke perform) (host report invoke perform)
      (Device.Beside config Counts part) Paired := by
  have equal : Fellows (host report invoke perform) (host report invoke perform)
    (Device.Beside config Counts part) _ := unread.fellows presentable_counts
  refine ⟨?_, equal.notes, ?_, ?_, ?_, equal.perform⟩
  · rintro c c' (_ | ⟨-, twins⟩)
    · rfl
    · exact twins.name
  · refine fun h translucent => (equal.made h translucent).mono fun made made' outcome => ?_
    cases outcome with
    | ok same => exact .ok (same ▸ .same)
    | error e => exact .error e
  · rintro c c' fresh command (_ | ⟨coherent, twins⟩)
    · refine (equal.obey c c fresh command rfl).mono ?_
      rintro ⟨_, c₁⟩ ⟨reply, _⟩ ⟨rfl, rfl⟩
      exact ⟨rfl, .same⟩
    · have both : Simulates (Device.Beside config Counts part) Both _ _ :=
        unread.dispatch_twins heedless twins coherent fresh command
      have books : ∀ d, (c.dispatch (host report invoke perform) fresh command).Ensures d
          fun r _ => Coherent r.2 :=
        fun d => (dispatch_booked coherent fresh command).mono fun _ _ booked => booked.coherent
      exact (both.also books).mono fun r r' found => ⟨found.1.1, .twins found.2 found.1.2⟩
  · rintro c c' (_ | ⟨-, twins⟩)
    · exact equal.taken c c rfl
    · exact unread.teardown_twins twins

end Unread

/-! ### What frames show -/

def boundTo (c : Context (backend report) φ) : Option Surface := c.canvas.bind (·.surface)

/-- The frame that was drawn has come to the bound surface and is held by the canvas. -/
def PresentsBack (c : Context (backend report) φ) (g : Gallery) (c' : Context (backend report) φ)
    (d' : Device ω) : Prop :=
  ∃ s canvas, boundTo c = some s ∧ c'.canvas = some canvas ∧
    Presented s canvas.back g d'.gallery

/-- One frame has come to a surface in both galleries. It is dropped in both, or in both it is shown
and the surface shows the same. -/
def PresentsAlike (s : Surface) (g g₁ g' g₁' : Gallery) : Prop :=
  ∃ frame, Presented s frame g g₁ ∧ Presented s frame g' g₁' ∧ g'.isRead s = g.isRead s ∧
    (g.isRead s = false → g₁'.look s = g₁.look s)

theorem Counts.presentsAlike {s : Surface} {frame : Bitmap} {g g₁ g' g₁' : Gallery}
    (counts : Counts g g') (presented : Presented s frame g g₁)
    (presented' : Presented s frame g' g₁') : PresentsAlike s g g₁ g' g₁' := by
  refine ⟨frame, presented, presented', counts.busy s, fun free => ?_⟩
  rw [presented.shown free, presented'.shown ((counts.busy s).trans free), counts.presents,
    counts.dropped]

section Showing

variable {c : Context (backend report) φ} {d : Device ω}

theorem drawOnCanvas_presents_back {canvas : Canvas} (there : c.canvas = some canvas)
    (size : Viewport) (box : PixelBox) (list : DisplayList) :
    (c.drawOnCanvas (host report invoke perform) canvas size box list).Ensures d fun r d' =>
      r.1 = .drawn → PresentsBack c d.gallery r.2 d' := by
  refine ensures_bind.2 (ensures_beginFrame (fun e => ?_) ?_ ?_)
  · exact ensures_bind.2 ((Context.ensures_note _).2 (ensures_pure.2 nofun))
  · exact ensures_pure.2 nofun
  · intro size surface target _ bound _ _
    refine ensures_bind.2 fun frame d₁ run => ?_
    have same : d₁.gallery = d.gallery := congrArg Prod.snd ((drawItems_shown ..).of_run run)
    refine ensures_bind.2 (ensures_endFrame_bound bound (ensures_pure.2 fun _ => ?_))
    have own : boundTo c = some surface := by rw [boundTo, there, Option.bind_some, bound]
    exact ⟨surface, _, own, rfl, same ▸ presented_present surface frame.target d₁.gallery⟩

theorem drawFrame_presents_back (list : DisplayList) (damage : Damage) :
    (c.drawFrame (host report invoke perform) list damage).Ensures d fun r d' =>
      r.1 = .drawn → PresentsBack c d.gallery r.2 d' := by
  refine Context.ensures_drawFrame nofun (fun _ => nofun) fun canvas size box there _ _ _ => ?_
  exact drawOnCanvas_presents_back there size box list

theorem draw_presents_back (list : DisplayList) (damage : Damage) :
    (c.draw (host report invoke perform) list damage).Ensures d fun r d' =>
      r.1 = .drawn → PresentsBack c d.gallery r.2 d' := by
  rw [Context.draw_eq]
  refine ensures_bind.2 fun c₁ d₁ applied => ?_
  have same : d₁.gallery = d.gallery :=
    congrArg Prod.snd ((applyLayerUpdates_shown c).of_run applied)
  obtain ⟨layers, rfl⟩ := Context.applyLayerUpdates_layers _ _ _ _ _ applied
  rw [← same]
  exact ensures_bind.2 ((drawFrame_presents_back list damage).mono fun r d' presents =>
    ensures_pure.2 presents)

/-- **A frame that is drawn is presented.** -/
theorem dispatch_presents_back {command : Command Surface φ} {damage : Damage}
    (draws : command.damage? = some damage) (fresh : LayerHandle) :
    (c.dispatch (host report invoke perform) fresh command).Ensures d fun r d' =>
      r.1 = some (.drawn .drawn) → PresentsBack c d.gallery r.2 d' := by
  have presents (list : DisplayList) (damage : Damage) (d : Device ω) :
      (c.draw (host report invoke perform) list damage >>= fun r =>
        pure (some (Reply.drawn r.1), r.2)).Ensures d fun r d' =>
          r.1 = some (.drawn .drawn) → PresentsBack c d.gallery r.2 d' := by
    refine ensures_bind.2 ((draw_presents_back list damage).mono fun r d' presents => ?_)
    exact ensures_pure.2 fun drawn => presents (by simpa using drawn)
  refine ensures_note_bind fun world => ?_
  cases command with
  | draw list record => exact presents list _ _
  | repeatLastDraw =>
    simp only [Context.execute]
    split
    · exact presents _ _ _
    · exact ensures_bind.2 ((Context.ensures_note _).2 (ensures_pure.2 (by simp)))
  | _ => simp [Command.damage?] at draws

end Showing

/-! ### Frames of everything -/

theorem Paired.boundTo {c c' : Context (backend report) φ} (paired : Paired c c') :
    boundTo c' = boundTo c := by
  obtain _ | ⟨-, ⟨near, -⟩⟩ := paired
  · rfl
  · change Option.bind _ _ = Option.bind _ _
    generalize c.canvas = k at near
    cases near with
    | none => rfl
    | some near =>
      obtain ⟨-⟩ := near
      rfl

namespace Unread

variable (unread : Unread report invoke perform part) (heedless : ∀ f, Heedless invoke part f)
  {config : Config} {c c' : Context (backend report) φ} {command : Command Surface φ}
  {damage : Damage}

include unread heedless

/-- **A frame of everything leaves paired contexts equal.** -/
theorem dispatch_whole (paired : Paired c c') (draws : command.damage? = some damage)
    (fresh : LayerHandle) :
    Simulates (Device.Beside config Counts part)
      (fun r r' => r'.1 = r.1 ∧ (RepaintsAll config.capabilities c' damage →
        r.1 = some (.drawn .drawn) → r'.2 = r.2))
      (c.dispatch (host report invoke perform) fresh command)
      (c'.dispatch (host report invoke perform) fresh command) := by
  obtain _ | ⟨coherent, twins⟩ := paired
  · have same : Simulates (Device.Beside config Counts part) _ _ _ :=
      (unread.fellows presentable_counts).obey c c fresh command rfl
    exact same.mono fun r r' equal => ⟨equal.1, fun _ _ => equal.2⟩
  · have drawn (list : DisplayList) (damage : Damage) :
        Simulates (Device.Beside config Counts part)
          (fun r r' => r'.1 = r.1 ∧ (RepaintsAll config.capabilities c' damage →
            r.1 = some (.drawn .drawn) → r'.2 = r.2))
          (c.draw (host report invoke perform) list damage >>= fun r =>
            pure (some (Reply.drawn r.1), r.2))
          (c'.draw (host report invoke perform) list damage >>= fun r =>
            pure (some (Reply.drawn r.1), r.2)) := by
      refine (unread.draw_twins heedless twins coherent list damage).bind ?_
      rintro ⟨_, c₁⟩ ⟨status, c₁'⟩ ⟨⟨rfl, -⟩, whole⟩
      exact simulates_pure ⟨rfl, fun all drawn => whole all (by simpa using drawn)⟩
    have noted : Simulates (Device.Beside config Counts part) (fun _ _ => True)
        (Context.note (host report invoke perform) c.name .trace command.name)
        (Context.note (host report invoke perform) c'.name .trace command.name) := by
      rw [twins.name]
      exact unread.contextNote_simulates _ _ _
    refine noted.bind fun _ _ _ => ?_
    cases command with
    | draw list record =>
      obtain rfl : .decode record = damage := Option.some.inj draws
      exact drawn list _
    | repeatLastDraw =>
      obtain rfl : .whole = damage := Option.some.inj draws
      have last : c'.registry.lastDrawn = c.registry.lastDrawn := by rw [twins.registry]
      simp only [Context.execute, last]
      cases c.registry.lastDrawn with
      | some list => exact drawn list _
      | none =>
        rw [twins.name]
        exact (unread.contextNote_simulates _ _ _).bind fun _ _ _ =>
          simulates_pure ⟨rfl, fun _ => by simp⟩
    | _ => simp [Command.damage?] at draws

/-- **A frame of everything is presented alike on both threads**, whichever proxy it is of. -/
theorem run_whole {loop loop' : RenderLoop (backend report) φ} (loops : loop.Beside Paired loop')
    {k : ProxyHandle} (there : loop'.contexts.get? k = some c')
    (draws : command.damage? = some damage) (whole : RepaintsAll config.capabilities c' damage)
    {d d' : Device ω} (beside : Device.Beside config Counts part d d') :
    (loop.run (host report invoke perform) k command).Ensures d fun r d₁ =>
      r.1 = some (.drawn .drawn) → ∃ loop₁' d₁' s,
        (loop'.run (host report invoke perform) k command).runOn d' =
          (.ok (some (.drawn .drawn), loop₁'), d₁') ∧
        boundTo c' = some s ∧
        PresentsAlike s d.gallery d₁.gallery d'.gallery d₁'.gallery := by
  have look := loops.contexts.get? (fun _ _ same => same) k
  rw [there] at look
  generalize found : loop.contexts.get? k = found' at look
  obtain paired | _ := look
  unfold RenderLoop.run
  simp only [found, there, loops.nextLayer]
  refine ensures_bind.2 fun r d₁ run => ensures_pure.2 fun drawn => ?_
  obtain ⟨r', d₁', run', ⟨same, equal⟩, beside'⟩ :=
    unread.dispatch_whole heedless paired draws loop.nextLayer d d' beside r d₁ run
  obtain ⟨s, canvas, bound, held, presented⟩ := dispatch_presents_back draws _ _ _ run drawn
  obtain ⟨s', canvas', bound', held', presented'⟩ :=
    dispatch_presents_back draws _ _ _ run' (same.trans drawn)
  obtain rfl : s = s' := Option.some.inj (bound.symm.trans (paired.boundTo.symm.trans bound'))
  rw [equal whole drawn, held] at held'
  obtain rfl := Option.some.inj held'
  have alike := beside.gallery.presentsAlike presented presented'
  refine ⟨⟨loop'.contexts.insert k r'.2, RenderLoop.layerAfter loop.nextLayer r'.1⟩, d₁', s, ?_,
    bound', alike⟩
  rw [runOn_bind, run', ← same.trans drawn]
  rfl

end Unread

end Headless

end RenderRelay

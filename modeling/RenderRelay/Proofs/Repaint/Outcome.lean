import RenderRelay.Proofs.Budget
import RenderRelay.Proofs.Explicit
import RenderRelay.Proofs.Features.Whole

/-!
What a draw comes to. It is drawn exactly if it has all that it needs (`Showable`), and then comes to
the bound surface alone; otherwise no surface, no canvas and no flag is touched. Either way the
updates that waited are done, the list is the one to repeat, and the draw is counted
(`draw_concludes`).
-/

namespace RenderRelay

open DeviceOp

/-! ### Regions -/

def Damage.contains : Damage → Nat → Nat → Bool
  | .whole, _, _ => true
  | .box b, x, y => b.contains x y

def Damage.Meets (damage : Damage) (size : Viewport) : Prop :=
  ∃ x y, (PixelBox.ofSize size.width size.height).contains x y = true ∧
    damage.contains x y = true

/-- What a backend repaints where it is asked for this. -/
def Capabilities.region (capabilities : Capabilities) (damage : Damage) : Damage :=
  if capabilities.partialRedraw then damage else .whole

theorem Damage.clipTo_eq_none_iff {damage : Damage} {size : Viewport} :
    damage.clipTo size = none ↔ ¬damage.Meets size := by
  cases damage with
  | box b => exact clipTo_eq_none
  | whole =>
    unfold clipTo Meets
    rw [PixelBox.nonempty?_eq_none]
    simp [contains]

theorem Context.frameDamage_eq_none_iff {capabilities : Capabilities} {needsFullRedraw : Bool}
    {size : Viewport} {damage : Damage} :
    frameDamage capabilities needsFullRedraw size damage = none ↔
      ¬(capabilities.region damage).Meets size := by
  rw [← Damage.clipTo_eq_none_iff]
  unfold frameDamage
  cases reached : (capabilities.region damage).clipTo size with
  | none =>
    unfold Capabilities.region at reached
    simp [reached]
  | some box =>
    unfold Capabilities.region at reached
    cases needsFullRedraw <;> simp [reached]

theorem Damage.Meets.nonempty {damage : Damage} {size : Viewport} (meets : damage.Meets size) :
    size.isEmpty = false := by
  obtain ⟨x, y, inside, -⟩ := meets
  simp only [PixelBox.contains, Bool.and_eq_true, decide_eq_true_eq] at inside
  simp only [PixelBox.ofSize] at inside
  simp only [Viewport.isEmpty, Bool.or_eq_false_iff, decide_eq_false_iff_not]
  omega

namespace Headless

variable {ω φ τ : Type} {report : LogRecord → ω → ω}
  {invoke : φ → Frame → FunctorInfo → StateM ω (Frame × Completion)}
  {perform : τ → StateM ω Completion}

/-! ### Contexts that arise -/

/-- A context after any commands, each on whatever device there was then. -/
inductive Arisen (H : Host (backend report) φ τ) : Context (backend report) φ → Prop
  | made {handle : ProxyHandle} {translucent : Bool} {canvas : Canvas} {d d' : Device ω}
      (run : (createCanvas report translucent).runOn d = (.ok (.ok canvas), d')) :
      Arisen H (.ofCanvas handle canvas)
  | obeyed {c c' : Context (backend report) φ} {d d' : Device ω} {reply : Option Reply}
      (arisen : Arisen H c) (fresh : LayerHandle) (command : Command Surface φ)
      (run : (c.dispatch H fresh command).runOn d = (.ok (reply, c'), d')) : Arisen H c'

/-- Such a context has the size and the binding of its canvas. -/
theorem Arisen.coherent {c : Context (backend report) φ}
    (arisen : Arisen (host report invoke perform) c) : Coherent c := by
  induction arisen with
  | made run =>
    have steadfast : Steadfast (host report invoke perform) .all Coherent := steadfast_coherent _
    exact steadfast.made _ _ _ _ _ run
  | obeyed _ fresh command run ih => exact (dispatch_booked ih fresh command _ _ run).coherent

/-! ### What a draw needs, and what it does -/

/-- The buffer of a frame is there, or the budget allows it. -/
def Bufferable (config : Config) (canvas : Canvas) (size : Viewport) : Prop :=
  HasSize canvas.back size ∨ bytes size ≤ config.maxBufferBytes

/-- **All that a draw needs to be drawn.** -/
structure Showable (config : Config) (c : Context (backend report) φ) (damage : Damage)
    (canvas : Canvas) (surface : Surface) (size : Viewport) : Prop where
  there : c.canvas = some canvas
  bound : canvas.surface = some surface
  sized : c.viewport = some size
  nonempty : size.isEmpty = false
  reached : (config.capabilities.region damage).Meets size
  bufferable : Bufferable config canvas size

def CanShow (config : Config) (c : Context (backend report) φ) (damage : Damage) : Prop :=
  ∃ canvas surface size, Showable config c damage canvas surface size

/-- The frame is the canvas's buffer now, and it has come to the bound surface. -/
def Shown (canvas : Canvas) (surface : Surface) (d : Device ω) (c' : Context (backend report) φ)
    (d' : Device ω) : Prop :=
  ∃ back, c'.canvas = some { canvas with back } ∧ Presented surface back d.gallery d'.gallery

/-- Nothing is shown, and nothing of the canvas has changed. -/
structure Untouched (c : Context (backend report) φ) (d : Device ω)
    (c' : Context (backend report) φ) (d' : Device ω) : Prop where
  gallery : d'.gallery = d.gallery
  canvas : c'.canvas = c.canvas
  needsFullRedraw : c'.needsFullRedraw = c.needsFullRedraw

/-- **How a draw ends.** Nothing waits any more: the layers are those that a flush would have left.
To repeat the last draw is to draw this list, and all of it; one of the two counts has grown by one.
-/
structure Concludes (H : Host (backend report) φ τ) (c : Context (backend report) φ) (d : Device ω)
    (list : DisplayList) (damage : Damage) (status : DrawStatus) (c' : Context (backend report) φ)
    (d' : Device ω) : Prop where
  drawn_iff : status = .drawn ↔ CanShow d.config c damage
  shown : status = .drawn → ∀ canvas surface, c.canvas = some canvas →
    canvas.surface = some surface → Shown canvas surface d c' d'
  untouched : status = .skipped → Untouched c d c' d'
  updated : ∀ fresh, ∃ c₁ d₁,
    (c.execute H fresh .flushLayerUpdates).runOn d = (.ok (none, c₁), d₁) ∧
    c₁.registry.pending = [] ∧ c'.registry = { c₁.registry with lastDrawn := some list }
  repeats : ∀ fresh, c'.execute H fresh .repeatLastDraw =
    c'.execute H fresh (.draw list Damage.whole.encode)
  counted : c'.stats =
    if status = .drawn then ⟨c.stats.drawn + 1, c.stats.skipped⟩
    else ⟨c.stats.drawn, c.stats.skipped + 1⟩

/-! ### Frames -/

section Frames

variable {c : Context (backend report) φ} {d : Device ω}

/-- A check against the budget changes nothing, and passes just below it. -/
theorem checkBudget_passes (what : String) (size : Viewport) :
    (checkBudget what size).Ensures d fun r d' =>
      d' = d ∧ (r = .ok () ↔ bytes size ≤ d.config.maxBufferBytes) := by
  unfold checkBudget Viewport.bufferBytes bytes
  by_cases counted : size.width * size.height * 4 < Viewport.addressLimit
  · rw [if_pos counted]
    refine ensures_bind.2 (ensures_get.2 ?_)
    by_cases above : d.config.maxBufferBytes < size.width * size.height * 4
    · simp only [if_pos above]
      refine ensures_pure.2 ⟨rfl, ?_⟩
      simp [Nat.not_le.2 above]
    · simp only [if_neg above]
      exact ensures_pure.2 ⟨rfl, fun _ => Nat.not_lt.1 above, fun _ => rfl⟩
  · rw [if_neg counted]
    exact ensures_throw.2 trivial

/-- A frame has a buffer just if there is one or the budget allows it. -/
theorem backOfSize_succeeds (canvas : Canvas) (size : Viewport) :
    (backOfSize canvas size).Ensures d fun r d' =>
      d' = d ∧ ((∃ target, r = .ok target) ↔ Bufferable d.config canvas size) := by
  unfold backOfSize Bufferable
  split
  case isTrue fits => exact ensures_pure.2 ⟨rfl, fun _ => .inl fits, fun _ => ⟨_, rfl⟩⟩
  case isFalse unfit =>
    refine ensures_bind.2 ((checkBudget_passes backBuffer size).mono ?_)
    rintro r d₁ ⟨rfl, passes⟩
    rcases r with e | ⟨⟩
    · have above : ¬bytes size ≤ d₁.config.maxBufferBytes := by
        intro within
        simpa using passes.2 within
      have short : ¬(HasSize canvas.back size ∨ bytes size ≤ d₁.config.maxBufferBytes) := by
        rintro (fits | within)
        · exact unfit fits
        · exact above within
      refine ensures_pure.2 ⟨rfl, ?_⟩
      simp [short]
    · have within := passes.1 rfl
      refine ensures_bind.2 ?_
      unfold newBuffer
      split
      · exact ensures_throw.2 trivial
      · exact ensures_pure.2 (ensures_pure.2 ⟨rfl, fun _ => .inr within, fun _ => ⟨_, rfl⟩⟩)

/-- On a bound canvas with pixels a frame begins just if it has a buffer; if not, the canvas is as
before. -/
theorem beginFrame_succeeds {canvas : Canvas} {surface : Surface} {size : Viewport}
    {box : PixelBox} (bound : canvas.surface = some surface) (sized : canvas.viewport = some size)
    (nonempty : size.isEmpty = false) :
    (beginFrame canvas box).Ensures d fun r d' => d' = d ∧
      ((Bufferable d.config canvas size ∧
          ∃ frame, r = (.ok (some frame), { canvas with back := .empty })) ∨
        ¬Bufferable d.config canvas size ∧ ∃ e, r = (.error e, canvas)) := by
  have visible : canvas.viewport.filter (!·.isEmpty) = some size := by
    rw [sized, Option.filter_some, nonempty]
    rfl
  unfold beginFrame
  simp only [visible, bound, Option.isNone_some, Bool.false_eq_true, if_false]
  refine ensures_bind.2 ((backOfSize_succeeds canvas size).mono ?_)
  rintro r d₁ ⟨rfl, succeeds⟩
  rcases r with e | target
  · have short : ¬Bufferable d₁.config canvas size := by
      intro bufferable
      obtain ⟨target, none⟩ := succeeds.2 bufferable
      cases none
    exact ensures_pure.2 ⟨rfl, .inr ⟨short, e, rfl⟩⟩
  · have bufferable := succeeds.1 ⟨target, rfl⟩
    exact ensures_bind.2 (ensures_get.2 (ensures_pure.2 ⟨rfl, .inl ⟨bufferable, _, rfl⟩⟩))

structure FrameEnds (c : Context (backend report) φ) (d : Device ω) (damage : Damage)
    (r : DrawStatus × Context (backend report) φ) (d' : Device ω) : Prop where
  drawn_iff : r.1 = .drawn ↔ CanShow d.config c damage
  shown : r.1 = .drawn → ∀ canvas surface, c.canvas = some canvas →
    canvas.surface = some surface → Shown canvas surface d r.2 d'
  skipped : r.1 = .skipped → r.2 = c ∧ d'.gallery = d.gallery

theorem FrameEnds.of_lacking {damage : Damage} {d' : Device ω}
    (lacks : ¬CanShow d.config c damage) (same : d'.gallery = d.gallery) :
    FrameEnds c d damage (.skipped, c) d' where
  drawn_iff := by simp [lacks]
  shown := nofun
  skipped _ := ⟨rfl, same⟩

theorem drawOnCanvas_ends {canvas : Canvas} {surface : Surface} {size : Viewport} {box : PixelBox}
    {damage : Damage} (list : DisplayList) (there : c.canvas = some canvas)
    (bound : canvas.surface = some surface) (sized : c.viewport = some size)
    (copied : canvas.viewport = some size) (nonempty : size.isEmpty = false)
    (reached : (d.config.capabilities.region damage).Meets size) :
    (c.drawOnCanvas (host report invoke perform) canvas size box list).Ensures d
      (FrameEnds c d damage) := by
  unfold Context.drawOnCanvas
  refine ensures_bind.2 ((beginFrame_succeeds bound copied nonempty).mono ?_)
  rintro _ d₁ ⟨rfl, ⟨bufferable, frame, rfl⟩ | ⟨short, e, rfl⟩⟩
  · have can : CanShow d₁.config c damage :=
      ⟨canvas, surface, size, there, bound, sized, nonempty, reached, bufferable⟩
    -- the items, callbacks included, show nothing; the end of the frame does
    refine ensures_bind.2 fun frame' d₂ run => ?_
    have same : d₂.gallery = d₁.gallery := congrArg Prod.snd ((drawItems_shown ..).of_run run)
    refine ensures_bind.2 (ensures_endFrame_bound bound (ensures_pure.2 ?_))
    refine ⟨by simp [can], fun _ found other there' bound' => ?_, fun missed => by cases missed⟩
    obtain rfl : canvas = found := Option.some.inj (there.symm.trans there')
    obtain rfl : surface = other := Option.some.inj (bound.symm.trans bound')
    exact ⟨frame'.target, rfl, same ▸ presented_present surface frame'.target d₂.gallery⟩
  · have lacks : ¬CanShow d₁.config c damage := by
      rintro ⟨found, surface', size', can⟩
      obtain rfl : canvas = found := Option.some.inj (there.symm.trans can.there)
      obtain rfl : size = size' := Option.some.inj (sized.symm.trans can.sized)
      exact short can.bufferable
    have unchanged : { c with canvas := some canvas } = c := by rw [← there]
    refine ensures_note_bind fun world => ensures_pure.2 ?_
    rw [unchanged]
    exact .of_lacking lacks rfl

theorem drawFrame_ends (coherent : Coherent c) (list : DisplayList) (damage : Damage) :
    (c.drawFrame (host report invoke perform) list damage).Ensures d (FrameEnds c d damage) := by
  unfold Context.drawFrame
  split
  case h_1 gone =>
    have lacks : ¬CanShow d.config c damage := by
      rintro ⟨canvas, surface, size, can⟩
      cases gone.symm.trans can.there
    exact ensures_pure.2 (.of_lacking lacks rfl)
  case h_2 canvas there =>
    obtain ⟨copied, binding⟩ := coherent canvas there
    split
    case isTrue unbound =>
      have lacks : ¬CanShow d.config c damage := by
        rintro ⟨found, surface, size, can⟩
        obtain rfl : canvas = found := Option.some.inj (there.symm.trans can.there)
        rw [binding, can.bound] at unbound
        cases unbound
      exact ensures_note_bind fun world => ensures_pure.2 (.of_lacking lacks rfl)
    case isFalse bound =>
      obtain ⟨surface, surface_eq⟩ : ∃ surface, canvas.surface = some surface := by
        rw [← Option.isSome_iff_exists, ← binding]
        simpa using bound
      split
      case h_1 unsized =>
        have lacks : ¬CanShow d.config c damage := by
          rintro ⟨found, surface', size, can⟩
          cases unsized.symm.trans can.sized
        exact ensures_note_bind fun world => ensures_pure.2 (.of_lacking lacks rfl)
      case h_2 size sized =>
        refine ensures_bind.2 (ensures_get.2 ?_)
        simp only
        split
        case h_1 missed =>
          have misses := Context.frameDamage_eq_none_iff.1 missed
          have lacks : ¬CanShow d.config c damage := by
            rintro ⟨found, surface', size', can⟩
            obtain rfl : size = size' := Option.some.inj (sized.symm.trans can.sized)
            exact misses can.reached
          exact ensures_pure.2 (.of_lacking lacks rfl)
        case h_2 box hit =>
          have reached : (d.config.capabilities.region damage).Meets size := by
            by_contra misses
            cases hit.symm.trans (Context.frameDamage_eq_none_iff.2 misses)
          exact drawOnCanvas_ends list there surface_eq sized (copied.trans sized)
            reached.nonempty reached

end Frames

/-! ### Draws -/

theorem canShow_congr {c c' : Context (backend report) φ} {config : Config} {damage : Damage}
    (canvas : c'.canvas = c.canvas) (viewport : c'.viewport = c.viewport) :
    CanShow config c' damage ↔ CanShow config c damage := by
  constructor
  · rintro ⟨found, surface, size, can⟩
    exact ⟨found, surface, size, canvas ▸ can.there, can.bound, viewport ▸ can.sized,
      can.nonempty, can.reached, can.bufferable⟩
  · rintro ⟨found, surface, size, can⟩
    exact ⟨found, surface, size, canvas ▸ can.there, can.bound, viewport ▸ can.sized,
      can.nonempty, can.reached, can.bufferable⟩

theorem draw_ends {c : Context (backend report) φ} {d : Device ω} (coherent : Coherent c)
    (list : DisplayList) (damage : Damage) :
    (c.draw (host report invoke perform) list damage).Ensures d fun r d' =>
      Concludes (host report invoke perform) c d list damage r.1 r.2 d' := by
  rw [Context.draw_eq]
  refine ensures_bind.2 fun c₁ d₁ applied => ?_
  -- the updates change nothing that a frame depends on
  have kept : d₁.shown = d.shown := (applyLayerUpdates_shown c).of_run applied
  have config : d₁.config = d.config := congrArg Prod.fst kept
  have gallery : d₁.gallery = d.gallery := congrArg Prod.snd kept
  obtain ⟨layers, same⟩ := Context.applyLayerUpdates_layers _ _ _ _ _ applied
  have canvas : (c₁.remember (some list)).canvas = c.canvas := by rw [same]; rfl
  have coherent₁ : Coherent (c₁.remember (some list)) := by
    rw [same]
    exact coherent
  refine ensures_bind.2 fun r d₂ framed => ensures_pure.2 ?_
  have ends := drawFrame_ends coherent₁ list damage _ _ framed
  have registry := Context.drawFrame_registry _ _ list damage d₁ _ _ framed
  have steady := drawFrame_steady list damage _ _ framed
  have stats : r.2.stats = c.stats := by
    rw [steady.stats, same]
    rfl
  refine ⟨?_, fun drawn found surface there bound => ?_, fun skipped => ?_, fun fresh => ?_,
    fun fresh => ?_, ?_⟩
  · rw [ends.drawn_iff, config]
    exact canShow_congr canvas (by rw [same]; rfl)
  · obtain ⟨back, held, presented⟩ := ends.shown drawn found surface (canvas.trans there) bound
    exact ⟨back, held, gallery ▸ presented⟩
  · obtain ⟨left, shown⟩ := ends.skipped skipped
    refine ⟨shown.trans gallery, ?_, ?_⟩
    · rw [← canvas, ← left]
    · change r.2.needsFullRedraw = c.needsFullRedraw
      rw [left, same]
      rfl
  · refine ⟨c₁, d₁, ?_, ?_, registry⟩
    · change (c.applyLayerUpdates (host report invoke perform) >>= _).runOn d = _
      rw [runOn_bind, applied]
      rfl
    · rw [same]
  · have last : r.2.registry.lastDrawn = some list := by rw [registry]; rfl
    simp only [Context.execute, last]
    rfl
  · change r.2.stats.count r.1 = _
    rw [stats]
    cases r.1 <;> rfl

/-- **A skipped draw shows nothing and loses nothing.** A draw on any context that arises is
answered; it is drawn just if there is a canvas with a surface, a size with pixels, a region on it
and a buffer within the budget. A frame that is drawn comes to the bound surface and to no other; it
is shown there, or dropped if the owner is reading just then. One that is skipped leaves the
surfaces, the canvas and what is to be repainted as they were. Either way the waiting updates are
done, the list is kept to be repeated, and the draw is counted. -/
theorem draw_concludes {c c' : Context (backend report) φ} {d d' : Device ω}
    {fresh : LayerHandle} {list : DisplayList} {record : DamageBox} {reply : Option Reply}
    (arisen : Arisen (host report invoke perform) c)
    (run : (c.execute (host report invoke perform) fresh (.draw list record)).runOn d =
      (.ok (reply, c'), d')) :
    ∃ status, reply = some (.drawn status) ∧
      Concludes (host report invoke perform) c d list (.decode record) status c' d' := by
  have drawn : (c.execute (host report invoke perform) fresh (.draw list record)).Ensures d
      fun r d' => ∃ status, r.1 = some (.drawn status) ∧
        Concludes (host report invoke perform) c d list (.decode record) status r.2 d' :=
    ensures_bind.2 ((draw_ends arisen.coherent list _).mono fun r d₁ ends =>
      ensures_pure.2 ⟨r.1, rfl, ends⟩)
  exact drawn _ _ run

theorem arisen_bound : Arisen idleHost bound := by
  have made : Arisen idleHost (.ofCanvas ⟨1⟩ ⟨false, none, none, .empty⟩) :=
    .made (d := .start .standard ()) rfl
  have shown : Arisen idleHost _ :=
    made.obeyed (d := .start .standard ()) ⟨1⟩ (.bindSurface ⟨0, "window", false⟩) rfl
  exact shown.obeyed (d := .start .standard ()) ⟨1⟩ (.setup ⟨1, 1⟩) rfl

/-- A window of one pixel that is cleared. -/
theorem draw_concludes_bound :
    Arisen idleHost bound ∧ ∃ c' d',
      (bound.execute idleHost ⟨1⟩ (.draw ⟨⟨1⟩, [⟨.clear .black, none⟩]⟩ ⟨0, 0, 1, 1⟩)).runOn
        (.start .standard ()) = (.ok (some (.drawn .drawn), c'), d') ∧
      Concludes idleHost bound (.start .standard ()) ⟨⟨1⟩, [⟨.clear .black, none⟩]⟩
        (.decode ⟨0, 0, 1, 1⟩) .drawn c' d' := by
  obtain ⟨c', d', run⟩ : ∃ c' d', (bound.execute idleHost ⟨1⟩
      (.draw ⟨⟨1⟩, [⟨.clear .black, none⟩]⟩ ⟨0, 0, 1, 1⟩)).runOn (.start .standard ()) =
        (.ok (some (.drawn .drawn), c'), d') := ⟨_, _, rfl⟩
  obtain ⟨status, reply, concludes⟩ := draw_concludes arisen_bound run
  obtain rfl : .drawn = status := by simpa using reply
  exact ⟨arisen_bound, c', d', run, concludes⟩

/-- A frame that comes while the owner is reading is drawn all the same, and the surface stays as it
was. And a box that no pixel of a window lies in is drawn, if it is the one that stands for
everything. -/
theorem drawn_unseen_or_missed :
    let window : Surface := ⟨0, "window", false⟩
    let list : DisplayList := ⟨⟨1⟩, [⟨.clear .black, none⟩]⟩
    Arisen idleHost bound ∧
      (∃ c' d', (bound.execute idleHost ⟨1⟩ (.draw list ⟨0, 0, 1, 1⟩)).runOn
          (.watched .standard (fun _ _ => true) ()) = (.ok (some (.drawn .drawn), c'), d') ∧
        d'.gallery.look window = ⟨none, 0, 1⟩) ∧
      ¬DamageBox.Meets ⟨-1, -1, -1, -1⟩ ⟨1, 1⟩ ∧
      ∃ c' d', (bound.execute idleHost ⟨1⟩ (.draw list ⟨-1, -1, -1, -1⟩)).runOn
          (.start .standard ()) = (.ok (some (.drawn .drawn), c'), d') := by
  intro window list
  refine ⟨arisen_bound, ⟨_, _, rfl, rfl⟩, ?_, _, _, rfl⟩
  exact Damage.clipTo_eq_none.1 (by decide)

end Headless

end RenderRelay

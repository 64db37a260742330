import RenderRelay.Proofs.Accord.Calls
import RenderRelay.Proofs.Isolation.Apart
import RenderRelay.Proofs.Recovery.Desk

/-!
Bindings, sizes and layers that are refused. A binding that fails has dropped the old one and its
frame; every binding does that first, so the next one does what it does alone (`call_again`). A size
is set before it can be refused, on the context and on its canvas, and the next size replaces it
(`setups_told`). What else a refused call does is reported and nothing more.
-/

namespace RenderRelay

open DeviceOp

variable {φ τ : Type}

/-! ### Calls on a live proxy -/

namespace Proxy

variable {σ : Type} {p : Proxy}

theorem plan_of_binds (live : p.lifecycle = .live) {call : Call Surface φ} {s : Surface}
    (binds : call.command.Binds s) : p.plan call = (p, .ask call.command) := by
  have enabled : p.isEnabled = true := by simp [isEnabled, live]
  unfold plan
  rw [if_pos enabled]
  cases call <;> first | rfl | exact absurd binds id

theorem plan_setup (live : p.lifecycle = .live) {size : Viewport} (other : p.viewport ≠ some size) :
    p.plan (.setup size : Call σ φ) =
      ({ p with viewport := some size }, .ask (.setup size)) := by
  simp [plan, isEnabled, live, planLive, other]

theorem plan_setup_again (live : p.lifecycle = .live) {size : Viewport}
    (again : p.viewport = some size) :
    p.plan (.setup size : Call σ φ) = (p, .answer (.ok .done)) := by
  simp [plan, isEnabled, live, planLive, again]

end Proxy

namespace Headless

variable {ω : Type} {report : LogRecord → ω → ω}
  {invoke : φ → Frame → FunctorInfo → StateM ω (Frame × Completion)}
  {perform : τ → StateM ω Completion}

/-! ### Reports -/

/-- Nothing was done on the device but that reports were made. -/
def Reported (report : LogRecord → ω → ω) (d d' : Device ω) : Prop :=
  ∃ records : List LogRecord,
    d' = { d with outside := records.foldl (fun world record => report record world) d.outside }

theorem Reported.refl (d : Device ω) : Reported report d d := ⟨[], rfl⟩

theorem Reported.noted {d d' : Device ω} (reported : Reported report d d') (record : LogRecord) :
    Reported report d { d' with outside := report record d'.outside } := by
  obtain ⟨records, rfl⟩ := reported
  exact ⟨records ++ [record], by simp⟩

theorem Reported.trans {d d' d'' : Device ω} (first : Reported report d d')
    (second : Reported report d' d'') : Reported report d d'' := by
  obtain ⟨records, rfl⟩ := first
  obtain ⟨records', rfl⟩ := second
  exact ⟨records ++ records', by simp⟩

/-- Two devices that one became by reports. -/
structure Told (report : LogRecord → ω → ω) (d₀ d d' : Device ω) : Prop where
  first : Reported report d₀ d
  second : Reported report d₀ d'

namespace Told

variable {d₀ d d' : Device ω}

theorem refl (d : Device ω) : Told report d d d := ⟨.refl d, .refl d⟩

theorem symm (told : Told report d₀ d d') : Told report d₀ d' d := ⟨told.second, told.first⟩

theorem config (told : Told report d₀ d d') : d'.config = d.config := by
  obtain ⟨⟨_, rfl⟩, _, rfl⟩ := told
  rfl

theorem noted (told : Told report d₀ d d') (record : LogRecord) :
    Told report d₀ { d with outside := report record d.outside }
      { d' with outside := report record d'.outside } :=
  ⟨told.first.noted record, told.second.noted record⟩

theorem backendNote (text : String) :
    Simulates (Told report d₀) (fun _ _ => True) (note report text) (note report text) :=
  simulates_modify fun _ _ told => told.noted _

theorem contextNote (name : String) (level : Level) (text : String) :
    Simulates (Told report d₀) (fun _ _ => True)
      (Context.note (host report invoke perform) name level text)
      (Context.note (host report invoke perform) name level text) :=
  simulates_modify fun _ _ told => told.noted _

theorem checkBudget (what : String) (size : Viewport) :
    Simulates (Told report d₀) (fun r r' => r' = r) (checkBudget what size)
      (checkBudget what size) := by
  unfold Headless.checkBudget
  cases size.bufferBytes with
  | error fault => exact simulates_throw _ _
  | ok bytes =>
    refine simulates_get.bind fun d d' told => ?_
    rw [told.config]
    simp only
    split <;> exact simulates_pure rfl

theorem createLayer (size : Viewport) :
    Simulates (Told report d₀) (fun r r' => r' = r) (createLayer size) (createLayer size) := by
  unfold Headless.createLayer
  split
  · exact simulates_pure rfl
  · refine (checkBudget _ size).bind ?_
    rintro _ (e | ⟨⟩) rfl
    · exact simulates_pure rfl
    · refine Simulates.bind (R := fun m m' => m' = m) ?_ ?_
      · unfold newBuffer
        split
        · exact simulates_throw _ _
        · exact simulates_pure rfl
      · rintro _ m rfl
        exact simulates_pure rfl

end Told

/-- The same result twice, of which an error leaves this. -/
def Leaves {α β : Type} (left : β) (r r' : Except RenderError α × β) : Prop :=
  r' = r ∧ ∀ e, r.1 = .error e → r.2 = left

theorem Leaves.lost {α β : Type} (left : β) (e : RenderError) :
    Leaves left ((.error e : Except RenderError α), left) (.error e, left) :=
  ⟨rfl, fun _ _ => rfl⟩

theorem Leaves.kept {α β : Type} (left : β) (a : α) (b : β) :
    Leaves left (.ok a, b) (.ok a, b) :=
  ⟨rfl, nofun⟩

theorem Told.bindSurface {d₀ : Device ω} (canvas : Canvas) (s : Surface)
    (size : Option Viewport) :
    Simulates (Told report d₀) (Leaves canvas.cleared) (bindSurface report canvas s size)
      (bindSurface report canvas s size) := by
  have bound := (@Told.backendNote _ report d₀ s!"headless surface '{s.label}' bound").bind
    fun _ _ _ => simulates_pure (Leaves.kept canvas.cleared () { canvas.cleared with surface := s })
  unfold Headless.bindSurface
  split
  · exact simulates_pure (.lost _ _)
  · cases size with
    | none => exact bound
    | some size =>
      refine (Told.checkBudget _ size).bind ?_
      rintro _ (e | ⟨⟩) rfl
      · exact simulates_pure (.lost _ e)
      · exact bound

/-! ### Contexts -/

variable {c : Context (backend report) φ}

def bindingLost (c : Context (backend report) φ) : Context (backend report) φ :=
  { c with canvas := c.canvas.map Canvas.cleared, surfaceBound := false }

def refit (c : Context (backend report) φ) (size : Option Viewport) (redraw : Bool) :
    Context (backend report) φ :=
  { c with
    canvas := c.canvas.map fun canvas => { canvas with viewport := size }
    viewport := size
    needsFullRedraw := redraw }

theorem refit_self (coherent : Coherent c) : refit c c.viewport c.needsFullRedraw = c := by
  have canvas : c.canvas.map (fun canvas => { canvas with viewport := c.viewport }) = c.canvas := by
    cases there : c.canvas with
    | none => rfl
    | some canvas =>
      have size : canvas.viewport = c.viewport := (coherent canvas there).1
      simp [← size]
  unfold refit
  rw [canvas]

theorem refit_coherent (coherent : Coherent c) (size : Option Viewport) (redraw : Bool) :
    Coherent (refit c size redraw) := by
  intro canvas there
  obtain ⟨before, there', rfl⟩ := Option.map_eq_some_iff.1 there
  exact ⟨rfl, (coherent before there').2⟩

/-- After a binding that failed, the next one does what it does without it. -/
theorem bind_again (there : c.canvas.isSome = true) (s : Surface) :
    (bindingLost c).bind (host report invoke perform) (some s) =
      c.bind (host report invoke perform) (some s) := by
  obtain ⟨h, name, _ | canvas, registry, size, bound, redraw, stats⟩ := c
  · simp at there
  · rfl

theorem bind_told {d₀ : Device ω} (there : c.canvas.isSome = true) (s : Surface) :
    Simulates (Told report d₀) (Leaves (bindingLost c))
      (c.bind (host report invoke perform) (some s))
      (c.bind (host report invoke perform) (some s)) := by
  obtain ⟨h, name, _ | canvas, registry, size, bound, redraw, stats⟩ := c
  · simp at there
  refine (Told.bindSurface canvas s size).bind ?_
  rintro ⟨result, canvas'⟩ _ ⟨rfl, lost⟩
  rcases result with e | ⟨⟩
  · obtain rfl := lost e rfl
    exact (Told.contextNote _ _ _).bind fun _ _ _ => simulates_pure (.lost _ _)
  · exact simulates_pure (.kept _ _ _)

theorem resize_told {d₀ : Device ω} (size₁ size₂ : Option Viewport) (redraw₁ redraw₂ : Bool)
    (size : Viewport) :
    Simulates (Told report d₀)
      (fun r r' => r'.1 = r.1 ∧
        r.2 = refit c (some size) (redraw₁ || size₁ ≠ some size) ∧
        r'.2 = refit c (some size) (redraw₂ || size₂ ≠ some size))
      ((refit c size₁ redraw₁).resize (host report invoke perform) size)
      ((refit c size₂ redraw₂).resize (host report invoke perform) size) := by
  obtain ⟨h, name, _ | canvas, registry, before, bound, redraw, stats⟩ := c
  · exact simulates_pure ⟨rfl, rfl, rfl⟩
  obtain ⟨translucent, surface, given, back⟩ := canvas
  have resize : Simulates (Told report d₀)
      (fun r r' => r' = r ∧ r.2 = ⟨translucent, surface, some size, back⟩)
      (resize ⟨translucent, surface, size₁, back⟩ size)
      (resize ⟨translucent, surface, size₂, back⟩ size) := by
    cases surface with
    | none => exact simulates_pure ⟨rfl, rfl⟩
    | some s =>
      refine (Told.checkBudget _ size).bind ?_
      rintro _ checked rfl
      exact simulates_pure ⟨rfl, rfl⟩
  refine resize.bind ?_
  rintro ⟨result, _⟩ _ ⟨rfl, rfl⟩
  rcases result with e | ⟨⟩
  · exact (Told.contextNote _ _ _).bind fun _ _ _ => simulates_pure ⟨rfl, rfl, rfl⟩
  · exact simulates_pure ⟨rfl, rfl, rfl⟩

theorem createLayer_told {d₀ : Device ω} (fresh : LayerHandle) (size : Viewport) :
    Simulates (Told report d₀) (Leaves c)
      (c.createLayer (host report invoke perform) fresh size)
      (c.createLayer (host report invoke perform) fresh size) := by
  unfold Context.createLayer
  split
  · exact simulates_pure (.lost _ _)
  · refine (Told.createLayer size).bind ?_
    rintro _ (e | layer) rfl
    · exact simulates_pure (.lost _ _)
    · exact (Told.contextNote _ _ _).bind fun _ _ _ => simulates_pure (.kept _ _ _)

/-! ### Commands -/

/-- The same reply twice, of which one that tells an error leaves this. -/
def RepliesLeave {α β : Type} (reply : Except RenderError α → Reply) (left : β)
    (r r' : Option Reply × β) : Prop :=
  r' = r ∧ ∃ result, r.1 = some (reply result) ∧ ∀ e, result = .error e → r.2 = left

theorem leaves_reply {α : Type} {d₀ : Device ω} {left : Context (backend report) φ} {name : String}
    {level : Level} {text : String}
    {op : DeviceOp (Device ω) (Except RenderError α × Context (backend report) φ)}
    (leaves : Simulates (Told report d₀) (Leaves left) op op)
    (reply : Except RenderError α → Reply) :
    Simulates (Told report d₀) (RepliesLeave reply left)
      (Context.note (host report invoke perform) name level text >>= fun _ =>
        op >>= fun r => pure (some (reply r.1), r.2))
      (Context.note (host report invoke perform) name level text >>= fun _ =>
        op >>= fun r => pure (some (reply r.1), r.2)) := by
  refine (Told.contextNote _ _ _).bind fun _ _ _ => leaves.bind ?_
  rintro ⟨result, c⟩ _ ⟨rfl, left⟩
  exact simulates_pure ⟨rfl, result, rfl, left⟩

theorem execute_binds {command : Command Surface φ} {s : Surface} (binds : command.Binds s)
    (c : Context (backend report) φ) (fresh : LayerHandle) :
    c.execute (host report invoke perform) fresh command =
      c.bind (host report invoke perform) (some s) >>= fun r =>
        pure (some (.surface r.1), r.2) := by
  cases command <;> first
    | exact absurd binds id
    | (obtain rfl := binds; rfl)

theorem dispatch_again (there : c.canvas.isSome = true) {command : Command Surface φ} {s : Surface}
    (binds : command.Binds s) (fresh : LayerHandle) :
    (bindingLost c).dispatch (host report invoke perform) fresh command =
      c.dispatch (host report invoke perform) fresh command := by
  unfold Context.dispatch
  rw [execute_binds binds, execute_binds binds, bind_again there]
  rfl

theorem dispatch_binds_told {d₀ : Device ω} (there : c.canvas.isSome = true)
    {command : Command Surface φ} {s : Surface} (binds : command.Binds s) (fresh : LayerHandle) :
    Simulates (Told report d₀) (RepliesLeave .surface (bindingLost c))
      (c.dispatch (host report invoke perform) fresh command)
      (c.dispatch (host report invoke perform) fresh command) := by
  unfold Context.dispatch
  rw [execute_binds binds]
  exact leaves_reply (bind_told there s) .surface

theorem dispatch_setup_told {d₀ : Device ω} (size₁ size₂ : Option Viewport) (redraw₁ redraw₂ : Bool)
    (fresh : LayerHandle) (size : Viewport) :
    Simulates (Told report d₀)
      (fun r r' => r'.1 = r.1 ∧ ∃ result, r.1 = some (.resized result) ∧
        r.2 = refit c (some size) (redraw₁ || size₁ ≠ some size) ∧
        r'.2 = refit c (some size) (redraw₂ || size₂ ≠ some size))
      ((refit c size₁ redraw₁).dispatch (host report invoke perform) fresh (.setup size))
      ((refit c size₂ redraw₂).dispatch (host report invoke perform) fresh (.setup size)) := by
  refine (Told.contextNote _ _ _).bind fun _ _ _ =>
    (resize_told size₁ size₂ redraw₁ redraw₂ size).bind ?_
  rintro ⟨_, _⟩ ⟨result, _⟩ ⟨rfl, rfl, rfl⟩
  exact simulates_pure ⟨rfl, result, rfl, rfl, rfl⟩

/-! ### Desks -/

/-- A live proxy and its context, which know of each other. -/
structure Attended (desk : Desk (backend report) φ) (c : Context (backend report) φ) : Prop where
  live : desk.proxy.lifecycle = .live
  there : desk.loop.contexts.get? desk.proxy.handle = some c
  canvas : c.canvas.isSome = true
  coherent : Coherent c
  viewport : ∀ size, desk.proxy.viewport = some size → c.viewport = some size

/-- The desk with another context of its proxy, and with another size noted. -/
def put (desk : Desk (backend report) φ) (noted : Option Viewport)
    (c : Context (backend report) φ) : Desk (backend report) φ :=
  ⟨{ desk.proxy with viewport := noted },
    ⟨desk.loop.contexts.insert desk.proxy.handle c, desk.loop.nextLayer⟩⟩

/-- What comes of a size that is asked for: it is set, and noted unless it was refused. -/
inductive Sized (desk : Desk (backend report) φ) (c : Context (backend report) φ) (size : Viewport)
    (redraw : Bool) : CallOutcome × Desk (backend report) φ → Prop
  | refused (e : RenderError) :
    Sized desk c size redraw (.error e, put desk none (refit c (some size) redraw))
  | accepted :
    Sized desk c size redraw (.ok .done, put desk (some size) (refit c (some size) redraw))

section Desks

variable {desk desk₁ desk₂ : Desk (backend report) φ} {d d₀ d₁ d₂ : Device ω}

@[simp] theorem put_put (noted noted' : Option Viewport) (c c' : Context (backend report) φ) :
    put (put desk noted' c') noted c = put desk noted c := by
  simp [put]

namespace Attended

theorem put_self (attended : Attended desk c) : put desk desk.proxy.viewport c = desk := by
  unfold put
  rw [Table.insert_get? attended.there]

/-! ### Bindings -/

theorem call_binds (attended : Attended desk c) {call : Call Surface φ} {s : Surface}
    (binds : call.command.Binds s) :
    desk.call (host report invoke perform) call =
      c.dispatch (host report invoke perform) desk.loop.nextLayer call.command >>= fun r =>
        pure ((desk.proxy.conclude call r.1).2, ⟨(desk.proxy.conclude call r.1).1,
          ⟨desk.loop.contexts.insert desk.proxy.handle r.2,
            RenderLoop.layerAfter desk.loop.nextLayer r.1⟩⟩) :=
  Desk.call_of_ask (Proxy.plan_of_binds attended.live binds) attended.there

/-- **After a binding that failed, the next one does what it does without it.** -/
theorem call_again (attended : Attended desk c) {call : Call Surface φ} {s : Surface}
    (binds : call.command.Binds s) :
    (put desk desk.proxy.viewport (bindingLost c)).call (host report invoke perform) call =
      desk.call (host report invoke perform) call := by
  have lost : Attended (put desk desk.proxy.viewport (bindingLost c)) (bindingLost c) := by
    refine ⟨attended.live, by simp [put, Table.get?_insert], ?_, ?_, attended.viewport⟩
    · simpa [bindingLost] using attended.canvas
    · intro canvas there
      obtain ⟨before, there', rfl⟩ := Option.map_eq_some_iff.1 there
      exact ⟨(attended.coherent before there').1, rfl⟩
  rw [lost.call_binds binds, attended.call_binds binds, dispatch_again attended.canvas binds]
  simp [put]

theorem binds_told (attended : Attended desk c) {call : Call Surface φ} {s : Surface}
    (binds : call.command.Binds s) :
    Simulates (Told report d₀) (Leaves (put desk desk.proxy.viewport (bindingLost c)))
      (desk.call (host report invoke perform) call)
      (desk.call (host report invoke perform) call) := by
  rw [attended.call_binds binds]
  refine (dispatch_binds_told attended.canvas binds _).bind ?_
  rintro ⟨_, c'⟩ _ ⟨rfl, result, rfl, lost⟩
  refine simulates_pure ⟨rfl, fun e failed => ?_⟩
  -- the reply is what the caller is told
  have told : (desk.proxy.conclude call (some (.surface result))).1 = desk.proxy ∧
      ∀ e, (desk.proxy.conclude call (some (.surface result))).2 = .error e →
        result = .error e := by
    cases call <;> first
      | exact absurd binds id
      | (rcases result with e | ⟨⟩ <;> simp [Proxy.conclude])
  obtain rfl : c' = bindingLost c := lost e (told.2 e failed)
  rw [told.1]
  rfl

/-! ### Layers -/

theorem createLayer_told (attended : Attended desk c) (size : Viewport) :
    Simulates (Told report d₀) (Leaves desk)
      (desk.call (host report invoke perform) (.createLayer size))
      (desk.call (host report invoke perform) (.createLayer size)) := by
  have enabled : desk.proxy.isEnabled = true := by simp [Proxy.isEnabled, attended.live]
  cases lacks : desk.proxy.lacks .onlyLayers with
  | some e =>
    have planned : desk.proxy.plan (.createLayer size : Call Surface φ) =
        (desk.proxy, .answer (.error e)) := by
      simp [Proxy.plan, enabled, Proxy.planLive, lacks]
    rw [Desk.call_of_answer planned]
    exact simulates_pure ⟨rfl, fun _ _ => rfl⟩
  | none =>
    have planned : desk.proxy.plan (.createLayer size : Call Surface φ) =
        (desk.proxy, .ask (.createLayer size)) := by
      simp [Proxy.plan, enabled, Proxy.planLive, lacks]
    have asked : Simulates (Told report d₀) (RepliesLeave .layer c)
        (c.dispatch (host report invoke perform) desk.loop.nextLayer (.createLayer size))
        (c.dispatch (host report invoke perform) desk.loop.nextLayer (.createLayer size)) :=
      leaves_reply (Headless.createLayer_told _ size) .layer
    rw [Desk.call_of_ask planned attended.there]
    refine asked.bind ?_
    rintro ⟨_, c'⟩ _ ⟨rfl, result, rfl, kept⟩
    refine simulates_pure ⟨rfl, fun e failed => ?_⟩
    cases result with
    | ok layer => simp [Proxy.conclude] at failed
    | error e =>
      obtain rfl : c' = c := kept e rfl
      exact attended.put_self

end Attended

/-! ### Sizes -/

theorem sized_conclude (desk : Desk (backend report) φ) (c : Context (backend report) φ)
    (size : Viewport) (redraw : Bool) (result : Except RenderError Unit) :
    let concluded := { desk.proxy with viewport := some size }.conclude
      (.setup size : Call Surface φ) (some (.resized result))
    Sized desk c size redraw (concluded.2, ⟨concluded.1,
      ⟨desk.loop.contexts.insert desk.proxy.handle (refit c (some size) redraw),
        RenderLoop.layerAfter desk.loop.nextLayer (some (.resized result))⟩⟩) := by
  rcases result with e | ⟨⟩
  · exact .refused e
  · exact .accepted

theorem call_setup {size : Viewport} (live : desk.proxy.lifecycle = .live)
    (there : desk.loop.contexts.get? desk.proxy.handle = some c)
    (other : desk.proxy.viewport ≠ some size) :
    desk.call (host report invoke perform) (.setup size) =
      c.dispatch (host report invoke perform) desk.loop.nextLayer (.setup size) >>= fun r =>
        let concluded := { desk.proxy with viewport := some size }.conclude
          (.setup size : Call Surface φ) r.1
        pure (concluded.2, ⟨concluded.1, ⟨desk.loop.contexts.insert desk.proxy.handle r.2,
          RenderLoop.layerAfter desk.loop.nextLayer r.1⟩⟩) :=
  Desk.call_of_ask (Proxy.plan_setup live other) there

/-- **A size that is asked for is set whatever there was before.** -/
theorem setups_told (live : desk.proxy.lifecycle = .live) {size : Viewport}
    {noted₁ noted₂ : Option Viewport} (other₁ : noted₁ ≠ some size) (other₂ : noted₂ ≠ some size)
    (size₁ size₂ : Option Viewport) (redraw₁ redraw₂ : Bool) :
    Simulates (Told report d₀)
      (fun r r' => r'.1 = r.1 ∧ Sized desk c size (redraw₁ || size₁ ≠ some size) r ∧
        Sized desk c size (redraw₂ || size₂ ≠ some size) r')
      ((put desk noted₁ (refit c size₁ redraw₁)).call (host report invoke perform) (.setup size))
      ((put desk noted₂ (refit c size₂ redraw₂)).call (host report invoke perform)
        (.setup size)) := by
  have there (noted before : Option Viewport) (redraw : Bool) :
      (put desk noted (refit c before redraw)).loop.contexts.get? desk.proxy.handle =
        some (refit c before redraw) := by
    simp [put, Table.get?_insert]
  have first : (put desk noted₁ (refit c size₁ redraw₁)).call (host report invoke perform)
    (.setup size) = _ := call_setup live (there ..) other₁
  have second : (put desk noted₂ (refit c size₂ redraw₂)).call (host report invoke perform)
    (.setup size) = _ := call_setup live (there ..) other₂
  rw [first, second]
  refine (dispatch_setup_told size₁ size₂ redraw₁ redraw₂ desk.loop.nextLayer size).bind ?_
  rintro ⟨_, _⟩ ⟨_, _⟩ ⟨rfl, result, rfl, rfl, rfl⟩
  have sized (redraw : Bool) := sized_conclude desk c size redraw result
  refine simulates_pure ⟨rfl, ?_, ?_⟩
  · simpa [put] using sized (redraw₁ || size₁ ≠ some size)
  · simpa [put] using sized (redraw₂ || size₂ ≠ some size)

/-! ### What is left -/

namespace Attended

/-- **A binding that failed, with one after it, leaves what that one leaves alone.** -/
theorem rebinds (attended : Attended desk c) {first second : Call Surface φ} {s t : Surface}
    (binds : first.command.Binds s) (binds' : second.command.Binds t) {e : RenderError}
    {outcome : CallOutcome}
    (failed : desk.Calls (host report invoke perform) d first (.error e) desk₁ d₁)
    (next : desk₁.Calls (host report invoke perform) d₁ second outcome desk₂ d₂) :
    ∃ d₃, desk.Calls (host report invoke perform) d second outcome desk₂ d₃ ∧
      Told report d d₂ d₃ := by
  obtain ⟨⟨-, lost⟩, told⟩ := (attended.binds_told binds).ensures (.refl d) _ _ failed
  obtain rfl := lost e rfl
  rw [Desk.Calls, attended.call_again binds'] at next
  obtain ⟨_, d₃, alone, ⟨rfl, -⟩, told'⟩ :=
    attended.binds_told binds' d₁ d ⟨told.first, .refl d⟩ _ _ next
  exact ⟨d₃, alone, told'⟩

theorem eq_put (attended : Attended desk c) :
    desk = put desk desk.proxy.viewport (refit c c.viewport c.needsFullRedraw) := by
  rw [refit_self attended.coherent, attended.put_self]

theorem setup_noted (attended : Attended desk c) {size : Viewport} {outcome : CallOutcome}
    (noted : desk.proxy.viewport = some size) :
    desk.Calls (host report invoke perform) d (.setup size) outcome desk₁ d₁ ↔
      outcome = .ok .done ∧ desk₁ = desk ∧ d₁ = d := by
  unfold Desk.Calls
  rw [Desk.call_of_answer (Proxy.plan_setup_again attended.live noted)]
  constructor
  · rintro ⟨⟩
    exact ⟨rfl, rfl, rfl⟩
  · rintro ⟨rfl, rfl, rfl⟩
    rfl

theorem setup_sized (attended : Attended desk c) {size : Viewport} {outcome : CallOutcome}
    {noted before : Option Viewport} {redraw : Bool} (other : noted ≠ some size)
    (call : (put desk noted (refit c before redraw)).Calls (host report invoke perform) d
      (.setup size) outcome desk₁ d₁) :
    Sized desk c size (redraw || before ≠ some size) (outcome, desk₁) ∧ Reported report d d₁ := by
  have set := (setups_told attended.live other other before before redraw redraw).ensures
    (.refl d) _ _ call
  exact ⟨set.1.2.1, set.2.first⟩

/-- **A size that is refused is set, and not noted**, and that is all. -/
theorem setup_refused (attended : Attended desk c) {size : Viewport} {e : RenderError}
    (failed : desk.Calls (host report invoke perform) d (.setup size) (.error e) desk₁ d₁) :
    desk₁ = put desk none (refit c (some size) (c.needsFullRedraw || c.viewport ≠ some size)) ∧
      Reported report d d₁ := by
  by_cases noted : desk.proxy.viewport = some size
  · exact absurd ((attended.setup_noted noted).1 failed).1 nofun
  · rw [attended.eq_put] at failed
    obtain ⟨⟨⟩, reported⟩ := attended.setup_sized noted failed
    exact ⟨rfl, reported⟩

/-- What one size makes stale, two of which the second is that one do too. -/
theorem stale_setup {before : Option Viewport} {size : Viewport} {redraw : Bool}
    (stale : c.needsFullRedraw = true ∨ c.viewport ≠ before → redraw = true)
    (why : c.needsFullRedraw = true ∨ c.viewport ≠ some size) :
    (redraw || before ≠ some size) = true := by
  by_cases same : before = some size
  · simp [stale (same ▸ why)]
  · simp [same]

/-- What refused sizes leave: the last of them is set, and none is noted. -/
theorem refuses (attended : Attended desk c)
    (refused : desk.Refuses (host report invoke perform) d desk₁ d₁) :
    desk₁ = desk ∧ d₁ = d ∨ ∃ size redraw, desk₁ = put desk none (refit c size redraw) ∧
      (c.needsFullRedraw = true ∨ c.viewport ≠ size → redraw = true) ∧ Reported report d d₁ := by
  induction refused with
  | refl => exact .inl ⟨rfl, rfl⟩
  | @step desk₁ desk₂ d₁ d₂ size e before failed ih =>
    refine .inr ⟨some size, ?_⟩
    obtain ⟨rfl, rfl⟩ | ⟨size₁, redraw, rfl, stale, reported⟩ := ih
    · obtain ⟨rfl, reported⟩ := attended.setup_refused failed
      exact ⟨_, rfl, by simp, reported⟩
    · obtain ⟨⟨⟩, reported'⟩ := attended.setup_sized (Option.some_ne_none size).symm failed
      exact ⟨_, rfl, stale_setup stale, reported.trans reported'⟩

theorem eq_put_of_noted (attended : Attended desk c) {size : Viewport}
    (noted : desk.proxy.viewport = some size) :
    put desk (some size) (refit c (some size) c.needsFullRedraw) = desk := by
  have same := attended.eq_put
  rw [noted, attended.viewport size noted] at same
  exact same.symm

/-- **A size that is accepted after refused ones leaves what it leaves alone**, but for what is to
be repainted. -/
theorem refits (attended : Attended desk c) {size : Viewport} {result : CallResult}
    (refused : desk.Refuses (host report invoke perform) d desk₁ d₁)
    (next : desk₁.Calls (host report invoke perform) d₁ (.setup size) (.ok result) desk₂ d₂) :
    ∃ redraw redraw' d₃, (redraw' = true → redraw = true) ∧
      desk₂ = put desk (some size) (refit c (some size) redraw) ∧
      desk.Calls (host report invoke perform) d (.setup size) (.ok result)
        (put desk (some size) (refit c (some size) redraw')) d₃ ∧
      Told report d d₂ d₃ := by
  have other : (none : Option Viewport) ≠ some size := (Option.some_ne_none size).symm
  have alone : desk.proxy.viewport = some size → _ = desk := attended.eq_put_of_noted
  obtain ⟨same, start⟩ | ⟨before, redraw, rfl, stale, reported⟩ := attended.refuses refused
  · rw [same, start] at next
    by_cases noted : desk.proxy.viewport = some size
    · obtain ⟨-, kept, still⟩ := (attended.setup_noted noted).1 next
      rw [kept, still] at next ⊢
      exact ⟨_, _, d, id, (alone noted).symm, (alone noted).symm ▸ next, .refl d⟩
    · have asked := next
      rw [attended.eq_put] at asked
      obtain ⟨⟨⟩, reported⟩ := attended.setup_sized noted asked
      exact ⟨_, _, d₂, id, rfl, next, reported, reported⟩
  · by_cases noted : desk.proxy.viewport = some size
    · obtain ⟨⟨⟩, reported'⟩ := attended.setup_sized other next
      refine ⟨_, c.needsFullRedraw, d, fun redraws => ?_, rfl, ?_, reported.trans reported',
        .refl d⟩
      · simp [stale (.inl redraws)]
      · rw [alone noted]
        exact (attended.setup_noted noted).2 ⟨rfl, rfl, rfl⟩
    · obtain ⟨⟨_, _⟩, d₃, run, ⟨rfl, sized, sized'⟩, told⟩ :=
        setups_told attended.live other noted before c.viewport redraw c.needsFullRedraw
          d₁ d ⟨reported, .refl d⟩ _ _ next
      cases sized
      cases sized'
      refine ⟨_, c.needsFullRedraw || c.viewport ≠ some size, d₃,
        fun redraws => stale_setup stale ?_, rfl, ?_, told⟩
      · simpa using redraws
      · rw [← attended.eq_put] at run
        exact run

end Attended

end Desks

end Headless

end RenderRelay

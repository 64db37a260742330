import RenderRelay.Backend.Headless
import RenderRelay.Engine.RenderLoop
import RenderRelay.Proofs.DeviceOp

/-!
Which allocations the headless backend grants. A buffer has four bytes to a pixel, and the budget is
meant to decide alone: what is above it is refused with an error, everything else is granted. That
is so exactly as long as the byte count fits the address space; from there on it is never compared
with the budget, and the command takes the render thread down (`allocation_as_promised_iff`).
-/

namespace RenderRelay

open DeviceOp

/-! ### How an allocation ends -/

inductive Fate where
  | granted
  | refused (e : RenderError)
  | fatal (fault : Fault)
  | untold
  deriving DecidableEq

namespace Fate

variable {δ α β : Type}

def ofResult : Except RenderError α → Fate
  | .ok _ => granted
  | .error e => refused e

def ofReply : Reply → Fate
  | .surface result => ofResult result
  | .resized result => ofResult result
  | .layer result => ofResult result
  | _ => untold

/-- What the answer to a proxy says after its message was handled. -/
def ofServed {σ φ : Type} {B : Backend σ} (h : ProxyHandle) : RenderLoop.Served B φ → Fate
  | .next _ (some ack) => if ack.handle = h then ofReply ack.reply else untold
  | _ => untold

/-- How an operation ends, if this is what its result says. -/
def of (verdict : α → Fate) (op : DeviceOp δ α) (d : δ) : Fate :=
  match (op.runOn d).1 with
  | .ok a => verdict a
  | .error fault => fatal fault

/-- It ends well exactly under a condition, and otherwise with the error that memory is short. -/
def AsPromised (fate : Fate) (good : Prop) : Prop :=
  (good → fate = granted) ∧ (¬good → ∃ what, fate = refused (.allocationFailure what))

@[simp] theorem of_pure (verdict : α → Fate) (a : α) (d : δ) :
    of verdict (pure a) d = verdict a := rfl

@[simp] theorem of_throw (verdict : α → Fate) (fault : Fault) (d : δ) :
    of verdict (throw fault) d = fatal fault := rfl

@[simp] theorem granted_asPromised {good : Prop} : granted.AsPromised good ↔ good := by
  simp [AsPromised, imp_false]

@[simp] theorem refused_asPromised {what : Shortage} {good : Prop} :
    (refused (.allocationFailure what)).AsPromised good ↔ ¬good := by
  simp [AsPromised, imp_false]

@[simp] theorem of_modify_bind (verdict : β → Fate) (f : δ → δ) (next : PUnit → DeviceOp δ β)
    (d : δ) : of verdict (modify f >>= next) d = of verdict (next ⟨⟩) (f d) := by
  simp [of, runOn_bind]

@[simp] theorem of_get_bind (verdict : β → Fate) (next : δ → DeviceOp δ β) (d : δ) :
    of verdict (get >>= next) d = of verdict (next d) d := by
  simp [of, runOn_bind]

/-- **What follows an operation decides nothing if it only passes on what the operation said.** -/
theorem of_bind (verdict : α → Fate) {verdict' : β → Fate} {op : DeviceOp δ α}
    {next : α → DeviceOp δ β} {d : δ} (passes : ∀ a d', of verdict' (next a) d' = verdict a) :
    of verdict' (op >>= next) d = of verdict op d := by
  unfold of
  rw [runOn_bind]
  rcases op.runOn d with ⟨fault | a, d'⟩
  · rfl
  · exact passes a d'

end Fate

/-! ### Commands -/

section Commands

variable {σ φ τ : Type} {B : Backend σ} (H : Host B φ τ)

/-- The thread hands on how the command ended, if it has the context. -/
theorem RenderLoop.serve_fate {loop : RenderLoop B φ} {h : ProxyHandle} {c : Context B φ}
    (known : loop.contexts.get? h = some c) (command : Command σ φ) (d : B.Device) :
    Fate.of (.ofServed h) (serve H loop (.message h (.run command))) d =
      Fate.of (fun r => r.1.elim .untold .ofReply) (c.execute H loop.nextLayer command)
        (H.report ⟨.trace, .context, s!"[{c.name}] {command.name}"⟩ d) := by
  unfold serve run
  simp only [known]
  refine (Fate.of_bind (fun r => r.1.elim .untold .ofReply) fun r d' => ?_).trans ?_
  · obtain ⟨reply | reply, loop'⟩ := r
    · rfl
    · simp [Fate.ofServed]
  · refine (Fate.of_bind (fun r => r.1.elim .untold .ofReply) fun r d' => ?_).trans ?_
    · simp
    · exact Fate.of_modify_bind ..

end Commands

namespace Headless

variable {ω : Type}

def bytes (size : Viewport) : Nat := size.width * size.height * 4

/-- How it ends when a buffer is checked against a budget, and what the end is below it. -/
def budgetFate (what : String) (size : Viewport) (budget : Nat) (below : Fate) : Fate :=
  if Viewport.addressLimit ≤ bytes size then .fatal .multiplyOverflow
  else if budget < bytes size then
    .refused (.allocationFailure (.buffer what size (bytes size) budget))
  else below

/-- **Checked against a budget, a buffer ends as promised exactly if its bytes can be counted** and
nothing goes wrong afterwards. -/
theorem budgetFate_asPromised_iff (what : String) (size : Viewport) (budget : Nat) (below : Fate) :
    (budgetFate what size budget below).AsPromised (bytes size ≤ budget) ↔
      bytes size < Viewport.addressLimit ∧ (bytes size ≤ budget → below = .granted) := by
  unfold budgetFate Fate.AsPromised
  split
  case isTrue large =>
    by_cases within : bytes size ≤ budget <;> simp [within, Nat.not_lt.2 large]
  case isFalse under =>
    split
    case isTrue above => simp [Nat.not_le.2 above, Nat.not_le.1 under]
    case isFalse within => simp [Nat.not_lt.1 within, Nat.not_le.1 under]

/-! ### The backend's operations -/

theorem checkBudget_fate (verdict : Except RenderError Unit → Fate)
    (refused : ∀ e, verdict (.error e) = .refused e) (what : String) (size : Viewport)
    (d : Device ω) :
    Fate.of verdict (checkBudget what size) d =
      budgetFate what size d.config.maxBufferBytes (verdict (.ok ())) := by
  unfold checkBudget Viewport.bufferBytes budgetFate bytes
  by_cases large : Viewport.addressLimit ≤ size.width * size.height * 4
  · rw [if_neg (Nat.not_lt.2 large), if_pos large]
    rfl
  · rw [if_pos (Nat.not_le.1 large), if_neg large]
    simp only [Fate.of_get_bind]
    split
    · exact refused _
    · rfl

/-- How it ends when an allocation below the budget is made. -/
def memoryFate (size : Viewport) : Fate :=
  if allocationLimit < bytes size then .fatal .capacityOverflow else .granted

theorem memoryFate_eq_granted_iff (size : Viewport) :
    memoryFate size = .granted ↔ bytes size ≤ allocationLimit := by
  unfold memoryFate
  split <;> simp_all

/-- How it ends after a check of the budget, and what the end is if that passes. -/
def checkedFate (below : Fate) : Except RenderError Unit → Fate
  | .error e => .refused e
  | .ok () => below

theorem createLayer_fate (size : Viewport) (d : Device ω) :
    Fate.of .ofResult (createLayer size) d =
      if size.isEmpty then .refused (.allocationFailure (.emptyLayer size))
      else budgetFate "layer" size d.config.maxBufferBytes (memoryFate size) := by
  unfold createLayer
  split
  · rfl
  · refine (Fate.of_bind (checkedFate (memoryFate size)) fun checked d' => ?_).trans
      (checkBudget_fate _ (fun _ => rfl) "layer" size d)
    rcases checked with e | ⟨⟩
    · rfl
    · unfold newBuffer checkedFate memoryFate bytes
      by_cases large : allocationLimit < size.width * size.height * 4
      · simp only [large, if_true]
        rfl
      · simp only [large, if_false]
        rfl

theorem resize_fate (canvas : Canvas) (viewport : Viewport) (d : Device ω) :
    Fate.of (fun r => .ofResult r.1) (resize canvas viewport) d =
      if canvas.surface.isSome then
        budgetFate backBuffer viewport d.config.maxBufferBytes .granted
      else .granted := by
  unfold resize
  change Fate.of _ (if canvas.surface.isSome then _ else _) d = _
  split
  · exact (Fate.of_bind .ofResult fun r d' => rfl).trans
      (checkBudget_fate _ (fun _ => rfl) _ _ d)
  · rfl

variable (report : LogRecord → ω → ω)

theorem bindSurface_fate (canvas : Canvas) (surface : Surface) (viewport : Option Viewport)
    (d : Device ω) :
    Fate.of (fun r => .ofResult r.1) (bindSurface report canvas surface viewport) d =
      if surface.unallocatable then
        .refused (.allocationFailure (.surfaceBuffers surface.label))
      else viewport.elim .granted (budgetFate backBuffer · d.config.maxBufferBytes .granted) := by
  unfold bindSurface
  split
  · rfl
  · cases viewport with
    | none => rfl
    | some size =>
      refine (Fate.of_bind .ofResult fun checked d' => ?_).trans
        (checkBudget_fate _ (fun _ => rfl) backBuffer size d)
      cases checked with
      | error e => rfl
      | ok => exact Fate.of_modify_bind ..

/-! ### The commands on the render thread -/

section Commands

variable {φ τ : Type} {report : LogRecord → ω → ω}
  {invoke : φ → Frame → FunctorInfo → StateM ω (Frame × Completion)}
  {perform : τ → StateM ω Completion}
  {c : Context (backend report) φ} {canvas : Canvas} (fresh : LayerHandle) (d : Device ω)

theorem execute_createLayer_fate (live : c.canvas = some canvas) (size : Viewport) :
    Fate.of (fun r => r.1.elim .untold .ofReply)
      (c.execute (host report invoke perform) fresh (.createLayer size)) d =
      Fate.of .ofResult (createLayer size) d := by
  unfold Context.execute
  refine (Fate.of_bind (fun r => .ofResult r.1) fun r d' => rfl).trans ?_
  unfold Context.createLayer
  simp only [live]
  refine Fate.of_bind _ fun made d' => ?_
  cases made with
  | error e => rfl
  | ok layer => exact Fate.of_modify_bind ..

theorem execute_setup_fate (live : c.canvas = some canvas) (size : Viewport) :
    Fate.of (fun r => r.1.elim .untold .ofReply)
      (c.execute (host report invoke perform) fresh (.setup size)) d =
      Fate.of (fun r => .ofResult r.1) (resize canvas size) d := by
  unfold Context.execute
  refine (Fate.of_bind (fun r => .ofResult r.1) fun r d' => rfl).trans ?_
  unfold Context.resize
  simp only [live]
  refine Fate.of_bind _ fun r d' => ?_
  obtain ⟨e | ⟨⟩, canvas'⟩ := r
  · exact Fate.of_modify_bind ..
  · rfl

theorem execute_bind_fate {surface : Surface} {command : Command Surface φ}
    (binds : command = .bindSurface surface ∨ command = .updateSurface (some surface)) :
    Fate.of (fun r => r.1.elim .untold .ofReply)
      (c.execute (host report invoke perform) fresh command) d =
      Fate.of (fun r => .ofResult r.1) (c.bind (host report invoke perform) (some surface)) d := by
  rcases binds with rfl | rfl
  · exact Fate.of_bind _ fun r d' => rfl
  · exact Fate.of_bind _ fun r d' => rfl

theorem bind_fate (live : c.canvas = some canvas) (surface : Surface) :
    Fate.of (fun r => .ofResult r.1) (c.bind (host report invoke perform) (some surface)) d =
      Fate.of (fun r => .ofResult r.1) (bindSurface report canvas surface c.viewport) d := by
  unfold Context.bind
  simp only [live]
  refine Fate.of_bind _ fun r d' => ?_
  obtain ⟨e | ⟨⟩, canvas'⟩ := r
  · exact Fate.of_modify_bind ..
  · rfl

/-- **The budget decides exactly as long as bytes can be counted.** A context that is not destroyed
gets a layer exactly if it has pixels and is within the budget; setting a size fails exactly if a
surface is bound and the size is above the budget; binding a surface fails exactly if its buffers
cannot be had or the size that is set is above the budget. Every failure is the error that memory is
short, given as the reply. All of this holds of a command exactly if the bytes that it checks fit
the address space, and a layer's also the largest piece of memory; if not, there is no reply. -/
theorem allocation_as_promised_iff {loop : RenderLoop (backend report) φ} {h : ProxyHandle}
    (known : loop.contexts.get? h = some c) (live : c.canvas = some canvas) (d : Device ω) :
    let budget := d.config.maxBufferBytes
    let after (command : Command Surface φ) : Fate :=
      .of (.ofServed h) (loop.serve (host report invoke perform) (.message h (.run command))) d
    (∀ size, (after (.createLayer size)).AsPromised (¬size.isEmpty ∧ bytes size ≤ budget) ↔
      size.isEmpty ∨ bytes size < Viewport.addressLimit ∧
        (bytes size ≤ budget → bytes size ≤ allocationLimit)) ∧
    (∀ size, (after (.setup size)).AsPromised (¬(canvas.surface.isSome ∧ budget < bytes size)) ↔
      (canvas.surface.isSome → bytes size < Viewport.addressLimit)) ∧
    ∀ surface command, command = .bindSurface surface ∨ command = .updateSurface (some surface) →
      ((after command).AsPromised
          (¬(surface.unallocatable ∨ ∃ size, c.viewport = some size ∧ budget < bytes size)) ↔
        (¬surface.unallocatable → ∀ size, c.viewport = some size →
          bytes size < Viewport.addressLimit)) := by
  intro budget after
  refine ⟨fun size => ?_, fun size => ?_, fun surface command binds => ?_⟩
  · have fate : after (.createLayer size) =
        if size.isEmpty then .refused (.allocationFailure (.emptyLayer size))
        else budgetFate "layer" size budget (memoryFate size) :=
      (RenderLoop.serve_fate _ known _ d).trans <|
        (execute_createLayer_fate _ _ live size).trans (createLayer_fate size _)
    rw [fate]
    by_cases empty : size.isEmpty = true
    · simp [empty]
    · have promised := budgetFate_asPromised_iff "layer" size budget (memoryFate size)
      rw [memoryFate_eq_granted_iff] at promised
      simpa [empty] using promised
  · have fate : after (.setup size) =
        if canvas.surface.isSome then budgetFate backBuffer size budget .granted else .granted :=
      (RenderLoop.serve_fate _ known _ d).trans <|
        (execute_setup_fate _ _ live size).trans (resize_fate canvas size _)
    rw [fate]
    by_cases bound : canvas.surface.isSome = true
    · simpa [bound] using budgetFate_asPromised_iff backBuffer size budget .granted
    · simp [bound]
  · have fate : after command =
        if surface.unallocatable then .refused (.allocationFailure (.surfaceBuffers surface.label))
        else c.viewport.elim .granted (budgetFate backBuffer · budget .granted) := by
      refine (RenderLoop.serve_fate _ known _ d).trans ?_
      refine (execute_bind_fate _ _ binds).trans ?_
      exact (bind_fate _ live surface).trans (bindSurface_fate report canvas surface _ _)
    rw [fate]
    by_cases refused : surface.unallocatable = true
    · simp [refused]
    · cases c.viewport with
      | none => simp [refused]
      | some size => simpa [refused] using budgetFate_asPromised_iff backBuffer size budget .granted

/-- A thread with one context, that nothing was done with. -/
def oneContext : RenderLoop (backend fun _ (_ : Unit) => ()) Unit :=
  ⟨Table.empty.insert ⟨1⟩ (.ofCanvas ⟨1⟩ ⟨false, none, none, .empty⟩), ⟨1⟩⟩

/-- A layer of four by four pixels is granted. -/
theorem small_layer_granted :
    (Fate.of (.ofServed ⟨1⟩)
      (oneContext.serve idleHost (.message ⟨1⟩ (.run (.createLayer ⟨4, 4⟩))))
      (.start .standard ())).AsPromised
        (¬(⟨4, 4⟩ : Viewport).isEmpty ∧ bytes ⟨4, 4⟩ ≤ 268435456) := by
  have known : oneContext.contexts.get? ⟨1⟩ = some (.ofCanvas ⟨1⟩ ⟨false, none, none, .empty⟩) :=
    rfl
  have fits : bytes ⟨4, 4⟩ < Viewport.addressLimit ∧
      (bytes ⟨4, 4⟩ ≤ 268435456 → bytes ⟨4, 4⟩ ≤ allocationLimit) := by decide
  exact ((allocation_as_promised_iff known rfl (.start .standard ())).1 ⟨4, 4⟩).2 (.inr fits)

/-- The bytes of a layer of this size are the first that cannot be counted. It is far above the
budget, and still it is not refused. -/
theorem uncountable_layer_is_fatal :
    let fate : Fate := .of (.ofServed ⟨1⟩)
      (oneContext.serve idleHost (.message ⟨1⟩ (.run (.createLayer ⟨0x80000000, 0x80000000⟩))))
      (.start .standard ())
    fate = .fatal .multiplyOverflow ∧
      ¬fate.AsPromised (¬(⟨0x80000000, 0x80000000⟩ : Viewport).isEmpty ∧
        bytes ⟨0x80000000, 0x80000000⟩ ≤ 268435456) := by
  intro fate
  have fatal : fate = .fatal .multiplyOverflow := rfl
  refine ⟨fatal, fun promised => ?_⟩
  obtain ⟨what, refused⟩ := promised.2 (by decide)
  rw [fatal] at refused
  simp at refused

end Commands

end Headless

end RenderRelay

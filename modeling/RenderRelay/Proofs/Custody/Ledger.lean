import Mathlib.Data.List.Count
import RenderRelay.Backend
import RenderRelay.Proofs.DeviceOp

/-!
A backend with a ledger. Every canvas and every layer that it makes gets a number of its own and
keeps it when it is handed out and taken back; the ledger tells what the backend was asked with
which object. Otherwise nothing changes: each operation is the inner backend's.
-/

namespace RenderRelay

/-- Something that a backend makes and gets back. -/
inductive Object where
  | canvas (number : Nat)
  | layer (number : Nat)
  deriving DecidableEq

def Object.number : Object → Nat
  | canvas number => number
  | layer number => number

/-- What a backend was asked with an object. -/
inductive Deed where
  | made
  | used
  | released
  deriving DecidableEq

structure Numbered (α : Type) where
  value : α
  number : Nat

structure Ledgered (δ : Type) where
  inner : δ
  made : Nat
  ledger : List (Object × Deed)

namespace Ledgered

variable {δ α : Type}

def start (inner : δ) : Ledgered δ := ⟨inner, 0, []⟩

def enter (object : Object) (deed : Deed) (d : Ledgered δ) : Ledgered δ :=
  { d with ledger := d.ledger ++ [(object, deed)] }

def history (d : Ledgered δ) (object : Object) : List Deed :=
  d.ledger.filterMap fun e => if e.1 = object then some e.2 else none

def within (op : DeviceOp δ α) : DeviceOp (Ledgered δ) α :=
  ExceptT.mk fun d => ((op.runOn d.inner).1, { d with inner := (op.runOn d.inner).2 })

def doing (object : Object) (deed : Deed) (op : DeviceOp δ α) : DeviceOp (Ledgered δ) α := do
  modify (enter object deed)
  within op

def foreign (work : StateM δ α) : StateM (Ledgered δ) α := fun d =>
  ((work d.inner).1, { d with inner := (work d.inner).2 })

/-- The number of a new object, which is entered as made. -/
def register (kind : Nat → Object) : DeviceOp (Ledgered δ) Nat := do
  let d ← get
  set { d.enter (kind d.made) .made with made := d.made + 1 }
  return d.made

def numbered (kind : Nat → Object) (made : Except RenderError α) :
    DeviceOp (Ledgered δ) (Except RenderError (Numbered α)) :=
  match made with
  | .error e => pure (.error e)
  | .ok value => do
    let number ← register kind
    return .ok ⟨value, number⟩

end Ledgered

open Ledgered in
@[reducible] def Backend.ledgered {σ : Type} (B : Backend σ) : Backend σ where
  Device := Ledgered B.Device
  Canvas := Numbered B.Canvas
  Layer := Numbered B.Layer
  Frame := B.Frame
  name := B.name
  capabilities d := B.capabilities d.inner
  createCanvas translucent := do
    let made ← within (B.createCanvas translucent)
    numbered .canvas made
  bindSurface canvas surface viewport := do
    let r ← doing (.canvas canvas.number) .used (B.bindSurface canvas.value surface viewport)
    return (r.1, { canvas with value := r.2 })
  unbindSurface canvas := do
    let value ← doing (.canvas canvas.number) .used (B.unbindSurface canvas.value)
    return { canvas with value }
  resize canvas viewport := do
    let r ← doing (.canvas canvas.number) .used (B.resize canvas.value viewport)
    return (r.1, { canvas with value := r.2 })
  beginFrame canvas damage := do
    let r ← doing (.canvas canvas.number) .used (B.beginFrame canvas.value damage)
    return (r.1, { canvas with value := r.2 })
  drawOp frame item := within (B.drawOp frame item)
  flush frame := within (B.flush frame)
  endFrame canvas frame := do
    let r ← doing (.canvas canvas.number) .used (B.endFrame canvas.value frame)
    return (r.1, { canvas with value := r.2 })
  createLayer size := do
    let made ← within (B.createLayer size)
    numbered .layer made
  beginLayerFrame layer := do
    let r ← doing (.layer layer.number) .used (B.beginLayerFrame layer.value)
    return (r.1, { layer with value := r.2 })
  endLayerFrame layer frame := do
    let value ← doing (.layer layer.number) .used (B.endLayerFrame layer.value frame)
    return { layer with value }
  drawLayer frame layer dst clip :=
    doing (.layer layer.number) .used (B.drawLayer frame layer.value dst clip)
  copyLayer layer := doing (.layer layer.number) .used (B.copyLayer layer.value)
  destroyLayer layer := doing (.layer layer.number) .released (B.destroyLayer layer.value)
  trimCaches canvas := do
    let value ← doing (.canvas canvas.number) .used (B.trimCaches canvas.value)
    return { canvas with value }
  destroyCanvas canvas := doing (.canvas canvas.number) .released (B.destroyCanvas canvas.value)

open Ledgered in
def Host.ledgered {σ φ τ : Type} {B : Backend σ} (H : Host B φ τ) : Host B.ledgered φ τ where
  invoke callback frame info := foreign (H.invoke callback frame info)
  perform task := foreign (H.perform task)
  report record d := { d with inner := H.report record d.inner }

namespace Ledgered

open DeviceOp

variable {δ α : Type} {d : Ledgered δ}

@[simp] theorem runOn_within (op : DeviceOp δ α) (d : Ledgered δ) :
    (within op).runOn d = ((op.runOn d.inner).1, { d with inner := (op.runOn d.inner).2 }) := rfl

@[simp] theorem ensures_within {op : DeviceOp δ α} {Q : α → Ledgered δ → Prop} :
    (within op).Ensures d Q ↔ op.Ensures d.inner fun a inner => Q a { d with inner } := by
  constructor
  · intro ensures a inner run
    exact ensures a _ (by simp [run])
  · intro ensures a d' run
    rcases result : op.runOn d.inner with ⟨fault | a', inner⟩
    · simp [result] at run
    · obtain ⟨rfl, rfl⟩ : a' = a ∧ { d with inner } = d' := by simpa [result] using run
      exact ensures _ _ result

theorem ensures_doing {object : Object} {deed : Deed} {op : DeviceOp δ α}
    {Q : α → Ledgered δ → Prop} (done : ∀ a inner, Q a { d.enter object deed with inner }) :
    (doing object deed op).Ensures d Q :=
  ensures_bind.2 (ensures_modify.2 (ensures_within.2 (.of_forall done)))

theorem ensures_register {kind : Nat → Object} {Q : Nat → Ledgered δ → Prop} :
    (register kind).Ensures d Q ↔
      Q d.made { d.enter (kind d.made) .made with made := d.made + 1 } := by
  unfold register
  simp only [ensures_bind, ensures_get, ensures_set, ensures_pure]

/-! ### Histories -/

theorem history_enter (object other : Object) (deed : Deed) :
    (d.enter object deed).history other =
      d.history other ++ if object = other then [deed] else [] := by
  unfold history enter
  rw [List.filterMap_append]
  by_cases same : object = other <;> simp [same]

def Live (deeds : List Deed) : Prop := ∃ n, deeds = .made :: List.replicate n .used

/-- An object that was made, used, released, and not touched any more. -/
def Released (deeds : List Deed) : Prop :=
  ∃ n, deeds = .made :: (List.replicate n .used ++ [.released])

theorem Live.used {deeds : List Deed} (live : Live deeds) : Live (deeds ++ [.used]) := by
  obtain ⟨n, rfl⟩ := live
  exact ⟨n + 1, by rw [List.cons_append, ← List.replicate_succ']⟩

theorem Live.released {deeds : List Deed} (live : Live deeds) :
    Released (deeds ++ [.released]) := by
  obtain ⟨n, rfl⟩ := live
  exact ⟨n, rfl⟩

end Ledgered

end RenderRelay

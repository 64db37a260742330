import Mathlib.Data.List.Forall2
import Mathlib.Logic.Function.Basic
import RenderRelay.Engine.RenderLoop

/-!
Other names for layers. Names of layers stand in commands, in the lists that are drawn, in updates
that wait and in one reply; the tables of a registry go under them. `Table.Alike` relates tables
entry by entry, the keys of one being the new names of the other's.
-/

namespace RenderRelay

/-! ### Names in what is sent -/

section Sent

variable {σ φ τ : Type} (ρ : LayerHandle → LayerHandle)

def DrawOp.rename : DrawOp → DrawOp
  | layer handle dst => .layer (ρ handle) dst
  | op => op

def DrawItem.rename (item : DrawItem) : DrawItem := { item with op := item.op.rename ρ }

def DisplayList.rename (list : DisplayList) : DisplayList :=
  { list with items := list.items.map (DrawItem.rename ρ) }

def Command.rename : Command σ φ → Command σ φ
  | draw list record => .draw (list.rename ρ) record
  | pushLayerUpdate layer list => .pushLayerUpdate (ρ layer) (list.rename ρ)
  | copyLayer layer => .copyLayer (ρ layer)
  | destroyLayer layer => .destroyLayer (ρ layer)
  | command => command

def Message.rename : Message σ φ → Message σ φ
  | run command => .run (command.rename ρ)
  | message => message

def Reply.rename : Reply → Reply
  | layer (.ok handle) => .layer (.ok (ρ handle))
  | reply => reply

def Acknowledgement.rename (ack : Acknowledgement) : Acknowledgement :=
  { ack with reply := ack.reply.rename ρ }

@[simp] theorem Command.rename_name (command : Command σ φ) :
    (command.rename ρ).name = command.name := by
  cases command <;> rfl

/-! ### The same names -/

@[simp] theorem DrawItem.rename_self : DrawItem.rename (fun h => h) = fun item => item := by
  funext ⟨op, clip⟩
  cases op <;> rfl

@[simp] theorem DisplayList.rename_self (list : DisplayList) : list.rename (fun h => h) = list := by
  simp [DisplayList.rename]

@[simp] theorem Command.rename_self (command : Command σ φ) :
    command.rename (fun h => h) = command := by
  cases command <;> simp [Command.rename]

@[simp] theorem Reply.rename_self (reply : Reply) : reply.rename (fun h => h) = reply := by
  rcases reply with _ | _ | _ | _ | _ | (_ | _) | _ | _ <;> rfl

/-! ### Waiting updates -/

def renameUpdate (update : LayerHandle × DisplayList) : LayerHandle × DisplayList :=
  (ρ update.1, update.2.rename ρ)

@[simp] theorem renameUpdate_self : renameUpdate (fun h => h) = fun update => update := by
  funext update
  simp [renameUpdate]

variable {ρ}

theorem enqueue_map_rename (injective : Function.Injective ρ) (handle : LayerHandle)
    (list : DisplayList) (pending : List (LayerHandle × DisplayList)) :
    Registry.enqueue (ρ handle) (list.rename ρ) (pending.map (renameUpdate ρ)) =
      (Registry.enqueue handle list pending).map (renameUpdate ρ) := by
  induction pending with
  | nil => rfl
  | cons update rest ih =>
    by_cases same : update.1 = handle
    · simp [Registry.enqueue, renameUpdate, same]
    · have other : ρ update.1 ≠ ρ handle := fun equal => same (injective equal)
      simp [Registry.enqueue, renameUpdate, same, other, ← ih]

theorem filter_map_rename (injective : Function.Injective ρ) (handle : LayerHandle)
    (pending : List (LayerHandle × DisplayList)) :
    (pending.map (renameUpdate ρ)).filter (fun update => update.1 ≠ ρ handle) =
      (pending.filter fun update => update.1 ≠ handle).map (renameUpdate ρ) := by
  rw [List.filter_map]
  congr 1
  refine List.filter_congr fun update _ => ?_
  simp [renameUpdate, injective.eq_iff]

end Sent

/-! ### Tables -/

namespace Table

variable {κ α β : Type}

/-- The entries stand in the same order, the second table's under the new names, and `R` relates
their values. -/
def Alike (name : κ → κ) (R : κ → α → β → Prop) (t : Table κ α) (t' : Table κ β) : Prop :=
  List.Forall₂ (fun e e' => e'.1 = name e.1 ∧ R e.1 e.2 e'.2) t.entries t'.entries

namespace Alike

variable {name : κ → κ} {R : κ → α → β → Prop} {t : Table κ α} {t' : Table κ β}

theorem empty : Alike name R .empty .empty := .nil

theorem size (alike : Alike name R t t') : t'.size = t.size :=
  (List.Forall₂.length_eq alike).symm

variable [DecidableEq κ]

theorem get? (alike : Alike name R t t') (injective : Function.Injective name) (k : κ) :
    Option.Rel (R k) (t.get? k) (t'.get? (name k)) := by
  unfold Alike at alike
  unfold Table.get?
  generalize t.entries = l at alike
  generalize t'.entries = l' at alike
  induction alike with
  | nil => exact .none
  | @cons e e' l l' rel _ ih =>
    obtain ⟨k₀, a⟩ := e
    obtain ⟨k₁, b⟩ := e'
    obtain ⟨rfl, rel⟩ := rel
    by_cases same : k₀ = k
    · subst same
      simpa [find?] using Option.Rel.some rel
    · have other : name k₀ ≠ name k := fun equal => same (injective equal)
      simpa [find?, same, other] using ih

theorem insert (alike : Alike name R t t') (injective : Function.Injective name) {k : κ} {a : α}
    {b : β} (rel : R k a b) : Alike name R (t.insert k a) (t'.insert (name k) b) := by
  unfold Alike Table.insert at *
  simp only
  generalize t.entries = l at alike
  generalize t'.entries = l' at alike
  induction alike with
  | nil => exact .cons ⟨rfl, rel⟩ .nil
  | @cons e e' l l' first rest ih =>
    obtain ⟨k₀, a₀⟩ := e
    obtain ⟨k₁, b₀⟩ := e'
    obtain ⟨rfl, first⟩ := first
    by_cases same : k₀ = k
    · subst same
      simpa [put] using ⟨rel, rest⟩
    · have other : name k₀ ≠ name k := fun equal => same (injective equal)
      simpa [put, same, other] using ⟨first, ih⟩

theorem erase (alike : Alike name R t t') (injective : Function.Injective name) (k : κ) :
    Alike name R (t.erase k) (t'.erase (name k)) := by
  unfold Alike Table.erase at *
  simp only
  generalize t.entries = l at alike
  generalize t'.entries = l' at alike
  induction alike with
  | nil => exact .nil
  | @cons e e' l l' first rest ih =>
    obtain ⟨k₀, a₀⟩ := e
    obtain ⟨k₁, b₀⟩ := e'
    obtain ⟨rfl, first⟩ := first
    by_cases same : k₀ = k
    · subst same
      simpa using ih
    · have other : name k₀ ≠ name k := fun equal => same (injective equal)
      simpa [same, other] using And.intro first (by simpa using ih)

end Alike

end Table

end RenderRelay

import RenderRelay.Proofs.Correspondence.Invariant
import RenderRelay.Proofs.Custody.Holding
import RenderRelay.Proofs.Custody.Ledger

/-!
The ledger agrees with what is held. An object is held by a context as its canvas or among its
layers; `Accounts` says that the objects that were made and not released are exactly those that are
held, each once. The lemmas speak of one holder with what `others` hold beside it, so that they need
not look at the others.
-/

namespace RenderRelay

open DeviceOp Ledgered

/-! ### Accounts -/

/-- The ledger's open entries are what is held. -/
structure Accounts {δ : Type} (d : Ledgered δ) (held : List Object) : Prop where
  nodup : held.Nodup
  live : ∀ o ∈ held, Live (d.history o)
  settled : ∀ o, o ∉ held → d.history o = [] ∨ Released (d.history o)
  unmade : ∀ o, d.made ≤ o.number → d.history o = []

namespace Accounts

variable {δ : Type} {d : Ledgered δ} {held held' : List Object}

theorem start (inner : δ) : Accounts (Ledgered.start inner) [] where
  nodup := .nil
  live := by simp
  settled _ _ := .inl rfl
  unmade _ _ := rfl

theorem perm (accounts : Accounts d held) (same : held.Perm held') : Accounts d held' where
  nodup := same.nodup_iff.1 accounts.nodup
  live o mem := accounts.live o (same.mem_iff.2 mem)
  settled o mem := accounts.settled o (mt same.mem_iff.1 mem)
  unmade := accounts.unmade

theorem inside (accounts : Accounts d held) (inner : δ) : Accounts { d with inner } held :=
  ⟨accounts.nodup, accounts.live, accounts.settled, accounts.unmade⟩

theorem number_lt (accounts : Accounts d held) {o : Object} (mem : o ∈ held) :
    o.number < d.made := by
  by_contra unmade
  obtain ⟨n, deeds⟩ := accounts.live o mem
  rw [accounts.unmade o (Nat.le_of_not_lt unmade)] at deeds
  simp at deeds

theorem used (accounts : Accounts d held) {o : Object} (mem : o ∈ held) :
    Accounts (d.enter o .used) held where
  nodup := accounts.nodup
  live o' mem' := by
    rw [history_enter]
    split
    · exact (accounts.live o' mem').used
    · simpa using accounts.live o' mem'
  settled o' mem' := by
    have other : o ≠ o' := by
      rintro rfl
      exact mem' mem
    simpa [history_enter, other] using accounts.settled o' mem'
  unmade o' unmade := by
    have other : o ≠ o' := by
      rintro rfl
      exact absurd (accounts.number_lt mem) (Nat.not_lt.2 unmade)
    simpa [history_enter, other] using accounts.unmade o' unmade

theorem registered (accounts : Accounts d held) {kind : Nat → Object}
    (number : ∀ n, (kind n).number = n) :
    Accounts { d.enter (kind d.made) .made with made := d.made + 1 } (kind d.made :: held) := by
  have new : kind d.made ∉ held := by
    intro mem
    have lt := accounts.number_lt mem
    simp [number] at lt
  have history (o : Object) :
      history { d.enter (kind d.made) .made with made := d.made + 1 } o =
        d.history o ++ if kind d.made = o then [.made] else [] := history_enter _ _ _
  refine ⟨List.nodup_cons.2 ⟨new, accounts.nodup⟩, fun o mem => ?_, fun o mem => ?_,
    fun o unmade => ?_⟩
  · rw [history]
    rcases List.mem_cons.1 mem with rfl | mem
    · refine ⟨0, ?_⟩
      simp [accounts.unmade (kind d.made) (Nat.le_of_eq (number _).symm)]
    · have other : kind d.made ≠ o := by
        rintro rfl
        exact new mem
      simpa [other] using accounts.live o mem
  · obtain ⟨other, mem⟩ := not_or.1 (mt List.mem_cons.2 mem)
    simpa [history, Ne.symm other] using accounts.settled o mem
  · simp only at unmade
    have other : kind d.made ≠ o := by
      rintro rfl
      rw [number] at unmade
      exact absurd unmade (Nat.not_succ_le_self _)
    simpa [history, other] using accounts.unmade o (Nat.le_of_succ_le unmade)

theorem released {o : Object} (accounts : Accounts d (o :: held)) :
    Accounts (d.enter o .released) held := by
  obtain ⟨new, nodup⟩ := List.nodup_cons.1 accounts.nodup
  refine ⟨nodup, fun o' mem => ?_, fun o' mem => ?_, fun o' unmade => ?_⟩
  · have other : o ≠ o' := by
      rintro rfl
      exact new mem
    simpa [history_enter, other] using accounts.live o' (.tail _ mem)
  · by_cases same : o = o'
    · subst same
      exact .inr (by simpa [history_enter] using (accounts.live o (.head _)).released)
    · have mem : o' ∉ o :: held := by simp [Ne.symm same, mem]
      simpa [history_enter, same] using accounts.settled o' mem
  · have other : o ≠ o' := by
      rintro rfl
      exact absurd (accounts.number_lt (.head _)) (Nat.not_lt.2 unmade)
    simpa [history_enter, other] using accounts.unmade o' unmade

/-- Where nothing is held any more, everything that was made was released once and not touched
afterwards. -/
theorem all_released (accounts : Accounts d []) (o : Object) :
    d.history o = [] ∨ Released (d.history o) :=
  accounts.settled o List.not_mem_nil

end Accounts

/-! ### What is held -/

section Holdings

variable {σ φ τ : Type} {B : Backend σ}

def canvasObject (canvas : Numbered B.Canvas) : Object := .canvas canvas.number

def layerObject (e : LayerHandle × LayerEntry (Numbered B.Layer)) : Object :=
  .layer e.2.layer.number

def Context.holdings (c : Context B.ledgered φ) : List Object :=
  c.canvas.toList.map canvasObject ++ c.registry.layers.entries.map layerObject

def RenderLoop.holdings (loop : RenderLoop B.ledgered φ) : List Object :=
  loop.contexts.entries.flatMap fun e => e.2.holdings

end Holdings

end RenderRelay

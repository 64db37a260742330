import Mathlib.Data.List.Perm.Basic
import RenderRelay.Table

/-!
Tables as collections of entries: which pairs are entries, and what an insertion and an erasure
leave, whatever the order.
-/

namespace RenderRelay.Table

variable {κ α : Type} [DecidableEq κ] {t : Table κ α} {k : κ} {v : α}

theorem get?_eq_none_iff : t.get? k = none ↔ k ∉ t.keys := by
  unfold get? keys
  generalize t.entries = l
  induction l with
  | nil => simp [find?]
  | cons e rest ih =>
    obtain ⟨k', v'⟩ := e
    by_cases same : k' = k
    · simp [find?, same]
    · simp [find?, same, ih, Ne.symm same]

/-- The entries without one key are all of them where it has none. -/
theorem erase_entries (unknown : t.get? k = none) : (t.erase k).entries = t.entries := by
  have absent := get?_eq_none_iff.1 unknown
  refine List.filter_eq_self.2 fun e mem => ?_
  have other : e.1 ≠ k := by
    rintro rfl
    exact absent (List.mem_map_of_mem mem)
  simpa using other

theorem entries_perm (found : t.get? k = some v) :
    t.entries.Perm ((k, v) :: (t.erase k).entries) := by
  have nodup := t.nodup
  unfold get? at found
  unfold erase
  simp only
  generalize t.entries = l at found nodup
  induction l with
  | nil => simp [find?] at found
  | cons e rest ih =>
    obtain ⟨k', v'⟩ := e
    obtain ⟨new, nodup⟩ := List.nodup_cons.1 nodup
    by_cases same : k' = k
    · subst same
      obtain rfl : v' = v := by simpa [find?] using found
      have others : rest.filter (fun e => e.1 ≠ k') = rest := by
        refine List.filter_eq_self.2 fun e mem => ?_
        have other : e.1 ≠ k' := fun equal => new (List.mem_map.2 ⟨e, mem, equal⟩)
        simpa using other
      rw [List.filter_cons_of_neg (by simp), others]
    · rw [List.filter_cons_of_pos (by simpa using same)]
      have found : find? k rest = some v := by simpa [find?, same] using found
      exact ((ih found nodup).cons _).trans (.swap _ _ _)

theorem insert_perm (t : Table κ α) (k : κ) (v : α) :
    (t.insert k v).entries.Perm ((k, v) :: (t.erase k).entries) := by
  have found : (t.insert k v).get? k = some v := by simp [get?_insert]
  have same : ((t.insert k v).erase k).entries = (t.erase k).entries := by
    unfold insert erase
    simp only
    generalize t.entries = l
    induction l with
    | nil => simp [put]
    | cons e rest ih =>
      obtain ⟨k', v'⟩ := e
      by_cases same : k' = k
      · simp [put, same]
      · simpa [put, same] using ih
  exact same ▸ entries_perm found

theorem mem_of_get? (found : t.get? k = some v) : (k, v) ∈ t.entries :=
  (entries_perm found).mem_iff.2 (.head _)

theorem get?_of_mem (mem : (k, v) ∈ t.entries) : t.get? k = some v := by
  have nodup := t.nodup
  unfold get?
  generalize t.entries = l at mem nodup
  induction l with
  | nil => simp at mem
  | cons e rest ih =>
    obtain ⟨k', v'⟩ := e
    obtain ⟨new, nodup⟩ := List.nodup_cons.1 nodup
    rcases List.mem_cons.1 mem with ⟨⟨⟩⟩ | mem
    · simp [find?]
    · have other : k' ≠ k := by
        rintro rfl
        exact new (List.mem_map.2 ⟨_, mem, rfl⟩)
      simpa [find?, other] using ih mem nodup

theorem insert_entries (unknown : t.get? k = none) :
    (t.insert k v).entries.Perm ((k, v) :: t.entries) :=
  erase_entries unknown ▸ insert_perm t k v

/-- An entry that is taken out and put back leaves the keys as they are. -/
theorem keys_erase_insert (found : t.get? k = some v) (v' : α) :
    ((t.erase k).insert k v').keys.Perm t.keys := by
  have absent : (t.erase k).get? k = none := by simp [get?_erase]
  exact ((insert_entries absent).map Prod.fst).trans ((entries_perm found).map Prod.fst).symm

/-! ### Values set again -/

@[simp] theorem insert_insert (t : Table κ α) (k : κ) (v v' : α) :
    (t.insert k v').insert k v = t.insert k v := by
  obtain ⟨l, nodup⟩ := t
  have same : put k v (put k v' l) = put k v l := by
    clear nodup
    induction l with
    | nil => simp [put]
    | cons e rest ih =>
      obtain ⟨k', w⟩ := e
      by_cases own : k' = k
      · simp [put, own]
      · simp [put, own, ih]
  simp only [insert, same]

theorem insert_get? (found : t.get? k = some v) : t.insert k v = t := by
  obtain ⟨l, nodup⟩ := t
  have same : put k v l = l := by
    change find? k l = some v at found
    clear nodup
    induction l with
    | nil => simp [find?] at found
    | cons e rest ih =>
      obtain ⟨k', w⟩ := e
      by_cases own : k' = k
      · obtain rfl : w = v := by simpa [find?, own] using found
        simp [put, own]
      · simp [put, own, ih (by simpa [find?, own] using found)]
  simp only [insert, same]

end RenderRelay.Table

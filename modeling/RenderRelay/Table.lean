/-!
Finite tables with at most one entry to a key. Entries are kept in the order in which their keys
first came in; `get?_insert` and `get?_erase` say what the operations do to the entries.
-/

namespace RenderRelay

/-- A finite table from keys to values. -/
structure Table (κ α : Type) where
  entries : List (κ × α)
  nodup : (entries.map Prod.fst).Nodup

namespace Table

variable {κ α : Type}

def empty : Table κ α := ⟨[], List.nodup_nil⟩

instance : Inhabited (Table κ α) := ⟨empty⟩

def size (t : Table κ α) : Nat := t.entries.length

def keys (t : Table κ α) : List κ := t.entries.map Prod.fst

variable [DecidableEq κ]

/-- The value of the first pair with a key. -/
def find? (k : κ) : List (κ × α) → Option α
  | [] => none
  | (k', v) :: rest => if k' = k then some v else find? k rest

/-- Replaces the value of the pair with a key, or adds a pair. -/
def put (k : κ) (v : α) : List (κ × α) → List (κ × α)
  | [] => [(k, v)]
  | (k', v') :: rest => if k' = k then (k, v) :: rest else (k', v') :: put k v rest

theorem mem_keys_put {k k' : κ} {v : α} {l : List (κ × α)} :
    k' ∈ (put k v l).map Prod.fst ↔ k' = k ∨ k' ∈ l.map Prod.fst := by
  induction l with
  | nil => simp [put]
  | cons e rest ih =>
    obtain ⟨k₀, v₀⟩ := e
    by_cases h : k₀ = k
    · subst h; simp [put]
    · simp only [put, if_neg h, List.map_cons, List.mem_cons, ih]
      constructor
      · rintro (h | h | h) <;> simp [h]
      · rintro (h | h | h) <;> simp [h]

theorem nodup_put {k : κ} {v : α} {l : List (κ × α)} (h : (l.map Prod.fst).Nodup) :
    ((put k v l).map Prod.fst).Nodup := by
  induction l with
  | nil => simp [put]
  | cons e rest ih =>
    obtain ⟨k₀, v₀⟩ := e
    simp only [List.map_cons, List.nodup_cons] at h
    by_cases hk : k₀ = k
    · subst hk
      simpa [put] using h
    · simp only [put, if_neg hk, List.map_cons, List.nodup_cons]
      refine ⟨fun hm => ?_, ih h.2⟩
      rcases mem_keys_put.1 hm with rfl | hm
      · exact hk rfl
      · exact h.1 hm

def get? (t : Table κ α) (k : κ) : Option α := find? k t.entries

def contains (t : Table κ α) (k : κ) : Bool := (t.get? k).isSome

def insert (t : Table κ α) (k : κ) (v : α) : Table κ α := ⟨put k v t.entries, nodup_put t.nodup⟩

def erase (t : Table κ α) (k : κ) : Table κ α :=
  ⟨t.entries.filter fun e => e.1 ≠ k, t.nodup.sublist ((List.filter_sublist).map _)⟩

/-- Changes the value of a key that has one. -/
def modify (t : Table κ α) (k : κ) (f : α → α) : Table κ α :=
  match t.get? k with
  | none => t
  | some v => t.insert k (f v)

theorem find?_put (k k' : κ) (v : α) (l : List (κ × α)) :
    find? k' (put k v l) = if k = k' then some v else find? k' l := by
  induction l with
  | nil => simp [put, find?]
  | cons e rest ih =>
    obtain ⟨k₀, v₀⟩ := e
    by_cases h : k₀ = k <;> by_cases h' : k₀ = k' <;> by_cases h'' : k = k' <;>
      simp_all [put, find?]

@[simp] theorem get?_empty (k : κ) : (empty : Table κ α).get? k = none := rfl

theorem get?_insert (t : Table κ α) (k k' : κ) (v : α) :
    (t.insert k v).get? k' = if k = k' then some v else t.get? k' :=
  find?_put k k' v t.entries

theorem get?_erase (t : Table κ α) (k k' : κ) :
    (t.erase k).get? k' = if k = k' then none else t.get? k' := by
  have key : ∀ l : List (κ × α), find? k' (l.filter fun e => e.1 ≠ k)
      = if k = k' then none else find? k' l := by
    intro l
    induction l with
    | nil => simp [find?]
    | cons e rest ih =>
      obtain ⟨k₀, v₀⟩ := e
      by_cases h : k₀ = k <;> by_cases h' : k₀ = k' <;> by_cases h'' : k = k' <;>
        simp_all [find?]
  exact key t.entries

end Table

end RenderRelay

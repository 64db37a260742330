import Mathlib.Logic.Function.Iterate
import Mathlib.Order.Nat
import RenderRelay.Pattern.Matcher

/-!
Patterns are found where they occur. `Pattern.Spans` is what a pattern means: it leads from one
place of a text to another. The matcher follows a pattern from all places at once
(`reach_follows`); repetition without a limit ends because a set of places can only grow so often.
So a pattern is found in a text just if it spans some part of it (`occursIn_iff`).
-/

namespace RenderRelay.Pattern

/-! ### Meaning -/

/-- So many steps, one after the other. -/
def Steps (R : Nat → Nat → Prop) : Nat → Nat → Nat → Prop
  | 0, i, j => i = j
  | n + 1, i, j => ∃ k, R i k ∧ Steps R n k j

/-- The character before a place, where `first` comes before the text. -/
def prior (first : Option Char) (text : List Char) : Nat → Option Char
  | 0 => first
  | i + 1 => text[i]?

/-- **The pattern leads from a place of the text to another.** A limit below the least number
of rounds leaves just these. -/
def Spans (text : List Char) : Pattern → Nat → Nat → Prop
  | empty, i, j => i = j
  | char set, i, j => j = i + 1 ∧ ∃ c, text[i]? = some c ∧ set c = true
  | edge e, i, j => i = j ∧ e (prior none text i) text[i]? = true
  | seq first second, i, j => ∃ k, Spans text first i k ∧ Spans text second k j
  | either first second, i, j => Spans text first i j ∨ Spans text second i j
  | repeated least most body, i, j =>
    ∃ n, least ≤ n ∧ (∀ m, most = some m → n ≤ max least m) ∧ Steps (Spans text body) n i j
  | unknown, _, _ => False

section Steps

variable {R : Nat → Nat → Prop} {i j : Nat}

theorem steps_add {a b : Nat} : Steps R (a + b) i j ↔ ∃ k, Steps R a i k ∧ Steps R b k j := by
  induction a generalizing i with
  | zero => simp [Steps]
  | succ a ih =>
    rw [Nat.succ_add]
    constructor
    · rintro ⟨k, first, rest⟩
      obtain ⟨l, before, after⟩ := ih.1 rest
      exact ⟨l, ⟨k, first, before⟩, after⟩
    · rintro ⟨l, ⟨k, first, before⟩, after⟩
      exact ⟨k, first, ih.2 ⟨l, before, after⟩⟩

/-- Where steps may be left out there are so many of them at most. -/
theorem steps_or_stay {n : Nat} :
    Steps (fun i j => i = j ∨ R i j) n i j ↔ ∃ m ≤ n, Steps R m i j := by
  induction n generalizing i with
  | zero =>
    constructor
    · rintro rfl
      exact ⟨0, le_rfl, rfl⟩
    · rintro ⟨m, none, steps⟩
      obtain rfl : m = 0 := Nat.le_zero.1 none
      exact steps
  | succ n ih =>
    constructor
    · rintro ⟨k, rfl | first, rest⟩
      · obtain ⟨m, fits, steps⟩ := ih.1 rest
        exact ⟨m, Nat.le_succ_of_le fits, steps⟩
      · obtain ⟨m, fits, steps⟩ := ih.1 rest
        exact ⟨m + 1, Nat.succ_le_succ fits, k, first, steps⟩
    · rintro ⟨_ | m, fits, steps⟩
      · exact ⟨i, .inl rfl, ih.2 ⟨0, Nat.zero_le n, steps⟩⟩
      · obtain ⟨k, first, rest⟩ := steps
        exact ⟨k, .inr first, ih.2 ⟨m, Nat.le_of_succ_le_succ fits, rest⟩⟩

end Steps

/-! ### Sets of places -/

namespace Places

/-- The place is in the set. -/
def Has (ps : Places) (j : Nat) : Prop := ps[j]? = some true

variable {ps qs : Places} {text : List Char} {i j : Nat}

theorem has_all : (all text).Has j ↔ j ≤ text.length := by
  unfold Has all
  rw [List.getElem?_replicate]
  split
  case isTrue inside => exact iff_of_true rfl (Nat.le_of_lt_succ inside)
  case isFalse beyond => exact iff_of_false nofun fun inside => beyond (Nat.lt_succ_of_le inside)

theorem has_union (same : qs.length = ps.length) : (ps.union qs).Has j ↔ ps.Has j ∨ qs.Has j := by
  unfold Has union
  rw [List.getElem?_zipWith]
  by_cases inside : j < ps.length
  · have inside' : j < qs.length := same ▸ inside
    simp [inside, inside']
  · have beyond : ps.length ≤ j := Nat.not_lt.1 inside
    have beyond' : qs.length ≤ j := same ▸ beyond
    simp [beyond, beyond']

theorem has_advance {set : CharSet} (fits : ps.length = text.length + 1) :
    (ps.advance set text).Has j ↔
      ∃ i, ps.Has i ∧ j = i + 1 ∧ ∃ c, text[i]? = some c ∧ set c = true := by
  unfold Has advance
  cases j with
  | zero => simp
  | succ i =>
    rw [List.getElem?_cons_succ, List.getElem?_zipWith]
    constructor
    · intro reached
      by_cases inside : i < text.length
      · have inside' : i < ps.length := by omega
        refine ⟨i, ?_, rfl, text[i], List.getElem?_eq_getElem inside, ?_⟩ <;>
          simp_all
      · simp [Nat.not_lt.1 inside] at reached
    · rintro ⟨k, there, same, c, read, fits⟩
      obtain rfl : i = k := Nat.succ.inj same
      simp [there, read, fits]

theorem getElem?_withEdge (e : Edge) (first : Option Char) :
    (withEdge e first text)[i]? =
      if i ≤ text.length then some (e (prior first text i) text[i]?) else none := by
  induction text generalizing first i with
  | nil => cases i <;> simp [withEdge, prior]
  | cons c rest ih =>
    cases i with
    | zero => simp [withEdge, prior]
    | succ i =>
      have same : prior (some c) rest i = prior first (c :: rest) (i + 1) := by
        cases i <;> simp [prior]
      simp only [withEdge, List.getElem?_cons_succ, ih, same, List.length_cons,
        Nat.add_le_add_iff_right]

theorem length_withEdge (e : Edge) (first : Option Char) :
    (withEdge e first text).length = text.length + 1 := by
  induction text generalizing first with
  | nil => rfl
  | cons c rest ih => simp [withEdge, ih]

/-! ### Rounds -/

theorem iterate_eq (step : Places → Places) (n : Nat) (ps : Places) :
    iterate step n ps = step^[n] ps := by
  induction n generalizing ps with
  | zero => rfl
  | succ n ih =>
    simp only [iterate]
    split
    case isTrue fixed => exact (Function.iterate_fixed fixed (n + 1)).symm
    case isFalse => exact ih (step ps)

theorem union_grows (same : qs.length = ps.length) :
    ps.count true ≤ (ps.union qs).count true ∧
      ((ps.union qs).count true = ps.count true → ps.union qs = ps) := by
  induction ps generalizing qs with
  | nil => simp [union]
  | cons p ps ih =>
    cases qs with
    | nil => simp at same
    | cons q qs =>
      obtain ⟨more, equal⟩ := ih (Nat.succ.inj same)
      have tail : union (p :: ps) (q :: qs) = (p || q) :: union ps qs := rfl
      rw [tail]
      cases p with
      | true => simpa [more] using equal
      | false =>
        cases q with
        | false => simpa [more] using equal
        | true => simp; omega

/-- What grows in a measure with every change, and only so far, comes to a point that stays. -/
theorem iterate_saturated {α : Type} {P : α → Prop} {f : α → α} {size : α → Nat} {bound : Nat}
    (keeps : ∀ x, P x → P (f x)) (within : ∀ x, P x → size x ≤ bound)
    (grows : ∀ x, P x → f x ≠ x → size x < size (f x)) {x : α} (start : P x) {n : Nat}
    (enough : bound ≤ size x + n) : f (f^[n] x) = f^[n] x := by
  induction n generalizing x with
  | zero =>
    by_contra moves
    have more := grows x start moves
    have most := within (f x) (keeps x start)
    omega
  | succ n ih =>
    by_cases fixed : f x = x
    · rw [Function.iterate_fixed fixed, fixed]
    · have more := grows x start fixed
      exact ih (keeps x start) (by omega)

end Places

/-! ### Following a relation -/

/-- In texts with so many places the step leads from a set to the places that the relation leads to
from there. -/
structure Follows (n : Nat) (R : Nat → Nat → Prop) (step : Places → Places) : Prop where
  length : ∀ ps : Places, ps.length = n → (step ps).length = n
  has : ∀ (ps : Places) j, ps.length = n → ((step ps).Has j ↔ ∃ i, ps.Has i ∧ R i j)

namespace Follows

variable {n : Nat} {R S : Nat → Nat → Prop} {step next : Places → Places}

theorem congr (follows : Follows n R step) (same : ∀ i j, R i j ↔ S i j) : Follows n S step where
  length := follows.length
  has ps j fits := by simp only [follows.has ps j fits, same]

theorem comp (first : Follows n R step) (second : Follows n S next) :
    Follows n (fun i j => ∃ k, R i k ∧ S k j) (fun ps => next (step ps)) where
  length ps fits := second.length _ (first.length ps fits)
  has ps j fits := by
    rw [second.has _ j (first.length ps fits)]
    constructor
    · rintro ⟨k, reached, onward⟩
      obtain ⟨i, there, led⟩ := (first.has ps k fits).1 reached
      exact ⟨i, there, k, led, onward⟩
    · rintro ⟨i, there, k, led, onward⟩
      exact ⟨k, (first.has ps k fits).2 ⟨i, there, led⟩, onward⟩

theorem union (first : Follows n R step) (second : Follows n S next) :
    Follows n (fun i j => R i j ∨ S i j) (fun ps => (step ps).union (next ps)) where
  length ps fits := by
    simp [Places.union, first.length ps fits, second.length ps fits]
  has ps j fits := by
    have same := (second.length ps fits).trans (first.length ps fits).symm
    rw [Places.has_union same, first.has ps j fits, second.has ps j fits]
    simp only [and_or_left, exists_or]

theorem stay : Follows n (fun i j => i = j) (fun ps => ps) where
  length _ fits := fits
  has ps j _ := by simp

theorem iterate (follows : Follows n R step) (rounds : Nat) :
    Follows n (Steps R rounds) (Places.iterate step rounds) := by
  simp only [funext (Places.iterate_eq step rounds)]
  induction rounds with
  | zero => exact stay
  | succ rounds ih => exact follows.comp ih

theorem grow (follows : Follows n R step) (rounds : Nat) :
    Follows n (fun i j => ∃ m ≤ rounds, Steps R m i j) (Places.grow step rounds) :=
  ((stay.union follows).iterate rounds).congr fun _ _ => steps_or_stay

/-- **After as many rounds as there are places nothing new is reached.** -/
theorem grow_all (follows : Follows n R step) :
    Follows n (fun i j => ∃ m, Steps R m i j) (Places.grow step n) := by
  refine ⟨(follows.grow n).length, fun ps j fits => ⟨fun reached => ?_, ?_⟩⟩
  · obtain ⟨i, there, m, -, steps⟩ := ((follows.grow n).has ps j fits).1 reached
    exact ⟨i, there, m, steps⟩
  · rintro ⟨i, there, m, steps⟩
    let wider (ps : Places) : Places := ps.union (step ps)
    have fixed : wider (wider^[n] ps) = wider^[n] ps := by
      have keeps (ps : Places) (fits : ps.length = n) : (wider ps).length = n :=
        (stay.union follows).length ps fits
      have within (ps : Places) (fits : ps.length = n) : ps.count true ≤ n :=
        List.count_le_length.trans fits.le
      have grows (ps : Places) (fits : ps.length = n) (moves : wider ps ≠ ps) :
          ps.count true < (wider ps).count true := by
        obtain ⟨more, equal⟩ := Places.union_grows ((follows.length ps fits).trans fits.symm)
        exact lt_of_le_of_ne more fun same => moves (equal same.symm)
      exact Places.iterate_saturated keeps within grows fits (Nat.le_add_left ..)
    have last : wider^[m + n] ps = wider^[n] ps := by
      rw [Function.iterate_add_apply]
      exact Function.iterate_fixed fixed m
    have reached : (Places.grow step (m + n) ps).Has j :=
      ((follows.grow (m + n)).has ps j fits).2 ⟨i, there, m, Nat.le_add_right .., steps⟩
    rw [Places.grow, Places.iterate_eq] at reached ⊢
    exact last ▸ reached

end Follows

/-! ### The matcher -/

/-- **The matcher goes where the pattern leads.** -/
theorem reach_follows (text : List Char) (p : Pattern) :
    Follows (text.length + 1) (p.Spans text) (p.reach text) := by
  induction p with
  | empty => exact .stay
  | char set =>
    refine ⟨fun ps fits => by simp [reach, Places.advance, fits], fun ps j fits => ?_⟩
    exact Places.has_advance fits
  | edge e =>
    refine ⟨fun ps fits => by simp [reach, Places.length_withEdge, fits], fun ps j fits => ?_⟩
    unfold reach Places.Has
    rw [List.getElem?_zipWith, Places.getElem?_withEdge]
    constructor
    · intro reached
      by_cases inside : j ≤ text.length
      · have inside' : j < ps.length := by omega
        refine ⟨j, ?_, rfl, ?_⟩ <;> simp_all
      · simp [inside] at reached
    · rintro ⟨i, there, rfl, holds⟩
      have inside : i ≤ text.length := by
        have := (List.getElem?_eq_some_iff.1 there).1
        omega
      simp [there, inside, holds]
  | seq first second hfirst hsecond => exact hfirst.comp hsecond
  | either first second hfirst hsecond => exact hfirst.union hsecond
  | repeated least most body ih =>
    -- the least number of rounds is made up first, and more of them as far as they are allowed
    cases most with
    | none =>
      refine ((ih.iterate least).comp ih.grow_all).congr fun i j => ?_
      constructor
      · rintro ⟨k, first, m, rest⟩
        exact ⟨least + m, Nat.le_add_right .., nofun, steps_add.2 ⟨k, first, rest⟩⟩
      · rintro ⟨n, enough, -, steps⟩
        obtain ⟨m, rfl⟩ := Nat.exists_eq_add_of_le enough
        obtain ⟨k, first, rest⟩ := steps_add.1 steps
        exact ⟨k, first, m, rest⟩
    | some most =>
      refine ((ih.iterate least).comp (ih.grow (most - least))).congr fun i j => ?_
      constructor
      · rintro ⟨k, first, m, few, rest⟩
        refine ⟨least + m, Nat.le_add_right .., ?_, steps_add.2 ⟨k, first, rest⟩⟩
        rintro _ ⟨rfl⟩
        omega
      · rintro ⟨n, enough, few, steps⟩
        obtain ⟨m, rfl⟩ := Nat.exists_eq_add_of_le enough
        obtain ⟨k, first, rest⟩ := steps_add.1 steps
        have fits := few most rfl
        exact ⟨k, first, m, by omega, rest⟩
  | unknown =>
    refine ⟨fun ps fits => by simp [reach, fits], fun ps j _ => ?_⟩
    constructor
    · intro reached
      unfold reach Places.Has at reached
      rw [List.getElem?_map] at reached
      cases there : ps[j]? with
      | none => simp [there] at reached
      | some => simp [there] at reached
    · rintro ⟨i, -, leads⟩
      cases leads

/-- **A pattern is found in a text just if it spans a part of it.** -/
theorem occursIn_iff {p : Pattern} {text : String} :
    p.occursIn text = true ↔ ∃ i j, i ≤ text.toList.length ∧ p.Spans text.toList i j := by
  have fits : (Places.all text.toList).length = text.toList.length + 1 := by simp [Places.all]
  have found : p.occursIn text = true ↔
      ∃ j, (p.reach text.toList (.all text.toList)).Has j := by
    unfold occursIn Places.Has
    rw [List.any_eq_true]
    constructor
    · rintro ⟨_, mem, rfl⟩
      exact List.getElem?_of_mem mem
    · rintro ⟨j, there⟩
      exact ⟨true, List.mem_of_getElem? there, rfl⟩
  simp only [found, (reach_follows text.toList p).has _ _ fits, Places.has_all]
  exact exists_comm

/-- A letter twice or more, found behind another one. -/
example : (seq (char (· = 'b')) (repeated 2 none (char (· = 'a')))).occursIn "cbaaa" = true := by
  decide

end RenderRelay.Pattern

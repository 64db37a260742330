import RenderRelay.Unicode.GeneralCategory

/-!
Tables of stretches in ascending order give each code the value of the stretch that it lies in
(`valueAt_lies`). The table of general categories is one, and leaves no code out (`ofChar_lies`).
-/

namespace RenderRelay.Unicode

namespace Runs

variable {α : Type} {code : Nat}

/-- Each stretch begins behind the one before, the first no earlier than at a number. -/
def ascends (least : Nat) : Runs α → Bool
  | [] => true
  | (start, _) :: rest => least ≤ start && ascends (start + 1) rest

/-- The code lies in a stretch of the value, and those behind it begin later. -/
def Lies (runs : Runs α) (code : Nat) (value : α) : Prop :=
  ∃ earlier start later, runs = earlier ++ (start, value) :: later ∧ start ≤ code ∧
    ∀ run ∈ later, code < run.1

theorem le_of_ascends {runs : Runs α} {least : Nat} (ascending : runs.ascends least = true)
    {run : Nat × α} (mem : run ∈ runs) : least ≤ run.1 := by
  induction runs generalizing least with
  | nil => cases mem
  | cons first rest ih =>
    unfold ascends at ascending
    rw [Bool.and_eq_true, decide_eq_true_eq] at ascending
    obtain ⟨le, ascending⟩ := ascending
    rcases List.mem_cons.1 mem with rfl | mem
    · exact le
    · have behind : first.1 + 1 ≤ run.1 := ih ascending mem
      omega

/-- **A code has the value of the stretch that it lies in.** -/
theorem valueAt_lies {runs : Runs α} {start : Nat} {before value : α}
    (ascending : runs.ascends (start + 1) = true) (begun : start ≤ code) :
    Lies ((start, value) :: runs) code (valueAt before code ((start, value) :: runs)) := by
  induction runs generalizing before start value with
  | nil =>
    refine ⟨[], start, [], ?_, begun, nofun⟩
    rw [valueAt, if_neg (Nat.not_lt.2 begun)]
    rfl
  | cons run rest ih =>
    obtain ⟨next, other⟩ := run
    have onward : valueAt before code ((start, value) :: (next, other) :: rest) =
        valueAt value code ((next, other) :: rest) := if_neg (Nat.not_lt.2 begun)
    rw [onward]
    have ⟨_, above⟩ := Bool.and_eq_true_iff.1 ascending
    by_cases reached : next ≤ code
    · have lies : Lies ((next, other) :: rest) code (valueAt value code ((next, other) :: rest)) :=
        ih above reached
      obtain ⟨earlier, start', later, split, lies⟩ := lies
      exact ⟨(start, value) :: earlier, start', later, congrArg ((start, value) :: ·) split, lies⟩
    · have early : code < next := Nat.lt_of_not_le reached
      refine ⟨[], start, (next, other) :: rest, ?_, begun, ?_⟩
      · rw [valueAt, if_pos early]
        rfl
      · intro run mem
        rcases List.mem_cons.1 mem with rfl | mem
        · exact early
        · have behind := le_of_ascends above mem
          omega

end Runs

namespace GeneralCategory

theorem table_ascends : table.ascends 0 = true := by decide +kernel

/-- **Each character lies in a stretch of its category.** -/
theorem ofChar_lies (c : Char) : table.Lies c.toNat (ofChar c) := by
  have first : table.head? = some (0, .cc) := by decide +kernel
  have ascending := table_ascends
  unfold ofChar
  cases split : table with
  | nil => simp [split] at first
  | cons run rest =>
    rw [split, List.head?_cons, Option.some.injEq] at first
    subst first
    rw [split] at ascending
    exact Runs.valueAt_lies (Bool.and_eq_true_iff.1 ascending).2 (Nat.zero_le _)

end GeneralCategory

end RenderRelay.Unicode

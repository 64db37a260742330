import RenderRelay.Geometry.Rect
import Mathlib.Data.Nat.Log
import Mathlib.Tactic.Common

/-!
Rounding and order. Rounding to twenty-four bits never turns two numbers round, and neither does the
snapping of an edge to a pixel boundary, so the larger of two edges is snapped to the larger of
their boundaries. All of that is seen in the counts of units (`Single.value`), which tell two
numbers apart unless both are zero.
-/

namespace RenderRelay

/-! ### Quotients -/

theorem le_nearestEven (num den : Nat) : num / den ≤ nearestEven num den := by
  unfold nearestEven
  split
  · exact Nat.le_refl _
  · split <;> omega

theorem nearestEven_mono {num num' den : Nat} (le : num ≤ num') :
    nearestEven num den ≤ nearestEven num' den := by
  rcases Nat.lt_or_eq_of_le (Nat.div_le_div_right (c := den) le) with lt | same
  · have below := nearestEven_le_succ num den
    have above := le_nearestEven num' den
    omega
  · have rest : num % den ≤ num' % den := by
      have whole := Nat.div_add_mod num den
      have whole' := Nat.div_add_mod num' den
      rw [same] at whole
      omega
    unfold nearestEven
    rw [same]
    split <;> split <;> (try split) <;> (try split) <;> omega

/-- A quotient of one or more is not rounded below its leading bit. -/
theorem one_shiftLeft_log2_le_roundQuotient {num den : Nat} (some : num / den ≠ 0) :
    1 <<< (num / den).log2 ≤ roundQuotient num den := by
  have lead := Nat.log2_self_le some
  have parts : 2 ^ (num / den).log2 =
      2 ^ ((num / den).log2 - ((num / den).log2 - 23)) * 2 ^ ((num / den).log2 - 23) := by
    rw [← Nat.pow_add]
    congr 1
    omega
  rw [roundQuotient, Nat.shiftLeft_eq, Nat.shiftLeft_eq, Nat.shiftLeft_eq, Nat.one_mul, parts]
  refine Nat.mul_le_mul_right _ (Nat.le_trans ?_ (le_nearestEven _ _))
  rwa [← Nat.div_div_eq_div_mul, Nat.le_div_iff_mul_le (Nat.two_pow_pos _), ← parts]

theorem roundQuotient_le_one_shiftLeft (num den : Nat) :
    roundQuotient num den ≤ 1 <<< ((num / den).log2 + 1) := by
  have below : num / den < 2 ^ ((num / den).log2 + 1) := Nat.lt_log2_self
  have parts : 2 ^ ((num / den).log2 + 1) =
      2 ^ ((num / den).log2 + 1 - ((num / den).log2 - 23)) * 2 ^ ((num / den).log2 - 23) := by
    rw [← Nat.pow_add]
    congr 1
    omega
  rw [roundQuotient, Nat.shiftLeft_eq, Nat.shiftLeft_eq, Nat.shiftLeft_eq, Nat.one_mul, parts]
  refine Nat.mul_le_mul_right _ (Nat.le_trans (nearestEven_le_succ _ _) ?_)
  rwa [← Nat.div_div_eq_div_mul, Nat.succ_le_iff, Nat.div_lt_iff_lt_mul (Nat.two_pow_pos _),
    ← parts]

/-- **Rounding keeps the order.** -/
theorem roundQuotient_mono {num num' den : Nat} (le : num ≤ num') :
    roundQuotient num den ≤ roundQuotient num' den := by
  have logs : (num / den).log2 ≤ (num' / den).log2 := by
    simp only [Nat.log2_eq_log_two]
    exact Nat.log_mono_right (Nat.div_le_div_right le)
  rcases Nat.lt_or_eq_of_le logs with lt | same
  · have some : num' / den ≠ 0 := by
      intro none
      simp [none] at lt
    -- a power of two lies between
    calc
      roundQuotient num den ≤ 1 <<< ((num / den).log2 + 1) := roundQuotient_le_one_shiftLeft num den
      _ ≤ 1 <<< (num' / den).log2 := by
        simp only [Nat.shiftLeft_eq, Nat.one_mul]
        exact Nat.pow_le_pow_right (by decide) lt
      _ ≤ roundQuotient num' den := one_shiftLeft_log2_le_roundQuotient some
  · rw [roundQuotient, roundQuotient, same, Nat.shiftLeft_eq _ ((num' / den).log2 - 23),
      Nat.shiftLeft_eq (nearestEven num' _)]
    exact Nat.mul_le_mul_right _ (nearestEven_mono le)

/-- A count that has no more than twenty-four significant bits is left as it is. -/
theorem roundQuotient_one {units : Nat} (short : 1 <<< (units.log2 - 23) ∣ units) :
    roundQuotient units 1 = units := by
  have rest : units % 1 <<< (units.log2 - 23) = 0 := Nat.mod_eq_zero_of_dvd short
  have positive : 0 < 1 <<< (units.log2 - 23) := by
    rw [Nat.one_shiftLeft]
    exact Nat.two_pow_pos _
  rw [roundQuotient, Nat.div_one, nearestEven, if_pos (by omega), Nat.shiftLeft_eq,
    ← Nat.one_shiftLeft]
  exact Nat.div_mul_cancel short

/-! ### Scales -/

theorem nearestEven_mul_left (num den : Nat) {scale : Nat} (positive : 0 < scale) :
    nearestEven (scale * num) (scale * den) = nearestEven num den := by
  have less (a b : Nat) : 2 * (scale * a) < scale * b ↔ 2 * a < b := by
    rw [Nat.mul_left_comm]
    exact Nat.mul_lt_mul_left positive
  have more (a b : Nat) : scale * b < 2 * (scale * a) ↔ b < 2 * a := by
    rw [Nat.mul_left_comm]
    exact Nat.mul_lt_mul_left positive
  unfold nearestEven
  simp only [Nat.mul_mod_mul_left, Nat.mul_div_mul_left _ _ positive, less, more]

/-- Twice a number is rounded to twice what the number is rounded to. -/
theorem roundQuotient_double (n : Nat) : roundQuotient (2 * n) 1 = 2 * roundQuotient n 1 := by
  rcases Nat.eq_zero_or_pos n with rfl | positive
  · rfl
  have lead : (2 * n).log2 = n.log2 + 1 := Nat.log2_two_mul (by omega)
  rcases Nat.lt_or_ge n.log2 23 with short | long
  · have exact {m : Nat} (short : m.log2 ≤ 23) : roundQuotient m 1 = m := by
      refine roundQuotient_one ?_
      rw [Nat.sub_eq_zero_of_le short]
      exact Nat.one_dvd m
    rw [exact (Nat.le_of_lt short), exact (by omega)]
  · have shift : (2 * n).log2 - 23 = n.log2 - 23 + 1 := by omega
    simp only [roundQuotient, Nat.div_one, shift, Nat.shiftLeft_eq, Nat.one_mul, Nat.pow_succ']
    rw [nearestEven_mul_left _ _ (by decide), Nat.mul_left_comm]

theorem roundQuotient_scaled (n k : Nat) :
    roundQuotient (n <<< k) 1 = roundQuotient n 1 <<< k := by
  induction k with
  | zero => rfl
  | succ k ih => rw [Nat.shiftLeft_succ, roundQuotient_double, ih, Nat.shiftLeft_succ]

theorem roundQuotient_roundQuotient (num den : Nat) :
    roundQuotient (roundQuotient num den) 1 = roundQuotient num den :=
  roundQuotient_one (one_shiftLeft_dvd_roundQuotient num den)

theorem roundQuotient_of_le {n : Nat} (small : n ≤ 0x1000000) : roundQuotient n 1 = n :=
  roundQuotient_one (one_shiftLeft_dvd_scaled 0 small)

namespace Single

/-! ### Counts of units -/

theorem value_zero : (0 : Single).value = some 0 := by decide

theorem value_finite (negative : Bool) {units : Nat} (magnitude : IsMagnitude units) :
    (finite negative units magnitude).value = some (signed negative units) := by
  cases negative <;> rfl

theorem value_infinite (negative : Bool) :
    (infinite negative).value = some (signed negative overflowUnits) := by
  cases negative <;> rfl

theorem value_eq_none {a : Single} : a.value = none ↔ a = nan := by
  unfold value
  split <;> simp

theorem value_neg (a : Single) : (-a).value = a.value.map Neg.neg := by
  cases a with
  | nan => rfl
  | infinite s => cases s <;> rfl
  | finite s m magnitude =>
    cases s
    · rfl
    · exact congrArg some (Int.neg_neg (m : Int)).symm

theorem signed_zero (negative : Bool) : signed negative 0 = 0 := by
  cases negative <;> rfl

theorem signed_inj {s t : Bool} {m n : Nat} (same : signed s m = signed t n) :
    s = t ∧ m = n ∨ m = 0 ∧ n = 0 := by
  cases s <;> cases t <;> simp [signed] at same ⊢ <;> omega

/-- A function of magnitudes that keeps the order keeps it under signs. -/
theorem signed_mono {f : Nat → Nat} (mono : ∀ {m n : Nat}, m ≤ n → f m ≤ f n) {u v : Int}
    (le : u ≤ v) : signed (u < 0) (f u.natAbs) ≤ signed (v < 0) (f v.natAbs) := by
  by_cases negative : u < 0
  · by_cases negative' : v < 0
    · have less := mono (show v.natAbs ≤ u.natAbs by omega)
      simp only [negative, negative', signed, decide_true, if_true]
      omega
    · simp only [negative, negative', signed, decide_true, decide_false, if_true,
        Bool.false_eq_true, if_false]
      omega
  · have less := mono (show u.natAbs ≤ v.natAbs by omega)
    have negative' : ¬v < 0 := by omega
    simp only [negative, negative', signed, decide_false, Bool.false_eq_true, if_false]
    omega

theorem overflowUnits_pos : 0 < overflowUnits := by decide

/-- Only the sign of a zero is lost in the count of units. -/
theorem eq_or_zero_of_value {a b : Single} (same : a.value = b.value) :
    a = b ∨ a.value = some 0 ∧ b.value = some 0 := by
  have positive := overflowUnits_pos
  cases a with
  | nan => exact .inl (value_eq_none.1 same.symm).symm
  | infinite s =>
    cases b with
    | nan => exact .inl (value_eq_none.1 same)
    | infinite t =>
      rw [value_infinite, value_infinite, Option.some.injEq] at same
      rcases signed_inj same with ⟨rfl, -⟩ | ⟨none, -⟩
      · exact .inl rfl
      · omega
    | finite t n magnitude =>
      have below := magnitude.2
      rw [value_infinite, value_finite, Option.some.injEq] at same
      rcases signed_inj same with ⟨-, equal⟩ | ⟨none, -⟩ <;> omega
  | finite s m magnitude =>
    have below := magnitude.2
    cases b with
    | nan => exact .inl (value_eq_none.1 same)
    | infinite t =>
      rw [value_infinite, value_finite, Option.some.injEq] at same
      rcases signed_inj same with ⟨-, equal⟩ | ⟨-, none⟩ <;> omega
    | finite t n magnitude' =>
      rw [value_finite, value_finite] at same ⊢
      rw [Option.some.injEq] at same
      rcases signed_inj same with ⟨rfl, rfl⟩ | ⟨rfl, rfl⟩
      · exact .inl rfl
      · exact .inr ⟨by rw [signed_zero], by rw [signed_zero]⟩

theorem isFinite_iff {a : Single} :
    a.isFinite = true ↔ ∃ v, a.value = some v ∧ v.natAbs < overflowUnits := by
  cases a with
  | nan => simp [isFinite, value]
  | infinite s => cases s <;> simp [isFinite, value]
  | finite s m magnitude =>
    have below := magnitude.2
    cases s <;> simpa [isFinite, value]

theorem eq_finite {a : Single} (bounded : a.isFinite = true) : ∃ s m h, a = finite s m h := by
  cases a with
  | nan => simp [isFinite] at bounded
  | infinite s => simp [isFinite] at bounded
  | finite s m magnitude => exact ⟨s, m, magnitude, rfl⟩

theorem isFinite_congr {a b : Single} (same : a.value = b.value) : a.isFinite = b.isFinite := by
  rw [Bool.eq_iff_iff, isFinite_iff, isFinite_iff, same]

theorem isFinite_neg (a : Single) : (-a).isFinite = a.isFinite := by
  cases a <;> rfl

/-! ### Sums -/

/-- The count of units that a whole count is rounded to; the threshold stands for all beyond it. -/
def nearest (units : Int) : Int :=
  signed (units < 0) (min (roundQuotient units.natAbs 1) overflowUnits)

theorem nearest_eq_self {units : Int} (magnitude : IsMagnitude units.natAbs) :
    nearest units = units := by
  rw [nearest, roundQuotient_one magnitude.1, Nat.min_eq_left (Nat.le_of_lt magnitude.2), signed]
  simp only [decide_eq_true_eq]
  omega

theorem nearest_mono {u v : Int} (le : u ≤ v) : nearest u ≤ nearest v := by
  have capped {m n : Nat} (less : m ≤ n) :
      min (roundQuotient m 1) overflowUnits ≤ min (roundQuotient n 1) overflowUnits := by
    have rounded : roundQuotient m 1 ≤ roundQuotient n 1 := roundQuotient_mono less
    omega
  exact signed_mono capped le

theorem value_ofQuotient (negative : Bool) (num den : Nat) :
    (ofQuotient negative num den).value =
      some (signed negative (min (roundQuotient num den) overflowUnits)) := by
  unfold ofQuotient
  split
  case isTrue below =>
    rw [Nat.min_eq_left (Nat.le_of_lt below)]
    exact value_finite negative _
  case isFalse above => rw [value_infinite, Nat.min_eq_right (Nat.not_lt.1 above)]

theorem value_ofUnits (zeroSign : Bool) (units : Int) :
    (ofUnits zeroSign units).value = some (nearest units) := by
  unfold ofUnits nearest
  rw [value_ofQuotient]
  split
  case isTrue zero =>
    subst zero
    have none : min (roundQuotient 0 1) overflowUnits = 0 := by decide
    simp only [Int.natAbs_zero, none, signed_zero]
  case isFalse => rfl

theorem value_add {a b : Single} {u v : Int} (finiteA : a.isFinite = true)
    (finiteB : b.isFinite = true) (hu : a.value = some u) (hv : b.value = some v) :
    (a + b).value = some (nearest (u + v)) := by
  obtain ⟨s, m, magnitude, rfl⟩ := eq_finite finiteA
  obtain ⟨t, n, magnitude', rfl⟩ := eq_finite finiteB
  rw [value_finite, Option.some.injEq] at hu hv
  subst hu hv
  exact value_ofUnits ..

theorem le_value_add {a b : Single} {u v : Int} (finiteA : a.isFinite = true)
    (finiteB : b.isFinite = true) (hu : a.value = some u) (hv : b.value = some v) (le : 0 ≤ v) :
    ∃ w, (a + b).value = some w ∧ u ≤ w := by
  refine ⟨_, value_add finiteA finiteB hu hv, ?_⟩
  have exact : nearest u = u := by
    obtain ⟨s, m, magnitude, rfl⟩ := eq_finite finiteA
    rw [value_finite, Option.some.injEq] at hu
    subst hu
    refine nearest_eq_self ?_
    cases s <;> simpa [signed] using magnitude
  calc
    u = nearest u := exact.symm
    _ ≤ nearest (u + v) := nearest_mono (Int.le_add_of_nonneg_right le)

theorem isSome_value_add {a b : Single} (number : a.value.isSome = true)
    (bounded : b.isFinite = true) : (a + b).value.isSome = true := by
  obtain ⟨t, n, magnitude, rfl⟩ := eq_finite bounded
  cases a with
  | nan => simp [value] at number
  | infinite s =>
    change (infinite s).value.isSome = true
    rw [value_infinite]
    rfl
  | finite s m magnitude' =>
    rw [value_add rfl rfl (value_finite ..) (value_finite ..)]
    rfl

theorem isFinite_of_add {a b : Single} (bounded : b.isFinite = true)
    (sum : (a + b).isFinite = true) : a.isFinite = true := by
  obtain ⟨t, n, magnitude, rfl⟩ := eq_finite bounded
  cases a with
  | nan => exact sum
  | infinite s => exact sum
  | finite s m magnitude' => rfl

theorem value_zero_add {a : Single} (zero : a.value = some 0) (b : Single) :
    (a + b).value = b.value := by
  have bounded : a.isFinite = true := isFinite_iff.2 ⟨0, zero, overflowUnits_pos⟩
  cases b with
  | nan => cases a <;> rfl
  | infinite t =>
    obtain ⟨s, m, magnitude, rfl⟩ := eq_finite bounded
    rfl
  | finite t n magnitude =>
    have same : (signed t n).natAbs = n := by cases t <;> simp [signed]
    rw [value_add bounded rfl zero (value_finite ..), Int.zero_add, nearest_eq_self (by rwa [same]),
      value_finite]

theorem add_comm (a b : Single) : a + b = b + a := by
  cases a with
  | nan => cases b <;> rfl
  | infinite s =>
    cases b with
    | nan => rfl
    | infinite t => cases s <;> cases t <;> rfl
    | finite t n magnitude => rfl
  | finite s m magnitude =>
    cases b with
    | nan => rfl
    | infinite t => rfl
    | finite t n magnitude' =>
      change ofUnits (s && t) _ = ofUnits (t && s) _
      rw [Bool.and_comm, Int.add_comm]

/-- A sum's count of units is made of its terms' counts alone. -/
theorem value_add_congr {a a' b b' : Single} (sameA : a.value = a'.value)
    (sameB : b.value = b'.value) : (a + b).value = (a' + b').value := by
  have left (c : Single) : (a + c).value = (a' + c).value := by
    rcases eq_or_zero_of_value sameA with rfl | ⟨zero, zero'⟩
    · rfl
    · rw [value_zero_add zero, value_zero_add zero']
  have right : (a' + b).value = (a' + b').value := by
    rcases eq_or_zero_of_value sameB with rfl | ⟨zero, zero'⟩
    · rfl
    · rw [add_comm, value_zero_add zero, add_comm, value_zero_add zero']
  exact (left b).trans right

/-! ### Order -/

theorem lt_iff {a b : Single} {u v : Int} (hu : a.value = some u) (hv : b.value = some v) :
    a.lt b = true ↔ u < v := by
  simp only [lt, hu, hv, decide_eq_true_eq]

theorem le_of_lt {a b : Single} (less : a.lt b = true) : a.le b = true := by
  unfold lt at less
  unfold le
  split at less
  · next u v hu hv =>
    simp only [decide_eq_true_eq] at less ⊢
    omega
  · exact less

theorem value_max {a b : Single} {u v : Int} (hu : a.value = some u) (hv : b.value = some v) :
    (a.max b).value = some (max u v) := by
  unfold Single.max
  split
  · simp [value] at hu
  · simp only [lt_iff hu hv]
    split
    case isTrue less => rw [hv, Int.max_eq_right (Int.le_of_lt less)]
    case isFalse atLeast => rw [hu, Int.max_eq_left (Int.not_lt.1 atLeast)]

theorem value_min {a b : Single} {u v : Int} (hu : a.value = some u) (hv : b.value = some v) :
    (a.min b).value = some (min u v) := by
  unfold Single.min
  split
  · simp [value] at hu
  · simp only [lt_iff hv hu]
    split
    case isTrue less => rw [hv, Int.min_eq_right (Int.le_of_lt less)]
    case isFalse atLeast => rw [hu, Int.min_eq_left (Int.not_lt.1 atLeast)]

/-! ### Whole numbers -/

/-- The nearest whole number, half away from zero; zero for the undefined number. -/
def whole (x : Single) : Int := (x.round.value.getD 0).tdiv oneUnits

theorem toIntWithin_round {lo hi : Int} (below : lo ≤ 0) (above : 0 ≤ hi) (x : Single) :
    x.round.toIntWithin lo hi = max lo (min hi x.whole) := by
  unfold toIntWithin whole
  cases x.round.value with
  | none =>
    simp only [Option.getD_none, Int.zero_tdiv]
    omega
  | some v => rfl

theorem toNatWithin_max_round (hi : Nat) (x : Single) :
    (x.round.max 0).toNatWithin hi = (min (hi : Int) x.whole).toNat := by
  have zero : (0 : Single).toNatWithin hi = 0 := by
    simp only [toNatWithin, toIntWithin, value_zero, Int.zero_tdiv]
    omega
  cases place : x.round.value with
  | none =>
    have undefined : x.round = nan := by
      unfold value at place
      split at place <;> simp_all
    have nowhere : x.whole = 0 := by rw [whole, place, Option.getD_none, Int.zero_tdiv]
    simp only [undefined, Single.max, zero, nowhere]
    omega
  | some v =>
    have larger : x.round.max 0 = if v < 0 then 0 else x.round := by
      have below : x.round.lt 0 = decide (v < 0) := by simp only [lt, place, value_zero]
      unfold Single.max
      split
      · next undefined => simp [undefined, value] at place
      · simp only [below, decide_eq_true_eq]
    rw [larger, whole, place, Option.getD_some]
    split
    case isTrue negative =>
      have above : 0 ≤ (-v).tdiv oneUnits := Int.tdiv_nonneg (by omega) (Int.natCast_nonneg _)
      rw [Int.neg_tdiv] at above
      rw [zero]
      omega
    case isFalse =>
      simp only [toNatWithin, toIntWithin, place]
      omega

def wholeUnits (units : Nat) : Nat :=
  min (roundQuotient ((units + oneUnits / 2) / oneUnits * oneUnits) 1) overflowUnits / oneUnits

theorem wholeUnits_mono {m n : Nat} (le : m ≤ n) : wholeUnits m ≤ wholeUnits n := by
  have rounded : roundQuotient ((m + oneUnits / 2) / oneUnits * oneUnits) 1 ≤
      roundQuotient ((n + oneUnits / 2) / oneUnits * oneUnits) 1 := by
    refine roundQuotient_mono (Nat.mul_le_mul_right _ (Nat.div_le_div_right ?_))
    omega
  exact Nat.div_le_div_right (by omega)

theorem whole_eq {x : Single} {v : Int} (hv : x.value = some v) :
    x.whole = signed (v < 0) (wholeUnits v.natAbs) := by
  have tdiv_signed (s : Bool) (m : Nat) : (signed s m).tdiv oneUnits = signed s (m / oneUnits) := by
    cases s with
    | false => exact (Int.ofNat_tdiv m oneUnits).symm
    | true => exact (Int.neg_tdiv ..).trans (congrArg Neg.neg (Int.ofNat_tdiv m oneUnits).symm)
  have none : wholeUnits 0 = 0 := by decide +kernel
  have sign {s : Bool} {m : Nat} (value : signed s m = v) :
      signed (v < 0) (wholeUnits v.natAbs) = signed s (wholeUnits m) := by
    subst value
    rcases Nat.eq_zero_or_pos m with rfl | positive
    · rw [signed_zero, Int.natAbs_zero, none, signed_zero, signed_zero]
    · cases s with
      | false => simp [signed]
      | true =>
        simp only [signed, if_true, Int.natAbs_neg, Int.natAbs_natCast, decide_eq_true_eq]
        omega
  cases x with
  | nan => simp [value] at hv
  | infinite s =>
    rw [value_infinite, Option.some.injEq] at hv
    have most : wholeUnits overflowUnits = overflowUnits / oneUnits := by decide +kernel
    have unmoved : (infinite s).round = infinite s := rfl
    rw [sign hv, most, whole, unmoved, value_infinite, Option.getD_some, tdiv_signed]
  | finite s m magnitude =>
    rw [value_finite, Option.some.injEq] at hv
    rw [sign hv, whole, round, ofRatio, value_ofQuotient, Option.getD_some, tdiv_signed]
    rfl

theorem whole_mono {a b : Single} {u v : Int} (hu : a.value = some u) (hv : b.value = some v)
    (le : u ≤ v) : a.whole ≤ b.whole := by
  rw [whole_eq hu, whole_eq hv]
  exact signed_mono wholeUnits_mono le

theorem whole_nan : nan.whole = 0 := rfl

theorem whole_congr {a b : Single} (same : a.value = b.value) : a.whole = b.whole := by
  cases place : a.value with
  | none =>
    obtain rfl := value_eq_none.1 place
    obtain rfl := value_eq_none.1 same.symm
    rfl
  | some v => rw [whole_eq place, whole_eq (same.symm.trans place)]

theorem roundQuotient_mul_oneUnits (n : Nat) :
    roundQuotient (n * oneUnits) 1 = roundQuotient n 1 * oneUnits := by
  have scaled (m : Nat) : m * oneUnits = m <<< 149 := by
    rw [oneUnits, Nat.one_shiftLeft, Nat.shiftLeft_eq]
  rw [scaled, scaled, roundQuotient_scaled]

theorem rounded_lt_overflowUnits {n : Nat} (bounded : n ≤ 0xffffffff) :
    roundQuotient n 1 * oneUnits < overflowUnits :=
  Nat.lt_of_le_of_lt (Nat.mul_le_mul_right _ (roundQuotient_mono bounded)) (by decide +kernel)

theorem value_ofNat {n : Nat} (bounded : n ≤ 0xffffffff) :
    (ofNat n).value = some ((roundQuotient n 1 * oneUnits : Nat) : Int) := by
  rw [ofNat, ofRatio, value_ofQuotient, roundQuotient_mul_oneUnits,
    Nat.min_eq_left (Nat.le_of_lt (rounded_lt_overflowUnits bounded))]
  rfl

theorem whole_ofNat {n : Nat} (bounded : n ≤ 0xffffffff) :
    (ofNat n).whole = roundQuotient n 1 := by
  have positive : 0 < oneUnits := by decide
  have half : oneUnits / 2 < oneUnits := by decide
  have back : wholeUnits (roundQuotient n 1 * oneUnits) = roundQuotient n 1 := by
    rw [wholeUnits, Nat.add_comm, Nat.add_mul_div_right _ _ positive, Nat.div_eq_of_lt half,
      Nat.zero_add, roundQuotient_mul_oneUnits, roundQuotient_roundQuotient,
      Nat.min_eq_left (Nat.le_of_lt (rounded_lt_overflowUnits bounded)),
      Nat.mul_div_cancel _ positive]
  have natural : ¬((roundQuotient n 1 * oneUnits : Nat) : Int) < 0 :=
    Int.not_lt.2 (Int.natCast_nonneg _)
  rw [whole_eq (value_ofNat bounded), Int.natAbs_natCast, back, decide_eq_false natural]
  rfl

end Single

/-! ### Edges -/

namespace Rect

theorem normalized_of_not_lt {r : Rect} (width : r.width.lt 0 = false)
    (height : r.height.lt 0 = false) : r.normalized = r := by
  simp only [normalized, normalizedSide, width, height, Bool.false_eq_true, if_false]

theorem snap_eq (limit : Nat) (edge : Single) :
    snap limit edge = min (min (coordinateLimit : Int) edge.whole).toNat limit := by
  unfold snap
  rw [Single.toNatWithin_max_round]

theorem snap_le (limit : Nat) (edge : Single) : snap limit edge ≤ limit := Nat.min_le_right ..

theorem snap_congr {a b : Single} (same : a.value = b.value) (limit : Nat) :
    snap limit a = snap limit b := by
  rw [snap_eq, snap_eq, Single.whole_congr same]

/-- Edges that do not cross each other are not snapped across each other. -/
theorem snap_mono {a b : Single} {u v : Int} (hu : a.value = some u) (hv : b.value = some v)
    (le : u ≤ v) (limit : Nat) : snap limit a ≤ snap limit b := by
  have less := Single.whole_mono hu hv le
  rw [snap_eq, snap_eq]
  omega

theorem snap_nan (limit : Nat) : snap limit .nan = 0 := by
  rw [snap_eq, Single.whole_nan]
  omega

/-- The larger edge has the larger boundary, and an undefined edge has the least. -/
theorem snap_max (limit : Nat) (a b : Single) :
    snap limit (a.max b) = max (snap limit a) (snap limit b) := by
  cases placeA : a.value with
  | none =>
    rw [Single.value_eq_none.1 placeA, snap_nan, Nat.zero_max]
    rfl
  | some u =>
    cases placeB : b.value with
    | none =>
      have kept : a.max b = a := by
        unfold Single.max
        split
        · simp [Single.value] at placeA
        · simp [Single.lt, placeA, placeB]
      rw [kept, Single.value_eq_none.1 placeB, snap_nan, Nat.max_zero]
    | some v =>
      have larger := Single.value_max placeA placeB
      rcases Int.le_total u v with le | le
      · rw [Int.max_eq_right le] at larger
        rw [snap_congr (larger.trans placeB.symm), Nat.max_eq_right (snap_mono placeA placeB le _)]
      · rw [Int.max_eq_left le] at larger
        rw [snap_congr (larger.trans placeA.symm), Nat.max_eq_left (snap_mono placeB placeA le _)]

theorem snap_min {a b : Single} (numberA : a.value.isSome = true) (numberB : b.value.isSome = true)
    (limit : Nat) : snap limit (a.min b) = min (snap limit a) (snap limit b) := by
  obtain ⟨u, hu⟩ := Option.isSome_iff_exists.1 numberA
  obtain ⟨v, hv⟩ := Option.isSome_iff_exists.1 numberB
  have smaller := Single.value_min hu hv
  rcases Int.le_total u v with le | le
  · rw [Int.min_eq_left le] at smaller
    rw [snap_congr (smaller.trans hu.symm), Nat.min_eq_left (snap_mono hu hv le _)]
  · rw [Int.min_eq_right le] at smaller
    rw [snap_congr (smaller.trans hv.symm), Nat.min_eq_right (snap_mono hv hu le _)]

/-- A whole edge is snapped to the number that it was rounded to, if that is inside. -/
theorem snap_ofNat {limit n : Nat} (inside : limit ≤ coordinateLimit) (bounded : n ≤ 0xffffffff) :
    snap limit (.ofNat n) = min (roundQuotient n 1) limit := by
  rw [snap_eq, Single.whole_ofNat bounded]
  omega

end Rect

end RenderRelay

import RenderRelay.Proofs.Blending

/-!
Premultiplied colours. No colour byte of a premultiplied pixel is above its alpha byte. Colours that
were made of straight components quantize to such pixels (`quantize_isPremultiplied`), and laid over
such a pixel they leave one (`overPixel_isPremultiplied`), as rounding keeps the order at every step
from a channel and its alpha to their bytes. An undefined channel has the byte zero, and under an
undefined alpha all channels are undefined.
-/

namespace RenderRelay

theorem roundQuotient_mul_left (num den : Nat) {scale : Nat} (positive : 0 < scale) :
    roundQuotient (scale * num) (scale * den) = roundQuotient num den := by
  unfold roundQuotient
  rw [Nat.mul_div_mul_left _ _ positive, Nat.shiftLeft_eq (scale * den), Nat.mul_assoc,
    ← Nat.shiftLeft_eq den, nearestEven_mul_left _ _ positive]

namespace Single

/-! ### Products -/

theorem isFinite_of_lt {a : Single} {m : Nat} (ha : a.value = some (m : Int))
    (below : m < overflowUnits) : a.isFinite = true :=
  isFinite_iff.2 ⟨m, ha, below⟩

theorem oneUnits_lt_overflowUnits : oneUnits < overflowUnits := by decide +kernel

theorem oneUnits_pos : 0 < oneUnits := by decide

theorem value_mul {a b : Single} {m n : Nat} (ha : a.value = some (m : Int))
    (hb : b.value = some (n : Int)) (belowA : m < overflowUnits) (belowB : n < overflowUnits) :
    (a * b).value = some ((min (roundQuotient (m * n) oneUnits) overflowUnits : Nat) : Int) := by
  obtain ⟨s, k, magnitude, rfl⟩ := eq_finite (isFinite_of_lt ha belowA)
  obtain ⟨t, l, magnitude', rfl⟩ := eq_finite (isFinite_of_lt hb belowB)
  rw [value_finite, Option.some.injEq] at ha hb
  have product : (finite s k magnitude * finite t l magnitude').value =
      some (signed (s ^^ t) (min (roundQuotient (k * l) oneUnits) overflowUnits)) :=
    value_ofQuotient ..
  have nothing : min (roundQuotient 0 oneUnits) overflowUnits = 0 := by decide +kernel
  rw [product]
  rcases signed_inj (t := false) ha with ⟨rfl, rfl⟩ | ⟨rfl, rfl⟩
  · rcases signed_inj (t := false) hb with ⟨rfl, rfl⟩ | ⟨rfl, rfl⟩
    · rfl
    · rw [Nat.mul_zero, nothing, signed_zero]
      rfl
  · rw [Nat.zero_mul, Nat.zero_mul, nothing, signed_zero]
    rfl

/-- A number that is not negative has no more than its significant bits. -/
theorem roundQuotient_value {a : Single} {m : Nat} (ha : a.value = some (m : Int))
    (below : m < overflowUnits) : roundQuotient m 1 = m := by
  obtain ⟨s, k, magnitude, rfl⟩ := eq_finite (isFinite_of_lt ha below)
  rw [value_finite, Option.some.injEq] at ha
  rcases signed_inj (t := false) ha with ⟨-, rfl⟩ | ⟨-, rfl⟩
  · exact roundQuotient_one magnitude.1
  · rfl

theorem roundQuotient_mul_le {a : Single} {m n : Nat} (ha : a.value = some (n : Int))
    (below : n < overflowUnits) (unit : m ≤ oneUnits) : roundQuotient (m * n) oneUnits ≤ n :=
  calc
    roundQuotient (m * n) oneUnits ≤ roundQuotient (oneUnits * n) (oneUnits * 1) := by
      rw [Nat.mul_one]
      exact roundQuotient_mono (Nat.mul_le_mul_right n unit)
    _ = n := by rw [roundQuotient_mul_left _ _ oneUnits_pos, roundQuotient_value ha below]

theorem nan_mul (a : Single) : nan * a = nan := rfl

theorem mul_nan (a : Single) : a * nan = nan := by
  cases a <;> rfl

theorem nan_add (a : Single) : nan + a = nan := rfl

/-! ### The unit range -/

/-- A number from zero to one, by its count of units. -/
def IsUnit (a : Single) (m : Nat) : Prop := a.value = some (m : Int) ∧ m ≤ oneUnits

namespace IsUnit

variable {a b : Single} {m n : Nat}

theorem below (unit : IsUnit a m) : m < overflowUnits :=
  Nat.lt_of_le_of_lt unit.2 oneUnits_lt_overflowUnits

theorem isFinite (unit : IsUnit a m) : a.isFinite = true := isFinite_of_lt unit.1 unit.below

theorem mul (unitA : IsUnit a m) (unitB : IsUnit b n) :
    IsUnit (a * b) (roundQuotient (m * n) oneUnits) := by
  have less := roundQuotient_mul_le unitB.1 unitB.below unitA.2
  refine ⟨?_, less.trans unitB.2⟩
  rw [value_mul unitA.1 unitB.1 unitA.below unitB.below,
    Nat.min_eq_left (less.trans unitB.below.le)]

theorem one_sub (unit : IsUnit a m) : ∃ k, IsUnit (1 - a) k := by
  have one : IsUnit 1 oneUnits := ⟨value_one, Nat.le_refl _⟩
  have negated : (-a).value = some (-(m : Int)) := by rw [value_neg, unit.1]; rfl
  have rest : (oneUnits : Int) + -(m : Int) = ((oneUnits - m : Nat) : Int) := by
    have := unit.2
    omega
  have less : roundQuotient (oneUnits - m) 1 ≤ oneUnits :=
    (roundQuotient_mono (Nat.sub_le ..)).trans_eq (roundQuotient_value one.1 one.below)
  refine ⟨roundQuotient (oneUnits - m) 1, ?_, less⟩
  change (1 + -a).value = _
  rw [value_add one.isFinite ((isFinite_neg a).trans unit.isFinite) one.1 negated, rest, nearest,
    Int.natAbs_natCast, decide_eq_false (Int.not_lt.2 (Int.natCast_nonneg _)),
    Nat.min_eq_left (less.trans oneUnits_lt_overflowUnits.le)]
  rfl

end IsUnit

theorem value_clamp {a : Single} {v : Int} (ha : a.value = some v) :
    (a.clamp 0 1).value = some (min (max 0 v) oneUnits) := by
  have ordered : Single.lt 1 0 = false := by decide +kernel
  unfold clamp
  simp only [lt_iff ha value_zero]
  split
  case isTrue negative =>
    rw [ordered, if_neg Bool.false_ne_true, value_zero]
    congr 1
    omega
  case isFalse =>
    simp only [lt_iff value_one ha]
    split
    case isTrue => rw [value_one]; congr 1; omega
    case isFalse => rw [ha]; congr 1; omega

theorem clamp_nan : nan.clamp 0 1 = nan := rfl

/-- Held in the unit range, a number lies there unless it is undefined. -/
theorem isUnit_clamp (a : Single) : a.clamp 0 1 = nan ∨ ∃ m, IsUnit (a.clamp 0 1) m := by
  cases place : a.value with
  | none =>
    obtain rfl := value_eq_none.1 place
    exact .inl clamp_nan
  | some v =>
    refine .inr ⟨(min (max 0 v) oneUnits).toNat, ?_, by omega⟩
    rw [value_clamp place, Int.toNat_of_nonneg (by omega)]

end Single

namespace Color

/-! ### Channels -/

theorem quantizeChannel_eq (v : Single) : quantizeChannel v =
    .ofNat (max 0 (min 255 (v.clamp 0 1 * 255).whole)).toNat := by
  rw [quantizeChannel, Single.toNatWithin, Single.toIntWithin_round (by decide) (by decide)]
  rfl

theorem quantizeChannel_nan : quantizeChannel .nan = 0 := rfl

/-- **Quantizing keeps the order.** -/
theorem quantizeChannel_mono {v w : Single} {m n : Nat} (hv : v.value = some (m : Int))
    (hw : w.value = some (n : Int)) (le : m ≤ n) : quantizeChannel v ≤ quantizeChannel w := by
  have last : (255 : Single).value = some ((255 * Single.oneUnits : Nat) : Int) := by
    decide +kernel
  have bounded : 255 * Single.oneUnits < overflowUnits := by decide +kernel
  -- both are held in the unit range and multiplied
  have scaled {v : Single} {m : Nat} (hv : v.value = some (m : Int)) :
      (v.clamp 0 1 * 255).value = some ((min (roundQuotient
        (min m Single.oneUnits * (255 * Single.oneUnits)) Single.oneUnits) overflowUnits : Nat)
          : Int) := by
    have held : (v.clamp 0 1).value = some ((min m Single.oneUnits : Nat) : Int) := by
      rw [Single.value_clamp hv]
      congr 1
      omega
    exact Single.value_mul held last (by have := Single.oneUnits_lt_overflowUnits; omega) bounded
  have product := @roundQuotient_mono _ _ Single.oneUnits
    (Nat.mul_le_mul_right (255 * Single.oneUnits) (show min m Single.oneUnits ≤
      min n Single.oneUnits by omega))
  have whole := Single.whole_mono (scaled hv) (scaled hw) (by omega)
  rw [quantizeChannel_eq, quantizeChannel_eq, UInt8.le_iff_toNat_le, UInt8.toNat_ofNat',
    UInt8.toNat_ofNat']
  omega

/-- A channel next to its alpha: undefined, or from zero to an alpha of at most one. -/
def Shaded (alpha top : Single) : Prop :=
  top = .nan ∨ ∃ m n, top.value = some ((m : Nat) : Int) ∧ alpha.IsUnit n ∧ m ≤ n

theorem Shaded.quantizeChannel_le {alpha top : Single} (shaded : Shaded alpha top) :
    quantizeChannel top ≤ quantizeChannel alpha := by
  obtain rfl | ⟨m, n, top', unit, le⟩ := shaded
  · exact UInt8.zero_le
  · exact quantizeChannel_mono top' unit.1 le

/-- What a byte stands for is no larger than what a larger byte does. -/
theorem isUnit_unitOfByte {v w : UInt8} (le : v ≤ w) :
    ∃ m n, (unitOfByte v).IsUnit m ∧ (unitOfByte w).IsUnit n ∧ m ≤ n := by
  have value (v : UInt8) : (unitOfByte v).IsUnit
      (min (roundQuotient (v.toNat * Single.oneUnits) 255) overflowUnits) := by
    refine ⟨Single.value_ofQuotient .., ?_⟩
    have most : roundQuotient (255 * Single.oneUnits) 255 = Single.oneUnits := by decide +kernel
    have byte : v.toNat ≤ 255 := Nat.le_of_lt_succ v.toNat_lt
    have less := @roundQuotient_mono _ _ 255 (Nat.mul_le_mul_right Single.oneUnits byte)
    omega
  refine ⟨_, _, value v, value w, ?_⟩
  have less := @roundQuotient_mono _ _ 255
    (Nat.mul_le_mul_right Single.oneUnits (UInt8.le_iff_toNat_le.1 le))
  omega

/-- A byte that is no larger than another stays so when a channel and its alpha are laid over the
two. -/
theorem Shaded.overChannel_le {alpha top : Single} (shaded : Shaded alpha top) {v w : UInt8}
    (le : v ≤ w) :
    quantizeChannel (overChannel alpha top (unitOfByte v)) ≤
      quantizeChannel (overChannel alpha alpha (unitOfByte w)) := by
  obtain rfl | ⟨m, n, hm, alphaUnit, less⟩ := shaded
  · rw [overChannel, Single.nan_add, quantizeChannel_nan]
    exact UInt8.zero_le
  obtain ⟨p, q, unitV, unitW, below⟩ := isUnit_unitOfByte le
  obtain ⟨k, rest⟩ := alphaUnit.one_sub
  have topFinite := Single.isFinite_of_lt hm (Nat.lt_of_le_of_lt less alphaUnit.below)
  -- each sum is rounded once
  have sum {a b : Single} {m n : Nat} (ha : a.value = some (m : Int)) (hb : b.IsUnit n)
      (bounded : a.isFinite = true) :
      (a + b).value = some ((min (roundQuotient (m + n) 1) overflowUnits : Nat) : Int) := by
    rw [Single.value_add bounded hb.isFinite ha hb.1, Single.nearest, ← Int.natCast_add,
      Int.natAbs_natCast, decide_eq_false (Int.not_lt.2 (Int.natCast_nonneg _))]
    rfl
  refine quantizeChannel_mono (sum hm (unitV.mul rest) topFinite)
    (sum alphaUnit.1 (unitW.mul rest) alphaUnit.isFinite) ?_
  have products := @roundQuotient_mono _ _ Single.oneUnits (Nat.mul_le_mul_right k below)
  have sums := @roundQuotient_mono _ _ 1 (Nat.add_le_add less products)
  omega

/-! ### Colours and pixels -/

/-- The colour was made of components that were not multiplied by alpha, numbers or bytes. -/
inductive FromStraight : Color → Prop
  | ofStraight (r g b a : Single) : FromStraight (.ofStraight r g b a)
  | ofBytes (r g b a : UInt8) : FromStraight (.ofBytes r g b a)

/-- A component that is held in the unit range and multiplied by such an alpha. -/
theorem shaded_mul (alpha v : Single) :
    Shaded (alpha.clamp 0 1) (v.clamp 0 1 * alpha.clamp 0 1) := by
  obtain none | ⟨n, alphaUnit⟩ := alpha.isUnit_clamp
  · exact .inl (by rw [none, Single.mul_nan])
  obtain none | ⟨m, unit⟩ := v.isUnit_clamp
  · exact .inl (by rw [none, Single.nan_mul])
  · exact .inr ⟨_, n, (unit.mul alphaUnit).1, alphaUnit,
      Single.roundQuotient_mul_le alphaUnit.1 alphaUnit.below unit.2⟩

theorem FromStraight.shaded {c : Color} (straight : FromStraight c) :
    Shaded c.a c.r ∧ Shaded c.a c.g ∧ Shaded c.a c.b := by
  cases straight with
  | ofStraight r g b a => exact ⟨shaded_mul a r, shaded_mul a g, shaded_mul a b⟩
  | ofBytes r g b a =>
    exact ⟨shaded_mul (unitOfByte a) (unitOfByte r), shaded_mul (unitOfByte a) (unitOfByte g),
      shaded_mul (unitOfByte a) (unitOfByte b)⟩

end Color

def Pixel.IsPremultiplied (p : Pixel) : Prop := p.r ≤ p.a ∧ p.g ≤ p.a ∧ p.b ≤ p.a

theorem Pixel.isPremultiplied_transparent : transparent.IsPremultiplied := by
  unfold IsPremultiplied transparent
  decide

namespace Color.FromStraight

variable {c : Color}

theorem quantize_isPremultiplied (straight : FromStraight c) : c.quantize.IsPremultiplied := by
  obtain ⟨r, g, b⟩ := straight.shaded
  exact ⟨r.quantizeChannel_le, g.quantizeChannel_le, b.quantizeChannel_le⟩

theorem overPixel_isPremultiplied (straight : FromStraight c) {p : Pixel}
    (premultiplied : p.IsPremultiplied) : (c.overPixel p).IsPremultiplied := by
  obtain ⟨r, g, b⟩ := straight.shaded
  exact ⟨r.overChannel_le premultiplied.1, g.overChannel_le premultiplied.2.1,
    b.overChannel_le premultiplied.2.2⟩

end Color.FromStraight

end RenderRelay

/-!
Single-precision numbers, exactly. A finite number is a sign and a count of units of `2 ^ -149`,
the spacing of the smallest ones, so every sum, product and quotient is a quotient of two natural
numbers that is rounded once: `roundQuotient`, to twenty-four significant bits, ties to even.

`a = b` is equality of representations; `a == b` is the numeric comparison, under which the two
zeros agree and the undefined number differs from itself.
-/

namespace RenderRelay

/-! ### Rounding -/

/-- The natural number nearest to `num / den`; of two equally near, the even one. -/
def nearestEven (num den : Nat) : Nat :=
  if 2 * (num % den) < den then num / den
  else if den < 2 * (num % den) then num / den + 1
  else num / den + num / den % 2

/-- Drops all but the leading twenty-four bits of the quotient, to the nearest. -/
def roundQuotient (num den : Nat) : Nat :=
  nearestEven num (den <<< ((num / den).log2 - 23)) <<< ((num / den).log2 - 23)

/-- The first magnitude that is too large to be finite, in units. -/
def overflowUnits : Nat := 1 <<< 277

/-- A count of units is a finite magnitude when it has at most twenty-four significant bits and
stays below the overflow threshold. -/
def IsMagnitude (units : Nat) : Prop :=
  1 <<< (units.log2 - 23) ∣ units ∧ units < overflowUnits

instance (units : Nat) : Decidable (IsMagnitude units) :=
  inferInstanceAs (Decidable (_ ∧ _))

theorem nearestEven_le_succ (num den : Nat) : nearestEven num den ≤ num / den + 1 := by
  unfold nearestEven
  split
  · omega
  · split <;> omega

/-- A scaled number of at most twenty-four bits keeps its low zeros. -/
theorem one_shiftLeft_dvd_scaled {m : Nat} (s : Nat) (h : m ≤ 0x1000000) :
    1 <<< ((m <<< s).log2 - 23) ∣ m <<< s := by
  rw [show 0x1000000 = 2 ^ 24 from rfl] at h
  simp only [Nat.shiftLeft_eq, Nat.one_mul]
  rcases Nat.eq_zero_or_pos m with rfl | hm
  · simp
  rcases Nat.lt_or_ge m (2 ^ 24) with hlt | hge
  · have hne : m * 2 ^ s ≠ 0 := Nat.ne_of_gt (Nat.mul_pos hm (Nat.two_pow_pos s))
    have hlog : (m * 2 ^ s).log2 < 24 + s := by
      rw [Nat.log2_lt hne, Nat.pow_add]
      exact Nat.mul_lt_mul_of_pos_right hlt (Nat.two_pow_pos s)
    exact Nat.dvd_trans (Nat.pow_dvd_pow 2 (by omega)) (Nat.dvd_mul_left _ _)
  · have hm24 : m = 2 ^ 24 := Nat.le_antisymm h hge
    subst hm24
    rw [← Nat.pow_add, Nat.log2_two_pow]
    exact Nat.pow_dvd_pow 2 (by omega)

theorem one_shiftLeft_dvd_roundQuotient (num den : Nat) :
    1 <<< ((roundQuotient num den).log2 - 23) ∣ roundQuotient num den := by
  refine one_shiftLeft_dvd_scaled _ (Nat.le_trans (nearestEven_le_succ _ _) ?_)
  have hlog : num / den < 2 ^ ((num / den).log2 + 1) := Nat.lt_log2_self
  have hle : 2 ^ ((num / den).log2 + 1) ≤ 2 ^ 24 * 2 ^ ((num / den).log2 - 23) := by
    rw [← Nat.pow_add]
    exact Nat.pow_le_pow_right (by decide) (by omega)
  rw [Nat.shiftLeft_eq, ← Nat.div_div_eq_div_mul]
  have : num / den / 2 ^ ((num / den).log2 - 23) < 2 ^ 24 :=
    (Nat.div_lt_iff_lt_mul (Nat.two_pow_pos _)).2 (Nat.lt_of_lt_of_le hlog hle)
  omega

/-! ### The numbers -/

/-- A single-precision number. -/
inductive Single where
  | nan
  | infinite (negative : Bool)
  | finite (negative : Bool) (units : Nat) (isMagnitude : IsMagnitude units)
  deriving DecidableEq

namespace Single

/-- The number nearest to `± num / den` units; infinite once that reaches the threshold. -/
def ofQuotient (negative : Bool) (num den : Nat) : Single :=
  if h : roundQuotient num den < overflowUnits then
    .finite negative (roundQuotient num den) ⟨one_shiftLeft_dvd_roundQuotient num den, h⟩
  else .infinite negative

def oneUnits : Nat := 1 <<< 149

def ofRatio (negative : Bool) (num den : Nat) : Single :=
  ofQuotient negative (num * oneUnits) den

def ofNat (n : Nat) : Single := ofRatio false n 1

instance : OfNat Single n := ⟨ofNat n⟩

instance : Inhabited Single := ⟨0⟩

/-- The count of units with its sign. The infinite numbers stand at the overflow threshold, beyond
every finite one; the undefined number has no place. -/
def value : Single → Option Int
  | nan => none
  | infinite false => some overflowUnits
  | infinite true => some (-overflowUnits)
  | finite false units _ => some units
  | finite true units _ => some (-units)

def isFinite : Single → Bool
  | finite .. => true
  | _ => false

/-! ### Arithmetic -/

protected def neg : Single → Single
  | nan => nan
  | infinite s => infinite !s
  | finite s units h => finite (!s) units h

instance : Neg Single := ⟨Single.neg⟩

/-- A sign and a count of units as an integer. -/
def signed (negative : Bool) (units : Nat) : Int :=
  if negative then -units else units

/-- The nearest number to a whole count of units; `zeroSign` is the sign of an exact zero. -/
def ofUnits (zeroSign : Bool) (units : Int) : Single :=
  ofQuotient (if units = 0 then zeroSign else units < 0) units.natAbs 1

protected def add : Single → Single → Single
  | nan, _ => nan
  | _, nan => nan
  | infinite s, infinite t => if s = t then infinite s else nan
  | infinite s, finite .. => infinite s
  | finite .., infinite t => infinite t
  | finite s m _, finite t n _ => ofUnits (s && t) (signed s m + signed t n)

instance : Add Single := ⟨Single.add⟩

instance : Sub Single := ⟨fun a b => a + -b⟩

/-- The product, rounded once. An infinite number times zero has none. -/
protected def mul : Single → Single → Single
  | nan, _ => nan
  | _, nan => nan
  | infinite s, infinite t => infinite (s ^^ t)
  | infinite s, finite t n _ => if n = 0 then nan else infinite (s ^^ t)
  | finite s m _, infinite t => if m = 0 then nan else infinite (s ^^ t)
  | finite s m _, finite t n _ => ofQuotient (s ^^ t) (m * n) oneUnits

instance : Mul Single := ⟨Single.mul⟩

protected def div : Single → Single → Single
  | nan, _ => nan
  | _, nan => nan
  | infinite _, infinite _ => nan
  | infinite s, finite t _ _ => infinite (s ^^ t)
  | finite s _ _, infinite t => ofQuotient (s ^^ t) 0 1
  | finite s m _, finite t n _ =>
    if n = 0 then if m = 0 then nan else infinite (s ^^ t)
    else ofQuotient (s ^^ t) (m * oneUnits) n

instance : Div Single := ⟨Single.div⟩

/-! ### Order -/

def lt (a b : Single) : Bool :=
  match a.value, b.value with
  | some x, some y => x < y
  | _, _ => false

/-- Numerically at most; never so for the undefined number. -/
def le (a b : Single) : Bool :=
  match a.value, b.value with
  | some x, some y => x ≤ y
  | _, _ => false

instance : BEq Single where
  beq a b :=
    match a.value, b.value with
    | some x, some y => x == y
    | _, _ => false

/-- The smaller of two numbers, the first of two equal ones; an undefined one is passed over. -/
protected def min (a b : Single) : Single :=
  match a with
  | nan => b
  | _ => if b.lt a then b else a

/-- The larger of two numbers, the first of two equal ones; an undefined one is passed over. -/
protected def max (a b : Single) : Single :=
  match a with
  | nan => b
  | _ => if a.lt b then b else a

/-- The number held between two bounds; the undefined number stays as it is. -/
def clamp (x lo hi : Single) : Single :=
  let x := if x.lt lo then lo else x
  if hi.lt x then hi else x

/-! ### Integers -/

/-- The nearest integer, half away from zero, as a number with the same sign. -/
def round : Single → Single
  | finite s units _ => ofRatio s ((units + oneUnits / 2) / oneUnits) 1
  | x => x

/-- The integer part, held between `lo` and `hi`; zero for the undefined number. -/
def toIntWithin (lo hi : Int) (x : Single) : Int :=
  match x.value with
  | none => 0
  | some v => max lo (min hi (v.tdiv oneUnits))

def toNatWithin (hi : Nat) (x : Single) : Nat := (x.toIntWithin 0 hi).toNat

/-! ### Interchange formats -/

/-- The thirty-two bits of a magnitude: the exponent is how far the leading bit stands above the
twenty-fourth place, and the leading bit itself carries into the exponent field. -/
def magnitudeBits (units : Nat) : Nat :=
  (units.log2 - 23) <<< 23 + units >>> (units.log2 - 23)

/-- The sign bit, eight bits of exponent, twenty-three of fraction. -/
def toBits : Single → UInt32
  | nan => 0x7fc00000
  | infinite s => .ofNat (magnitudeBits overflowUnits + if s then 0x80000000 else 0)
  | finite s units _ => .ofNat (magnitudeBits units + if s then 0x80000000 else 0)

/-- The number of a bit pattern; all patterns of undefined numbers give the one `nan`. -/
def ofBits (bits : UInt32) : Single :=
  let negative := decide (0x80000000 ≤ bits.toNat)
  let exponent := bits.toNat >>> 23 % 0x100
  let fraction := bits.toNat % 0x800000
  if exponent = 255 then if fraction = 0 then infinite negative else nan
  else if exponent = 0 then ofQuotient negative fraction 1
  else ofQuotient negative ((0x800000 + fraction) <<< (exponent - 1)) 1

/-- The bits of the same number in double precision, where every single-precision number has an
exact place; `none` for the undefined number. -/
def toDoubleBits? : Single → Option UInt64
  | nan => none
  | infinite s => some (.ofNat (if s then 0xfff0000000000000 else 0x7ff0000000000000))
  | finite s units _ =>
    let sign := if s then 0x8000000000000000 else 0
    if units = 0 then some (.ofNat sign)
    else some (.ofNat ((units.log2 + 873) <<< 52 + units <<< 52 >>> units.log2 + sign))

end Single

end RenderRelay

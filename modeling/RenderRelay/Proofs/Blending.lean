import RenderRelay.Proofs.Repaint.Shade
import RenderRelay.Proofs.Rounding

/-!
Blending by the pixel. A colour that nothing shows through is not laid over each pixel of an area,
but put in its place. That is the same where alpha is one: what is below then counts for nothing,
whatever the components are (`quantizeChannel_overChannel_one`). An alpha above one would take from
what is below; such a colour is opaque too, and blends as if its alpha were one
(`blend_source_over`).
-/

namespace RenderRelay

namespace Single

theorem value_one : (1 : Single).value = some (oneUnits : Int) := by decide +kernel

/-- What is at least one is above it or is one itself. -/
theorem lt_or_eq_of_one_le {a : Single} (le : Single.le 1 a = true) :
    Single.lt 1 a = true ∨ a = 1 := by
  unfold Single.le at le
  rw [value_one] at le
  cases place : a.value with
  | none => simp [place] at le
  | some v =>
    simp only [place, decide_eq_true_eq] at le
    rcases Int.lt_or_eq_of_le le with less | same
    · exact .inl ((lt_iff value_one place).2 less)
    · subst same
      rcases eq_or_zero_of_value (place.trans value_one.symm) with rfl | ⟨-, zero⟩
      · exact .inr rfl
      · exact absurd (value_one.symm.trans zero) (by decide)

end Single

namespace Color

/-! ### Channels -/

theorem quantizeChannel_of_zero {v : Single} (zero : v.value = some 0) : quantizeChannel v = 0 := by
  have bounded : v.isFinite = true := Single.isFinite_iff.2 ⟨0, zero, Single.overflowUnits_pos⟩
  obtain ⟨s, units, magnitude, rfl⟩ := Single.eq_finite bounded
  rw [Single.value_finite, Option.some.injEq] at zero
  have none : units = 0 := by
    cases s <;> simpa [Single.signed] using zero
  subst none
  have both : ∀ s, quantizeChannel (.finite s 0 (by decide)) = 0 := by decide +kernel
  exact both s

theorem quantizeChannel_congr {v w : Single} (same : v.value = w.value) :
    quantizeChannel v = quantizeChannel w := by
  rcases Single.eq_or_zero_of_value same with rfl | ⟨zero, zero'⟩
  · rfl
  · rw [quantizeChannel_of_zero zero, quantizeChannel_of_zero zero']

theorem quantizeChannel_of_one_le {v : Single} (le : Single.le 1 v = true) :
    quantizeChannel v = 255 := by
  rcases Single.lt_or_eq_of_one_le le with above | rfl
  · have notBelow : v.lt 0 = false := by
      unfold Single.lt at above ⊢
      rw [Single.value_one] at above
      rw [Single.value_zero]
      cases place : v.value with
      | none => rfl
      | some u =>
        have positive : (0 : Int) ≤ Single.oneUnits := Int.natCast_nonneg _
        simp only [place, decide_eq_true_eq] at above
        simp only [decide_eq_false_iff_not]
        omega
    have held : v.clamp 0 1 = 1 := by
      simp only [Single.clamp, notBelow, Bool.false_eq_true, if_false, above, if_true]
    have last : UInt8.ofNat (((1 : Single) * 255).round.toNatWithin 255) = 255 := by decide +kernel
    rw [quantizeChannel, held, last]
  · decide +kernel

theorem quantizeChannel_overChannel_one (top : Single) (v : UInt8) :
    quantizeChannel (overChannel 1 top (unitOfByte v)) = quantizeChannel top := by
  have nothing : ∀ i : Fin 256, (unitOfByte (.ofFin i) * (1 - 1)).value = some 0 := by
    decide +kernel
  apply quantizeChannel_congr
  rw [overChannel, Single.add_comm]
  exact Single.value_zero_add (nothing v.toFin) top

/-! ### Colours -/

/-- The colour with an alpha above one taken for one. An undefined alpha stays undefined. -/
def capped (c : Color) : Color := if Single.lt 1 c.a then { c with a := 1 } else c

/-- An opaque colour takes the place of each pixel that it is laid over. -/
theorem capped_overPixel_of_isOpaque {c : Color} (covers : c.isOpaque = true) (p : Pixel) :
    c.capped.overPixel p = c.quantize := by
  have one : c.capped = { c with a := 1 } := by
    unfold capped
    split
    · rfl
    · next notAbove =>
      rcases Single.lt_or_eq_of_one_le covers with above | same
      · exact absurd above notAbove
      · rw [← same]
  have last : quantizeChannel 1 = quantizeChannel c.a := by
    rw [quantizeChannel_of_one_le covers]
    decide +kernel
  simp only [one, overPixel, laidOver, ofPixel, quantize, quantizeChannel_overChannel_one, last]

theorem capped_of_not_isOpaque {c : Color} (shows : c.isOpaque = false) : c.capped = c := by
  unfold capped
  split
  · next above =>
    have covers : c.isOpaque = true := Single.le_of_lt above
    rw [covers] at shows
    simp at shows
  · rfl

end Color

namespace Bitmap

/-- **Blending lays a colour over each pixel of an area**, and leaves all others alone, also where
the colour is opaque and fills the area. An alpha above one counts as one. -/
theorem blend_source_over (m : Bitmap) (area : PixelBox) (c : Color) :
    (m.blend area c).width = m.width ∧ (m.blend area c).height = m.height ∧
      ∀ x y, (m.blend area c).pixel? x y =
        (m.pixel? x y).map fun p => if area.contains x y then c.capped.overPixel p else p := by
  have same (p : Pixel) :
      (if c.isOpaque then c.quantize else c.overPixel p) = c.capped.overPixel p := by
    cases covers : c.isOpaque
    · simp [Color.capped_of_not_isOpaque covers]
    · simp [Color.capped_overPixel_of_isOpaque covers]
  rw [Headless.Frame.blend_eq_paint]
  refine ⟨width_paint .., height_paint .., fun x y => ?_⟩
  simp only [pixel?_paint, same]

/-- A white with an alpha of two, blended over white, is white. Laid over it, it would be black, as
it takes away all that is below. -/
theorem bright_white_stays :
    (((ofSize 1 1).fill ⟨0, 0, 1, 1⟩ .white).blend ⟨0, 0, 1, 1⟩ ⟨1, 1, 1, 2⟩).pixel? 0 0 =
        some ⟨255, 255, 255, 255⟩ ∧
      ((((ofSize 1 1).fill ⟨0, 0, 1, 1⟩ .white).pixel? 0 0).map
        (Color.overPixel ⟨1, 1, 1, 2⟩)) = some ⟨0, 0, 0, 255⟩ := by
  decide +kernel

end Bitmap

end RenderRelay

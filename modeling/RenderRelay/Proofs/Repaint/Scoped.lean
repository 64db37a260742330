import RenderRelay.Proofs.Layers.Redraw
import RenderRelay.Proofs.Repaint.Frames

/-!
Drawing inside a damage. An item looks at no pixel but the one that it changes, so the damage
decides which pixels a frame repaints and not what becomes of them. Two frames of one list agree
wherever both of them repaint, whatever was in their buffers, and keep everything else
(`common_damage_alike`).
-/

namespace RenderRelay

namespace Headless

open DeviceOp

section Rasterizes

variable {ω φ τ : Type} {report : LogRecord → ω → ω}
  {invoke : φ → Frame → FunctorInfo → StateM ω (Frame × Completion)}
  {perform : τ → StateM ω Completion}

/-- In some run a list is drawn to its end into a frame on this buffer, of which the damage was
cleared before. -/
def Rasterizes (H : Host (backend report) φ τ) (registry : Registry Layer φ) (list : DisplayList)
    (clear : Color) (before : Bitmap) (damage : PixelBox) (f : Frame) : Prop :=
  ∃ name target d d',
    (Context.drawItems H name registry list.id target list.items
      ⟨before.fill damage clear, damage⟩).runOn d = (.ok f, d')

variable {registry : Registry Layer φ} {list : DisplayList} {clear : Color} {size : Viewport}

theorem Rasterizes.of_ends {H : Host (backend report) φ τ} {before : Bitmap} {damage : PixelBox}
    (name : String) (target : Target) (d : Device ω)
    (run : (Context.drawItems H name registry list.id target list.items
      ⟨before.fill damage clear, damage⟩).Ends d (fun _ => ()) (.ok ())) :
    ∃ f, Rasterizes H registry list clear before damage f := by
  obtain ⟨f, d', run, -⟩ := run.ok
  exact ⟨f, name, target, d, d', run⟩

theorem Rasterizes.painted {before : Bitmap} {damage : PixelBox} {f : Frame}
    (plain : Plain registry list) (fits : HasSize before size)
    (drawn : Rasterizes (host report invoke perform) registry list clear before damage f) :
    Painted before size clear ⟨damage, list.items, layerPixels registry⟩ f.target := by
  obtain ⟨name, target, d, d', run⟩ := drawn
  have unattached : ∀ item ∈ list.items, ∀ id, item.op = .functor id →
      registry.functors.get? id = none := by
    intro item mem id op
    exact plain id (DisplayList.mem_functors mem op)
  have changed := (drawItems_shades unattached _ _ _ _ _ _ _ run).1
  have same : Frame.size ⟨before.fill damage clear, damage⟩ = size := by
    rw [Frame.size, Bitmap.fill, Bitmap.width_paint, Bitmap.height_paint, fits.1, fits.2]
  rw [same] at changed
  exact painted_of_changed fits (fun _ => rfl) changed

/-- **Frames agree on their common damage.** A list of clears, fills and layers, under any clips, is
drawn into two buffers of one size, each cleared to one colour on its own damage: every pixel of
both damages becomes the same, and each buffer keeps every pixel outside its damage. -/
theorem common_damage_alike {before₁ before₂ : Bitmap} {damage₁ damage₂ : PixelBox}
    {f₁ f₂ : Frame} (plain : Plain registry list) (fits₁ : HasSize before₁ size)
    (fits₂ : HasSize before₂ size)
    (drawn₁ : Rasterizes (host report invoke perform) registry list clear before₁ damage₁ f₁)
    (drawn₂ : Rasterizes (host report invoke perform) registry list clear before₂ damage₂ f₂) :
    (∀ x y, damage₁.contains x y = true → damage₂.contains x y = true →
      f₁.target.pixel? x y = f₂.target.pixel? x y) ∧
    (∀ x y, damage₁.contains x y = false → f₁.target.pixel? x y = before₁.pixel? x y) ∧
    ∀ x y, damage₂.contains x y = false → f₂.target.pixel? x y = before₂.pixel? x y := by
  have painted₁ := drawn₁.painted plain fits₁
  have painted₂ := drawn₂.painted plain fits₂
  refine ⟨?_, painted₁.kept fits₁, painted₂.kept fits₂⟩
  intro x y inside₁ inside₂
  by_cases within : x < size.width ∧ y < size.height
  · -- what the items make of a cleared pixel does not depend on the damage
    rw [painted₁.damaged x y within.1 within.2 inside₁,
      painted₂.damaged x y within.1 within.2 inside₂]
    rfl
  · rw [painted₁.fits.pixel?_eq_none within, painted₂.fits.pixel?_eq_none within]

end Rasterizes

/-- A registry with a layer of one grey pixel that something shows through. -/
def oneVeil : Registry Layer Unit :=
  Registry.empty.insertLayer ⟨1⟩
    ⟨⟨(Bitmap.ofSize 1 1).fill (.ofSize 1 1) (.ofBytes 128 128 128 128)⟩, ⟨1, 1⟩⟩

/-- Half a tone over both pixels, and the layer over the left one. -/
def veiled : DisplayList :=
  ⟨⟨1⟩, [⟨.fill ⟨0, 0, 2, 1⟩ (.ofBytes 255 0 0 128), none⟩,
    ⟨.layer ⟨1⟩ ⟨0, 0, 2, 1⟩, some ⟨0, 0, 1, 1⟩⟩]⟩

/-- A frame of the left pixel on a white buffer, and one of both pixels on an empty one. -/
theorem common_damage_alike_two_pixels :
    let white := (Bitmap.ofSize 2 1).fill (.ofSize 2 1) .white
    Plain oneVeil veiled ∧ HasSize white ⟨2, 1⟩ ∧ HasSize (Bitmap.ofSize 2 1) ⟨2, 1⟩ ∧
      ∃ f₁ f₂, Rasterizes idleHost oneVeil veiled .black white ⟨0, 0, 1, 1⟩ f₁ ∧
        Rasterizes idleHost oneVeil veiled .black (.ofSize 2 1) ⟨0, 0, 2, 1⟩ f₂ ∧
        f₁.target.pixel? 0 0 = f₂.target.pixel? 0 0 ∧
        f₁.target.pixel? 1 0 = white.pixel? 1 0 := by
  intro white
  have plain : Plain oneVeil veiled := by
    intro id _
    rfl
  have fits : HasSize white ⟨2, 1⟩ := ⟨rfl, rfl⟩
  obtain ⟨f₁, drawn₁⟩ : ∃ f, Rasterizes idleHost oneVeil veiled .black white ⟨0, 0, 1, 1⟩ f :=
    Rasterizes.of_ends "" ⟨⟨2, 1⟩, ⟨0, 0, 1, 1⟩, 0⟩ (.start .standard ())
      (by unfold Ends; decide +kernel)
  obtain ⟨f₂, drawn₂⟩ :
      ∃ f, Rasterizes idleHost oneVeil veiled .black (.ofSize 2 1) ⟨0, 0, 2, 1⟩ f :=
    Rasterizes.of_ends "" ⟨⟨2, 1⟩, ⟨0, 0, 2, 1⟩, 0⟩ (.start .standard ())
      (by unfold Ends; decide +kernel)
  obtain ⟨common, kept, -⟩ := common_damage_alike plain fits ⟨rfl, rfl⟩ drawn₁ drawn₂
  exact ⟨plain, fits, ⟨rfl, rfl⟩, f₁, f₂, drawn₁, drawn₂, common 0 0 rfl rfl, kept 1 0 rfl⟩

end Headless

end RenderRelay

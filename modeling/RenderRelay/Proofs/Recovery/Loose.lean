import RenderRelay.Proofs.Layers.Redraw
import RenderRelay.Proofs.Recovery.Unread

/-!
Frames of which one repaints more than the other. They have the same size, and drawing keeps it so;
what is drawn differs, but not whether it can be drawn: where the larger damage lets a list end, the
smaller one does (`drawItems_loose`). Callbacks must not keep what they see of a frame (`Heedless`).
-/

namespace RenderRelay

open DeviceOp

namespace DeviceOp

variable {δ₁ δ₂ α β : Type} {D : δ₁ → δ₂ → Prop} {R : α → β → Prop}

/-- A step of the first operation alone, that keeps to the relation. -/
theorem Simulates.modify_left {step : δ₁ → δ₁} {op₁ : DeviceOp δ₁ α} {op₂ : DeviceOp δ₂ β}
    (sim : Simulates D R op₁ op₂) (keeps : ∀ d₁ d₂, D d₁ d₂ → D (step d₁) d₂) :
    Simulates D R (modify step >>= fun _ => op₁) op₂ :=
  fun d₁ d₂ devices => ensures_bind.2 (ensures_modify.2 (sim _ d₂ (keeps d₁ d₂ devices)))

theorem Simulates.modify_right {step : δ₂ → δ₂} {op₁ : DeviceOp δ₁ α} {op₂ : DeviceOp δ₂ β}
    (sim : Simulates D R op₁ op₂) (keeps : ∀ d₁ d₂, D d₁ d₂ → D d₁ (step d₂)) :
    Simulates D R op₁ (modify step >>= fun _ => op₂) := by
  intro d₁ d₂ devices
  refine (sim d₁ (step d₂) (keeps d₁ d₂ devices)).mono fun a d₁' found => ?_
  rwa [runOn_bind, runOn_modify]

end DeviceOp

/-! ### Copying less -/

namespace Bitmap

/-- Copying reaches a pixel that is too far from the source's corner. -/
def Strays (source : Bitmap) (left top : Int) (x y : Nat) : Prop :=
  offsetLimit ≤ y - top ∨ (top ≤ y ∧ y < top + source.height) ∧ offsetLimit ≤ x - left

theorem copyOverflows_iff {source : Bitmap} {left top : Int} {area : PixelBox}
    (full : area.isEmpty = false) :
    source.copyOverflows left top area = true ↔
      ∃ x y, area.contains x y = true ∧ source.Strays left top x y := by
  simp only [PixelBox.isEmpty, Bool.or_eq_false_iff, decide_eq_false_iff_not, Nat.not_le] at full
  simp only [copyOverflows, Strays, PixelBox.contains, Bool.or_eq_true, Bool.and_eq_true,
    decide_eq_true_eq]
  constructor
  · rintro (far | ⟨row, far⟩)
    · exact ⟨area.x0, area.y1 - 1, by omega, .inl (by omega)⟩
    · exact ⟨area.x1 - 1, (max (area.y0 : Int) top).toNat, by omega, .inr ⟨by omega, by omega⟩⟩
  · rintro ⟨x, y, inside, far | ⟨row, far⟩⟩
    · exact .inl (by omega)
    · exact .inr ⟨by omega, by omega⟩

/-- Copying fails just if it reaches such a pixel of the target. -/
theorem blit_isOk_iff {m source : Bitmap} {left top : Int} {area : PixelBox} :
    (∃ m', m.blit source left top area = .ok m') ↔
      ∀ x y, area.contains x y = true → m.bounds.contains x y = true →
        ¬source.Strays left top x y := by
  have common := PixelBox.any_contains_intersect area m.bounds
  unfold blit
  cases reached : area.intersect m.bounds with
  | none =>
    refine iff_of_true ⟨m, rfl⟩ fun x y inside bounds => ?_
    have none := common x y
    simp [reached, inside, bounds] at none
  | some box =>
    have full := PixelBox.nonempty?_eq_some.1 reached
    have strays : source.copyOverflows left top box = true ↔ _ :=
      copyOverflows_iff (full.1 ▸ full.2)
    simp only
    split
    case isTrue strayed =>
      obtain ⟨x, y, inside, far⟩ := strays.1 strayed
      refine iff_of_false (by simp) fun near => ?_
      have both := common x y
      rw [reached, Option.any_some, inside] at both
      obtain ⟨inside, bounds⟩ := Bool.and_eq_true_iff.1 both.symm
      exact near x y inside bounds far
    case isFalse near =>
      refine iff_of_true ⟨_, rfl⟩ fun x y inside bounds far => near (strays.2 ⟨x, y, ?_, far⟩)
      have both := common x y
      rwa [reached, Option.any_some, inside, bounds] at both

end Bitmap

namespace Headless

/-! ### Frames -/

namespace Frame

/-- Frames of one size, of which the first repaints what the second does. -/
structure Loose (f f' : Frame) : Prop where
  size : f'.size = f.size
  damage : ∀ x y, f'.damage.contains x y = true → f.damage.contains x y = true

variable {f f' g g' : Frame}

theorem Loose.changed {change change' : Nat → Nat → Pixel → Pixel} (loose : Loose f f')
    (first : f.Changed g change) (second : f'.Changed g' change') : Loose g g' := by
  refine ⟨?_, fun x y inside => ?_⟩
  · rw [first.size, second.size, loose.size]
  · rw [first.damage]
    rw [second.damage] at inside
    exact loose.damage x y inside

theorem Loose.drawOp (loose : Loose f f') (item : DrawItem) :
    Loose (f.drawOp item) (f'.drawOp item) := by
  obtain ⟨op, clip⟩ := item
  cases op with
  | clear color => exact loose.changed (drawOp_clear ..) (drawOp_clear ..)
  | fill rect color => exact loose.changed (drawOp_fill ..) (drawOp_fill ..)
  | functor id => exact loose
  | layer handle dst => exact loose

/-- Copying a layer fails just if it strays at a pixel that it reaches. -/
theorem drawLayer_isOk_iff {layer : Layer} {dst : Rect} {clip : Option Rect} :
    (∃ g, f.drawLayer layer dst clip = .ok g) ↔
      ∀ x y, covers f.size dst x y = true → clipCovers f.size clip x y = true →
        f.damage.contains x y = true → f.target.bounds.contains x y = true →
          ¬layer.pixels.Strays (layerCorner dst).1 (layerCorner dst).2 x y := by
  have area := f.any_contains_fillArea dst clip
  unfold drawLayer
  cases reached : f.fillArea dst clip with
  | none =>
    refine iff_of_true ⟨f, rfl⟩ fun x y covered clipped damaged => ?_
    have none := area x y
    simp [reached, covered, clipped, damaged] at none
  | some box =>
    rw [reached] at area
    have pixels (x y : Nat) : box.contains x y =
        (covers f.size dst x y && (clipCovers f.size clip x y && f.damage.contains x y)) :=
      area x y
    have copied : (∃ m, f.target.blit layer.pixels (layerCorner dst).1 (layerCorner dst).2 box =
        .ok m) ↔ _ := Bitmap.blit_isOk_iff
    simp only [pixels, Bool.and_eq_true, and_imp] at copied
    rw [← copied]
    cases made : f.target.blit layer.pixels (layerCorner dst).1 (layerCorner dst).2 box with
    | error fault => simp [made, bind, Except.bind]
    | ok m => simp [made, bind, Except.bind, pure, Except.pure]

/-- **What can be copied into the larger damage can be copied into the smaller one.** -/
theorem Loose.drawLayer (loose : Loose f f') {layer : Layer} {dst : Rect} {clip : Option Rect}
    (drawn : f.drawLayer layer dst clip = .ok g) :
    ∃ g', f'.drawLayer layer dst clip = .ok g' ∧ Loose g g' := by
  have bounds : f'.target.bounds = f.target.bounds :=
    congrArg (fun size : Viewport => PixelBox.ofSize size.width size.height) loose.size
  have near := drawLayer_isOk_iff.1 ⟨g, drawn⟩
  obtain ⟨g', drawn'⟩ : ∃ g', f'.drawLayer layer dst clip = .ok g' := by
    refine drawLayer_isOk_iff.2 fun x y covered clipped damaged inside => ?_
    rw [loose.size] at covered clipped
    rw [bounds] at inside
    exact near x y covered clipped (loose.damage x y damaged) inside
  exact ⟨g', drawn', loose.changed (drawLayer_changed drawn) (drawLayer_changed drawn')⟩

end Frame

/-! ### Lists -/

variable {ω π φ τ : Type} {report : LogRecord → ω → ω}
  {invoke : φ → Frame → FunctorInfo → StateM ω (Frame × Completion)}
  {perform : τ → StateM ω Completion} {part : ω → π}

/-- A callback that draws inside the damage, and of which nothing lasts that depends on what is
repainted. -/
structure Heedless (invoke : φ → Frame → FunctorInfo → StateM ω (Frame × Completion))
    (part : ω → π) (f : φ) : Prop where
  damage : ∀ frame info world, (invoke f frame info world).1.1.damage = frame.damage
  blind : ∀ frame frame' info damage world world', frame'.size = frame.size →
    part world' = part world →
      (invoke f frame' { info with damage } world').1.1.size =
          (invoke f frame info world).1.1.size ∧
        part (invoke f frame' { info with damage } world').2 = part (invoke f frame info world).2

theorem Heedless.loose {callback : φ} (heedless : Heedless invoke part callback) {f f' : Frame}
    (loose : f.Loose f') {world world' : ω} (same : part world' = part world) (info : FunctorInfo)
    (damage : PixelBox) :
    (invoke callback f info world).1.1.Loose
      (invoke callback f' { info with damage } world').1.1 := by
  obtain ⟨size, -⟩ := heedless.blind f f' info damage world world' loose.size same
  refine ⟨size, fun x y inside => ?_⟩
  rw [heedless.damage] at inside ⊢
  exact loose.damage x y inside

namespace Unread

variable (unread : Unread report invoke perform part) {config : Config}
  {G : Gallery → Gallery → Prop}
  (heedless : ∀ f, Heedless invoke part f)

include unread

theorem contextNote_simulates (name : String) (level : Level) (text : String) :
    Simulates (Device.Beside config G part) (fun _ _ => True)
      (Context.note (host report invoke perform) name level text)
      (Context.note (host report invoke perform) name level text) :=
  simulates_modify fun _ _ beside => unread.reported beside _ _

/-- However a callback ended, the frame is drawn on; a panic is reported. -/
theorem ended_simulates {f f' : Frame} (loose : f.Loose f') (name text : String)
    (completion completion' : Completion) :
    Simulates (Device.Beside config G part) Frame.Loose
      (match completion with
      | .finished => pure f
      | .panicked => do
        Context.note (host report invoke perform) name .error text
        return f)
      (match completion' with
      | .finished => pure f'
      | .panicked => do
        Context.note (host report invoke perform) name .error text
        return f') := by
  have same := simulates_pure (D := Device.Beside config G part) loose
  cases completion with
  | finished =>
    cases completion' with
    | finished => exact same
    | panicked => exact same.modify_right fun d d' beside => ⟨beside.first, beside.second,
      beside.live, beside.gallery, (unread.reports _ _).trans beside.part⟩
  | panicked =>
    cases completion' with
    | finished => exact same.modify_left fun d d' beside => ⟨beside.first, beside.second,
      beside.live, beside.gallery, beside.part.trans (unread.reports _ _).symm⟩
    | panicked => exact (unread.contextNote_simulates _ _ _).bind fun _ _ _ => same

include heedless

theorem drawItem_loose (name : String) (registry : Registry Layer φ) (list : ListId)
    (target : Target) (damage : PixelBox) {f f' : Frame} (loose : f.Loose f') (item : DrawItem) :
    Simulates (Device.Beside config G part) Frame.Loose
      (Context.drawItem (host report invoke perform) name registry list target f item)
      (Context.drawItem (host report invoke perform) name registry list { target with damage } f'
        item) := by
  have drawn := loose.drawOp item
  unfold Context.drawItem
  split
  case h_1 id _ =>
    cases registry.functors.get? id with
    | none =>
      exact (unread.contextNote_simulates _ _ _).bind fun _ _ _ => simulates_pure loose
    | some callback =>
      refine Simulates.bind (R := Frame.Loose) (simulates_pure loose) fun f f' loose => ?_
      let after (r r' : Frame × Completion) : Prop := r.1.Loose r'.1
      refine Simulates.bind (R := after) (simulates_lift fun d d' beside => ?_) ?_
      · let info : FunctorInfo :=
          ⟨list, target.viewport, target.damage, item.clip, target.frameIndex⟩
        have blind := (heedless callback).blind f f' info damage d.outside d'.outside loose.size
          beside.part
        exact ⟨(heedless callback).loose loose beside.part info damage,
          beside.first, beside.second, beside.live, beside.gallery, blind.2⟩
      · rintro ⟨f, completion⟩ ⟨f', completion'⟩ loose
        exact unread.ended_simulates loose _ _ _ _
  case h_2 handle dst _ =>
    cases registry.layers.get? handle with
    | none => exact (unread.contextNote_simulates _ _ _).bind fun _ _ _ => simulates_pure loose
    | some entry =>
      simp only
      cases made : f.drawLayer entry.layer dst item.clip with
      | error fault => exact simulates_throw _ _
      | ok g =>
        obtain ⟨g', made', loose'⟩ := loose.drawLayer made
        rw [made']
        exact simulates_pure loose'
  case h_3 => exact simulates_pure drawn
  case h_4 => exact simulates_pure drawn

/-- **Where a list can be drawn into the larger damage, it can be drawn into the smaller one.** -/
theorem drawItems_loose (name : String) (registry : Registry Layer φ) (list : ListId)
    (target : Target) (damage : PixelBox) (items : List DrawItem) {f f' : Frame}
    (loose : f.Loose f') :
    Simulates (Device.Beside config G part) Frame.Loose
      (Context.drawItems (host report invoke perform) name registry list target items f)
      (Context.drawItems (host report invoke perform) name registry list { target with damage }
        items f') := by
  induction items generalizing f f' with
  | nil => exact simulates_pure loose
  | cons item rest ih =>
    exact (unread.drawItem_loose heedless name registry list target damage loose item).bind
      fun f f' loose => ih loose

end Unread

end Headless

end RenderRelay

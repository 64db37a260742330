import RenderRelay.Proofs.Callings.Thread
import RenderRelay.Proofs.Premultiplied

/-!
Pixels stay premultiplied. What a headless thread keeps or hands out is filled with colours, has
colours laid over it, and is copied from what is kept. As long as every colour was made of straight
components, no colour byte ever comes to be above its alpha byte (`pixels_stay_premultiplied`).
-/

namespace RenderRelay

namespace Headless

open DeviceOp

variable {ω φ τ : Type}

namespace Frame

/-- What becomes of a frame when rectangles are filled with colours made of straight components. -/
inductive FilledTo (f : Frame) : Frame → Prop
  | refl : FilledTo f f
  | fill {f' : Frame} (earlier : FilledTo f f') (rect : Rect) {color : Color}
      (straight : color.FromStraight) : FilledTo f (f'.fillRect rect color)

theorem fillRect_changed (f : Frame) (rect : Rect) (color : Color) :
    f.Changed (f.fillRect rect color) fun x y p =>
      if covers f.size rect x y then
        if color.isOpaque then color.quantize else color.overPixel p
      else p := by
  have inside (x y : Nat) : ((f.coverage rect).bind (·.intersect f.damage)).any (·.contains x y) =
      (covers f.size rect x y && f.damage.contains x y) :=
    PixelBox.any_contains_bind_intersect ..
  refine .of_paint inside (fun none => ?_) (fun box some => ?_)
  · simp only [fillRect, none]
  · simp only [fillRect, some, blend_eq_paint]

end Frame

/-- The callback fills rectangles of its frame with colours made of straight components, and does
nothing else to it. -/
def OnlyFills (invoke : φ → Frame → FunctorInfo → StateM ω (Frame × Completion)) (callback : φ) :
    Prop :=
  ∀ (f : Frame) info world, f.FilledTo (invoke callback f info world).1.1

def straight (invoke : φ → Frame → FunctorInfo → StateM ω (Frame × Completion)) :
    Standards φ where
  pixel := Pixel.IsPremultiplied
  color := Color.FromStraight
  callback := OnlyFills invoke
  transparent := Pixel.isPremultiplied_transparent
  quantize _ made := made.quantize_isPremultiplied
  overPixel _ _ made := made.overPixel_isPremultiplied

theorem Frame.FilledTo.onFrame {S : Standards φ} (colors : ∀ c, Color.FromStraight c → S.color c)
    {size : Viewport} {damage : PixelBox} {f f' : Frame} (filled : f.FilledTo f')
    (frame : S.OnFrame size damage f) : S.OnFrame size damage f' := by
  induction filled with
  | refl => exact frame
  | fill earlier rect straight ih =>
    refine ih.changed (fillRect_changed _ rect _) fun x y p holds => ?_
    split
    · split
      · exact S.quantize _ (colors _ straight)
      · exact S.overPixel _ p (colors _ straight) holds
    · exact holds

theorem heeds_straight (report : LogRecord → ω → ω)
    (invoke : φ → Frame → FunctorInfo → StateM ω (Frame × Completion))
    (perform : τ → StateM ω Completion) :
    (straight invoke).Heeds report invoke perform fun _ _ => True where
  reports _ _ _ _ := trivial
  performs _ _ _ _ := trivial
  invokes _ _ _ _ _ _ _ f w allowed frame _ :=
    ⟨(allowed f _ w).onFrame (fun _ made => made) frame, trivial⟩

/-- **Pixels stay premultiplied.** If the colours of all lists, of all fills of callbacks and of
opaque canvases were made of straight components, then whatever a thread is sent and however it
ends, whenever owners read, every pixel that a surface shows is premultiplied; and unless the thread was lost, so is every
pixel that was copied out of a layer, of every canvas's buffer and of every layer. -/
theorem pixels_stay_premultiplied (report : LogRecord → ω → ω)
    (invoke : φ → Frame → FunctorInfo → StateM ω (Frame × Completion))
    (perform : τ → StateM ω Completion) (config : Config)
    (clear : config.opaqueClear.FromStraight) (turns : List (Turn Surface φ τ))
    (admitted : ∀ turn ∈ turns, (straight invoke).Admits turn.envelope)
    (nextLayer : LayerHandle) (reading : Nat → Nat → Bool) (world : ω) :
    let ended := (RenderLoop.serveAll (host report invoke perform) turns
      (.start nextLayer)).runOn (.watched config reading world)
    (∀ s front, (ended.2.gallery.look s).front = some front → front.All Pixel.IsPremultiplied) ∧
    ∀ acks final, ended.1 = .ok (acks, final) →
      (∀ ack ∈ acks, ∀ m, ack.reply = .pixels (.ok m) → m.All Pixel.IsPremultiplied) ∧
      ∀ loop, final = some loop → ∀ h c, loop.contexts.get? h = some c →
        (∀ canvas, c.canvas = some canvas → canvas.back.All Pixel.IsPremultiplied) ∧
        ∀ handle entry, c.registry.layers.get? handle = some entry →
          entry.layer.pixels.All Pixel.IsPremultiplied := by
  intro ended
  have started : (straight invoke).OnDevice (fun _ _ => True) []
      (.watched config reading world) :=
    ⟨trivial, clear, by simp [Device.watched, Gallery.look_unshown]⟩
  have settles := Standards.serveAll_settles (heeds_straight report invoke perform) admitted
    (Standards.OnLoop.start nextLayer) started
  refine ⟨?_, fun acks final run => ?_⟩
  · obtain ⟨called, kept⟩ := settles.always fun _ _ left => left.1
    exact kept.shown
  · have ends : (RenderLoop.serveAll (host report invoke perform) turns
        (.start nextLayer)).runOn (.watched config reading world) = (.ok (acks, final), ended.2) :=
      Prod.ext run rfl
    obtain ⟨-, replies, left⟩ := settles.ensures _ _ ends
    refine ⟨replies, fun loop last h c there => ?_⟩
    have on := left loop last h c there
    exact ⟨fun canvas held => (on.canvas canvas held).back,
      fun handle entry held => (on.registry.layers handle entry held).pixels⟩

/-- A half transparent red under a green of which the red is undefined, and a callback over both. -/
def reds : DisplayList :=
  ⟨⟨1⟩, [⟨.clear (.ofBytes 255 0 0 128), none⟩,
    ⟨.fill ⟨0, 0, 1, 1⟩ (.ofStraight .nan 1 0 (.ofBits 0x3f000000)), none⟩, ⟨.functor ⟨1⟩, none⟩]⟩

/-- A window of one pixel that shows them. -/
theorem pixels_stay_premultiplied_reds :
    let window : Surface := ⟨1, "window", false⟩
    let invoke (_ : Unit) (f : Frame) (_ : FunctorInfo) : StateM Unit (Frame × Completion) :=
      pure (f.fillRect ⟨0, 0, 1, 1⟩ (.ofBytes 255 255 0 100), .finished)
    let turns : List (Turn Surface Unit Unit) := [.create false, .run (.bindSurface window),
      .run (.setup ⟨1, 1⟩), .run (.attachFunctor ⟨⟨1⟩, ()⟩),
      .run (.draw reds Damage.whole.encode)].map (⟨0, .message ⟨1⟩ ·⟩)
    let host := host (fun _ (_ : Unit) => ()) invoke fun _ => pure .finished
    ∃ front, (((RenderLoop.serveAll host turns (.start ⟨1⟩)).runOn
        (.watched .standard (fun _ _ => false) ())).2.gallery.look window).front = some front ∧
      front.pixel? 0 0 = some ⟨100, 178, 0, 217⟩ ∧ front.All Pixel.IsPremultiplied := by
  intro window invoke turns host
  have fills : OnlyFills invoke () := fun f info world =>
    .fill .refl _ (.ofBytes 255 255 0 100)
  have black : Config.standard.opaqueClear = .ofStraight 0 0 0 1 := by decide +kernel
  have admitted : ∀ turn ∈ turns, (straight invoke).Admits turn.envelope := by
    simp only [turns, List.map_cons, List.map_nil, List.forall_mem_cons]
    refine ⟨trivial, trivial, trivial, fills, ?_, by simp⟩
    simp only [Standards.Admits, Standards.Allows, Standards.OnList, reds, List.forall_mem_cons]
    exact ⟨Color.FromStraight.ofBytes 255 0 0 128, Color.FromStraight.ofStraight .nan 1 0 _,
      trivial, by simp⟩
  have seen : (((RenderLoop.serveAll host turns (.start ⟨1⟩)).runOn
      (.watched .standard (fun _ _ => false) ())).2.gallery.look window).front.bind (·.pixel? 0 0) =
        some ⟨100, 178, 0, 217⟩ := by
    decide +kernel
  obtain ⟨front, shown, pixel⟩ := Option.bind_eq_some_iff.1 seen
  exact ⟨front, shown, pixel, (pixels_stay_premultiplied _ invoke _ .standard
    (black ▸ .ofStraight ..) turns admitted ⟨1⟩ (fun _ _ => false) ()).1 window front
      shown⟩

end Headless

end RenderRelay

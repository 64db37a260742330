import RenderRelay.Engine.RenderLoop
import RenderRelay.Proofs.DeviceOp

/-!
What the render thread keeps after an envelope. `Serves` has a case for each thing that can happen
and names the run of the backend or of a context that it came from, so that what is known of these
runs carries over to the thread (`serve_serves`).
-/

namespace RenderRelay.RenderLoop

open DeviceOp

variable {σ φ τ : Type} {B : Backend σ}

/-- Handling an envelope: how the part of it ran that matters, and what it left. -/
inductive Serves (H : Host B φ τ) (loop : RenderLoop B φ) : Envelope σ φ τ → Served B φ → Prop
  | made {h : ProxyHandle} {translucent : Bool} {canvas : B.Canvas} {d d' : B.Device}
      (run : (B.createCanvas translucent).runOn d = (.ok (.ok canvas), d')) :
    Serves H loop (.message h (.create translucent))
      (.next { loop with contexts := loop.contexts.insert h (.ofCanvas h canvas) }
        (some ⟨h, .created (.ok ())⟩))
  | refused {h : ProxyHandle} {translucent : Bool} {e : RenderError} :
    Serves H loop (.message h (.create translucent)) (.next loop (some ⟨h, .created (.error e)⟩))
  | obeyed {h : ProxyHandle} {command : Command σ φ} {c c' : Context B φ} {reply : Option Reply}
      {d d' : B.Device} (there : loop.contexts.get? h = some c)
      (run : (c.dispatch H loop.nextLayer command).runOn d = (.ok (reply, c'), d')) :
    Serves H loop (.message h (.run command))
      (.next ⟨loop.contexts.insert h c', layerAfter loop.nextLayer reply⟩ (reply.map (⟨h, ·⟩)))
  | dropped {h : ProxyHandle} {command : Command σ φ} (unknown : loop.contexts.get? h = none) :
    Serves H loop (.message h (.run command)) (.next loop none)
  | disposed {h : ProxyHandle} {c : Context B φ} (there : loop.contexts.get? h = some c) :
    Serves H loop (.message h .dispose)
      (.next { loop with contexts := loop.contexts.erase h } none)
  | ignored {h : ProxyHandle} (unknown : loop.contexts.get? h = none) :
    Serves H loop (.message h .dispose) (.next loop none)
  | performed {task : τ} : Serves H loop (.task task) (.next loop none)
  | stopped : Serves H loop .shutdown .stopped

variable (H : Host B φ τ)

theorem create_serves (loop : RenderLoop B φ) (h : ProxyHandle) (translucent : Bool)
    (d : B.Device) :
    (create H loop h translucent).Ensures d fun r _ =>
      Serves H loop (.message h (.create translucent)) (.next r.2 (some ⟨h, .created r.1⟩)) := by
  refine ensures_bind.2 fun canvas d₁ run => ?_
  rcases canvas with e | canvas
  · exact ensures_bind.2 (H.ensures_note.2 (ensures_pure.2 .refused))
  · exact ensures_bind.2 (H.ensures_note.2 (ensures_pure.2 (.made run)))

theorem run_serves (loop : RenderLoop B φ) (h : ProxyHandle) (command : Command σ φ)
    (d : B.Device) :
    (run H loop h command).Ensures d fun r _ =>
      Serves H loop (.message h (.run command)) (.next r.2 (r.1.map (⟨h, ·⟩))) := by
  unfold run
  split
  case h_1 unknown =>
    exact ensures_bind.2 (H.ensures_note.2 (ensures_pure.2 (.dropped unknown)))
  case h_2 c there => exact ensures_bind.2 fun r d₁ run => ensures_pure.2 (.obeyed there run)

theorem dispose_serves (loop : RenderLoop B φ) (h : ProxyHandle) (d : B.Device) :
    (dispose H loop h).Ensures d fun loop' _ =>
      Serves H loop (.message h .dispose) (.next loop' none) := by
  unfold dispose
  split
  case h_1 unknown =>
    exact ensures_bind.2 (H.ensures_note.2 (ensures_pure.2 (.ignored unknown)))
  case h_2 c there =>
    exact ensures_bind.2 (.of_forall fun _ d₁ => ensures_pure.2 (.disposed there))

/-- **What handling an envelope leaves.** -/
theorem serve_serves (loop : RenderLoop B φ) (envelope : Envelope σ φ τ) (d : B.Device) :
    (serve H loop envelope).Ensures d fun served _ => Serves H loop envelope served := by
  match envelope with
  | .message h (.create translucent) =>
    refine ensures_bind.2 ((create_serves H loop h translucent d).mono fun r d₁ serves => ?_)
    exact ensures_pure.2 serves
  | .message h (.run command) =>
    refine ensures_bind.2 ((run_serves H loop h command d).mono fun r d₁ serves => ?_)
    exact ensures_pure.2 serves
  | .message h .dispose =>
    refine ensures_bind.2 ((dispose_serves H loop h d).mono fun r d₁ serves => ?_)
    exact ensures_pure.2 serves
  | .task task =>
    refine ensures_bind.2 (ensures_lift.2 ?_)
    split
    · exact ensures_pure.2 .performed
    · exact ensures_bind.2 (H.ensures_note.2 (ensures_pure.2 .performed))
  | .shutdown => exact ensures_bind.2 (.of_forall fun _ _ => ensures_pure.2 .stopped)

variable {H}

/-- Where a context comes from that is there after an envelope: it was there already, its canvas was
made, or it obeyed a command. -/
inductive Source (H : Host B φ τ) (loop loop' : RenderLoop B φ) (envelope : Envelope σ φ τ)
    (ack : Option Acknowledgement) (h : ProxyHandle) (c : Context B φ) : Prop
  | before (there : loop.contexts.get? h = some c)
  | made {translucent : Bool} {canvas : B.Canvas}
      (sent : envelope = .message h (.create translucent)) (new : c = .ofCanvas h canvas)
  | obeyed {command : Command σ φ} {c₀ : Context B φ} {reply : Option Reply} {d d' : B.Device}
      (sent : envelope = .message h (.run command)) (there : loop.contexts.get? h = some c₀)
      (run : (c₀.dispatch H loop.nextLayer command).runOn d = (.ok (reply, c), d'))
      (told : ack = reply.map (⟨h, ·⟩)) (next : loop'.nextLayer = layerAfter loop.nextLayer reply)

theorem Serves.source {loop loop' : RenderLoop B φ} {envelope : Envelope σ φ τ}
    {ack : Option Acknowledgement} {h : ProxyHandle} {c : Context B φ}
    (serves : Serves H loop envelope (.next loop' ack)) (there : loop'.contexts.get? h = some c) :
    Source H loop loop' envelope ack h c := by
  cases serves with
  | @made k translucent canvas =>
    rw [Table.get?_insert] at there
    split at there
    case isTrue same =>
      subst same
      exact .made rfl (Option.some.inj there).symm
    case isFalse => exact .before there
  | refused => exact .before there
  | @obeyed k command c₀ c₁ reply d d' before run =>
    rw [Table.get?_insert] at there
    split at there
    case isTrue same =>
      subst same
      obtain rfl := Option.some.inj there
      exact .obeyed rfl before run rfl rfl
    case isFalse => exact .before there
  | dropped => exact .before there
  | disposed =>
    rw [Table.get?_erase] at there
    split at there
    · simp at there
    · exact .before there
  | ignored => exact .before there
  | performed => exact .before there

end RenderRelay.RenderLoop

import RenderRelay.Proofs.Correspondence.Engine
import RenderRelay.Proofs.Correspondence.Fellows

/-!
The render thread on two backends that correspond in everything and under the same names: whatever
it is sent, it does the same on both.
-/

namespace RenderRelay

open DeviceOp RenderLoop

variable {σ φ τ : Type} {B₁ B₂ : Backend σ} {H₁ : Host B₁ φ τ} {H₂ : Host B₂ φ τ}

namespace Correspondence

/-- Nothing is left out: canvases and layers correspond when they are made and are released on
both sides, everything may be bound and attached, and tasks end alike. -/
structure Complete (C : Correspondence H₁ H₂) : Prop where
  rename : C.rename = fun h => h
  surfaces : ∀ s, C.surface s
  callbacks : ∀ id f, C.callback id f
  createsLayers : ∀ fresh, C.CreatesLayers fresh fresh
  destroysLayers : C.DestroysLayers
  createsCanvases : ∀ translucent,
    Simulates C.device (Outcome C.canvas) (B₁.createCanvas translucent)
      (B₂.createCanvas translucent)
  destroysCanvases : C.DestroysCanvases
  performs : ∀ task,
    Simulates C.device (fun r₁ r₂ => r₂ = r₁) (liftM (H₁.perform task)) (liftM (H₂.perform task))

variable {C : Correspondence H₁ H₂}

theorem Complete.supports (complete : C.Complete) (fresh : LayerHandle) (command : Command σ φ) :
    C.Supports fresh fresh command := by
  cases command with
  | bindSurface s => exact complete.surfaces s
  | updateSurface s => exact fun t _ => complete.surfaces t
  | attachFunctor functor => exact complete.callbacks _ _
  | createLayer size => exact complete.createsLayers fresh
  | destroyLayer layer => exact complete.destroysLayers
  | destroy full => exact fun _ => ⟨complete.destroysLayers, complete.destroysCanvases⟩
  | _ => trivial

structure Loops (C : Correspondence H₁ H₂) (loop₁ : RenderLoop B₁ φ) (loop₂ : RenderLoop B₂ φ) :
    Prop where
  contexts : Table.Alike (fun h => h) (fun _ => C.Contexts) loop₁.contexts loop₂.contexts
  nextLayer : loop₂.nextLayer = loop₁.nextLayer

/-- What an envelope leaves on both sides. -/
inductive Leaves (C : Correspondence H₁ H₂) : Served B₁ φ → Served B₂ φ → Prop
  | next {loop₁ : RenderLoop B₁ φ} {loop₂ : RenderLoop B₂ φ} (loops : C.Loops loop₁ loop₂)
      (ack : Option Acknowledgement) : Leaves C (.next loop₁ ack) (.next loop₂ ack)
  | stopped : Leaves C .stopped .stopped

namespace Complete

variable (complete : C.Complete) {loop₁ : RenderLoop B₁ φ} {loop₂ : RenderLoop B₂ φ}

include complete

/-- A command has the same reply on both sides: the layer that it made has the next name. -/
theorem dispatch_answers {c₁ : Context B₁ φ} {c₂ : Context B₂ φ} (contexts : C.Contexts c₁ c₂)
    (fresh : LayerHandle) (command : Command σ φ) :
    Simulates C.device (fun r₁ r₂ => r₂.1 = r₁.1 ∧ C.Contexts r₁.2 r₂.2)
      (c₁.dispatch H₁ fresh command) (c₂.dispatch H₂ fresh command) := by
  have sim := dispatch_simulates contexts (complete.supports fresh command)
  rw [complete.rename, command.rename_self] at sim
  intro d₁ d₂ devices r₁ d₁' run₁
  obtain ⟨r₂, d₂', run₂, answers, devices'⟩ := sim d₁ d₂ devices r₁ d₁' run₁
  have named := (Context.dispatch_evolves H₁ _ fresh command d₁ _ _ run₁).2
  obtain ⟨reply, contexts'⟩ := answers fun handle made => by
    rw [complete.rename]
    exact named handle made
  refine ⟨r₂, d₂', run₂, ⟨?_, contexts'⟩, devices'⟩
  rcases r₁ with ⟨_ | r, c⟩ <;> simpa [complete.rename] using reply

theorem fellows : Fellows H₁ H₂ C.device C.Contexts where
  name := by
    rintro c₁ c₂ ⟨canvas, registry⟩
    rfl
  notes level reporter text := C.hostNote_simulates level reporter text
  made h translucent := by
    refine (complete.createsCanvases translucent).mono fun made₁ made₂ outcome => ?_
    cases outcome with
    | ok canvases => exact .ok (.ofCanvas h canvases)
    | error e => exact .error e
  obey c₁ c₂ fresh command contexts := complete.dispatch_answers contexts fresh command
  taken c₁ c₂ contexts :=
    teardown_simulates complete.destroysLayers complete.destroysCanvases contexts
  perform := complete.performs

/-- **An envelope is handled the same way on both sides.** -/
theorem serve_simulates (loops : C.Loops loop₁ loop₂) (envelope : Envelope σ φ τ) :
    Simulates C.device C.Leaves (serve H₁ loop₁ envelope) (serve H₂ loop₂ envelope) := by
  have beside : loop₁.Beside C.Contexts loop₂ := ⟨loops.contexts, loops.nextLayer⟩
  refine (complete.fellows.serve_simulates beside envelope).mono fun served₁ served₂ leaves => ?_
  cases leaves with
  | next loops ack => exact .next ⟨loops.contexts, loops.nextLayer⟩ ack
  | stopped => exact .stopped

/-- **So is a list of envelopes.** -/
theorem serveAll_simulates (turns : List (Turn σ φ τ)) (loops : C.Loops loop₁ loop₂) :
    Simulates C.device (fun r₁ r₂ => r₂.1 = r₁.1 ∧ Option.Rel C.Loops r₁.2 r₂.2)
      (serveAll H₁ turns loop₁) (serveAll H₂ turns loop₂) := by
  induction turns generalizing loop₁ loop₂ with
  | nil => exact simulates_pure ⟨rfl, .some loops⟩
  | cons turn rest ih =>
    have passed : C.Loops (loop₁.later turn.others) (loop₂.later turn.others) :=
      ⟨loops.contexts, by simp [later, loops.nextLayer]⟩
    refine (complete.serve_simulates passed turn.envelope).bind fun served₁ served₂ leaves => ?_
    cases leaves with
    | next loops ack =>
      refine (ih loops).bind ?_
      rintro ⟨_, final₁⟩ ⟨acks, final₂⟩ ⟨rfl, finals⟩
      exact simulates_pure ⟨rfl, finals⟩
    | stopped => exact simulates_pure ⟨rfl, .none⟩

end Complete

end Correspondence

end RenderRelay

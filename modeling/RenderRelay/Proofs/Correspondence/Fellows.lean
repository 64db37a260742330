import RenderRelay.Proofs.Correspondence.Basic
import RenderRelay.Proofs.Turns

/-!
Two threads side by side. `Fellows` says that contexts that are related in some way stay so whatever
they are told, and answer alike; then so do the threads that have them (`serve_simulates`).
-/

namespace RenderRelay

open DeviceOp

variable {σ φ τ : Type} {B₁ B₂ : Backend σ}

/-- Contexts that `R` relates do alike on devices that `D` relates. -/
structure Fellows (H₁ : Host B₁ φ τ) (H₂ : Host B₂ φ τ) (D : B₁.Device → B₂.Device → Prop)
    (R : Context B₁ φ → Context B₂ φ → Prop) : Prop where
  name : ∀ c₁ c₂, R c₁ c₂ → c₂.name = c₁.name
  notes : ∀ level reporter text,
    Simulates D (fun _ _ => True) (H₁.note level reporter text) (H₂.note level reporter text)
  made : ∀ h translucent,
    Simulates D (Outcome fun k₁ k₂ => R (.ofCanvas h k₁) (.ofCanvas h k₂))
      (B₁.createCanvas translucent) (B₂.createCanvas translucent)
  obey : ∀ c₁ c₂ fresh command, R c₁ c₂ →
    Simulates D (fun r₁ r₂ => r₂.1 = r₁.1 ∧ R r₁.2 r₂.2) (c₁.dispatch H₁ fresh command)
      (c₂.dispatch H₂ fresh command)
  taken : ∀ c₁ c₂, R c₁ c₂ → Simulates D (fun _ _ => True) (c₁.teardown H₁) (c₂.teardown H₂)
  perform : ∀ task,
    Simulates D (fun r₁ r₂ => r₂ = r₁) (liftM (H₁.perform task)) (liftM (H₂.perform task))

structure RenderLoop.Beside (R : Context B₁ φ → Context B₂ φ → Prop) (loop₁ : RenderLoop B₁ φ)
    (loop₂ : RenderLoop B₂ φ) : Prop where
  contexts : Table.Alike (fun h => h) (fun _ => R) loop₁.contexts loop₂.contexts
  nextLayer : loop₂.nextLayer = loop₁.nextLayer

/-- What an envelope leaves on both threads. -/
inductive RenderLoop.Served.Beside (R : Context B₁ φ → Context B₂ φ → Prop) :
    Served B₁ φ → Served B₂ φ → Prop
  | next {loop₁ : RenderLoop B₁ φ} {loop₂ : RenderLoop B₂ φ} (loops : loop₁.Beside R loop₂)
      (ack : Option Acknowledgement) : Beside R (.next loop₁ ack) (.next loop₂ ack)
  | stopped : Beside R .stopped .stopped

namespace Fellows

open RenderLoop

variable {H₁ : Host B₁ φ τ} {H₂ : Host B₂ φ τ} {D : B₁.Device → B₂.Device → Prop}
  {R : Context B₁ φ → Context B₂ φ → Prop} (fellows : Fellows H₁ H₂ D R)
  {loop₁ : RenderLoop B₁ φ} {loop₂ : RenderLoop B₂ φ}

include fellows

theorem create_simulates (loops : loop₁.Beside R loop₂) (h : ProxyHandle) (translucent : Bool) :
    Simulates D (fun r₁ r₂ => r₂.1 = r₁.1 ∧ r₁.2.Beside R r₂.2) (create H₁ loop₁ h translucent)
      (create H₂ loop₂ h translucent) := by
  refine (fellows.made h translucent).bind fun made₁ made₂ outcome => ?_
  cases outcome with
  | ok contexts =>
    refine (fellows.notes _ _ _).bind fun _ _ _ => simulates_pure ⟨rfl, ?_, loops.nextLayer⟩
    exact loops.contexts.insert (fun _ _ same => same) contexts
  | error e => exact (fellows.notes _ _ _).bind fun _ _ _ => simulates_pure ⟨rfl, loops⟩

theorem run_simulates (loops : loop₁.Beside R loop₂) (h : ProxyHandle) (command : Command σ φ) :
    Simulates D (fun r₁ r₂ => r₂.1 = r₁.1 ∧ r₁.2.Beside R r₂.2) (run H₁ loop₁ h command)
      (run H₂ loop₂ h command) := by
  have look := loops.contexts.get? (fun _ _ same => same) h
  unfold run
  rw [loops.nextLayer]
  generalize loop₁.contexts.get? h = c₁ at look
  generalize loop₂.contexts.get? h = c₂ at look
  cases look with
  | none => exact (fellows.notes _ _ _).bind fun _ _ _ => simulates_pure ⟨rfl, loops⟩
  | some contexts =>
    refine (fellows.obey _ _ loop₁.nextLayer command contexts).bind ?_
    rintro ⟨_, c₁⟩ ⟨reply, c₂⟩ ⟨rfl, contexts⟩
    exact simulates_pure ⟨rfl, loops.contexts.insert (fun _ _ same => same) contexts, rfl⟩

theorem dispose_simulates (loops : loop₁.Beside R loop₂) (h : ProxyHandle) :
    Simulates D (fun loop₁' loop₂' => loop₁'.Beside R loop₂') (dispose H₁ loop₁ h)
      (dispose H₂ loop₂ h) := by
  have look := loops.contexts.get? (fun _ _ same => same) h
  unfold dispose
  generalize loop₁.contexts.get? h = c₁ at look
  generalize loop₂.contexts.get? h = c₂ at look
  cases look with
  | none => exact (fellows.notes _ _ _).bind fun _ _ _ => simulates_pure loops
  | some contexts =>
    refine (fellows.taken _ _ contexts).bind fun _ _ _ => simulates_pure ⟨?_, loops.nextLayer⟩
    exact loops.contexts.erase (fun _ _ same => same) h

theorem teardownAll_simulates {l₁ : List (ProxyHandle × Context B₁ φ)}
    {l₂ : List (ProxyHandle × Context B₂ φ)}
    (alike : List.Forall₂ (fun e e' => e'.1 = e.1 ∧ R e.2 e'.2) l₁ l₂) :
    Simulates D (fun _ _ => True) (teardownAll H₁ l₁) (teardownAll H₂ l₂) := by
  induction alike with
  | nil => exact simulates_pure trivial
  | @cons e₁ e₂ l₁ l₂ entry _ ih =>
    obtain ⟨h, c₁⟩ := e₁
    obtain ⟨_, c₂⟩ := e₂
    obtain ⟨rfl, contexts⟩ := entry
    unfold teardownAll
    rw [fellows.name c₁ c₂ contexts]
    refine (fellows.notes _ _ _).bind fun _ _ _ => ?_
    exact (fellows.taken c₁ c₂ contexts).bind fun _ _ _ => ih

/-- **An envelope is handled alike on both threads.** -/
theorem serve_simulates (loops : loop₁.Beside R loop₂) (envelope : Envelope σ φ τ) :
    Simulates D (Served.Beside R) (serve H₁ loop₁ envelope) (serve H₂ loop₂ envelope) := by
  match envelope with
  | .message h (.create translucent) =>
    refine (fellows.create_simulates loops h translucent).bind ?_
    rintro ⟨_, loop₁⟩ ⟨result, loop₂⟩ ⟨rfl, loops⟩
    exact simulates_pure (.next loops _)
  | .message h .dispose =>
    exact (fellows.dispose_simulates loops h).bind fun _ _ loops => simulates_pure (.next loops _)
  | .message h (.run command) =>
    refine (fellows.run_simulates loops h command).bind ?_
    rintro ⟨_, loop₁⟩ ⟨reply, loop₂⟩ ⟨rfl, loops⟩
    exact simulates_pure (.next loops _)
  | .task task =>
    refine (fellows.perform task).bind ?_
    rintro _ completion rfl
    cases completion with
    | finished => exact simulates_pure (.next loops _)
    | panicked => exact (fellows.notes _ _ _).bind fun _ _ _ => simulates_pure (.next loops _)
  | .shutdown =>
    refine ((fellows.teardownAll_simulates loops.contexts).bind fun _ _ _ =>
      fellows.notes _ _ _).bind fun _ _ _ => simulates_pure .stopped

end Fellows

end RenderRelay

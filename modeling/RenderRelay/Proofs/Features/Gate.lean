import RenderRelay.Proofs.Accord.Calls
import RenderRelay.Session.Calls

/-!
What a backend's features have to do with what is sent. A live proxy answers a call itself when the
features that the call needs are not all there, and names those that are missing
(`plan_of_lacking`); so nothing is sent that a thread without them could not do (`plan_fits`).
-/

namespace RenderRelay

variable {σ φ τ : Type}

namespace Capabilities

theorem testBit_toBits (c : Capabilities) (i : Nat) :
    c.toBits.testBit i =
      match i with
      | 0 => c.layers
      | 1 => c.layerReadback
      | 2 => c.functors
      | 3 => c.partialRedraw
      | i + 4 => c.others.testBit i := by
  have first (b : Bool) (n : Nat) : (b.toNat + 2 * n).testBit 0 = b := by
    cases b <;> simp [Nat.testBit_zero]
  have next (b : Bool) (n i : Nat) : (b.toNat + 2 * n).testBit (i + 1) = n.testBit i := by
    rw [Nat.testBit_succ]
    congr 1
    cases b <;> simp
    omega
  have parts : c.toBits = c.layers.toNat + 2 * (c.layerReadback.toNat +
      2 * (c.functors.toNat + 2 * (c.partialRedraw.toNat + 2 * c.others))) := by
    unfold toBits
    omega
  rw [parts]
  match i with
  | 0 => rw [first]
  | 1 => rw [next, first]
  | 2 => rw [next, next, first]
  | 3 => rw [next, next, next, first]
  | i + 4 => rw [next, next, next, next]

/-- **What is missing of known features is, bit by bit, what is needed and not there.** -/
theorem testBit_missing {needed : Capabilities} (known : needed.others = 0) (c : Capabilities)
    (i : Nat) :
    (missing needed c).toBits.testBit i = (needed.toBits.testBit i && !c.toBits.testBit i) := by
  simp only [testBit_toBits]
  match i with
  | 0 => rfl
  | 1 => rfl
  | 2 => rfl
  | 3 => rfl
  | i + 4 => simp [missing, known]

theorem missing_eq_none_iff {needed c : Capabilities} :
    missing needed c = .none ↔
      (needed.layers = true → c.layers = true) ∧
      (needed.layerReadback = true → c.layerReadback = true) ∧
      (needed.functors = true → c.functors = true) ∧
      (needed.partialRedraw = true → c.partialRedraw = true) := by
  simp [missing, none]

end Capabilities

/-! ### Calls -/

def Call.needs : Call σ φ → Capabilities
  | .attachFunctor _ => .onlyFunctors
  | .createLayer _ => .onlyLayers
  | .pushLayerUpdate .. => .onlyLayers
  | .copyLayer _ => Proxy.readbackNeeds
  | _ => .none

theorem Call.needs_others (call : Call σ φ) : call.needs.others = 0 := by
  cases call <;> rfl

/-- The call is for layers, and is done without them when there are none. -/
def Call.skipsLayers : Call σ φ → Bool
  | .flushLayerUpdates => true
  | .destroyLayer _ => true
  | _ => false

def Command.fits (features : Capabilities) : Command σ φ → Bool
  | .attachFunctor _ => features.functors
  | .createLayer _ => features.layers
  | .pushLayerUpdate .. => features.layers
  | .flushLayerUpdates => features.layers
  | .copyLayer _ => features.layers && features.layerReadback
  | .destroyLayer _ => features.layers
  | _ => true

namespace Proxy

variable {p : Proxy}

/-- **A live proxy without the features that a call needs sends nothing and says what is missing.**
-/
theorem plan_of_lacking (live : p.lifecycle = .live) (call : Call σ φ)
    (lacking : Capabilities.missing call.needs p.capabilities ≠ .none) :
    p.plan call =
      (p, .answer (.error (.unsupported (Capabilities.missing call.needs p.capabilities)))) := by
  have enabled : p.isEnabled = true := by simp [isEnabled, live]
  have lacks : p.lacks call.needs =
      some (.unsupported (Capabilities.missing call.needs p.capabilities)) := if_neg lacking
  rw [plan, if_pos enabled]
  cases call with
  | attachFunctor | createLayer | pushLayerUpdate | copyLayer =>
    simp only [Call.needs] at lacks ⊢
    simp only [planLive, lacks]
  | _ => exact absurd (by simp [Call.needs, Capabilities.missing, Capabilities.none]) lacking

/-- Without layers a live proxy has nothing to flush and nothing to destroy. -/
theorem plan_of_skipsLayers (live : p.lifecycle = .live) {call : Call σ φ}
    (skips : call.skipsLayers = true) (none : p.capabilities.layers = false) :
    p.plan call = (p, .answer (.ok .done)) := by
  have enabled : p.isEnabled = true := by simp [isEnabled, live]
  rw [plan, if_pos enabled]
  cases call with
  | flushLayerUpdates | destroyLayer => simp [planLive, none]
  | _ => simp [Call.skipsLayers] at skips

def Sends (p : Proxy) (call : Call σ φ) (command : Command σ φ) : Prop :=
  (p.plan call).2 = .ask command ∨ ∃ outcome, (p.plan call).2 = .notify command outcome

namespace Sends

variable {call : Call σ φ} {command : Command σ φ}

theorem live (sends : p.Sends call command) : p.lifecycle = .live := by
  by_contra dead
  simp [Sends, plan, isEnabled, dead] at sends

theorem command_eq (sends : p.Sends call command) : command = call.command := by
  have live := sends.live
  unfold Sends plan at sends
  rw [if_pos (by simp [isEnabled, live])] at sends
  cases call <;> simp only [planLive] at sends <;> (try split at sends) <;>
    simp_all [Call.command]

/-- **A proxy sends nothing that needs other features than it knows of.** -/
theorem fits (sends : p.Sends call command) : command.fits p.capabilities = true := by
  have whole : Capabilities.missing call.needs p.capabilities = .none := by
    by_contra lacking
    simp [Sends, plan_of_lacking sends.live call lacking] at sends
  have layers (skips : call.skipsLayers = true) : p.capabilities.layers = true := by
    by_contra none
    rw [Bool.not_eq_true] at none
    simp [Sends, plan_of_skipsLayers sends.live skips none] at sends
  obtain ⟨hasLayers, hasReadback, hasFunctors, -⟩ := Capabilities.missing_eq_none_iff.1 whole
  rw [sends.command_eq]
  cases call with
  | attachFunctor => exact hasFunctors rfl
  | createLayer => exact hasLayers rfl
  | pushLayerUpdate => exact hasLayers rfl
  | copyLayer => exact Bool.and_eq_true_iff.2 ⟨hasLayers rfl, hasReadback rfl⟩
  | flushLayerUpdates => exact layers rfl
  | destroyLayer => exact layers rfl
  | _ => rfl

end Sends

end Proxy

/-! ### Callers -/

namespace Session

variable {M : Type → Type} [Monad M] (k : Caller M) (thread : Nat) {p : Proxy}

/-- On either side a call that lacks features comes back at once. -/
theorem Caller.perform_of_lacking (live : p.lifecycle = .live) (call : Call Surface Script)
    (lacking : Capabilities.missing call.needs p.capabilities ≠ .none) :
    k.perform thread p call =
      pure (p, .error (.unsupported (Capabilities.missing call.needs p.capabilities))) := by
  rw [perform, Proxy.plan_of_lacking live call lacking]

theorem Caller.perform_of_skipsLayers (live : p.lifecycle = .live) {call : Call Surface Script}
    (skips : call.skipsLayers = true) (none : p.capabilities.layers = false) :
    k.perform thread p call = pure (p, .ok .done) := by
  rw [perform, Proxy.plan_of_skipsLayers live skips none]

end Session

end RenderRelay

import RenderRelay.Engine.Proxy
import RenderRelay.Proofs.Correspondence.Fellows

/-!
The calls of one proxy, among the envelopes of all other senders (`Desk.doAll`). Where the contexts
of two threads do alike, so do the proxies that call them.
-/

namespace RenderRelay

open DeviceOp

variable {σ φ τ : Type} {B : Backend σ}

/-! ### Calls -/

/-- A proxy, and the thread that its context is on. -/
structure Desk {σ : Type} (B : Backend σ) (φ : Type) where
  proxy : Proxy
  loop : RenderLoop B φ

inductive Doing (σ φ τ : Type) where
  | call (call : Call σ φ)
  | envelope (envelope : Envelope σ φ τ)
  | elsewhere (layers : Nat)

inductive Heard where
  | outcome (outcome : CallOutcome)
  | acknowledgement (acknowledgement : Option Acknowledgement)

def Heard.outcome? : Heard → Option CallOutcome
  | .outcome result => some result
  | .acknowledgement _ => none

namespace Desk

variable (H : Host B φ τ)

/-- Makes a call: what it sends is handled at once. -/
def call (desk : Desk B φ) (call : Call σ φ) : DeviceOp B.Device (CallOutcome × Desk B φ) :=
  match desk.proxy.plan call with
  | (p, .answer outcome) => return (outcome, ⟨p, desk.loop⟩)
  | (p, .notify command outcome) => do
    let (_, loop) ← desk.loop.run H p.handle command
    return (outcome, ⟨p, loop⟩)
  | (p, .ask command) => do
    let (reply, loop) ← desk.loop.run H p.handle command
    let (p, outcome) := p.conclude call reply
    return (outcome, ⟨p, loop⟩)

def Calls (desk : Desk B φ) (d : B.Device) (call : Call σ φ) (outcome : CallOutcome)
    (desk' : Desk B φ) (d' : B.Device) : Prop :=
  (desk.call H call).runOn d = (.ok (outcome, desk'), d')

/-- One size after the other is refused. -/
inductive Refuses (desk : Desk B φ) (d : B.Device) : Desk B φ → B.Device → Prop
  | refl : Refuses desk d desk d
  | step {desk₁ desk₂ : Desk B φ} {d₁ d₂ : B.Device} {size : Viewport} {e : RenderError}
      (before : Refuses desk d desk₁ d₁)
      (refused : desk₁.Calls H d₁ (.setup size) (.error e) desk₂ d₂) : Refuses desk d desk₂ d₂

/-- Does one thing after the other until the thread is stopped: what was heard, oldest first, and
what there is then. -/
def doAll : List (Doing σ φ τ) → Desk B φ → DeviceOp B.Device (List Heard × Option (Desk B φ))
  | [], desk => return ([], some desk)
  | .call c :: rest, desk => do
    let (outcome, desk) ← desk.call H c
    let (heard, final) ← doAll rest desk
    return (.outcome outcome :: heard, final)
  | .envelope envelope :: rest, desk => do
    match ← desk.loop.serve H envelope with
    | .next loop acknowledgement => do
      let (heard, final) ← doAll rest { desk with loop }
      return (.acknowledgement acknowledgement :: heard, final)
    | .stopped => return ([], none)
  | .elsewhere layers :: rest, desk => doAll rest { desk with loop := desk.loop.later layers }

variable {H}

/-- What is asked of a context that is there, it is told. -/
theorem call_of_ask {desk : Desk B φ} {call : Call σ φ} {p : Proxy} {command : Command σ φ}
    (planned : desk.proxy.plan call = (p, .ask command)) {c : Context B φ}
    (there : desk.loop.contexts.get? p.handle = some c) :
    desk.call H call = c.dispatch H desk.loop.nextLayer command >>= fun r =>
      pure ((p.conclude call r.1).2, ⟨(p.conclude call r.1).1,
        ⟨desk.loop.contexts.insert p.handle r.2,
          RenderLoop.layerAfter desk.loop.nextLayer r.1⟩⟩) := by
  unfold Desk.call RenderLoop.run
  simp only [planned, there, bind_assoc, pure_bind]

theorem call_of_answer {desk : Desk B φ} {call : Call σ φ} {p : Proxy} {outcome : CallOutcome}
    (planned : desk.proxy.plan call = (p, .answer outcome)) :
    desk.call H call = pure (outcome, ⟨p, desk.loop⟩) := by
  unfold Desk.call
  rw [planned]

end Desk

/-! ### Side by side -/

section Fellows

variable {B₁ B₂ : Backend σ}

/-- One proxy, and threads with related contexts. -/
structure Desk.Beside (R : Context B₁ φ → Context B₂ φ → Prop) (desk₁ : Desk B₁ φ)
    (desk₂ : Desk B₂ φ) : Prop where
  proxy : desk₂.proxy = desk₁.proxy
  loop : desk₁.loop.Beside R desk₂.loop

theorem Desk.Beside.eq {desk desk' : Desk B₁ φ} (desks : desk.Beside (fun c c' => c' = c) desk') :
    desk' = desk := by
  obtain ⟨p, ⟨⟨entries, _⟩, next⟩⟩ := desk
  obtain ⟨_, ⟨⟨entries', _⟩, _⟩⟩ := desk'
  obtain ⟨rfl, contexts, rfl⟩ := desks
  have same : entries = entries' := by
    refine List.forall₂_eq_eq_eq ▸ List.Forall₂.imp ?_ contexts
    rintro ⟨k, c⟩ ⟨_, _⟩ ⟨rfl, rfl⟩
    rfl
  subst same
  rfl

namespace Fellows

variable {H₁ : Host B₁ φ τ} {H₂ : Host B₂ φ τ} {D : B₁.Device → B₂.Device → Prop}
  {R : Context B₁ φ → Context B₂ φ → Prop} (fellows : Fellows H₁ H₂ D R)

include fellows

/-- **A call has the same outcome on both threads.** -/
theorem call_simulates {desk₁ : Desk B₁ φ} {desk₂ : Desk B₂ φ} (desks : desk₁.Beside R desk₂)
    (call : Call σ φ) :
    Simulates D (fun r₁ r₂ => r₂.1 = r₁.1 ∧ r₁.2.Beside R r₂.2) (desk₁.call H₁ call)
      (desk₂.call H₂ call) := by
  unfold Desk.call
  rw [desks.proxy]
  split
  case h_1 => exact simulates_pure ⟨rfl, rfl, desks.loop⟩
  case h_2 =>
    refine (fellows.run_simulates desks.loop _ _).bind ?_
    rintro ⟨_, loop₁⟩ ⟨reply, loop₂⟩ ⟨rfl, loops⟩
    exact simulates_pure ⟨rfl, rfl, loops⟩
  case h_3 =>
    refine (fellows.run_simulates desks.loop _ _).bind ?_
    rintro ⟨_, loop₁⟩ ⟨reply, loop₂⟩ ⟨rfl, loops⟩
    exact simulates_pure ⟨rfl, rfl, loops⟩

/-- **So has everything that is done.** -/
theorem doAll_simulates (doings : List (Doing σ φ τ)) {desk₁ : Desk B₁ φ} {desk₂ : Desk B₂ φ}
    (desks : desk₁.Beside R desk₂) :
    Simulates D (fun r₁ r₂ => r₂.1 = r₁.1 ∧ Option.Rel (Desk.Beside R) r₁.2 r₂.2)
      (Desk.doAll H₁ doings desk₁) (Desk.doAll H₂ doings desk₂) := by
  induction doings generalizing desk₁ desk₂ with
  | nil => exact simulates_pure ⟨rfl, .some desks⟩
  | cons doing rest ih =>
    cases doing with
    | call call =>
      refine (fellows.call_simulates desks call).bind ?_
      rintro ⟨_, desk₁⟩ ⟨outcome, desk₂⟩ ⟨rfl, desks⟩
      refine (ih desks).bind ?_
      rintro ⟨_, final₁⟩ ⟨heard, final₂⟩ ⟨rfl, finals⟩
      exact simulates_pure ⟨rfl, finals⟩
    | envelope envelope =>
      refine (fellows.serve_simulates desks.loop envelope).bind fun served₁ served₂ leaves => ?_
      cases leaves with
      | @next loop₁ loop₂ loops ack =>
        have beside : Desk.Beside R ⟨desk₁.proxy, loop₁⟩ ⟨desk₂.proxy, loop₂⟩ :=
          ⟨desks.proxy, loops⟩
        refine (ih beside).bind ?_
        rintro ⟨_, final₁⟩ ⟨heard, final₂⟩ ⟨rfl, finals⟩
        exact simulates_pure ⟨rfl, finals⟩
      | stopped => exact simulates_pure ⟨rfl, .none⟩
    | elsewhere layers =>
      refine ih ⟨desks.proxy, desks.loop.contexts, ?_⟩
      simp [RenderLoop.later, desks.loop.nextLayer]

end Fellows

end Fellows

end RenderRelay

import RenderRelay.Proofs.Exchange.Replies
import RenderRelay.Session.Calls

/-!
Calls that the render thread itself makes and that would have to wait. They are refused: nothing is
sent. What a refused call does to the proxy is another matter: `setup` has noted the size before it
asks, and a full `destroy` ends the proxy whether it was answered or not. `refused_call` says
that these two leave their mark, that no other call does, and what becomes of the next try.
-/

namespace RenderRelay

namespace Proxy

variable {σ φ : Type}

/-- The proxy and the outcome after a call that was refused where it would have had to wait. -/
def refused (p : Proxy) (call : Call σ φ) : Proxy × CallOutcome :=
  match p.plan call with
  | (p, .answer outcome) => (p, outcome)
  | (p, .notify _ outcome) => (p, outcome)
  | (p, .ask _) => p.conclude call none

def Lingers (p : Proxy) (call : Call σ φ) : Prop :=
  p.lifecycle = .live ∧
    ((∃ size, call = .setup size ∧ p.viewport ≠ some size) ∨ call = .destroy true)

theorem refused_of_not_live {p : Proxy} (call : Call σ φ) (dead : p.lifecycle ≠ .live) :
    (p.refused call).1 = p := by
  simp [refused, plan, isEnabled, dead]

theorem plan_of_live {p : Proxy} {call : Call σ φ} (live : p.lifecycle = .live) :
    (p.plan call).1 =
      match call with
      | .setup size => { p with viewport := some size }
      | _ => p := by
  have enabled : p.isEnabled = true := by simp [isEnabled, live]
  rw [plan, if_pos enabled]
  cases call with
  | setup size =>
    by_cases same : p.viewport = some size
    · have kept : { p with viewport := some size } = p := by rw [← same]
      simp [planLive, same, kept]
    · simp [planLive, same]
  | _ => simp only [planLive] <;> (try split) <;> rfl

/-- After a call that got no reply only a full end is noted. -/
theorem conclude_none (p : Proxy) (call : Call σ φ) :
    (p.conclude call none).1 =
      match call with
      | .destroy true => if p.lifecycle = .live then { p with lifecycle := .destroyed } else p
      | _ => p := by
  cases call with
  | destroy full => cases full <;> simp [conclude]
  | _ => rfl

/-- **What a refused call makes of a live proxy.** -/
theorem refused_of_live {p : Proxy} {call : Call σ φ} (live : p.lifecycle = .live) :
    (p.refused call).1 =
      match call with
      | .setup size => { p with viewport := some size }
      | .destroy true => { p with lifecycle := .destroyed }
      | _ => p := by
  by_cases ends : call = .destroy true
  · subst ends
    simp [refused, plan, isEnabled, live, planLive, conclude]
  · have planned : (p.refused call).1 = (p.plan call).1 := by
      unfold refused
      rcases p.plan call with ⟨p', outcome | ⟨command, outcome⟩ | command⟩
      · rfl
      · rfl
      · refine (p'.conclude_none call).trans ?_
        split
        · contradiction
        · rfl
    rw [planned, plan_of_live live]
    split
    · rfl
    · split <;> first | rfl | contradiction | simp_all

/-- **A refused call leaves the proxy as it was, unless it is one of the two that linger.** -/
theorem refused_eq_self_iff (p : Proxy) (call : Call σ φ) :
    (p.refused call).1 = p ↔ ¬p.Lingers call := by
  by_cases live : p.lifecycle = .live
  · rw [refused_of_live live]
    obtain ⟨handle, capabilities, translucent, viewport, frameCount, lifecycle⟩ := p
    cases call with
    | setup size => simp_all [Lingers, eq_comm]
    | destroy full => cases full <;> simp_all [Lingers]
    | _ => simp [Lingers]
  · simp [refused_of_not_live call live, Lingers, live]

/-- A call that lingers would have been sent, and is not sent the next time. -/
theorem Lingers.next {p : Proxy} {call : Call σ φ} (lingers : p.Lingers call) :
    (∃ command, (p.plan call).2 = .ask command) ∧
      ((p.refused call).1.plan call).2 = .answer (.ok .done) := by
  obtain ⟨live, ⟨size, rfl, other⟩ | rfl⟩ := lingers
  · have enabled : p.isEnabled = true := by simp [isEnabled, live]
    rw [refused_of_live live]
    constructor
    · exact ⟨.setup size, by simp [plan, enabled, planLive, other]⟩
    · simp [plan, isEnabled, live, planLive]
  · rw [refused_of_live live]
    constructor
    · exact ⟨.destroy true, by simp [plan, isEnabled, live, planLive]⟩
    · simp [plan, isEnabled, idle]

end Proxy

namespace Session

/-- What is noted about a call that was refused, if it was. -/
def refusals (p : Proxy) (call : Call Surface Script) : List LogRecord :=
  match p.plan call with
  | (p, .ask command) => [p.refusal command.name]
  | _ => []

theorem World.noteAll_inboxes (side : Side) (records : List LogRecord) (w : World) :
    (w.noteAll side records).inboxes = w.inboxes := by
  induction records generalizing w with
  | nil => rfl
  | cons record rest ih =>
    rw [noteAll, List.foldl_cons]
    refine (ih _).trans ?_
    cases side <;> rfl

/-- On the render thread a call that waits for a reply ends at once, with a note at most. -/
theorem Caller.perform_on_render_thread (w : World) (thread : Nat) (p : Proxy)
    {call : Call Surface Script} (waits : call.replyKind.isSome) :
    onRenderThread.perform thread p call w =
      (p.refused call, w.noteAll .render (refusals p call)) := by
  have fits := p.plan_fits call
  unfold perform Proxy.refused refusals
  generalize p.plan call = plan at *
  rcases plan with ⟨p', outcome | ⟨command, outcome⟩ | command⟩
  · rfl
  · simp [fits.2] at waits
  · rfl

/-- **What a refused call does.** Made on the render thread, a call that waits for a reply sends
nothing to any thread, and all that is new is a note. The proxy is as it was before exactly if the
call is not one of those that linger; one that lingers would have been sent, and the same call made
again later is taken for made already. -/
theorem refused_call (w : World) (thread : Nat) (p : Proxy) (call : Call Surface Script)
    (waits : call.replyKind.isSome) :
    let after := Caller.onRenderThread.perform thread p call w
    after.2.inboxes = w.inboxes ∧ (∃ records, after.2 = w.noteAll .render records) ∧
      (after.1.1 = p ↔ ¬p.Lingers call) ∧
      (p.Lingers call → (∃ command, (p.plan call).2 = .ask command) ∧
        (after.1.1.plan call).2 = .answer (.ok .done)) := by
  rw [Caller.perform_on_render_thread w thread p waits]
  exact ⟨World.noteAll_inboxes _ _ _, ⟨_, rfl⟩, p.refused_eq_self_iff call, Proxy.Lingers.next⟩

theorem refused_call_fence :
    (Caller.onRenderThread.perform 0 (.ofHandle ⟨1⟩ .all false) .fence .empty).1.1 =
      .ofHandle ⟨1⟩ .all false :=
  ((refused_call .empty 0 (.ofHandle ⟨1⟩ .all false) .fence rfl).2.2.1).2 (by simp [Proxy.Lingers])

/-- A size that was refused counts as set, and is not sent when it is set again. -/
theorem refused_size_is_noted :
    (Call.setup ⟨16, 16⟩ : Call Surface Script).replyKind.isSome ∧
    let p := Proxy.ofHandle ⟨1⟩ .all false
    let after := (Caller.onRenderThread.perform 0 p (.setup ⟨16, 16⟩) .empty).1.1
    after ≠ p ∧ (after.plan (.setup ⟨16, 16⟩ : Call Surface Script)).2 = .answer (.ok .done) ∧
      (p.plan (.setup ⟨16, 16⟩ : Call Surface Script)).2 = .ask (.setup ⟨16, 16⟩) :=
  ⟨rfl, by decide, rfl, rfl⟩

end Session

end RenderRelay

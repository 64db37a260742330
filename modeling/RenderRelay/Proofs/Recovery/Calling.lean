import RenderRelay.Proofs.Accord.Kept
import RenderRelay.Proofs.Recovery.Desk

/-!
Calls of a desk are runs of the system. Where nothing is on the queue and nobody else takes a step,
a call is sent, handled at once and answered (`Run.call`).
-/

namespace RenderRelay

open DeviceOp

variable {σ φ τ : Type} {B : Backend σ} {H : Host B φ τ}

/-- How a call ends: at once, or after its context did something. -/
inductive Desk.Ending (H : Host B φ τ) (desk : Desk B φ) (d : B.Device) (call : Call σ φ) :
    CallOutcome → Desk B φ → B.Device → Prop
  | answer {p : Proxy} {outcome : CallOutcome}
      (planned : desk.proxy.plan call = (p, .answer outcome)) :
    Ending H desk d call outcome ⟨p, desk.loop⟩ d
  | notify {p : Proxy} {command : Command σ φ} {outcome : CallOutcome} {reply : Option Reply}
      {loop : RenderLoop B φ} {d' : B.Device}
      (planned : desk.proxy.plan call = (p, .notify command outcome))
      (run : (desk.loop.run H p.handle command).runOn d = (.ok (reply, loop), d')) :
    Ending H desk d call outcome ⟨p, loop⟩ d'
  | ask {p : Proxy} {command : Command σ φ} {reply : Option Reply} {loop : RenderLoop B φ}
      {d' : B.Device} (planned : desk.proxy.plan call = (p, .ask command))
      (run : (desk.loop.run H p.handle command).runOn d = (.ok (reply, loop), d')) :
    Ending H desk d call (p.conclude call reply).2 ⟨(p.conclude call reply).1, loop⟩ d'

theorem Desk.Calls.ending {desk desk' : Desk B φ} {d d' : B.Device} {call : Call σ φ}
    {outcome : CallOutcome} (calls : desk.Calls H d call outcome desk' d') :
    desk.Ending H d call outcome desk' d' := by
  have ends : (desk.call H call).Ensures d fun r d' => desk.Ending H d call r.1 r.2 d' := by
    unfold Desk.call
    split
    case h_1 planned => exact ensures_pure.2 (.answer planned)
    case h_2 planned =>
      exact ensures_bind.2 fun r d₁ run => ensures_pure.2 (.notify planned run)
    case h_3 planned =>
      exact ensures_bind.2 fun r d₁ run => ensures_pure.2 (.ask planned run)
  exact ends _ _ calls

/-- A command is answered exactly if it should be, where its context is there. -/
theorem RenderLoop.reply_of_run {loop loop' : RenderLoop B φ} {h : ProxyHandle}
    {command : Command σ φ} {d d' : B.Device} {reply : Option Reply} (known : loop.Knows h)
    (run : (loop.run H h command).runOn d = (.ok (reply, loop'), d')) :
    reply.map Reply.kind = command.replyKind := by
  obtain ⟨c, there⟩ := Option.isSome_iff_exists.1 known
  have kinds : (loop.run H h command).Ensures d fun r _ =>
      r.1.map Reply.kind = command.replyKind := by
    simp only [RenderLoop.run, there, ensures_bind, ensures_pure]
    exact c.dispatch_replyKind H loop.nextLayer command d
  exact kinds _ _ run

theorem RenderLoop.serve_run {loop loop' : RenderLoop B φ} {h : ProxyHandle}
    {command : Command σ φ} {d d' : B.Device} {reply : Option Reply}
    (run : (loop.run H h command).runOn d = (.ok (reply, loop'), d')) :
    (loop.serve H (.message h (.run command))).runOn d =
      (.ok (.next loop' (reply.map (⟨h, ·⟩))), d') := by
  simp only [RenderLoop.serve, runOn_bind, run]
  rfl

namespace Exchange

variable {capacity : Nat} {capabilities : Capabilities} {events : List (Event σ φ)}
  {s : State B φ τ} {h : ProxyHandle}

/-- The thread waits before an empty queue, and the proxy is between calls. -/
structure State.Rests (s : State B φ τ) (h : ProxyHandle) (desk : Desk B φ) (d : B.Device) :
    Prop where
  engine : s.engine = .ready desk.loop d
  queue : s.queue = []
  phase : (s.parties h).phase = .idle
  proxy : (s.parties h).proxy = desk.proxy

theorem State.Rests.knows (run : Run H capacity capabilities events s) {desk : Desk B φ}
    {d : B.Device} (rests : s.Rests h desk d) (live : desk.proxy.lifecycle = .live) :
    desk.proxy.handle = h ∧ desk.loop.Knows h := by
  have inv := Invariant.of_reachable run.reachable
  obtain ⟨-, rest⟩ := (inv.standing h).of_idle rests.phase
  have live : (s.parties h).proxy.lifecycle = .live := rests.proxy ▸ live
  obtain ⟨handle, -, known⟩ := rest.of_live live
  have knows : s.engine.Knows h := known (by simp [State.view, rests.engine, Engine.Running])
  rw [rests.engine] at knows
  exact ⟨rests.proxy ▸ handle, knows⟩

/-- A call that sends something is in the thread's hand three steps later. -/
theorem Run.delivers (run : Run H capacity capabilities events s) (room : 0 < capacity)
    {desk : Desk B φ} {d : B.Device} (rests : s.Rests h desk d) (call : Call σ φ) (p : Proxy)
    (errand : Errand σ φ)
    (begins : (s.parties h).begin call = ⟨p, .sending errand, (s.parties h).slot⟩) :
    ∃ events' s', Run H capacity capabilities (events ++ events') s' ∧
      s'.engine = .busy desk.loop d ⟨s.issued, .message p.handle errand.message⟩ ∧
      s'.queue = [] ∧
      s'.parties h = Party.submitted ⟨p, .sending errand, (s.parties h).slot⟩ s.issued errand := by
  have begun := run.step (.calls call rests.phase)
  rw [begins] at begun
  generalize calling : s.setParty h ⟨p, .sending errand, (s.parties h).slot⟩ = s₁ at begun
  have engine : s₁.engine = .ready desk.loop d := calling ▸ rests.engine
  have queue : s₁.queue = [] := calling ▸ rests.queue
  have issued : s₁.issued = s.issued := calling ▸ rfl
  have party : s₁.parties h = ⟨p, .sending errand, (s.parties h).slot⟩ := by
    simp [← calling, State.setParty]
  have sent := begun.step (.submits (by rw [party]) (by simpa [queue] using room)
    (by simp [engine]))
  rw [party, issued] at sent
  have queued : ((s₁.push (.message p.handle errand.message)).setParty h
      (Party.submitted ⟨p, .sending errand, (s.parties h).slot⟩ s.issued errand)).queue =
        [⟨s.issued, .message p.handle errand.message⟩] := by
    simp [State.setParty, State.push, queue, issued]
  have taken := sent.step (.takes engine queued)
  rw [List.append_assoc, List.append_assoc] at taken
  exact ⟨_, _, taken, rfl, rfl, by simp [State.setParty]⟩

/-- A reply is left in its place and taken out of there in two steps. -/
theorem Run.returns (run : Run H capacity capabilities events s) {loop loop' : RenderLoop B φ}
    {d d' : B.Device} {ticket : Ticket σ φ τ} {number : Nat} {errand : Errand σ φ} {reply : Reply}
    (busy : s.engine = .busy loop d ticket)
    (served : (loop.serve H ticket.envelope).runOn d =
      (.ok (.next loop' (some ⟨h, reply⟩)), d'))
    (phase : (s.parties h).phase = .waiting number errand) :
    ∃ before s',
      Run H capacity capabilities (events ++ before ++ [.returns h errand (some reply)]) s' ∧
      s'.engine = .ready loop' d' ∧ s'.queue = s.queue ∧
      s'.parties h = (s.parties h).receive errand reply := by
  have inv := Invariant.of_reachable run.reachable
  obtain ⟨⟨_, waits⟩, -⟩ := inv.awaiting busy served
  have offered : ((s.parties h).offer reply).1 = { s.parties h with slot := some reply } :=
    congrArg Prod.fst (waits.offer (inv.born h (by simp [phase])).1)
  obtain ⟨event, s₁, answered, engine, queue, party⟩ :
      ∃ event s₁, Run H capacity capabilities (events ++ [event]) s₁ ∧
        s₁.engine = .ready loop' d' ∧ s₁.queue = s.queue ∧
        s₁.parties h = { s.parties h with slot := some reply } :=
    ⟨_, _, run.step (.answers busy served), rfl, rfl, by simpa [State.setParty] using offered⟩
  have taken := answered.step (.receives (by rw [party]; exact phase) (by rw [party]))
  exact ⟨_, _, taken, engine, queue, by simp [State.setParty, Party.receive, party]⟩

/-- **A call of a desk is a run of the system**, in which a call that waits returns with the reply
that its outcome is made of. -/
theorem Run.call (run : Run H capacity capabilities events s) (room : 0 < capacity)
    {desk desk' : Desk B φ} {d d' : B.Device} (rests : s.Rests h desk d) {call : Call σ φ}
    {outcome : CallOutcome} (calls : desk.Calls H d call outcome desk' d') :
    ∃ events' s', Run H capacity capabilities (events ++ events') s' ∧ s'.Rests h desk' d' ∧
      ∀ p command, desk.proxy.plan call = (p, .ask command) →
        ∃ reply, outcome = (p.conclude call (some reply)).2 ∧
          events'.getLast? = some (.returns h (.request call command) (some reply)) := by
  have fits := desk.proxy.plan_fits call
  have same := desk.proxy.plan_handle call
  cases calls.ending with
  | @answer p _ planned =>
    have begun := run.step (.calls call rests.phase)
    simp only [Party.begin, rests.proxy, planned] at begun
    have rests' : (s.setParty h { s.parties h with proxy := p }).Rests h ⟨p, desk.loop⟩ d :=
      ⟨rests.engine, rests.queue, by simpa [State.setParty] using rests.phase,
        by simp [State.setParty]⟩
    exact ⟨_, _, begun, rests', by simp [planned]⟩
  | @notify p command _ reply loop _ planned handled =>
    obtain ⟨handle, knows⟩ := rests.knows run (desk.proxy.live_of_plan call (by simp [planned]))
    rw [planned] at fits same
    have silent : reply = none := by
      have kind := RenderLoop.reply_of_run (same.trans handle ▸ knows) handled
      simpa [fits.1] using kind
    subst silent
    obtain ⟨events', s₁, sent, busy, queue, party⟩ := run.delivers room rests call p
      (.notice command) (by simp [Party.begin, rests.proxy, planned])
    have served := sent.step (.serves busy (RenderLoop.serve_run handled))
    rw [List.append_assoc] at served
    refine ⟨_, _, served, ⟨rfl, queue, ?_, ?_⟩, by simp [planned]⟩
    all_goals simp [State.handled, party, Party.submitted]
  | @ask p command reply loop _ planned handled =>
    obtain ⟨handle, knows⟩ := rests.knows run (desk.proxy.live_of_plan call (by simp [planned]))
    rw [planned] at fits same
    have kind := RenderLoop.reply_of_run (same.trans handle ▸ knows) handled
    obtain ⟨reply, rfl⟩ : ∃ r, reply = some r := by
      refine Option.isSome_iff_exists.1 ?_
      have answered := fits.1 ▸ fits.2
      rwa [← kind, Option.isSome_map] at answered
    obtain ⟨events', s₁, sent, busy, queue, party⟩ := run.delivers room rests call p
      (.request call command) (by simp [Party.begin, rests.proxy, planned])
    have served := RenderLoop.serve_run (H := H) (τ := τ) handled
    obtain rfl : p.handle = h := same.trans handle
    obtain ⟨events₂, s₂, returned, ready, queue', party'⟩ := sent.returns busy served
      (by rw [party]; rfl)
    rw [List.append_assoc, List.append_assoc] at returned
    refine ⟨_, _, returned, ⟨ready, queue'.trans queue, ?_, ?_⟩, fun p' command' asks => ?_⟩
    · simp [party', Party.receive]
    · simp [party', party, Party.receive, Party.submitted, Errand.conclude]
    · obtain ⟨rfl, rfl⟩ : p = p' ∧ command = command' := by simpa [planned] using asks
      exact ⟨reply, rfl, by simp⟩

end Exchange

end RenderRelay

import RenderRelay.Proofs.Exchange.Protocol

/-!
What a proxy submits in its life. A run is told with the messages that were submitted in it, whether
they got on the queue or there was none any more (`History`). The end of a proxy is submitted once
and nothing after it, if the proxy has a handle, and else never (`History.said`).
-/

namespace RenderRelay.Exchange

variable {σ φ τ : Type} {B : Backend σ} {H : Host B φ τ} {capacity : Nat}
  {capabilities : Capabilities}

/-! ### Runs with what is submitted -/

abbrev Submissions (σ φ : Type) := List (ProxyHandle × Message σ φ)

/-- What is submitted in a step: the message of the party that was about to and is not any more. -/
inductive Submits (s s' : State B φ τ) : Submissions σ φ → Prop
  | one {h : ProxyHandle} {errand : Errand σ φ} (before : (s.parties h).phase = .sending errand)
      (after : (s'.parties h).phase ≠ .sending errand)
      (others : ∀ k, k ≠ h → s'.parties k = s.parties k) :
    Submits s s' [((s.parties h).proxy.handle, errand.message)]
  | none (still : ∀ h errand, (s.parties h).phase = .sending errand →
      (s'.parties h).phase = .sending errand) :
    Submits s s' []

/-- A run of the system, with all that was submitted in it. -/
inductive History (H : Host B φ τ) (capacity : Nat) (capabilities : Capabilities) :
    Submissions σ φ → State B φ τ → Prop
  | start (device : B.Device) (nextLayer : LayerHandle) :
    History H capacity capabilities [] (.start device nextLayer)
  | step {log sent : Submissions σ φ} {s s' : State B φ τ} {event : Event σ φ}
      (history : History H capacity capabilities log s)
      (step : Step H capacity capabilities s event s') (submits : Submits s s' sent) :
    History H capacity capabilities (log ++ sent) s'

def Submissions.of (log : Submissions σ φ) (h : ProxyHandle) : List (Message σ φ) :=
  (log.filter fun e => e.1 = h).map Prod.snd

theorem Submissions.of_append (log log' : Submissions σ φ) (h : ProxyHandle) :
    Submissions.of (log ++ log') h = log.of h ++ log'.of h := by
  simp [of]

theorem History.reachable {log : Submissions σ φ} {s : State B φ τ}
    (history : History H capacity capabilities log s) : Reachable H capacity capabilities s := by
  induction history with
  | start device nextLayer => exact .start device nextLayer
  | step _ taken _ ih => exact ih.step taken

/-! ### One party -/

/-- What a step can make of a party. -/
inductive Party.Moves (party : Party σ φ) : Party σ φ → Prop
  | stays {party' : Party σ φ} (phase : party'.phase = party.phase)
      (proxy : party'.proxy = party.proxy) : Moves party party'
  | opens {party' : Party σ φ} {translucent : Bool} (unborn : party.phase = .unborn)
      (phase : party'.phase = .sending (.opening translucent)) : Moves party party'
  | calls (idle : party.phase = .idle) (call : Call σ φ) : Moves party (party.begin call)
  | closes (idle : party.phase = .idle) : Moves party party.close
  | submits {errand : Errand σ φ} (phase : party.phase = .sending errand) (number : Nat) :
    Moves party (party.submitted number errand)
  | fails {errand : Errand σ φ} (phase : party.phase = .sending errand) :
    Moves party (party.undelivered errand)
  | receives {number : Nat} {errand : Errand σ φ} (phase : party.phase = .waiting number errand)
      (reply : Reply) : Moves party (party.receive errand reply)
  | abandons {number : Nat} {errand : Errand σ φ} (phase : party.phase = .waiting number errand) :
    Moves party (party.abandon errand)

variable {s s' : State B φ τ}

theorem Party.offer_eq (party : Party σ φ) (reply : Reply) :
    ∃ slot, (party.offer reply).1 = { party with slot } := by
  unfold offer
  split
  · split <;> exact ⟨_, rfl⟩
  · exact ⟨_, rfl⟩

/-- What was sent is not about to be, whether it got on the queue or not. -/
theorem Party.submitted_sent (party : Party σ φ) (number : Nat) (errand : Errand σ φ) :
    (party.submitted number errand).phase ≠ .sending errand := by
  cases errand <;> simp [submitted]

theorem Party.undelivered_sent (party : Party σ φ) (errand : Errand σ φ) :
    (party.undelivered errand).phase ≠ .sending errand := by
  cases errand <;> simp [undelivered]

/-- Where one party's step leaves it about to send what it was about to, all parties are. -/
theorem State.still_sending (s : State B φ τ) {k : ProxyHandle} {party : Party σ φ}
    (still : ∀ errand, (s.parties k).phase = .sending errand → party.phase = .sending errand)
    (h : ProxyHandle) (errand : Errand σ φ) (phase : (s.parties h).phase = .sending errand) :
    (Function.update s.parties k party h).phase = .sending errand :=
  (Function.forall_update_iff s.parties fun h party =>
    ∀ errand, (s.parties h).phase = .sending errand → party.phase = .sending errand).2
    ⟨still, fun _ _ _ phase => phase⟩ h errand phase

theorem Invariant.unborn_next (inv : Invariant H s) :
    (s.parties ⟨s.handles + 1⟩).phase = .unborn := by
  by_contra born
  exact absurd (inv.born _ born).2 (by simp)

theorem Invariant.handle_of_sending (inv : Invariant H s) {h : ProxyHandle} {errand : Errand σ φ}
    (phase : (s.parties h).phase = .sending errand) : (s.parties h).proxy.handle = h := by
  cases inv.standing h with
  | sending _ vacant => exact vacant.handle
  | _ => simp_all [State.view]

theorem Step.moves {event : Event σ φ} (inv : Invariant H s)
    (step : Step H capacity capabilities s event s') (h : ProxyHandle) :
    (s.parties h).Moves (s'.parties h) := by
  have one {k : ProxyHandle} {party : Party σ φ} (moves : (s.parties k).Moves party) :
      (s.parties h).Moves (Function.update s.parties k party h) :=
    (Function.forall_update_iff s.parties fun h party => (s.parties h).Moves party).2
      ⟨moves, fun _ _ => .stays rfl rfl⟩ h
  cases step with
  | opens translucent =>
    exact one (.opens inv.unborn_next rfl)
  | calls call idle => exact one (.calls idle call)
  | closes idle => exact one (.closes idle)
  | submits phase => exact one (.submits phase _)
  | fails phase => exact one (.fails phase)
  | receives phase => exact one (.receives phase _)
  | abandons phase => exact one (.abandons phase)
  | @answers _ _ _ _ _ ack =>
    obtain ⟨slot, offered⟩ := (s.parties ack.handle).offer_eq ack.reply
    exact one (.stays (by rw [offered]) (by rw [offered]))
  | _ => exact .stays rfl rfl

theorem Step.submissions {event : Event σ φ} (inv : Invariant H s)
    (step : Step H capacity capabilities s event s') : ∃ sent, Submits s s' sent := by
  have others {k : ProxyHandle} {party : Party σ φ} (h : ProxyHandle) (other : h ≠ k) :
      Function.update s.parties k party h = s.parties h := by simp [other]
  cases step with
  | opens translucent =>
    exact ⟨[], .none (s.still_sending (by simp [inv.unborn_next]))⟩
  | calls call idle => exact ⟨[], .none (s.still_sending (by simp [idle]))⟩
  | closes idle => exact ⟨[], .none (s.still_sending (by simp [idle]))⟩
  | @submits h errand phase =>
    refine ⟨_, .one phase ?_ others⟩
    simpa [State.setParty] using Party.submitted_sent _ _ errand
  | @fails h errand phase =>
    refine ⟨_, .one phase ?_ others⟩
    simpa [State.setParty] using Party.undelivered_sent _ errand
  | receives phase => exact ⟨[], .none (s.still_sending (by simp [phase]))⟩
  | abandons phase => exact ⟨[], .none (s.still_sending (by simp [phase]))⟩
  | @answers _ _ _ _ _ ack =>
    obtain ⟨slot, offered⟩ := (s.parties ack.handle).offer_eq ack.reply
    exact ⟨[], .none (s.still_sending (by simp [offered]))⟩
  | _ => exact ⟨[], .none fun _ _ phase => phase⟩

/-- Of one party's messages a step submits the one that the party was about to send, if that is over
now, and else none. -/
theorem Submits.of {sent : Submissions σ φ} (inv : Invariant H s) (submits : Submits s s' sent)
    (h : ProxyHandle) :
    (∃ errand, (s.parties h).phase = .sending errand ∧ (s'.parties h).phase ≠ .sending errand ∧
        sent.of h = [errand.message]) ∨
      (∀ errand, (s.parties h).phase = .sending errand →
        (s'.parties h).phase = .sending errand) ∧ sent.of h = [] := by
  cases submits with
  | @one k errand before after others =>
    rw [inv.handle_of_sending before]
    by_cases same : k = h
    · subst same
      exact .inl ⟨errand, before, after, by simp [Submissions.of]⟩
    · exact .inr ⟨fun errand phase => others h (Ne.symm same) ▸ phase,
        by simp [Submissions.of, same]⟩
  | none still => exact .inr ⟨still h, rfl⟩

/-! ### Lives -/

/-- What a party has submitted, by how far it is. -/
def Party.Said (party : Party σ φ) (h : ProxyHandle) (messages : List (Message σ φ)) : Prop :=
  match party.phase with
  | .unborn => messages = []
  | .gone =>
    if party.proxy.handle.isValid then
      party.proxy.handle = h ∧ ∃ before, messages = before ++ [.dispose] ∧ .dispose ∉ before
    else .dispose ∉ messages
  | _ => .dispose ∉ messages

theorem Party.said_of_living {party : Party σ φ} {h : ProxyHandle}
    {messages : List (Message σ φ)} (born : party.phase ≠ .unborn) (living : party.phase ≠ .gone) :
    party.Said h messages ↔ .dispose ∉ messages := by
  unfold Said
  split <;> simp_all

theorem Party.begin_living {party : Party σ φ} (idle : party.phase = .idle) (call : Call σ φ) :
    (party.begin call).phase ≠ .unborn ∧ (party.begin call).phase ≠ .gone := by
  unfold begin
  split <;> simp [idle]

/-- A party that is not sending anything submits nothing, and all it may do that counts is to end
without a word, which is for those without a handle. -/
theorem Party.Said.quiet {party party' : Party σ φ} {h : ProxyHandle}
    {messages : List (Message σ φ)} (said : party.Said h messages) (moves : party.Moves party')
    (still : ∀ errand, party.phase = .sending errand → party'.phase = .sending errand)
    (silent : party.phase = .idle → party.proxy.announcesEnd = false →
      party.proxy.handle.isValid = false) : party'.Said h messages := by
  have living {party' : Party σ φ} (before : party.phase ≠ .unborn ∧ party.phase ≠ .gone)
      (after : party'.phase ≠ .unborn ∧ party'.phase ≠ .gone) : party'.Said h messages :=
    (said_of_living after.1 after.2).2 ((said_of_living before.1 before.2).1 said)
  cases moves with
  | stays phase proxy =>
    unfold Said at said ⊢
    rwa [phase, proxy]
  | opens unborn phase =>
    simp only [Said, unborn] at said
    simp [Said, phase, said]
  | calls idle call => exact living (by simp [idle]) (begin_living idle call)
  | closes idle =>
    cases announces : party.proxy.announcesEnd with
    | true => exact living (by simp [idle]) (by simp [close, announces])
    | false =>
      have said := (said_of_living (by simp [idle]) (by simp [idle])).1 said
      simpa [Said, close, announces, silent idle announces] using said
  | submits phase number => exact absurd (still _ phase) (submitted_sent _ _ _)
  | fails phase => exact absurd (still _ phase) (undelivered_sent _ _)
  | receives phase reply => exact living (by simp [phase]) (by simp [receive])
  | abandons phase => exact living (by simp [phase]) (by simp [abandon])

/-- A party that has sent its message lives on, unless that was its farewell. -/
theorem Party.Said.loud {party party' : Party σ φ} {h : ProxyHandle}
    {messages : List (Message σ φ)} {errand : Errand σ φ} (said : party.Said h messages)
    (moves : party.Moves party') (before : party.phase = .sending errand)
    (after : party'.phase ≠ .sending errand) (handle : party.proxy.handle = h)
    (valid : h.isValid) : party'.Said h (messages ++ [errand.message]) := by
  have said := (said_of_living (by simp [before]) (by simp [before])).1 said
  -- whether it got on the queue or not
  have done : ∃ number, party' = party.submitted number errand ∨
      party' = party.undelivered errand := by
    cases moves with
    | stays phase proxy => exact absurd (phase.trans before) after
    | submits phase number =>
      obtain rfl := Phase.sending.inj (before.symm.trans phase)
      exact ⟨number, .inl rfl⟩
    | fails phase =>
      obtain rfl := Phase.sending.inj (before.symm.trans phase)
      exact ⟨0, .inr rfl⟩
    | opens phase => simp [before] at phase
    | calls phase => simp [before] at phase
    | closes phase => simp [before] at phase
    | receives phase => simp [before] at phase
    | abandons phase => simp [before] at phase
  obtain ⟨number, rfl | rfl⟩ := done <;> cases errand <;>
    simp [Said, submitted, undelivered, Errand.message, said, handle, valid]

/-- **What a party submits with a step.** -/
theorem Party.Said.step {sent : Submissions σ φ} {event : Event σ φ} {h : ProxyHandle}
    {messages : List (Message σ φ)} (said : (s.parties h).Said h messages)
    (inv : Invariant H s) (step : Step H capacity capabilities s event s')
    (submits : Submits s s' sent) : (s'.parties h).Said h (messages ++ sent.of h) := by
  have moves := step.moves inv h
  rcases submits.of inv h with ⟨errand, before, after, one⟩ | ⟨still, none⟩
  · rw [one]
    exact said.loud moves before after (inv.handle_of_sending before)
      (inv.born h (by simp [before])).1
  · rw [none, List.append_nil]
    refine said.quiet moves still fun idle silent => ?_
    obtain ⟨-, rest⟩ := (inv.standing h).of_idle idle
    have valid := (inv.born h (by simp [idle])).1
    cases rest with
    | whole handle life =>
      rcases life with life | life <;> simp_all [State.view, Proxy.announcesEnd]
    | forsaken handle life => simp_all [State.view, Proxy.announcesEnd]
    | contextless handle => simp_all [State.view, ProxyHandle.invalid, ProxyHandle.isValid]

/-- **What every party has submitted in a run.** -/
theorem History.said {log : Submissions σ φ} (history : History H capacity capabilities log s)
    (h : ProxyHandle) : (s.parties h).Said h (log.of h) := by
  induction history with
  | start device nextLayer => rfl
  | step history taken submits ih =>
    rw [Submissions.of_append]
    exact ih.step (Invariant.of_reachable history.reachable) taken submits

theorem History.of_reachable (reachable : Reachable H capacity capabilities s) :
    ∃ log, History H capacity capabilities log s := by
  induction reachable with
  | start device nextLayer => exact ⟨[], .start device nextLayer⟩
  | step reachable taken ih =>
    obtain ⟨log, history⟩ := ih
    obtain ⟨sent, submits⟩ := taken.submissions (Invariant.of_reachable reachable)
    exact ⟨_, history.step taken submits⟩

def State.received (s : State B φ τ) : List (Ticket σ φ τ) :=
  s.journal.map (·.ticket) ++ s.pending

/-- What gets on the queue in a step is a party's message that is submitted with it, or no message.
-/
theorem Step.received {event : Event σ φ} (step : Step H capacity capabilities s event s')
    {ticket : Ticket σ φ τ} (mem : ticket ∈ s'.received) :
    ticket ∈ s.received ∨ (∀ h message, ticket.envelope ≠ .message h message) ∨
      ∃ h errand, (s.parties h).phase = .sending errand ∧
        (s'.parties h).phase ≠ .sending errand ∧
        ticket.envelope = .message (s.parties h).proxy.handle errand.message := by
  have pushed {envelope : Envelope σ φ τ} (mem : ticket ∈ (s.push envelope).received) :
      ticket ∈ s.received ∨ ticket = ⟨s.issued, envelope⟩ := by
    simpa [State.received, State.push, State.pending, or_assoc] using mem
  -- what was in hand goes to the journal
  have handled {loop : RenderLoop B φ} {d : B.Device} {next : Ticket σ φ τ}
      {engine : Engine B φ τ} {answer : Option Acknowledgement}
      (busy : s.engine = .busy loop d next) (free : engine.inHand = [])
      (mem : ticket ∈ (s.handled engine next answer).received) : ticket ∈ s.received := by
    simpa [State.received, State.handled, State.pending, busy, free, or_assoc] using mem
  have ended (mem : ticket ∈ s.ended.received) : ticket ∈ s.received := by
    have mem : ticket ∈ s.journal.map (·.ticket) := by
      simpa [State.received, State.ended, State.pending, Engine.inHand] using mem
    exact List.mem_append_left _ mem
  cases step with
  | @submits h errand phase =>
    rcases pushed mem with mem | rfl
    · exact .inl mem
    · refine .inr (.inr ⟨h, errand, phase, ?_, rfl⟩)
      simpa [State.setParty] using Party.submitted_sent _ _ errand
  | posts task =>
    rcases pushed mem with mem | rfl
    · exact .inl mem
    · exact .inr (.inl (by simp))
  | shutsDown =>
    rcases pushed mem with mem | rfl
    · exact .inl mem
    · exact .inr (.inl (by simp))
  | takes engine queue =>
    exact .inl (by simpa [State.received, State.pending, engine, queue, Engine.inHand] using mem)
  | serves busy => exact .inl (handled busy rfl mem)
  | answers busy => exact .inl (handled busy rfl mem)
  | stops busy => exact .inl (handled busy rfl mem)
  | dies => exact .inl (ended mem)
  | disconnects => exact .inl (ended mem)
  | releases h engine =>
    exact .inl (by simpa [State.received, State.pending, engine, Engine.inHand] using mem)
  | _ => exact .inl mem

/-- **What gets on the queue was submitted.** -/
theorem History.submitted {log : Submissions σ φ} (history : History H capacity capabilities log s)
    {ticket : Ticket σ φ τ} (mem : ticket ∈ s.received) {h : ProxyHandle} {message : Message σ φ}
    (carries : ticket.envelope = .message h message) : (h, message) ∈ log := by
  induction history with
  | start device nextLayer =>
    simp [State.received, State.start, State.pending, Engine.inHand] at mem
  | @step log sent s s' event history taken submits ih =>
    rcases taken.received mem with mem | none | ⟨k, errand, before, after, carries'⟩
    · exact List.mem_append_left _ (ih mem)
    · exact absurd carries (none h message)
    · obtain ⟨rfl, rfl⟩ := Envelope.message.inj (carries.symm.trans carries')
      refine List.mem_append_right _ ?_
      cases submits with
      | @one k' errand' before' after' others =>
        obtain rfl : k = k' := by
          by_contra other
          exact after (others k other ▸ before)
        obtain rfl := Phase.sending.inj (before.symm.trans before')
        simp
      | none still => exact absurd (still k errand before) after

end RenderRelay.Exchange

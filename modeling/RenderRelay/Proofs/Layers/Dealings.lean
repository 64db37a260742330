import RenderRelay.Proofs.Accord.Calls
import RenderRelay.Proofs.Exchange.Lifetime
import RenderRelay.Proofs.Layers.Keeping

/-!
What passes between a proxy and the render thread in a run of the exchange. While the thread runs,
the messages that it dealt with and those that it has still to deal with are, in this order, all
that the proxy submitted (`State.Told`); once a reply lies ready, nothing is left of them but the
dealings, and the last dealing is the message waited for with that reply (`State.Answered`).
-/

namespace RenderRelay

section Proxies

variable {σ φ : Type}

namespace Proxy

@[simp] theorem plan_capabilities (p : Proxy) (call : Call σ φ) :
    (p.plan call).1.capabilities = p.capabilities := by
  obtain same | ⟨size, -, planned⟩ := p.plan_proxy call
  · rw [same]
  · rw [planned]

@[simp] theorem conclude_capabilities (p : Proxy) (call : Call σ φ) (reply : Option Reply) :
    (p.conclude call reply).1.capabilities = p.capabilities := by
  unfold conclude countFrame
  split <;> (try split) <;> rfl

@[simp] theorem disable_capabilities (p : Proxy) (reason : String) :
    (p.disable reason).1.capabilities = p.capabilities := by
  unfold disable
  split <;> rfl

end Proxy

end Proxies

namespace Exchange

variable {σ φ τ : Type} {B : Backend σ} {H : Host B φ τ} {capacity : Nat}
  {capabilities : Capabilities} {s s' : State B φ τ} {event : Event σ φ} {h : ProxyHandle}

/-! ### Messages and dealings -/

namespace State

/-- What passed between a proxy and the render thread, oldest first. -/
def dealings (s : State B φ τ) (h : ProxyHandle) : List (Dealing σ φ) :=
  s.journal.filterMap fun e => e.ticket.envelope.dealing? h e.answer

/-- The messages of a proxy that got on the queue, oldest first. -/
def messages (s : State B φ τ) (h : ProxyHandle) : List (Message σ φ) :=
  (s.received.filterMap (messageOf? h)).map Prod.snd

theorem message_of_dealing (h : ProxyHandle) (ticket : Ticket σ φ τ)
    (ack : Option Acknowledgement) :
    (ticket.envelope.dealing? h ack).map Prod.fst = (messageOf? h ticket).map Prod.snd := by
  obtain ⟨number, envelope⟩ := ticket
  cases envelope with
  | message k message =>
    simp only [Envelope.dealing?, messageOf?]
    split <;> rfl
  | task => rfl
  | shutdown => rfl

theorem dealing_eq_none_iff (h : ProxyHandle) (ticket : Ticket σ φ τ)
    (ack : Option Acknowledgement) :
    ticket.envelope.dealing? h ack = none ↔ messageOf? h ticket = none := by
  rw [← Option.map_eq_none_iff, message_of_dealing, Option.map_eq_none_iff]

/-- What got on the queue was dealt with or is still to be. -/
theorem messages_eq (s : State B φ τ) (h : ProxyHandle) :
    s.messages h = (s.dealings h).map Prod.fst ++ (s.mail h).map Prod.snd := by
  have handled : ((s.journal.map (·.ticket)).filterMap (messageOf? h)).map Prod.snd =
      (s.dealings h).map Prod.fst := by
    rw [dealings, List.filterMap_map, List.map_filterMap, List.map_filterMap]
    exact congrArg (s.journal.filterMap ·)
      (funext fun e => (message_of_dealing h e.ticket e.answer).symm)
  rw [messages, received, List.filterMap_append, List.map_append, handled, mail]

theorem messages_push (envelope : Envelope σ φ τ) :
    (s.push envelope).messages h =
      s.messages h ++ ((messageOf? h ⟨s.issued, envelope⟩).map Prod.snd).toList := by
  have received : (s.push envelope).received = s.received ++ [⟨s.issued, envelope⟩] := by
    simp [State.received, push, pending]
  rw [messages, received, List.filterMap_append, List.map_append, ← messages]
  cases none : messageOf? h ⟨s.issued, envelope⟩ <;> simp [none]

theorem dealings_handled (engine : Engine B φ τ) (ticket : Ticket σ φ τ)
    (answer : Option Acknowledgement) :
    (s.handled engine ticket answer).dealings h =
      s.dealings h ++ (ticket.envelope.dealing? h answer).toList := by
  rw [dealings, handled, List.filterMap_append, ← dealings]
  cases none : ticket.envelope.dealing? h answer <;> simp [none]

end State

/-! ### What is submitted -/

theorem Step.running (step : Step H capacity capabilities s event s')
    (running : s'.engine.Running) : s.engine.Running := by
  cases step with
  | takes ready => simp [ready, Engine.Running]
  | serves busy => simp [busy, Engine.Running]
  | answers busy => simp [busy, Engine.Running]
  | stops => exact running.elim
  | dies => exact running.elim
  | releases => exact running.elim
  | disconnects => exact running.elim
  | _ => exact running

/-- While the thread runs, a message of a proxy gets on the queue in the step in which the proxy is
done with sending it. -/
theorem Step.sends (inv : Invariant H s) (step : Step H capacity capabilities s event s')
    (running : s'.engine.Running) (h : ProxyHandle) :
    (∃ errand, (s.parties h).phase = .sending errand ∧ (s'.parties h).phase ≠ .sending errand ∧
        s'.messages h = s.messages h ++ [errand.message]) ∨
      (∀ errand, (s.parties h).phase = .sending errand →
        (s'.parties h).phase = .sending errand) ∧ s'.messages h = s.messages h := by
  have still {k : ProxyHandle} {party : Party σ φ}
      (own : ∀ errand, (s.parties k).phase = .sending errand → party.phase = .sending errand) :=
    s.still_sending own h
  -- what is in hand goes to the journal
  have handled {loop loop' : RenderLoop B φ} {d d' : B.Device} {ticket : Ticket σ φ τ}
      (busy : s.engine = .busy loop d ticket) (answer : Option Acknowledgement) :
      (s.handled (.ready loop' d') ticket answer).messages h = s.messages h := by
    simp [State.messages, State.received, State.handled, State.pending, busy, Engine.inHand]
  cases step with
  | opens translucent => exact .inr ⟨still (by simp [inv.unborn_next]), rfl⟩
  | calls call idle => exact .inr ⟨still (by simp [idle]), rfl⟩
  | closes idle => exact .inr ⟨still (by simp [idle]), rfl⟩
  | @submits k errand phase =>
    have own := inv.handle_of_sending phase
    by_cases same : h = k
    · subst same
      refine .inl ⟨errand, phase, ?_, ?_⟩
      · simpa [State.setParty] using Party.submitted_sent _ _ errand
      · change (s.push _).messages h = _
        simp [State.messages_push, State.messageOf?, own]
    · refine .inr ⟨fun errand phase => by simpa [State.setParty, State.push, same] using phase, ?_⟩
      change (s.push _).messages h = _
      simp [State.messages_push, State.messageOf?, own, Ne.symm same]
  | fails phase ended =>
    simp [State.setParty, ended, Engine.Running] at running
  | receives phase => exact .inr ⟨still (by simp [phase]), rfl⟩
  | abandons phase => exact .inr ⟨still (by simp [phase]), rfl⟩
  | posts task =>
    exact .inr ⟨fun _ phase => phase, by simp [State.messages_push, State.messageOf?]⟩
  | shutsDown =>
    exact .inr ⟨fun _ phase => phase, by simp [State.messages_push, State.messageOf?]⟩
  | takes ready queue =>
    refine .inr ⟨fun _ phase => phase, ?_⟩
    simp [State.messages, State.received, State.pending, ready, queue, Engine.inHand]
  | serves busy => exact .inr ⟨fun _ phase => phase, handled busy none⟩
  | @answers _ _ _ _ _ ack busy =>
    obtain ⟨slot, offered⟩ := (s.parties ack.handle).offer_eq ack.reply
    exact .inr ⟨still (by simp [offered]), handled busy (some ack)⟩
  | stops => exact running.elim
  | dies => exact running.elim
  | releases => exact running.elim
  | disconnects => exact running.elim

/-- While the thread runs, all that a proxy submitted got on the queue, in that order. -/
def State.Told (s : State B φ τ) (log : Submissions σ φ) (h : ProxyHandle) : Prop :=
  s.engine.Running → log.of h = s.messages h

theorem State.Told.step {log sent : Submissions σ φ} (told : s.Told log h) (inv : Invariant H s)
    (step : Step H capacity capabilities s event s') (submits : Submits s s' sent) :
    s'.Told (log ++ sent) h := by
  intro running
  rw [Submissions.of_append, told (step.running running)]
  rcases submits.of inv h, step.sends inv running h with
    ⟨⟨errand, before, after, one⟩ | ⟨still, none⟩,
      ⟨errand', before', after', more⟩ | ⟨still', same⟩⟩
  · obtain rfl := Phase.sending.inj (before.symm.trans before')
    rw [one, more]
  · exact absurd (still' errand before) after
  · exact absurd (still errand' before') after'
  · rw [none, same, List.append_nil]

/-- Where a reply lies ready, all that the proxy submitted was dealt with, and last the message that
it waits for. -/
def State.Answered (s : State B φ τ) (log : Submissions σ φ) (h : ProxyHandle) : Prop :=
  ∀ number errand reply, (s.parties h).phase = .waiting number errand →
    (s.parties h).slot = some reply →
    log.of h = (s.dealings h).map Prod.fst ∧
      ∃ before, s.dealings h = before ++ [(errand.message, some reply)]

theorem State.Answered.step {log sent : Submissions σ φ} (answered : s.Answered log h)
    (inv : Invariant H s) (step : Step H capacity capabilities s event s')
    (submits : Submits s s' sent) (told : s'.Told (log ++ sent) h) :
    s'.Answered (log ++ sent) h := by
  intro number errand reply phase slot
  -- who waits submits nothing, and nothing of it is left to be dealt with
  have keep (party : s'.parties h = s.parties h)
      (same : s.mail h = [] → s'.dealings h = s.dealings h) :
      (log ++ sent).of h = (s'.dealings h).map Prod.fst ∧
        ∃ before, s'.dealings h = before ++ [(errand.message, some reply)] := by
    rw [party] at phase slot
    have none : sent.of h = [] := by
      rcases submits.of inv h with ⟨errand', before, -⟩ | ⟨-, none⟩
      · simp [phase] at before
      · exact none
    rw [same (inv.answered phase slot).2.2, Submissions.of_append, none, List.append_nil]
    exact answered number errand reply phase slot
  have other {k : ProxyHandle} {party : Party σ φ} (other : h ≠ k) :
      Function.update s.parties k party h = s.parties h := by simp [other]
  have quiet {loop : RenderLoop B φ} {d : B.Device} {ticket : Ticket σ φ τ}
      (engine : Engine B φ τ) (answer : Option Acknowledgement)
      (busy : s.engine = .busy loop d ticket) (mail : s.mail h = []) :
      (s.handled engine ticket answer).dealings h = s.dealings h := by
    rw [State.mail_of_busy busy] at mail
    have foreign : State.messageOf? h ticket = none := by
      simpa using (List.append_eq_nil_iff.1 mail).1
    rw [State.dealings_handled, (State.dealing_eq_none_iff h ticket answer).2 foreign]
    exact List.append_nil _
  cases step with
  | opens translucent =>
    refine keep (other ?_) fun _ => rfl
    rintro rfl
    simp at phase
  | @calls k call idle =>
    refine keep (other ?_) fun _ => rfl
    rintro rfl
    simp only [State.setParty, Party.begin, Function.update_self] at phase
    split at phase <;> simp [idle] at phase
  | @closes k idle =>
    refine keep (other ?_) fun _ => rfl
    rintro rfl
    simp only [State.setParty, Party.close, Function.update_self] at phase
    split at phase <;> simp at phase
  | @submits k errand' sending =>
    refine keep (other ?_) fun _ => rfl
    rintro rfl
    have empty : (s.parties h).slot = none := by
      cases inv.standing h with
      | sending _ vacant => exact vacant.slot
      | _ => simp_all [State.view]
    simp [State.setParty, Party.submitted, empty] at slot
  | @fails k errand' sending =>
    refine keep (other ?_) fun _ => rfl
    rintro rfl
    cases errand' <;> simp [State.setParty, Party.undelivered] at phase
  | receives =>
    refine keep (other ?_) fun _ => rfl
    rintro rfl
    simp [State.setParty, Party.receive] at phase
  | abandons =>
    refine keep (other ?_) fun _ => rfl
    rintro rfl
    simp [State.setParty, Party.abandon] at phase
  | serves busy => exact keep rfl (quiet _ _ busy)
  | @answers loop loop' d d' ticket ack busy served =>
    by_cases mine : h = ack.handle
    · subst mine
      obtain ⟨⟨errand', waits⟩, -⟩ := inv.awaiting busy served
      have offered := waits.offer (inv.born _ (by simp [waits.phase])).1
      simp only [State.setParty, offered, Function.update_self, waits.phase] at phase slot
      obtain ⟨rfl, rfl⟩ := Phase.waiting.inj phase
      obtain rfl := Option.some.inj slot
      have dealings :
          (s.handled (.ready loop' d') ticket (some ack)).dealings ack.handle =
            s.dealings ack.handle ++ [(errand'.message, some ack.reply)] := by
        simp [State.dealings_handled, waits.envelope, Envelope.dealing?]
      have mail : (s.handled (.ready loop' d') ticket (some ack)).mail ack.handle = [] :=
        (State.mail_handled rfl (some ack)).trans waits.alone
      refine ⟨(told trivial).trans ?_, _, dealings⟩
      change (s.handled (.ready loop' d') ticket (some ack)).messages ack.handle = _
      rw [State.messages_eq, mail]
      exact List.append_nil _
    · exact keep (other mine) (quiet (.ready loop' d') (some ack) busy)
  | stops busy => exact keep rfl (quiet _ _ busy)
  | _ => exact keep rfl fun _ => rfl

/-! ### Features -/

/-- Every proxy that was made knows the features of its thread. -/
def State.Equipped (s : State B φ τ) (capabilities : Capabilities) : Prop :=
  ∀ h, (s.parties h).phase ≠ .unborn → (s.parties h).proxy.capabilities = capabilities

@[simp] theorem Errand.conclude_capabilities (errand : Errand σ φ) (p : Proxy)
    (reply : Option Reply) : (errand.conclude p reply).capabilities = p.capabilities := by
  cases errand with
  | opening translucent =>
    simp only [conclude]
    cases ended : p.opened reply with
    | ok p' => exact congrArg Proxy.capabilities (Proxy.opened_ok ended).1
    | error e => rfl
  | request call command => exact p.conclude_capabilities call reply
  | notice command => rfl
  | closing => rfl

theorem Party.begin_capabilities (party : Party σ φ) (call : Call σ φ) :
    (party.begin call).proxy.capabilities = party.proxy.capabilities := by
  have same := party.proxy.plan_capabilities call
  unfold begin
  split <;> simp_all

theorem Party.undelivered_capabilities (party : Party σ φ) (errand : Errand σ φ) :
    (party.undelivered errand).proxy.capabilities = party.proxy.capabilities := by
  cases errand <;> simp [undelivered, Proxy.delivered]

theorem State.Equipped.step (equipped : s.Equipped capabilities)
    (step : Step H capacity capabilities s event s') : s'.Equipped capabilities := by
  have one {k : ProxyHandle} {party : Party σ φ}
      (own : party.phase ≠ .unborn → party.proxy.capabilities = capabilities) :
      (s.setParty k party).Equipped capabilities :=
    (Function.forall_update_iff s.parties fun _ party =>
      party.phase ≠ .unborn → party.proxy.capabilities = capabilities).2
      ⟨own, fun h _ => equipped h⟩
  cases step with
  | opens translucent => exact one fun _ => rfl
  | @calls k call idle =>
    exact one fun _ => ((s.parties k).begin_capabilities call).trans (equipped k (by simp [idle]))
  | @closes k idle => exact one fun _ => equipped k (by simp [idle])
  | @submits k errand phase => exact one fun _ => equipped k (by simp [phase])
  | @fails k errand phase =>
    refine one fun _ => ((s.parties k).undelivered_capabilities errand).trans ?_
    exact equipped k (by simp [phase])
  | @receives k number errand reply phase =>
    exact one fun _ => (errand.conclude_capabilities _ _).trans (equipped k (by simp [phase]))
  | @abandons k number errand phase =>
    refine one fun _ => (errand.conclude_capabilities _ _).trans ?_
    exact (Proxy.disable_capabilities _ _).trans (equipped k (by simp [phase]))
  | @answers _ _ _ _ _ ack =>
    obtain ⟨slot, offered⟩ := (s.parties ack.handle).offer_eq ack.reply
    rw [offered]
    exact one (equipped ack.handle)
  | _ => exact equipped

end Exchange

end RenderRelay

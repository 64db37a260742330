import Mathlib.Data.List.Nodup
import RenderRelay.Backend.Headless
import RenderRelay.Proofs.Exchange.Invariant

/-!
The protocol of calls and replies, over every reachable state of the system. `Invariant` holds at
the start and each step keeps it; `reply_protocol` reads off it what proxies and render thread may
rely on.
-/

namespace RenderRelay.Exchange

variable {σ φ τ : Type} {B : Backend σ} {H : Host B φ τ} {capacity : Nat}
  {capabilities : Capabilities}

/-! ### Mail -/

@[simp] theorem Engine.inHand_busy (loop : RenderLoop B φ) (d : B.Device) (ticket : Ticket σ φ τ) :
    (busy loop d ticket).inHand = [ticket] := rfl

namespace State

variable {s : State B φ τ} {h k : ProxyHandle}

/-- The numbers of what was handled and of what was not, in that order. -/
def numbers (s : State B φ τ) : List Nat :=
  s.journal.map (·.ticket.number) ++ s.pending.map (·.number)

theorem view_setParty_self (party : Party σ φ) :
    (s.setParty h party).view h = { s.view h with party } := by
  simp [view, setParty, mail, pending]

theorem view_setParty_of_ne (party : Party σ φ) (hk : k ≠ h) :
    (s.setParty h party).view k = s.view k := by
  simp [view, setParty, mail, pending, hk]

theorem mail_push (envelope : Envelope σ φ τ) :
    (s.push envelope).mail k = s.mail k ++ (messageOf? k ⟨s.issued, envelope⟩).toList := by
  simp only [mail, pending, push, ← List.append_assoc, List.filterMap_append]
  cases h : messageOf? k ⟨s.issued, envelope⟩ <;> simp [h]

theorem numbers_push (envelope : Envelope σ φ τ) :
    (s.push envelope).numbers = s.numbers ++ [s.issued] := by
  simp [numbers, pending, push]

section Handled

variable {loop : RenderLoop B φ} {d : B.Device} {ticket : Ticket σ φ τ} {engine : Engine B φ τ}

theorem numbers_handled (busy : s.engine = .busy loop d ticket) (free : engine.inHand = [])
    (answer : Option Acknowledgement) : (s.handled engine ticket answer).numbers = s.numbers := by
  simp [numbers, pending, handled, busy, free]

/-- The messages of a proxy that are still on the queue. -/
def queued (s : State B φ τ) (h : ProxyHandle) : List (Nat × Message σ φ) :=
  s.queue.filterMap (messageOf? h)

theorem mail_of_busy (busy : s.engine = .busy loop d ticket) :
    s.mail k = (messageOf? k ticket).toList ++ s.queued k := by
  simp only [mail, queued, pending, busy, Engine.inHand_busy, List.filterMap_append]
  cases h : messageOf? k ticket <;> simp [h]

theorem mail_handled (free : engine.inHand = []) (answer : Option Acknowledgement) :
    (s.handled engine ticket answer).mail k = s.queued k := by
  simp [mail, queued, pending, handled, free]

end Handled

end State

/-! ### The invariant -/

/-- The reply of a journal entry is what the render thread made of its envelope. -/
def Entry.Genuine (H : Host B φ τ) (entry : Entry σ φ τ) : Prop :=
  ∀ ack, entry.answer = some ack → ∃ (loop loop' : RenderLoop B φ) (d d' : B.Device),
    (loop.serve H entry.ticket.envelope).runOn d = (.ok (.next loop' (some ack)), d')

/-- What holds in every state of the system. -/
structure Invariant (H : Host B φ τ) (s : State B φ τ) : Prop where
  born : ∀ h, (s.parties h).phase ≠ .unborn → h.isValid ∧ h.number ≤ s.handles
  standing : ∀ h, Standing h (s.view h)
  ordered : s.numbers.Pairwise (· < ·)
  issued : ∀ n ∈ s.numbers, n < s.issued
  ended : s.engine = .ended → s.queue = []
  genuine : ∀ entry ∈ s.journal, entry.Genuine H

namespace Invariant

variable {s s' : State B φ τ}

theorem start (device : B.Device) (nextLayer : LayerHandle) :
    Invariant H (.start device nextLayer : State B φ τ) where
  born h unborn := absurd rfl unborn
  standing h := .unborn rfl rfl (by simp [State.view, State.start, Engine.Knows, RenderLoop.Knows,
    RenderLoop.start])
  ordered := .nil
  issued := by simp [State.numbers, State.start, State.pending, Engine.inHand]
  ended _ := rfl
  genuine := by simp [State.start]

theorem setParty (inv : Invariant H s) {h : ProxyHandle} {party : Party σ φ}
    (phase : (s.parties h).phase ≠ .unborn) (standing : Standing h { s.view h with party }) :
    Invariant H (s.setParty h party) where
  born k unborn := by
    by_cases hk : k = h
    · subst hk
      exact inv.born k phase
    · exact inv.born k (by simpa [State.setParty, hk] using unborn)
  standing k := by
    by_cases hk : k = h
    · subst hk
      rwa [State.view_setParty_self]
    · rw [State.view_setParty_of_ne party hk]
      exact inv.standing k
  ordered := inv.ordered
  issued := inv.issued
  ended := inv.ended
  genuine := inv.genuine

theorem opens (inv : Invariant H s) (translucent : Bool) :
    Invariant H { s with
      handles := s.handles + 1
      parties := Function.update s.parties ⟨s.handles + 1⟩
        ⟨.ofHandle ⟨s.handles + 1⟩ capabilities translucent,
          .sending (.opening translucent), none⟩ } where
  born k unborn := by
    by_cases hk : k = ⟨s.handles + 1⟩
    · subst hk
      simp [ProxyHandle.isValid]
    · have old := inv.born k (by simpa [hk] using unborn)
      exact ⟨old.1, Nat.le_succ_of_le old.2⟩
  standing k := by
    by_cases hk : k = ⟨s.handles + 1⟩
    · subst hk
      have fresh : (s.parties ⟨s.handles + 1⟩).phase = .unborn := by
        by_contra born
        exact absurd (inv.born _ born).2 (by simp)
      cases inv.standing ⟨s.handles + 1⟩ with
      | unborn _ mail unknown =>
        have ready : (Errand.opening translucent).Ready (s.view ⟨s.handles + 1⟩)
            (s.mail ⟨s.handles + 1⟩) := ⟨mail, unknown⟩
        have fits : (Errand.opening translucent : Errand σ φ).Fits := trivial
        refine .sending ?_ ⟨?_, ?_⟩ (fun _ => ?_) fits ready
        all_goals simp [State.view, Proxy.ofHandle]
      | _ => simp_all [State.view]
    · refine (inv.standing k).frame (by simp [State.view, hk]) rfl id (fun _ => id) id ?_
      exact List.Subset.refl _
  ordered := inv.ordered
  issued := inv.issued
  ended := inv.ended
  genuine := inv.genuine

theorem push_ordered (inv : Invariant H s) (envelope : Envelope σ φ τ) :
    (s.push envelope).numbers.Pairwise (· < ·) ∧
      ∀ n ∈ (s.push envelope).numbers, n < (s.push envelope).issued := by
  rw [State.numbers_push]
  constructor
  · simpa [List.pairwise_append, inv.ordered] using inv.issued
  · intro n hn
    rcases List.mem_append.1 hn with hn | hn
    · exact Nat.lt_succ_of_lt (inv.issued n hn)
    · obtain rfl := List.mem_singleton.1 hn
      exact Nat.lt_succ_self _

theorem push (inv : Invariant H s) {envelope : Envelope σ φ τ}
    (foreign : ∀ k, State.messageOf? k ⟨s.issued, envelope⟩ = none) (there : s.engine ≠ .ended) :
    Invariant H (s.push envelope) where
  born := inv.born
  standing k := by
    refine (inv.standing k).frame rfl ?_ id (fun _ => id) id (List.Subset.refl _)
    simp [State.view, State.mail_push, foreign]
  ordered := (inv.push_ordered envelope).1
  issued := (inv.push_ordered envelope).2
  ended e := absurd e there
  genuine := inv.genuine

theorem submits (inv : Invariant H s) {h : ProxyHandle} {errand : Errand σ φ}
    (phase : (s.parties h).phase = .sending errand) (there : s.engine ≠ .ended) :
    Invariant H ((s.push (.message (s.parties h).proxy.handle errand.message)).setParty h
      ((s.parties h).submitted s.issued errand)) := by
  have handle : (s.parties h).proxy.handle = h := by
    cases inv.standing h with
    | sending _ vacant => exact vacant.handle
    | _ => simp_all [State.view]
  rw [handle]
  refine ⟨fun k unborn => ?_, fun k => ?_, (inv.push_ordered _).1, (inv.push_ordered _).2,
    fun e => absurd e there, inv.genuine⟩
  · by_cases hk : k = h
    · subst hk
      exact inv.born k (by simp [phase])
    · exact inv.born k (by simpa [State.setParty, State.push, hk] using unborn)
  · by_cases hk : k = h
    · subst hk
      rw [State.view_setParty_self]
      have mail : (s.push (.message k errand.message)).mail k =
          s.mail k ++ [(s.issued, errand.message)] := by
        simp [State.mail_push, State.messageOf?]
      change Standing k ⟨_, (s.push _).mail k, s.engine.Running, s.engine.Knows k, s.journal⟩
      rw [mail]
      exact (inv.standing k).submitted phase s.issued
    · rw [State.view_setParty_of_ne _ hk]
      refine (inv.standing k).frame rfl ?_ id (fun _ => id) id (List.Subset.refl _)
      simp [State.view, State.mail_push, State.messageOf?, Ne.symm hk]

theorem takes (inv : Invariant H s) {loop : RenderLoop B φ} {d : B.Device}
    {ticket : Ticket σ φ τ} {rest : List (Ticket σ φ τ)} (ready : s.engine = .ready loop d)
    (queue : s.queue = ticket :: rest) :
    Invariant H { s with engine := .busy loop d ticket, queue := rest } := by
  have pending : ({ s with engine := .busy loop d ticket, queue := rest } : State B φ τ).pending =
      s.pending := by
    simp [State.pending, ready, queue, Engine.inHand]
  refine ⟨inv.born, fun k => ?_, ?_, ?_, by simp, inv.genuine⟩
  · refine (inv.standing k).frame rfl ?_ ?_ ?_ ?_ (List.Subset.refl _)
    · simp only [State.view, State.mail, pending]
    all_goals simp [State.view, ready, Engine.Running, Engine.Knows]
  · simpa only [State.numbers, pending] using inv.ordered
  · simpa only [State.numbers, pending] using inv.issued

theorem ended_step (inv : Invariant H s) : Invariant H s.ended := by
  have numbers : s.numbers = s.ended.numbers ++ s.pending.map (·.number) := by
    simp [State.numbers, State.ended, State.pending, Engine.inHand]
  refine ⟨inv.born, fun k => ?_, ?_, fun n hn => ?_, fun _ => rfl, inv.genuine⟩
  · exact (inv.standing k).ended rfl rfl id id (List.Subset.refl _)
  · have ordered := inv.ordered
    rw [numbers] at ordered
    exact (List.pairwise_append.1 ordered).1
  · exact inv.issued n (numbers ▸ List.mem_append_left _ hn)

theorem releases (inv : Invariant H s) {left : Table ProxyHandle (Context B φ)}
    (closing : s.engine = .closing left) (h : ProxyHandle) :
    Invariant H { s with engine := .closing (left.erase h) } := by
  have pending : ({ s with engine := .closing (left.erase h) } : State B φ τ).pending =
      s.pending := by
    simp [State.pending, closing, Engine.inHand]
  refine ⟨inv.born, fun k => ?_, ?_, ?_, by simp, inv.genuine⟩
  · refine (inv.standing k).frame rfl ?_ ?_ ?_ ?_ (List.Subset.refl _)
    · simp only [State.view, State.mail, pending]
    · simp [State.view, Engine.Running]
    · simp [State.view, Engine.Running]
    · simp only [State.view, closing, Engine.Knows, Table.get?_erase]
      split <;> simp
  · simpa only [State.numbers, pending] using inv.ordered
  · simpa only [State.numbers, pending] using inv.issued

/-! ### Handling an envelope -/

section Handled

variable {loop : RenderLoop B φ} {d : B.Device} {ticket : Ticket σ φ τ} {engine : Engine B φ τ}

/-- An envelope that is handled moves from the thread's hand to the journal. -/
theorem handled (inv : Invariant H s) (busy : s.engine = .busy loop d ticket)
    (free : engine.inHand = []) (there : engine ≠ .ended) {answer : Option Acknowledgement}
    (genuine : Entry.Genuine H ⟨ticket, answer⟩) (parties : ProxyHandle → Party σ φ)
    (born : ∀ h, (parties h).phase ≠ .unborn → (s.parties h).phase ≠ .unborn)
    (standing : ∀ h, Standing h { (s.handled engine ticket answer).view h with
      party := parties h }) :
    Invariant H { s.handled engine ticket answer with parties } where
  born h unborn := inv.born h (born h unborn)
  standing := standing
  ordered := (State.numbers_handled busy free answer).symm ▸ inv.ordered
  issued := (State.numbers_handled busy free answer).symm ▸ inv.issued
  ended e := absurd e there
  genuine entry mem := by
    rcases List.mem_append.1 mem with mem | mem
    · exact inv.genuine entry mem
    · exact List.mem_singleton.1 mem ▸ genuine

/-- Whoever did not send the envelope stands as before, if the thread keeps its context. -/
theorem handled_frame (inv : Invariant H s) (busy : s.engine = .busy loop d ticket)
    (free : engine.inHand = []) (answer : Option Acknowledgement) {k : ProxyHandle}
    (other : State.messageOf? k ticket = none)
    (kept : engine.Running → loop.Knows k → engine.Knows k)
    (known : engine.Knows k → loop.Knows k) :
    Standing k ((s.handled engine ticket answer).view k) := by
  have knows : s.engine.Knows k ↔ loop.Knows k := by
    rw [busy]
    rfl
  refine (inv.standing k).frame rfl ?_ ?_ (fun r => kept r ∘ knows.1) (knows.2 ∘ known)
    (List.subset_append_left _ _)
  · simp [State.view, State.mail_of_busy busy, State.mail_handled free, other]
  · simp [State.view, busy, Engine.Running]

/-- What the thread finds in the message that it has in hand. -/
theorem first (inv : Invariant H s) {number : Nat} {h : ProxyHandle} {message : Message σ φ}
    (busy : s.engine = .busy loop d ⟨number, .message h message⟩) :
    First h (s.view h) number (s.queued h) message := by
  refine (inv.standing h).first ?_ ?_
  · simp [State.view, busy, Engine.Running]
  · simp [State.view, State.mail_of_busy busy, State.messageOf?]

/-- The one for whom a reply is given waits for just that, and with the message nothing of it is
left on the queue. -/
structure Awaiting (s : State B φ τ) (ticket : Ticket σ φ τ) (loop' : RenderLoop B φ)
    (ack : Acknowledgement) (errand : Errand σ φ) : Prop where
  envelope : ticket.envelope = .message ack.handle errand.message
  phase : (s.parties ack.handle).phase = .waiting ticket.number errand
  vacant : Vacant ack.handle (s.parties ack.handle)
  life : (s.parties ack.handle).proxy.lifecycle = .live
  kind : errand.replyKind = some ack.reply.kind
  alone : s.queued ack.handle = []
  refused : Refusal ack.reply → ¬loop'.Knows ack.handle
  known : ¬Refusal ack.reply → loop'.Knows ack.handle

theorem Awaiting.offer {loop' : RenderLoop B φ} {ack : Acknowledgement} {errand : Errand σ φ}
    (waits : Awaiting s ticket loop' ack errand)
    (valid : ack.handle.isValid) :
    (s.parties ack.handle).offer ack.reply =
      ({ s.parties ack.handle with slot := some ack.reply }, .queued) := by
  simp [Party.offer, Party.listens, waits.phase, waits.vacant.handle, waits.vacant.slot, valid]

/-- **Only those who wait are answered, and as they expect.** -/
theorem awaiting (inv : Invariant H s) {loop' : RenderLoop B φ} {d' : B.Device}
    {ack : Acknowledgement} (busy : s.engine = .busy loop d ticket)
    (served : (loop.serve H ticket.envelope).runOn d = (.ok (.next loop' (some ack)), d')) :
    (∃ errand, Awaiting s ticket loop' ack errand) ∧
    ∀ k, k ≠ ack.handle → (loop'.Knows k ↔ loop.Knows k) := by
  obtain ⟨number, envelope⟩ := ticket
  have effect := RenderLoop.serve_effect H loop envelope d _ _ served
  generalize next : RenderLoop.Served.next loop' (some ack) = result at effect
  cases effect with
  | @made h translucent loop₁ knows =>
    obtain ⟨rfl, rfl⟩ : loop' = loop₁ ∧ ack = ⟨h, .created (.ok ())⟩ := by simpa using next
    cases inv.first busy with
    | notice run => simp at run
    | @awaited errand sent phase vacant life fits awaits alone ready =>
      refine ⟨⟨errand, congrArg _ sent, phase, vacant, life, ?_, alone, ?_, ?_⟩, fun k hk => ?_⟩
      · rw [← fits.replyKind, ← sent]
        rfl
      · rintro ⟨e, error⟩
        simp at error
      · exact fun _ => (knows h).2 (.inl rfl)
      · simp [knows k, hk]
    | farewell dispose => simp at dispose
  | @refused h translucent e =>
    obtain ⟨rfl, rfl⟩ : loop' = loop ∧ ack = ⟨h, .created (.error e)⟩ := by simpa using next
    cases inv.first busy with
    | notice run => simp at run
    | @awaited errand sent phase vacant life fits awaits alone ready =>
      refine ⟨⟨errand, congrArg _ sent, phase, vacant, life, ?_, alone, fun _ => ?_, ?_⟩,
        fun k _ => Iff.rfl⟩
      · rw [← fits.replyKind, ← sent]
        rfl
      · cases errand with
        | opening translucent => simpa [State.view, busy, Engine.Knows] using ready.2
        | _ => simp [Errand.message] at sent
      · exact fun whole => absurd ⟨e, rfl⟩ whole
    | farewell dispose => simp at dispose
  | @obeyed h command reply loop₁ known kind knows =>
    obtain ⟨rfl, reply', rfl, rfl⟩ : loop' = loop₁ ∧ ∃ r, reply = some r ∧ ack = ⟨h, r⟩ := by
      cases reply <;> simp_all
    simp only [Option.map_some] at kind
    cases inv.first busy with
    | notice run none => simp_all
    | @awaited errand sent phase vacant life fits awaits alone ready =>
      have kind' : errand.replyKind = some reply'.kind := by
        rw [← fits.replyKind, ← sent]
        exact kind.symm
      refine ⟨⟨errand, congrArg _ sent, phase, vacant, life, kind', alone, ?_, ?_⟩,
        fun k _ => knows k⟩
      · rintro ⟨e, rfl⟩
        cases command <;> simp [Command.replyKind, Reply.kind] at kind
      · exact fun _ => (knows h).2 known
    | farewell dispose => simp at dispose
  | dropped unknown => simp at next
  | disposed knows => simp at next
  | performed => simp at next
  | stopped => simp at next

theorem answers (inv : Invariant H s) {loop' : RenderLoop B φ} {d' : B.Device}
    {ack : Acknowledgement} (busy : s.engine = .busy loop d ticket)
    (served : (loop.serve H ticket.envelope).runOn d = (.ok (.next loop' (some ack)), d')) :
    Invariant H ((s.handled (.ready loop' d') ticket (some ack)).setParty ack.handle
      ((s.parties ack.handle).offer ack.reply).1) := by
  obtain ⟨⟨errand, waits⟩, others⟩ := inv.awaiting busy served
  have offered := waits.offer (inv.born _ (by simp [waits.phase])).1
  refine inv.handled busy rfl (by simp) ?_ _ (fun k unborn => ?_) fun k => ?_
  · intro ack' same
    obtain rfl : ack = ack' := Option.some.inj same
    exact ⟨loop, loop', d, d', served⟩
  · by_cases hk : k = ack.handle
    · simp [hk, waits.phase]
    · simpa [State.handled, hk] using unborn
  · by_cases hk : k = ack.handle
    · subst hk
      have mail : (s.handled (.ready loop' d') ticket (some ack)).mail ack.handle =
          s.queued ack.handle := State.mail_handled rfl (some ack)
      have phase : ((s.parties ack.handle).offer ack.reply).1.phase =
          .waiting ticket.number errand := by simp [offered, waits.phase]
      refine .answered (by simpa using phase) ?_ ?_ ?_ waits.kind (mail.trans waits.alone) ?_
        waits.refused (fun whole _ => waits.known whole)
      · simp [State.handled, offered, waits.vacant.handle]
      · simp [offered]
      · simp [State.handled, offered, waits.life]
      · simp [State.view, State.handled, ← waits.envelope]
    · have other : State.messageOf? k ticket = none := by
        simp [State.messageOf?, waits.envelope, Ne.symm hk]
      have frame : Standing k ((s.handled (.ready loop' d') ticket (some ack)).view k) :=
        inv.handled_frame busy rfl (some ack) other (fun _ => (others k hk).2) (others k hk).1
      simpa [State.view, State.handled, hk] using frame

/-- **What is handled without a reply is missed by nobody.** -/
theorem serves (inv : Invariant H s) {loop' : RenderLoop B φ} {d' : B.Device}
    (busy : s.engine = .busy loop d ticket)
    (served : (loop.serve H ticket.envelope).runOn d = (.ok (.next loop' none), d')) :
    Invariant H (s.handled (.ready loop' d') ticket none) := by
  refine inv.handled busy rfl (by simp) (by simp [Entry.Genuine]) s.parties (fun _ => id) ?_
  intro k
  change Standing k ((s.handled (.ready loop' d') ticket none).view k)
  obtain ⟨number, envelope⟩ := ticket
  have effect := RenderLoop.serve_effect H loop envelope d _ _ served
  generalize next : RenderLoop.Served.next loop' none = result at effect
  have frame (other : State.messageOf? k ⟨number, envelope⟩ = none)
      (kept : loop.Knows k → loop'.Knows k) (known : loop'.Knows k → loop.Knows k) :
      Standing k ((s.handled (.ready loop' d') ⟨number, envelope⟩ none).view k) :=
    inv.handled_frame busy rfl none other (fun _ => kept) known
  cases effect with
  | made knows => simp at next
  | refused => simp at next
  | @obeyed h command reply loop₁ known kind knows =>
    obtain ⟨rfl, rfl⟩ : loop' = loop₁ ∧ reply = none := by
      cases reply <;> simp_all
    by_cases hk : k = h
    · subst hk
      have standing := (inv.first busy).standing kind.symm
      refine standing.frame rfl rfl ?_ (fun _ _ => (knows k).2 known) ?_
        (List.subset_append_left _ _)
      · simp [State.view, busy, Engine.Running]
      · intro _
        simpa [State.view, busy, Engine.Knows] using known
    · exact frame (by simp [State.messageOf?, Ne.symm hk]) (knows k).2 (knows k).1
  | @dropped h command unknown =>
    obtain rfl : loop' = loop := by simpa using next
    by_cases hk : k = h
    · subst hk
      have running : s.engine.Running := by simp [busy, Engine.Running]
      have known : s.engine.Knows k := (inv.first busy).known running
      exact absurd (by simpa [busy, Engine.Knows] using known) unknown
    · exact frame (by simp [State.messageOf?, Ne.symm hk]) id id
  | @disposed h loop₁ knows =>
    obtain rfl : loop' = loop₁ := by simpa using next
    by_cases hk : k = h
    · subst hk
      obtain ⟨phase, alone⟩ := (inv.first busy).gone
      refine .gone phase fun _ => .inr ⟨alone, ?_⟩
      intro known
      exact ((knows k).1 known).1 rfl
    · exact frame (by simp [State.messageOf?, Ne.symm hk]) (fun known => (knows k).2 ⟨hk, known⟩)
        (fun known => ((knows k).1 known).2)
  | performed =>
    obtain rfl : loop' = loop := by simpa using next
    exact frame rfl id id
  | stopped => simp at next

theorem stops (inv : Invariant H s) {d' : B.Device} (busy : s.engine = .busy loop d ticket)
    (served : (loop.serve H ticket.envelope).runOn d = (.ok .stopped, d')) :
    Invariant H (s.handled (.closing loop.contexts) ticket none) := by
  refine inv.handled busy rfl (by simp) (by simp [Entry.Genuine]) s.parties (fun _ => id) ?_
  intro k
  change Standing k ((s.handled (.closing loop.contexts) ticket none).view k)
  obtain ⟨number, envelope⟩ := ticket
  have effect := RenderLoop.serve_effect H loop envelope d _ _ served
  cases effect with
  | stopped => exact inv.handled_frame busy rfl none rfl (fun _ => id) id

end Handled

/-- **Every step keeps the invariant.** -/
theorem step {event : Event σ φ} (inv : Invariant H s)
    (step : Step H capacity capabilities s event s') : Invariant H s' := by
  cases step with
  | opens translucent => exact inv.opens translucent
  | @calls h call idle =>
    exact inv.setParty (by simp [idle]) ((inv.standing h).begin idle call)
  | @closes h idle =>
    have born : (s.parties h).phase ≠ .unborn := by simp [idle]
    exact inv.setParty born ((inv.standing h).close idle (inv.born h born).1)
  | submits phase room there => exact inv.submits phase there
  | @fails h errand phase ended =>
    refine inv.setParty (by simp [phase]) ((inv.standing h).undelivered phase ?_ ?_ ?_)
    · simp [State.view, State.mail, State.pending, inv.ended ended, ended, Engine.inHand]
    · simp [State.view, ended, Engine.Running]
    · simp [State.view, ended, Engine.Knows]
  | @receives h number errand reply phase slot =>
    exact inv.setParty (by simp [phase]) ((inv.standing h).receive phase slot)
  | @abandons h number errand phase slot dead =>
    have dead := not_or.1 dead
    exact inv.setParty (by simp [phase]) ((inv.standing h).abandon phase slot dead.1
      (fun n t mem => dead.2 ⟨n, t, mem⟩)).2.2
  | posts task room there => exact inv.push (fun _ => rfl) there
  | shutsDown room there => exact inv.push (fun _ => rfl) there
  | takes ready queue => exact inv.takes ready queue
  | serves busy served => exact inv.serves busy served
  | answers busy served => exact inv.answers busy served
  | stops busy served => exact inv.stops busy served
  | dies busy served => exact inv.ended_step
  | releases h closing => exact inv.releases closing h
  | disconnects closing empty => exact inv.ended_step

theorem of_reachable (reachable : Reachable H capacity capabilities s) : Invariant H s := by
  induction reachable with
  | start device nextLayer => exact start device nextLayer
  | step _ taken inv => exact inv.step taken

end Invariant

/-! ### What may be relied on -/

/-- A reply is what the thread made of the message of this number, and of no other. -/
structure Answers (H : Host B φ τ) (s : State B φ τ) (h : ProxyHandle) (number : Nat)
    (errand : Errand σ φ) (reply : Reply) : Prop where
  handled : ⟨⟨number, .message h errand.message⟩, some ⟨h, reply⟩⟩ ∈ s.journal
  only : ∀ entry ∈ s.journal, entry.ticket.number = number →
    entry = ⟨⟨number, .message h errand.message⟩, some ⟨h, reply⟩⟩
  genuine : ∃ (loop loop' : RenderLoop B φ) (d d' : B.Device),
    (loop.serve H (.message h errand.message)).runOn d = (.ok (.next loop' (some ⟨h, reply⟩)), d')

/-- What proxies and render thread may rely on in a state. Whenever the thread gives a reply, the
place for it is there and empty; who waits has its message with the thread or its reply, or no
sender is left. The reply that a call returns with was made by carrying out what the call sent, and
has the kind that the call looks for. After a call the place is empty, and nothing that the proxy
sent is left to be handled; without a reply nothing ever will be, and the proxy is disabled. -/
structure Orderly (H : Host B φ τ) (capacity : Nat) (capabilities : Capabilities)
    (s : State B φ τ) : Prop where
  acknowledged {ack : Acknowledgement} {delivery : Delivery} {s' : State B φ τ} :
    Step H capacity capabilities s (.acknowledges ack delivery) s' →
      (s.parties ack.handle).slot = none ∧ delivery = .queued
  answered {h : ProxyHandle} {errand : Errand σ φ} {reply : Reply} {s' : State B φ τ} :
    Step H capacity capabilities s (.returns h errand (some reply)) s' →
      ∃ number, (s.parties h).phase = .waiting number errand ∧
        Answers H s h number errand reply ∧ errand.replyKind = some reply.kind
  awaited {h : ProxyHandle} {number : Nat} {errand : Errand σ φ} :
    (s.parties h).phase = .waiting number errand →
      (number, errand.message) ∈ s.mail h ∨ (s.parties h).slot.isSome ∨ ¬s.SenderAlive h
  returned {h : ProxyHandle} {errand : Errand σ φ} {reply : Option Reply} {s' : State B φ τ} :
    Step H capacity capabilities s (.returns h errand reply) s' →
      (s'.parties h).phase = .idle ∧ (s'.parties h).slot = none ∧
        if reply.isSome then s'.mail h = []
        else ¬s'.engine.Running ∧ (s'.parties h).proxy.lifecycle = .disabled

namespace Invariant

variable {s : State B φ τ}

theorem answers_of_mem (inv : Invariant H s) {h : ProxyHandle} {number : Nat}
    {errand : Errand σ φ} {reply : Reply}
    (handled : ⟨⟨number, .message h errand.message⟩, some ⟨h, reply⟩⟩ ∈ s.journal) :
    Answers H s h number errand reply where
  handled := handled
  only entry mem same := by
    have nodup : (s.journal.map (·.ticket.number)).Nodup :=
      (List.pairwise_append.1 inv.ordered).1.imp Nat.ne_of_lt
    exact List.inj_on_of_nodup_map nodup mem handled same
  genuine := inv.genuine _ handled _ rfl

theorem answered (inv : Invariant H s) {h : ProxyHandle} {number : Nat} {errand : Errand σ φ}
    {reply : Reply} (phase : (s.parties h).phase = .waiting number errand)
    (slot : (s.parties h).slot = some reply) :
    Answers H s h number errand reply ∧ errand.replyKind = some reply.kind ∧ s.mail h = [] := by
  cases inv.standing h with
  | @answered number' errand' reply' phase' handle slot' life kind mail handled =>
    obtain ⟨rfl, rfl⟩ : number = number' ∧ errand = errand' := by
      simpa [State.view, phase] using phase'
    obtain rfl : reply = reply' := by simpa [State.view, slot] using slot'
    exact ⟨inv.answers_of_mem handled, kind, mail⟩
  | pending _ vacant => exact absurd (vacant.slot.symm.trans slot) (by simp)
  | lost _ vacant => exact absurd (vacant.slot.symm.trans slot) (by simp)
  | _ => simp_all [State.view]

theorem awaited (inv : Invariant H s) {h : ProxyHandle} {number : Nat} {errand : Errand σ φ}
    (phase : (s.parties h).phase = .waiting number errand) :
    (number, errand.message) ∈ s.mail h ∨ (s.parties h).slot.isSome ∨ ¬s.SenderAlive h := by
  cases inv.standing h with
  | @pending number' errand' before phase' vacant life fits awaits mail ready =>
    obtain ⟨rfl, rfl⟩ : number = number' ∧ errand = errand' := by
      simpa [State.view, phase] using phase'
    refine .inl ?_
    change s.mail h = _ at mail
    simp [mail]
  | @answered _ _ reply _ _ slot =>
    change (s.parties h).slot = _ at slot
    simp [slot]
  | lost _ _ _ _ mail _ unknown =>
    refine .inr (.inr ?_)
    rintro (known | ⟨number, translucent, asked⟩)
    · exact unknown known
    · change s.mail h = _ at mail
      simp [mail] at asked
  | _ => simp_all [State.view]

theorem slot_of_idle (inv : Invariant H s) {h : ProxyHandle} (idle : (s.parties h).phase = .idle) :
    (s.parties h).slot = none :=
  ((inv.standing h).of_idle idle).1

theorem acknowledged (inv : Invariant H s) {ack : Acknowledgement} {delivery : Delivery}
    {s' : State B φ τ} (step : Step H capacity capabilities s (.acknowledges ack delivery) s') :
    (s.parties ack.handle).slot = none ∧ delivery = .queued := by
  generalize same : Event.acknowledges ack delivery = event at step
  cases step with
  | @answers loop loop' d d' ticket ack' busy served =>
    obtain ⟨rfl, rfl⟩ := Event.acknowledges.inj same
    obtain ⟨⟨errand, waits⟩, -⟩ := inv.awaiting busy served
    have offered := waits.offer (inv.born _ (by simp [waits.phase])).1
    exact ⟨waits.vacant.slot, by rw [offered]⟩
  | fails => simp [Event.ofFailed] at same; split at same <;> simp at same
  | _ => simp at same

end Invariant

theorem Step.of_returns {s s' : State B φ τ} {h : ProxyHandle} {errand : Errand σ φ}
    {reply : Option Reply} (step : Step H capacity capabilities s (.returns h errand reply) s') :
    (∃ number r, reply = some r ∧ (s.parties h).phase = .waiting number errand ∧
      (s.parties h).slot = some r ∧ s' = s.setParty h ((s.parties h).receive errand r)) ∨
    (∃ number, reply = none ∧ (s.parties h).phase = .waiting number errand ∧
      (s.parties h).slot = none ∧ ¬s.SenderAlive h ∧
      s' = s.setParty h ((s.parties h).abandon errand)) ∨
    (reply = none ∧ (s.parties h).phase = .sending errand ∧ errand.replyKind.isSome ∧
      s.engine = .ended ∧ s' = s.setParty h ((s.parties h).undelivered errand)) := by
  generalize same : Event.returns h errand reply = event at step
  cases step with
  | @fails h' errand' phase ended =>
    unfold Event.ofFailed at same
    split at same
    case isTrue awaits =>
      obtain ⟨rfl, rfl, rfl⟩ := Event.returns.inj same
      exact .inr (.inr ⟨rfl, phase, awaits, ended, rfl⟩)
    case isFalse => simp at same
  | @receives h' number errand' r phase slot =>
    obtain ⟨rfl, rfl, rfl⟩ := Event.returns.inj same
    exact .inl ⟨number, r, rfl, phase, slot, rfl⟩
  | @abandons h' number errand' phase slot dead =>
    obtain ⟨rfl, rfl, rfl⟩ := Event.returns.inj same
    exact .inr (.inl ⟨number, rfl, phase, slot, dead, rfl⟩)
  | _ => simp at same

theorem Errand.conclude_none_lifecycle (errand : Errand σ φ) {p : Proxy}
    (life : p.lifecycle = .disabled) : (errand.conclude p none).lifecycle = .disabled := by
  cases errand with
  | opening translucent => rfl
  | request call command =>
    rcases p.conclude_lifecycle call none with same | ⟨live, _⟩
    · exact same.trans life
    · simp [live] at life
  | notice command => exact life
  | closing => exact life

namespace Invariant

variable {s s' : State B φ τ} {h : ProxyHandle} {errand : Errand σ φ}

/-- A call that returns without a reply returns from a thread that has stopped. -/
theorem returned_none (inv : Invariant H s)
    (step : Step H capacity capabilities s (.returns h errand none) s') :
    (s'.parties h).phase = .idle ∧ ¬s'.engine.Running ∧
      (s'.parties h).proxy.lifecycle = .disabled := by
  rcases step.of_returns with ⟨_, _, none, _⟩ | ⟨number, -, phase, slot, dead, rfl⟩ |
    ⟨-, phase, awaits, ended, rfl⟩
  · simp at none
  · have dead := not_or.1 dead
    obtain ⟨stopped, live, -⟩ := (inv.standing h).abandon phase slot dead.1
      (fun n t mem => dead.2 ⟨n, t, mem⟩)
    have disabled : (s.parties h).proxy.abandoned.1.lifecycle = .disabled :=
      Proxy.disable_lifecycle live _
    refine ⟨by simp [State.setParty, Party.abandon], stopped, ?_⟩
    simpa [State.setParty, Party.abandon] using errand.conclude_none_lifecycle disabled
  · have closing : errand ≠ .closing := by
      rintro rfl
      simp [Errand.replyKind] at awaits
    have live : (s.parties h).proxy.lifecycle = .live := by
      cases inv.standing h with
      | @sending errand' phase' _ life =>
        obtain rfl : errand = errand' := by simpa [State.view, phase] using phase'
        exact life closing
      | _ => simp_all [State.view]
    refine ⟨?_, by simp [State.setParty, ended, Engine.Running], ?_⟩
    · cases errand <;> simp_all [State.setParty, Party.undelivered]
    · have disabled :=
        errand.conclude_none_lifecycle (Proxy.disable_lifecycle live "render thread gone")
      cases errand <;> simp_all [State.setParty, Party.undelivered, Proxy.delivered]

end Invariant

/-- **The protocol of calls and replies.** In every state that some run gets to, under every order
of steps: a reply finds its place empty and its proxy waiting; a call gets the reply to its own
message, of the kind that it looks for; nobody waits for what cannot come; and a call that has
returned leaves nothing behind that could be taken for the answer to the next one. -/
theorem reply_protocol {s : State B φ τ} (reachable : Reachable H capacity capabilities s) :
    Orderly H capacity capabilities s := by
  have inv := Invariant.of_reachable reachable
  refine ⟨inv.acknowledged, fun {h errand reply s'} step => ?_, inv.awaited,
    fun {h errand reply s'} step => ?_⟩
  · rcases step.of_returns with ⟨number, r, same, phase, slot, rfl⟩ | ⟨_, none, _⟩ | ⟨none, _⟩
    · obtain rfl := Option.some.inj same
      obtain ⟨answers, kind, -⟩ := inv.answered phase slot
      exact ⟨number, phase, answers, kind⟩
    · simp at none
    · simp at none
  · cases reply with
    | none =>
      obtain ⟨idle, stopped, disabled⟩ := inv.returned_none step
      exact ⟨idle, (inv.step step).slot_of_idle idle, stopped, disabled⟩
    | some reply =>
      rcases step.of_returns with ⟨number, r, same, phase, slot, rfl⟩ | ⟨_, none, _⟩ | ⟨none, _⟩
      · obtain rfl := Option.some.inj same
        exact ⟨by simp [State.setParty, Party.receive], by simp [State.setParty, Party.receive],
          (inv.answered phase slot).2.2⟩
      · simp at none
      · simp at none

/-- The first proxy's reply has come: a run of four steps. -/
theorem reply_protocol_of_opening :
    ∃ s, Reachable Headless.idleHost 64 .all s ∧ (s.parties ⟨1⟩).slot.isSome ∧
      Orderly Headless.idleHost 64 .all s := by
  have start : Reachable Headless.idleHost 64 .all (.start (.start .standard ()) ⟨1⟩) := .start _ _
  have opened := start.step (.opens false)
  have submitted := opened.step
    (@Step.submits _ _ _ _ _ _ _ _ ⟨1⟩ (.opening false) rfl (by decide) (by simp [State.start]))
  have taken := submitted.step (.takes rfl rfl)
  have answered := taken.step (.answers rfl rfl)
  exact ⟨_, answered, rfl, reply_protocol answered⟩

end RenderRelay.Exchange

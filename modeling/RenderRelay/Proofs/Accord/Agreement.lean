import RenderRelay.Proofs.Accord.Kept
import RenderRelay.Proofs.Exchange.Serving
import RenderRelay.Proofs.Repaint.Faithful

/-!
The control side and the render side agree. Every step of the system leaves every account `Kept`,
and between calls this is `Agree`.
-/

namespace RenderRelay.Exchange

open Headless DeviceOp

variable {ω φ τ : Type} {report : LogRecord → ω → ω}
  {invoke : φ → Frame → FunctorInfo → StateM ω (Frame × Completion)}
  {perform : τ → StateM ω Completion} {capacity : Nat} {capabilities : Capabilities}

/-! ### Steps -/

/-- Who sent a command has its context, and no reply for it lies ready yet. -/
theorem Standing.sender {σ φ τ : Type} {h : ProxyHandle} {v : View σ φ τ}
    (standing : Standing h v) {number : Nat} {command : Command σ φ} {rest : Mail σ φ}
    (mail : v.mail = (number, .run command) :: rest) :
    ¬v.party.phase.Early ∧ (v.party.phase ≠ .gone → v.party.slot = none) := by
  cases standing with
  | unborn _ none => simp [mail] at none
  | idle phase slot => exact ⟨by simp [phase, Phase.Early], fun _ => slot⟩
  | @sending errand phase vacant _ _ ready =>
    refine ⟨?_, fun _ => vacant.slot⟩
    cases errand with
    | opening translucent => simp [mail, Errand.Ready] at ready
    | _ => simp [phase, Phase.Early]
  | @pending _ errand before phase vacant _ _ _ mail' ready =>
    refine ⟨?_, fun _ => vacant.slot⟩
    cases errand with
    | opening translucent =>
      obtain rfl := ready.1
      simp [mail, Errand.message] at mail'
    | _ => simp [phase, Phase.Early]
  | answered _ _ _ _ _ none => simp [mail] at none
  | lost _ _ _ _ none => simp [mail] at none
  | gone phase _ => exact ⟨by simp [phase, Phase.Early], fun open' => absurd phase open'⟩

/-- What holds in every state of a run. -/
structure Sound (H : Host (backend report) φ τ) (events : List (Event Surface φ))
    (s : State (backend report) φ τ) : Prop where
  inv : Invariant H s
  kept : ∀ h, Kept (s.account events h)

namespace Sound

variable {s s' : State (backend report) φ τ} {events : List (Event Surface φ)}
  {h : ProxyHandle}

theorem drawn_concat (event : Event Surface φ) (h : ProxyHandle) :
    (events ++ [event]).countP (Event.drew h) =
      events.countP (Event.drew h) + (event.drew h).toNat := by
  rw [List.countP_append, List.countP_singleton]
  cases event.drew h <;> rfl

@[simp] theorem drew_silent (h : ProxyHandle) : (Event.silent : Event Surface φ).drew h = false :=
  rfl

theorem setParty {event : Event Surface φ} {party : Party Surface φ}
    (kept : ∀ k, k ≠ h → Kept (s.account events k)) (others : ∀ k, k ≠ h → event.drew k = false)
    (own : Kept { s.account events h with
      party, drawn := (s.account events h).drawn + (event.drew h).toNat }) (k : ProxyHandle) :
    Kept ((s.setParty h party).account (events ++ [event]) k) := by
  by_cases self : k = h
  · subst self
    have same : (s.setParty k party).account (events ++ [event]) k = { s.account events k with
        party, drawn := (s.account events k).drawn + (event.drew k).toNat } := by
      simp only [State.account, drawn_concat]
      simp [State.setParty, State.mail, State.pending, State.executed]
    rwa [same]
  · have same : (s.setParty h party).account (events ++ [event]) k = s.account events k := by
      simp only [State.account, drawn_concat, others k self]
      simp [State.setParty, State.mail, State.pending, State.executed, self]
    rw [same]
    exact kept k self

theorem setParty_undrawn {event : Event Surface φ} {party : Party Surface φ}
    (kept : ∀ k, k ≠ h → Kept (s.account events k)) (undrawn : ∀ k, event.drew k = false)
    (own : Kept { s.account events h with party }) (k : ProxyHandle) :
    Kept ((s.setParty h party).account (events ++ [event]) k) := by
  refine setParty kept (fun k _ => undrawn k) ?_ k
  rw [undrawn]
  exact own

/-- A step that nothing is seen of and that changes no account. -/
theorem silent (kept : ∀ k, Kept (s.account events k))
    (same : ∀ k, s'.account events k = s.account events k) (k : ProxyHandle) :
    Kept (s'.account (events ++ [.silent]) k) := by
  have drawn : s'.account (events ++ [.silent]) k = s'.account events k := by
    simp only [State.account, drawn_concat]
    rfl
  rw [drawn, same]
  exact kept k

/-! ### Handling an envelope -/

section Handled

variable {H : Host (backend report) φ τ} {loop loop' : RenderLoop (backend report) φ}
  {d d' : Device ω} {ticket : Ticket Surface φ τ} {answer : Option Acknowledgement}

theorem executed_handled (engine : Engine (backend report) φ τ) (k : ProxyHandle) :
    (s.handled engine ticket answer).executed k =
      s.executed k + (Entry.draws k ⟨ticket, answer⟩).toNat := by
  simp only [State.executed, State.handled, List.countP_append, List.countP_singleton]
  cases Entry.draws k ⟨ticket, answer⟩ <;> rfl

theorem handled_other (busy : s.engine = .busy loop d ticket)
    (serves : loop.Serves H ticket.envelope (.next loop' answer)) {k : ProxyHandle}
    (other : State.messageOf? k ticket = none) :
    (s.handled (.ready loop' d') ticket answer).account events k = s.account events k := by
  obtain ⟨number, envelope⟩ := ticket
  have mail : (s.handled (.ready loop' d') ⟨number, envelope⟩ answer).mail k = s.mail k := by
    rw [State.mail_handled rfl, State.mail_of_busy busy, other]
    rfl
  have undrawn : Entry.draws k ⟨⟨number, envelope⟩, answer⟩ = false := by
    unfold Entry.draws
    split <;> simp_all [State.messageOf?]
  have context : loop'.contexts.get? k = loop.contexts.get? k := by
    generalize next : RenderLoop.Served.next loop' answer = served at serves
    cases serves <;> simp_all [State.messageOf?, Table.get?_insert, Table.get?_erase]
  have kept : (s.handled (.ready loop' d') ⟨number, envelope⟩ answer).engine.context? k =
      s.engine.context? k := by
    rw [busy]
    exact context
  simp only [State.account, mail, executed_handled, undrawn, kept]
  rfl

theorem handled_self (number : Nat) (message : Message Surface φ) (k : ProxyHandle) :
    (s.handled (.ready loop' d') ⟨number, .message k message⟩ answer).account events k =
      ⟨s.parties k, s.queued k, events.countP (Event.drew k), s.executed k +
        (Entry.draws k (⟨⟨number, .message k message⟩, answer⟩ : Entry Surface φ τ)).toNat,
        loop'.contexts.get? k⟩ := by
  have mail : (s.handled (.ready loop' d') ⟨number, .message k message⟩ answer).mail k =
      s.queued k := State.mail_handled rfl answer
  simp only [State.account, executed_handled, mail]
  rfl

variable {number : Nat}

/-- **An envelope that is not answered** leaves every account kept. -/
theorem serves (sound : Sound (host report invoke perform) events s)
    (busy : s.engine = .busy loop d ticket)
    (served : (loop.serve (host report invoke perform) ticket.envelope).runOn d =
      (.ok (.next loop' none), d')) (k : ProxyHandle) :
    Kept ((s.handled (.ready loop' d') ticket none).account (events ++ [.silent]) k) := by
  have serves := RenderLoop.serve_serves _ loop ticket.envelope d _ _ served
  refine silent (s := s.handled (.ready loop' d') ticket none) (fun k => ?_) (fun k => rfl) k
  cases other : State.messageOf? k ticket with
  | none =>
    rw [handled_other busy serves other]
    exact sound.kept k
  | some mine =>
    obtain ⟨number, envelope⟩ := ticket
    cases envelope with
    | task task => simp [State.messageOf?] at other
    | shutdown => simp [State.messageOf?] at other
    | message h message =>
      obtain rfl : h = k := by
        by_contra different
        simp [State.messageOf?, different] at other
      rw [handled_self]
      have kept := sound.kept h
      have first := sound.inv.first busy
      by_cases gone : (s.parties h).phase = .gone
      · exact kept.ended gone _ _ _
      generalize next : RenderLoop.Served.next loop' none = result at serves
      cases serves with
      | made run => simp at next
      | refused => simp at next
      | @obeyed _ command c c' reply d₁ d₂ there run =>
        obtain ⟨rfl, none⟩ := RenderLoop.Served.next.inj next
        have unanswered : reply = .none := Option.map_eq_none_iff.1 none.symm
        have kind := Context.dispatch_replyKind _ _ _ _ _ _ _ run
        have unasked : command.replyKind = .none := by simpa [unanswered] using kind.symm
        have undrawn : command.draws = false := by
          rw [Bool.eq_false_iff, ne_eq, Command.draws_iff, unasked]
          simp
        have mail : s.mail h = (number, .run command) :: s.queued h := by
          simp [State.mail_of_busy busy, State.messageOf?]
        obtain ⟨started, empty⟩ := (sound.inv.standing h).sender mail
        have context : (s.account events h).context = some c := by
          simp only [State.account, busy, Engine.context?, there]
        have coherent : Coherent c := (kept.accord gone c context).coherent
        have booked := dispatch_booked coherent _ _ _ _ run
        have noticed := kept.noticed context booked unasked unanswered started
          (by simp [State.account, mail]) (empty gone) (s.queued h)
        simp only [Entry.draws, undrawn, Bool.and_false, Bool.toNat_false, Nat.add_zero,
          Table.get?_insert, if_true]
        exact noticed
      | dropped unknown =>
        have known := first.known (by simp [State.view, busy, Engine.Running])
        simp [State.view, busy, Engine.Knows, RenderLoop.Knows, unknown] at known
      | disposed there => exact absurd first.gone.1 gone
      | ignored unknown => exact absurd first.gone.1 gone

theorem created {translucent : Bool} {canvas : Canvas} {d₁ d₂ : Device ω}
    (run : (createCanvas report translucent).runOn d₁ = (.ok (.ok canvas), d₂)) :
    canvas.viewport = none ∧ canvas.surface = none := by
  have made : Ensures (createCanvas report translucent) d₁ fun r _ =>
      ∀ canvas, r = .ok canvas → canvas = ⟨translucent, none, none, .empty⟩ :=
    ensures_createCanvas (by simp) (by simp)
  rw [made _ _ run canvas rfl]
  exact ⟨rfl, rfl⟩

/-- **An envelope that is answered** leaves every account kept. -/
theorem answers (sound : Sound (host report invoke perform) events s) {reply : Reply}
    (busy : s.engine = .busy loop d ticket)
    (served : (loop.serve (host report invoke perform) ticket.envelope).runOn d =
      (.ok (.next loop' (some ⟨h, reply⟩)), d')) (delivery : Delivery) (k : ProxyHandle) :
    Kept (((s.handled (.ready loop' d') ticket (some ⟨h, reply⟩)).setParty h
      ((s.parties h).offer reply).1).account
        (events ++ [.acknowledges ⟨h, reply⟩ delivery]) k) := by
  have serves := RenderLoop.serve_serves _ loop ticket.envelope d _ _ served
  obtain ⟨⟨errand, waits⟩, -⟩ := sound.inv.awaiting busy served
  have valid : h.isValid := (sound.inv.born h (by simp [waits.phase])).1
  have offered : ((s.parties h).offer reply).1 = { s.parties h with slot := some reply } :=
    congrArg Prod.fst (waits.offer valid)
  rw [offered]
  obtain ⟨number, envelope⟩ := ticket
  obtain rfl : envelope = .message h errand.message := waits.envelope
  refine setParty (fun k other => ?_) (fun _ _ => rfl) ?_ k
  · rw [handled_other busy serves (by simp [State.messageOf?, Ne.symm other])]
    exact sound.kept k
  rw [handled_self, show s.queued h = [] from waits.alone]
  have kept := sound.kept h
  have phase : (s.account events h).party.phase = .waiting number errand := waits.phase
  have context : (s.account events h).context = loop.contexts.get? h := by
    simp only [State.account, busy, Engine.context?]
  -- a context is made for an opening, and carries out what is requested
  cases errand with
  | opening translucent =>
    refine kept.opened phase fun c there => ?_
    generalize next : RenderLoop.Served.next loop' (some ⟨h, reply⟩) = result at serves
    cases serves with
    | @made _ _ canvas d₁ d₂ run =>
      obtain ⟨rfl, same⟩ := RenderLoop.Served.next.inj next
      obtain ⟨-, rfl⟩ := Acknowledgement.mk.inj (Option.some.inj same)
      obtain rfl : .ofCanvas h canvas = c := by simpa [Table.get?_insert] using there
      obtain ⟨unused, unsized, -⟩ := kept.unused (by simp [phase, Phase.Early])
      obtain ⟨size, unbound⟩ := created run
      exact ⟨rfl, .made size unbound waits.life unsized unused⟩
    | @refused _ _ e =>
      obtain ⟨rfl, same⟩ := RenderLoop.Served.next.inj next
      obtain ⟨-, rfl⟩ := Acknowledgement.mk.inj (Option.some.inj same)
      refine absurd ?_ (waits.refused ⟨e, rfl⟩)
      simpa [RenderLoop.Knows] using congrArg Option.isSome there
  | request call command =>
    generalize next : RenderLoop.Served.next loop' (some ⟨h, reply⟩) = result at serves
    cases serves with
    | @obeyed _ _ c c' reply' d₁ d₂ there run =>
      obtain ⟨rfl, same⟩ := RenderLoop.Served.next.inj next
      obtain ⟨r, rfl, told⟩ := Option.map_eq_some_iff.1 same.symm
      obtain rfl : r = reply := (Acknowledgement.mk.inj told).2
      have kind := Context.dispatch_replyKind _ _ _ _ _ _ _ run
      have coherent : Coherent c :=
        (kept.accord (by simp [phase]) c (context.trans there)).coherent
      have booked := dispatch_booked coherent _ _ _ _ run
      have answered := kept.answered phase waits.life waits.vacant.slot (context.trans there)
        booked kind.symm
      simp only [Entry.draws, Errand.message, decide_true, Bool.true_and, Table.get?_insert,
        if_true]
      exact answered
    | dropped unknown => simp at next
  | notice command => simpa [Errand.replyKind] using waits.kind
  | closing => simpa [Errand.replyKind] using waits.kind

end Handled

/-! ### Every step -/

theorem opens (sound : Sound H events s) (translucent : Bool) (k : ProxyHandle) :
    Kept (({ s with
      handles := s.handles + 1
      parties := Function.update s.parties ⟨s.handles + 1⟩
        ⟨.ofHandle ⟨s.handles + 1⟩ capabilities translucent,
          .sending (.opening translucent), none⟩ } : State (backend report) φ τ).account
        (events ++ [.silent]) k) := by
  have kept := sound.kept k
  by_cases new : k = ⟨s.handles + 1⟩
  · have fresh : (s.parties k).phase = .unborn := by
      by_contra born
      exact absurd (sound.inv.born k born).2 (by simp [new])
    obtain ⟨none, -, unused⟩ := kept.unused (by simp [State.account, fresh, Phase.Early])
    have unknown : s.engine.context? k = .none := by
      by_cases running : s.engine.Running
      · have unknown : ¬s.engine.Knows k := by
          cases sound.inv.standing k with
          | unborn _ _ unknown => exact unknown
          | _ => simp_all [State.view]
        rw [← Engine.isSome_context? running] at unknown
        simpa using unknown
      · exact Engine.context?_of_stopped running k
    have party : Function.update s.parties ⟨s.handles + 1⟩
        ⟨.ofHandle ⟨s.handles + 1⟩ capabilities translucent,
          .sending (.opening translucent), .none⟩ k =
        ⟨.ofHandle k capabilities translucent, .sending (.opening translucent), .none⟩ := by
      rw [new, Function.update_self]
    simp only [State.account, party, drawn_concat, drew_silent]
    refine ⟨kept.frames ▸ none.symm, fun _ => ⟨rfl, rfl, unused⟩, by simp [Phase.Asks],
      fun _ invalid => ?_, ?_, ?_⟩
    · simp [new, Proxy.ofHandle, ProxyHandle.invalid] at invalid
    · simp [Proxy.ofHandle]
    · intro _ c there
      exact absurd (unknown.symm.trans there) (by simp)
  · simp only [State.account, Function.update_of_ne new, drawn_concat, drew_silent]
    exact kept

theorem account_push {envelope : Envelope Surface φ τ} {k : ProxyHandle}
    (foreign : State.messageOf? k ⟨s.issued, envelope⟩ = none) :
    (s.push envelope).account events k = s.account events k := by
  have mail : (s.push envelope).mail k = s.mail k := by
    rw [State.mail_push, foreign]
    exact List.append_nil _
  simp only [State.account, mail]
  rfl

theorem submits (sound : Sound H events s) {errand : Errand Surface φ}
    (phase : (s.parties h).phase = .sending errand) (k : ProxyHandle) :
    Kept (((s.push (.message (s.parties h).proxy.handle errand.message)).setParty h
      ((s.parties h).submitted s.issued errand)).account (events ++ [.silent]) k) := by
  obtain ⟨vacant, live⟩ : Vacant h (s.parties h) ∧
      (errand ≠ .closing → (s.parties h).proxy.lifecycle = .live) := by
    cases sound.inv.standing h with
    | @sending errand' phase' vacant life =>
      obtain rfl : errand = errand' := by simpa [State.view, phase] using phase'
      exact ⟨vacant, life⟩
    | _ => simp_all [State.view]
  rw [vacant.handle]
  refine setParty_undrawn (fun k other => ?_) (fun _ => rfl) ?_ k
  · rw [account_push (by simp [State.messageOf?, Ne.symm other])]
    exact sound.kept k
  · exact (sound.kept h).submitted phase vacant.slot live s.issued _

theorem stopped (sound : Sound H events s) (parties : s'.parties = s.parties)
    (mail : ∀ k, s.mail k = [] → s'.mail k = []) (executed : ∀ k, s'.executed k = s.executed k)
    (engine : ¬s'.engine.Running) (k : ProxyHandle) :
    Kept (s'.account (events ++ [.silent]) k) := by
  have context := Engine.context?_of_stopped engine k
  have lost := (sound.kept k).lose (mail k)
  simp only [State.account, parties, executed, context, drawn_concat, drew_silent]
  exact lost

theorem drew_ofFailed (errand : Errand Surface φ) (k : ProxyHandle) :
    (Event.ofFailed h errand).drew k = false := by
  unfold Event.ofFailed
  split
  · cases errand <;> simp [Event.drew, Call.drew]
  · rfl

/-- **Every step keeps what proxies and contexts know of each other.** -/
theorem step {event : Event Surface φ} (sound : Sound (host report invoke perform) events s)
    (step : Step (host report invoke perform) capacity capabilities s event s') :
    Sound (host report invoke perform) (events ++ [event]) s' := by
  refine ⟨sound.inv.step step, ?_⟩
  have kept := sound.kept
  cases step with
  | opens translucent => exact sound.opens translucent
  | @calls h call idle =>
    exact setParty (fun k _ => kept k) (fun _ _ => rfl) ((kept h).begin idle call)
  | @closes h idle => exact setParty (fun k _ => kept k) (fun _ _ => rfl) ((kept h).close idle)
  | @submits h errand phase room there => exact sound.submits phase
  | @fails h errand phase ended =>
    have mail : s.mail h = [] := by
      simp [State.mail, State.pending, sound.inv.ended ended, ended, Engine.inHand]
    have unknown : s.engine.context? h = none := by rw [ended]; rfl
    refine setParty_undrawn (fun k _ => kept k) (drew_ofFailed errand) ?_
    have undelivered := (kept h).undelivered phase mail
    simpa only [State.account, unknown] using undelivered
  | @receives h number errand reply phase slot =>
    obtain ⟨-, kind, mail⟩ := sound.inv.answered phase slot
    refine setParty (fun k _ => kept k) (fun k other => ?_)
      ((kept h).receive phase slot kind mail h)
    cases errand <;> simp [Event.drew, Ne.symm other]
  | @abandons h number errand phase slot dead =>
    have dead := not_or.1 dead
    obtain ⟨stopped, live, -⟩ := (sound.inv.standing h).abandon phase slot dead.1
      (fun n t mem => dead.2 ⟨n, t, mem⟩)
    have unknown := Engine.context?_of_stopped stopped h
    have undrawn (k : ProxyHandle) : (Event.returns h errand none).drew k = false := by
      cases errand <;> simp [Event.drew, Call.drew]
    refine setParty_undrawn (fun k _ => kept k) undrawn ?_
    have abandoned := (kept h).abandon phase live
    simpa only [State.account, unknown] using abandoned
  | posts task room there => exact silent kept fun k => account_push rfl
  | shutsDown room there => exact silent kept fun k => account_push rfl
  | takes ready queue =>
    refine silent kept fun k => ?_
    simp [State.account, State.mail, State.pending, State.executed, ready, queue, Engine.inHand,
      Engine.context?]
  | serves busy served => exact sound.serves busy served
  | @answers loop loop' d d' ticket ack busy served => exact sound.answers busy served _
  | @stops loop d d' ticket busy served =>
    refine sound.stopped rfl (fun k none => ?_) (fun k => ?_) id
    · rw [State.mail_of_busy busy] at none
      rw [State.mail_handled rfl]
      exact (List.append_eq_nil_iff.1 none).2
    · obtain ⟨number, envelope⟩ := ticket
      have serves := RenderLoop.serve_serves _ loop envelope d _ _ served
      cases serves with
      | stopped => simp [executed_handled, Entry.draws]
  | dies busy served =>
    exact sound.stopped rfl (fun k _ => rfl) (fun k => rfl) id
  | releases h closing =>
    refine sound.stopped rfl (fun k none => ?_) (fun k => rfl) id
    simpa [State.mail, State.pending, closing, Engine.inHand] using none
  | disconnects closing empty => exact sound.stopped rfl (fun k _ => rfl) (fun k => rfl) id

theorem start (device : Device ω) (nextLayer : LayerHandle) :
    Sound H [] (.start device nextLayer : State (backend report) φ τ) where
  inv := Invariant.start (B := backend report) device nextLayer
  kept h := by
    refine ⟨rfl, fun _ => ⟨rfl, rfl, rfl⟩, ?_, fun born => absurd rfl born, fun _ _ => rfl, ?_⟩
    · simp [State.account, State.start, Phase.Asks]
    · simp [State.account, State.start, Engine.context?, RenderLoop.start]

theorem of_run (run : Run (host report invoke perform) capacity capabilities events s) :
    Sound (host report invoke perform) events s := by
  induction run with
  | start device nextLayer => exact .start device nextLayer
  | step _ step ih => exact ih.step step

end Sound

/-! ### Between calls -/

/-- **What both sides say of each other between calls.** The first two tell the proxy's life, the
next its size, and the rest the frames and the binding. -/
structure Agree (a : Account report φ) : Prop where
  live : a.party.proxy.lifecycle = .live ↔ ∃ c, a.context = some c ∧ c.canvas.isSome = true
  destroyed : a.party.proxy.lifecycle = .destroyed → ∃ c, a.context = some c ∧
    c.canvas = none ∧ c.surfaceBound = false ∧ c.registry = .empty
  viewport : ∀ v, a.party.proxy.viewport = some v → ∃ c, a.context = some c ∧
    c.viewport = some v ∧ ∀ canvas, c.canvas = some canvas → canvas.viewport = some v
  returned : a.party.proxy.frameCount = a.drawn
  drawn : ∀ c, a.context = some c → c.stats.drawn = a.party.proxy.frameCount
  executed : ∀ c, a.context = some c → c.stats.drawn + c.stats.skipped = a.executed
  bound : ∀ c canvas, a.context = some c → c.canvas = some canvas →
    c.surfaceBound = canvas.surface.isSome

theorem Agree.of_accord {a : Account report φ} {c : Context (backend report) φ}
    (frames : a.party.proxy.frameCount = a.drawn) (there : a.context = some c)
    (accord : Accord a.executed a.party.proxy c) : Agree a where
  live := by simp [there, accord.live]
  destroyed destroyed := by
    have none : c.canvas = none := by
      have dead := accord.live.not.2 (by simp [destroyed])
      simpa using dead
    exact ⟨c, there, none, accord.spent none⟩
  viewport v cached := by
    have size := accord.viewport v cached
    exact ⟨c, there, size, fun canvas has => (accord.coherent canvas has).1.trans size⟩
  returned := frames
  drawn := by simpa [there] using accord.drawn
  executed := by simpa [there, FrameStats.total] using accord.total
  bound := by
    rintro c' canvas found has
    obtain rfl : c = c' := Option.some.inj (there.symm.trans found)
    exact (accord.coherent canvas has).2

theorem Agree.of_contextless {a : Account report φ}
    (frames : a.party.proxy.frameCount = a.drawn) (none : a.context = none)
    (life : a.party.proxy.lifecycle = .disabled) (size : a.party.proxy.viewport = .none) :
    Agree a := by
  constructor <;> simp [none, life, size, frames]

/-- **The control side and the render side agree** whenever the render thread runs and the proxy is
between calls. What may be left on its queue then, nobody waits for, and it changes none of this. -/
theorem sides_agree {events : List (Event Surface φ)} {s : State (backend report) φ τ}
    {h : ProxyHandle}
    (run : Run (host report invoke perform) capacity capabilities events s)
    (running : s.engine.Running) (idle : (s.parties h).phase = .idle) :
    Agree (s.account events h) := by
  have sound := Sound.of_run run
  have kept := sound.kept h
  obtain ⟨-, rest⟩ := (sound.inv.standing h).of_idle idle
  cases rest with
  | whole handle life notices known =>
    obtain ⟨c, there⟩ := Option.isSome_iff_exists.1
      ((Engine.isSome_context? running h).2 (known running))
    have accord := kept.accord (by simp [State.account, idle]) c there
    rw [Kept.settled_of_idle (s.account events h).party idle] at accord
    exact .of_accord kept.frames there accord
  | forsaken _ _ stopped => exact absurd running stopped
  | contextless invalid life _ unknown =>
    have none : s.engine.context? h = none := by
      have none := (Engine.isSome_context? running h).not.2 unknown
      simpa using none
    exact .of_contextless kept.frames none life
      (kept.blank (by simp [State.account, idle]) invalid).2

/-- A proxy was made and sized: a run of nine steps. -/
theorem sides_agree_after_setup :
    ∃ events s, Run idleHost 64 .all events s ∧ s.engine.Running ∧
      (s.parties ⟨1⟩).phase = .idle ∧ (s.parties ⟨1⟩).proxy.viewport = some ⟨2, 1⟩ ∧
      Agree (s.account events ⟨1⟩) := by
  have start : Run idleHost 64 .all [] (.start (.start .standard ()) ⟨1⟩) := .start _ _
  have opening := start.step (.opens false)
  have submitted := opening.step
    (@Step.submits _ _ _ _ _ _ _ _ ⟨1⟩ (.opening false) rfl (by decide) (by simp [State.start]))
  have taken := submitted.step (.takes rfl rfl)
  have answered := taken.step (.answers rfl rfl)
  have opened := answered.step (@Step.receives _ _ _ _ _ _ _ _ ⟨1⟩ _ _ _ rfl rfl)
  have calling := opened.step (@Step.calls _ _ _ _ _ _ _ _ ⟨1⟩ (.setup ⟨2, 1⟩) rfl)
  have asked := calling.step
    (@Step.submits _ _ _ _ _ _ _ _ ⟨1⟩ (.request (.setup ⟨2, 1⟩) (.setup ⟨2, 1⟩)) rfl
      (by decide) (by simp [State.handled, State.setParty]))
  have served := (asked.step (.takes rfl rfl)).step (.answers rfl rfl)
  have sized := served.step (@Step.receives _ _ _ _ _ _ _ _ ⟨1⟩ _ _ _ rfl rfl)
  exact ⟨_, _, sized, trivial, rfl, rfl, sides_agree sized trivial rfl⟩

end RenderRelay.Exchange

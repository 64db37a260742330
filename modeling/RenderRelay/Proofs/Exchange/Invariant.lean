import RenderRelay.Proofs.Exchange.System

/-!
The invariant of the exchange. What a party may rely on is its standing: it depends on the party's
own phase, on its messages that are not handled yet, and on whether the render thread runs and has
its context. Nothing else of the system matters to it, so that the steps of others are one lemma
(`Standing.frame`), and each step of its own is one more.

The heart of it: what a proxy sends and does not wait for may pile up on the queue, but behind a
message that it waits for there is nothing of its own.
-/

namespace RenderRelay.Exchange

variable {σ φ τ : Type} {B : Backend σ}

/-! ### Standings -/

abbrev Mail (σ φ : Type) := List (Nat × Message σ φ)

def Notices (mail : Mail σ φ) : Prop :=
  ∀ m ∈ mail, ∃ command, m.2 = .run command ∧ command.replyKind = none

/-- What the standing of a party depends on. -/
structure View (σ φ τ : Type) where
  party : Party σ φ
  mail : Mail σ φ
  running : Prop
  known : Prop
  journal : List (Entry σ φ τ)

def State.view (s : State B φ τ) (h : ProxyHandle) : View σ φ τ :=
  ⟨s.parties h, s.mail h, s.engine.Running, s.engine.Knows h, s.journal⟩

def Errand.Fits : Errand σ φ → Prop
  | opening _ => True
  | request call command => command.replyKind = call.replyKind ∧ call.replyKind.isSome
  | notice command => command.replyKind = none
  | closing => True

/-- With these messages before it, the errand's message will find what it needs. -/
def Errand.Ready (v : View σ φ τ) (errand : Errand σ φ) (before : Mail σ φ) : Prop :=
  match errand with
  | opening _ => before = [] ∧ ¬v.known
  | closing => v.running → Notices before ∧ v.known
  | _ => Notices before ∧ (v.running → v.known)

/-- The proxy has its handle, and no reply lies in its place. -/
structure Vacant (h : ProxyHandle) (party : Party σ φ) : Prop where
  handle : party.proxy.handle = h
  slot : party.slot = none

def Refusal (r : Reply) : Prop := ∃ e, r = .created (.error e)

inductive Rest (h : ProxyHandle) (v : View σ φ τ) (p : Proxy) : Prop
  | whole (handle : p.handle = h) (life : p.lifecycle = .live ∨ p.lifecycle = .destroyed)
      (mail : Notices v.mail) (known : v.running → v.known)
  | forsaken (handle : p.handle = h) (life : p.lifecycle = .disabled) (stopped : ¬v.running)
  | contextless (handle : p.handle = .invalid) (life : p.lifecycle = .disabled)
      (mail : v.mail = []) (unknown : ¬v.known)

inductive Standing (h : ProxyHandle) (v : View σ φ τ) : Prop
  | unborn (phase : v.party.phase = .unborn) (mail : v.mail = []) (unknown : ¬v.known)
  | idle (phase : v.party.phase = .idle) (slot : v.party.slot = none)
      (rest : Rest h v v.party.proxy)
  | sending {errand : Errand σ φ} (phase : v.party.phase = .sending errand)
      (vacant : Vacant h v.party) (life : errand ≠ .closing → v.party.proxy.lifecycle = .live)
      (fits : errand.Fits) (ready : errand.Ready v v.mail)
  | pending {number : Nat} {errand : Errand σ φ} {before : Mail σ φ}
      (phase : v.party.phase = .waiting number errand) (vacant : Vacant h v.party)
      (life : v.party.proxy.lifecycle = .live) (fits : errand.Fits)
      (awaits : errand.replyKind.isSome) (mail : v.mail = before ++ [(number, errand.message)])
      (ready : errand.Ready v before)
  | answered {number : Nat} {errand : Errand σ φ} {reply : Reply}
      (phase : v.party.phase = .waiting number errand) (handle : v.party.proxy.handle = h)
      (slot : v.party.slot = some reply) (life : v.party.proxy.lifecycle = .live)
      (kind : errand.replyKind = some reply.kind) (mail : v.mail = [])
      (handled : ⟨⟨number, .message h errand.message⟩, some ⟨h, reply⟩⟩ ∈ v.journal)
      (refused : Refusal reply → ¬v.known) (known : ¬Refusal reply → v.running → v.known)
  | lost {number : Nat} {errand : Errand σ φ} (phase : v.party.phase = .waiting number errand)
      (vacant : Vacant h v.party) (life : v.party.proxy.lifecycle = .live)
      (awaits : errand.replyKind.isSome) (mail : v.mail = []) (stopped : ¬v.running)
      (unknown : ¬v.known)
  | gone (phase : v.party.phase = .gone)
      (rest : v.running → (∃ before number, v.mail = before ++ [(number, .dispose)] ∧
        Notices before ∧ v.known) ∨ (v.mail = [] ∧ ¬v.known))

/-! ### Messages that nobody waits for -/

@[simp] theorem notices_nil : Notices ([] : Mail σ φ) := by simp [Notices]

theorem Notices.snoc {mail : Mail σ φ} (h : Notices mail) {command : Command σ φ}
    (kind : command.replyKind = none) (number : Nat) :
    Notices (mail ++ [(number, .run command)]) := by
  intro m hm
  rcases List.mem_append.1 hm with hm | hm
  · exact h m hm
  · obtain rfl := List.mem_singleton.1 hm
    exact ⟨command, rfl, kind⟩

theorem Notices.head {m : Nat × Message σ φ} {mail : Mail σ φ} (h : Notices (m :: mail)) :
    ∃ command, m.2 = .run command ∧ command.replyKind = none :=
  h m List.mem_cons_self

theorem Notices.tail {m : Nat × Message σ φ} {mail : Mail σ φ} (h : Notices (m :: mail)) :
    Notices mail :=
  fun m' hm' => h m' (List.mem_cons_of_mem _ hm')

/-- The first of these messages is the last one or one of those before it. -/
theorem Mail.split {before rest : Mail σ φ} {last m : Nat × Message σ φ}
    (h : m :: rest = before ++ [last]) :
    (before = [] ∧ m = last ∧ rest = []) ∨
      ∃ before', before = m :: before' ∧ rest = before' ++ [last] := by
  cases before with
  | nil =>
    obtain ⟨rfl, rfl⟩ := List.cons.inj h
    exact .inl ⟨rfl, rfl, rfl⟩
  | cons m' before' =>
    obtain ⟨rfl, rfl⟩ := List.cons.inj h
    exact .inr ⟨before', rfl, rfl⟩

/-- What is answered as expected gets a reply of the kind waited for. -/
theorem Errand.Fits.replyKind {errand : Errand σ φ} (fits : errand.Fits) :
    errand.message.replyKind = errand.replyKind := by
  cases errand with
  | opening translucent => rfl
  | request call command => exact fits.1
  | notice command => exact fits
  | closing => rfl

/-- What may lie before a message that is waited for are notices. -/
theorem Errand.Ready.notices {v : View σ φ τ} {errand : Errand σ φ} {before : Mail σ φ}
    (ready : errand.Ready v before) (h : v.running) : Notices before := by
  cases errand with
  | opening translucent => simp [ready.1]
  | request call command => exact ready.1
  | notice command => exact ready.1
  | closing => exact (ready h).1

/-- Where there are messages before, the context is known, and readiness is the same without the
first of them. -/
theorem Errand.Ready.tail {v : View σ φ τ} {errand : Errand σ φ} {m : Nat × Message σ φ}
    {before : Mail σ φ} (ready : errand.Ready v (m :: before)) (running : v.running) :
    v.known ∧ errand.Ready v before := by
  cases errand with
  | opening translucent => simp [Errand.Ready] at ready
  | request call command => exact ⟨ready.2 running, ready.1.tail, ready.2⟩
  | notice command => exact ⟨ready.2 running, ready.1.tail, ready.2⟩
  | closing => exact ⟨(ready running).2, fun r => ⟨(ready r).1.tail, (ready r).2⟩⟩

/-! ### Steps of others -/

theorem Errand.Ready.mono {v v' : View σ φ τ} {errand : Errand σ φ} {before : Mail σ φ}
    (ready : errand.Ready v before) (running : v'.running → v.running)
    (kept : v'.running → v.known → v'.known) (known : v'.known → v.known) :
    errand.Ready v' before := by
  cases errand with
  | opening translucent => exact ⟨ready.1, fun k => ready.2 (known k)⟩
  | request call command => exact ⟨ready.1, fun r => kept r (ready.2 (running r))⟩
  | notice command => exact ⟨ready.1, fun r => kept r (ready.2 (running r))⟩
  | closing => exact fun r => ⟨(ready (running r)).1, kept r (ready (running r)).2⟩

theorem Rest.mono {h : ProxyHandle} {v v' : View σ φ τ} {p : Proxy} (rest : Rest h v p)
    (mail : v'.mail = v.mail) (running : v'.running → v.running)
    (kept : v'.running → v.known → v'.known) (known : v'.known → v.known) : Rest h v' p := by
  cases rest with
  | whole handle life mail₀ known₀ =>
    exact .whole handle life (mail ▸ mail₀) (fun r => kept r (known₀ (running r)))
  | forsaken handle life stopped => exact .forsaken handle life (fun r => stopped (running r))
  | contextless handle life mail₀ unknown =>
    exact .contextless handle life (mail ▸ mail₀) (fun k => unknown (known k))

/-- **What others do leaves a standing as it is**: the thread does not start again, a context does
not come from nowhere, and it does not go while the thread runs. -/
theorem Standing.frame {h : ProxyHandle} {v v' : View σ φ τ} (standing : Standing h v)
    (party : v'.party = v.party) (mail : v'.mail = v.mail) (running : v'.running → v.running)
    (kept : v'.running → v.known → v'.known) (known : v'.known → v.known)
    (journal : v.journal ⊆ v'.journal) : Standing h v' := by
  cases standing with
  | unborn phase mail₀ unknown =>
    exact .unborn (party ▸ phase) (mail ▸ mail₀) (fun k => unknown (known k))
  | idle phase slot rest =>
    exact .idle (party ▸ phase) (party ▸ slot) (party ▸ rest.mono mail running kept known)
  | sending phase vacant life fits ready =>
    exact .sending (party ▸ phase) (party ▸ vacant) (party ▸ life) fits
      (mail ▸ ready.mono running kept known)
  | pending phase vacant life fits awaits mail₀ ready =>
    exact .pending (party ▸ phase) (party ▸ vacant) (party ▸ life) fits awaits (mail ▸ mail₀)
      (ready.mono running kept known)
  | answered phase handle slot life kind mail₀ handled refused known₀ =>
    exact .answered (party ▸ phase) (party ▸ handle) (party ▸ slot) (party ▸ life) kind
      (mail ▸ mail₀) (journal handled) (fun r k => refused r (known k))
      (fun n r => kept r (known₀ n (running r)))
  | lost phase vacant life awaits mail₀ stopped unknown =>
    exact .lost (party ▸ phase) (party ▸ vacant) (party ▸ life) awaits (mail ▸ mail₀)
      (fun r => stopped (running r)) (fun k => unknown (known k))
  | gone phase rest =>
    refine .gone (party ▸ phase) fun r => ?_
    rcases rest (running r) with ⟨before, number, mail₀, notices, known₀⟩ | ⟨mail₀, unknown⟩
    · exact .inl ⟨before, number, mail ▸ mail₀, notices, kept r known₀⟩
    · exact .inr ⟨mail ▸ mail₀, fun k => unknown (known k)⟩

theorem Rest.ended {h : ProxyHandle} {v v' : View σ φ τ} {p : Proxy} (rest : Rest h v p)
    (mail : v'.mail = []) (stopped : ¬v'.running) (unknown : ¬v'.known) : Rest h v' p := by
  cases rest with
  | whole handle life _ _ => exact .whole handle life (by simp [mail]) (fun r => absurd r stopped)
  | forsaken handle life _ => exact .forsaken handle life stopped
  | contextless handle life _ _ => exact .contextless handle life mail unknown

/-- **When the queue goes, a message that is waited for goes with it.** -/
theorem Standing.ended {h : ProxyHandle} {v v' : View σ φ τ} (standing : Standing h v)
    (party : v'.party = v.party) (mail : v'.mail = []) (stopped : ¬v'.running) (unknown : ¬v'.known)
    (journal : v.journal ⊆ v'.journal) : Standing h v' := by
  cases standing with
  | unborn phase _ _ => exact .unborn (party ▸ phase) mail unknown
  | idle phase slot rest =>
    exact .idle (party ▸ phase) (party ▸ slot) (party ▸ rest.ended mail stopped unknown)
  | @sending errand phase vacant life fits _ =>
    refine .sending (party ▸ phase) (party ▸ vacant) (party ▸ life) fits ?_
    cases errand with
    | opening translucent => exact ⟨mail, unknown⟩
    | request call command => exact ⟨by simp [mail], fun r => absurd r stopped⟩
    | notice command => exact ⟨by simp [mail], fun r => absurd r stopped⟩
    | closing => exact fun r => absurd r stopped
  | pending phase vacant life _ awaits _ _ =>
    exact .lost (party ▸ phase) (party ▸ vacant) (party ▸ life) awaits mail stopped unknown
  | answered phase handle slot life kind _ handled _ _ =>
    exact .answered (party ▸ phase) (party ▸ handle) (party ▸ slot) (party ▸ life) kind mail
      (journal handled) (fun _ => unknown) (fun _ r => absurd r stopped)
  | lost phase vacant life awaits _ _ _ =>
    exact .lost (party ▸ phase) (party ▸ vacant) (party ▸ life) awaits mail stopped unknown
  | gone phase _ => exact .gone (party ▸ phase) (fun r => absurd r stopped)

/-! ### Steps of a party itself -/

/-- Of a proxy between calls only the handle and the lifecycle matter. -/
theorem Rest.congr {h : ProxyHandle} {v : View σ φ τ} {p p' : Proxy} (rest : Rest h v p)
    (handle : p'.handle = p.handle) (life : p'.lifecycle = p.lifecycle) : Rest h v p' := by
  cases rest with
  | whole handle₀ life₀ mail known => exact .whole (handle ▸ handle₀) (life ▸ life₀) mail known
  | forsaken handle₀ life₀ stopped => exact .forsaken (handle ▸ handle₀) (life ▸ life₀) stopped
  | contextless handle₀ life₀ mail unknown =>
    exact .contextless (handle ▸ handle₀) (life ▸ life₀) mail unknown

theorem Rest.withParty {h : ProxyHandle} {v : View σ φ τ} {p : Proxy} (rest : Rest h v p)
    {party : Party σ φ} : Rest h { v with party } p :=
  rest.mono rfl id (fun _ k => k) id

/-- A live proxy has its handle, and its context while the thread runs. -/
theorem Rest.of_live {h : ProxyHandle} {v : View σ φ τ} {p : Proxy} (rest : Rest h v p)
    (live : p.lifecycle = .live) : p.handle = h ∧ Notices v.mail ∧ (v.running → v.known) := by
  cases rest with
  | whole handle _ mail known => exact ⟨handle, mail, known⟩
  | forsaken _ life _ => simp [live] at life
  | contextless _ life _ _ => simp [live] at life

theorem Standing.of_idle {h : ProxyHandle} {v : View σ φ τ} (standing : Standing h v)
    (idle : v.party.phase = .idle) : v.party.slot = none ∧ Rest h v v.party.proxy := by
  cases standing <;> simp_all

/-- **A call begins between two calls; only a live proxy sends anything.** -/
theorem Standing.begin {h : ProxyHandle} {v : View σ φ τ} (standing : Standing h v)
    (idle : v.party.phase = .idle) (call : Call σ φ) :
    Standing h { v with party := v.party.begin call } := by
  obtain ⟨slot, rest⟩ := standing.of_idle idle
  have rest' : Rest h v (v.party.proxy.plan call).1 :=
    rest.congr (v.party.proxy.plan_handle call) (v.party.proxy.plan_lifecycle call)
  have life := v.party.proxy.plan_lifecycle call
  have fits := v.party.proxy.plan_fits call
  have live := v.party.proxy.live_of_plan call
  unfold Party.begin
  generalize v.party.proxy.plan call = plan at *
  rcases plan with ⟨p, outcome | ⟨command, outcome⟩ | command⟩
  case answer => exact .idle idle slot rest'.withParty
  case notify =>
    have live : p.lifecycle = .live := life.trans (live (by simp))
    obtain ⟨handle, mail, known⟩ := rest'.of_live live
    exact .sending rfl ⟨handle, slot⟩ (fun _ => live) fits.1 ⟨mail, known⟩
  case ask =>
    have live : p.lifecycle = .live := life.trans (live (by simp))
    obtain ⟨handle, mail, known⟩ := rest'.of_live live
    exact .sending rfl ⟨handle, slot⟩ (fun _ => live) fits ⟨mail, known⟩

theorem Standing.close {h : ProxyHandle} {v : View σ φ τ} (standing : Standing h v)
    (idle : v.party.phase = .idle) (valid : h.isValid) :
    Standing h { v with party := v.party.close } := by
  obtain ⟨slot, rest⟩ := standing.of_idle idle
  cases rest with
  | whole handle life mail known =>
    have announces : v.party.proxy.announcesEnd = true := by
      rcases life with life | life <;> simp [Proxy.announcesEnd, handle, valid, life]
    have phase : v.party.close.phase = .sending .closing := by simp [Party.close, announces]
    exact .sending phase ⟨handle, slot⟩ (fun n => absurd rfl n) trivial (fun r => ⟨mail, known r⟩)
  | forsaken handle life stopped =>
    have announces : v.party.proxy.announcesEnd = true := by
      simp [Proxy.announcesEnd, handle, valid, life]
    have phase : v.party.close.phase = .sending .closing := by simp [Party.close, announces]
    exact .sending phase ⟨handle, slot⟩ (fun n => absurd rfl n) trivial (fun r => absurd r stopped)
  | contextless handle life mail unknown =>
    have announces : v.party.proxy.announcesEnd = false := by
      simp [Proxy.announcesEnd, handle, ProxyHandle.invalid, ProxyHandle.isValid]
    exact .gone (by simp [Party.close, announces]) (fun _ => .inr ⟨mail, unknown⟩)

/-- **A message gets on the queue behind notices alone.** -/
theorem Standing.submitted {h : ProxyHandle} {v : View σ φ τ} {errand : Errand σ φ}
    (standing : Standing h v) (phase : v.party.phase = .sending errand) (number : Nat) :
    Standing h { v with
      party := v.party.submitted number errand
      mail := v.mail ++ [(number, errand.message)] } := by
  cases standing with
  | @sending errand' phase' vacant life fits ready =>
    obtain rfl : errand = errand' := by simpa [phase] using phase'
    cases errand with
    | opening translucent =>
      exact .pending rfl ⟨vacant.handle, vacant.slot⟩ (life (by simp)) fits rfl rfl ready
    | request call command =>
      exact .pending rfl ⟨vacant.handle, vacant.slot⟩ (life (by simp)) fits fits.2 rfl ready
    | notice command =>
      exact .idle rfl vacant.slot (.whole vacant.handle (.inl (life (by simp)))
        (ready.1.snoc fits number) ready.2)
    | closing => exact .gone rfl (fun r => .inl ⟨_, _, rfl, ready r⟩)
  | _ => simp_all

/-- The proxy that a party is left with when nothing more comes from the render thread. -/
theorem Rest.of_none {h : ProxyHandle} {v : View σ φ τ} {p : Proxy} {errand : Errand σ φ}
    (handle : p.handle = h) (life : p.lifecycle = .disabled) (ordinary : errand ≠ .closing)
    (opening : ∀ translucent, errand = .opening translucent → v.mail = [] ∧ ¬v.known)
    (stopped : ¬v.running) : Rest h v (errand.conclude p none) := by
  cases errand with
  | opening translucent =>
    exact .contextless rfl rfl (opening translucent rfl).1 (opening translucent rfl).2
  | request call command =>
    refine .forsaken (by simpa [Errand.conclude] using handle) ?_ stopped
    rcases p.conclude_lifecycle call none with same | ⟨live, _⟩
    · exact same.trans life
    · simp [live] at life
  | notice command => exact .forsaken handle life stopped
  | closing => exact absurd rfl ordinary

theorem Standing.undelivered {h : ProxyHandle} {v : View σ φ τ} {errand : Errand σ φ}
    (standing : Standing h v) (phase : v.party.phase = .sending errand) (mail : v.mail = [])
    (stopped : ¬v.running) (unknown : ¬v.known) :
    Standing h { v with party := v.party.undelivered errand } := by
  cases standing with
  | @sending errand' phase' vacant life fits ready =>
    obtain rfl : errand = errand' := by simpa [phase] using phase'
    by_cases closing : errand = .closing
    · subst closing
      exact .gone rfl (fun r => absurd r stopped)
    · have rest : Rest h v
          (errand.conclude (v.party.proxy.delivered errand.message.name .disconnected).1 none) :=
        .of_none (by simp [Proxy.delivered, vacant.handle])
          (Proxy.disable_lifecycle (life closing) _) closing (fun _ _ => ⟨mail, unknown⟩) stopped
      cases errand with
      | closing => exact absurd rfl closing
      | _ => exact .idle rfl vacant.slot rest.withParty
  | _ => simp_all

/-- **A reply leaves the proxy at rest, with the context that the reply tells of.** -/
theorem Standing.receive {h : ProxyHandle} {v : View σ φ τ} {number : Nat} {errand : Errand σ φ}
    {reply : Reply} (standing : Standing h v) (phase : v.party.phase = .waiting number errand)
    (slot : v.party.slot = some reply) :
    Standing h { v with party := v.party.receive errand reply } := by
  cases standing with
  | @answered number' errand' reply' phase' handle slot' life kind mail handled refused known =>
    obtain ⟨rfl, rfl⟩ : number = number' ∧ errand = errand' := by simpa [phase] using phase'
    obtain rfl : reply = reply' := by simpa [slot] using slot'
    cases errand with
    | opening translucent =>
      cases reply with
      | created result =>
        cases result with
        | ok =>
          exact .idle rfl rfl (.whole handle (.inl life) (by simp [mail])
            (known (by simp [Refusal])))
        | error e => exact .idle rfl rfl (.contextless rfl rfl mail (refused ⟨e, rfl⟩))
      | _ => simp [Errand.replyKind, Reply.kind] at kind
    | request call command =>
      have whole : ¬Refusal reply := by
        rintro ⟨e, rfl⟩
        cases call <;> simp [Errand.replyKind, Call.replyKind, Reply.kind] at kind
      refine .idle rfl rfl (.whole (by simpa [Party.receive, Errand.conclude] using handle) ?_
        (by simp [mail]) (known whole))
      rcases v.party.proxy.conclude_lifecycle call (some reply) with same | ⟨_, destroyed⟩
      · exact .inl (same.trans life)
      · exact .inr destroyed
    | notice command => simp [Errand.replyKind] at kind
    | closing => simp [Errand.replyKind] at kind
  | pending _ vacant => simp [vacant.slot] at slot
  | lost _ vacant => simp [vacant.slot] at slot
  | _ => simp_all

/-- **A proxy whose senders are all gone had a context, and the thread has stopped**; or its message
got lost. -/
theorem Standing.abandon {h : ProxyHandle} {v : View σ φ τ} {number : Nat} {errand : Errand σ φ}
    (standing : Standing h v) (phase : v.party.phase = .waiting number errand)
    (slot : v.party.slot = none) (unknown : ¬v.known)
    (asked : ∀ number translucent, (number, .create translucent) ∉ v.mail) :
    ¬v.running ∧ v.party.proxy.lifecycle = .live ∧
      Standing h { v with party := v.party.abandon errand } := by
  have disabled (p : Proxy) (live : p.lifecycle = .live) : p.abandoned.1.lifecycle = .disabled :=
    Proxy.disable_lifecycle live _
  cases standing with
  | @pending number' errand' before phase' vacant life fits awaits mail ready =>
    obtain ⟨rfl, rfl⟩ : number = number' ∧ errand = errand' := by simpa [phase] using phase'
    cases errand with
    | opening translucent =>
      exact absurd (by simp [mail, Errand.message]) (asked number translucent)
    | request call command =>
      have stopped : ¬v.running := fun r => unknown (ready.2 r)
      have handle : v.party.proxy.abandoned.1.handle = h := by
        simp [Proxy.abandoned, vacant.handle]
      have rest : Rest h v
          ((Errand.request call command).conclude v.party.proxy.abandoned.1 none) :=
        .of_none handle (disabled _ life) (by simp) (by simp) stopped
      exact ⟨stopped, life, .idle rfl slot rest.withParty⟩
    | notice command => simp [Errand.replyKind] at awaits
    | closing => simp [Errand.replyKind] at awaits
  | @lost number' errand' phase' vacant life awaits mail stopped _ =>
    obtain ⟨rfl, rfl⟩ : number = number' ∧ errand = errand' := by simpa [phase] using phase'
    have ordinary : errand ≠ .closing := by
      rintro rfl
      simp [Errand.replyKind] at awaits
    have rest : Rest h v (errand.conclude v.party.proxy.abandoned.1 none) :=
      .of_none (by simp [Proxy.abandoned, vacant.handle]) (disabled _ life) ordinary
        (fun _ _ => ⟨mail, unknown⟩) stopped
    exact ⟨stopped, life, .idle rfl slot rest.withParty⟩
  | answered _ _ slot' => simp [slot] at slot'
  | _ => simp_all

/-! ### What the render thread finds -/

/-- What a running thread finds in the oldest message of a proxy. -/
inductive First (h : ProxyHandle) (v : View σ φ τ) (number : Nat) (rest : Mail σ φ)
    (message : Message σ φ) : Prop
  | notice {command : Command σ φ} (run : message = .run command)
      (kind : command.replyKind = none) (known : v.known)
      (standing : Standing h { v with mail := rest })
  | awaited {errand : Errand σ φ} (sent : message = errand.message)
      (phase : v.party.phase = .waiting number errand) (vacant : Vacant h v.party)
      (life : v.party.proxy.lifecycle = .live) (fits : errand.Fits)
      (awaits : errand.replyKind.isSome) (alone : rest = []) (ready : errand.Ready v [])
  | farewell (dispose : message = .dispose) (phase : v.party.phase = .gone) (alone : rest = [])

namespace First

variable {h : ProxyHandle} {v : View σ φ τ} {number : Nat} {rest : Mail σ φ}

theorem known {command : Command σ φ} (first : First h v number rest (.run command))
    (running : v.running) : v.known := by
  cases first with
  | notice _ _ known => exact known
  | @awaited errand sent _ _ _ _ _ _ ready =>
    cases errand with
    | opening translucent => simp [Errand.message] at sent
    | request call command => exact ready.2 running
    | notice command => exact ready.2 running
    | closing => simp [Errand.message] at sent
  | farewell dispose => simp at dispose

theorem standing {command : Command σ φ} (first : First h v number rest (.run command))
    (unanswered : command.replyKind = none) : Standing h { v with mail := rest } := by
  cases first with
  | notice _ _ _ standing => exact standing
  | awaited sent _ _ _ fits awaits =>
    rw [← fits.replyKind, ← sent] at awaits
    simp [Message.replyKind, unanswered] at awaits
  | farewell dispose => simp at dispose

theorem gone (first : First h v number rest .dispose) : v.party.phase = .gone ∧ rest = [] := by
  cases first with
  | notice run => simp at run
  | @awaited errand sent _ _ _ _ awaits =>
    cases errand <;> simp [Errand.message, Errand.replyKind] at sent awaits
  | farewell _ phase alone => exact ⟨phase, alone⟩

end First

/-- **What the thread finds it can carry out, and whom it must answer waits.** -/
theorem Standing.first {h : ProxyHandle} {v : View σ φ τ} (standing : Standing h v)
    (running : v.running) {number : Nat} {message : Message σ φ} {rest : Mail σ φ}
    (mail : v.mail = (number, message) :: rest) : First h v number rest message := by
  -- Before the last message of a proxy there are only notices.
  have notice {before : Mail σ φ} (notices : Notices ((number, message) :: before))
      (known : v.known) (standing : Standing h { v with mail := rest }) :
      First h v number rest message := by
    obtain ⟨command, run, kind⟩ := notices.head
    exact .notice run kind known standing
  cases standing with
  | unborn _ none => simp [mail] at none
  | idle phase slot resting =>
    cases resting with
    | whole handle life notices known =>
      rw [mail] at notices
      exact notice notices (known running)
        (.idle phase slot (.whole handle life notices.tail known))
    | forsaken _ _ stopped => exact absurd running stopped
    | contextless _ _ none => simp [mail] at none
  | @sending errand phase vacant life fits ready =>
    rw [mail] at ready
    have tail : v.known ∧ errand.Ready v rest := ready.tail running
    exact notice (ready.notices running) tail.1 (.sending phase vacant life fits tail.2)
  | @pending number' errand before phase vacant life fits awaits mail' ready =>
    rcases Mail.split (mail.symm.trans mail') with ⟨rfl, last, rfl⟩ | ⟨before', rfl, rfl⟩
    · obtain ⟨rfl, rfl⟩ := Prod.mk.inj last
      exact .awaited rfl phase vacant life fits awaits rfl ready
    · have tail : v.known ∧ errand.Ready v before' := ready.tail running
      exact notice (ready.notices running) tail.1
        (.pending phase vacant life fits awaits rfl tail.2)
  | answered _ _ _ _ _ none => simp [mail] at none
  | lost _ _ _ _ none => simp [mail] at none
  | gone phase farewell =>
    rcases farewell running with ⟨before, number', mail', notices, known⟩ | ⟨none, -⟩
    · rcases Mail.split (mail.symm.trans mail') with ⟨rfl, last, rfl⟩ | ⟨before', rfl, rfl⟩
      · obtain ⟨rfl, rfl⟩ := Prod.mk.inj last
        exact .farewell rfl phase rfl
      · exact notice notices known
          (.gone phase (fun _ => .inl ⟨before', number', rfl, notices.tail, known⟩))
    · simp [mail] at none

end RenderRelay.Exchange

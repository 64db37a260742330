import RenderRelay.Proofs.Accord.Calls
import RenderRelay.Proofs.Exchange.Protocol

/-!
What is kept of a proxy and its context while calls are under way. Facts that both sides keep, each
for itself, are changed by a call in two places at two times; `Kept` says for each phase of a call
what the two know of each other meanwhile. What becomes of it is said here for each thing that can
happen to one account; `Agreement` puts the steps of the system together from these.
-/

namespace RenderRelay.Exchange

/-! ### Runs -/

section Runs

variable {σ φ τ : Type} {B : Backend σ}

/-- A run of the system: what was seen of its steps, and the state it gets to. -/
inductive Run (H : Host B φ τ) (capacity : Nat) (capabilities : Capabilities) :
    List (Event σ φ) → State B φ τ → Prop
  | start (device : B.Device) (nextLayer : LayerHandle) :
    Run H capacity capabilities [] (.start device nextLayer)
  | step {events : List (Event σ φ)} {s s' : State B φ τ} {event : Event σ φ}
      (run : Run H capacity capabilities events s)
      (step : Step H capacity capabilities s event s') :
    Run H capacity capabilities (events ++ [event]) s'

theorem Run.reachable {H : Host B φ τ} {capacity : Nat} {capabilities : Capabilities}
    {events : List (Event σ φ)} {s : State B φ τ} (run : Run H capacity capabilities events s) :
    Reachable H capacity capabilities s := by
  induction run with
  | start device nextLayer => exact .start device nextLayer
  | step _ step ih => exact ih.step step

/-- A call of this proxy returned that a frame was drawn. -/
def Event.drew (h : ProxyHandle) : Event σ φ → Bool
  | .returns k (.request call _) reply => k = h && call.drew reply
  | _ => false

/-- The render thread carried out a draw for this proxy. -/
def Entry.draws (h : ProxyHandle) (entry : Entry σ φ τ) : Bool :=
  match entry.ticket.envelope with
  | .message k (.run command) => k = h && command.draws
  | _ => false

/-- How many draws the render thread carried out for a proxy. -/
def State.executed (s : State B φ τ) (h : ProxyHandle) : Nat := s.journal.countP (Entry.draws h)

/-- The context that a running thread has for a proxy. -/
def Engine.context? : Engine B φ τ → ProxyHandle → Option (Context B φ)
  | ready loop _, h => loop.contexts.get? h
  | busy loop _ _, h => loop.contexts.get? h
  | _, _ => none

theorem Engine.isSome_context? {engine : Engine B φ τ} (running : engine.Running)
    (h : ProxyHandle) : (engine.context? h).isSome = true ↔ engine.Knows h := by
  cases engine with
  | ready loop d => rfl
  | busy loop d ticket => rfl
  | closing left => exact absurd running id
  | ended => exact absurd running id

theorem Engine.context?_of_stopped {engine : Engine B φ τ} (stopped : ¬engine.Running)
    (h : ProxyHandle) : engine.context? h = none := by
  cases engine with
  | ready loop d => exact absurd trivial stopped
  | busy loop d ticket => exact absurd trivial stopped
  | closing left => rfl
  | ended => rfl

/-! ### Calls under way -/

def Phase.Early : Phase σ φ → Prop
  | unborn => True
  | sending (.opening _) => True
  | waiting _ (.opening _) => True
  | _ => False

/-- A call waits, or is about to, for the answer to a command. -/
def Phase.Asks (phase : Phase σ φ) (call : Call σ φ) (command : Command σ φ) : Prop :=
  phase = .sending (.request call command) ∨
    ∃ number, phase = .waiting number (.request call command)

/-- The proxy as far as the render thread agrees: without a size that may yet be refused, and with
the reply that lies ready. -/
def Party.settled (party : Party σ φ) : Proxy :=
  match party.phase, party.slot with
  | .sending (.request call _), _ => party.proxy.certain call
  | .waiting _ (.request call _), none => party.proxy.certain call
  | .waiting _ errand, some reply => errand.conclude party.proxy (some reply)
  | _, _ => party.proxy

end Runs

open Headless DeviceOp

variable {ω φ τ : Type} {report : LogRecord → ω → ω}
  {invoke : φ → Frame → FunctorInfo → StateM ω (Frame × Completion)}
  {perform : τ → StateM ω Completion} {capacity : Nat} {capabilities : Capabilities}

/-! ### What is kept -/

/-- What the accord of a proxy and its context depends on. -/
structure Account (report : LogRecord → ω → ω) (φ : Type) where
  party : Party Surface φ
  mail : Mail Surface φ
  drawn : Nat
  executed : Nat
  context : Option (Context (backend report) φ)

def State.account (s : State (backend report) φ τ) (events : List (Event Surface φ))
    (h : ProxyHandle) : Account report φ :=
  ⟨s.parties h, s.mail h, events.countP (Event.drew h), s.executed h, s.engine.context? h⟩

/-- **What proxy and context know of each other**, also in the midst of a call. -/
structure Kept (a : Account report φ) : Prop where
  frames : a.party.proxy.frameCount = a.drawn
  unused : a.party.phase.Early →
    a.party.proxy.frameCount = 0 ∧ a.party.proxy.viewport = none ∧ a.executed = 0
  asked : ∀ call command, a.party.phase.Asks call command → command = call.command ∧
    ∀ size, call = .setup size → a.party.proxy.viewport = some size
  blank : a.party.phase ≠ .unborn → a.party.proxy.Blank
  spent : a.party.proxy.lifecycle = .destroyed → a.party.phase ≠ .gone → a.mail = []
  accord : a.party.phase ≠ .gone → ∀ c, a.context = some c →
    Accord a.executed a.party.settled c

namespace Kept

variable {a : Account report φ}

/-- Where the context is gone there is nothing to know of it. -/
theorem lose (kept : Kept a) {mail : Mail Surface φ} (fewer : a.mail = [] → mail = []) :
    Kept (⟨a.party, mail, a.drawn, a.executed, none⟩ : Account report φ) where
  frames := kept.frames
  unused := kept.unused
  asked := kept.asked
  blank := kept.blank
  spent life phase := fewer (kept.spent life phase)
  accord := by simp

theorem settled_of_idle (party : Party Surface φ) (idle : party.phase = .idle) :
    party.settled = party.proxy := by
  simp [Party.settled, idle]

theorem begin (kept : Kept a) (idle : a.party.phase = .idle) (call : Call Surface φ) :
    Kept { a with party := a.party.begin call } := by
  have accord : ∀ c, a.context = some c → Accord a.executed a.party.proxy c := by
    rw [← settled_of_idle _ idle]
    exact kept.accord (by simp [idle])
  have mail := fun life => kept.spent life (by simp [idle])
  have frames := (a.party.proxy.plan_frameCount call).trans kept.frames
  have life := a.party.proxy.plan_lifecycle call
  have proxy := a.party.proxy.plan_proxy call
  have certain := a.party.proxy.certain_plan call
  have blank := (kept.blank (by simp [idle])).plan call
  have command := fun command => @Proxy.plan_ask _ _ a.party.proxy call command
  have noted := fun size command => @Proxy.plan_noted Surface φ a.party.proxy size command
  unfold Party.begin
  rcases planned : a.party.proxy.plan call with ⟨p, outcome | ⟨notice, outcome⟩ | request⟩
  all_goals rw [planned] at frames life proxy certain blank
  -- what is not asked for leaves the proxy as it was
  case answer =>
    obtain rfl : p = a.party.proxy := proxy.resolve_right (by simp)
    refine ⟨kept.frames, by simp [Phase.Early, idle], by simp [Phase.Asks, idle],
      fun _ => blank, ?_, ?_⟩
    · exact fun destroyed _ => mail destroyed
    · intro _ c there
      rw [settled_of_idle { a.party with proxy := a.party.proxy } idle]
      exact accord c there
  case notify =>
    obtain rfl : p = a.party.proxy := proxy.resolve_right (by simp)
    refine ⟨kept.frames, by simp [Phase.Early], by simp [Phase.Asks], fun _ => blank, ?_, ?_⟩
    · exact fun destroyed _ => mail destroyed
    · exact fun _ c there => accord c there
  case ask =>
    refine ⟨frames, by simp [Phase.Early], ?_, fun _ => blank, ?_, ?_⟩
    · rintro call' command' (same | ⟨number, same⟩)
      · obtain ⟨rfl, rfl⟩ : call = call' ∧ request = command' := by simpa using same
        refine ⟨command request (by rw [planned]), ?_⟩
        rintro size rfl
        have size' := noted size request (by rw [planned])
        rwa [planned] at size'
      · simp at same
    · exact fun destroyed _ => mail (life ▸ destroyed)
    · intro _ c there
      change Accord a.executed (p.certain call) c
      rw [certain]
      exact (accord c there).certain call

theorem close (kept : Kept a) (idle : a.party.phase = .idle) :
    Kept { a with party := a.party.close } := by
  have accord : ∀ c, a.context = some c → Accord a.executed a.party.proxy c := by
    rw [← settled_of_idle _ idle]
    exact kept.accord (by simp [idle])
  have mail := fun life => kept.spent life (by simp [idle])
  have blank := kept.blank (by simp [idle])
  unfold Party.close
  split
  · refine ⟨kept.frames, by simp [Phase.Early], by simp [Phase.Asks], fun _ => blank, ?_, ?_⟩
    · exact fun destroyed _ => mail destroyed
    · exact fun _ c there => accord c there
  · exact ⟨kept.frames, by simp [Phase.Early], by simp [Phase.Asks], fun _ => blank, by simp,
      by simp⟩

/-- Nothing is known of a message that got on the queue but that it was sent. -/
theorem submitted (kept : Kept a) {errand : Errand Surface φ}
    (phase : a.party.phase = .sending errand) (empty : a.party.slot = none)
    (live : errand ≠ .closing → a.party.proxy.lifecycle = .live) (number : Nat)
    (mail : Mail Surface φ) :
    Kept { a with party := a.party.submitted number errand, mail } := by
  have accord : ∀ c, a.context = some c → Accord a.executed a.party.settled c :=
    kept.accord (by simp [phase])
  have blank : a.party.proxy.Blank := kept.blank (by simp [phase])
  have spent (open' : errand ≠ .closing) (destroyed : a.party.proxy.lifecycle = .destroyed) :
      mail = [] := by
    simp [live open'] at destroyed
  cases errand with
  | opening translucent =>
    have early : a.party.phase.Early := by simp [phase, Phase.Early]
    refine ⟨kept.frames, fun _ => kept.unused early, by simp [Party.submitted, Phase.Asks],
      fun _ => blank, fun destroyed _ => spent (by simp) destroyed, fun _ c there => ?_⟩
    have same : (a.party.submitted number (.opening translucent)).settled = a.party.settled := by
      simp [Party.settled, Party.submitted, phase, empty]
    exact same ▸ accord c there
  | request call command =>
    refine ⟨kept.frames, by simp [Party.submitted, Phase.Early], ?_, fun _ => blank,
      fun destroyed _ => spent (by simp) destroyed, fun _ c there => ?_⟩
    · rintro call' command' (same | ⟨number, same⟩)
      · simp [Party.submitted] at same
      · obtain ⟨-, rfl, rfl⟩ : _ ∧ call = call' ∧ command = command' := by
          simpa [Party.submitted] using same
        exact kept.asked call command (.inl phase)
    · have same : (a.party.submitted number (.request call command)).settled =
          a.party.settled := by
        simp [Party.settled, Party.submitted, phase, empty]
      exact same ▸ accord c there
  | notice command =>
    refine ⟨kept.frames, by simp [Party.submitted, Phase.Early],
      by simp [Party.submitted, Phase.Asks], fun _ => blank,
      fun destroyed _ => spent (by simp) destroyed, fun _ c there => ?_⟩
    have same : (a.party.submitted number (.notice command)).settled = a.party.settled := by
      simp [Party.settled, Party.submitted, phase]
    exact same ▸ accord c there
  | closing =>
    exact ⟨kept.frames, by simp [Party.submitted, Phase.Early],
      by simp [Party.submitted, Phase.Asks], fun _ => blank, by simp [Party.submitted],
      by simp [Party.submitted]⟩

theorem blank_conclude {p : Proxy} (blank : p.Blank) {errand : Errand Surface φ}
    (reply : Option Reply) : (errand.conclude p reply).Blank := by
  cases errand with
  | opening translucent =>
    simp only [Errand.conclude]
    cases ended : p.opened reply with
    | ok p' => exact (Proxy.opened_ok ended).1 ▸ blank
    | error e => exact fun _ => ⟨rfl, rfl⟩
  | request call command => exact blank.conclude call reply
  | notice command => exact blank
  | closing => exact blank

/-- The reply makes of the proxy what was known of it already. -/
theorem receive (kept : Kept a) {number : Nat} {errand : Errand Surface φ} {reply : Reply}
    (phase : a.party.phase = .waiting number errand) (slot : a.party.slot = some reply)
    (kind : errand.replyKind = some reply.kind) (mail : a.mail = []) (h : ProxyHandle) :
    Kept { a with
      party := a.party.receive errand reply
      drawn := a.drawn + ((Event.returns h errand (some reply)).drew h).toNat } := by
  refine ⟨?_, by simp [Party.receive, Phase.Early], by simp [Party.receive, Phase.Asks],
    fun _ => blank_conclude (kept.blank (by simp [phase])) _, fun _ _ => mail,
    fun _ c there => ?_⟩
  · cases errand with
    | opening translucent =>
      have unused : a.party.proxy.frameCount = 0 := (kept.unused (by simp [phase, Phase.Early])).1
      have none : (Errand.conclude a.party.proxy (.opening translucent : Errand Surface φ)
          (some reply)).frameCount = 0 := by
        simp only [Errand.conclude]
        cases ended : a.party.proxy.opened (some reply) with
        | ok p => exact (Proxy.opened_ok ended).1 ▸ unused
        | error e => rfl
      simpa [Party.receive, Event.drew, none, unused] using kept.frames
    | request call command =>
      simp [Party.receive, Event.drew, Errand.conclude, Proxy.conclude_frameCount, kept.frames]
    | notice command => simp [Errand.replyKind] at kind
    | closing => simp [Errand.replyKind] at kind
  · have accord := kept.accord (by simp [phase]) c there
    rw [settled_of_idle _ rfl]
    have same : a.party.settled = errand.conclude a.party.proxy (some reply) := by
      simp only [Party.settled, phase, slot]
    rwa [same] at accord

theorem frameCount_conclude_none {p : Proxy} {errand : Errand Surface φ}
    (unused : ∀ translucent, errand = .opening translucent → p.frameCount = 0) :
    (errand.conclude p none).frameCount = p.frameCount := by
  cases errand with
  | opening translucent => exact (unused translucent rfl).symm
  | request call command => simp [Errand.conclude, Proxy.conclude_frameCount, Call.drew]
  | notice command => rfl
  | closing => rfl

theorem frames_of_none (kept : Kept a) {p : Proxy} {errand : Errand Surface φ}
    (phase : a.party.phase = .sending errand ∨ ∃ number, a.party.phase = .waiting number errand)
    (same : p.frameCount = a.party.proxy.frameCount) :
    (errand.conclude p none).frameCount = a.drawn := by
  rw [frameCount_conclude_none, same, kept.frames]
  rintro translucent rfl
  rw [same]
  refine (kept.unused ?_).1
  rcases phase with phase | ⟨number, phase⟩ <;> simp [phase, Phase.Early]

theorem undelivered (kept : Kept a) {errand : Errand Surface φ}
    (phase : a.party.phase = .sending errand) (mail : a.mail = []) :
    Kept (⟨a.party.undelivered errand, a.mail, a.drawn, a.executed, none⟩ : Account report φ) := by
  have blank : a.party.proxy.Blank := kept.blank (by simp [phase])
  by_cases closing : errand = .closing
  · subst closing
    exact ⟨kept.frames, by simp [Party.undelivered, Phase.Early],
      by simp [Party.undelivered, Phase.Asks], fun _ => blank, fun _ _ => mail, by simp⟩
  · have told : a.party.undelivered errand = { a.party with
        proxy := errand.conclude
          (a.party.proxy.delivered errand.message.name .disconnected).1 none
        phase := .idle } := by
      cases errand <;> first | rfl | exact absurd rfl closing
    rw [told]
    refine ⟨kept.frames_of_none (.inl phase) ?_, by simp [Phase.Early], by simp [Phase.Asks],
      fun _ => blank_conclude (blank.disable _) _, fun _ _ => mail, by simp⟩
    simp [Proxy.delivered]

theorem abandon (kept : Kept a) {number : Nat} {errand : Errand Surface φ}
    (phase : a.party.phase = .waiting number errand) (live : a.party.proxy.lifecycle = .live) :
    Kept (⟨a.party.abandon errand, a.mail, a.drawn, a.executed, none⟩ : Account report φ) := by
  have disabled : (errand.conclude a.party.proxy.abandoned.1 none).lifecycle = .disabled :=
    errand.conclude_none_lifecycle (Proxy.disable_lifecycle live _)
  refine ⟨kept.frames_of_none (.inr ⟨number, phase⟩) (by simp [Proxy.abandoned]),
    by simp [Party.abandon, Phase.Early], by simp [Party.abandon, Phase.Asks],
    fun _ => blank_conclude ((kept.blank (by simp [phase])).disable _) _, fun life _ => ?_,
    by simp⟩
  simp [Party.abandon, disabled] at life

/-! ### The render thread -/

theorem lifecycle_settled {party : Party Surface φ} (empty : party.slot = none) :
    party.settled.lifecycle = party.proxy.lifecycle := by
  unfold Party.settled
  split <;> simp_all

theorem noticed (kept : Kept a) {command : Command Surface φ} {reply : Option Reply}
    {c c' : Context (backend report) φ} (there : a.context = some c)
    (booked : Booked c command reply c') (unasked : command.replyKind = none)
    (unanswered : reply = none) (started : ¬a.party.phase.Early) (waits : a.mail ≠ [])
    (empty : a.party.slot = none) (mail : Mail Surface φ) :
    Kept { a with mail, context := some c' } := by
  refine ⟨kept.frames, fun early => absurd early started, kept.asked, kept.blank,
    fun destroyed phase => absurd (kept.spent destroyed phase) waits, ?_⟩
  rintro phase found ⟨rfl⟩
  have accord := kept.accord phase c there
  -- a proxy that was destroyed sent nothing after that
  have undestroyed : a.party.settled.lifecycle ≠ .destroyed := by
    rw [lifecycle_settled empty]
    exact fun destroyed => waits (kept.spent destroyed phase)
  have live := accord.life.resolve_right undestroyed
  exact accord.noticed booked unasked unanswered (accord.live.2 live)

theorem answered (kept : Kept a) {number : Nat} {call : Call Surface φ}
    {command : Command Surface φ} {reply : Reply} {c c' : Context (backend report) φ}
    (phase : a.party.phase = .waiting number (.request call command))
    (live : a.party.proxy.lifecycle = .live) (empty : a.party.slot = none)
    (there : a.context = some c) (booked : Booked c command (some reply) c')
    (kind : command.replyKind = some reply.kind) :
    Kept { a with
      party := { a.party with slot := some reply }
      mail := []
      executed := a.executed + command.draws.toNat
      context := some c' } := by
  obtain ⟨rfl, noted⟩ := kept.asked call command (.inr ⟨number, phase⟩)
  refine ⟨kept.frames, by simp [phase, Phase.Early], kept.asked, kept.blank, fun _ _ => rfl, ?_⟩
  rintro - found ⟨rfl⟩
  have before : a.party.settled = a.party.proxy.certain call := by
    simp only [Party.settled, phase, empty]
  have after : Party.settled { a.party with slot := some reply } =
      (a.party.proxy.conclude call (some reply)).1 := by
    simp only [Party.settled, phase, Errand.conclude]
  have accord := kept.accord (by simp [phase]) c there
  rw [before] at accord
  rw [after]
  exact accord.concluded live noted booked kind

theorem opened (kept : Kept a) {number : Nat} {translucent : Bool} {reply : Reply}
    {context : Option (Context (backend report) φ)}
    (phase : a.party.phase = .waiting number (.opening translucent))
    (made : ∀ c, context = some c → reply = .created (.ok ()) ∧ Accord 0 a.party.proxy c) :
    Kept { a with party := { a.party with slot := some reply }, mail := [], context } := by
  have early : a.party.phase.Early := by simp [phase, Phase.Early]
  refine ⟨kept.frames, fun _ => kept.unused early, kept.asked, kept.blank, fun _ _ => rfl, ?_⟩
  intro _ c there
  obtain ⟨rfl, accord⟩ := made c there
  have after : Party.settled { a.party with slot := some (.created (.ok ())) } =
      a.party.proxy := by
    simp only [Party.settled, phase, Errand.conclude, Proxy.opened]
  rw [after]
  have unused : a.executed = 0 := (kept.unused early).2.2
  exact unused ▸ accord

theorem ended (kept : Kept a) (phase : a.party.phase = .gone) (mail : Mail Surface φ)
    (executed : Nat) (context : Option (Context (backend report) φ)) :
    Kept { a with mail, executed, context } :=
  ⟨kept.frames, by simp [phase, Phase.Early], kept.asked, kept.blank,
    fun _ open' => absurd phase open', fun open' => absurd phase open'⟩

end Kept

end RenderRelay.Exchange

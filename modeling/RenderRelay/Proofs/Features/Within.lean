import RenderRelay.Proofs.Chronicle.Recorded
import RenderRelay.Proofs.Features.Gate
import RenderRelay.Proofs.Layers.ReadBack

/-!
What a thread keeps is within the features that its proxies know of: what they send fits these
(`Command.fits`), a command that fits leaves a registry within them (`dispatch_within`), and what
such commands keep holds of every context in every course (`Course.gated`). So no context has a
callback without functors, and none a layer without layers.
-/

namespace RenderRelay

open DeviceOp

variable {σ φ τ : Type}

/-! ### Registries -/

theorem Table.entries_eq_nil_iff {κ α : Type} [DecidableEq κ] {t : Table κ α} :
    t.entries = [] ↔ ∀ k, t.get? k = none := by
  constructor
  · intro none k
    rw [get?, none, find?]
  · intro none
    refine List.eq_nil_iff_forall_not_mem.2 fun entry mem => ?_
    exact Option.some_ne_none entry.2 ((get?_of_mem mem).symm.trans (none entry.1))

/-- Nothing is kept that needs features which are not there. -/
structure Registry.Within {Layer : Type} (features : Capabilities) (r : Registry Layer φ) :
    Prop where
  functors : features.functors = false → r.functors.entries = []
  layers : features.layers = false → r.layers.entries = [] ∧ r.pending = []

/-- The same of what a registry holds, apart from the pixels of its layers. -/
structure Inventory.Within (features : Capabilities) (i : Inventory φ) : Prop where
  functors : features.functors = false → ∀ id, i.callbacks id = none
  layers : features.layers = false → (∀ handle, i.sizes handle = none) ∧ i.waiting = []

theorem Registry.within_iff {Layer : Type} {features : Capabilities} {r : Registry Layer φ} :
    r.Within features ↔ r.inventory.Within features := by
  constructor
  · rintro ⟨functors, layers⟩
    refine ⟨fun none => Table.entries_eq_nil_iff.1 (functors none), fun none => ?_⟩
    refine ⟨fun handle => ?_, (layers none).2⟩
    simp [inventory, Table.entries_eq_nil_iff.1 (layers none).1]
  · rintro ⟨functors, layers⟩
    refine ⟨fun none => Table.entries_eq_nil_iff.2 (functors none), fun none => ?_⟩
    refine ⟨Table.entries_eq_nil_iff.2 fun handle => ?_, (layers none).2⟩
    simpa [inventory] using (layers none).1 handle

namespace Inventory

variable {features : Capabilities} {i : Inventory φ}

theorem Within.empty : (Inventory.empty : Inventory φ).Within features :=
  ⟨fun _ _ => rfl, fun _ => ⟨fun _ => rfl, rfl⟩⟩

/-- **A command that fits adds nothing that needs other features.** -/
theorem Within.after (within : i.Within features) {act : Act σ φ}
    (fits : act.1.fits features = true) : (i.after act).Within features := by
  obtain ⟨command, reply⟩ := act
  obtain ⟨functors, layers⟩ := within
  cases command with
  | attachFunctor functor =>
    refine ⟨fun none => ?_, layers⟩
    simp [Command.fits, none] at fits
  | detachFunctor id =>
    refine ⟨fun none other => ?_, layers⟩
    by_cases same : other = id
    · simp [Inventory.after, same]
    · simp [Inventory.after, same, functors none]
  | createLayer size =>
    simp only [Inventory.after]
    split
    · exact ⟨functors, fun none => by simp [Command.fits, none] at fits⟩
    · exact ⟨functors, layers⟩
  | pushLayerUpdate handle list =>
    simp only [Inventory.after]
    split
    · exact ⟨functors, fun none => by simp [Command.fits, none] at fits⟩
    · exact ⟨functors, layers⟩
  | destroyLayer handle =>
    simp only [Inventory.after]
    split
    · exact ⟨functors, fun none => by simp [Command.fits, none] at fits⟩
    · exact ⟨functors, layers⟩
  | draw => exact ⟨functors, fun none => ⟨(layers none).1, rfl⟩⟩
  | repeatLastDraw =>
    refine ⟨functors, fun none => ⟨(layers none).1, ?_⟩⟩
    simp [Inventory.after, (layers none).2]
  | flushLayerUpdates => exact ⟨functors, fun none => ⟨(layers none).1, rfl⟩⟩
  | copyLayer => exact ⟨functors, fun none => ⟨(layers none).1, rfl⟩⟩
  | destroy full =>
    cases full with
    | true => exact .empty
    | false => exact ⟨functors, layers⟩
  | _ => exact ⟨functors, layers⟩

end Inventory

section Contexts

variable {B : Backend σ} (H : Host B φ τ) {features : Capabilities}

theorem Context.dispatch_within {c : Context B φ} (within : c.registry.Within features)
    (fresh : LayerHandle) {command : Command σ φ} (fits : command.fits features = true)
    (d : B.Device) :
    (c.dispatch H fresh command).Ensures d fun r _ => r.2.registry.Within features := by
  refine (dispatch_inventory H c fresh command d).mono fun r d' same => ?_
  rw [Registry.within_iff, same]
  exact (Registry.within_iff.1 within).after fits

/-- What holds of new contexts and is kept by every command that fits the features. -/
structure Steadfast (features : Capabilities) (P : Context B φ → Prop) : Prop where
  made : ∀ h translucent canvas d d',
    (B.createCanvas translucent).runOn d = (.ok (.ok canvas), d') → P (.ofCanvas h canvas)
  obeyed : ∀ c fresh command d, P c → command.fits features = true →
    (c.dispatch H fresh command).Ensures d fun r _ => P r.2

theorem steadfast_within :
    Steadfast H features fun c => c.registry.Within features where
  made _ _ _ _ _ _ := Registry.within_iff.2 .empty
  obeyed _ fresh _ d within fits := Context.dispatch_within H within fresh fits d

end Contexts

/-! ### Threads -/

def Message.fits (features : Capabilities) : Message σ φ → Bool
  | .run command => command.fits features
  | _ => true

def Envelope.fits (features : Capabilities) : Envelope σ φ τ → Bool
  | .message _ sent => sent.fits features
  | .task _ => true
  | .shutdown => true

section Threads

variable {B : Backend σ} {H : Host B φ τ} {features : Capabilities} {P : Context B φ → Prop}

def RenderLoop.All (P : Context B φ → Prop) (contexts : Table ProxyHandle (Context B φ)) : Prop :=
  ∀ h c, contexts.get? h = some c → P c

theorem Steadfast.serves (steadfast : Steadfast H features P) {loop loop' : RenderLoop B φ}
    {envelope : Envelope σ φ τ} {ack : Option Acknowledgement}
    (all : RenderLoop.All P loop.contexts) (fits : envelope.fits features = true)
    (serves : loop.Serves H envelope (.next loop' ack)) : RenderLoop.All P loop'.contexts := by
  -- one context at most is another
  have put {k : ProxyHandle} {c : Context B φ} (holds : P c) :
      RenderLoop.All P (loop.contexts.insert k c) := by
    intro h c' there
    rw [Table.get?_insert] at there
    split at there
    · exact Option.some.inj there ▸ holds
    · exact all h c' there
  cases serves with
  | made run => exact put (steadfast.made _ _ _ _ _ run)
  | obeyed there run => exact put (steadfast.obeyed _ _ _ _ (all _ _ there) fits _ _ run)
  | @disposed k =>
    intro h c there
    simp only [Table.get?_erase] at there
    split at there
    · simp at there
    · exact all h c there
  | _ => exact all

end Threads

namespace Exchange

variable {B : Backend σ} {H : Host B φ τ} {capacity : Nat} {features : Capabilities}
  {P : Context B φ → Prop} {s s' : State B φ τ} {event : Event σ φ}

/-- The contexts that there are, those of a thread that stops included. -/
def Engine.contexts : Engine B φ τ → Table ProxyHandle (Context B φ)
  | ready loop _ => loop.contexts
  | busy loop _ _ => loop.contexts
  | closing left => left
  | ended => .empty

theorem Party.begin_fits {party : Party σ φ} (idle : party.phase = .idle) (call : Call σ φ)
    (errand : Errand σ φ) (phase : (party.begin call).phase = .sending errand) :
    errand.message.fits party.proxy.capabilities = true := by
  unfold Party.begin at phase
  split at phase
  case h_1 => simp [idle] at phase
  case h_2 p command outcome planned =>
    obtain rfl := Phase.sending.inj phase
    exact Proxy.Sends.fits (.inr ⟨outcome, congrArg Prod.snd planned⟩)
  case h_3 p command planned =>
    obtain rfl := Phase.sending.inj phase
    exact Proxy.Sends.fits (.inl (congrArg Prod.snd planned))

/-- Everything that is under way fits the features, and something holds of every context. -/
structure State.Gated (features : Capabilities) (P : Context B φ → Prop) (s : State B φ τ) :
    Prop where
  sending : ∀ h errand, (s.parties h).phase = .sending errand →
    errand.message.fits features = true
  pending : ∀ ticket ∈ s.pending, ticket.envelope.fits features = true
  contexts : RenderLoop.All P s.engine.contexts

namespace State.Gated

theorem start (device : B.Device) (nextLayer : LayerHandle) :
    (State.start device nextLayer : State B φ τ).Gated features P where
  sending h errand phase := by simp [State.start] at phase
  pending ticket mem := by simp [State.start, State.pending, Engine.inHand] at mem
  contexts h c there := by simp [State.start, Engine.contexts, RenderLoop.start] at there

theorem sending_update (gated : s.Gated features P) {k : ProxyHandle} {party : Party σ φ}
    (fits : ∀ errand, party.phase = .sending errand → errand.message.fits features = true) :
    ∀ h errand, (Function.update s.parties k party h).phase = .sending errand →
      errand.message.fits features = true :=
  (Function.forall_update_iff s.parties fun _ party =>
    ∀ errand, party.phase = .sending errand → errand.message.fits features = true).2
    ⟨fits, fun h _ => gated.sending h⟩

theorem pending_push (gated : s.Gated features P) {envelope : Envelope σ φ τ}
    (fits : envelope.fits features = true) :
    ∀ ticket ∈ (s.push envelope).pending, ticket.envelope.fits features = true := by
  intro ticket mem
  have pending : (s.push envelope).pending = s.pending ++ [⟨s.issued, envelope⟩] :=
    (List.append_assoc ..).symm
  rw [pending, List.mem_append, List.mem_singleton] at mem
  rcases mem with before | rfl
  · exact gated.pending ticket before
  · exact fits

/-- What was in hand is done, and the thread goes on with these contexts. -/
theorem handled (gated : s.Gated features P) {engine : Engine B φ τ} {ticket : Ticket σ φ τ}
    {answer : Option Acknowledgement} (free : engine.inHand = [])
    (contexts : RenderLoop.All P engine.contexts) :
    (s.handled engine ticket answer).Gated features P where
  sending := gated.sending
  pending later mem := by
    rw [State.pending, State.handled, free, List.nil_append] at mem
    exact gated.pending later (List.mem_append_right _ mem)
  contexts := contexts

theorem ended (gated : s.Gated features P) : s.ended.Gated features P where
  sending := gated.sending
  pending ticket mem := by simp [State.ended, State.pending, Engine.inHand] at mem
  contexts h c there := by simp [State.ended, Engine.contexts] at there

/-- **Every step keeps to the features that the proxies know of.** -/
theorem step (steadfast : Steadfast H features P) (gated : s.Gated features P)
    (equipped : s.Equipped features)
    (step : Step H capacity features s event s') : s'.Gated features P := by
  have inHand {loop : RenderLoop B φ} {d : B.Device} {ticket : Ticket σ φ τ}
      (busy : s.engine = .busy loop d ticket) :
      RenderLoop.All P loop.contexts ∧ ticket.envelope.fits features = true := by
    refine ⟨?_, gated.pending ticket ?_⟩
    · simpa [busy, Engine.contexts] using gated.contexts
    · simp [State.pending, busy, Engine.inHand]
  cases step with
  | opens translucent =>
    refine ⟨gated.sending_update fun errand phase => ?_, gated.pending, gated.contexts⟩
    obtain rfl := Phase.sending.inj phase
    rfl
  | @calls k call idle =>
    refine ⟨gated.sending_update fun errand phase => ?_, gated.pending, gated.contexts⟩
    rw [← equipped k (by simp [idle])]
    exact Party.begin_fits idle call errand phase
  | @closes k idle =>
    refine ⟨gated.sending_update fun errand phase => ?_, gated.pending, gated.contexts⟩
    unfold Party.close at phase
    simp only at phase
    split at phase
    · obtain rfl := Phase.sending.inj phase
      rfl
    · simp at phase
  | @submits k errand phase =>
    refine ⟨gated.sending_update fun errand' later => ?_,
      gated.pending_push (gated.sending k errand phase), gated.contexts⟩
    cases errand <;> simp [Party.submitted] at later
  | @fails k errand phase =>
    refine ⟨gated.sending_update fun errand' later => ?_, gated.pending, gated.contexts⟩
    cases errand <;> simp [Party.undelivered] at later
  | receives =>
    exact ⟨gated.sending_update fun errand' later => by simp [Party.receive] at later,
      gated.pending, gated.contexts⟩
  | abandons =>
    exact ⟨gated.sending_update fun errand' later => by simp [Party.abandon] at later,
      gated.pending, gated.contexts⟩
  | posts task => exact ⟨gated.sending, gated.pending_push rfl, gated.contexts⟩
  | shutsDown => exact ⟨gated.sending, gated.pending_push rfl, gated.contexts⟩
  | takes ready queue =>
    refine ⟨gated.sending, fun ticket mem => gated.pending ticket ?_, ?_⟩
    · simpa [State.pending, ready, queue, Engine.inHand] using mem
    · simpa [ready, Engine.contexts] using gated.contexts
  | serves busy served =>
    obtain ⟨all, fits⟩ := inHand busy
    have serves := RenderLoop.serve_serves _ _ _ _ _ _ served
    exact gated.handled rfl (steadfast.serves all fits serves)
  | @answers loop loop' d d' ticket ack busy served =>
    obtain ⟨all, fits⟩ := inHand busy
    have serves := RenderLoop.serve_serves _ _ _ _ _ _ served
    have handled : (s.handled (.ready loop' d') ticket (some ack)).Gated features P :=
      gated.handled rfl (steadfast.serves all fits serves)
    obtain ⟨slot, offered⟩ := (s.parties ack.handle).offer_eq ack.reply
    refine ⟨handled.sending_update fun errand phase => ?_, handled.pending, handled.contexts⟩
    rw [offered] at phase
    exact gated.sending _ errand phase
  | stops busy => exact gated.handled rfl (inHand busy).1
  | dies => exact gated.ended
  | @releases left h closing =>
    refine ⟨gated.sending, ?_, fun k c there => ?_⟩
    · simpa [State.pending, closing, Engine.inHand] using gated.pending
    · simp only [Engine.contexts, Table.get?_erase] at there
      split at there
      · simp at there
      · exact gated.contexts k c (by simpa [closing, Engine.contexts] using there)
  | disconnects => exact gated.ended

end State.Gated

/-- **In every course all that is under way fits the thread's features**, and what commands that
fit keep of contexts holds of all that there are. -/
theorem Course.gated {ω : Type} {report : LogRecord → ω → ω}
    {H : Host (Headless.backend report) φ τ} {config : Headless.Config}
    {log : Submissions Surface φ} {s : State (Headless.backend report) φ τ}
    {P : Context (Headless.backend report) φ → Prop}
    (steadfast : Steadfast H config.capabilities P) (course : Course H capacity config log s) :
    s.Gated config.capabilities P := by
  induction course with
  | start device nextLayer => exact .start _ nextLayer
  | step course step _ ih => exact State.Gated.step steadfast ih course.equipped step
  | @elsewhere log s course others gallery outside ih =>
    refine ⟨ih.sending, ?_, ?_⟩
    · rw [State.pending_elsewhere]
      exact ih.pending
    · have contexts : (s.elsewhere others gallery outside).engine.contexts = s.engine.contexts := by
        obtain ⟨handles, issued, parties, queue, engine, journal⟩ := s
        cases engine <;> rfl
      exact contexts ▸ ih.contexts

end Exchange

end RenderRelay

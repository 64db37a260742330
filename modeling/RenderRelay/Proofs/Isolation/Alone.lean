import RenderRelay.Proofs.Isolation.Apart

/-!
A proxy alone. The envelopes of one proxy, taken out of the work of a thread that serves many, are
answered by a thread of their own as they were among the others, under other names for the layers
(`serveAll_alone`): those that the proxy made are counted on from the first, and whatever else it
names stays a name of nothing.
-/

namespace RenderRelay

open DeviceOp

variable {σ ω φ τ π : Type}

/-! ### One proxy's part -/

/-- The envelope on a thread of the proxy's own, if it is the proxy's. -/
def Turn.alone? (h : ProxyHandle) (ρ : LayerHandle → LayerHandle) (turn : Turn σ φ τ) :
    Option (Turn σ φ τ) :=
  match turn.envelope with
  | .message k m => if k = h then some ⟨0, .message h (m.rename ρ)⟩ else none
  | _ => none

/-- The envelopes of one proxy, under other names for the layers. -/
def Turn.alone (h : ProxyHandle) (ρ : LayerHandle → LayerHandle) (turns : List (Turn σ φ τ)) :
    List (Turn σ φ τ) :=
  turns.filterMap (Turn.alone? h ρ)

theorem Turn.alone_own {h : ProxyHandle} {ρ : LayerHandle → LayerHandle} {turn : Turn σ φ τ}
    {m : Message σ φ} (own : turn.envelope = .message h m) (rest : List (Turn σ φ τ)) :
    Turn.alone h ρ (turn :: rest) = ⟨0, .message h (m.rename ρ)⟩ :: Turn.alone h ρ rest := by
  simp [Turn.alone, Turn.alone?, own]

theorem Turn.alone_other {h k : ProxyHandle} {ρ : LayerHandle → LayerHandle} {turn : Turn σ φ τ}
    {m : Message σ φ} (message : turn.envelope = .message k m) (other : k ≠ h)
    (rest : List (Turn σ φ τ)) : Turn.alone h ρ (turn :: rest) = Turn.alone h ρ rest := by
  simp [Turn.alone, Turn.alone?, message, other]

theorem Envelope.created?_rename (h : ProxyHandle) (ρ : LayerHandle → LayerHandle)
    (m : Message σ φ) :
    (Envelope.message h (m.rename ρ) : Envelope σ φ τ).created? =
      (Envelope.message h m : Envelope σ φ τ).created? := by
  cases m <;> rfl

/-- What was answered to a proxy, under other names for the layers. -/
def Acknowledgement.alone (h : ProxyHandle) (ρ : LayerHandle → LayerHandle)
    (acks : List Acknowledgement) : List Acknowledgement :=
  (acks.filter (·.handle = h)).map (Acknowledgement.rename ρ)

theorem Acknowledgement.alone_own {h : ProxyHandle} {ρ : LayerHandle → LayerHandle}
    {ack : Option Acknowledgement} (own : ∀ a, ack = some a → a.handle = h)
    (rest : List Acknowledgement) :
    alone h ρ (ack.toList ++ rest) =
      (ack.map (Acknowledgement.rename ρ)).toList ++ alone h ρ rest := by
  cases ack with
  | none => rfl
  | some a => simp [alone, own a rfl]

theorem Acknowledgement.alone_other {h : ProxyHandle} {ρ : LayerHandle → LayerHandle}
    {ack : Option Acknowledgement} (other : ∀ a, ack = some a → a.handle ≠ h)
    (rest : List Acknowledgement) : alone h ρ (ack.toList ++ rest) = alone h ρ rest := by
  cases ack with
  | none => rfl
  | some a => simp [alone, other a rfl]

/-- The layers that a proxy was told of, oldest first. -/
def Acknowledgement.layersOf (h : ProxyHandle) (acks : List Acknowledgement) : List LayerHandle :=
  (issued acks).filterMap fun e => if e.1 = h then some e.2 else none

/-- The names become the next ones, one after the other. -/
def Consecutive (ρ : LayerHandle → LayerHandle) : LayerHandle → List LayerHandle → Prop
  | _, [] => True
  | next, handle :: rest => ρ handle = next ∧ Consecutive ρ next.next rest

section Names

variable {h : ProxyHandle} {ack : Option Acknowledgement} {rest : List Acknowledgement}

theorem Acknowledgement.layersOf_own (own : ∀ a, ack = some a → a.handle = h) :
    layersOf h (ack.toList ++ rest) =
      (Reply.made (ack.map (·.reply))).toList ++ layersOf h rest := by
  cases ack with
  | none => rfl
  | some a =>
    obtain ⟨k, reply⟩ := a
    obtain rfl : k = h := own _ rfl
    unfold layersOf
    rw [issued_append, List.filterMap_append]
    have told := issued_reply k (some reply)
    rw [Option.map_some] at told
    rw [told]
    simp only [Option.map_some]
    cases Reply.made (some reply) <;> simp

theorem Acknowledgement.layersOf_other (other : ∀ a, ack = some a → a.handle ≠ h) :
    layersOf h (ack.toList ++ rest) = layersOf h rest := by
  cases ack with
  | none => rfl
  | some a =>
    obtain ⟨k, reply⟩ := a
    have different : k ≠ h := other _ rfl
    unfold layersOf
    rw [issued_append, List.filterMap_append]
    have told := issued_reply k (some reply)
    rw [Option.map_some] at told
    rw [told]
    cases Reply.made (some reply) <;> simp [different]

theorem Acknowledgement.layersOf_nodup (h : ProxyHandle) {acks : List Acknowledgement}
    (nodup : ((issued acks).map Prod.snd).Nodup) : (layersOf h acks).Nodup := by
  refine nodup.sublist ?_
  unfold layersOf
  generalize issued acks = told
  induction told with
  | nil => exact .slnil
  | cons e rest ih =>
    by_cases own : e.1 = h
    · simpa [own] using ih
    · simpa [own] using ih.cons e.2

theorem Consecutive.of_reply {ρ : LayerHandle → LayerHandle} {next : LayerHandle}
    {reply : Option Reply} {layers : List LayerHandle}
    (consecutive : Consecutive ρ next ((Reply.made reply).toList ++ layers)) :
    (∀ handle, Reply.made reply = some handle → ρ handle = next) ∧
      Consecutive ρ (RenderLoop.layerAfter next reply) layers := by
  cases made : Reply.made reply with
  | none =>
    have same : RenderLoop.layerAfter next reply = next := by
      unfold RenderLoop.layerAfter
      split
      · simp [Reply.made] at made
      · rfl
    rw [made] at consecutive
    refine ⟨by simp, ?_⟩
    rw [same]
    exact consecutive
  | some handle =>
    rw [made] at consecutive
    refine ⟨fun _ same => Option.some.inj same ▸ consecutive.1, ?_⟩
    rw [RenderLoop.layerAfter_of_made made]
    exact consecutive.2

end Names

/-! ### Names for a thread of its own -/

/-- The layers of a proxy are counted on from the next one; all others have later names. -/
def nameAlone (next : LayerHandle) (layers : List LayerHandle) (handle : LayerHandle) :
    LayerHandle :=
  if handle ∈ layers then ⟨next.number + layers.idxOf handle⟩
  else ⟨next.number + layers.length + handle.number⟩

theorem nameAlone_injective (next : LayerHandle) (layers : List LayerHandle) :
    Function.Injective (nameAlone next layers) := by
  intro a b same
  unfold nameAlone at same
  split at same <;> split at same <;> simp only [LayerHandle.mk.injEq] at same
  case isTrue.isTrue ha hb => exact (List.idxOf_inj ha).1 (Nat.add_left_cancel same)
  case isTrue.isFalse ha hb =>
    have := List.idxOf_lt_length_of_mem ha
    omega
  case isFalse.isTrue ha hb =>
    have := List.idxOf_lt_length_of_mem hb
    omega
  case isFalse.isFalse =>
    have equal : a.number = b.number := by omega
    exact congrArg LayerHandle.mk equal

theorem nameAlone_consecutive (next : LayerHandle) {layers : List LayerHandle}
    (nodup : layers.Nodup) : Consecutive (nameAlone next layers) next layers := by
  -- the layers of the list from some place on
  have later (before rest : List LayerHandle) (split : layers = before ++ rest) :
      Consecutive (nameAlone next layers) ⟨next.number + before.length⟩ rest := by
    induction rest generalizing before with
    | nil => trivial
    | cons handle rest ih =>
      refine ⟨?_, ?_⟩
      · have new : handle ∉ before := by
          rw [split] at nodup
          exact fun mem => (List.nodup_append.1 nodup).2.2 _ mem _ (.head _) rfl
        unfold nameAlone
        rw [if_pos (by simp [split]), split, List.idxOf_append_of_notMem new]
        simp
      · have counted := ih (before ++ [handle]) (by simp [split])
        simpa [LayerHandle.next, Nat.add_assoc] using counted
  exact later [] layers rfl

namespace Headless

variable {report : LogRecord → ω → ω}
  {invoke : φ → Frame → FunctorInfo → StateM ω (Frame × Completion)}
  {perform : τ → StateM ω Completion}

namespace Domain

/-- What proxies send. The proxy of a domain keeps to it, the others keep out of it. -/
structure Keeps (D : Domain report invoke π) (turns : List (Turn Surface φ τ)) : Prop where
  messages : ∀ turn ∈ turns, ∃ k m, turn.envelope = .message k m
  binds : ∀ turn ∈ turns, ∀ k command, turn.envelope = .message k (.run command) →
    ∀ s, command.Binds s → (D.mine s.number ↔ k = D.proxy)
  attaches : ∀ turn ∈ turns, ∀ command, turn.envelope = .message D.proxy (.run command) →
    ∀ f, command.Attaches f → Confined invoke D.part f
  spares : ∀ turn ∈ turns, ∀ k command, turn.envelope = .message k (.run command) →
    k ≠ D.proxy → ∀ f, command.Attaches f → Sparing invoke D.part f

variable {D : Domain report invoke π}

theorem Keeps.tail {turn : Turn Surface φ τ} {rest : List (Turn Surface φ τ)}
    (keeps : D.Keeps (turn :: rest)) : D.Keeps rest :=
  ⟨fun t mem => keeps.messages t (.tail _ mem), fun t mem => keeps.binds t (.tail _ mem),
    fun t mem => keeps.attaches t (.tail _ mem), fun t mem => keeps.spares t (.tail _ mem)⟩

namespace Threads

variable {loop₁ loop₂ : RenderLoop (backend report) φ} {d₁ d₂ : Device ω} {config : Config}
  {n : Nat}

/-- **An envelope of the proxy moves both threads the same way.** -/
theorem own_serve (threads : D.Threads perform loop₁ loop₂) (agree : D.Agree d₁ d₂)
    (census₁ : Census config (n + loop₁.canvases) d₁)
    (census₂ : Census config (n + loop₂.canvases) d₂) {m : Message Surface φ}
    (unknown : ∀ translucent, m = .create translucent → loop₁.contexts.get? D.proxy = none)
    (binds : ∀ command s, m = .run command → command.Binds s → D.mine s.number)
    (attaches : ∀ command f, m = .run command → command.Attaches f → Confined invoke D.part f) :
    (loop₁.serve (host report invoke perform) (.message D.proxy m)).Ensures d₁ fun served d₁' =>
      ∃ loop₁' ack, served = .next loop₁' ack ∧ (∀ a, ack = some a → a.handle = D.proxy) ∧
        ((∀ e, ack ≠ some ⟨D.proxy, .created (.error e)⟩) →
          (∀ handle, Reply.made (ack.map (·.reply)) = some handle →
            D.rename handle = loop₂.nextLayer) →
          ∃ loop₂' d₂', (loop₂.serve (host report invoke perform)
              (.message D.proxy (m.rename D.rename))).runOn d₂ =
                (.ok (.next loop₂' (ack.map (Acknowledgement.rename D.rename))), d₂') ∧
            D.Threads perform loop₁' loop₂' ∧ D.Agree d₁' d₂' ∧
            loop₂'.nextLayer =
              RenderLoop.layerAfter loop₂.nextLayer (ack.map (·.reply))) := by
  cases m with
  | create translucent =>
    refine ensures_bind.2 ((threads.own_create agree census₁ census₂ (unknown _ rfl)
      translucent).mono fun r d₁' made => ensures_pure.2 ?_)
    refine ⟨_, _, rfl, by rintro a ⟨⟩; rfl, fun granted _ => ?_⟩
    obtain ⟨e | ⟨⟩, loop₁'⟩ := r
    · exact absurd rfl (granted e)
    · obtain ⟨loop₂', d₂', run, threads, next, agree⟩ := made rfl
      refine ⟨loop₂', d₂', ?_, threads, agree, next⟩
      unfold RenderLoop.serve Message.rename
      rw [runOn_bind, run]
      rfl
  | run command =>
    refine ensures_bind.2 ((threads.own_run (binds command · rfl) (attaches command · rfl) d₁ d₂
      agree).mono fun r d₁' found => ensures_pure.2 ?_)
    obtain ⟨reply, loop₁'⟩ := r
    refine ⟨_, _, rfl, fun a answered => ?_, fun _ named => ?_⟩
    · obtain ⟨reply, -, rfl⟩ := Option.map_eq_some_iff.1 answered
      rfl
    · have replies :
          (reply.map (⟨D.proxy, ·⟩ : Reply → Acknowledgement)).map (·.reply) = reply := by
        cases reply <;> rfl
      rw [replies] at named
      obtain ⟨⟨_, loop₂'⟩, d₂', run, steps, agree⟩ := found
      obtain ⟨rfl, threads, next⟩ := steps named
      refine ⟨loop₂', d₂', ?_, threads, agree, by rw [replies]; exact next⟩
      unfold RenderLoop.serve Message.rename
      rw [runOn_bind, run]
      cases reply <;> rfl
  | dispose =>
    refine ensures_bind.2 ((threads.own_dispose d₁ d₂ agree).mono fun loop₁' d₁' found =>
      ensures_pure.2 ⟨_, _, rfl, by simp, fun _ _ => ?_⟩)
    obtain ⟨loop₂', d₂', run, ⟨threads, next⟩, agree⟩ := found
    refine ⟨loop₂', d₂', ?_, threads, agree, next⟩
    unfold RenderLoop.serve Message.rename
    rw [runOn_bind, run]
    rfl

/-- **The proxy is served alone as among others.** -/
theorem serveAll_alone {turns : List (Turn Surface φ τ)}
    (threads : D.Threads perform loop₁ loop₂) (agree : D.Agree d₁ d₂)
    (census₁ : Census config (n + loop₁.canvases) d₁)
    (census₂ : Census config (n + loop₂.canvases) d₂) (fresh : RenderLoop.Fresh turns loop₁)
    (keeps : D.Keeps turns) {acks : List Acknowledgement} {final₁ : RenderLoop (backend report) φ}
    {d₁' : Device ω}
    (run : (RenderLoop.serveAll (host report invoke perform) turns loop₁).runOn d₁ =
      (.ok (acks, some final₁), d₁'))
    (granted : ∀ e, ⟨D.proxy, .created (.error e)⟩ ∉ acks)
    (consecutive : Consecutive D.rename loop₂.nextLayer
      (Acknowledgement.layersOf D.proxy acks)) :
    ∃ final₂ d₂', (RenderLoop.serveAll (host report invoke perform)
        (Turn.alone D.proxy D.rename turns) loop₂).runOn d₂ =
          (.ok (Acknowledgement.alone D.proxy D.rename acks, some final₂), d₂') ∧
      D.Threads perform final₁ final₂ ∧ D.Agree d₁' d₂' := by
  induction turns generalizing loop₁ loop₂ d₁ d₂ acks with
  | nil =>
    obtain ⟨⟨rfl, rfl⟩, rfl⟩ :
        (([] : List Acknowledgement) = acks ∧ loop₁ = final₁) ∧ d₁ = d₁' := by
      simpa [RenderLoop.serveAll] using run
    exact ⟨loop₂, d₂, rfl, threads, agree⟩
  | cons turn rest ih =>
    obtain ⟨loop₁', ack, d₁'', acks', served, ended, rfl⟩ := RenderLoop.serveAll_cons.1 run
    obtain ⟨k, m, message⟩ := keeps.messages turn (.head _)
    have keeps_rest := keeps.tail
    -- what others named in the meantime does not matter
    have threads : D.Threads perform (loop₁.later turn.others) loop₂ :=
      ⟨threads.own, threads.alone, threads.foreign⟩
    have counts : Census config (n + (loop₁.later turn.others).canvases) d₁ := census₁
    have census₁' := (serve_census counts turn.envelope fresh.asked _ _ served).1 loop₁' ack rfl
    have serves := RenderLoop.serve_serves _ _ _ _ _ _ served
    have fresh' := fresh.next serves
    have asked := fresh.asked
    rw [message] at served asked
    have binds (command : Command Surface φ) (s : Surface) (same : m = .run command) :=
      keeps.binds turn (.head _) k command (by rw [message, same]) s
    have granted' (e : RenderError) : ⟨D.proxy, .created (.error e)⟩ ∉ acks' :=
      fun mem => granted e (List.mem_append_right _ mem)
    by_cases own : k = D.proxy
    · subst own
      have unknown₂ (h : ProxyHandle)
          (created : (Envelope.message D.proxy (m.rename D.rename) :
            Envelope Surface φ τ).created? = some h) : loop₂.contexts.get? h = none := by
        rw [Envelope.created?_rename] at created
        obtain rfl : D.proxy = h := by cases m <;> simp_all [Envelope.created?]
        exact threads.unknown (asked _ created)
      obtain ⟨_, _, same, answered, steps⟩ := threads.own_serve agree counts census₂
        (fun translucent created => asked D.proxy (by rw [created]; rfl))
        (fun command s same bound => (binds command s same bound).2 rfl)
        (fun command f same => keeps.attaches turn (.head _) command (by rw [message, same]) f)
        _ _ served
      obtain ⟨rfl, rfl⟩ := RenderLoop.Served.next.inj same
      rw [Acknowledgement.layersOf_own answered] at consecutive
      obtain ⟨named, consecutive⟩ := consecutive.of_reply
      obtain ⟨loop₂', d₂', served₂, threads, agree, next⟩ := steps
        (fun e refused => granted e (by simp [refused])) named
      have census₂' := (serve_census census₂ _ unknown₂ _ _ served₂).1 loop₂' _ rfl
      rw [← next] at consecutive
      obtain ⟨final₂, d₂'', run₂, related⟩ := ih threads agree census₁' census₂' fresh' keeps_rest
        ended granted' consecutive
      refine ⟨final₂, d₂'', ?_, related⟩
      rw [Turn.alone_own message, Acknowledgement.alone_own answered]
      exact RenderLoop.serveAll_cons.2 ⟨loop₂', _, d₂', _, served₂, run₂, rfl⟩
    · obtain ⟨_, _, same, answered, threads, agree⟩ := threads.other_serve agree own
        (fun command s same bound mine => own ((binds command s same bound).1 mine))
        (fun command f same => keeps.spares turn (.head _) k command (by rw [message, same]) own f)
        _ _ served
      obtain ⟨rfl, rfl⟩ := RenderLoop.Served.next.inj same
      have others : ∀ a, ack = some a → a.handle ≠ D.proxy := fun a same => answered a same ▸ own
      rw [Acknowledgement.layersOf_other others] at consecutive
      obtain ⟨final₂, d₂', run₂, related⟩ := ih threads agree census₁' census₂ fresh' keeps_rest
        ended granted' consecutive
      refine ⟨final₂, d₂', ?_, related⟩
      rw [Turn.alone_other message own, Acknowledgement.alone_other others]
      exact run₂

end Threads

end Domain

end Headless

/-! ### Contexts apart -/

def Turn.Sends (turns : List (Turn σ φ τ)) (h : ProxyHandle) (command : Command σ φ) : Prop :=
  ∃ turn ∈ turns, turn.envelope = .message h (.run command)

/-- Nothing but the names of layers tells two contexts apart. -/
structure Context.Renamed {B : Backend σ} (ρ : LayerHandle → LayerHandle) (c c' : Context B φ) :
    Prop where
  handle : c'.handle = c.handle
  name : c'.name = c.name
  canvas : c'.canvas = c.canvas
  viewport : c'.viewport = c.viewport
  surfaceBound : c'.surfaceBound = c.surfaceBound
  needsFullRedraw : c'.needsFullRedraw = c.needsFullRedraw
  stats : c'.stats = c.stats
  functors : c'.registry.functors = c.registry.functors
  layers : c'.registry.layers.entries = c.registry.layers.entries.map fun e => (ρ e.1, e.2)
  pending : c'.registry.pending = c.registry.pending.map (renameUpdate ρ)
  lastDrawn : c'.registry.lastDrawn = c.registry.lastDrawn.map (DisplayList.rename ρ)

namespace Headless

variable {report : LogRecord → ω → ω}
  {invoke : φ → Frame → FunctorInfo → StateM ω (Frame × Completion)}
  {perform : τ → StateM ω Completion}

/-- Proxies of which one keeps to itself: it binds other surfaces than the others do, and its
callbacks share no state with theirs. -/
structure Apart (report : LogRecord → ω → ω)
    (invoke : φ → Frame → FunctorInfo → StateM ω (Frame × Completion)) (part : ω → π)
    (h : ProxyHandle) (turns : List (Turn Surface φ τ)) : Prop where
  messages : ∀ turn ∈ turns, ∃ k m, turn.envelope = .message k m
  surfaces : ∀ k command command' s s', Turn.Sends turns h command → command.Binds s →
    Turn.Sends turns k command' → command'.Binds s' → k ≠ h → s.number ≠ s'.number
  confined : ∀ command f, Turn.Sends turns h command → command.Attaches f →
    Confined invoke part f
  sparing : ∀ k command f, Turn.Sends turns k command → command.Attaches f → k ≠ h →
    Sparing invoke part f
  unreported : ∀ record world, part (report record world) = part world

/-- What is a proxy's own: the surfaces that it binds. -/
def Apart.domain {part : ω → π} {h : ProxyHandle} {turns : List (Turn Surface φ τ)}
    (apart : Apart report invoke part h turns) (nextLayer : LayerHandle)
    (layers : List LayerHandle) : Domain report invoke π where
  proxy := h
  mine number := ∃ command s, Turn.Sends turns h command ∧ command.Binds s ∧ s.number = number
  part := part
  unreported := apart.unreported
  rename := nameAlone nextLayer layers
  injective := nameAlone_injective nextLayer layers

theorem Apart.keeps {part : ω → π} {h : ProxyHandle} {turns : List (Turn Surface φ τ)}
    (apart : Apart report invoke part h turns) (nextLayer : LayerHandle)
    (layers : List LayerHandle) : (apart.domain nextLayer layers).Keeps turns where
  messages := apart.messages
  binds turn mem k command sent s binds := by
    constructor
    · rintro ⟨command', s', sent', binds', same⟩
      by_contra other
      exact apart.surfaces k command' command s' s sent' binds' ⟨turn, mem, sent⟩ binds other same
    · rintro rfl
      exact ⟨command, s, ⟨turn, mem, sent⟩, binds, rfl⟩
  attaches turn mem command sent f := apart.confined command f ⟨turn, mem, sent⟩
  spares turn mem k command sent other f attaches :=
    apart.sparing k command f ⟨turn, mem, sent⟩ attaches other

theorem Domain.renamed {D : Domain report invoke π} {c c' : Context (backend report) φ}
    (contexts : (D.correspondence perform).Contexts c c') : c.Renamed D.rename c' := by
  obtain @⟨h, name, viewport, bound, redraw, stats, canvas₁, canvas₂, r₁, r₂, canvas, registry⟩ :=
    contexts
  refine ⟨rfl, rfl, ?_, rfl, rfl, rfl, rfl, registry.functors, ?_, registry.pending,
    registry.lastDrawn⟩
  · cases canvas with
    | none => rfl
    | some same => exact congrArg some same.1.symm
  · have alike := registry.layers
    unfold Table.Alike at alike
    simp only
    generalize r₁.layers.entries = l₁ at alike
    generalize r₂.layers.entries = l₂ at alike
    induction alike with
    | nil => rfl
    | @cons e e' l₁ l₂ entry _ ih =>
      obtain ⟨handle, layer, size⟩ := e
      obtain ⟨handle', layer', size'⟩ := e'
      obtain ⟨renamed, same, sized⟩ :
          handle' = D.rename handle ∧ layer = layer' ∧ size' = size := entry
      rw [ih, List.map_cons, renamed, same, sized]

end Headless

open RenderLoop Headless in
/-- **Contexts do not get into each other's way.** The envelopes of a proxy that keeps to itself are
answered among those of others as they are on a thread of their own, and leave the same context, the
same surfaces and the same state of its callbacks, but for the names of layers. A context knows no
layer that another proxy was told of, none that it destroyed, and no callback that was not attached
to it since it was last detached; and what a context does not know does nothing there. -/
theorem contexts_apart :
    (∀ (ω φ τ π : Type) (report : LogRecord → ω → ω)
        (invoke : φ → Frame → FunctorInfo → StateM ω (Frame × Completion))
        (perform : τ → StateM ω Completion) (part : ω → π) (h : ProxyHandle)
        (turns : List (Turn Surface φ τ)) (nextLayer : LayerHandle) (d d' : Device ω)
        (acks : List Acknowledgement) (loop : RenderLoop (backend report) φ),
      Apart report invoke part h turns → (Turn.created turns).Nodup →
      (∀ e, ⟨h, .created (.error e)⟩ ∉ acks) →
      (serveAll (host report invoke perform) turns (.start nextLayer)).runOn d =
        (.ok (acks, some loop), d') →
      ∃ (ρ : LayerHandle → LayerHandle) (loop' : RenderLoop (backend report) φ) (d'' : Device ω),
        Function.Injective ρ ∧
        (serveAll (host report invoke perform) (Turn.alone h ρ turns) (.start nextLayer)).runOn d =
          (.ok (Acknowledgement.alone h ρ acks, some loop'), d'') ∧
        Option.Rel (Context.Renamed ρ) (loop.contexts.get? h) (loop'.contexts.get? h) ∧
        (∀ command s, Turn.Sends turns h command → command.Binds s →
          d''.gallery.look s = d'.gallery.look s) ∧
        part d''.outside = part d'.outside) ∧
    (∀ (σ φ τ : Type) (B : Backend σ) (H : Host B φ τ) (turns : List (Turn σ φ τ))
        (nextLayer : LayerHandle) (d d' : B.Device) (acks : List Acknowledgement)
        (loop : RenderLoop B φ) (h : ProxyHandle) (c : Context B φ),
      (serveAll H turns (.start nextLayer)).runOn d = (.ok (acks, some loop), d') →
      loop.contexts.get? h = some c →
      (∀ k layer, ⟨k, .layer (.ok layer)⟩ ∈ acks → k ≠ h → c.registry.layers.get? layer = none) ∧
      (∀ (before after : List (Turn σ φ τ)) (other : Nat) (command : Command σ φ)
          (acks' : List Acknowledgement) (loop' : RenderLoop B φ) (d'' : B.Device)
          (k : ProxyHandle) (layer : LayerHandle),
        turns = before ++ ⟨other, .message h (.run command)⟩ :: after → command.DropsLayer layer →
        (serveAll H before (.start nextLayer)).runOn d = (.ok (acks', some loop'), d'') →
        ⟨k, .layer (.ok layer)⟩ ∈ acks' → c.registry.layers.get? layer = none) ∧
      (∀ id, (∀ f, ¬Turn.Sends turns h (.attachFunctor ⟨id, f⟩)) →
        c.registry.functors.get? id = none) ∧
      (∀ (before after : List (Turn σ φ τ)) (other : Nat) (command : Command σ φ)
          (id : FunctorId),
        turns = before ++ ⟨other, .message h (.run command)⟩ :: after → command.DropsFunctor id →
        (∀ f, ¬Turn.Sends after h (.attachFunctor ⟨id, f⟩)) →
        c.registry.functors.get? id = none)) ∧
    (∀ (σ φ τ : Type) (B : Backend σ) (H : Host B φ τ) (c : Context B φ) (fresh : LayerHandle),
      (∀ layer, c.registry.layers.get? layer = none → c.IgnoresLayer H fresh layer) ∧
      ∀ id, c.registry.functors.get? id = none → c.IgnoresFunctor H fresh id) := by
  refine ⟨?_, ?_, ?_⟩
  · intro ω φ τ π report invoke perform part h turns nextLayer d d' acks loop apart nodup granted
      run
    have titled := serveAll_titled (.start nextLayer) turns d _ _ run loop rfl
    let D := apart.domain nextLayer (Acknowledgement.layersOf h acks)
    have consecutive :=
      nameAlone_consecutive nextLayer (Acknowledgement.layersOf_nodup h titled.nodup)
    have started : D.Threads perform (.start nextLayer) (.start nextLayer) := .start nextLayer
    obtain ⟨loop', d'', run', threads, agree⟩ := started.serveAll_alone (.refl d) ⟨rfl, rfl⟩
      ⟨rfl, rfl⟩ (.start nodup nextLayer) (apart.keeps _ _) run granted consecutive
    refine ⟨D.rename, loop', d'', D.injective, run', ?_, ?_, agree.part⟩
    · have own : Option.Rel (D.correspondence perform).Contexts (loop.contexts.get? h)
          (loop'.contexts.get? h) := threads.own
      generalize loop.contexts.get? h = c at own
      generalize loop'.contexts.get? h = c' at own
      cases own with
      | none => exact .none
      | some contexts => exact .some (Domain.renamed contexts)
    · exact fun command s sent binds => agree.look s ⟨command, s, sent, binds, rfl⟩
  · intro σ φ τ B H turns nextLayer d d' acks loop h c run there
    refine ⟨fun k layer told other => unknown_of_other run there told other, ?_, ?_, ?_⟩
    · rintro before after other command acks' loop' d'' k layer rfl drops first told
      exact unknown_of_destroyed drops run first told there
    · exact fun id unsent => unknown_of_unattached run there fun f turn mem sent =>
        unsent f ⟨turn, mem, sent⟩
    · rintro before after other command id rfl drops unsent
      exact unknown_of_detached drops run there fun f turn mem sent => unsent f ⟨turn, mem, sent⟩
  · exact fun σ φ τ B H c fresh =>
      ⟨fun layer unknown => Context.ignoresLayer unknown,
        fun id unknown => Context.ignoresFunctor unknown⟩

/-- Callbacks that count their runs, each on a side of its own. -/
def tally (left : Bool) (frame : Headless.Frame) (_ : FunctorInfo) :
    StateM (Nat × Nat) (Headless.Frame × Completion) :=
  fun runs => ((frame, .finished), if left then (runs.1 + 1, runs.2) else (runs.1, runs.2 + 1))

def tallyHost : Host (Headless.backend fun _ (runs : Nat × Nat) => runs) Bool Unit :=
  Headless.host _ tally fun _ => pure .finished

/-- Two proxies in turn: each makes layers, binds a surface and attaches a callback of its own. -/
def twoProxies : List (Turn Surface Bool Unit) :=
  [⟨0, .message ⟨1⟩ (.create true)⟩, ⟨0, .message ⟨2⟩ (.create true)⟩,
    ⟨0, .message ⟨1⟩ (.run (.createLayer ⟨1, 1⟩))⟩,
    ⟨0, .message ⟨2⟩ (.run (.createLayer ⟨1, 1⟩))⟩,
    ⟨0, .message ⟨1⟩ (.run (.createLayer ⟨1, 1⟩))⟩,
    ⟨0, .message ⟨1⟩ (.run (.bindSurface ⟨1, "left", false⟩))⟩,
    ⟨0, .message ⟨2⟩ (.run (.bindSurface ⟨2, "right", false⟩))⟩,
    ⟨0, .message ⟨1⟩ (.run (.attachFunctor ⟨⟨1⟩, true⟩))⟩,
    ⟨0, .message ⟨2⟩ (.run (.attachFunctor ⟨⟨1⟩, false⟩))⟩,
    ⟨0, .message ⟨1⟩ (.run (.pushLayerUpdate ⟨3⟩ ⟨⟨1⟩, [⟨.functor ⟨1⟩, none⟩]⟩))⟩]

theorem twoProxies_apart :
    Headless.Apart (fun _ (runs : Nat × Nat) => runs) tally Prod.fst ⟨1⟩ twoProxies where
  messages := by simp [twoProxies]
  surfaces := by
    rintro k command command' s s' ⟨turn, mem, sent⟩ binds ⟨turn', mem', sent'⟩ binds' other same
    simp only [twoProxies, List.mem_cons, List.not_mem_nil, or_false] at mem mem'
    rcases mem with rfl | rfl | rfl | rfl | rfl | rfl | rfl | rfl | rfl | rfl <;>
      simp at sent <;> subst sent <;> simp only [Command.Binds] at binds
    subst binds
    rcases mem' with rfl | rfl | rfl | rfl | rfl | rfl | rfl | rfl | rfl | rfl <;>
      simp at sent' <;> obtain ⟨rfl, rfl⟩ := sent' <;> simp [Command.Binds] at binds' other
    subst binds'
    exact absurd same (by decide)
  confined command f _ _ frame info world world' same := by cases f <;> simp [tally, same]
  sparing := by
    rintro k command f ⟨turn, mem, sent⟩ attaches other frame info world
    simp only [twoProxies, List.mem_cons, List.not_mem_nil, or_false] at mem
    rcases mem with rfl | rfl | rfl | rfl | rfl | rfl | rfl | rfl | rfl | rfl <;>
      simp at sent <;> obtain ⟨rfl, rfl⟩ := sent <;> simp [Command.Attaches] at attaches other
    subst attaches
    rfl
  unreported _ _ := rfl

/-- The layers of the first one are numbered 1 and 3 here, and 1 and 2 alone. -/
def twoProxiesAcks : List Acknowledgement :=
  [⟨⟨1⟩, .created (.ok ())⟩, ⟨⟨2⟩, .created (.ok ())⟩, ⟨⟨1⟩, .layer (.ok ⟨1⟩)⟩,
    ⟨⟨2⟩, .layer (.ok ⟨2⟩)⟩, ⟨⟨1⟩, .layer (.ok ⟨3⟩)⟩, ⟨⟨1⟩, .surface (.ok ())⟩,
    ⟨⟨2⟩, .surface (.ok ())⟩]

/-- A layer and a callback that are given up again. -/
def givenUp : List (Turn Surface Bool Unit) :=
  [⟨0, .message ⟨1⟩ (.create true)⟩, ⟨0, .message ⟨1⟩ (.run (.createLayer ⟨1, 1⟩))⟩,
    ⟨0, .message ⟨1⟩ (.run (.attachFunctor ⟨⟨1⟩, true⟩))⟩,
    ⟨0, .message ⟨1⟩ (.run (.destroyLayer ⟨1⟩))⟩,
    ⟨0, .message ⟨1⟩ (.run (.detachFunctor ⟨1⟩))⟩]

open RenderLoop Headless in
theorem contexts_apart_two_proxies :
    (Apart (fun _ (runs : Nat × Nat) => runs) tally Prod.fst ⟨1⟩ twoProxies ∧
      (Turn.created twoProxies).Nodup ∧ (∀ e, ⟨⟨1⟩, .created (.error e)⟩ ∉ twoProxiesAcks) ∧
      ∃ loop d' c, (serveAll tallyHost twoProxies (.start ⟨1⟩)).runOn (.start .standard (0, 0)) =
          (.ok (twoProxiesAcks, some loop), d') ∧ loop.contexts.get? ⟨1⟩ = some c ∧
        (∃ ρ loop' d'', Function.Injective ρ ∧
          (serveAll tallyHost (Turn.alone ⟨1⟩ ρ twoProxies) (.start ⟨1⟩)).runOn
              (.start .standard (0, 0)) =
            (.ok (Acknowledgement.alone ⟨1⟩ ρ twoProxiesAcks, some loop'), d'') ∧
          Option.Rel (Context.Renamed ρ) (some c) (loop'.contexts.get? ⟨1⟩)) ∧
        c.IgnoresLayer tallyHost loop.nextLayer ⟨2⟩ ∧
        c.IgnoresFunctor tallyHost loop.nextLayer ⟨2⟩) ∧
    ∃ loop d' c, (serveAll tallyHost givenUp (.start ⟨1⟩)).runOn (.start .standard (0, 0)) =
        (.ok ([⟨⟨1⟩, .created (.ok ())⟩, ⟨⟨1⟩, .layer (.ok ⟨1⟩)⟩], some loop), d') ∧
      loop.contexts.get? ⟨1⟩ = some c ∧ c.IgnoresLayer tallyHost loop.nextLayer ⟨1⟩ ∧
      c.IgnoresFunctor tallyHost loop.nextLayer ⟨1⟩ := by
  constructor
  · have nodup : (Turn.created twoProxies).Nodup := by decide
    have granted : ∀ e, ⟨⟨1⟩, .created (.error e)⟩ ∉ twoProxiesAcks := by simp [twoProxiesAcks]
    obtain ⟨loop, d', c, run, there⟩ : ∃ loop d' c,
        (serveAll tallyHost twoProxies (.start ⟨1⟩)).runOn (.start .standard (0, 0)) =
          (.ok (twoProxiesAcks, some loop), d') ∧ loop.contexts.get? ⟨1⟩ = some c :=
      ⟨_, _, _, rfl, rfl⟩
    obtain ⟨ρ, loop', d'', injective, alone, renamed, -, -⟩ :=
      contexts_apart.1 _ _ _ _ _ _ _ _ _ _ _ _ _ _ _ twoProxies_apart nodup granted run
    obtain ⟨other, -, unattached, -⟩ := contexts_apart.2.1 _ _ _ _ _ _ _ _ _ _ _ _ _ run there
    obtain ⟨ignoresLayer, ignoresFunctor⟩ :=
      contexts_apart.2.2 _ _ _ _ tallyHost c loop.nextLayer
    have layer : c.registry.layers.get? ⟨2⟩ = none :=
      other ⟨2⟩ ⟨2⟩ (by simp [twoProxiesAcks]) (by decide)
    have callback : c.registry.functors.get? ⟨2⟩ = none :=
      unattached ⟨2⟩ (by simp [Turn.Sends, twoProxies])
    exact ⟨twoProxies_apart, nodup, granted, loop, d', c, run, there,
      ⟨ρ, loop', d'', injective, alone, there ▸ renamed⟩, ignoresLayer _ layer,
      ignoresFunctor _ callback⟩
  · obtain ⟨loop, d', c, run, there⟩ : ∃ loop d' c,
        (serveAll tallyHost givenUp (.start ⟨1⟩)).runOn (.start .standard (0, 0)) =
          (.ok ([⟨⟨1⟩, .created (.ok ())⟩, ⟨⟨1⟩, .layer (.ok ⟨1⟩)⟩], some loop), d') ∧
        loop.contexts.get? ⟨1⟩ = some c := ⟨_, _, _, rfl, rfl⟩
    obtain ⟨-, destroyed, -, detached⟩ := contexts_apart.2.1 _ _ _ _ _ _ _ _ _ _ _ _ _ run there
    obtain ⟨ignoresLayer, ignoresFunctor⟩ :=
      contexts_apart.2.2 _ _ _ _ tallyHost c loop.nextLayer
    have layer : c.registry.layers.get? ⟨1⟩ = none :=
      destroyed (givenUp.take 3) (givenUp.drop 4) 0 (.destroyLayer ⟨1⟩)
        [⟨⟨1⟩, .created (.ok ())⟩, ⟨⟨1⟩, .layer (.ok ⟨1⟩)⟩] _ _ ⟨1⟩ ⟨1⟩ rfl rfl rfl (by simp)
    have callback : c.registry.functors.get? ⟨1⟩ = none :=
      detached (givenUp.take 4) [] 0 (.detachFunctor ⟨1⟩) ⟨1⟩ rfl rfl (by simp [Turn.Sends])
    exact ⟨loop, d', c, run, there, ignoresLayer _ layer, ignoresFunctor _ callback⟩

/-- A layer of each of two proxies, and an update of the first one's that waits. -/
def waitingUpdate : List (Turn Surface Unit Unit) :=
  [⟨0, .message ⟨1⟩ (.create true)⟩, ⟨0, .message ⟨2⟩ (.create true)⟩,
    ⟨0, .message ⟨1⟩ (.run (.createLayer ⟨1, 1⟩))⟩,
    ⟨0, .message ⟨2⟩ (.run (.createLayer ⟨1, 1⟩))⟩,
    ⟨0, .message ⟨1⟩ (.run (.pushLayerUpdate ⟨1⟩ ⟨⟨1⟩, []⟩))⟩]

/-- A layer whose size overflows, asked for by one proxy before a fence of another. -/
def overflowBeside : List (Turn Surface Unit Unit) :=
  [⟨0, .message ⟨1⟩ (.create true)⟩, ⟨0, .message ⟨2⟩ (.create true)⟩,
    ⟨0, .message ⟨2⟩ (.run (.createLayer ⟨0x80000000, 0x80000000⟩))⟩,
    ⟨0, .message ⟨1⟩ (.run .fence)⟩]

open RenderLoop Headless in
/-- Contexts can be told apart in two ways: to copy the layer of another proxy carries out the
updates that wait, and a command that makes the thread panic ends it for every proxy. -/
theorem contexts_interfere :
    (∃ acks loop d c, (serveAll idleHost waitingUpdate (.start ⟨1⟩)).runOn (.start .standard ()) =
        (.ok (acks, some loop), d) ∧
      ⟨⟨2⟩, .layer (.ok ⟨2⟩)⟩ ∈ acks ∧ loop.contexts.get? ⟨1⟩ = some c ∧
      c.registry.cachedLists = 1 ∧
      ∃ reply c' d', (c.dispatch idleHost loop.nextLayer (.copyLayer ⟨2⟩)).runOn d =
        (.ok (reply, c'), d') ∧ c'.registry.cachedLists = 0) ∧
    (∃ fault d, (serveAll idleHost overflowBeside (.start ⟨1⟩)).runOn (.start .standard ()) =
      (.error fault, d)) ∧
    ∃ loop d, (serveAll idleHost (Turn.alone ⟨1⟩ id overflowBeside) (.start ⟨1⟩)).runOn
        (.start .standard ()) =
      (.ok ([⟨⟨1⟩, .created (.ok ())⟩, ⟨⟨1⟩, .done⟩], some loop), d) := by
  refine ⟨⟨[⟨⟨1⟩, .created (.ok ())⟩, ⟨⟨2⟩, .created (.ok ())⟩, ⟨⟨1⟩, .layer (.ok ⟨1⟩)⟩,
    ⟨⟨2⟩, .layer (.ok ⟨2⟩)⟩], _, _, _, rfl, by simp, rfl, rfl, _, _, _, rfl, rfl⟩,
    ⟨_, _, rfl⟩, _, _, rfl⟩

end RenderRelay

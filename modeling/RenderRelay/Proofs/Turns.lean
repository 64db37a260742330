import RenderRelay.Proofs.Evolution
import RenderRelay.Proofs.Exchange.Serving
import RenderRelay.Proofs.Tables

/-!
A render thread's work on a list of envelopes. The names of layers are one sequence for all threads,
so between two envelopes others may have taken some; a `Turn` is an envelope and how many.
-/

namespace RenderRelay

open DeviceOp

variable {σ φ τ : Type} {B : Backend σ}

/-- An envelope, and how many layers other threads named since the one before. -/
structure Turn (σ φ τ : Type) where
  others : Nat
  envelope : Envelope σ φ τ

def Envelope.created? : Envelope σ φ τ → Option ProxyHandle
  | .message h (.create _) => some h
  | _ => none

def Turn.created (turns : List (Turn σ φ τ)) : List ProxyHandle :=
  turns.filterMap (·.envelope.created?)

theorem Turn.created_cons (turn : Turn σ φ τ) (rest : List (Turn σ φ τ)) :
    Turn.created (turn :: rest) = turn.envelope.created?.toList ++ Turn.created rest := by
  unfold Turn.created
  cases created : turn.envelope.created? <;> simp [created]

namespace RenderLoop

def later (loop : RenderLoop B φ) (others : Nat) : RenderLoop B φ :=
  { loop with nextLayer := ⟨loop.nextLayer.number + others⟩ }

variable (H : Host B φ τ)

/-- Handles envelopes in turn until one stops the thread. The replies, oldest first, and what the
thread keeps if it was not stopped. -/
def serveAll : List (Turn σ φ τ) → RenderLoop B φ →
    DeviceOp B.Device (List Acknowledgement × Option (RenderLoop B φ))
  | [], loop => pure ([], some loop)
  | turn :: rest, loop => do
    match ← serve H (loop.later turn.others) turn.envelope with
    | .next loop ack => do
      let (acks, final) ← serveAll rest loop
      return (ack.toList ++ acks, final)
    | .stopped => return ([], none)

variable {H}

/-- An envelope keeps what the three kinds of messages, a task and a report keep, and the last one
leaves what taking all contexts down does. -/
theorem serve_ensures {P : RenderLoop B φ → B.Device → Prop} {Q : B.Device → Prop}
    {loop : RenderLoop B φ} {d : B.Device} (envelope : Envelope σ φ τ)
    (created : ∀ h translucent, envelope = .message h (.create translucent) →
      (create H loop h translucent).Ensures d fun r d' => P r.2 d')
    (obeyed : ∀ h command, (run H loop h command).Ensures d fun r d' => P r.2 d')
    (disposed : ∀ h, (dispose H loop h).Ensures d P)
    (performed : ∀ task, P loop (H.perform task d).2)
    (reported : ∀ record d', P loop d' → P loop (H.report record d'))
    (stopped : (stop H loop).Ensures d fun _ d' => Q d') :
    (serve H loop envelope).Ensures d fun served d' =>
      (∀ loop' ack, served = .next loop' ack → P loop' d') ∧ (served = .stopped → Q d') := by
  -- the thread goes on
  have next {loop' : RenderLoop B φ} {ack : Option Acknowledgement} {d' : B.Device}
      (kept : P loop' d') :
      (∀ final a, Served.next loop' ack = .next final a → P final d') ∧
        (Served.next loop' ack = .stopped → Q d') :=
    ⟨fun _ _ same => (Served.next.inj same).1 ▸ kept, nofun⟩
  match envelope with
  | .message h (.create translucent) =>
    exact ensures_bind.2 ((created h translucent rfl).mono fun r d' kept =>
      ensures_pure.2 (next kept))
  | .message h .dispose =>
    exact ensures_bind.2 ((disposed h).mono fun r d' kept => ensures_pure.2 (next kept))
  | .message h (.run command) =>
    exact ensures_bind.2 ((obeyed h command).mono fun r d' kept => ensures_pure.2 (next kept))
  | .task task =>
    refine ensures_bind.2 (ensures_lift.2 ?_)
    split
    · exact ensures_pure.2 (next (performed task))
    · refine ensures_bind.2 (H.ensures_note.2 (ensures_pure.2 (next ?_)))
      exact reported _ _ (performed task)
  | .shutdown =>
    exact ensures_bind.2 (stopped.mono fun _ d' kept => ensures_pure.2 ⟨nofun, fun _ => kept⟩)

/-- **What every envelope keeps holds to the end.** -/
theorem serveAll_ensures {P : List (Turn σ φ τ) → RenderLoop B φ → B.Device → Prop}
    {Q : B.Device → Prop} (turns : List (Turn σ φ τ)) {loop : RenderLoop B φ} {d : B.Device}
    (step : ∀ turn rest loop d, P (turn :: rest) loop d →
      (serve H (loop.later turn.others) turn.envelope).Ensures d fun served d' =>
        (∀ loop' ack, served = .next loop' ack → P rest loop' d') ∧ (served = .stopped → Q d'))
    (holds : P turns loop d) :
    (serveAll H turns loop).Ensures d fun r d' =>
      (∀ loop', r.2 = some loop' → P [] loop' d') ∧ (r.2 = none → Q d') := by
  induction turns generalizing loop d with
  | nil =>
    refine ensures_pure.2 ⟨?_, by simp⟩
    rintro loop' ⟨⟩
    exact holds
  | cons turn rest ih =>
    refine ensures_bind.2 ((step turn rest loop d holds).mono fun served d' kept => ?_)
    cases served with
    | next loop' ack =>
      refine ensures_bind.2 ((ih (kept.1 loop' ack rfl)).mono fun r d'' ended => ?_)
      exact ensures_pure.2 ended
    | stopped => exact ensures_pure.2 ⟨by simp, fun _ => kept.2 rfl⟩

/-- A run that is not stopped handles the first envelope and then the others. -/
theorem serveAll_cons {turn : Turn σ φ τ} {rest : List (Turn σ φ τ)} {loop final : RenderLoop B φ}
    {d d' : B.Device} {acks : List Acknowledgement} :
    (serveAll H (turn :: rest) loop).runOn d = (.ok (acks, some final), d') ↔
      ∃ loop' ack d₁ acks',
        (serve H (loop.later turn.others) turn.envelope).runOn d = (.ok (.next loop' ack), d₁) ∧
        (serveAll H rest loop').runOn d₁ = (.ok (acks', some final), d') ∧
        acks = ack.toList ++ acks' := by
  rw [serveAll, runOn_bind]
  rcases (serve H (loop.later turn.others) turn.envelope).runOn d with
    ⟨fault | ⟨loop', ack⟩ | _, d₁⟩
  · simp
  · simp only [runOn_bind]
    rcases run : (serveAll H rest loop').runOn d₁ with ⟨fault | ⟨acks', final'⟩, d₂⟩
    · constructor
      · intro fails
        simp at fails
      · rintro ⟨loop'', ack', d₁', acks', ⟨rfl, rfl⟩, run', -⟩
        simp [run] at run'
    · constructor
      · intro ends
        obtain ⟨⟨rfl, rfl⟩, rfl⟩ :
            (ack.toList ++ acks' = acks ∧ final' = some final) ∧ d₂ = d' := by
          simpa using ends
        exact ⟨loop', ack, d₁, acks', rfl, run, rfl⟩
      · rintro ⟨loop'', ack', d₁', acks'', ⟨rfl, rfl⟩, run', rfl⟩
        obtain ⟨⟨rfl, rfl⟩, rfl⟩ : (acks' = acks'' ∧ final' = some final) ∧ d₂ = d' := by
          simpa [run] using run'
        rfl
  · simp

theorem serveAll_append {before after : List (Turn σ φ τ)} {loop final : RenderLoop B φ}
    {d d' : B.Device} {acks : List Acknowledgement}
    (run : (serveAll H (before ++ after) loop).runOn d = (.ok (acks, some final), d')) :
    ∃ middle acks₁ d₁ acks₂,
      (serveAll H before loop).runOn d = (.ok (acks₁, some middle), d₁) ∧
      (serveAll H after middle).runOn d₁ = (.ok (acks₂, some final), d') ∧
      acks = acks₁ ++ acks₂ := by
  induction before generalizing loop d acks with
  | nil => exact ⟨loop, [], d, acks, rfl, run, rfl⟩
  | cons turn rest ih =>
    obtain ⟨loop', ack, d₁, acks', served, ended, rfl⟩ := serveAll_cons.1 run
    obtain ⟨middle, acks₁, d₂, acks₂, first, second, rfl⟩ := ih ended
    refine ⟨middle, _, d₂, acks₂, serveAll_cons.2 ⟨loop', ack, d₁, acks₁, served, first, rfl⟩,
      second, ?_⟩
    rw [List.append_assoc]

theorem serveAll_stops (turns : List (Turn σ φ τ)) (loop : RenderLoop B φ) (d : B.Device) :
    (serveAll H turns loop).Ensures d fun r _ =>
      (r.2 = none ↔ ∃ turn ∈ turns, turn.envelope = .shutdown) := by
  induction turns generalizing loop d with
  | nil => exact ensures_pure.2 (by simp)
  | cons turn rest ih =>
    refine ensures_bind.2 ((serve_serves H _ turn.envelope d).mono fun served d' serves => ?_)
    cases served with
    | next loop' ack =>
      have going : turn.envelope ≠ .shutdown := by
        intro last
        rw [last] at serves
        cases serves
      refine ensures_bind.2 ((ih loop' d').mono fun r d'' stops => ensures_pure.2 ?_)
      simpa [going] using stops
    | stopped =>
      have last : turn.envelope = .shutdown := by
        generalize turn.envelope = envelope at serves
        cases serves
        rfl
      exact ensures_pure.2 (by simp [last])

/-! ### Names of layers -/

/-- Every layer has a name from before the next one. -/
def Named (loop : RenderLoop B φ) : Prop :=
  ∀ h c, loop.contexts.get? h = some c →
    ∀ handle ∈ c.registry.layers.keys, handle.number < loop.nextLayer.number

theorem Named.later {loop : RenderLoop B φ} (named : loop.Named) (others : Nat) :
    (loop.later others).Named :=
  fun h c there handle mem =>
    Nat.lt_of_lt_of_le (named h c there handle mem) (Nat.le_add_right _ others)

theorem Named.unused {loop : RenderLoop B φ} (named : loop.Named) {h : ProxyHandle}
    {c : Context B φ} (there : loop.contexts.get? h = some c) :
    c.registry.layers.get? loop.nextLayer = none :=
  Table.get?_eq_none_iff.2 fun mem => Nat.lt_irrefl _ (named h c there _ mem)

/-- What becomes of a registry gives no layer a name but the one that was made. -/
theorem evolves_keys {Layer Callback : Type} {made : Option LayerHandle}
    {r r' : Registry Layer Callback} (evolves : Registry.Evolves made r r') {handle : LayerHandle}
    (mem : handle ∈ r'.layers.keys) : handle ∈ r.layers.keys ∨ made = some handle := by
  have keys (t : Table LayerHandle (LayerEntry Layer)) (k handle : LayerHandle) :
      handle ∈ (t.erase k).keys → handle ∈ t.keys :=
    fun mem => ((List.filter_sublist.map Prod.fst).subset mem)
  refine evolves.preserves
    (P := fun s => ∀ handle ∈ s.layers.keys, handle ∈ r.layers.keys ∨ made = some handle)
    ?_ (fun _ mem => .inl mem) handle mem
  intro s s' change known handle mem
  cases change with
  | attach id callback => exact known handle mem
  | detach id => exact known handle mem
  | make name entry same =>
    rcases Table.mem_keys_put.1 mem with rfl | mem
    · exact .inr same
    · exact known handle mem
  | redraw name entry layer there =>
    exact known handle ((Table.keys_erase_insert there _).subset mem)
  | remove name => exact known handle (keys _ name handle mem)
  | wait name list there => exact known handle mem
  | settle => exact known handle mem
  | remember last => exact known handle mem
  | clear => simp [Registry.empty, Table.keys, Table.empty] at mem

theorem le_layerAfter (next : LayerHandle) (reply : Option Reply) :
    next.number ≤ (layerAfter next reply).number := by
  unfold layerAfter
  split
  · exact Nat.le_succ _
  · exact Nat.le_refl _

theorem layerAfter_of_made {next handle : LayerHandle} {reply : Option Reply}
    (made : Reply.made reply = some handle) : layerAfter next reply = next.next := by
  unfold Reply.made at made
  split at made
  · rfl
  · simp at made

theorem Serves.le_nextLayer {loop loop' : RenderLoop B φ} {envelope : Envelope σ φ τ}
    {ack : Option Acknowledgement} (serves : Serves H loop envelope (.next loop' ack)) :
    loop.nextLayer.number ≤ loop'.nextLayer.number := by
  cases serves with
  | obeyed => exact le_layerAfter _ _
  | _ => exact Nat.le_refl _

/-- **Every envelope leaves the next name unused.** -/
theorem Named.serves {loop loop' : RenderLoop B φ} {envelope : Envelope σ φ τ}
    {ack : Option Acknowledgement} (named : loop.Named)
    (serves : Serves H loop envelope (.next loop' ack)) : loop'.Named := by
  intro h c there handle mem
  have older := serves.le_nextLayer
  cases serves.source there with
  | before there => exact Nat.lt_of_lt_of_le (named h c there handle mem) older
  | made _ new =>
    subst new
    simp [Context.ofCanvas, Registry.empty, Table.keys, Table.empty] at mem
  | @obeyed command c₀ reply d d' _ known run _ next =>
    obtain ⟨evolves, fresh⟩ := Context.dispatch_evolves H c₀ loop.nextLayer command d _ _ run
    rcases evolves_keys evolves mem with mem | made
    · exact Nat.lt_of_lt_of_le (named h c₀ known handle mem) older
    · rw [next, layerAfter_of_made made, fresh handle made]
      exact Nat.lt_succ_self _

/-! ### Names of contexts -/

/-- No context is asked for twice, and none that is there already. -/
structure Fresh (turns : List (Turn σ φ τ)) (loop : RenderLoop B φ) : Prop where
  nodup : (Turn.created turns).Nodup
  unknown : ∀ h ∈ Turn.created turns, loop.contexts.get? h = none

theorem Fresh.asked {turn : Turn σ φ τ} {rest : List (Turn σ φ τ)} {loop : RenderLoop B φ}
    (fresh : Fresh (turn :: rest) loop) (h : ProxyHandle)
    (created : turn.envelope.created? = some h) :
    (loop.later turn.others).contexts.get? h = none :=
  fresh.unknown h (by simp [Turn.created_cons, created])

theorem Serves.unknown {loop loop' : RenderLoop B φ} {envelope : Envelope σ φ τ}
    {ack : Option Acknowledgement} (serves : Serves H loop envelope (.next loop' ack))
    {h : ProxyHandle} (other : envelope.created? ≠ some h)
    (unknown : loop.contexts.get? h = none) : loop'.contexts.get? h = none := by
  cases there : loop'.contexts.get? h with
  | none => rfl
  | some c =>
    cases serves.source there with
    | before there => simp [unknown] at there
    | made sent => exact absurd (sent ▸ rfl) other
    | obeyed _ there => simp [unknown] at there

theorem Fresh.next {turn : Turn σ φ τ} {rest : List (Turn σ φ τ)} {loop loop' : RenderLoop B φ}
    {ack : Option Acknowledgement} (fresh : Fresh (turn :: rest) loop)
    (serves : Serves H (loop.later turn.others) turn.envelope (.next loop' ack)) :
    Fresh rest loop' := by
  obtain ⟨nodup, unknown⟩ := fresh
  rw [Turn.created_cons] at nodup unknown
  obtain ⟨-, nodup, apart⟩ := List.nodup_append.1 nodup
  refine ⟨nodup, fun h mem => serves.unknown ?_ (unknown h (List.mem_append_right _ mem))⟩
  intro created
  exact apart h (by simp [created]) h mem rfl

theorem Fresh.start {turns : List (Turn σ φ τ)} (nodup : (Turn.created turns).Nodup)
    (nextLayer : LayerHandle) : Fresh turns (.start nextLayer : RenderLoop B φ) :=
  ⟨nodup, fun _ _ => rfl⟩

end RenderLoop

end RenderRelay

import RenderRelay.Proofs.Accord.Agreement
import RenderRelay.Proofs.Layers.Dealings
import RenderRelay.Session.Run

/-!
Layers as they are read by who owns them. A `Course` is a run of the exchange on a headless device
in which other render threads may name layers of their own meanwhile. In all of it a proxy that
reads a layer is given what its own messages and the replies to them make of that layer, and nobody
else's (`layers_read_back`).
-/

namespace RenderRelay

namespace Exchange

open DeviceOp

/-! ### The running thread -/

section Work

variable {σ φ τ : Type} {B : Backend σ} {H : Host B φ τ} {capacity : Nat}
  {capabilities : Capabilities} {s s' : State B φ τ} {event : Event σ φ}

def Engine.work? : Engine B φ τ → Option (RenderLoop B φ × B.Device)
  | ready loop d => some (loop, d)
  | busy loop d _ => some (loop, d)
  | _ => none

theorem Engine.running_of_work {engine : Engine B φ τ} {work : RenderLoop B φ × B.Device}
    (at' : engine.work? = some work) : engine.Running := by
  cases engine <;> simp_all [work?, Running]

theorem Engine.exists_work {engine : Engine B φ τ} (running : engine.Running) :
    ∃ loop d, engine.work? = some (loop, d) ∧
      ∀ h, engine.context? h = loop.contexts.get? h := by
  cases engine with
  | ready loop d => exact ⟨loop, d, rfl, fun _ => rfl⟩
  | busy loop d ticket => exact ⟨loop, d, rfl, fun _ => rfl⟩
  | closing left => exact absurd running id
  | ended => exact absurd running id

/-- What a step does to the thread: nothing that matters, or an envelope is handled. -/
inductive State.Works (H : Host B φ τ) (s s' : State B φ τ) : Prop
  | rests (work : s'.engine.work? = none ∨ s'.engine.work? = s.engine.work?)
      (dealings : ∀ h, s'.dealings h = s.dealings h)
  | handles {loop loop' : RenderLoop B φ} {d d' : B.Device} {ticket : Ticket σ φ τ}
      {ack : Option Acknowledgement} (busy : s.engine = .busy loop d ticket)
      (served : (loop.serve H ticket.envelope).runOn d = (.ok (.next loop' ack), d'))
      (work : s'.engine.work? = some (loop', d'))
      (dealings : ∀ h, s'.dealings h = s.dealings h ++ (ticket.envelope.dealing? h ack).toList)

theorem Step.works (step : Step H capacity capabilities s event s') : s.Works H s' := by
  cases step with
  | takes ready => exact .rests (.inr (by simp [ready, Engine.work?])) fun _ => rfl
  | serves busy served => exact .handles busy served rfl fun _ => State.dealings_handled _ _ _
  | @answers loop loop' d d' ticket ack busy served =>
    exact .handles busy served rfl fun _ => State.dealings_handled (.ready loop' d') ticket ack
  | @stops loop d d' ticket busy served =>
    refine .rests (.inl rfl) fun h => ?_
    obtain ⟨number, envelope⟩ := ticket
    have serves := RenderLoop.serve_serves _ _ _ _ _ _ served
    cases serves with
    | stopped => simp [State.dealings_handled, Envelope.dealing?]
  | dies => exact .rests (.inl rfl) fun _ => rfl
  | releases => exact .rests (.inl rfl) fun _ => rfl
  | disconnects => exact .rests (.inl rfl) fun _ => rfl
  | _ => exact .rests (.inr rfl) fun _ => rfl

end Work

open Headless

variable {ω φ τ : Type} {report : LogRecord → ω → ω}
  {invoke : φ → Frame → FunctorInfo → StateM ω (Frame × Completion)}
  {perform : τ → StateM ω Completion} {H : Host (backend report) φ τ} {capacity : Nat}
  {config : Config} {log : Submissions Surface φ} {s : State (backend report) φ τ}
  {h : ProxyHandle}

/-! ### Other threads -/

/-- The thread after others named so many layers, and did to the world and what it shows whatever
they do. -/
def Engine.elsewhere (others : Nat) (gallery : Gallery) (outside : ω) :
    Engine (backend report) φ τ → Engine (backend report) φ τ
  | ready loop d => ready (loop.later others) { d with gallery, outside }
  | busy loop d ticket => busy (loop.later others) { d with gallery, outside } ticket
  | closing left => closing left
  | ended => ended

namespace State

def elsewhere (s : State (backend report) φ τ) (others : Nat) (gallery : Gallery) (outside : ω) :
    State (backend report) φ τ :=
  { s with engine := s.engine.elsewhere others gallery outside }

variable (s) (others : Nat) (gallery : Gallery) (outside : ω)

theorem pending_elsewhere : (s.elsewhere others gallery outside).pending = s.pending := by
  obtain ⟨handles, issued, parties, queue, engine, journal⟩ := s
  cases engine <;> rfl

theorem running_elsewhere :
    (s.elsewhere others gallery outside).engine.Running ↔ s.engine.Running := by
  obtain ⟨handles, issued, parties, queue, engine, journal⟩ := s
  cases engine <;> rfl

theorem view_elsewhere : (s.elsewhere others gallery outside).view h = s.view h := by
  obtain ⟨handles, issued, parties, queue, engine, journal⟩ := s
  cases engine <;> rfl

theorem account_elsewhere (events : List (Event Surface φ)) :
    (s.elsewhere others gallery outside).account events h = s.account events h := by
  obtain ⟨handles, issued, parties, queue, engine, journal⟩ := s
  cases engine <;> rfl

end State

theorem Sound.elsewhere {events : List (Event Surface φ)} (sound : Sound H events s) (others : Nat)
    (gallery : Gallery) (outside : ω) : Sound H events (s.elsewhere others gallery outside) where
  inv := by
    have inv := sound.inv
    have numbers : (s.elsewhere others gallery outside).numbers = s.numbers := by
      rw [State.numbers, State.pending_elsewhere]
      rfl
    refine ⟨inv.born, fun h => ?_, numbers ▸ inv.ordered, numbers ▸ inv.issued, ?_, inv.genuine⟩
    · rw [State.view_elsewhere]
      exact inv.standing h
    · intro ended
      refine inv.ended ?_
      obtain ⟨handles, issued, parties, queue, engine, journal⟩ := s
      cases engine <;> simp_all [State.elsewhere, Engine.elsewhere]
  kept h := by
    rw [State.account_elsewhere]
    exact sound.kept h

/-! ### Courses -/

/-- A run of the system on a device that was set up like this, with all that was submitted in it. -/
inductive Course (H : Host (backend report) φ τ) (capacity : Nat) (config : Config) :
    Submissions Surface φ → State (backend report) φ τ → Prop
  | start (device : Device ω) (nextLayer : LayerHandle) (set : device.config = config) :
    Course H capacity config [] (.start device nextLayer)
  | step {log sent : Submissions Surface φ} {s s' : State (backend report) φ τ}
      {event : Event Surface φ} (course : Course H capacity config log s)
      (step : Step H capacity config.capabilities s event s') (submits : Submits s s' sent) :
    Course H capacity config (log ++ sent) s'
  | elsewhere {log : Submissions Surface φ} {s : State (backend report) φ τ}
      (course : Course H capacity config log s) (others : Nat) (gallery : Gallery) (outside : ω) :
    Course H capacity config log (s.elsewhere others gallery outside)

namespace Course

theorem sound (course : Course (host report invoke perform) capacity config log s) :
    ∃ events, Sound (host report invoke perform) events s := by
  induction course with
  | start device nextLayer => exact ⟨[], .start device nextLayer⟩
  | step _ step _ ih =>
    obtain ⟨events, sound⟩ := ih
    exact ⟨_, sound.step step⟩
  | elsewhere _ others gallery outside ih =>
    obtain ⟨events, sound⟩ := ih
    exact ⟨events, sound.elsewhere others gallery outside⟩

theorem equipped (course : Course H capacity config log s) : s.Equipped config.capabilities := by
  induction course with
  | start device nextLayer => exact fun h born => absurd rfl born
  | step _ step _ ih => exact ih.step step
  | elsewhere _ others gallery outside ih => exact ih

theorem told (course : Course (host report invoke perform) capacity config log s)
    (h : ProxyHandle) : s.Told log h := by
  induction course with
  | start device nextLayer => exact fun _ => rfl
  | step course step submits ih =>
    obtain ⟨events, sound⟩ := course.sound
    exact ih.step sound.inv step submits
  | @elsewhere log s course others gallery outside ih =>
    intro running
    rw [ih ((s.running_elsewhere others gallery outside).1 running), State.messages_eq,
      State.messages_eq, State.mail, State.mail, State.pending_elsewhere]
    rfl

theorem answered (course : Course (host report invoke perform) capacity config log s)
    (h : ProxyHandle) : s.Answered log h := by
  induction course with
  | start device nextLayer => exact fun number errand reply phase => nomatch phase
  | step course step submits ih =>
    obtain ⟨events, sound⟩ := course.sound
    exact ih.step sound.inv step submits ((course.step step submits).told h)
  | elsewhere _ others gallery outside ih => exact ih

theorem extend {s' : State (backend report) φ τ} {event : Event Surface φ}
    (course : Course (host report invoke perform) capacity config log s)
    (step : Step (host report invoke perform) capacity config.capabilities s event s') :
    ∃ log, Course (host report invoke perform) capacity config log s' := by
  obtain ⟨events, sound⟩ := course.sound
  obtain ⟨sent, submits⟩ := step.submissions sound.inv
  exact ⟨_, course.step step submits⟩

end Course

/-! ### The thread in a course -/

/-- What a running thread keeps for a proxy. -/
structure Tended (config : Config) (s : State (backend report) φ τ) (h : ProxyHandle) : Prop where
  set : ∀ loop d, s.engine.work? = some (loop, d) → d.config = config
  named : ∀ loop d, s.engine.work? = some (loop, d) → loop.Named
  holds : ∀ loop d, s.engine.work? = some (loop, d) → Holds loop h (.of (s.dealings h))
  right : ReadBack (s.dealings h)

namespace Tended

variable {s' : State (backend report) φ τ}

theorem of_work {loop : RenderLoop (backend report) φ} {d : Device ω}
    (work : s.engine.work? = some (loop, d)) (set : d.config = config) (named : loop.Named)
    (holds : Holds loop h (.of (s.dealings h))) (right : ReadBack (s.dealings h)) :
    Tended config s h := by
  have only {loop' : RenderLoop (backend report) φ} {d' : Device ω}
      (work' : s.engine.work? = some (loop', d')) : loop = loop' ∧ d = d' :=
    Prod.mk.inj (Option.some.inj (work.symm.trans work'))
  refine ⟨fun loop' d' work' => ?_, fun loop' d' work' => ?_, fun loop' d' work' => ?_, right⟩ <;>
    obtain ⟨rfl, rfl⟩ := only work'
  · exact set
  · exact named
  · exact holds

theorem start (device : Device ω) (nextLayer : LayerHandle) :
    Tended device.config (.start device nextLayer : State (backend report) φ τ) h := by
  refine .of_work rfl rfl ?_ (.start nextLayer) .nil
  intro h c there
  simp [RenderLoop.start] at there

theorem works (tended : Tended config s h) (able : config.capabilities.layerReadback = true)
    (works : s.Works (host report invoke perform) s')
    (paints : s.engine.Running → ∀ m ∈ s.mail h, m.2.paints = true) : Tended config s' h := by
  cases works with
  | rests work dealings =>
    have before {loop : RenderLoop (backend report) φ} {d : Device ω}
        (after : s'.engine.work? = some (loop, d)) : s.engine.work? = some (loop, d) := by
      rcases work with none | same
      · simp [none] at after
      · exact same ▸ after
    refine ⟨fun loop d after => tended.set loop d (before after),
      fun loop d after => tended.named loop d (before after), fun loop d after => ?_, ?_⟩
    · rw [dealings]
      exact tended.holds loop d (before after)
    · rw [dealings]
      exact tended.right
  | @handles loop loop' d d' ticket ack busy served work dealings =>
    have before : s.engine.work? = some (loop, d) := by rw [busy]; rfl
    have serves := RenderLoop.serve_serves _ _ _ _ _ _ served
    have holds := tended.holds loop d before
    have set := tended.set loop d before
    have able : d.config.capabilities.layerReadback = true := set ▸ able
    obtain ⟨number, envelope⟩ := ticket
    have named := tended.named loop d before
    refine .of_work work ((serve_config _ _ _ _ _ served).trans set) (named.serves serves) ?_ ?_
    · rw [dealings]
      refine holds.serves named serves ?_
      rintro message rfl
      refine paints (Engine.running_of_work before) (number, message) ?_
      simp [State.mail_of_busy busy, State.messageOf?]
    · rw [dealings]
      cases passed : envelope.dealing? h ack with
      | none => simpa [passed] using tended.right
      | some dealing =>
        refine tended.right.concat ?_
        rintro handle reply rfl
        obtain ⟨rfl, told⟩ := Envelope.dealing?_eq_some passed
        obtain ⟨ack, rfl, rfl⟩ := Option.map_eq_some_iff.1 told
        exact holds.answer able served

theorem elsewhere (tended : Tended config s h) (others : Nat) (gallery : Gallery) (outside : ω) :
    Tended config (s.elsewhere others gallery outside) h := by
  have before {loop : RenderLoop (backend report) φ} {d : Device ω}
      (after : (s.elsewhere others gallery outside).engine.work? = some (loop, d)) :
      ∃ loop₀ d₀, s.engine.work? = some (loop₀, d₀) ∧ loop = loop₀.later others ∧
        d = { d₀ with gallery, outside } := by
    obtain ⟨handles, issued, parties, queue, engine, journal⟩ := s
    cases engine <;>
      simp_all [State.elsewhere, Engine.elsewhere, Engine.work?]
  refine ⟨?_, ?_, ?_, tended.right⟩
  · intro loop d after
    obtain ⟨loop, d, at', rfl, rfl⟩ := before after
    exact tended.set loop d at'
  · intro loop d after
    obtain ⟨loop, d, at', rfl, rfl⟩ := before after
    exact (tended.named loop d at').later others
  · intro loop d after
    obtain ⟨loop, d, at', rfl, rfl⟩ := before after
    exact (tended.holds loop d at').congr rfl

end Tended

theorem Course.tended (course : Course (host report invoke perform) capacity config log s)
    (able : config.capabilities.layerReadback = true)
    (paints : ∀ message ∈ log.of h, message.paints = true) : Tended config s h := by
  induction course with
  | start device nextLayer set => exact set ▸ .start device nextLayer
  | @step log sent s s' event course step submits ih =>
    have before : ∀ message ∈ log.of h, message.paints = true := fun message mem =>
      paints message (Submissions.of_append log sent h ▸ List.mem_append_left _ mem)
    refine (ih before).works able step.works fun running m mem => before m.2 ?_
    rw [course.told h running, State.messages_eq]
    exact List.mem_append_right _ (List.mem_map_of_mem mem)
  | elsewhere _ others gallery outside ih => exact (ih paints).elsewhere others gallery outside

/-! ### Reading a layer -/

/-- What is left of a proxy that lives no longer, while the thread runs: nothing of it is on the
queue, and its context is gone or has nothing. -/
theorem Sound.dead {events : List (Event Surface φ)}
    (sound : Sound (host report invoke perform) events s) (running : s.engine.Running)
    (idle : (s.parties h).phase = .idle) (dead : (s.parties h).proxy.lifecycle ≠ .live) :
    s.mail h = [] ∧ ∀ c, s.engine.context? h = some c → c.registry = .empty := by
  have kept := sound.kept h
  obtain ⟨-, rest⟩ := (sound.inv.standing h).of_idle idle
  cases rest with
  | whole handle life notices known =>
    have destroyed := life.resolve_left dead
    refine ⟨kept.spent destroyed (by simp [State.account, idle]), fun c there => ?_⟩
    have accord := kept.accord (by simp [State.account, idle]) c there
    rw [Kept.settled_of_idle (s.account events h).party idle] at accord
    have none : c.canvas = none := by
      have dead := accord.live.not.2 dead
      simpa using dead
    exact (accord.spent none).2
  | forsaken _ _ stopped => exact absurd running stopped
  | contextless invalid life mail unknown =>
    refine ⟨mail, fun c there => absurd ?_ unknown⟩
    exact (Engine.isSome_context? running h).1 (by simp [there])

/-- A proxy that may read layers back sends the call if it is live, and else says that there is no
such layer. -/
theorem plan_copyLayer {σ φ : Type} {p : Proxy} (layers : p.capabilities.layers = true)
    (readback : p.capabilities.layerReadback = true) (handle : LayerHandle) :
    p.plan (.copyLayer handle : Call σ φ) =
      (p, if p.lifecycle = .live then .ask (.copyLayer handle)
        else .answer (.error .invalidHandle)) := by
  have whole : p.lacks Proxy.readbackNeeds = none := by
    simp [Proxy.lacks, Proxy.readbackNeeds, Capabilities.missing, Capabilities.onlyLayers,
      Capabilities.none, layers, readback]
  by_cases live : p.lifecycle = .live
  · simp [Proxy.plan, Proxy.isEnabled, live, Proxy.planLive, whole]
  · simp [Proxy.plan, Proxy.isEnabled, live, Proxy.idle]

theorem perform_copyLayer {p : Proxy} (layers : p.capabilities.layers = true)
    (readback : p.capabilities.layerReadback = true) (handle : LayerHandle) (thread : Nat)
    (w : Session.World) :
    (Session.Caller.onRenderThread.perform thread p (.copyLayer handle) w).1 =
      (p, .error .invalidHandle) := by
  unfold Session.Caller.perform
  rw [plan_copyLayer layers readback]
  split <;> rfl

/-- What the owner of a proxy may rely on when it reads a layer. A call that is not sent would find
no such layer, and one on the render thread is refused without effect. A call that is sent is
answered with what is on the shelf, when all that was submitted before was dealt with; if it returns
without an answer, the thread has ended and the layer with it. -/
structure ReadsOwn (H : Host (backend report) φ τ) (capacity : Nat) (config : Config)
    (log : Submissions Surface φ) (s : State (backend report) φ τ) (h : ProxyHandle)
    (handle : LayerHandle) : Prop where
  unsent : ∀ outcome, (s.parties h).phase = .idle →
    ((s.parties h).proxy.plan (.copyLayer handle : Call Surface φ)).2 = .answer outcome →
      outcome = .error .invalidHandle ∧
        (s.engine.Running →
          log.of h = (s.dealings h).map Prod.fst ∧ Shelf.of (s.dealings h) handle = none)
  refused : (s.parties h).phase ≠ .unborn → ∀ thread w,
    (Session.Caller.onRenderThread.perform thread (s.parties h).proxy (.copyLayer handle) w).1 =
      ((s.parties h).proxy, .error .invalidHandle)
  served : ∀ loop d number,
    s.engine = .busy loop d ⟨number, .message h (.run (.copyLayer handle))⟩ →
      ∃ result loop' d', (loop.serve H (.message h (.run (.copyLayer handle)))).runOn d =
          (.ok (.next loop' (some ⟨h, .pixels result⟩)), d') ∧
        ReadsBack (Shelf.of (s.dealings h) handle) result
  returned : ∀ command reply s', Step H capacity config.capabilities s
    (.returns h (.request (.copyLayer handle) command) (some reply)) s' →
      ∃ before result, s.dealings h = before ++ [(.run (.copyLayer handle), some reply)] ∧
        log.of h = before.map Prod.fst ++ [.run (.copyLayer handle)] ∧
        ((s.parties h).proxy.conclude (.copyLayer handle : Call Surface φ) (some reply)).2 =
          result.map .pixels ∧
        ReadsBack (Shelf.of before handle) result
  lost : ∀ command s', Step H capacity config.capabilities s
    (.returns h (.request (.copyLayer handle) command) none) s' →
      ((s.parties h).proxy.conclude (.copyLayer handle : Call Surface φ) none).2 =
          .error .invalidHandle ∧
        ¬s'.engine.Running ∧ (s'.parties h).proxy.lifecycle = .disabled

section Reading

variable (course : Course (host report invoke perform) capacity config log s)

include course

/-- While the thread runs, a proxy that lives no longer has had all that it submitted dealt with,
and has no layers. -/
theorem Course.shelf_of_dead (tended : Tended config s h) (running : s.engine.Running)
    (idle : (s.parties h).phase = .idle) (dead : (s.parties h).proxy.lifecycle ≠ .live)
    (handle : LayerHandle) :
    log.of h = (s.dealings h).map Prod.fst ∧ Shelf.of (s.dealings h) handle = none := by
  obtain ⟨events, sound⟩ := course.sound
  obtain ⟨mail, gone⟩ := sound.dead running idle dead
  refine ⟨?_, ?_⟩
  · rw [course.told h running, State.messages_eq, mail]
    exact List.append_nil _
  · obtain ⟨loop, d, at', contexts⟩ := Engine.exists_work running
    have holds := tended.holds loop d at'
    cases there : loop.contexts.get? h with
    | none =>
      rw [holds.unknown there]
      rfl
    | some c =>
      have empty := gone c ((contexts h).trans there)
      exact (holds.known c there).absent (by simp [empty, Registry.empty])

/-- What a call that reads a layer returns with is on the shelf. -/
theorem Course.copy_returns (tended : Tended config s h) {handle : LayerHandle}
    {command : Command Surface φ} {reply : Reply} {s' : State (backend report) φ τ}
    (step : Step (host report invoke perform) capacity config.capabilities s
      (.returns h (.request (.copyLayer handle) command) (some reply)) s') :
    ∃ before result, s.dealings h = before ++ [(.run (.copyLayer handle), some reply)] ∧
      log.of h = before.map Prod.fst ++ [.run (.copyLayer handle)] ∧ reply = .pixels result ∧
      ReadsBack (Shelf.of before handle) result := by
  obtain ⟨events, sound⟩ := course.sound
  rcases step.of_returns with ⟨number, r, same, phase, slot, rfl⟩ | ⟨_, none, _⟩ | ⟨none, _⟩
  · obtain rfl := Option.some.inj same
    obtain ⟨rfl, -⟩ := (sound.kept h).asked _ _ (.inr ⟨number, phase⟩)
    obtain ⟨submitted, before, dealings⟩ := course.answered h number _ reply phase slot
    obtain ⟨result, told, right⟩ :=
      tended.right before handle reply (dealings ▸ List.prefix_refl _)
    refine ⟨before, result, dealings, ?_, told, right⟩
    rw [submitted, dealings, List.map_append]
    rfl
  · simp at none
  · simp at none

end Reading

/-- **Layers are read as they were written.** In every course in which a proxy pushes lists that
only clear and fill, what it reads of a layer is a bitmap of the size that the layer was created
with, and shows what the list pushed last makes of a transparent one; and no layer is found just if
the proxy created none of that name, has destroyed it, reads on the render thread, or has lost the
thread. -/
theorem layers_read_back (course : Course (host report invoke perform) capacity config log s)
    (layers : config.capabilities.layers = true)
    (readback : config.capabilities.layerReadback = true)
    (paints : ∀ message ∈ log.of h, message.paints = true) (handle : LayerHandle) :
    ReadsOwn (host report invoke perform) capacity config log s h handle := by
  obtain ⟨events, sound⟩ := course.sound
  have tended := course.tended readback paints
  have plan (born : (s.parties h).phase ≠ .unborn) :
      (s.parties h).proxy.capabilities.layers = true ∧
        (s.parties h).proxy.capabilities.layerReadback = true := by
    rw [course.equipped h born]
    exact ⟨layers, readback⟩
  refine ⟨?_, ?_, ?_, ?_, ?_⟩
  · intro outcome idle unsent
    obtain ⟨layers, readback⟩ := plan (by simp [idle])
    rw [plan_copyLayer layers readback] at unsent
    by_cases dead : (s.parties h).proxy.lifecycle = .live
    · simp [dead] at unsent
    · rw [if_neg dead] at unsent
      exact ⟨(Plan.answer.inj unsent).symm, fun running =>
        course.shelf_of_dead tended running idle dead handle⟩
  · intro born thread w
    obtain ⟨layers, readback⟩ := plan born
    exact perform_copyLayer layers readback handle thread w
  · intro loop d number busy
    have at' : s.engine.work? = some (loop, d) := by rw [busy]; rfl
    have known : s.engine.Knows h :=
      (sound.inv.first busy).known (by simp [State.view, busy, Engine.Running])
    rw [busy] at known
    obtain ⟨c, there⟩ := Option.isSome_iff_exists.1 known
    have able : d.config.capabilities.layerReadback = true := tended.set loop d at' ▸ readback
    exact (tended.holds loop d at').copy invoke perform there able handle
  · intro command reply s' step
    obtain ⟨before, result, dealings, submitted, rfl, right⟩ := course.copy_returns tended step
    refine ⟨before, result, dealings, submitted, ?_, right⟩
    cases result <;> rfl
  · intro command s' step
    obtain ⟨-, stopped, disabled⟩ := sound.inv.returned_none step
    exact ⟨rfl, stopped, disabled⟩

/-- A list that fills whatever it is drawn on with white. -/
def whiteout : DisplayList := ⟨⟨1⟩, [⟨.clear .white, none⟩]⟩

theorem layers_read_back_whiteout :
    ∃ log s loop d, Course idleHost 64 .standard log s ∧
      (∀ message ∈ log.of ⟨1⟩, message.paints = true) ∧
      s.engine = .busy loop d ⟨3, .message ⟨1⟩ (.run (.copyLayer ⟨1⟩))⟩ ∧
      Shelf.of (s.dealings ⟨1⟩) ⟨1⟩ = some ⟨⟨1, 1⟩, some whiteout⟩ ∧
      ReadsOwn idleHost 64 .standard log s ⟨1⟩ ⟨1⟩ := by
  have start : Course idleHost 64 .standard [] (.start (.start .standard ()) ⟨1⟩) := .start _ _ rfl
  obtain ⟨_, opening⟩ := start.extend (.opens false)
  obtain ⟨_, submitted⟩ := opening.extend
    (@Step.submits _ _ _ _ _ _ _ _ ⟨1⟩ (.opening false) rfl (by decide) (by simp [State.start]))
  obtain ⟨_, taken⟩ := submitted.extend (.takes rfl rfl)
  obtain ⟨_, answered⟩ := taken.extend (.answers rfl rfl)
  obtain ⟨_, opened⟩ := answered.extend (@Step.receives _ _ _ _ _ _ _ _ ⟨1⟩ _ _ _ rfl rfl)
  obtain ⟨_, calling⟩ := opened.extend (@Step.calls _ _ _ _ _ _ _ _ ⟨1⟩ (.createLayer ⟨1, 1⟩) rfl)
  obtain ⟨_, asked⟩ := calling.extend
    (@Step.submits _ _ _ _ _ _ _ _ ⟨1⟩ (.request (.createLayer ⟨1, 1⟩) (.createLayer ⟨1, 1⟩)) rfl
      (by decide) (by simp [State.handled, State.setParty]))
  obtain ⟨_, taken⟩ := asked.extend (.takes rfl rfl)
  obtain ⟨_, answered⟩ := taken.extend (.answers rfl rfl)
  obtain ⟨_, made⟩ := answered.extend (@Step.receives _ _ _ _ _ _ _ _ ⟨1⟩ _ _ _ rfl rfl)
  obtain ⟨_, calling⟩ := made.extend
    (@Step.calls _ _ _ _ _ _ _ _ ⟨1⟩ (.pushLayerUpdate ⟨1⟩ whiteout) rfl)
  obtain ⟨_, pushed⟩ := calling.extend
    (@Step.submits _ _ _ _ _ _ _ _ ⟨1⟩ (.notice (.pushLayerUpdate ⟨1⟩ whiteout)) rfl
      (by decide) (by simp [State.handled, State.setParty]))
  obtain ⟨_, taken⟩ := pushed.extend (.takes rfl rfl)
  obtain ⟨_, waits⟩ := taken.extend (.serves rfl rfl)
  obtain ⟨_, calling⟩ := waits.extend (@Step.calls _ _ _ _ _ _ _ _ ⟨1⟩ (.copyLayer ⟨1⟩) rfl)
  obtain ⟨_, asked⟩ := calling.extend
    (@Step.submits _ _ _ _ _ _ _ _ ⟨1⟩ (.request (.copyLayer ⟨1⟩) (.copyLayer ⟨1⟩)) rfl
      (by decide) (by simp [State.handled, State.setParty]))
  obtain ⟨log, course⟩ := asked.extend (.takes rfl rfl)
  have paints : ∀ message ∈ log.of ⟨1⟩, message.paints = true := by
    rw [course.told ⟨1⟩ trivial]
    exact List.all_eq_true.1 rfl
  exact ⟨log, _, _, _, course, paints, rfl, rfl, layers_read_back course rfl rfl paints ⟨1⟩⟩

end Exchange

namespace Session

/-- The owner of a layer reads it, tries to on the thread that the layer is on, and reads it again.
-/
def readThrice : StateM (Stage Rig.headless) (List CallOutcome) := do
  let _ ← Stage.perform (.spawn ⟨"render", "render", standardCapacity, .standard⟩ none)
  match ← Stage.control.makeProxy 0 false with
  | .error _ => return []
  | .ok p => do
    let (p, _) ← Stage.control.perform 0 p (.createLayer ⟨1, 1⟩)
    let (p, before) ← Stage.control.perform 0 p (.copyLayer ⟨1⟩)
    let (p, inside) ← Stage.inWorld (Caller.onRenderThread.perform 0 p (.copyLayer ⟨1⟩))
    let (_, after) ← Stage.control.perform 0 p (.copyLayer ⟨1⟩)
    return [before, inside, after]

/-- What a call found of a layer: its pixels, or nothing if there is no such layer. -/
def found? : CallOutcome → Option (Option Bitmap)
  | .ok (.pixels pixels) => some pixels
  | .error .invalidHandle => some none
  | _ => none

/-- The layer is there all the time, and is not found in between. -/
theorem copy_refused_on_render_thread :
    (readThrice .empty).1.map found? =
      [some (some (.ofSize 1 1)), some none, some (some (.ofSize 1 1))] := by
  decide +kernel

end Session

end RenderRelay

import RenderRelay.Proofs.Correspondence.Headless
import RenderRelay.Proofs.Custody.Release
import RenderRelay.Proofs.Faultless
import RenderRelay.Proofs.Repaint.Faithful

/-!
The headless backend's count of live canvases. It is the number of contexts that still have one
(`serveAll_census`), so that it never falls short when a canvas is destroyed, and a context is
refused just if that many are too many.
-/

namespace RenderRelay

open DeviceOp

/-! ### Contexts with a canvas -/

section Canvases

variable {σ φ : Type} {B : Backend σ}

def Context.canvases (c : Context B φ) : Nat := if c.canvas.isSome then 1 else 0

namespace RenderLoop

def canvases (loop : RenderLoop B φ) : Nat :=
  loop.contexts.entries.countP fun e => e.2.canvas.isSome

def otherCanvases (loop : RenderLoop B φ) (h : ProxyHandle) : Nat :=
  (loop.contexts.erase h).entries.countP fun e => e.2.canvas.isSome

theorem canvases_of_get? {loop : RenderLoop B φ} {h : ProxyHandle} {c : Context B φ}
    (there : loop.contexts.get? h = some c) :
    loop.canvases = loop.otherCanvases h + c.canvases := by
  unfold canvases
  rw [(Table.entries_perm there).countP_eq, List.countP_cons]
  rfl

theorem canvases_insert (loop : RenderLoop B φ) (h : ProxyHandle) (c : Context B φ)
    (nextLayer : LayerHandle) :
    (⟨loop.contexts.insert h c, nextLayer⟩ : RenderLoop B φ).canvases =
      loop.otherCanvases h + c.canvases := by
  unfold canvases
  rw [(Table.insert_perm loop.contexts h c).countP_eq, List.countP_cons]
  rfl

theorem otherCanvases_of_unknown {loop : RenderLoop B φ} {h : ProxyHandle}
    (unknown : loop.contexts.get? h = none) : loop.otherCanvases h = loop.canvases := by
  unfold otherCanvases
  rw [Table.erase_entries unknown]
  rfl

end RenderLoop

end Canvases

namespace Headless

variable {ω φ τ : Type} {report : LogRecord → ω → ω}
  {invoke : φ → Frame → FunctorInfo → StateM ω (Frame × Completion)}
  {perform : τ → StateM ω Completion}

/-- The device is set up like this, and so many canvases live. -/
structure Census (config : Config) (live : Nat) (d : Device ω) : Prop where
  config : d.config = config
  live : d.live = live

def counted (config : Config) (live : Nat) : Upkeep report invoke where
  device := Census config live
  surface _ := True
  callback _ := True
  report _ _ census := ⟨census.config, census.live⟩
  present _ _ _ _ census := ⟨census.config, census.live⟩
  invoke _ _ _ _ _ census := ⟨census.config, census.live⟩

/-! ### Canvases -/

section Canvases

variable {config : Config} {d : Device ω} {n : Nat}

def Config.reached (config : Config) (live : Nat) : Prop :=
  ∃ most, config.maxCanvases = some most ∧ most ≤ live

theorem createCanvas_returns (translucent : Bool) : (createCanvas report translucent).Returns := by
  refine returns_get.bind fun d => ?_
  split
  · exact returns_pure _
  · exact Returns.bind (fun _ => ⟨_, _, rfl⟩) fun _ =>
      Returns.bind (fun _ => ⟨_, _, rfl⟩) fun _ => returns_pure _

theorem createCanvas_census (census : Census config n d) (translucent : Bool) :
    (createCanvas report translucent).Ensures d fun made d' =>
      (∃ e, made = .error e ∧ config.reached n ∧ Census config n d') ∨
        ∃ canvas, made = .ok canvas ∧ ¬config.reached n ∧ Census config (n + 1) d' := by
  obtain ⟨rfl, rfl⟩ := census
  refine ensures_bind.2 (ensures_get.2 ?_)
  split
  case h_1 most full =>
    obtain ⟨configured, full⟩ := Option.filter_eq_some_iff.1 full
    refine ensures_pure.2 (.inl ⟨_, rfl, ⟨most, configured, ?_⟩, rfl, rfl⟩)
    simpa using full
  case h_2 room =>
    refine ensures_bind.2 (ensures_set.2 (ensures_bind.2 (ensures_modify.2 (ensures_pure.2 ?_))))
    refine .inr ⟨_, rfl, ?_, rfl, rfl⟩
    rintro ⟨most, configured, full⟩
    simp only [configured, Option.filter_some, full, decide_true, if_true] at room
    exact Option.some_ne_none most room

theorem unbindSurface_census (census : Census config n d) (canvas : Canvas) :
    (unbindSurface report canvas).Ensures d fun _ d' => Census config n d' := by
  unfold unbindSurface
  split
  · exact ensures_pure.2 census
  · exact ensures_bind.2 (ensures_modify.2 (ensures_pure.2 ⟨census.config, census.live⟩))

theorem destroyCanvas_census (census : Census config (n + 1) d) (canvas : Canvas) :
    (destroyCanvas report canvas).Ensures d fun _ d' => Census config n d' := by
  refine ensures_bind.2 ((unbindSurface_census census canvas).mono fun _ d₁ census => ?_)
  refine ensures_bind.2 (ensures_get.2 (ensures_bind.2 (ensures_set.2 (ensures_modify.2 ?_))))
  exact ⟨census.config, by simp [census.live]⟩

end Canvases

/-! ### Commands -/

section Commands

variable {config : Config} {c : Context (backend report) φ} {d : Device ω} {n : Nat}

theorem releaseAll_census (census : Census config (n + c.canvases) d) :
    c.releaseAll.Ensures d fun c' d' => Census config n d' ∧ c'.canvas = none := by
  refine ensures_bind.2 (ensures_destroyLayers _ ?_)
  split
  case h_1 none =>
    have census : Census config n d := by simpa [Context.canvases, none] using census
    exact ensures_pure.2 ⟨census, none⟩
  case h_2 canvas there =>
    have census : Census config (n + 1) d := by simpa [Context.canvases, there] using census
    exact ensures_bind.2 ((destroyCanvas_census census canvas).mono fun _ d' census =>
      ensures_pure.2 ⟨census, rfl⟩)

theorem teardown_census (census : Census config (n + c.canvases) d) :
    (c.teardown (host report invoke perform)).Ensures d fun _ d' => Census config n d' := by
  refine ensures_bind.2 ((releaseAll_census census).mono fun c' d' released => ?_)
  exact (Context.ensures_note _).2 ⟨released.1.config, released.1.live⟩

theorem release_census (census : Census config (n + c.canvases) d) :
    (c.release (host report invoke perform) true).Ensures d fun c' d' =>
      Census config (n + c'.canvases) d' := by
  refine ensures_bind.2 ((releaseAll_census census).mono fun c' d' released => ?_)
  refine ensures_bind.2 ((Context.ensures_note _).2 (ensures_pure.2 ?_))
  have gone : c'.canvases = 0 := by simp [Context.canvases, released.2]
  rw [gone]
  exact ⟨released.1.config, released.1.live⟩

theorem destroy_census (census : Census config (n + c.canvases) d) :
    (c.destroy (host report invoke perform) true).Ensures d fun c' d' =>
      Census config (n + c'.canvases) d' := by
  rw [Context.destroy_eq]
  split
  case h_1 => exact release_census census
  case h_2 canvas there =>
    refine ensures_bind.2 ((unbindSurface_census census canvas).mono fun canvas' d₁ census => ?_)
    refine release_census ?_
    simpa [Context.canvases, there] using census

theorem supports_counted (fresh : LayerHandle) {command : Command Surface φ}
    (lasting : command ≠ .destroy true) :
    ((counted config n : Upkeep report invoke).constraint perform).correspondence.Supports
      fresh fresh command := by
  cases command with
  | bindSurface s => trivial
  | updateSurface s => exact fun _ _ => trivial
  | attachFunctor functor => trivial
  | createLayer size => exact Upkeep.createsLayers _ fresh
  | destroyLayer layer => exact Upkeep.destroysLayers _
  | destroy full =>
    rintro rfl
    exact absurd rfl lasting
  | _ => trivial

/-- **A command changes the count by the canvas that it destroys.** -/
theorem dispatch_census (census : Census config (n + c.canvases) d) (fresh : LayerHandle)
    (command : Command Surface φ) :
    (c.dispatch (host report invoke perform) fresh command).Ensures d fun r d' =>
      Census config (n + r.2.canvases) d' := by
  by_cases full : command = .destroy true
  · subst full
    refine ensures_bind.2 ((Context.ensures_note _).2 (ensures_bind.2 ?_))
    refine (destroy_census ?_).mono fun c' d' census => ensures_pure.2 census
    exact ⟨census.config, census.live⟩
  · intro r d' run
    have fits : ((counted config (n + c.canvases) : Upkeep report invoke).constraint perform).Fits
      c := ⟨fun _ _ _ _ => trivial, fun _ _ => trivial, fun _ _ _ => trivial⟩
    have kept := (Constraint.dispatch_fits fits (supports_counted fresh full) census r d' run).2
    have canvas := Context.dispatch_canvas _ c fresh full d r d' run
    rw [Context.canvases, canvas]
    exact kept

end Commands

/-! ### The thread -/

section Thread

variable {config : Config} {loop : RenderLoop (backend report) φ} {d : Device ω} {n : Nat}

theorem create_returns (loop : RenderLoop (backend report) φ) (h : ProxyHandle)
    (translucent : Bool) : (loop.create (host report invoke perform) h translucent).Returns := by
  refine (createCanvas_returns translucent).bind fun made => ?_
  cases made with
  | ok canvas =>
    exact ((host report invoke perform).note_returns _ _ _).bind fun _ => returns_pure _
  | error e =>
    exact ((host report invoke perform).note_returns _ _ _).bind fun _ => returns_pure _

/-- A context is refused just if as many canvases live as may. -/
theorem create_census (census : Census config (n + loop.canvases) d) {h : ProxyHandle}
    (unknown : loop.contexts.get? h = none) (translucent : Bool) :
    (loop.create (host report invoke perform) h translucent).Ensures d fun r d' =>
      ((∃ e, r.1 = .error e) ↔ config.reached (n + loop.canvases)) ∧
        Census config (n + r.2.canvases) d' := by
  refine ensures_bind.2 ((createCanvas_census census translucent).mono fun made d₁ kept => ?_)
  obtain ⟨e, rfl, full, census⟩ | ⟨canvas, rfl, room, census⟩ := kept
  · refine ensures_bind.2 ((Host.ensures_note _).2 (ensures_pure.2 ?_))
    exact ⟨⟨fun _ => full, fun _ => ⟨e, rfl⟩⟩, census.config, census.live⟩
  · refine ensures_bind.2 ((Host.ensures_note _).2 (ensures_pure.2 ⟨?_, census.config, ?_⟩))
    · simpa using room
    · rw [RenderLoop.canvases_insert, RenderLoop.otherCanvases_of_unknown unknown]
      exact census.live

theorem teardownAll_census {contexts : List (ProxyHandle × Context (backend report) φ)}
    (census : Census config (n + contexts.countP fun e => e.2.canvas.isSome) d) :
    (RenderLoop.teardownAll (host report invoke perform) contexts).Ensures d fun _ d' =>
      Census config n d' := by
  induction contexts generalizing d with
  | nil => exact ensures_pure.2 census
  | cons e rest ih =>
    refine ensures_bind.2 ((Host.ensures_note _).2 (ensures_bind.2 ?_))
    rw [List.countP_cons, ← Nat.add_assoc] at census
    refine (teardown_census (c := e.2) ?_).mono fun _ d' census => ih census
    exact ⟨census.config, census.live⟩

theorem run_census (census : Census config (n + loop.canvases) d) (h : ProxyHandle)
    (command : Command Surface φ) :
    (loop.run (host report invoke perform) h command).Ensures d fun r d' =>
      Census config (n + r.2.canvases) d' := by
  unfold RenderLoop.run
  split
  case h_1 =>
    exact ensures_bind.2 ((Host.ensures_note _).2 (ensures_pure.2 ⟨census.config, census.live⟩))
  case h_2 c there =>
    rw [RenderLoop.canvases_of_get? there, ← Nat.add_assoc] at census
    refine ensures_bind.2 ((dispatch_census census _ command).mono fun r d' census => ?_)
    rw [Nat.add_assoc, ← loop.canvases_insert h r.2 (RenderLoop.layerAfter loop.nextLayer r.1)]
      at census
    exact ensures_pure.2 census

theorem dispose_census (census : Census config (n + loop.canvases) d) (h : ProxyHandle) :
    (loop.dispose (host report invoke perform) h).Ensures d fun loop' d' =>
      Census config (n + loop'.canvases) d' := by
  unfold RenderLoop.dispose
  split
  case h_1 =>
    exact ensures_bind.2 ((Host.ensures_note _).2 (ensures_pure.2 ⟨census.config, census.live⟩))
  case h_2 c there =>
    rw [RenderLoop.canvases_of_get? there, ← Nat.add_assoc] at census
    exact ensures_bind.2 ((teardown_census census).mono fun _ d' census => ensures_pure.2 census)

/-- **An envelope keeps the count**, and the last one takes every canvas off it. -/
theorem serve_census (census : Census config (n + loop.canvases) d)
    (envelope : Envelope Surface φ τ)
    (unknown : ∀ h, envelope.created? = some h → loop.contexts.get? h = none) :
    (loop.serve (host report invoke perform) envelope).Ensures d fun served d' =>
      (∀ loop' ack, served = .next loop' ack → Census config (n + loop'.canvases) d') ∧
        (served = .stopped → Census config n d') := by
  refine RenderLoop.serve_ensures (H := host report invoke perform)
    (P := fun loop d => Census config (n + loop.canvases) d) (Q := Census config n) envelope ?_
    (run_census census) (dispose_census census) ?_ ?_ ?_
  · rintro h translucent rfl
    exact (create_census census (unknown h rfl) translucent).mono fun _ _ kept => kept.2
  · exact fun task => ⟨census.config, census.live⟩
  · exact fun record d' census => ⟨census.config, census.live⟩
  · refine ensures_bind.2 ((teardownAll_census census).mono fun _ d' census => ?_)
    exact (Host.ensures_note _).2 ⟨census.config, census.live⟩

/-- **So does a list of envelopes.** -/
theorem serveAll_census {turns : List (Turn Surface φ τ)} (fresh : RenderLoop.Fresh turns loop)
    (census : Census config (n + loop.canvases) d) :
    (RenderLoop.serveAll (host report invoke perform) turns loop).Ensures d fun r d' =>
      (∀ loop', r.2 = some loop' → Census config (n + loop'.canvases) d') ∧
        (r.2 = none → Census config n d') := by
  have kept := RenderLoop.serveAll_ensures (H := host report invoke perform) turns
    (P := fun turns loop d => RenderLoop.Fresh turns loop ∧ Census config (n + loop.canvases) d)
    (Q := Census config n) (fun turn rest loop d holds => ?_) ⟨fresh, census⟩
  · exact kept.mono fun r d' kept => ⟨fun loop' same => (kept.1 loop' same).2, kept.2⟩
  · obtain ⟨fresh, census⟩ := holds
    intro served d' run
    have serves := RenderLoop.serve_serves _ _ _ _ _ _ run
    have census : Census config (n + (loop.later turn.others).canvases) d := census
    have kept := serve_census census turn.envelope fresh.asked served d' run
    refine ⟨?_, kept.2⟩
    rintro loop' ack rfl
    exact ⟨fresh.next serves, kept.1 loop' ack rfl⟩

end Thread

end Headless

/-! ### Lifetimes -/

open RenderLoop Headless in
/-- **Every canvas and every layer is released once.** On any backend, whatever a thread was sent up
to its end, each object that was made was used while it lived, released once and not touched
afterwards; and the end is reached wherever no operation of the backend ends in a fault. On the
headless backend the contexts that still have a canvas are those that the count of live ones counts,
which alone decides on new ones. -/
theorem every_object_released_once :
    (∀ (σ φ τ : Type) (B : Backend σ) (H : Host B φ τ) (turns : List (Turn σ φ τ))
        (nextLayer : LayerHandle) (d d' : B.Device) (acks : List Acknowledgement),
      (Turn.created turns).Nodup →
      (serveAll H turns (.start nextLayer)).runOn d = (.ok (acks, none), d') →
      ∃ d'', (serveAll H.ledgered turns (.start nextLayer)).runOn (.start d) =
          (.ok (acks, none), d'') ∧
        d''.inner = d' ∧
        ∀ object, d''.history object = [] ∨ Ledgered.Released (d''.history object)) ∧
    (∀ (σ φ τ : Type) (B : Backend σ) (H : Host B φ τ) (turns : List (Turn σ φ τ))
        (nextLayer : LayerHandle) (d : B.Device),
      B.Faultless → (∃ turn ∈ turns, turn.envelope = .shutdown) →
      ∃ acks d', (serveAll H turns (.start nextLayer)).runOn d = (.ok (acks, none), d')) ∧
    (∀ (ω φ τ : Type) (report : LogRecord → ω → ω)
        (invoke : φ → Frame → FunctorInfo → StateM ω (Frame × Completion))
        (perform : τ → StateM ω Completion) (turns : List (Turn Surface φ τ))
        (nextLayer : LayerHandle) (d d' : Device ω) (acks : List Acknowledgement)
        (final : Option (RenderLoop (backend report) φ)),
      (Turn.created turns).Nodup →
      (serveAll (host report invoke perform) turns (.start nextLayer)).runOn d =
        (.ok (acks, final), d') →
      (∀ loop, final = some loop →
        d'.live = d.live + loop.canvases ∧
        ∀ h translucent, loop.contexts.get? h = none →
          ∃ result loop' d'', (loop.create (host report invoke perform) h translucent).runOn d' =
              (.ok (result, loop'), d'') ∧
            ((∃ e, result = .error e) ↔ d.config.reached (d.live + loop.canvases))) ∧
      (final = none → d'.live = d.live)) := by
  refine ⟨?_, ?_, ?_⟩
  · intro σ φ τ B H turns nextLayer d d' acks nodup run
    obtain ⟨final, d'', run', stopped, inner⟩ := serveAll_ledgered run
    obtain rfl : final = none := by simpa using stopped
    have accounts := (serveAll_accounts (H := H) (.start nodup nextLayer)
      (fun h c there => by simp [RenderLoop.start] at there) (Accounts.start d) _ _ run').2 rfl
    exact ⟨d'', run', inner, accounts.all_released⟩
  · intro σ φ τ B H turns nextLayer d faultless last
    obtain ⟨⟨acks, final⟩, d', run⟩ := serveAll_returns faultless H turns (.start nextLayer) d
    obtain rfl : final = none := (serveAll_stops turns _ d _ _ run).2 last
    exact ⟨acks, d', run⟩
  · intro ω φ τ report invoke perform turns nextLayer d d' acks final nodup run
    have started : Census d.config
        (d.live + (.start nextLayer : RenderLoop (backend report) φ).canvases) d := ⟨rfl, rfl⟩
    have counted := serveAll_census (.start nodup nextLayer) started _ _ run
    refine ⟨fun loop there => ⟨(counted.1 loop there).live, ?_⟩, fun none => (counted.2 none).live⟩
    intro h translucent unknown
    obtain ⟨⟨result, loop'⟩, d'', made⟩ := create_returns loop h translucent d'
    have refused := create_census (counted.1 loop there) unknown translucent _ _ made
    exact ⟨result, loop', d'', made, refused.1⟩

def blank : Backend Unit where
  Device := Unit
  Canvas := Unit
  Layer := Unit
  Frame := Unit
  name := "blank"
  capabilities _ := .all
  createCanvas _ := pure (.ok ())
  bindSurface _ _ _ := pure (.ok (), ())
  unbindSurface _ := pure ()
  resize _ _ := pure (.ok (), ())
  beginFrame _ _ := pure (.ok none, ())
  drawOp _ _ := pure ()
  endFrame _ _ := pure (.ok (), ())
  createLayer _ := pure (.ok ())
  destroyCanvas _ := pure ()

theorem blank_faultless : blank.Faultless := by
  constructor <;> intros <;> exact returns_pure _

def blankHost : Host blank Unit Unit where
  invoke _ _ _ := pure ((), .finished)
  perform _ := pure .finished
  report _ _ := ()

/-- A context and its layer, and the end of the thread. -/
def shortLife {σ : Type} : List (Turn σ Unit Unit) :=
  [⟨0, .message ⟨1⟩ (.create true)⟩, ⟨0, .message ⟨1⟩ (.run (.createLayer ⟨1, 1⟩))⟩,
    ⟨0, .shutdown⟩]

open RenderLoop Headless in
theorem every_object_released_once_short_life :
    (Turn.created (shortLife (σ := Surface))).Nodup ∧ blank.Faultless ∧
      (∃ turn ∈ shortLife (σ := Unit), turn.envelope = .shutdown) ∧
      ∃ acks d', (serveAll idleHost shortLife (.start ⟨1⟩)).runOn (.start .standard ()) =
          (.ok (acks, none), d') ∧
        (∃ d'', (serveAll idleHost.ledgered shortLife (.start ⟨1⟩)).runOn
            (.start (.start .standard ())) = (.ok (acks, none), d'') ∧
          d''.inner = d' ∧
          ∀ object, d''.history object = [] ∨ Ledgered.Released (d''.history object)) ∧
        d'.live = 0 ∧
        ∃ acks d', (serveAll blankHost shortLife (.start ⟨1⟩)).runOn () =
          (.ok (acks, none), d') := by
  have nodup {σ : Type} : (Turn.created (shortLife (σ := σ))).Nodup := by
    simp [shortLife, Turn.created, Envelope.created?]
  have last {σ : Type} : ∃ turn ∈ shortLife (σ := σ), turn.envelope = .shutdown :=
    ⟨⟨0, .shutdown⟩, by simp [shortLife], rfl⟩
  have run : ∃ acks d', (serveAll idleHost shortLife (.start ⟨1⟩)).runOn (.start .standard ()) =
      (.ok (acks, none), d') := ⟨_, _, rfl⟩
  obtain ⟨acks, d', run⟩ := run
  obtain ⟨released, ends, counted⟩ := every_object_released_once
  refine ⟨nodup, blank_faultless, last, acks, d', run, ?_, ?_, ?_⟩
  · exact released _ _ _ _ idleHost shortLife ⟨1⟩ _ d' acks nodup run
  · exact (counted _ _ _ _ _ _ shortLife ⟨1⟩ _ d' acks none nodup run).2 rfl
  · exact ends _ _ _ blank blankHost shortLife ⟨1⟩ () blank_faultless last

end RenderRelay

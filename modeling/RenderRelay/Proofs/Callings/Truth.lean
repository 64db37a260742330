import RenderRelay.Proofs.Callings.Thread
import RenderRelay.Proofs.Layers.Placement
import RenderRelay.Proofs.Repaint.Outcome

/-!
Callbacks are told the truth. A diary of the world outside has every call of a callback, with the
frame that it was given and what it was told. If callbacks leave frames their size and damage, then
what the context told agrees with what the backend made, and the calls are those that the lists ask
for, with the frames counted from the replies (`callbacks_told_truth`).
-/

namespace RenderRelay

open DeviceOp

/-- The call of a callback, with its frame and what it is told. -/
structure Invocation (φ : Type) where
  callback : φ
  frame : Headless.Frame
  info : FunctorInfo

def Invocation.calling {φ : Type} (i : Invocation φ) : Calling φ :=
  ⟨i.callback, i.info.displayList, i.info.clip, i.info.frameIndex⟩

/-- What the callback is told of its frame is so. -/
structure Invocation.Truthful {φ : Type} (i : Invocation φ) : Prop where
  viewport : i.info.viewport = i.frame.size
  damage : i.info.damage = i.frame.damage
  inside : i.frame.damage.Within i.frame.size

/-! ### Counting frames -/

/-- The frames that a context has drawn, after one more reply. A new one has drawn none. -/
def Acknowledgement.frames (h : ProxyHandle) (frames : Nat) (ack : Acknowledgement) : Nat :=
  if ack.handle = h then
    match ack.reply with
    | .created (.ok _) => 0
    | .drawn .drawn => frames + 1
    | _ => frames
  else frames

/-- The frames that a context has drawn, told from all replies until now. -/
def framesDrawn (h : ProxyHandle) (acks : List Acknowledgement) : Nat :=
  acks.foldl (Acknowledgement.frames h) 0

theorem framesDrawn_concat (h : ProxyHandle) (acks : List Acknowledgement) (ack : Acknowledgement) :
    framesDrawn h (acks ++ [ack]) = ack.frames h (framesDrawn h acks) := by
  simp only [framesDrawn, List.foldl_append, List.foldl_cons, List.foldl_nil]

theorem Acknowledgement.frames_command (h : ProxyHandle) (stats : FrameStats) {reply : Reply}
    (command : reply.kind ≠ .created) :
    Acknowledgement.frames h stats.drawn ⟨h, reply⟩ = (stats.after (some reply)).drawn := by
  unfold Acknowledgement.frames
  rw [if_pos rfl]
  cases reply with
  | created result => exact absurd rfl command
  | drawn status => cases status <;> rfl
  | _ => rfl

theorem Acknowledgement.frames_other {h k : ProxyHandle} (other : k ≠ h) (frames : Nat)
    (reply : Reply) : Acknowledgement.frames h frames ⟨k, reply⟩ = frames := if_neg other

namespace Headless

variable {ω φ τ : Type} {report : LogRecord → ω → ω}
  {invoke : φ → Frame → FunctorInfo → StateM ω (Frame × Completion)}
  {perform : τ → StateM ω Completion}

/-- The contexts of a thread count the frames that the replies tell of. -/
def Counted (H : Host (backend report) φ τ) (loop : RenderLoop (backend report) φ)
    (acks : List Acknowledgement) : Prop :=
  ∀ h c, loop.contexts.get? h = some c → Arisen H c ∧ c.stats.drawn = framesDrawn h acks

namespace Counted

variable {loop loop' : RenderLoop (backend report) φ} {acks : List Acknowledgement}

theorem start (H : Host (backend report) φ τ) (nextLayer : LayerHandle) :
    Counted H (.start nextLayer) [] := by
  intro h c there
  simp [RenderLoop.start] at there

theorem reply (counted : Counted (host report invoke perform) loop acks) {h k : ProxyHandle}
    {c : Context (backend report) φ} (there : loop.contexts.get? h = some c) (other : k ≠ h)
    (reply : Option Reply) :
    Arisen (host report invoke perform) c ∧
      c.stats.drawn = framesDrawn h (acks ++ (reply.map (⟨k, ·⟩)).toList) := by
  obtain ⟨arisen, frames⟩ := counted h c there
  refine ⟨arisen, ?_⟩
  cases reply with
  | none => simpa using frames
  | some r =>
    rw [Option.map_some, Option.toList_some, framesDrawn_concat, Acknowledgement.frames_other other]
    exact frames

theorem serve (counted : Counted (host report invoke perform) loop acks)
    {envelope : Envelope Surface φ τ} {ack : Option Acknowledgement}
    (serves : loop.Serves (host report invoke perform) envelope (.next loop' ack)) :
    Counted (host report invoke perform) loop' (acks ++ ack.toList) := by
  generalize next : RenderLoop.Served.next loop' ack = served at serves
  cases serves with
  | @made k translucent canvas d d' run =>
    obtain ⟨rfl, rfl⟩ := RenderLoop.Served.next.inj next
    intro h c there
    simp only [Table.get?_insert] at there
    split at there
    case isTrue same =>
      obtain rfl := Option.some.inj there
      refine ⟨.made run, ?_⟩
      rw [Option.toList_some, framesDrawn_concat]
      exact (if_pos same).symm
    case isFalse other => exact counted.reply there other (some _)
  | @refused k translucent e =>
    obtain ⟨rfl, rfl⟩ := RenderLoop.Served.next.inj next
    intro h c there
    obtain ⟨arisen, frames⟩ := counted h c there
    refine ⟨arisen, frames.trans ?_⟩
    rw [Option.toList_some, framesDrawn_concat]
    exact (ite_self _).symm
  | @obeyed k command c c' reply d d' there run =>
    obtain ⟨rfl, rfl⟩ := RenderLoop.Served.next.inj next
    obtain ⟨arisen, frames⟩ := counted k c there
    have booked := dispatch_booked arisen.coherent _ _ _ _ run
    have kind := Context.dispatch_replyKind _ _ _ _ _ _ _ run
    intro h c₁ there'
    simp only [Table.get?_insert] at there'
    split at there'
    case isTrue same =>
      subst same
      obtain rfl := Option.some.inj there'
      refine ⟨.obeyed arisen _ command run, booked.stats ▸ ?_⟩
      cases reply with
      | none => simpa [FrameStats.after] using frames
      | some r =>
        have answer : r.kind ≠ .created := by
          intro created
          rw [Option.map_some, created] at kind
          cases command <;> simp [Command.replyKind] at kind
        rw [Option.map_some, Option.toList_some, framesDrawn_concat, ← frames,
          Acknowledgement.frames_command k c.stats answer]
    case isFalse other => exact counted.reply there' other reply
  | dropped unknown =>
    obtain ⟨rfl, rfl⟩ := RenderLoop.Served.next.inj next
    simpa using counted
  | @disposed k c there =>
    obtain ⟨rfl, rfl⟩ := RenderLoop.Served.next.inj next
    intro h c₁ there'
    simp only [Table.get?_erase] at there'
    split at there'
    · simp at there'
    · simpa using counted h c₁ there'
  | ignored unknown =>
    obtain ⟨rfl, rfl⟩ := RenderLoop.Served.next.inj next
    simpa using counted
  | performed =>
    obtain ⟨rfl, rfl⟩ := RenderLoop.Served.next.inj next
    simpa using counted
  | stopped => cases next

/-- **Frames are counted right all along a run.** -/
theorem serveAll {turns : List (Turn Surface φ τ)} {acks' : List Acknowledgement}
    {final : RenderLoop (backend report) φ} {d d' : Device ω}
    (counted : Counted (host report invoke perform) loop acks)
    (run : (RenderLoop.serveAll (host report invoke perform) turns loop).runOn d =
      (.ok (acks', some final), d')) :
    Counted (host report invoke perform) final (acks ++ acks') := by
  induction turns generalizing loop acks acks' d with
  | nil =>
    obtain ⟨⟨rfl, rfl⟩, -⟩ : ([] = acks' ∧ loop = final) ∧ d = d' := by
      simpa [RenderLoop.serveAll] using run
    simpa using counted
  | cons turn rest ih =>
    obtain ⟨loop', ack, d₁, acks₁, served, ended, rfl⟩ := RenderLoop.serveAll_cons.1 run
    have later : Counted (host report invoke perform) (loop.later turn.others) acks := counted
    have next := later.serve (RenderLoop.serve_serves _ _ _ _ _ _ served)
    rw [← List.append_assoc]
    exact ih next ended

end Counted

/-! ### The diary -/

/-- A world outside with a diary of the calls. -/
structure Diary (ω φ : Type) where
  world : ω
  entries : List (Invocation φ)

namespace Diary

def reporting (report : LogRecord → ω → ω) (record : LogRecord) (w : Diary ω φ) : Diary ω φ :=
  { w with world := report record w.world }

/-- A callback does what it does, and its call is entered. -/
def invoking (invoke : φ → Frame → FunctorInfo → StateM ω (Frame × Completion)) (callback : φ)
    (f : Frame) (info : FunctorInfo) : StateM (Diary ω φ) (Frame × Completion) := fun w =>
  let (ended, world) := invoke callback f info w.world
  (ended, ⟨world, w.entries ++ [⟨callback, f, info⟩]⟩)

def performing (perform : τ → StateM ω Completion) (task : τ) : StateM (Diary ω φ) Completion :=
  fun w =>
    let (ended, world) := perform task w.world
    (ended, { w with world })

@[reducible] def host (report : LogRecord → ω → ω)
    (invoke : φ → Frame → FunctorInfo → StateM ω (Frame × Completion))
    (perform : τ → StateM ω Completion) : Host (backend (@reporting ω φ report)) φ τ :=
  Headless.host (reporting report) (invoking invoke) (performing perform)

/-- Since then these calls were entered, and all of them truthful. -/
def Since (before : List (Invocation φ)) (called : List (Calling φ)) (w : Diary ω φ) : Prop :=
  ∃ made, w.entries = before ++ made ∧ made.map Invocation.calling = called ∧
    ∀ i ∈ made, i.Truthful

theorem Since.refl (w : Diary ω φ) : Since w.entries [] w :=
  ⟨[], (List.append_nil _).symm, rfl, by simp⟩

theorem Since.enter {before : List (Invocation φ)} {called : List (Calling φ)} {w : Diary ω φ}
    (since : Since before called w) {i : Invocation φ} (truthful : i.Truthful) (world : ω) :
    Since before (called ++ [i.calling]) ⟨world, w.entries ++ [i]⟩ := by
  obtain ⟨made, entries, rfl, all⟩ := since
  refine ⟨made ++ [i], by rw [entries, List.append_assoc], by simp, ?_⟩
  simpa [or_imp, forall_and] using ⟨all, truthful⟩

end Diary

/-- Any pixels and colours, and callbacks that leave frames their size and damage. -/
def keeping (invoke : φ → Frame → FunctorInfo → StateM ω (Frame × Completion)) : Standards φ where
  pixel _ := True
  color _ := True
  callback := KeepsFrame invoke
  transparent := trivial
  quantize _ _ := trivial
  overPixel _ _ _ _ := trivial

theorem heeds_keeping (report : LogRecord → ω → ω)
    (invoke : φ → Frame → FunctorInfo → StateM ω (Frame × Completion))
    (perform : τ → StateM ω Completion) (before : List (Invocation φ)) :
    (keeping invoke).Heeds (Diary.reporting report) (Diary.invoking invoke)
      (Diary.performing perform) (Diary.Since before) where
  reports _ _ _ kept := kept
  performs _ _ _ kept := kept
  invokes called callback list size damage clip index f w keeps frame kept := by
    obtain ⟨sized, damaged⟩ := keeps f ⟨list, size, damage, clip, index⟩ w.world
    have inside : f.damage.Within f.size := by
      rw [frame.damage, frame.size]
      exact frame.inside
    have told : Invocation.Truthful ⟨callback, f, ⟨list, size, damage, clip, index⟩⟩ :=
      ⟨frame.size.symm, frame.damage.symm, inside⟩
    have left : (keeping invoke).OnFrame size damage
        (invoke callback f ⟨list, size, damage, clip, index⟩ w.world).1.1 :=
      ⟨frame.inside, sized.trans frame.size, damaged.trans frame.damage, fun _ _ _ _ => trivial⟩
    exact ⟨left, kept.enter told _⟩

/-- Every callback that is attached leaves frames their size and damage. -/
def AttachesKeeping (invoke : φ → Frame → FunctorInfo → StateM ω (Frame × Completion))
    (turns : List (Turn Surface φ τ)) : Prop :=
  ∀ turn ∈ turns, ∀ h functor, turn.envelope = .message h (.run (.attachFunctor functor)) →
    KeepsFrame invoke functor.callback

theorem AttachesKeeping.admits {turns : List (Turn Surface φ τ)}
    (attaches : AttachesKeeping invoke turns) {turn : Turn Surface φ τ} (mem : turn ∈ turns) :
    (keeping invoke).Admits turn.envelope := by
  have items (list : DisplayList) : (keeping invoke).OnList list := by
    intro item _
    unfold Standards.Item
    split <;> trivial
  have attached := attaches turn mem
  unfold Standards.Admits
  split
  case h_1 h command same =>
    cases command with
    | draw list damage => exact items list
    | pushLayerUpdate layer list => exact items list
    | attachFunctor functor => exact attached h functor same
    | _ => trivial
  case h_2 => trivial

theorem onDevice_keeping {world : List (Calling φ) → Diary ω φ → Prop} {called : List (Calling φ)}
    {d : Device (Diary ω φ)} (kept : world called d.outside) :
    (keeping invoke).OnDevice world called d :=
  ⟨kept, trivial, fun _ _ _ _ _ _ _ => trivial⟩

theorem serve_enters {loop : RenderLoop (backend (Diary.reporting report)) φ}
    (on : (keeping invoke).OnLoop loop) {envelope : Envelope Surface φ τ}
    (admitted : (keeping invoke).Admits envelope) (d : Device (Diary ω φ)) :
    let served := (RenderLoop.serve (Diary.host report invoke perform) loop envelope).runOn d
    ∃ made, served.2.outside.entries = d.outside.entries ++ made ∧
      (∀ i ∈ made, i.Truthful) ∧ made.map Invocation.calling <+: loop.callings envelope ∧
      ∀ loop' ack, served.1 = .ok (.next loop' ack) →
        (∀ a, ack = some a → a.reply ≠ .drawn .skipped) →
          made.map Invocation.calling = loop.callings envelope := by
  intro served
  have kept : (keeping invoke).OnDevice (Diary.Since d.outside.entries) [] d :=
    onDevice_keeping (Diary.Since.refl _)
  have tracks := Standards.serve_tracks
    (heeds_keeping report invoke perform d.outside.entries) on admitted d kept
  obtain ⟨called, part, ⟨made, entries, rfl, truthful⟩, -⟩ :=
    tracks.always fun _ _ ⟨called, part, _, left⟩ => ⟨called, part, left⟩
  refine ⟨made, entries, truthful, part, fun loop' ack ended shown => ?_⟩
  obtain ⟨called, -, done, ⟨made', entries', callings, -⟩, -⟩ :=
    tracks.ensures (.next loop' ack) served.2 (Prod.ext ended rfl)
  obtain rfl : made = made' := List.append_cancel_left (entries.symm.trans entries')
  exact callings.trans ((done loop' ack rfl).made shown)

/-- **Callbacks are told the truth.** If all of them leave frames their size and damage, then
however a run ends, every call of its diary was truthful. An envelope of the run makes the calls
that its command asks for, in order and no others; all of them, if the thread goes on and no frame
was skipped. The frames that these calls count are those that the replies told of before. -/
theorem callbacks_told_truth (report : LogRecord → ω → ω)
    (invoke : φ → Frame → FunctorInfo → StateM ω (Frame × Completion))
    (perform : τ → StateM ω Completion) (config : Config) (turns : List (Turn Surface φ τ))
    (attaches : AttachesKeeping invoke turns) (nextLayer : LayerHandle)
    (reading : Nat → Nat → Bool) (world : ω) :
    let H := Diary.host report invoke perform
    let start : Device (Diary ω φ) := .watched config reading ⟨world, []⟩
    (∀ i ∈ ((RenderLoop.serveAll H turns (.start nextLayer)).runOn start).2.outside.entries,
      i.Truthful) ∧
    ∀ before turn after, turns = before ++ turn :: after → ∀ acks loop d,
      (RenderLoop.serveAll H before (.start nextLayer)).runOn start = (.ok (acks, some loop), d) →
      let served := (RenderLoop.serve H (loop.later turn.others) turn.envelope).runOn d
      (∀ h c, loop.contexts.get? h = some c → c.stats.drawn = framesDrawn h acks) ∧
      ∃ made, served.2.outside.entries = d.outside.entries ++ made ∧
        (∀ i ∈ made, i.Truthful) ∧
        made.map Invocation.calling <+: loop.callings turn.envelope ∧
        ∀ loop' ack, served.1 = .ok (.next loop' ack) →
          (∀ a, ack = some a → a.reply ≠ .drawn .skipped) →
            made.map Invocation.calling = loop.callings turn.envelope := by
  intro H start
  have started : (keeping invoke).OnDevice (Diary.Since []) [] start :=
    onDevice_keeping (Diary.Since.refl _)
  refine ⟨?_, fun before turn after split acks loop d run => ⟨?_, ?_⟩⟩
  · have settles := Standards.serveAll_settles (heeds_keeping report invoke perform [])
      (fun turn mem => attaches.admits mem) (Standards.OnLoop.start nextLayer) started
    obtain ⟨called, ⟨made, entries, -, truthful⟩, -⟩ := settles.always fun _ _ left => left.1
    rw [entries]
    exact truthful
  · intro h c there
    simpa using ((Counted.start H nextLayer).serveAll run h c there).2
  · have earlier : ∀ turn ∈ before, (keeping invoke).Admits turn.envelope :=
      fun turn mem => attaches.admits (split ▸ List.mem_append_left _ mem)
    have admitted : (keeping invoke).Admits turn.envelope :=
      attaches.admits (split ▸ List.mem_append_right _ (.head _))
    have settles := Standards.serveAll_settles (heeds_keeping report invoke perform [])
      earlier (Standards.OnLoop.start nextLayer) started
    have on : (keeping invoke).OnLoop (loop.later turn.others) :=
      (settles.ensures _ _ run).2.2 loop rfl
    exact serve_enters on admitted d

/-- A callback over a part of the window, and a layer that another one draws. -/
def badge : DisplayList :=
  ⟨⟨7⟩, [⟨.functor ⟨1⟩, some ⟨0, 0, 1, 1⟩⟩, ⟨.layer ⟨1⟩ ⟨0, 0, 1, 2⟩, none⟩]⟩

def decal : DisplayList := ⟨⟨8⟩, [⟨.functor ⟨1⟩, none⟩]⟩

/-- The second frame of a window, with a layer that is drawn before it; nobody sees either frame. -/
theorem callbacks_told_truth_badge :
    let window : Surface := ⟨1, "window", false⟩
    let invoke (_ : Unit) (f : Frame) (_ : FunctorInfo) : StateM Unit (Frame × Completion) :=
      pure (f, .finished)
    let before : List (Turn Surface Unit Unit) := [.create false, .run (.bindSurface window),
      .run (.setup ⟨3, 2⟩), .run (.attachFunctor ⟨⟨1⟩, ()⟩), .run (.createLayer ⟨1, 2⟩),
      .run (.draw badge Damage.whole.encode),
      .run (.pushLayerUpdate ⟨1⟩ decal)].map (⟨0, .message ⟨1⟩ ·⟩)
    let turn : Turn Surface Unit Unit :=
      ⟨0, .message ⟨1⟩ (.run (.draw badge Damage.whole.encode))⟩
    let H := Diary.host (fun _ _ => ()) invoke fun _ => pure .finished
    let ended := (RenderLoop.serveAll H (before ++ [turn]) (.start ⟨1⟩)).runOn
      (.watched .standard (fun _ _ => true) ⟨(), []⟩)
    ended.2.outside.entries.map Invocation.calling =
      [⟨(), ⟨7⟩, some ⟨0, 0, 1, 1⟩, 0⟩, ⟨(), ⟨8⟩, none, 1⟩, ⟨(), ⟨7⟩, some ⟨0, 0, 1, 1⟩, 1⟩] ∧
    (∀ i ∈ ended.2.outside.entries, i.Truthful) ∧
    ∃ acks loop d,
      (RenderLoop.serveAll H before (.start ⟨1⟩)).runOn
          (.watched .standard (fun _ _ => true) ⟨(), []⟩) = (.ok (acks, some loop), d) ∧
      framesDrawn ⟨1⟩ acks = 1 ∧
      ∃ made,
        ((RenderLoop.serve H (loop.later 0) turn.envelope).runOn d).2.outside.entries =
          d.outside.entries ++ made ∧
        made.map Invocation.calling <+: [⟨(), ⟨8⟩, none, 1⟩, ⟨(), ⟨7⟩, some ⟨0, 0, 1, 1⟩, 1⟩] := by
  intro window invoke before turn H ended
  have attaches : AttachesKeeping invoke (before ++ [turn]) :=
    fun _ _ _ _ _ _ _ _ => ⟨rfl, rfl⟩
  obtain ⟨truthful, each⟩ := callbacks_told_truth (fun _ _ => ()) invoke (fun _ => pure .finished)
    .standard (before ++ [turn]) attaches ⟨1⟩ (fun _ _ => true) ()
  have called : ended.2.outside.entries.map Invocation.calling =
      [⟨(), ⟨7⟩, some ⟨0, 0, 1, 1⟩, 0⟩, ⟨(), ⟨8⟩, none, 1⟩, ⟨(), ⟨7⟩, some ⟨0, 0, 1, 1⟩, 1⟩] := by
    decide +kernel
  have first : ((RenderLoop.serveAll H before (.start ⟨1⟩)).runOn
      (.watched .standard (fun _ _ => true) ⟨(), []⟩)).1.toOption.bind (fun r =>
        r.2.map fun loop => (framesDrawn ⟨1⟩ r.1, loop.callings turn.envelope)) =
          some (1, [⟨(), ⟨8⟩, none, 1⟩, ⟨(), ⟨7⟩, some ⟨0, 0, 1, 1⟩, 1⟩]) := by
    decide +kernel
  subst ended H
  refine ⟨called, truthful, ?_⟩
  generalize run : (RenderLoop.serveAll _ before _).runOn _ = ran at first ⊢
  obtain ⟨fault | ⟨acks, _ | loop⟩, d⟩ := ran
  · simp [Except.toOption] at first
  · simp [Except.toOption] at first
  · obtain ⟨frames, asked⟩ : framesDrawn ⟨1⟩ acks = 1 ∧ loop.callings turn.envelope = _ :=
      Prod.mk.inj (Option.some.inj first)
    obtain ⟨-, made, entries, -, part, -⟩ := each before turn [] rfl acks loop d run
    exact ⟨acks, loop, d, rfl, frames, made, entries, asked ▸ part⟩

end Headless

end RenderRelay

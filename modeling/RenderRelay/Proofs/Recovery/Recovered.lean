import RenderRelay.Proofs.Layers.ReadBack
import RenderRelay.Proofs.Recovery.Paired
import RenderRelay.Proofs.Recovery.Refused

/-!
Failures are recovered from. A binding or a size that is accepted after some that were refused
leaves what it leaves alone, in a run of the whole system too (`failures_recovered`); a size, but
for what is to be repainted then. Of that difference nothing is heard, and a frame of everything
does not show it, as far as callbacks keep nothing of what they are told about frames.
-/

namespace RenderRelay

open DeviceOp

variable {φ τ : Type}

namespace Headless

variable {ω π : Type} {report : LogRecord → ω → ω}
  {invoke : φ → Frame → FunctorInfo → StateM ω (Frame × Completion)}
  {perform : τ → StateM ω Completion}

/-! ### What follows -/

/-- Whatever is done on the first desk and ends, ends on the second one too and is heard alike; `R`
says how the two are left. -/
def Follows (H : Host (backend report) φ τ)
    (R : Desk (backend report) φ → Device ω → Desk (backend report) φ → Device ω → Prop)
    (desk : Desk (backend report) φ) (d : Device ω) (desk' : Desk (backend report) φ)
    (d' : Device ω) : Prop :=
  ∀ doings heard final e, (Desk.doAll H doings desk).runOn d = (.ok (heard, final), e) →
    ∃ final' e', (Desk.doAll H doings desk').runOn d' = (.ok (heard, final'), e') ∧
      Option.Rel (fun end₁ end₂ => R end₁ e end₂ e') final final'

def Indistinct (desk : Desk (backend report) φ) (d : Device ω) (desk' : Desk (backend report) φ)
    (d' : Device ω) : Prop :=
  desk' = desk ∧ d'.gallery = d.gallery

/-- The same proxy; and a draw that repaints everything on the second desk, whichever proxy it is
of, and is drawn on the first one, is drawn on both, and presents the same. -/
structure DrawsAlike (H : Host (backend report) φ τ) (desk : Desk (backend report) φ)
    (d : Device ω) (desk' : Desk (backend report) φ) (d' : Device ω) : Prop where
  proxy : desk'.proxy = desk.proxy
  shows : ∀ {k : ProxyHandle} {command : Command Surface φ} {damage : Damage}
    {c' : Context (backend report) φ}, command.damage? = some damage →
    desk'.loop.contexts.get? k = some c' → RepaintsAll d'.config.capabilities c' damage →
    ∀ loop e, (desk.loop.run H k command).runOn d = (.ok (some (.drawn .drawn), loop), e) →
      ∃ loop' e' s, (desk'.loop.run H k command).runOn d' =
          (.ok (some (.drawn .drawn), loop'), e') ∧
        boundTo c' = some s ∧ PresentsAlike s d.gallery e.gallery d'.gallery e'.gallery

/-- The proxy's context repaints everything on the second desk if it does on the first; nothing else
is different. -/
def ButRedraw (desk desk' : Desk (backend report) φ) : Prop :=
  ∃ c redraw, desk.loop.contexts.get? desk.proxy.handle = some c ∧
    (c.needsFullRedraw = true → redraw = true) ∧
    desk' = put desk desk.proxy.viewport { c with needsFullRedraw := redraw }

/-- **What is recovered of calls that fail.** A binding after one that failed, and a size that is
accepted after any number that were refused, have the outcome that they have alone and leave what
they leave alone, but for reports and, after a size, for what is to be repainted. A refused size is
set on the context and its canvas and noted nowhere, so that every size is sent after it. A layer
that is refused changes nothing. -/
structure Recovers (report : LogRecord → ω → ω)
    (invoke : φ → Frame → FunctorInfo → StateM ω (Frame × Completion))
    (perform : τ → StateM ω Completion) (desk : Desk (backend report) φ) (d : Device ω) : Prop where
  bind : ∀ {first second : Call Surface φ} {a b : Surface} {e : RenderError}
    {outcome : CallOutcome} {desk₁ desk₂ : Desk (backend report) φ} {d₁ d₂ : Device ω},
    first.command.Binds a → second.command.Binds b →
    desk.Calls (host report invoke perform) d first (.error e) desk₁ d₁ →
    desk₁.Calls (host report invoke perform) d₁ second outcome desk₂ d₂ →
    ∃ d₃, desk.Calls (host report invoke perform) d second outcome desk₂ d₃ ∧
      Told report d d₂ d₃ ∧
      ∀ {π : Type} {part : ω → π}, Unread report invoke perform part →
        Follows (host report invoke perform) Indistinct desk₂ d₂ desk₂ d₃ ∧
        Follows (host report invoke perform) Indistinct desk₂ d₃ desk₂ d₂
  setup : ∀ {size : Viewport} {result : CallResult} {desk₁ desk₂ : Desk (backend report) φ}
    {d₁ d₂ : Device ω}, desk.Refuses (host report invoke perform) d desk₁ d₁ →
    desk₁.Calls (host report invoke perform) d₁ (.setup size) (.ok result) desk₂ d₂ →
    ∃ desk₃ d₃, desk.Calls (host report invoke perform) d (.setup size) (.ok result) desk₃ d₃ ∧
      ButRedraw desk₃ desk₂ ∧ Told report d d₂ d₃ ∧
      ∀ {π : Type} {part : ω → π}, Unread report invoke perform part →
        (∀ f, Heedless invoke part f) →
          Follows (host report invoke perform) (DrawsAlike (host report invoke perform)) desk₂ d₂
            desk₃ d₃
  refused : ∀ {size : Viewport} {e : RenderError} {desk₁ : Desk (backend report) φ} {d₁ : Device ω},
    desk.Calls (host report invoke perform) d (.setup size) (.error e) desk₁ d₁ →
    (∃ c, desk.loop.contexts.get? desk.proxy.handle = some c ∧
      desk₁ = put desk none
        (refit c (some size) (c.needsFullRedraw || c.viewport ≠ some size))) ∧
    (∀ v, (desk₁.proxy.plan (.setup v : Call Surface φ)).2 = .ask (.setup v)) ∧
    Reported report d d₁
  layer : ∀ {size : Viewport} {e : RenderError} {desk₁ : Desk (backend report) φ} {d₁ : Device ω},
    desk.Calls (host report invoke perform) d (.createLayer size) (.error e) desk₁ d₁ →
    desk₁ = desk ∧ Reported report d d₁

/-! ### Desks side by side -/

theorem Unread.beside_of_told (unread : Unread report invoke perform part) {d₀ d d' : Device ω}
    (told : Told report d₀ d d') {G : Gallery → Gallery → Prop} (refl : ∀ g, G g g) :
    Device.Beside d₀.config G part d d' := by
  have unread (records : List LogRecord) (world : ω) :
      part (records.foldl (fun world record => report record world) world) = part world := by
    induction records generalizing world with
    | nil => rfl
    | cons record rest ih => exact (ih _).trans (unread.reports record world)
  obtain ⟨⟨records, rfl⟩, records', rfl⟩ := told
  exact ⟨rfl, rfl, rfl, refl _, (unread _ _).trans (unread _ _).symm⟩

/-- **Reports that nothing reads make no difference.** -/
theorem Unread.follows_indistinct (unread : Unread report invoke perform part) {config : Config}
    {d d' : Device ω} (beside : Device.Beside config Eq part d d')
    (desk : Desk (backend report) φ) :
    Follows (host report invoke perform) Indistinct desk d desk d' := by
  intro doings heard final e run
  have desks : desk.Beside (fun c c' => c' = c) desk :=
    ⟨rfl, List.forall₂_same.2 fun _ _ => ⟨rfl, rfl⟩, rfl⟩
  obtain ⟨⟨_, final'⟩, e', run', ⟨rfl, finals⟩, left⟩ :=
    (unread.fellows presentable_eq).doAll_simulates doings desks d d' beside _ _ run
  refine ⟨final', e', run', ?_⟩
  cases finals with
  | none => exact .none
  | some ends => exact .some ⟨ends.eq, left.gallery.symm⟩

/-- **What is to be repainted is not heard**, and a frame of everything does not show it. -/
theorem Unread.follows_drawsAlike (unread : Unread report invoke perform part)
    (heedless : ∀ f, Heedless invoke part f) {config : Config} {d d' : Device ω}
    (beside : Device.Beside config Counts part d d') {desk desk' : Desk (backend report) φ}
    (desks : desk.Beside Paired desk') :
    Follows (host report invoke perform) (DrawsAlike (host report invoke perform)) desk d desk'
      d' := by
  intro doings heard final e run
  obtain ⟨⟨_, final'⟩, e', run', ⟨rfl, finals⟩, left⟩ :=
    (unread.fellows_paired heedless).doAll_simulates doings desks d d' beside _ _ run
  refine ⟨final', e', run', ?_⟩
  cases finals with
  | none => exact .none
  | some ends =>
    refine .some ⟨ends.proxy, fun draws there whole loop e₁ drawn => ?_⟩
    rw [left.second] at whole
    exact unread.run_whole heedless ends.loop there draws whole left _ _ drawn rfl

theorem paired_refit {c : Context (backend report) φ} (coherent : Coherent c)
    (size : Option Viewport) {redraw redraw' : Bool} (more : redraw' = true → redraw = true) :
    Paired (refit c size redraw) (refit c size redraw') := by
  have near : Option.Rel Canvas.Near (refit c size redraw).canvas (refit c size redraw).canvas := by
    cases (refit c size redraw).canvas with
    | none => exact .none
    | some canvas => exact .some (.refl canvas)
  exact .twins (refit_coherent coherent size redraw) (.of_canvas near more)

variable {desk : Desk (backend report) φ} {c : Context (backend report) φ} {d : Device ω}

/-- **Calls that fail on a desk are recovered from.** -/
theorem Attended.recovers (attended : Attended desk c) :
    Recovers report invoke perform desk d where
  bind := by
    intro first second a b e outcome desk₁ desk₂ d₁ d₂ binds binds' failed next
    obtain ⟨d₃, alone, told⟩ := attended.rebinds binds binds' failed next
    refine ⟨d₃, alone, told, fun unread => ⟨?_, ?_⟩⟩
    · exact unread.follows_indistinct (unread.beside_of_told told fun _ => rfl) desk₂
    · exact unread.follows_indistinct (unread.beside_of_told told.symm fun _ => rfl) desk₂
  setup := by
    intro size result desk₁ desk₂ d₁ d₂ refused next
    obtain ⟨redraw, redraw', d₃, more, rfl, alone, told⟩ := attended.refits refused next
    refine ⟨_, d₃, alone, ⟨refit c (some size) redraw', redraw, ?_, more, (put_put ..).symm⟩, told,
      fun unread heedless => ?_⟩
    · simp [put, Table.get?_insert]
    · refine unread.follows_drawsAlike heedless (unread.beside_of_told told .refl)
        ⟨rfl, ?_, rfl⟩
      have same : Table.Alike (fun h => h) (fun _ => Paired) desk.loop.contexts
          desk.loop.contexts := List.forall₂_same.2 fun _ _ => ⟨rfl, .same⟩
      exact same.insert (fun _ _ same => same) (paired_refit attended.coherent _ more)
  refused := by
    intro size e desk₁ d₁ failed
    obtain ⟨rfl, reported⟩ := attended.setup_refused failed
    refine ⟨⟨c, attended.there, rfl⟩, fun v => ?_, reported⟩
    exact congrArg Prod.snd (Proxy.plan_setup (p := { desk.proxy with viewport := none })
      attended.live (Option.some_ne_none v).symm)
  layer := by
    intro size e desk₁ d₁ failed
    obtain ⟨⟨-, kept⟩, told⟩ := (attended.createLayer_told size).ensures (.refl d) _ _ failed
    exact ⟨kept e rfl, told.first⟩

end Headless

namespace Exchange

open Headless

variable {ω : Type} {report : LogRecord → ω → ω}
  {invoke : φ → Frame → FunctorInfo → StateM ω (Frame × Completion)}
  {perform : τ → StateM ω Completion} {capacity : Nat} {capabilities : Capabilities}

/-- **Failures are recovered from** wherever a run of the system gets to: on a running thread,
between the calls of a proxy that is live. What is left on the queue then is handled before the next
call of that proxy, and the run gets to another such state with it. -/
theorem failures_recovered {events : List (Event Surface φ)} {s : State (backend report) φ τ}
    {h : ProxyHandle} {loop : RenderLoop (backend report) φ} {d : Device ω}
    (run : Run (host report invoke perform) capacity capabilities events s)
    (idle : (s.parties h).phase = .idle) (live : (s.parties h).proxy.lifecycle = .live)
    (work : s.engine.work? = some (loop, d)) :
    Recovers report invoke perform ⟨(s.parties h).proxy, loop⟩ d := by
  have sound := Sound.of_run run
  have kept := sound.kept h
  have running := Engine.running_of_work work
  obtain ⟨-, rest⟩ := (sound.inv.standing h).of_idle idle
  cases rest with
  | whole handle life notices known =>
    obtain ⟨c, there⟩ := Option.isSome_iff_exists.1
      ((Engine.isSome_context? running h).2 (known running))
    have accord := kept.accord (by simp [State.account, idle]) c there
    rw [Kept.settled_of_idle (s.account events h).party idle] at accord
    obtain ⟨loop', d', at', context⟩ := Engine.exists_work running
    obtain ⟨rfl, rfl⟩ : loop' = loop ∧ d' = d := by simpa [work, eq_comm] using at'
    rw [context] at there
    have attended : Attended ⟨(s.parties h).proxy, loop'⟩ c :=
      ⟨live, by rwa [← handle] at there, accord.live.2 live, accord.coherent, accord.viewport⟩
    exact attended.recovers
  | forsaken _ life _ => simp [State.view, live] at life
  | contextless _ life _ _ => simp [State.view, live] at life

/-- A proxy is made and bound, a size is refused, and another one is accepted. -/
theorem run_to_refusal :
    ∃ events s loop d, Run idleHost 64 .all events s ∧ (s.parties ⟨1⟩).phase = .idle ∧
      (s.parties ⟨1⟩).proxy.lifecycle = .live ∧ s.engine.work? = some (loop, d) ∧
      ∃ e desk₁ d₁ desk₂ d₂,
        Desk.Calls idleHost ⟨(s.parties ⟨1⟩).proxy, loop⟩ d (.setup ⟨100000, 100000⟩) (.error e)
          desk₁ d₁ ∧
        desk₁.Calls idleHost d₁ (.setup ⟨2, 1⟩) (.ok .done) desk₂ d₂ := by
  have start : Run idleHost 64 .all [] (.start (.start .standard ()) ⟨1⟩) := .start _ _
  have opening := start.step (.opens false)
  have submitted := opening.step
    (@Step.submits _ _ _ _ _ _ _ _ ⟨1⟩ (.opening false) rfl (by decide) (by simp [State.start]))
  have answered := (submitted.step (.takes rfl rfl)).step (.answers rfl rfl)
  have opened := answered.step (@Step.receives _ _ _ _ _ _ _ _ ⟨1⟩ _ _ _ rfl rfl)
  have calling := opened.step
    (@Step.calls _ _ _ _ _ _ _ _ ⟨1⟩ (.bindSurface ⟨0, "window", false⟩) rfl)
  have asked := calling.step
    (@Step.submits _ _ _ _ _ _ _ _ ⟨1⟩ (.request (.bindSurface ⟨0, "window", false⟩)
      (.bindSurface ⟨0, "window", false⟩)) rfl (by decide)
      (by simp [State.handled, State.setParty]))
  have served := (asked.step (.takes rfl rfl)).step (.answers rfl rfl)
  have bound := served.step (@Step.receives _ _ _ _ _ _ _ _ ⟨1⟩ _ _ _ rfl rfl)
  exact ⟨_, _, _, _, bound, rfl, rfl, rfl, _, _, _, _, _, rfl, rfl⟩

/-- Where nothing is reported, and callbacks do nothing, all of it holds. -/
theorem failures_recovered_after_refusal :
    ∃ events s loop d, Run idleHost 64 .all events s ∧ (s.parties ⟨1⟩).phase = .idle ∧
      (s.parties ⟨1⟩).proxy.lifecycle = .live ∧ s.engine.work? = some (loop, d) ∧
      ∃ e desk₁ d₁ desk₂ d₂ desk₃ d₃,
        Desk.Calls idleHost ⟨(s.parties ⟨1⟩).proxy, loop⟩ d (.setup ⟨100000, 100000⟩) (.error e)
          desk₁ d₁ ∧
        desk₁.Calls idleHost d₁ (.setup ⟨2, 1⟩) (.ok .done) desk₂ d₂ ∧
        Desk.Calls idleHost ⟨(s.parties ⟨1⟩).proxy, loop⟩ d (.setup ⟨2, 1⟩) (.ok .done) desk₃ d₃ ∧
        ButRedraw desk₃ desk₂ ∧ Follows idleHost (DrawsAlike idleHost) desk₂ d₂ desk₃ d₃ := by
  obtain ⟨events, s, loop, d, run, idle, live, work, e, desk₁, d₁, desk₂, d₂, failed, next⟩ :=
    run_to_refusal
  have recovers := failures_recovered run idle live work
  obtain ⟨desk₃, d₃, alone, same, -, follows⟩ := recovers.setup (.step .refl failed) next
  have unread : Unread (fun _ (world : Unit) => world)
      (fun (_ : Unit) frame _ => pure (frame, .finished)) (fun (_ : Unit) => pure .finished) id :=
    ⟨fun _ _ => rfl, fun _ _ _ _ _ _ => ⟨rfl, rfl⟩, fun _ _ _ _ => ⟨rfl, rfl⟩⟩
  refine ⟨events, s, loop, d, run, idle, live, work, e, desk₁, d₁, desk₂, d₂, desk₃, d₃, failed,
    next, alone, same, follows unread fun _ => ⟨fun _ _ _ => rfl, ?_⟩⟩
  exact fun _ _ _ _ _ _ size _ => ⟨size, rfl⟩

end Exchange

/-! ### What a refused size changes -/

namespace Headless

def window : Surface := ⟨0, "window", false⟩

/-- A callback that keeps what it was told to repaint. It paints over a frame if that was all of two
pixels the time before. -/
def rememberDamage (_ : Unit) (frame : Frame) (info : FunctorInfo) :
    StateM (Option PixelBox) (Frame × Completion) := fun told =>
  let painted :=
    if told = some (.ofSize 2 1) then frame.drawOp ⟨.clear .transparent, none⟩ else frame
  ((painted, .finished), some info.damage)

/-- Draws with that callback: of everything, in part after these sizes, and of everything again. The
outcomes of all calls, and what is shown then. -/
def drawRemembering (sizes : List Viewport) : List CallOutcome × Presentation :=
  let host : Host (backend fun _ told => told) Unit Unit :=
    host _ rememberDamage fun _ => pure .finished
  let list : DisplayList := ⟨⟨1⟩, [⟨.functor ⟨1⟩, none⟩]⟩
  let calls : List (Call Surface Unit) :=
    [.bindSurface window, .setup ⟨2, 1⟩, .attachFunctor ⟨⟨1⟩, ()⟩, .draw list none] ++
      sizes.map .setup ++ [.draw list (some ⟨0, 0, 1, 1⟩), .draw list none]
  let doings : List (Doing Surface Unit Unit) :=
    .envelope (.message ⟨1⟩ (.create false)) :: calls.map .call
  let (result, d) := (Desk.doAll host doings ⟨.ofHandle ⟨1⟩ .all false, .start ⟨1⟩⟩).runOn
    (.start ⟨none, 8, .all, .black⟩ none)
  ((result.toOption.elim [] Prod.fst).filterMap Heard.outcome?, d.gallery.look window)

end Headless

namespace Session

open Headless

/-- A layer is put far beside the target, in a frame of the lower pixel alone, after these sizes. -/
def drawFarLayer (sizes : List Viewport) : StateM (Stage Rig.headless) (List CallOutcome) := do
  let _ ← Stage.perform (.spawn ⟨"render", "render", standardCapacity, .standard⟩ none)
  match ← Stage.control.makeProxy 0 false with
  | .error _ => return []
  | .ok p => do
    let far : Rect := ⟨.ofBits 0xf149f2ca, .ofBits 0, .ofBits 0x71c9f2ca, .ofBits 0x3f800000⟩
    let (_, outcomes) ← Stage.control.performAll 0 p
      ([.bindSurface window, .setup ⟨1, 2⟩, .createLayer ⟨1, 1⟩, .draw ⟨⟨1⟩, []⟩ none] ++
        sizes.map .setup ++ [.draw ⟨⟨2⟩, [⟨.layer ⟨1⟩ far, none⟩]⟩ (some ⟨0, 1, 1, 2⟩)])
    return outcomes

/-- After a refused size a frame repaints more than it would without. A callback is told so: what it
keeps of that is seen in a later frame of everything. And there may be no end to a frame that would
end without: a layer that is put far off is drawn in both pixels, and so beyond what offsets can
tell. -/
theorem refused_size_seen :
    ((drawRemembering [⟨4, 4⟩, ⟨2, 1⟩]).1.map Except.isOk =
        [true, true, true, true, false, true, true, true] ∧
      (drawRemembering [⟨4, 4⟩, ⟨2, 1⟩]).1.map status? =
        [none, none, none, some .drawn, none, none, some .drawn, some .drawn] ∧
      (drawRemembering [⟨2, 1⟩]).1.map status? =
        [none, none, none, some .drawn, none, some .drawn, some .drawn] ∧
      (drawRemembering [⟨4, 4⟩, ⟨2, 1⟩]).2.front ≠ (drawRemembering [⟨2, 1⟩]).2.front) ∧
    (drawFarLayer [⟨100000, 100000⟩, ⟨1, 2⟩] .empty).1.map Except.isOk =
        [true, true, true, true, false, true, true] ∧
      (drawFarLayer [⟨100000, 100000⟩, ⟨1, 2⟩] .empty).1.getLast?.bind status? = some .skipped ∧
      (drawFarLayer [⟨1, 2⟩] .empty).1.getLast?.bind status? = some .drawn := by
  decide +kernel

end Session

end RenderRelay

import RenderRelay.Proofs.Callings.Engine
import RenderRelay.Proofs.Turns

/-!
What a render thread calls. An envelope makes the calls of the command that it carries, and an
envelope without a command makes none (`serve_tracks`). What all envelopes keep holds however the
thread ends (`serveAll_settles`).
-/

namespace RenderRelay

open DeviceOp

namespace RenderLoop

def callings {σ φ τ : Type} {B : Backend σ} (loop : RenderLoop B φ) :
    Envelope σ φ τ → List (Calling φ)
  | .message h (.run command) =>
    (loop.contexts.get? h).elim [] fun c => c.callings (c.traversed command)
  | _ => []

end RenderLoop

namespace Headless

namespace Standards

variable {ω φ τ : Type} {S : Standards φ} {report : LogRecord → ω → ω}
  {invoke : φ → Frame → FunctorInfo → StateM ω (Frame × Completion)}
  {perform : τ → StateM ω Completion} {world : List (Calling φ) → ω → Prop}

variable (S) in
def OnLoop (loop : RenderLoop (backend report) φ) : Prop :=
  ∀ h c, loop.contexts.get? h = some c → S.OnContext c

variable (S) in
def Admits : Envelope Surface φ τ → Prop
  | .message _ (.run command) => S.Allows command
  | _ => True

variable (S) in
structure DoneEnvelope (loop : RenderLoop (backend report) φ) (envelope : Envelope Surface φ τ)
    (loop' : RenderLoop (backend report) φ) (ack : Option Acknowledgement)
    (made : List (Calling φ)) : Prop where
  next : S.OnLoop loop'
  reply : ∀ a, ack = some a → S.OnReply a.reply
  made : (∀ a, ack = some a → a.reply ≠ .drawn .skipped) → made = loop.callings envelope

theorem OnLoop.start (nextLayer : LayerHandle) :
    S.OnLoop (.start nextLayer : RenderLoop (backend report) φ) := by
  intro h c there
  simp [RenderLoop.start] at there

theorem OnLoop.insert {loop : RenderLoop (backend report) φ} (on : S.OnLoop loop)
    {h : ProxyHandle} {c : Context (backend report) φ} (onContext : S.OnContext c)
    (next : LayerHandle) : S.OnLoop ⟨loop.contexts.insert h c, next⟩ := by
  intro other c' there
  simp only [Table.get?_insert] at there
  split at there
  · exact Option.some.inj there ▸ onContext
  · exact on other c' there

theorem OnLoop.erase {loop : RenderLoop (backend report) φ} (on : S.OnLoop loop)
    (h : ProxyHandle) : S.OnLoop { loop with contexts := loop.contexts.erase h } := by
  intro other c there
  simp only [Table.get?_erase] at there
  split at there
  · simp at there
  · exact on other c there

theorem DoneEnvelope.of_quiet {loop loop' : RenderLoop (backend report) φ}
    {envelope : Envelope Surface φ τ} {ack : Option Acknowledgement} (on : S.OnLoop loop')
    (silent : ∀ a, ack = some a → ∀ m, a.reply ≠ .pixels (.ok m))
    (none : loop.callings envelope = []) : S.DoneEnvelope loop envelope loop' ack [] where
  next := on
  reply a given m same := absurd same (silent a given m)
  made _ := none.symm

theorem DoneEnvelope.of_unanswered {loop loop' : RenderLoop (backend report) φ}
    {envelope : Envelope Surface φ τ} (on : S.OnLoop loop') (none : loop.callings envelope = []) :
    S.DoneEnvelope loop envelope loop' .none [] :=
  .of_quiet on (by simp) none

variable (heeds : S.Heeds report invoke perform world) {called : List (Calling φ)}

include heeds

theorem teardownAll_quiet {entries : List (ProxyHandle × Context (backend report) φ)}
    (on : ∀ entry ∈ entries, S.OnContext entry.2) :
    Quiet (S.OnDevice world)
      (RenderLoop.teardownAll (host report invoke perform) entries) fun _ => True := by
  induction entries with
  | nil => exact .pure trivial
  | cons entry rest ih =>
    refine (heeds.hostNote_quiet _ _ _).bind fun _ _ => ?_
    refine (teardown_quiet heeds (on entry (.head _))).bind fun _ _ => ?_
    exact ih fun entry mem => on entry (.tail _ mem)

theorem stop_quiet {loop : RenderLoop (backend report) φ} (on : S.OnLoop loop) :
    Quiet (S.OnDevice world) (RenderLoop.stop (host report invoke perform) loop)
      fun _ => True := by
  refine (teardownAll_quiet heeds fun entry mem => ?_).bind fun _ _ =>
    heeds.hostNote_quiet _ _ _
  exact on entry.1 entry.2 (Table.get?_of_mem mem)

theorem create_quiet {loop : RenderLoop (backend report) φ} (on : S.OnLoop loop) (h : ProxyHandle)
    (translucent : Bool) :
    Quiet (S.OnDevice world)
      (RenderLoop.create (host report invoke perform) loop h translucent)
      fun r => S.OnLoop r.2 := by
  refine (heeds.createCanvas_quiet translucent).bind ?_
  rintro (e | canvas) made
  · exact (heeds.hostNote_quiet _ _ _).bind fun _ _ => .pure on
  · refine (heeds.hostNote_quiet _ _ _).bind fun _ _ => .pure (on.insert ⟨?_, .empty⟩ _)
    rintro _ ⟨⟩
    exact made canvas rfl

theorem dispose_quiet {loop : RenderLoop (backend report) φ} (on : S.OnLoop loop)
    (h : ProxyHandle) :
    Quiet (S.OnDevice world) (RenderLoop.dispose (host report invoke perform) loop h)
      S.OnLoop := by
  unfold RenderLoop.dispose
  split
  case h_1 => exact (heeds.hostNote_quiet _ _ _).bind fun _ _ => .pure on
  case h_2 c there => exact (teardown_quiet heeds (on h c there)).bind fun _ _ => .pure (on.erase h)

theorem run_tracks {loop : RenderLoop (backend report) φ} (on : S.OnLoop loop) (h : ProxyHandle)
    {command : Command Surface φ} (allowed : S.Allows command) :
    Tracks (S.OnDevice world) called
      (loop.callings (.message h (.run command) : Envelope Surface φ τ))
      (RenderLoop.run (host report invoke perform) loop h command) fun r made =>
        S.DoneEnvelope loop (.message h (.run command) : Envelope Surface φ τ) r.2
          (r.1.map (⟨h, ·⟩)) made := by
  cases there : loop.contexts.get? h with
  | none =>
    unfold RenderLoop.run
    simp only [there]
    refine .after_quiet (heeds.hostNote_quiet _ _ _) fun _ _ => .pure (.of_unanswered on ?_)
    simp [RenderLoop.callings, there]
  | some c =>
    have plan : loop.callings (.message h (.run command) : Envelope Surface φ τ) =
        c.callings (c.traversed command) := by
      simp [RenderLoop.callings, there]
    unfold RenderLoop.run
    simp only [there, plan]
    refine .then_quiet (dispatch_tracks heeds (on h c there) loop.nextLayer allowed) ?_
    rintro ⟨reply, c'⟩ made ended
    refine .pure ⟨on.insert ended.context _, fun a given => ?_, fun shown => ?_⟩
    · obtain ⟨reply', given', rfl⟩ := Option.map_eq_some_iff.1 given
      exact ended.reply reply' given'
    · rw [plan]
      refine ended.made ?_
      rintro rfl
      exact shown _ rfl rfl

/-- **An envelope makes the calls of the command that it carries.** -/
theorem serve_tracks {loop : RenderLoop (backend report) φ} (on : S.OnLoop loop)
    {envelope : Envelope Surface φ τ} (admitted : S.Admits envelope) :
    Tracks (S.OnDevice world) called (loop.callings envelope)
      (RenderLoop.serve (host report invoke perform) loop envelope) fun served made =>
        ∀ loop' ack, served = .next loop' ack → S.DoneEnvelope loop envelope loop' ack made := by
  -- the thread goes on
  have going {loop' : RenderLoop (backend report) φ} {ack : Option Acknowledgement}
      {made : List (Calling φ)} (ended : S.DoneEnvelope loop envelope loop' ack made) :
      ∀ final a, RenderLoop.Served.next loop' ack = .next final a →
        S.DoneEnvelope loop envelope final a made := by
    rintro _ _ ⟨⟩
    exact ended
  match envelope with
  | .message h (.create translucent) =>
    refine .after_quiet (create_quiet heeds on h translucent) fun r on' => .pure (going ?_)
    refine .of_quiet on' ?_ rfl
    rintro _ ⟨⟩ m
    simp
  | .message h .dispose =>
    exact .after_quiet (dispose_quiet heeds on h) fun loop' on' =>
      .pure (going (.of_unanswered on' rfl))
  | .message h (.run command) =>
    exact .then_quiet (run_tracks heeds on h admitted) fun r made ended => .pure (going ended)
  | .task task =>
    have performed : Quiet (S.OnDevice world)
        (liftM ((host report invoke perform).perform task)) fun _ => True :=
      fun called d kept => settles_lift.2 ⟨trivial, kept.inWorld (heeds.performs _ _ _ kept.world)⟩
    refine .after_quiet performed fun completion _ => ?_
    cases completion with
    | finished => exact .pure (going (.of_unanswered on rfl))
    | panicked =>
      exact .after_quiet (heeds.hostNote_quiet _ _ _) fun _ _ =>
        .pure (going (.of_unanswered on rfl))
  | .shutdown => exact .after_quiet (stop_quiet heeds on) fun _ _ => .pure nofun

/-- **What a thread keeps.** However it ends, its device is one after some calls; and unless that
was in a fault, the replies and the contexts that are left meet the standards. -/
theorem serveAll_settles {turns : List (Turn Surface φ τ)}
    (admitted : ∀ turn ∈ turns, S.Admits turn.envelope) {loop : RenderLoop (backend report) φ}
    (on : S.OnLoop loop) {d : Device ω} (kept : S.OnDevice world called d) :
    (RenderLoop.serveAll (host report invoke perform) turns loop).Settles d
      (fun d' => ∃ called, S.OnDevice world called d') fun r d' =>
        (∃ called, S.OnDevice world called d') ∧ (∀ ack ∈ r.1, S.OnReply ack.reply) ∧
          ∀ loop', r.2 = some loop' → S.OnLoop loop' := by
  induction turns generalizing loop d called with
  | nil =>
    refine settles_pure.2 ⟨⟨called, kept⟩, by simp, ?_⟩
    rintro _ ⟨⟩
    exact on
  | cons turn rest ih =>
    have later : S.OnLoop (loop.later turn.others) := on
    have first := serve_tracks heeds later (admitted turn (.head _)) d kept
    refine settles_bind.2 (first.mono ?_ ?_)
    · rintro d' ⟨made, -, kept'⟩
      exact ⟨_, kept'⟩
    rintro (⟨loop', ack⟩ | _) d' ⟨made, -, ended, kept'⟩
    · obtain ⟨next, reply, -⟩ := ended loop' ack rfl
      refine settles_bind.2 ((ih (fun turn mem => admitted turn (.tail _ mem)) next kept').mono
        (fun _ same => same) ?_)
      rintro ⟨acks, final⟩ d'' ⟨kept'', replies, left⟩
      refine settles_pure.2 ⟨kept'', fun a mem => ?_, left⟩
      rcases List.mem_append.1 mem with mem | mem
      · exact reply a (Option.mem_toList.1 mem)
      · exact replies a mem
    · exact settles_pure.2 ⟨⟨_, kept'⟩, by simp, nofun⟩

end Standards

end Headless

end RenderRelay

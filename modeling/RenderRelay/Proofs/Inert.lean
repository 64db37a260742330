import RenderRelay.Proofs.Accord.Calls
import RenderRelay.Proofs.Exchange.Lifetime
import RenderRelay.Proofs.Refusal
import RenderRelay.Session.Run

/-!
Proxies that are not live, and how proxies end. Whatever a proxy that is not live is asked for, on
either side, it does nothing and gives back what stands for nothing (`answerAll_of_not_live`). The
end of a proxy is told to its thread just if the proxy has a handle, whether it is disposed of or
given up (`Arises.endProxy`).
-/

namespace RenderRelay

def Proxy.noOp {σ φ : Type} : Call σ φ → CallOutcome
  | .bindSurface _ => .ok (.bound false)
  | .updateSurface _ => .ok .done
  | .setup _ => .ok .done
  | .draw .. => .ok (.drawn .skipped)
  | .repeatLastDraw => .ok (.drawn .skipped)
  | .destroy _ => .ok .done
  | .attachFunctor _ => .ok .done
  | .detachFunctor _ => .ok .done
  | .createLayer _ => .error .invalidHandle
  | .pushLayerUpdate .. => .ok .done
  | .flushLayerUpdates => .ok .done
  | .copyLayer _ => .error .invalidHandle
  | .destroyLayer _ => .ok .done
  | .flushCaches => .ok .done
  | .setName _ => .ok .done
  | .info => .ok (.info none)
  | .fence => .ok .done

namespace Session

variable {M : Type → Type} [Monad M] {k : Caller M} {p : Proxy}

/-! ### Steps that do nothing -/

/-- A proxy that is not live does nothing on a call and needs nobody. -/
theorem Caller.perform_of_not_live (k : Caller M) (thread : Nat) (dead : p.lifecycle ≠ .live)
    (call : Call Surface Script) : k.perform thread p call = pure (p, Proxy.noOp call) := by
  have disabled : p.isEnabled = false := by simp [Proxy.isEnabled, dead]
  unfold perform Proxy.plan
  rw [if_neg (by simp [disabled])]
  cases call <;> rfl

/-- The answer of a step on a proxy that does nothing. A tree is walked all the same. -/
def idleAnswer (p : Proxy) (w : World) : ProxyStep → Option CallAnswer
  | .sweep tree root => (ChildTable.tree.sweep Caller.sweepLimit root tree).map
      fun (visited, tree) => .swept visited tree.released.reverse
  | .dump => some (.text (p.dumpText none))
  | .debug => some (.text p.debugText)
  | .about => some (.facts p)
  | step => (Caller.callOf? w step).map fun call => .outcome (Proxy.noOp call)

/-- What is noted of a step on a proxy that does nothing. -/
def idleNotes : ProxyStep → List LogRecord
  | .sweep tree root => (ChildTable.tree.sweep Caller.sweepLimit root tree).toList.map
      fun (visited, _) => ⟨.debug, .sweep, s!"released hardware resources of {visited} nodes"⟩
  | _ => []

/-- A caller that does work on the world piece by piece. -/
structure Caller.Faithful (k : Caller M) : Prop where
  inWorld_pure {α : Type} (a : α) : k.inWorld (pure a) = pure a
  inWorld_bind {α β : Type} (work : StateM World α) (next : α → StateM World β) :
    k.inWorld (work >>= next) = k.inWorld work >>= fun a => k.inWorld (next a)

theorem control_faithful (R : Rig) : (Stage.control (R := R)).Faithful where
  inWorld_pure _ := rfl
  inWorld_bind _ _ := rfl

theorem onRenderThread_faithful : Caller.onRenderThread.Faithful where
  inWorld_pure _ := rfl
  inWorld_bind _ _ := rfl

theorem nameLayer_noOp (step : ProxyStep) (call : Call Surface Script) (w : World) :
    Caller.nameLayer step (Proxy.noOp call) w = w := by
  cases step <;> cases call <;> rfl

theorem Caller.Faithful.call_of_not_live [LawfulMonad M] (faithful : k.Faithful) (thread : Nat)
    (dead : p.lifecycle ≠ .live) (step : ProxyStep) :
    (do
      match ← k.inWorld fun w => (Caller.callOf? w step, w) with
      | none => return (p, none)
      | some call => do
        let (p, outcome) ← k.perform thread p call
        k.inWorld (modify (Caller.nameLayer step outcome))
        return (p, some (CallAnswer.outcome outcome))) =
      k.inWorld fun w =>
        ((p, (Caller.callOf? w step).map fun call => .outcome (Proxy.noOp call)), w) := by
  have named (call : Call Surface Script) :
      k.inWorld (modify (Caller.nameLayer step (Proxy.noOp call))) = pure () := by
    rw [← faithful.inWorld_pure]
    congr 1
    funext w
    exact congrArg (Prod.mk ()) (nameLayer_noOp step call w)
  simp only [k.perform_of_not_live thread dead, pure_bind, named]
  have found (found : Option (Call Surface Script)) :
      (match found with
        | none => pure (p, none)
        | some call => pure (p, some (.outcome (Proxy.noOp call)))) =
        k.inWorld (pure (p, found.map fun call => CallAnswer.outcome (Proxy.noOp call))) := by
    rw [faithful.inWorld_pure]
    cases found <;> rfl
  simp only [found]
  exact (faithful.inWorld_bind _ _).symm

/-- **A step on a proxy that is not live only looks names up and makes notes.** -/
theorem Caller.Faithful.answer_of_not_live [LawfulMonad M] (faithful : k.Faithful) (thread : Nat)
    (dead : p.lifecycle ≠ .live) (step : ProxyStep) :
    k.answer thread p step =
      k.inWorld fun w => ((p, idleAnswer p w step), w.noteAll k.side (idleNotes step)) := by
  cases step with
  | sweep tree root =>
    simp only [answer, idleAnswer, idleNotes]
    cases ChildTable.tree.sweep sweepLimit root tree with
    | none => exact (faithful.inWorld_pure _).symm
    | some walked =>
      simp only [k.perform_of_not_live thread dead, pure_bind]
      rw [← faithful.inWorld_pure]
      exact (faithful.inWorld_bind _ _).symm
  | dump =>
    simp only [answer, k.perform_of_not_live thread dead, pure_bind]
    exact (faithful.inWorld_pure _).symm
  | debug => exact (faithful.inWorld_pure _).symm
  | about => exact (faithful.inWorld_pure _).symm
  | _ => exact faithful.call_of_not_live thread dead _

/-! ### Sequences of steps -/

def Caller.answerAll (k : Caller M) (thread : Nat) :
    Proxy → List ProxyStep → M (Proxy × List (Option CallAnswer))
  | p, [] => return (p, [])
  | p, step :: rest => do
    let (p, answer) ← k.answer thread p step
    let (p, answers) ← answerAll k thread p rest
    return (p, answer :: answers)

theorem callOf?_noteAll (side : Side) (records : List LogRecord) (w : World) (step : ProxyStep) :
    Caller.callOf? (w.noteAll side records) step = Caller.callOf? w step := by
  induction records generalizing w with
  | nil => rfl
  | cons record rest ih =>
    refine (ih _).trans ?_
    cases side <;> rfl

theorem idleAnswer_noteAll (p : Proxy) (side : Side) (records : List LogRecord) (w : World)
    (step : ProxyStep) : idleAnswer p (w.noteAll side records) step = idleAnswer p w step := by
  cases step <;> simp only [idleAnswer, callOf?_noteAll]

theorem World.noteAll_append (side : Side) (records more : List LogRecord) (w : World) :
    w.noteAll side (records ++ more) = (w.noteAll side records).noteAll side more :=
  List.foldl_append

theorem Caller.Faithful.inWorld_same (faithful : k.Faithful) {α : Type} (p : Proxy)
    (work : StateM World α) :
    (k.inWorld fun w => ((p, (work w).1), (work w).2)) =
      k.inWorld work >>= fun a => pure (p, a) := by
  simp only [← faithful.inWorld_pure]
  exact faithful.inWorld_bind work fun a => pure (p, a)

/-- **A proxy that is not live stays as it is, whatever steps are made on it.** -/
theorem Caller.Faithful.answerAll_of_not_live [LawfulMonad M] (faithful : k.Faithful)
    (thread : Nat) (dead : p.lifecycle ≠ .live) (steps : List ProxyStep) :
    k.answerAll thread p steps =
      k.inWorld fun w =>
        ((p, steps.map (idleAnswer p w)), w.noteAll k.side (steps.flatMap idleNotes)) := by
  induction steps with
  | nil => exact (faithful.inWorld_pure _).symm
  | cons step rest ih =>
    have first := faithful.inWorld_same p fun w =>
      (idleAnswer p w step, w.noteAll k.side (idleNotes step))
    have others := faithful.inWorld_same p fun w =>
      (rest.map (idleAnswer p w), w.noteAll k.side (rest.flatMap idleNotes))
    rw [answerAll, faithful.answer_of_not_live thread dead step, first]
    simp only [bind_assoc, pure_bind, ih, others]
    simp only [← faithful.inWorld_pure, ← faithful.inWorld_bind]
    congr 1
    funext w
    refine Prod.ext ?_ ?_
    · refine congrArg (fun answers => (p, idleAnswer p w step :: answers)) ?_
      exact List.map_congr_left fun step _ => idleAnswer_noteAll _ _ _ _ _
    · rw [List.flatMap_cons, World.noteAll_append]
      rfl

/-! ### Ends -/

/-- A proxy as it can come about: made for a new context or without one, and then used on either
side, between whatever else goes on. -/
inductive Arises : Proxy → Prop
  | made {q : Proxy} {R : Rig} {s s' : Stage R} {thread : Nat} {translucent : Bool}
      (made : Stage.control.makeProxy thread translucent s = (.ok q, s')) : Arises q
  | standIn (capabilities : Capabilities) (translucent : Bool) :
    Arises (.withoutContext capabilities translucent)
  | control {q : Proxy} {R : Rig} (arises : Arises q) (s : Stage R) (thread : Nat)
      (call : Call Surface Script) : Arises (Stage.control.perform thread q call s).1.1
  | render {q : Proxy} (arises : Arises q) (w : World) (thread : Nat)
      (call : Call Surface Script) :
    Arises (Caller.onRenderThread.perform thread q call w).1.1

section Undisposed

theorem undisposed_disable (undisposed : p.lifecycle ≠ .disposed) (reason : String) :
    (p.disable reason).1.lifecycle ≠ .disposed := by
  unfold Proxy.disable
  split <;> simp_all

theorem undisposed_delivered (undisposed : p.lifecycle ≠ .disposed) (name : String)
    (delivery : Delivery) : (p.delivered name delivery).1.lifecycle ≠ .disposed := by
  cases delivery with
  | disconnected => exact undisposed_disable undisposed _
  | _ => exact undisposed

theorem undisposed_conclude (undisposed : p.lifecycle ≠ .disposed) (call : Call Surface Script)
    (reply : Option Reply) : (p.conclude call reply).1.lifecycle ≠ .disposed := by
  rcases p.conclude_lifecycle call reply with same | ⟨-, destroyed⟩
  · rwa [same]
  · simp [destroyed]

variable {S : Type} {k : Caller (StateM S)}

/-- Waiting for a reply does not dispose of the proxy. -/
def Caller.Sparing (k : Caller (StateM S)) : Prop :=
  ∀ thread p message s, p.lifecycle ≠ .disposed →
    (k.ask thread p message s).1.1.lifecycle ≠ .disposed

theorem control_sparing (R : Rig) : (Stage.control (R := R)).Sparing := by
  intro thread p message s undisposed
  show (Stage.askThread thread p message s).1.1.lifecycle ≠ .disposed
  simp only [Stage.askThread, Stage.inWorld, bind, StateT.bind]
  generalize s.world.send .control thread (.message p.handle message) = sent
  rcases sent with ⟨_ | _ | _, w⟩
  case queued =>
    simp only [get, getThe, MonadStateOf.get, StateT.get, bind, pure, StateT.bind]
    generalize Stage.awaitReply thread p.handle (w.queueLength thread) _ = replied
    rcases replied with ⟨_ | reply, s'⟩
    · exact undisposed_disable undisposed _
    · exact undisposed
  case full => exact undisposed
  case disconnected => exact undisposed_disable undisposed _

theorem onRenderThread_sparing : Caller.onRenderThread.Sparing :=
  fun _ _ _ _ undisposed => undisposed

theorem Caller.Sparing.perform (sparing : k.Sparing) (thread : Nat)
    (undisposed : p.lifecycle ≠ .disposed) (call : Call Surface Script) (s : S) :
    (k.perform thread p call s).1.1.lifecycle ≠ .disposed := by
  have planned := (p.plan_lifecycle call).trans_ne undisposed
  unfold Caller.perform
  generalize p.plan call = plan at *
  rcases plan with ⟨p', outcome | ⟨command, outcome⟩ | command⟩
  · exact planned
  · exact undisposed_delivered planned _ _
  · exact undisposed_conclude (sparing thread p' (.run command) s planned) _ _

end Undisposed

theorem Arises.undisposed (arises : Arises p) : p.lifecycle ≠ .disposed := by
  induction arises with
  | @made p R s s' thread translucent made =>
    let fresh : Proxy :=
      .ofHandle ⟨s.world.handles + 1⟩
        (((s.world.inboxes.get? thread).map Inbox.capabilities).getD .none) translucent
    let asked := Stage.control.ask thread fresh (.create translucent)
      { s with world := { s.world with handles := s.world.handles + 1 } }
    have opened : asked.1.1.opened asked.1.2 = .ok p := congrArg Prod.fst made
    obtain ⟨rfl, -⟩ := Proxy.opened_ok opened
    exact control_sparing R thread fresh _ _ (by simp [fresh, Proxy.ofHandle])
  | standIn capabilities translucent => simp [Proxy.withoutContext]
  | control _ s thread call ih => exact (control_sparing _).perform thread ih call s
  | render _ w thread call ih => exact onRenderThread_sparing.perform thread ih call w

theorem World.send_inboxes {w w' : World} (same : w'.inboxes = w.inboxes) (side : Side)
    (thread : Nat) (envelope : Envelope Surface Script Script) :
    (w'.send side thread envelope).2.inboxes = (w.send side thread envelope).2.inboxes := by
  unfold send
  rw [same]
  split
  · exact same
  · split
    · exact same
    · split
      · exact same
      · rfl

/-- **The end of a proxy.** Disposed of or given up, on either side, it is told to its thread just
if the proxy has a handle. -/
theorem Arises.endProxy (arises : Arises p) (side : Side) (givenUp : Bool) (thread : Nat)
    (held : Bool) (w : World) :
    (w.endProxy side givenUp ⟨p, thread, held⟩).inboxes =
      if p.handle.isValid then (w.send side thread (.message p.handle .dispose)).2.inboxes
      else w.inboxes := by
  have announces : p.announcesEnd = p.handle.isValid := by
    simp [Proxy.announcesEnd, arises.undisposed]
  have noted : (if givenUp then w.noteAll side p.dropReport else w).inboxes = w.inboxes := by
    split
    · exact World.noteAll_inboxes _ _ _
    · rfl
  unfold World.endProxy
  simp only [announces]
  split
  · rw [World.noteAll_inboxes]
    exact World.send_inboxes noted _ _ _
  · exact noted

/-- A call on the render thread gives a command to a queue or nothing. -/
theorem perform_render_inboxes (w : World) (thread : Nat) (p : Proxy) (call : Call Surface Script) :
    (Caller.onRenderThread.perform thread p call w).2.inboxes =
      match (p.plan call).2 with
      | .notify command _ =>
        (w.send .render thread (.message p.handle (.run command))).2.inboxes
      | _ => w.inboxes := by
  have handle := p.plan_handle call
  unfold Caller.perform
  generalize p.plan call = plan at *
  rcases plan with ⟨p', outcome | ⟨command, outcome⟩ | command⟩
  · rfl
  · rw [← handle]
    exact World.noteAll_inboxes _ _ _
  · exact World.noteAll_inboxes .render [_] w

/-- **Proxies that are not live, and how proxies end.** A proxy that is not live stays as it is,
whatever steps are made on it and on whichever side: every step gives back what stands for nothing,
whatever features there are, trees are walked all the same, and all that is new in the world are
notes on those. In every run of the exchange each proxy submits its end once and nothing after it if
it has a handle, and else never, and what gets on the queue was submitted. And a proxy that comes
about and is used in whatever way is at its end, disposed of or given up, told to be so just if it
has a handle. -/
theorem dead_proxy_inert {σ φ τ : Type} {B : Backend σ} (H : Host B φ τ) (capacity : Nat)
    (capabilities : Capabilities) :
    (∀ (p : Proxy) (thread : Nat) (steps : List ProxyStep), p.lifecycle ≠ .live →
      (∀ (R : Rig) (s : Stage R),
        let after := Stage.control.answerAll thread p steps s
        after.1 = (p, steps.map (idleAnswer p s.world)) ∧
          after.2 = { s with world := s.world.noteAll .control (steps.flatMap idleNotes) } ∧
          after.2.world.inboxes = s.world.inboxes) ∧
      ∀ w : World,
        let after := Caller.onRenderThread.answerAll thread p steps w
        after.1 = (p, steps.map (idleAnswer p w)) ∧
          after.2 = w.noteAll .render (steps.flatMap idleNotes) ∧
          after.2.inboxes = w.inboxes) ∧
    (∀ (log : Exchange.Submissions σ φ) (s : Exchange.State B φ τ),
      Exchange.History H capacity capabilities log s → ∀ h,
        (s.parties h).Said h (log.of h) ∧
          ∀ ticket ∈ s.received, ∀ message, ticket.envelope = .message h message →
            (h, message) ∈ log) ∧
    ∀ p, Arises p → ∀ (side : Side) (givenUp held : Bool) (thread : Nat) (w : World),
      (w.endProxy side givenUp ⟨p, thread, held⟩).inboxes =
          (if p.handle.isValid then (w.send side thread (.message p.handle .dispose)).2.inboxes
          else w.inboxes) ∧
        ∀ call, (Caller.onRenderThread.perform thread p call w).2.inboxes =
          match (p.plan call).2 with
          | .notify command _ =>
            (w.send .render thread (.message p.handle (.run command))).2.inboxes
          | _ => w.inboxes := by
  refine ⟨fun p thread steps dead => ⟨fun R s => ?_, fun w => ?_⟩, fun log s history h => ?_, ?_⟩
  · rw [(control_faithful R).answerAll_of_not_live thread dead steps]
    exact ⟨rfl, rfl, World.noteAll_inboxes _ _ _⟩
  · rw [onRenderThread_faithful.answerAll_of_not_live thread dead steps]
    exact ⟨rfl, rfl, World.noteAll_inboxes _ _ _⟩
  · exact ⟨history.said h, fun ticket mem message carries => history.submitted mem carries⟩
  · exact fun p arises side givenUp held thread w =>
      ⟨arises.endProxy side givenUp thread held w, perform_render_inboxes w thread p⟩

theorem dead_proxy_inert_stand_in :
    let p := Proxy.withoutContext .none false
    p.lifecycle ≠ .live ∧ Arises p ∧
      (Stage.control.answerAll 0 p
          [.createLayer "layer" ⟨1, 1⟩, .sweep ⟨[(0, [1])], [], []⟩ 0, .repeatLastDraw]
          (.empty : Stage Rig.headless)).1 =
        (p, [some (.outcome (.error .invalidHandle)), some (.swept 2 [0, 1]),
          some (.outcome (.ok (.drawn .skipped)))]) ∧
      (World.empty.endProxy .control true ⟨p, 0, false⟩).inboxes = World.empty.inboxes := by
  have dead : (Proxy.withoutContext .none false).lifecycle ≠ .live := by decide
  have arises : Arises (.withoutContext .none false) := .standIn _ _
  obtain ⟨inert, -, ends⟩ := dead_proxy_inert Headless.idleHost 64 .all
  exact ⟨dead, arises, ((inert _ 0 _ dead).1 Rig.headless .empty).1,
    (ends _ arises .control true false 0 .empty).1⟩

end Session

end RenderRelay

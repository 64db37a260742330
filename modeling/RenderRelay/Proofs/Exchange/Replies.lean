import RenderRelay.Engine.Proxy
import RenderRelay.Engine.RenderLoop
import RenderRelay.Proofs.DeviceOp

/-!
Which messages are answered, and how. The kind of a reply is its constructor; a command that is
waited for has one kind of reply (`Command.replyKind`), a call looks for one kind
(`Call.replyKind`), and the two agree on whatever a proxy sends (`Proxy.plan_fits`).

`serve_effect` says once what handling an envelope does to the set of contexts and which reply it
gives; the invariant of the exchange is proved from it alone.
-/

namespace RenderRelay

variable {σ φ τ : Type} {B : Backend σ}

/-! ### Kinds of replies -/

inductive ReplyKind where
  | created
  | done
  | surface
  | resized
  | drawn
  | layer
  | pixels
  | info
  deriving DecidableEq

def Reply.kind : Reply → ReplyKind
  | created _ => .created
  | done => .done
  | surface _ => .surface
  | resized _ => .resized
  | drawn _ => .drawn
  | layer _ => .layer
  | pixels _ => .pixels
  | info _ => .info

/-- The kind of reply that a command is answered with; none for one that nobody waits for. -/
def Command.replyKind : Command σ φ → Option ReplyKind
  | bindSurface _ => some .surface
  | updateSurface _ => some .surface
  | setup _ => some .resized
  | draw .. => some .drawn
  | repeatLastDraw => some .drawn
  | destroy _ => some .done
  | attachFunctor _ => none
  | detachFunctor _ => none
  | createLayer _ => some .layer
  | pushLayerUpdate .. => none
  | flushLayerUpdates => none
  | copyLayer _ => some .pixels
  | destroyLayer _ => none
  | flushCaches => none
  | setName _ => none
  | dumpInfo => some .info
  | fence => some .done

def Message.replyKind : Message σ φ → Option ReplyKind
  | create _ => some .created
  | run command => command.replyKind
  | dispose => none

/-- The kind of reply that a call looks for; none for a call that does not wait. -/
def Call.replyKind : Call σ φ → Option ReplyKind
  | bindSurface _ => some .surface
  | updateSurface _ => some .surface
  | setup _ => some .resized
  | draw .. => some .drawn
  | repeatLastDraw => some .drawn
  | destroy _ => some .done
  | attachFunctor _ => none
  | detachFunctor _ => none
  | createLayer _ => some .layer
  | pushLayerUpdate .. => none
  | flushLayerUpdates => none
  | copyLayer _ => some .pixels
  | destroyLayer _ => none
  | flushCaches => none
  | setName _ => none
  | info => some .info
  | fence => some .done

/-! ### What proxies send -/

/-- What is sent without waiting gets no reply, and what is waited for gets a reply of this kind;
none if the call does not wait. -/
def Plan.Fits (kind : Option ReplyKind) : Plan σ φ → Prop
  | .answer _ => True
  | .notify command _ => command.replyKind = none ∧ kind = none
  | .ask command => command.replyKind = kind ∧ kind.isSome

namespace Proxy

theorem planLive_fits (p : Proxy) (call : Call σ φ) :
    (p.planLive call).2.Fits call.replyKind := by
  cases call <;> simp only [planLive] <;> (try split) <;>
    simp [Plan.Fits, Command.replyKind, Call.replyKind]

/-- **A call waits for the kind of reply that its command gets.** -/
theorem plan_fits (p : Proxy) (call : Call σ φ) : (p.plan call).2.Fits call.replyKind := by
  unfold plan
  split
  · exact planLive_fits p call
  · trivial

theorem live_of_plan (p : Proxy) (call : Call σ φ)
    (h : ∀ outcome, (p.plan call).2 ≠ .answer outcome) : p.lifecycle = .live := by
  unfold plan at h
  split at h
  case isTrue live => simpa [isEnabled] using live
  case isFalse => exact absurd rfl (h _)

theorem planLive_handle (p : Proxy) (call : Call σ φ) : (p.planLive call).1.handle = p.handle := by
  cases call <;> simp only [planLive] <;> (try split) <;> rfl

theorem planLive_lifecycle (p : Proxy) (call : Call σ φ) :
    (p.planLive call).1.lifecycle = p.lifecycle := by
  cases call <;> simp only [planLive] <;> (try split) <;> rfl

@[simp] theorem plan_handle (p : Proxy) (call : Call σ φ) : (p.plan call).1.handle = p.handle := by
  unfold plan
  split
  · exact planLive_handle p call
  · rfl

@[simp] theorem plan_lifecycle (p : Proxy) (call : Call σ φ) :
    (p.plan call).1.lifecycle = p.lifecycle := by
  unfold plan
  split
  · exact planLive_lifecycle p call
  · rfl

/-! ### What proxies make of a reply -/

@[simp] theorem countFrame_handle (p : Proxy) (status : DrawStatus) :
    (p.countFrame status).handle = p.handle := by
  cases status <;> rfl

@[simp] theorem countFrame_lifecycle (p : Proxy) (status : DrawStatus) :
    (p.countFrame status).lifecycle = p.lifecycle := by
  cases status <;> rfl

@[simp] theorem conclude_handle (p : Proxy) (call : Call σ φ) (reply : Option Reply) :
    (p.conclude call reply).1.handle = p.handle := by
  unfold conclude
  split <;> (try split) <;> simp

/-- A reply changes the lifecycle of a live proxy at most, and then everything was destroyed. -/
theorem conclude_lifecycle (p : Proxy) (call : Call σ φ) (reply : Option Reply) :
    (p.conclude call reply).1.lifecycle = p.lifecycle ∨
      p.lifecycle = .live ∧ (p.conclude call reply).1.lifecycle = .destroyed := by
  unfold conclude
  split <;> (try split) <;> simp_all

@[simp] theorem disable_handle (p : Proxy) (reason : String) :
    (p.disable reason).1.handle = p.handle := by
  unfold disable
  split <;> rfl

theorem disable_lifecycle {p : Proxy} (h : p.lifecycle = .live) (reason : String) :
    (p.disable reason).1.lifecycle = .disabled := by
  simp [disable, h]

end Proxy

/-! ### What contexts answer -/

open DeviceOp in
/-- **A command gets the kind of reply it should, exactly if it should get one.** -/
theorem Context.execute_replyKind (H : Host B φ τ) (c : Context B φ) (fresh : LayerHandle)
    (command : Command σ φ) (d : B.Device) :
    (execute H c fresh command).Ensures d fun r _ => r.1.map Reply.kind = command.replyKind := by
  cases command with
  | bindSurface s =>
    simp only [execute, ensures_bind, ensures_pure]
    exact .of_forall fun _ _ => rfl
  | updateSurface s =>
    simp only [execute, ensures_bind, ensures_pure]
    exact .of_forall fun _ _ => rfl
  | setup v =>
    simp only [execute, ensures_bind, ensures_pure]
    exact .of_forall fun _ _ => rfl
  | draw list record =>
    simp only [execute, ensures_bind, ensures_pure]
    exact .of_forall fun _ _ => rfl
  | repeatLastDraw =>
    simp only [execute]
    split
    · simp only [ensures_bind, ensures_pure]
      exact .of_forall fun _ _ => rfl
    · simp only [ensures_bind, ensures_pure, ensures_note]
      rfl
  | destroy full =>
    simp only [execute, ensures_bind, ensures_pure]
    exact .of_forall fun _ _ => rfl
  | attachFunctor f =>
    simp only [execute]
    split <;> simp only [ensures_bind, ensures_pure, ensures_note] <;> rfl
  | detachFunctor id =>
    simp only [execute]
    split <;> simp only [ensures_bind, ensures_pure, ensures_note] <;> rfl
  | createLayer size =>
    simp only [execute, ensures_bind, ensures_pure]
    exact .of_forall fun _ _ => rfl
  | pushLayerUpdate layer list =>
    simp only [execute]
    split <;> simp only [ensures_bind, ensures_pure, ensures_note] <;> rfl
  | flushLayerUpdates =>
    simp only [execute, ensures_bind, ensures_pure]
    exact .of_forall fun _ _ => rfl
  | copyLayer layer =>
    simp only [execute, ensures_bind]
    refine .of_forall fun c₁ d₁ => ?_
    split
    · simp only [ensures_pure]
      rfl
    · simp only [ensures_bind, ensures_pure]
      exact .of_forall fun _ _ => rfl
  | destroyLayer layer =>
    simp only [execute]
    split
    · simp only [ensures_bind, ensures_pure]
      exact .of_forall fun _ _ => rfl
    · simp only [ensures_bind, ensures_pure, ensures_note]
      rfl
  | flushCaches =>
    simp only [execute]
    split
    · simp only [ensures_pure]
      rfl
    · simp only [ensures_bind, ensures_pure]
      exact .of_forall fun _ _ => rfl
  | setName name =>
    simp only [execute, ensures_bind, ensures_pure, ensures_note]
    rfl
  | dumpInfo =>
    simp only [execute, ensures_bind, ensures_pure, ensures_get]
    rfl
  | fence =>
    simp only [execute, ensures_pure]
    rfl

open DeviceOp in
theorem Context.dispatch_replyKind (H : Host B φ τ) (c : Context B φ) (fresh : LayerHandle)
    (command : Command σ φ) (d : B.Device) :
    (dispatch H c fresh command).Ensures d fun r _ => r.1.map Reply.kind = command.replyKind := by
  simp only [dispatch, ensures_bind, ensures_note]
  exact execute_replyKind H c fresh command _

/-! ### What the render thread makes of an envelope -/

namespace RenderLoop

def Knows (loop : RenderLoop B φ) (h : ProxyHandle) : Prop := (loop.contexts.get? h).isSome

/-- Handling an envelope: the contexts that are there afterwards, and the reply that is given. -/
inductive Effect (loop : RenderLoop B φ) : Envelope σ φ τ → Served B φ → Prop
  | made {h : ProxyHandle} {translucent : Bool} {loop' : RenderLoop B φ}
      (knows : ∀ k, loop'.Knows k ↔ k = h ∨ loop.Knows k) :
      Effect loop (.message h (.create translucent)) (.next loop' (some ⟨h, .created (.ok ())⟩))
  | refused {h : ProxyHandle} {translucent : Bool} {e : RenderError} :
      Effect loop (.message h (.create translucent)) (.next loop (some ⟨h, .created (.error e)⟩))
  | obeyed {h : ProxyHandle} {command : Command σ φ} {reply : Option Reply}
      {loop' : RenderLoop B φ} (known : loop.Knows h)
      (kind : reply.map Reply.kind = command.replyKind)
      (knows : ∀ k, loop'.Knows k ↔ loop.Knows k) :
      Effect loop (.message h (.run command)) (.next loop' (reply.map (⟨h, ·⟩)))
  | dropped {h : ProxyHandle} {command : Command σ φ} (unknown : ¬loop.Knows h) :
      Effect loop (.message h (.run command)) (.next loop none)
  | disposed {h : ProxyHandle} {loop' : RenderLoop B φ}
      (knows : ∀ k, loop'.Knows k ↔ k ≠ h ∧ loop.Knows k) :
      Effect loop (.message h .dispose) (.next loop' none)
  | performed {task : τ} : Effect loop (.task task) (.next loop none)
  | stopped : Effect loop .shutdown .stopped

variable (H : Host B φ τ)

open DeviceOp

theorem create_effect (loop : RenderLoop B φ) (h : ProxyHandle) (translucent : Bool)
    (d : B.Device) :
    (create H loop h translucent).Ensures d fun r _ =>
      Effect (τ := τ) loop (.message h (.create translucent))
        (.next r.2 (some ⟨h, .created r.1⟩)) := by
  simp only [create, ensures_bind]
  refine .of_forall fun canvas d₁ => ?_
  split
  · simp only [ensures_bind, ensures_pure, H.ensures_note]
    refine .made fun k => ?_
    simp only [Knows, Table.get?_insert]
    by_cases hk : h = k
    · simp [hk]
    · simp [hk, Ne.symm hk]
  · simp only [ensures_bind, ensures_pure, H.ensures_note]
    exact .refused

theorem run_effect (loop : RenderLoop B φ) (h : ProxyHandle) (command : Command σ φ)
    (d : B.Device) :
    (run H loop h command).Ensures d fun r _ =>
      Effect (τ := τ) loop (.message h (.run command)) (.next r.2 (r.1.map (⟨h, ·⟩))) := by
  unfold run
  split
  case h_1 unknown =>
    simp only [ensures_bind, ensures_pure, H.ensures_note]
    exact .dropped (by simp [Knows, unknown])
  case h_2 c known =>
    simp only [ensures_bind, ensures_pure]
    refine (Context.dispatch_replyKind H c loop.nextLayer command d).mono fun r _ kind => ?_
    refine .obeyed (by simp [Knows, known]) kind fun k => ?_
    simp only [Knows, Table.get?_insert]
    by_cases hk : h = k
    · simp [← hk, known]
    · simp [hk]

theorem dispose_effect (loop : RenderLoop B φ) (h : ProxyHandle) (d : B.Device) :
    (dispose H loop h).Ensures d fun r _ =>
      Effect (σ := σ) (τ := τ) loop (.message h .dispose) (.next r none) := by
  unfold dispose
  split
  case h_1 unknown =>
    simp only [ensures_bind, ensures_pure, H.ensures_note]
    refine .disposed fun k => ?_
    by_cases hk : k = h
    · simp [hk, Knows, unknown]
    · simp [hk]
  case h_2 c known =>
    simp only [ensures_bind, ensures_pure]
    refine .of_forall fun _ _ => .disposed fun k => ?_
    simp only [Knows, Table.get?_erase]
    by_cases hk : h = k
    · simp [hk]
    · simp [hk, Ne.symm hk]

/-- **What handling an envelope can do.** -/
theorem serve_effect (loop : RenderLoop B φ) (envelope : Envelope σ φ τ) (d : B.Device) :
    (serve H loop envelope).Ensures d fun served _ => Effect loop envelope served := by
  match envelope with
  | .message h (.create translucent) =>
    simp only [serve, ensures_bind, ensures_pure]
    exact create_effect H loop h translucent d
  | .message h .dispose =>
    simp only [serve, ensures_bind, ensures_pure]
    exact dispose_effect H loop h d
  | .message h (.run command) =>
    simp only [serve, ensures_bind, ensures_pure]
    exact run_effect H loop h command d
  | .task task =>
    simp only [serve, ensures_bind, ensures_lift]
    split <;> simp only [ensures_bind, ensures_pure, H.ensures_note] <;> exact .performed
  | .shutdown =>
    simp only [serve, ensures_bind, ensures_pure]
    exact .of_forall fun _ _ => .stopped

end RenderLoop

end RenderRelay

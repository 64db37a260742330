import RenderRelay.Proofs.Accord.Books

/-!
What a proxy and its context know of each other. `Accord` says that the proxy's copies of life, size
and drawn frames are right; a call keeps them so, with the reply that its command was given
(`Accord.concluded`), and so does a command that nobody waits for (`Accord.noticed`).
-/

namespace RenderRelay

variable {σ φ : Type}

/-! ### Commands of calls -/

/-- What a call on a live proxy asks of the render thread, if it asks for anything. -/
def Call.command : Call σ φ → Command σ φ
  | bindSurface surface => .bindSurface surface
  | updateSurface surface => .updateSurface surface
  | setup size => .setup size
  | draw list dirty => .draw list (Damage.ofBox? dirty).encode
  | repeatLastDraw => .repeatLastDraw
  | destroy full => .destroy full
  | attachFunctor functor => .attachFunctor functor
  | detachFunctor id => .detachFunctor id
  | createLayer size => .createLayer size
  | pushLayerUpdate layer list => .pushLayerUpdate layer list
  | flushLayerUpdates => .flushLayerUpdates
  | copyLayer layer => .copyLayer layer
  | destroyLayer layer => .destroyLayer layer
  | flushCaches => .flushCaches
  | setName name => .setName name
  | info => .dumpInfo
  | fence => .fence

def Command.draws : Command σ φ → Bool
  | draw .. => true
  | repeatLastDraw => true
  | _ => false

theorem Command.draws_iff {command : Command σ φ} :
    command.draws = true ↔ command.replyKind = some .drawn := by
  cases command <;> simp [draws, replyKind]

/-- A call with this reply returns that a frame was drawn. -/
def Call.drew (call : Call σ φ) : Option Reply → Bool
  | some (.drawn .drawn) => call.command.draws
  | _ => false

namespace Proxy

theorem plan_ask {p : Proxy} {call : Call σ φ} {command : Command σ φ}
    (asks : (p.plan call).2 = .ask command) : command = call.command := by
  unfold plan at asks
  split at asks
  case isTrue =>
    cases call <;> simp only [planLive] at asks <;> (try split at asks) <;>
      simp_all [Call.command]
  case isFalse => simp at asks

/-- Until its reply comes, a call changes the proxy's size at most, to the one that it asks for. -/
theorem plan_proxy (p : Proxy) (call : Call σ φ) :
    (p.plan call).1 = p ∨
      ∃ size, call = .setup size ∧
        p.plan call = ({ p with viewport := some size }, .ask (.setup size)) := by
  unfold plan
  split
  case isTrue =>
    cases call with
    | setup size =>
      simp only [planLive]
      split
      · exact .inl rfl
      · exact .inr ⟨size, rfl, rfl⟩
    | _ => exact .inl (by simp only [planLive] <;> (try split) <;> rfl)
  case isFalse => exact .inl rfl

@[simp] theorem plan_frameCount (p : Proxy) (call : Call σ φ) :
    (p.plan call).1.frameCount = p.frameCount := by
  obtain same | ⟨size, -, planned⟩ := p.plan_proxy call
  · rw [same]
  · rw [planned]

theorem plan_noted {p : Proxy} {size : Viewport} {command : Command σ φ}
    (asks : (p.plan (.setup size)).2 = .ask command) :
    (p.plan (.setup size) : Proxy × Plan σ φ).1.viewport = some size := by
  obtain same | ⟨size', equal, planned⟩ := p.plan_proxy (.setup size : Call σ φ)
  · unfold plan planLive at asks ⊢
    split at asks
    · simp only at asks ⊢
      split at asks <;> simp_all
    · simp at asks
  · obtain rfl := Call.setup.inj equal
    rw [planned]

theorem conclude_frameCount (p : Proxy) (call : Call σ φ) (reply : Option Reply) :
    (p.conclude call reply).1.frameCount = p.frameCount + (call.drew reply).toNat := by
  rcases reply with _ | r
  · cases call <;> simp [conclude, Call.drew, apply_ite]
  · rcases r with (_ | _) | _ | (_ | _) | (_ | _) | (_ | _) | (_ | _) | (_ | _) | _ <;>
      cases call <;> simp [conclude, Call.drew, Call.command, Command.draws, countFrame, apply_ite]

/-- A call forgets the size or keeps the one that was noted. -/
theorem viewport_of_conclude {p : Proxy} {call : Call σ φ} {reply : Option Reply} {v : Viewport}
    (kept : (p.conclude call reply).1.viewport = some v) : p.viewport = some v := by
  unfold conclude countFrame at kept
  split at kept <;> (try split at kept) <;> simp_all

/-- A call on a live proxy ends its life when it asks for that. -/
theorem conclude_lifecycle_of_live {p : Proxy} (live : p.lifecycle = .live) (call : Call σ φ)
    (reply : Option Reply) :
    (p.conclude call reply).1.lifecycle = if call.command.endsAll then .destroyed else .live := by
  cases call with
  | destroy full => cases full <;> simp [conclude, live, Call.command, Command.endsAll]
  | _ =>
    unfold conclude countFrame
    split <;> (try split) <;> simp_all [Call.command, Command.endsAll]

theorem opened_ok {p p' : Proxy} {reply : Option Reply} (ok : p.opened reply = .ok p') :
    p' = p ∧ reply = some (.created (.ok ())) := by
  unfold opened at ok
  split at ok
  · exact ⟨(Except.ok.inj ok).symm, rfl⟩
  · simp at ok
  · simp at ok

@[simp] theorem disable_frameCount (p : Proxy) (reason : String) :
    (p.disable reason).1.frameCount = p.frameCount := by
  unfold disable
  split <;> rfl

/-- What a proxy knows for sure while it waits: the size that it asked for may be refused. -/
def certain (p : Proxy) : Call σ φ → Proxy
  | .setup _ => { p with viewport := none }
  | _ => p

@[simp] theorem certain_lifecycle (p : Proxy) (call : Call σ φ) :
    (p.certain call).lifecycle = p.lifecycle := by
  cases call <;> rfl

@[simp] theorem certain_frameCount (p : Proxy) (call : Call σ φ) :
    (p.certain call).frameCount = p.frameCount := by
  cases call <;> rfl

theorem certain_plan (p : Proxy) (call : Call σ φ) :
    (p.plan call).1.certain call = p.certain call := by
  obtain same | ⟨size, rfl, planned⟩ := p.plan_proxy call
  · rw [same]
  · rw [planned]
    rfl

/-- A proxy that gave its handle up has neither life nor size. -/
def Blank (p : Proxy) : Prop :=
  p.handle = .invalid → p.lifecycle = .disabled ∧ p.viewport = none

namespace Blank

variable {p : Proxy}

theorem plan (blank : p.Blank) (call : Call σ φ) : (p.plan call).1.Blank := by
  intro handle
  obtain ⟨life, size⟩ := blank ((p.plan_handle call).symm.trans handle)
  have dead : p.isEnabled = false := by simp [isEnabled, life]
  simp [Proxy.plan, dead, life, size]

theorem conclude (blank : p.Blank) (call : Call σ φ) (reply : Option Reply) :
    (p.conclude call reply).1.Blank := by
  intro handle
  obtain ⟨life, size⟩ := blank ((p.conclude_handle call reply).symm.trans handle)
  refine ⟨?_, Option.eq_none_iff_forall_ne_some.2 fun v kept => ?_⟩
  · rcases p.conclude_lifecycle call reply with same | ⟨live, -⟩
    · exact same.trans life
    · simp [live] at life
  · simp [viewport_of_conclude kept] at size

theorem disable (blank : p.Blank) (reason : String) : (p.disable reason).1.Blank := by
  intro handle
  obtain ⟨life, size⟩ := blank ((p.disable_handle reason).symm.trans handle)
  simp [Proxy.disable, life, size]

end Blank

end Proxy

/-! ### Both sides -/

namespace Headless

variable {ω φ τ : Type} {report : LogRecord → ω → ω}

/-- What the proxy knows of its context is so, and the context counted the draws that it was told
to make. -/
structure Accord (executed : Nat) (p : Proxy) (c : Context (backend report) φ) : Prop where
  coherent : Coherent c
  life : p.lifecycle = .live ∨ p.lifecycle = .destroyed
  live : c.canvas.isSome = true ↔ p.lifecycle = .live
  spent : c.canvas = none → c.surfaceBound = false ∧ c.registry = .empty
  viewport : ∀ v, p.viewport = some v → c.viewport = some v
  drawn : c.stats.drawn = p.frameCount
  total : c.stats.total = executed

namespace Accord

variable {executed : Nat} {p : Proxy} {c c' : Context (backend report) φ}

theorem forget (accord : Accord executed p c) : Accord executed { p with viewport := none } c where
  coherent := accord.coherent
  life := accord.life
  live := accord.live
  spent := accord.spent
  viewport := by simp
  drawn := accord.drawn
  total := accord.total

theorem certain (accord : Accord executed p c) (call : Call Surface φ) :
    Accord executed (p.certain call) c := by
  cases call with
  | setup size => exact accord.forget
  | _ => exact accord

theorem made {h : ProxyHandle} {canvas : Canvas} (size : canvas.viewport = none)
    (unbound : canvas.surface = none) (live : p.lifecycle = .live) (unsized : p.viewport = none)
    (unused : p.frameCount = 0) :
    Accord 0 p (Context.ofCanvas (B := backend report) (φ := φ) h canvas) where
  coherent := by
    rintro found ⟨rfl⟩
    exact ⟨size, by rw [unbound]; rfl⟩
  life := .inl live
  live := by simp [Context.ofCanvas, live]
  spent := by simp [Context.ofCanvas]
  viewport := by simp [unsized]
  drawn := unused.symm
  total := rfl

/-- **A command that nobody waits for leaves the two in accord.** -/
theorem noticed (accord : Accord executed p c) {command : Command Surface φ} {reply : Option Reply}
    (booked : Booked c command reply c') (unasked : command.replyKind = none)
    (unanswered : reply = none) (there : c.canvas.isSome = true) : Accord executed p c' := by
  subst unanswered
  have keeps : command.endsAll = false := by
    cases command <;> simp_all [Command.endsAll, Command.replyKind]
  have size : command.sizeAfter c.viewport = c.viewport := by
    cases command <;> simp_all [Command.sizeAfter, Command.replyKind]
  have canvas : c'.canvas.isSome = c.canvas.isSome := by simp [booked.canvas, keeps]
  have stats : c'.stats = c.stats := booked.stats
  refine ⟨booked.coherent, accord.life, by rw [canvas, accord.live], fun none => ?_,
    fun v cached => ?_, ?_, ?_⟩
  · simp [none, there] at canvas
  · rw [booked.viewport, size, accord.viewport v cached]
  · rw [stats, accord.drawn]
  · rw [stats, accord.total]

/-- **A call leaves the two in accord, once the proxy has the reply.** -/
theorem concluded {call : Call Surface φ} {reply : Reply}
    (accord : Accord executed (p.certain call) c) (live : p.lifecycle = .live)
    (noted : ∀ size, call = .setup size → p.viewport = some size)
    (booked : Booked c call.command (some reply) c')
    (kind : call.command.replyKind = some reply.kind) :
    Accord (executed + call.command.draws.toNat) (p.conclude call (some reply)).1 c' := by
  have there : c.canvas.isSome = true := accord.live.2 (by simpa using live)
  have canvas : c'.canvas.isSome = !call.command.endsAll := by rw [booked.canvas, there]; rfl
  have drawn : c.stats.drawn = p.frameCount := accord.drawn.trans (p.certain_frameCount call)
  have stats : c'.stats.drawn = c.stats.drawn + (call.drew (some reply)).toNat ∧
      c'.stats.total = c.stats.total + call.command.draws.toNat := by
    rw [booked.stats]
    by_cases draws : call.command.draws = true
    · obtain ⟨status, rfl⟩ : ∃ status, reply = .drawn status := by
        rw [Command.draws_iff.1 draws] at kind
        cases reply <;> simp_all [Reply.kind]
      cases status <;>
        simp [FrameStats.after, FrameStats.count, FrameStats.total, Call.drew, draws] <;> omega
    · have other : c.stats.after (some reply) = c.stats := by
        cases reply <;> first | rfl | exact absurd (Command.draws_iff.2 kind) draws
      have undrawn : call.drew (some reply) = false := by
        simp only [Call.drew]
        split <;> simp_all
      simp [other, undrawn, draws]
  have life := p.conclude_lifecycle_of_live live call (some reply)
  refine ⟨booked.coherent, ?_, ?_, fun none => ?_, fun v cached => ?_, ?_, ?_⟩
  · rw [life]
    cases call.command.endsAll <;> simp
  · rw [canvas, life]
    cases call.command.endsAll <;> simp
  · have ends : call.command.endsAll = true := by simpa [none] using canvas
    exact (booked.emptied ends).symm
  · have known := Proxy.viewport_of_conclude cached
    rw [booked.viewport]
    cases call with
    | setup size => exact (noted size rfl).symm.trans known
    | _ => exact accord.viewport v known
  · rw [stats.1, drawn, p.conclude_frameCount]
  · rw [stats.2, accord.total]

end Accord

end Headless

end RenderRelay

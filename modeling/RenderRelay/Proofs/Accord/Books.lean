import RenderRelay.Proofs.Evolution
import RenderRelay.Proofs.Exchange.Replies
import RenderRelay.Proofs.Repaint.Frames

/-!
What a command does to the books of a headless context: whether there is a canvas, what it is bound
to, the size, and the counted frames. The canvas keeps a second copy of size and binding; `Coherent`
says that the copies agree, and `dispatch_booked` that every command keeps them so and does to the
books what the command and its reply tell.
-/

namespace RenderRelay

def FrameStats.total (stats : FrameStats) : Nat := stats.drawn + stats.skipped

def FrameStats.after (stats : FrameStats) : Option Reply → FrameStats
  | some (.drawn status) => stats.count status
  | _ => stats

def Command.sizeAfter {σ φ : Type} (size : Option Viewport) : Command σ φ → Option Viewport
  | .setup viewport => some viewport
  | _ => size

def Command.endsAll {σ φ : Type} : Command σ φ → Bool
  | .destroy full => full
  | _ => false

namespace Headless

open DeviceOp

variable {ω φ τ : Type} {report : LogRecord → ω → ω}
  {invoke : φ → Frame → FunctorInfo → StateM ω (Frame × Completion)}
  {perform : τ → StateM ω Completion}

/-! ### Copies -/

/-- The context's and the canvas's copies of size and binding agree. -/
def Coherent (c : Context (backend report) φ) : Prop :=
  ∀ canvas, c.canvas = some canvas →
    canvas.viewport = c.viewport ∧ c.surfaceBound = canvas.surface.isSome

/-- The books stay as they are; what the canvas holds of a frame does not matter. -/
structure Steady (c c' : Context (backend report) φ) : Prop where
  canvas : c'.canvas.map (fun canvas => (canvas.viewport, canvas.surface)) =
    c.canvas.map fun canvas => (canvas.viewport, canvas.surface)
  viewport : c'.viewport = c.viewport
  surfaceBound : c'.surfaceBound = c.surfaceBound
  stats : c'.stats = c.stats

namespace Steady

variable {c c' c'' : Context (backend report) φ}

theorem refl (c : Context (backend report) φ) : Steady c c := ⟨rfl, rfl, rfl, rfl⟩

theorem trans (first : Steady c c') (second : Steady c' c'') : Steady c c'' :=
  ⟨second.canvas.trans first.canvas, second.viewport.trans first.viewport,
    second.surfaceBound.trans first.surfaceBound, second.stats.trans first.stats⟩

theorem isSome (steady : Steady c c') : c'.canvas.isSome = c.canvas.isSome := by
  simpa using congrArg Option.isSome steady.canvas

theorem coherent (steady : Steady c c') (coherent : Coherent c) : Coherent c' := by
  intro canvas there
  have same := steady.canvas
  rw [there] at same
  obtain ⟨before, there', equal⟩ := Option.map_eq_some_iff.1 same.symm
  obtain ⟨viewport, surface⟩ := Prod.mk.inj equal
  rw [steady.viewport, steady.surfaceBound, ← viewport, ← surface]
  exact coherent before there'

end Steady

/-! ### Commands -/

/-- What a command and its reply tell about the books is what became of them. -/
structure Booked (c : Context (backend report) φ) (command : Command Surface φ)
    (reply : Option Reply) (c' : Context (backend report) φ) : Prop where
  coherent : Coherent c'
  canvas : c'.canvas.isSome = (c.canvas.isSome && !command.endsAll)
  emptied : command.endsAll = true → c'.registry = .empty ∧ c'.surfaceBound = false
  viewport : c'.viewport = command.sizeAfter c.viewport
  stats : c'.stats = c.stats.after reply

section Commands

variable {c : Context (backend report) φ} {d : Device ω}

theorem Booked.of_steady {command : Command Surface φ} {reply : Option Reply}
    {c' : Context (backend report) φ} (coherent : Coherent c) (steady : Steady c c')
    (keeps : command.endsAll = false) (size : command.sizeAfter c.viewport = c.viewport)
    (stats : c.stats.after reply = c.stats) : Booked c command reply c' where
  coherent := steady.coherent coherent
  canvas := by rw [steady.isSome, keeps, Bool.not_false, Bool.and_true]
  emptied ends := by simp [keeps] at ends
  viewport := steady.viewport.trans size.symm
  stats := steady.stats.trans stats.symm

theorem applyLayerUpdates_steady :
    (c.applyLayerUpdates (host report invoke perform)).Ensures d fun c' _ => Steady c c' := by
  refine (Context.applyLayerUpdates_layers _ c d).mono ?_
  rintro c' d' ⟨layers, rfl⟩
  exact ⟨rfl, rfl, rfl, rfl⟩

theorem drawOnCanvas_steady {canvas : Canvas} (there : c.canvas = some canvas) (viewport : Viewport)
    (damage : PixelBox) (list : DisplayList) :
    (c.drawOnCanvas (host report invoke perform) canvas viewport damage list).Ensures d
      fun r _ => Steady c r.2 := by
  have steady {back : Bitmap} {needsFullRedraw : Bool} : Steady c
      { c with canvas := some { canvas with back }, needsFullRedraw } :=
    ⟨by rw [there]; rfl, rfl, rfl, rfl⟩
  unfold Context.drawOnCanvas
  refine ensures_bind.2 (ensures_beginFrame (fun e => ?_) ?_ ?_)
  · exact ensures_note_bind fun world => ensures_pure.2 steady
  · exact ensures_pure.2 steady
  · intro size surface target _ _ _ _
    refine ensures_bind.2 (.of_forall fun frame d₁ => ?_)
    exact ensures_bind.2 (ensures_endFrame fun d₂ _ => ensures_pure.2 steady)

theorem drawFrame_steady (list : DisplayList) (damage : Damage) :
    (c.drawFrame (host report invoke perform) list damage).Ensures d fun r _ => Steady c r.2 := by
  refine Context.ensures_drawFrame (.refl c) (fun _ => .refl c)
    fun canvas size box there _ _ _ => ?_
  exact drawOnCanvas_steady there size box list

theorem draw_booked (coherent : Coherent c) (command : Command Surface φ) (list : DisplayList)
    (damage : Damage) (keeps : command.endsAll = false)
    (size : command.sizeAfter c.viewport = c.viewport) :
    (c.draw (host report invoke perform) list damage).Ensures d fun r _ =>
      Booked c command (some (.drawn r.1)) r.2 := by
  unfold Context.draw
  refine ensures_bind.2 (applyLayerUpdates_steady.mono fun c₁ d₁ applied => ?_)
  refine ensures_bind.2 ((drawFrame_steady list damage).mono fun r d₂ drawn => ensures_pure.2 ?_)
  have steady : Steady c r.2 := .trans
    ⟨applied.canvas, applied.viewport, applied.surfaceBound, applied.stats⟩ drawn
  have booked : Booked c command none r.2 := .of_steady coherent steady keeps size rfl
  exact ⟨booked.coherent, booked.canvas, booked.emptied, booked.viewport,
    congrArg (·.count r.1) steady.stats⟩

theorem bind_booked (coherent : Coherent c) (command : Command Surface φ)
    (surface : Option Surface) (keeps : command.endsAll = false)
    (size : command.sizeAfter c.viewport = c.viewport) :
    (c.bind (host report invoke perform) surface).Ensures d fun r _ =>
      Booked c command (some (.surface r.1)) r.2 := by
  -- the canvas is there and keeps its size
  have booked {canvas canvas' : Canvas} {needsFullRedraw : Bool} {reply : Except RenderError Unit}
      (there : c.canvas = some canvas) (same : canvas'.viewport = canvas.viewport) :
      Booked c command (some (.surface reply)) { c with
        canvas := some canvas', surfaceBound := canvas'.surface.isSome, needsFullRedraw } := by
    refine ⟨?_, by simp [there, keeps], by simp [keeps], size.symm, rfl⟩
    rintro found ⟨rfl⟩
    exact ⟨same.trans (coherent canvas there).1, rfl⟩
  unfold Context.bind
  split
  case h_1 none => exact ensures_pure.2 (.of_steady coherent (.refl c) keeps size rfl)
  case h_2 canvas there =>
    exact ensures_bind.2 (ensures_unbindSurface fun d₁ _ => ensures_pure.2 (booked there rfl))
  case h_3 canvas surface there =>
    refine ensures_bind.2 (ensures_bindSurface (fun e d₁ _ => ?_) fun d₁ _ => ?_)
    · exact ensures_note_bind fun world => ensures_pure.2 (booked there rfl)
    · exact ensures_pure.2 (booked there rfl)

theorem resize_booked (coherent : Coherent c) (viewport : Viewport) :
    (c.resize (host report invoke perform) viewport).Ensures d fun r _ =>
      Booked c (.setup viewport) (some (.resized r.1)) r.2 := by
  have booked {canvas : Option Canvas} {needsFullRedraw : Bool} {reply : Except RenderError Unit}
      (held : canvas = c.canvas.map (·.sized viewport)) :
      Booked c (.setup viewport) (some (.resized reply))
        { c with canvas, viewport := some viewport, needsFullRedraw } := by
    refine ⟨?_, by simp [held, Command.endsAll], by simp [Command.endsAll], rfl, rfl⟩
    intro found there
    obtain ⟨before, there', rfl⟩ := Option.map_eq_some_iff.1 (held.symm.trans there)
    exact ⟨rfl, (coherent before there').2⟩
  unfold Context.resize
  simp only
  split
  case h_1 none => exact ensures_pure.2 (booked (by simp [none]))
  case h_2 canvas there =>
    refine ensures_bind.2 (ensures_resize fun r => ?_)
    rcases r with e | ⟨⟩
    · exact ensures_note_bind fun world => ensures_pure.2 (booked (by simp [there]))
    · exact ensures_pure.2 (booked (by simp [there]))

/-- After a full end there is neither a canvas nor anything else. -/
theorem releaseAll_emptied :
    (c.releaseAll).Ensures d fun c' _ =>
      c'.canvas = none ∧ c'.registry = .empty ∧ c'.viewport = c.viewport ∧
        c'.surfaceBound = c.surfaceBound ∧ c'.stats = c.stats := by
  unfold Context.releaseAll
  refine ensures_bind.2 (.of_forall fun _ d₁ => ?_)
  split
  case h_1 none => exact ensures_pure.2 ⟨none, rfl, rfl, rfl, rfl⟩
  case h_2 canvas there =>
    exact ensures_bind.2 (.of_forall fun _ d₂ => ensures_pure.2 ⟨rfl, rfl, rfl, rfl, rfl⟩)

theorem destroy_booked (coherent : Coherent c) (full : Bool) :
    (c.destroy (host report invoke perform) full).Ensures d fun c' _ =>
      Booked c (.destroy full) (some .done) c' := by
  -- what is left once the surface is released
  have released {canvas : Option Canvas} (d₁ : Device ω)
      (held : canvas = c.canvas.map fun canvas => { canvas with surface := none }) :
      (Context.release (host report invoke perform)
        { c with canvas, surfaceBound := false } full).Ensures d₁ fun c' _ =>
          Booked c (.destroy full) (some .done) c' := by
    cases full with
    | false =>
      refine ensures_note_bind fun world => ensures_pure.2 ⟨?_, ?_, ?_, rfl, rfl⟩
      · intro found there
        obtain ⟨before, there', rfl⟩ := Option.map_eq_some_iff.1 (held.symm.trans there)
        exact ⟨(coherent before there').1, rfl⟩
      · simp [held, Command.endsAll]
      · simp [Command.endsAll]
    | true =>
      refine ensures_bind.2 (releaseAll_emptied.mono fun c₁ d₂ emptied => ?_)
      obtain ⟨none, registry, viewport, bound, stats⟩ := emptied
      refine ensures_note_bind fun world => ensures_pure.2 ⟨?_, ?_, ?_, viewport, stats⟩
      · intro found there
        simp [none] at there
      · simp [none, Command.endsAll]
      · exact fun _ => ⟨registry, bound⟩
  rw [Context.destroy_eq]
  split
  case h_1 none => exact @released c.canvas d (by simp [none])
  case h_2 canvas there =>
    exact ensures_bind.2 (ensures_unbindSurface fun d₁ _ => released d₁ (by simp [there]))

theorem createLayer_steady (fresh : LayerHandle) (size : Viewport) :
    (c.createLayer (host report invoke perform) fresh size).Ensures d fun r _ => Steady c r.2 := by
  unfold Context.createLayer
  split
  · exact ensures_pure.2 (.refl c)
  · refine ensures_bind.2 (.of_forall fun made d₁ => ?_)
    rcases made with e | layer
    · exact ensures_pure.2 (.refl c)
    · exact ensures_note_bind fun world => ensures_pure.2 ⟨rfl, rfl, rfl, rfl⟩

/-- **What a command does to the books**, its reply tells. -/
theorem execute_booked (coherent : Coherent c) (fresh : LayerHandle)
    (command : Command Surface φ) :
    (c.execute (host report invoke perform) fresh command).Ensures d fun r _ =>
      Booked c command r.1 r.2 := by
  -- most commands are about something else
  have quiet {command : Command Surface φ} {reply : Option Reply}
      {c' : Context (backend report) φ} (steady : Steady c c')
      (keeps : command.endsAll = false := by rfl)
      (size : command.sizeAfter c.viewport = c.viewport := by rfl)
      (stats : c.stats.after reply = c.stats := by rfl) : Booked c command reply c' :=
    .of_steady coherent steady keeps size stats
  have registry {r : Registry Layer φ} : Steady c { c with registry := r } := ⟨rfl, rfl, rfl, rfl⟩
  cases command with
  | bindSurface surface =>
    refine ensures_bind.2 ((bind_booked coherent (.bindSurface surface) _ rfl rfl).mono ?_)
    exact fun r d₁ booked => ensures_pure.2 booked
  | updateSurface surface =>
    refine ensures_bind.2 ((bind_booked coherent (.updateSurface surface) _ rfl rfl).mono ?_)
    exact fun r d₁ booked => ensures_pure.2 booked
  | setup viewport =>
    refine ensures_bind.2 ((resize_booked coherent viewport).mono fun r d₁ booked => ?_)
    exact ensures_pure.2 booked
  | draw list record =>
    refine ensures_bind.2 ((draw_booked coherent (.draw list record) list _ rfl rfl).mono ?_)
    exact fun r d₁ booked => ensures_pure.2 booked
  | repeatLastDraw =>
    simp only [Context.execute]
    split
    case h_1 list last =>
      refine ensures_bind.2 ((draw_booked coherent .repeatLastDraw list _ rfl rfl).mono ?_)
      exact fun r d₁ booked => ensures_pure.2 booked
    case h_2 =>
      refine ensures_note_bind fun world => ensures_pure.2 ?_
      have booked : Booked c .repeatLastDraw none c := quiet (.refl c)
      exact ⟨booked.coherent, booked.canvas, booked.emptied, booked.viewport, rfl⟩
  | destroy full =>
    refine ensures_bind.2 ((destroy_booked coherent full).mono fun c' d₁ booked => ?_)
    exact ensures_pure.2 booked
  | attachFunctor functor =>
    simp only [Context.execute]
    split
    case h_1 registry' attached =>
      exact ensures_pure.2 (quiet registry)
    case h_2 => exact ensures_note_bind fun world => ensures_pure.2 (quiet (.refl c))
  | detachFunctor id =>
    simp only [Context.execute]
    split
    case h_1 => exact ensures_pure.2 (quiet registry)
    case h_2 => exact ensures_note_bind fun world => ensures_pure.2 (quiet (.refl c))
  | createLayer size =>
    refine ensures_bind.2 ((createLayer_steady fresh size).mono fun r d₁ steady => ?_)
    exact ensures_pure.2 (quiet steady)
  | pushLayerUpdate layer list =>
    simp only [Context.execute]
    split
    case h_1 => exact ensures_pure.2 (quiet registry)
    case h_2 => exact ensures_note_bind fun world => ensures_pure.2 (quiet (.refl c))
  | flushLayerUpdates =>
    refine ensures_bind.2 (applyLayerUpdates_steady.mono fun c₁ d₁ steady => ?_)
    exact ensures_pure.2 (quiet steady)
  | copyLayer layer =>
    refine ensures_bind.2 (applyLayerUpdates_steady.mono fun c₁ d₁ steady => ?_)
    split
    · exact ensures_pure.2 (quiet steady)
    · exact ensures_bind.2 (.of_forall fun pixels d₂ => ensures_pure.2 (quiet steady))
  | destroyLayer layer =>
    simp only [Context.execute]
    split
    · exact ensures_bind.2 (.of_forall fun _ d₁ => ensures_pure.2 (quiet registry))
    · exact ensures_note_bind fun world => ensures_pure.2 (quiet (.refl c))
  | flushCaches =>
    simp only [Context.execute]
    split
    case h_1 => exact ensures_pure.2 (quiet registry)
    case h_2 canvas there =>
      refine ensures_bind.2 (ensures_pure.2 (ensures_pure.2 (quiet ⟨?_, rfl, rfl, rfl⟩)))
      simp only [there, trimCaches]
      split <;> rfl
  | setName name =>
    exact ensures_note_bind fun world => ensures_pure.2 (quiet ⟨rfl, rfl, rfl, rfl⟩)
  | dumpInfo => exact ensures_bind.2 (ensures_get.2 (ensures_pure.2 (quiet (.refl c))))
  | fence => exact ensures_pure.2 (quiet (.refl c))

theorem dispatch_booked (coherent : Coherent c) (fresh : LayerHandle)
    (command : Command Surface φ) :
    (c.dispatch (host report invoke perform) fresh command).Ensures d fun r _ =>
      Booked c command r.1 r.2 :=
  ensures_note_bind fun _ => execute_booked coherent fresh command

end Commands

end Headless

end RenderRelay

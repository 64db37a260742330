import RenderRelay.Backend.Headless
import RenderRelay.Proofs.Correspondence.Invariant

/-!
Headless devices side by side. The headless backend looks at nothing of a device but its
configuration, and does nothing to it but report, present frames and call back; so whatever relation
of devices is closed under these (`Pairing`) all operations respect, for equal canvases, layers and
frames.
-/

namespace RenderRelay.Headless

open DeviceOp

variable {ω φ τ : Type} {report : LogRecord → ω → ω}
  {invoke : φ → Frame → FunctorInfo → StateM ω (Frame × Completion)}
  {perform : τ → StateM ω Completion}

/-- A relation of devices that their work respects. -/
structure Pairing (report : LogRecord → ω → ω)
    (invoke : φ → Frame → FunctorInfo → StateM ω (Frame × Completion)) where
  rename : LayerHandle → LayerHandle
  injective : Function.Injective rename
  device : Device ω → Device ω → Prop
  surface : Surface → Prop
  callback : φ → Prop
  config : ∀ d₁ d₂, device d₁ d₂ → d₂.config = d₁.config
  report : ∀ level reporter (text : LayerHandle → String) handle d₁ d₂, device d₁ d₂ →
    device { d₁ with outside := report ⟨level, reporter, text handle⟩ d₁.outside }
      { d₂ with outside := report ⟨level, reporter, text (rename handle)⟩ d₂.outside }
  busy : ∀ s d₁ d₂, surface s → device d₁ d₂ → d₂.gallery.isRead s = d₁.gallery.isRead s
  present : ∀ s frame d₁ d₂, surface s → device d₁ d₂ →
    device { d₁ with gallery := d₁.gallery.present s frame }
      { d₂ with gallery := d₂.gallery.present s frame }
  invoke : ∀ f frame info d₁ d₂, callback f → device d₁ d₂ →
    (outside (invoke f frame info) d₂).1 = (outside (invoke f frame info) d₁).1 ∧
      device (outside (invoke f frame info) d₁).2 (outside (invoke f frame info) d₂).2

namespace Pairing

variable (P : Pairing report invoke)

/-- Equal canvases, bound to a surface that may be bound if to any. -/
def Canvases : Canvas → Canvas → Prop :=
  Twice fun canvas => ∀ s, canvas.surface = some s → P.surface s

variable {P}

theorem Canvases.unbound {canvas : Canvas} (unbound : canvas.surface = none) :
    P.Canvases canvas canvas :=
  ⟨rfl, by simp [unbound]⟩

theorem simulates_result {α : Type} {canvas : Canvas} (a : α)
    (allowed : ∀ s, canvas.surface = some s → P.surface s) :
    Simulates P.device (fun r₁ r₂ => r₂.1 = r₁.1 ∧ P.Canvases r₁.2 r₂.2)
      (pure (a, canvas)) (pure (a, canvas)) :=
  simulates_pure ⟨rfl, rfl, allowed⟩

variable (P)

theorem note_simulates (text : String) :
    Simulates P.device (fun _ _ => True) (note report text) (note report text) :=
  simulates_modify (P.report .debug .headless (fun _ => text) default)

theorem checkBudget_simulates (what : String) (size : Viewport) :
    Simulates P.device (fun r₁ r₂ => r₂ = r₁) (checkBudget what size) (checkBudget what size) := by
  unfold checkBudget
  split
  · exact simulates_throw _ _
  · refine simulates_get.bind fun d₁ d₂ devices => ?_
    simp only [P.config d₁ d₂ devices]
    split <;> exact simulates_pure rfl

theorem newBuffer_simulates (size : Viewport) :
    Simulates P.device (fun r₁ r₂ => r₂ = r₁) (newBuffer size) (newBuffer size) := by
  unfold newBuffer
  split
  · exact simulates_throw _ _
  · exact simulates_pure rfl

theorem backOfSize_simulates (canvas : Canvas) (size : Viewport) :
    Simulates P.device (fun r₁ r₂ => r₂ = r₁) (backOfSize canvas size)
      (backOfSize canvas size) := by
  unfold backOfSize
  split
  · exact simulates_pure rfl
  · refine (P.checkBudget_simulates _ size).bind ?_
    rintro _ (e | ⟨⟩) rfl
    · exact simulates_pure rfl
    · refine (P.newBuffer_simulates size).bind ?_
      rintro _ target rfl
      exact simulates_pure rfl

theorem bindSurface_simulates (canvas : Canvas) {s : Surface} (allowed : P.surface s)
    (viewport : Option Viewport) :
    Simulates P.device (fun r₁ r₂ => r₂.1 = r₁.1 ∧ P.Canvases r₁.2 r₂.2)
      (bindSurface report canvas s viewport) (bindSurface report canvas s viewport) := by
  have cleared (e : RenderError) := @simulates_result _ _ _ _ P _ canvas.cleared
    (Except.error e : Except RenderError Unit) (by simp [Canvas.cleared])
  have bound := (P.note_simulates s!"headless surface '{s.label}' bound").bind fun _ _ _ =>
    @simulates_result _ _ _ _ P _ { canvas.cleared with surface := some s }
      (Except.ok () : Except RenderError Unit) fun t same => Option.some.inj same ▸ allowed
  unfold bindSurface
  split
  · exact cleared _
  · cases viewport with
    | none => exact bound
    | some size =>
      refine (P.checkBudget_simulates _ size).bind ?_
      rintro _ (e | ⟨⟩) rfl
      · exact cleared e
      · exact bound

theorem unbindSurface_simulates (canvas : Canvas) :
    Simulates P.device P.Canvases (unbindSurface report canvas)
      (unbindSurface report canvas) := by
  unfold unbindSurface
  split
  case h_1 unbound => exact simulates_pure (.unbound unbound)
  case h_2 => exact (P.note_simulates _).bind fun _ _ _ => simulates_pure (.unbound rfl)

theorem resize_simulates {canvas : Canvas} (canvases : P.Canvases canvas canvas)
    (viewport : Viewport) :
    Simulates P.device (fun r₁ r₂ => r₂.1 = r₁.1 ∧ P.Canvases r₁.2 r₂.2)
      (resize canvas viewport) (resize canvas viewport) := by
  unfold resize
  simp only
  split
  · refine (P.checkBudget_simulates _ _).bind ?_
    rintro _ checked rfl
    exact simulates_result checked canvases.2
  · exact simulates_result _ canvases.2

theorem beginFrame_simulates {canvas : Canvas} (canvases : P.Canvases canvas canvas)
    (damage : PixelBox) :
    Simulates P.device
      (fun r₁ r₂ => Outcome (Option.Rel fun f₁ f₂ => f₁ = f₂) r₁.1 r₂.1 ∧ P.Canvases r₁.2 r₂.2)
      (beginFrame canvas damage) (beginFrame canvas damage) := by
  unfold beginFrame
  split
  · exact simulates_pure ⟨.ok .none, canvases⟩
  · split
    · exact simulates_pure ⟨.ok .none, canvases⟩
    · refine (P.backOfSize_simulates _ _).bind ?_
      rintro _ (e | target) rfl
      · exact simulates_pure ⟨.error e, canvases⟩
      · refine simulates_get.bind fun d₁ d₂ devices => ?_
        rw [P.config d₁ d₂ devices]
        exact simulates_pure ⟨.ok (.some rfl), rfl, canvases.2⟩

/-- A frame that comes to a surface is shown on both devices or dropped on both. -/
theorem presented {s : Surface} (allowed : P.surface s) (frame : Bitmap) {d₁ d₂ : Device ω}
    (devices : P.device d₁ d₂) :
    P.device (d₁.presented report s frame) (d₂.presented report s frame) := by
  have alike := P.busy s d₁ d₂ allowed devices
  cases busy : d₁.gallery.isRead s with
  | false =>
    rw [Device.presented_of_free busy, Device.presented_of_free (alike.trans busy)]
    exact P.present s frame d₁ d₂ allowed devices
  | true =>
    rw [Device.presented_of_busy busy, Device.presented_of_busy (alike.trans busy)]
    exact P.present s frame _ _ allowed
      (P.report .warn .headlessSurface (fun _ => _) default d₁ d₂ devices)

theorem present_simulates {s : Surface} (allowed : P.surface s) (frame : Bitmap) :
    Simulates P.device (fun b₁ b₂ => b₂ = b₁) (Headless.present report s frame)
      (Headless.present report s frame) := by
  unfold Headless.present
  refine simulates_get.bind fun d₁ d₂ devices => ?_
  have moved : Simulates P.device (fun _ _ => True) (modify (·.presented report s frame))
      (modify (·.presented report s frame)) :=
    simulates_modify fun _ _ devices => P.presented allowed frame devices
  rw [P.busy s d₁ d₂ allowed devices]
  exact moved.bind fun _ _ _ => simulates_pure rfl

theorem endFrame_simulates {canvas : Canvas} (canvases : P.Canvases canvas canvas)
    (frame : Frame) :
    Simulates P.device (fun r₁ r₂ => r₂.1 = r₁.1 ∧ P.Canvases r₁.2 r₂.2)
      (endFrame report canvas frame) (endFrame report canvas frame) := by
  obtain ⟨translucent, surface, viewport, back⟩ := canvas
  cases surface with
  | none => exact simulates_result _ canvases.2
  | some s =>
    exact (P.present_simulates (canvases.2 s rfl) frame.target).bind fun _ _ _ =>
      simulates_result _ canvases.2

theorem createLayer_simulates (size : Viewport) :
    Simulates P.device (Outcome fun l₁ l₂ => l₁ = l₂) (createLayer size) (createLayer size) := by
  unfold createLayer
  split
  · exact simulates_pure (.error _)
  · refine (P.checkBudget_simulates _ size).bind ?_
    rintro _ (e | ⟨⟩) rfl
    · exact simulates_pure (.error e)
    · refine (P.newBuffer_simulates size).bind ?_
      rintro _ target rfl
      exact simulates_pure (.ok rfl)

theorem drawLayer_simulates (frame : Frame) (layer : Layer) (dst : Rect) (clip : Option Rect) :
    Simulates P.device (fun f₁ f₂ => f₁ = f₂) ((backend report).drawLayer frame layer dst clip)
      ((backend report).drawLayer frame layer dst clip) := by
  simp only
  cases frame.drawLayer layer dst clip with
  | ok frame => exact simulates_pure rfl
  | error fault => exact simulates_throw _ _

theorem copyLayer_simulates (layer : Layer) :
    Simulates P.device (fun r₁ r₂ => r₂ = r₁) (copyLayer layer) (copyLayer layer) := by
  unfold copyLayer
  refine simulates_get.bind fun d₁ d₂ devices => ?_
  rw [P.config d₁ d₂ devices]
  split <;> exact simulates_pure rfl

theorem trimCaches_canvases {canvas : Canvas} (canvases : P.Canvases canvas canvas) :
    P.Canvases (trimCaches canvas) (trimCaches canvas) := by
  unfold trimCaches
  split
  · exact ⟨rfl, canvases.2⟩
  · exact canvases

variable (perform)

def correspondence : Correspondence (host report invoke perform) (host report invoke perform) where
  rename := P.rename
  injective := P.injective
  device := P.device
  canvas := P.Canvases
  layer _ := fun l₁ l₂ => l₁ = l₂
  frame f₁ f₂ := f₁ = f₂
  surface := P.surface
  callback _ := P.callback
  backend := rfl
  capabilities d₁ d₂ devices := by simp only [P.config d₁ d₂ devices]
  report := P.report
  invoke := by
    rintro id f frame _ info allowed rfl
    refine simulates_lift fun d₁ d₂ devices => ?_
    obtain ⟨same, devices'⟩ := P.invoke f frame info d₁ d₂ allowed devices
    exact ⟨⟨congrArg Prod.fst same.symm, congrArg Prod.snd same⟩, devices'⟩
  bindSurface := by
    rintro canvas _ s viewport ⟨rfl, -⟩ allowed
    exact P.bindSurface_simulates canvas allowed viewport
  unbindSurface := by
    rintro canvas _ ⟨rfl, -⟩
    exact P.unbindSurface_simulates canvas
  resize := by
    rintro canvas _ viewport ⟨rfl, allowed⟩
    exact P.resize_simulates ⟨rfl, allowed⟩ viewport
  beginFrame := by
    rintro canvas _ damage ⟨rfl, allowed⟩
    exact P.beginFrame_simulates ⟨rfl, allowed⟩ damage
  drawOp := by
    rintro frame _ item rfl
    exact simulates_pure rfl
  flush := by
    rintro frame _ rfl
    exact simulates_pure rfl
  endFrame := by
    rintro canvas _ frame _ ⟨rfl, allowed⟩ rfl
    exact P.endFrame_simulates ⟨rfl, allowed⟩ frame
  beginLayerFrame := by
    rintro handle layer _ rfl
    exact simulates_pure ⟨.ok rfl, rfl⟩
  endLayerFrame := by
    rintro handle layer _ frame _ rfl rfl
    exact simulates_pure rfl
  drawLayer := by
    rintro handle frame _ layer _ dst clip rfl rfl
    exact P.drawLayer_simulates frame layer dst clip
  copyLayer := by
    rintro handle layer _ rfl
    exact P.copyLayer_simulates layer
  trimCaches := by
    rintro canvas _ ⟨rfl, allowed⟩
    exact simulates_pure (P.trimCaches_canvases ⟨rfl, allowed⟩)

variable {perform}

theorem destroysLayers : (P.correspondence perform).DestroysLayers := by
  rintro handle layer _ rfl
  exact simulates_pure trivial

theorem createsLayers {fresh₁ fresh₂ : LayerHandle}
    (report : ∀ level reporter (text : LayerHandle → String) d₁ d₂, P.device d₁ d₂ →
      P.device { d₁ with outside := report ⟨level, reporter, text fresh₁⟩ d₁.outside }
        { d₂ with outside := report ⟨level, reporter, text fresh₂⟩ d₂.outside }) :
    (P.correspondence perform).CreatesLayers fresh₁ fresh₂ where
  create := P.createLayer_simulates
  report := report

end Pairing

/-! ### Invariants -/

/-- An invariant of a device that its work keeps. -/
structure Upkeep (report : LogRecord → ω → ω)
    (invoke : φ → Frame → FunctorInfo → StateM ω (Frame × Completion)) where
  device : Device ω → Prop
  surface : Surface → Prop
  callback : φ → Prop
  report : ∀ record d, device d → device { d with outside := report record d.outside }
  present : ∀ s frame d, surface s → device d →
    device { d with gallery := d.gallery.present s frame }
  invoke : ∀ f frame info d, callback f → device d →
    device (outside (invoke f frame info) d).2

namespace Upkeep

variable (U : Upkeep report invoke)

/-- The invariant as a relation of a device to itself. -/
def pairing : Pairing report invoke where
  rename h := h
  injective _ _ same := same
  device := Twice U.device
  surface := U.surface
  callback := U.callback
  config := by
    rintro d _ ⟨rfl, -⟩
    rfl
  report := by
    rintro level reporter text handle d _ ⟨rfl, holds⟩
    exact ⟨rfl, U.report _ d holds⟩
  busy := by
    rintro s d _ - ⟨rfl, -⟩
    rfl
  present := by
    rintro s frame d _ allowed ⟨rfl, holds⟩
    exact ⟨rfl, U.present s frame d allowed holds⟩
  invoke := by
    rintro f frame info d _ allowed ⟨rfl, holds⟩
    exact ⟨rfl, rfl, U.invoke f frame info d allowed holds⟩

/-- What an operation keeps whose result is a canvas and something else. -/
theorem ensures_result {α : Type} {R : α → α → Prop} {op : DeviceOp (Device ω) (α × Canvas)}
    (sim : Simulates U.pairing.device (fun r₁ r₂ => R r₁.1 r₂.1 ∧ U.pairing.Canvases r₁.2 r₂.2)
      op op) (d : Device ω) (holds : U.device d) :
    op.Ensures d fun r d' => (∀ s, r.2.surface = some s → U.surface s) ∧ U.device d' :=
  (sim.ensures ⟨rfl, holds⟩).mono fun _ _ found => ⟨found.1.2.2, found.2.2⟩

variable (perform)

/-- The invariant, together with canvases that are bound to surfaces that may be bound. -/
def constraint : Constraint (host report invoke perform) where
  device := U.device
  canvas canvas := ∀ s, canvas.surface = some s → U.surface s
  layer _ _ := True
  surface := U.surface
  callback _ := U.callback
  report := U.report
  invoke _ := U.invoke
  bindSurface canvas _ viewport _ allowed :=
    U.ensures_result (R := fun a b => b = a)
      (U.pairing.bindSurface_simulates canvas allowed viewport)
  unbindSurface canvas _ _ holds :=
    ((U.pairing.unbindSurface_simulates canvas).ensures ⟨rfl, holds⟩).mono
      fun _ _ found => ⟨found.1.2, found.2.2⟩
  resize _ viewport allowed :=
    U.ensures_result (R := fun a b => b = a)
      (U.pairing.resize_simulates ⟨rfl, allowed⟩ viewport)
  beginFrame _ damage allowed :=
    U.ensures_result (R := Outcome (Option.Rel fun f₁ f₂ => f₁ = f₂))
      (U.pairing.beginFrame_simulates ⟨rfl, allowed⟩ damage)
  drawOp _ _ _ holds := ensures_pure.2 holds
  flush _ _ holds := ensures_pure.2 holds
  endFrame _ frame allowed :=
    U.ensures_result (R := fun a b => b = a)
      (U.pairing.endFrame_simulates ⟨rfl, allowed⟩ frame)
  beginLayerFrame _ _ _ _ holds := ensures_pure.2 ⟨trivial, holds⟩
  endLayerFrame _ _ _ _ _ holds := ensures_pure.2 ⟨trivial, holds⟩
  drawLayer _ frame layer dst clip _ _ holds :=
    ((U.pairing.drawLayer_simulates frame layer dst clip).ensures ⟨rfl, holds⟩).mono
      fun _ _ found => found.2.2
  copyLayer _ layer _ _ holds :=
    ((U.pairing.copyLayer_simulates layer).ensures ⟨rfl, holds⟩).mono fun _ _ found => found.2.2
  trimCaches _ allowed _ holds :=
    ensures_pure.2 ⟨(U.pairing.trimCaches_canvases ⟨rfl, allowed⟩).2, holds⟩

variable {perform}

theorem createsLayers (fresh : LayerHandle) :
    (U.constraint perform).correspondence.CreatesLayers fresh fresh where
  create size := by
    refine (U.pairing.createLayer_simulates size).mono fun made₁ made₂ outcome => ?_
    cases outcome with
    | ok same => exact .ok ⟨same, trivial⟩
    | error e => exact .error e
  report := by
    rintro level reporter text d _ ⟨rfl, holds⟩
    exact ⟨rfl, U.report _ d holds⟩

theorem destroysLayers : (U.constraint perform).correspondence.DestroysLayers := by
  rintro handle layer _ ⟨rfl, -⟩
  exact simulates_pure trivial

end Upkeep

end RenderRelay.Headless

import RenderRelay.Proofs.Evolution
import RenderRelay.Proofs.Tables

/-!
What a context holds on to. The commands that make or release layers and canvases are few; every
other one leaves a context with its canvas and with layers under the same names, also where these
are drawn anew (`dispatch_stays`).
-/

namespace RenderRelay

open DeviceOp Relation

variable {σ φ τ : Type} {B : Backend σ}

/-- The command makes or releases a layer or a canvas. -/
def Command.isResourceful : Command σ φ → Bool
  | createLayer _ => true
  | destroyLayer _ => true
  | destroy full => full
  | _ => false

namespace Context

/-- The canvas is still there, and so are the layers. -/
structure Stays (c c' : Context B φ) : Prop where
  canvas : c'.canvas.isSome = c.canvas.isSome
  layers : c'.registry.layers.keys.Perm c.registry.layers.keys

namespace Stays

theorem refl (c : Context B φ) : Stays c c := ⟨rfl, .refl _⟩

theorem trans {c c' c'' : Context B φ} (first : Stays c c') (second : Stays c' c'') :
    Stays c c'' :=
  ⟨second.canvas.trans first.canvas, second.layers.trans first.layers⟩

end Stays

variable (H : Host B φ τ)

theorem redrawLayer_stays (c : Context B φ) (handle : LayerHandle) (list : DisplayList)
    (d : B.Device) : (c.redrawLayer H handle list).Ensures d fun c' _ => Stays c c' := by
  unfold redrawLayer
  split
  case h_1 => exact ensures_pure.2 (.refl c)
  case h_2 entry there =>
    refine ensures_bind.2 (.of_forall fun begun d₁ => ?_)
    obtain ⟨e | frame, layer⟩ := begun
    · refine ensures_bind.2 ((ensures_note H).2 (ensures_pure.2 ⟨rfl, ?_⟩))
      exact Table.keys_erase_insert there _
    · refine ensures_bind.2 (.of_forall fun frame d₂ => ?_)
      refine ensures_bind.2 (.of_forall fun layer d₃ => ensures_pure.2 ⟨rfl, ?_⟩)
      exact Table.keys_erase_insert there _

theorem redrawLayers_stays (updates : List (LayerHandle × DisplayList)) (c : Context B φ)
    (d : B.Device) : (redrawLayers H updates c).Ensures d fun c' _ => Stays c c' := by
  induction updates generalizing c d with
  | nil => exact ensures_pure.2 (.refl c)
  | cons update rest ih =>
    refine ensures_bind.2 ((redrawLayer_stays H c update.1 update.2 d).mono ?_)
    intro c₁ d₁ first
    exact (ih c₁ d₁).mono fun c₂ d₂ second => first.trans second

theorem applyLayerUpdates_stays (c : Context B φ) (d : B.Device) :
    (c.applyLayerUpdates H).Ensures d fun c' _ => Stays c c' :=
  (redrawLayers_stays H _ _ d).mono fun _ _ stays => ⟨stays.canvas, stays.layers⟩

theorem drawFrame_stays (c : Context B φ) (list : DisplayList) (damage : Damage) (d : B.Device) :
    (c.drawFrame H list damage).Ensures d fun r _ => Stays c r.2 := by
  refine (drawFrame_leaves H c list damage d).mono fun r d' left => ?_
  obtain same | ⟨canvas, redraw, there, same⟩ := left
  · rw [same]
    exact .refl c
  · rw [same]
    exact ⟨there.symm, .refl _⟩

theorem draw_stays (c : Context B φ) (list : DisplayList) (damage : Damage) (d : B.Device) :
    (c.draw H list damage).Ensures d fun r _ => Stays c r.2 := by
  refine ensures_bind.2 ((applyLayerUpdates_stays H _ d).mono fun c₁ d₁ applied => ?_)
  refine ensures_bind.2 ((drawFrame_stays H c₁ list damage d₁).mono fun r d₂ drawn => ?_)
  have stays := applied.trans drawn
  exact ensures_pure.2 ⟨stays.canvas, stays.layers⟩

theorem bind_stays (c : Context B φ) (surface : Option σ) (d : B.Device) :
    (c.bind H surface).Ensures d fun r _ => Stays c r.2 := by
  unfold bind
  split
  case h_1 => exact ensures_pure.2 (.refl c)
  case h_2 canvas there =>
    refine ensures_bind.2 (.of_forall fun canvas d₁ => ensures_pure.2 ?_)
    exact ⟨by rw [there]; rfl, .refl _⟩
  case h_3 canvas surface there =>
    refine ensures_bind.2 (.of_forall fun bound d₁ => ?_)
    obtain ⟨e | ⟨⟩, canvas⟩ := bound
    · refine ensures_bind.2 ((ensures_note H).2 (ensures_pure.2 ?_))
      exact ⟨by rw [there]; rfl, .refl _⟩
    · exact ensures_pure.2 ⟨by rw [there]; rfl, .refl _⟩

theorem resize_stays (c : Context B φ) (viewport : Viewport) (d : B.Device) :
    (c.resize H viewport).Ensures d fun r _ => Stays c r.2 := by
  unfold resize
  simp only
  split
  case h_1 there => exact ensures_pure.2 ⟨rfl, .refl _⟩
  case h_2 canvas there =>
    refine ensures_bind.2 (.of_forall fun resized d₁ => ?_)
    obtain ⟨e | ⟨⟩, canvas⟩ := resized
    · refine ensures_bind.2 ((ensures_note H).2 (ensures_pure.2 ?_))
      exact ⟨by rw [there]; rfl, .refl _⟩
    · exact ensures_pure.2 ⟨by rw [there]; rfl, .refl _⟩

theorem destroy_stays (c : Context B φ) (d : B.Device) :
    (c.destroy H false).Ensures d fun c' _ => Stays c c' := by
  rw [destroy_eq]
  split
  case h_1 there =>
    exact ensures_bind.2 ((ensures_note H).2 (ensures_pure.2 ⟨rfl, .refl _⟩))
  case h_2 canvas there =>
    refine ensures_bind.2 (.of_forall fun canvas d₁ => ?_)
    refine ensures_bind.2 ((ensures_note H).2 (ensures_pure.2 ?_))
    exact ⟨by rw [there]; rfl, .refl _⟩

/-- **What makes and releases nothing leaves the canvas and the layers there.** -/
theorem execute_stays (c : Context B φ) (fresh : LayerHandle) {command : Command σ φ}
    (plain : command.isResourceful = false) (d : B.Device) :
    (c.execute H fresh command).Ensures d fun r _ => Stays c r.2 := by
  cases command with
  | bindSurface surface =>
    exact ensures_bind.2 ((bind_stays H c _ d).mono fun _ _ s => ensures_pure.2 s)
  | updateSurface surface =>
    exact ensures_bind.2 ((bind_stays H c _ d).mono fun _ _ s => ensures_pure.2 s)
  | setup viewport =>
    exact ensures_bind.2 ((resize_stays H c _ d).mono fun _ _ s => ensures_pure.2 s)
  | draw list record =>
    exact ensures_bind.2 ((draw_stays H c list _ d).mono fun _ _ s => ensures_pure.2 s)
  | repeatLastDraw =>
    simp only [execute]
    split
    · exact ensures_bind.2 ((draw_stays H c _ .whole d).mono fun _ _ s => ensures_pure.2 s)
    · exact ensures_bind.2 ((ensures_note H).2 (ensures_pure.2 ⟨rfl, .refl _⟩))
  | destroy full =>
    obtain rfl : full = false := plain
    exact ensures_bind.2 ((destroy_stays H c d).mono fun _ _ s => ensures_pure.2 s)
  | attachFunctor functor =>
    simp only [execute]
    split
    case h_1 registry attached =>
      obtain rfl := Registry.eq_of_attach? attached
      exact ensures_pure.2 ⟨rfl, .refl _⟩
    case h_2 => exact ensures_bind.2 ((ensures_note H).2 (ensures_pure.2 (.refl c)))
  | detachFunctor id =>
    simp only [execute]
    split
    case h_1 registry found =>
      obtain rfl := Registry.eq_of_detach? found
      exact ensures_pure.2 ⟨rfl, .refl _⟩
    case h_2 => exact ensures_bind.2 ((ensures_note H).2 (ensures_pure.2 (.refl c)))
  | createLayer size => simp [Command.isResourceful] at plain
  | pushLayerUpdate layer list =>
    simp only [execute]
    split
    case h_1 registry queued =>
      obtain rfl := Registry.eq_of_queueUpdate? queued
      exact ensures_pure.2 ⟨rfl, .refl _⟩
    case h_2 => exact ensures_bind.2 ((ensures_note H).2 (ensures_pure.2 (.refl c)))
  | flushLayerUpdates =>
    exact ensures_bind.2 ((applyLayerUpdates_stays H c d).mono fun _ _ s => ensures_pure.2 s)
  | copyLayer layer =>
    refine ensures_bind.2 ((applyLayerUpdates_stays H c d).mono fun c₁ d₁ stays => ?_)
    split
    · exact ensures_pure.2 stays
    · exact ensures_bind.2 (.of_forall fun pixels d₂ => ensures_pure.2 stays)
  | destroyLayer layer => simp [Command.isResourceful] at plain
  | flushCaches =>
    simp only [execute]
    split
    case h_1 there => exact ensures_pure.2 ⟨rfl, .refl _⟩
    case h_2 canvas there =>
      refine ensures_bind.2 (.of_forall fun canvas d₁ => ensures_pure.2 ?_)
      exact ⟨by rw [there]; rfl, .refl _⟩
  | setName name => exact ensures_bind.2 ((ensures_note H).2 (ensures_pure.2 ⟨rfl, .refl _⟩))
  | dumpInfo => exact ensures_bind.2 (ensures_get.2 (ensures_pure.2 (.refl c)))
  | fence => exact ensures_pure.2 (.refl c)

theorem dispatch_stays (c : Context B φ) (fresh : LayerHandle) {command : Command σ φ}
    (plain : command.isResourceful = false) (d : B.Device) :
    (c.dispatch H fresh command).Ensures d fun r _ => Stays c r.2 :=
  ensures_bind.2 ((ensures_note H).2 (execute_stays H c fresh plain _))

/-- **Only a full destruction takes the canvas away.** -/
theorem dispatch_canvas (c : Context B φ) (fresh : LayerHandle) {command : Command σ φ}
    (lasting : command ≠ .destroy true) (d : B.Device) :
    (c.dispatch H fresh command).Ensures d fun r _ => r.2.canvas.isSome = c.canvas.isSome := by
  cases resourceful : command.isResourceful with
  | false => exact (dispatch_stays H c fresh resourceful d).mono fun _ _ stays => stays.canvas
  | true =>
    refine ensures_bind.2 ((ensures_note H).2 ?_)
    cases command with
    | createLayer size =>
      refine ensures_bind.2 (Ensures.mono (P := fun r _ => r.2.canvas.isSome = c.canvas.isSome) ?_
        fun _ _ same => ensures_pure.2 same)
      unfold createLayer
      split
      · exact ensures_pure.2 rfl
      · refine ensures_bind.2 (.of_forall fun made d₁ => ?_)
        cases made with
        | error e => exact ensures_pure.2 rfl
        | ok layer => exact ensures_bind.2 ((ensures_note H).2 (ensures_pure.2 rfl))
    | destroyLayer layer =>
      simp only [execute]
      split
      · exact ensures_bind.2 (.of_forall fun _ _ => ensures_pure.2 rfl)
      · exact ensures_bind.2 ((ensures_note H).2 (ensures_pure.2 rfl))
    | destroy full =>
      obtain rfl : full = true := resourceful
      exact absurd rfl lasting
    | _ => simp [Command.isResourceful] at resourceful

end Context

end RenderRelay

import RenderRelay.Proofs.Correspondence.Engine

/-!
Invariants of a device, its canvases and its layers. A `Constraint` that every operation of a
backend keeps is a correspondence of the backend with itself, so that every command keeps it too
(`dispatch_fits`).
-/

namespace RenderRelay

open DeviceOp

variable {σ φ τ : Type} {B : Backend σ}

/-- What holds of a device and of what a context has, and what each operation keeps. -/
structure Constraint (H : Host B φ τ) where
  device : B.Device → Prop
  canvas : B.Canvas → Prop
  layer : LayerHandle → B.Layer → Prop
  surface : σ → Prop
  callback : FunctorId → φ → Prop
  report : ∀ record d, device d → device (H.report record d)
  invoke : ∀ id f frame info d, callback id f → device d → device (H.invoke f frame info d).2
  bindSurface : ∀ c s viewport, canvas c → surface s → ∀ d, device d →
    (B.bindSurface c s viewport).Ensures d fun r d' => canvas r.2 ∧ device d'
  unbindSurface : ∀ c, canvas c → ∀ d, device d →
    (B.unbindSurface c).Ensures d fun c' d' => canvas c' ∧ device d'
  resize : ∀ c viewport, canvas c → ∀ d, device d →
    (B.resize c viewport).Ensures d fun r d' => canvas r.2 ∧ device d'
  beginFrame : ∀ c damage, canvas c → ∀ d, device d →
    (B.beginFrame c damage).Ensures d fun r d' => canvas r.2 ∧ device d'
  drawOp : ∀ frame item d, device d → (B.drawOp frame item).Ensures d fun _ d' => device d'
  flush : ∀ frame d, device d → (B.flush frame).Ensures d fun _ d' => device d'
  endFrame : ∀ c frame, canvas c → ∀ d, device d →
    (B.endFrame c frame).Ensures d fun r d' => canvas r.2 ∧ device d'
  beginLayerFrame : ∀ handle l, layer handle l → ∀ d, device d →
    (B.beginLayerFrame l).Ensures d fun r d' => layer handle r.2 ∧ device d'
  endLayerFrame : ∀ handle l frame, layer handle l → ∀ d, device d →
    (B.endLayerFrame l frame).Ensures d fun l' d' => layer handle l' ∧ device d'
  drawLayer : ∀ handle frame l dst clip, layer handle l → ∀ d, device d →
    (B.drawLayer frame l dst clip).Ensures d fun _ d' => device d'
  copyLayer : ∀ handle l, layer handle l → ∀ d, device d →
    (B.copyLayer l).Ensures d fun _ d' => device d'
  trimCaches : ∀ c, canvas c → ∀ d, device d →
    (B.trimCaches c).Ensures d fun c' d' => canvas c' ∧ device d'

namespace Constraint

variable {H : Host B φ τ} (K : Constraint H)

theorem outcome_self {α : Type} {R : α → α → Prop} {r : Except RenderError α}
    (rel : ∀ a, r = .ok a → R a a) : Outcome R r r := by
  cases r with
  | error e => exact .error e
  | ok a => exact .ok (rel a rfl)

/-- A constraint as a correspondence of the backend with itself. -/
def correspondence : Correspondence H H where
  rename h := h
  injective _ _ same := same
  device := Twice K.device
  canvas := Twice K.canvas
  layer handle := Twice (K.layer handle)
  frame f f' := f = f'
  surface := K.surface
  callback := K.callback
  backend := rfl
  capabilities := by
    rintro d _ ⟨rfl, -⟩
    rfl
  report := by
    rintro level reporter text handle d _ ⟨rfl, holds⟩
    exact ⟨rfl, K.report _ d holds⟩
  invoke := by
    rintro id f frame _ info allowed rfl
    refine simulates_lift ?_
    rintro d _ ⟨rfl, holds⟩
    exact ⟨⟨rfl, rfl⟩, rfl, K.invoke id f frame info d allowed holds⟩
  bindSurface := by
    rintro c _ s viewport ⟨rfl, fits⟩ allowed
    refine (simulates_of_ensures (K.bindSurface c s viewport fits allowed)).mono ?_
    rintro r _ ⟨rfl, fits'⟩
    exact ⟨rfl, rfl, fits'⟩
  unbindSurface := by
    rintro c _ ⟨rfl, fits⟩
    exact simulates_of_ensures (K.unbindSurface c fits)
  resize := by
    rintro c _ viewport ⟨rfl, fits⟩
    refine (simulates_of_ensures (K.resize c viewport fits)).mono ?_
    rintro r _ ⟨rfl, fits'⟩
    exact ⟨rfl, rfl, fits'⟩
  beginFrame := by
    rintro c _ damage ⟨rfl, fits⟩
    refine (simulates_of_ensures (K.beginFrame c damage fits)).mono ?_
    rintro r _ ⟨rfl, fits'⟩
    refine ⟨outcome_self fun frame? _ => ?_, rfl, fits'⟩
    cases frame? with
    | none => exact .none
    | some frame => exact .some rfl
  drawOp := by
    rintro frame _ item rfl
    exact simulates_of_keeps (K.drawOp frame item)
  flush := by
    rintro frame _ rfl
    exact simulates_of_keeps (K.flush frame)
  endFrame := by
    rintro c _ frame _ ⟨rfl, fits⟩ rfl
    refine (simulates_of_ensures (K.endFrame c frame fits)).mono ?_
    rintro r _ ⟨rfl, fits'⟩
    exact ⟨rfl, rfl, fits'⟩
  beginLayerFrame := by
    rintro handle l _ ⟨rfl, fits⟩
    refine (simulates_of_ensures (K.beginLayerFrame handle l fits)).mono ?_
    rintro r _ ⟨rfl, fits'⟩
    exact ⟨outcome_self fun _ _ => rfl, rfl, fits'⟩
  endLayerFrame := by
    rintro handle l _ frame _ ⟨rfl, fits⟩ rfl
    exact simulates_of_ensures (K.endLayerFrame handle l frame fits)
  drawLayer := by
    rintro handle frame _ l _ dst clip rfl ⟨rfl, fits⟩
    exact simulates_of_keeps (K.drawLayer handle frame l dst clip fits)
  copyLayer := by
    rintro handle l _ ⟨rfl, fits⟩
    exact (simulates_of_keeps (K.copyLayer handle l fits)).mono fun _ _ same => same.symm
  trimCaches := by
    rintro c _ ⟨rfl, fits⟩
    exact simulates_of_ensures (K.trimCaches c fits)

/-- The constraint holds of what a context has. -/
structure Fits (c : Context B φ) : Prop where
  canvas : ∀ canvas, c.canvas = some canvas → K.canvas canvas
  layers : ∀ e ∈ c.registry.layers.entries, K.layer e.1 e.2.layer
  callbacks : ∀ id f, c.registry.functors.get? id = some f → K.callback id f

variable {K}

theorem fits_iff {c : Context B φ} : K.Fits c ↔ K.correspondence.Contexts c c := by
  have rename : K.correspondence.rename = fun h => h := rfl
  constructor
  · rintro ⟨canvas, layers, callbacks⟩
    obtain ⟨h, name, canvas?, registry, viewport, bound, redraw, stats⟩ := c
    refine .of_parts ?_ ⟨rfl, callbacks, ?_, by simp [rename], by simp [rename]⟩
    · cases canvas? with
      | none => exact .none
      | some k => exact .some ⟨rfl, canvas k rfl⟩
    · exact List.forall₂_same.2 fun e mem => ⟨rfl, ⟨rfl, layers e mem⟩, rfl⟩
  · intro contexts
    have registry := contexts.registry
    refine ⟨fun k held => ?_, fun e mem => ?_, registry.callbacks⟩
    · have canvas := contexts.canvas
      rw [held] at canvas
      cases canvas with
      | some fits => exact fits.2
    · exact (List.forall₂_same.1 registry.layers e mem).2.1.2

/-- **What every operation keeps, a command keeps.** -/
theorem dispatch_fits {c : Context B φ} (fits : K.Fits c) {command : Command σ φ}
    {fresh : LayerHandle} (supports : K.correspondence.Supports fresh fresh command) {d : B.Device}
    (holds : K.device d) :
    (c.dispatch H fresh command).Ensures d fun r d' =>
      ((∀ handle, Reply.made r.1 = some handle → handle = fresh) → K.Fits r.2) ∧ K.device d' := by
  have sim := Correspondence.dispatch_simulates (fits_iff.1 fits) supports
  rw [show command.rename K.correspondence.rename = command from command.rename_self] at sim
  refine (sim.ensures ⟨rfl, holds⟩).mono fun r d' found => ⟨fun named => ?_, found.2.2⟩
  exact fits_iff.2 (found.1 named).2

end Constraint

end RenderRelay

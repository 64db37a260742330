import RenderRelay.Proofs.Correspondence.Thread
import RenderRelay.Proofs.Custody.Ledger
import RenderRelay.Proofs.Faultless

/-!
A backend that records the calls made to it. A canvas, a layer or a frame goes under a number, that
of the call that made it, and the record tells which call was made with which. Otherwise nothing
changes: a thread does the same with the record and without (`serveAll_recorded`).
-/

namespace RenderRelay

open DeviceOp

/-- A call to a backend or to a callback, with as much of the answer as what follows depends on. -/
inductive BackendCall (σ φ : Type) where
  | createCanvas (translucent : Bool)
  | bindSurface (canvas : Nat) (surface : σ) (viewport : Option Viewport) (bound : Bool)
  | unbindSurface (canvas : Nat)
  | resize (canvas : Nat) (viewport : Viewport) (accepted : Bool)
  | beginFrame (canvas : Nat) (damage : PixelBox) (begun : Bool)
  | drawOp (frame : Nat) (item : DrawItem)
  | drawLayer (frame layer : Nat) (dst : Rect) (clip : Option Rect)
  | flush (frame : Nat)
  | invoke (frame : Nat) (callback : φ) (info : FunctorInfo)
  | endFrame (canvas frame : Nat) (submitted : Bool)
  | createLayer (size : Viewport)
  | beginLayerFrame (layer : Nat) (begun : Bool)
  | endLayerFrame (layer frame : Nat)
  | copyLayer (layer : Nat)
  | destroyLayer (layer : Nat)
  | trimCaches (canvas : Nat)
  | destroyCanvas (canvas : Nat)
  deriving DecidableEq

/-- A device with a record of the calls made to it, oldest first. -/
structure Recorded (σ φ δ : Type) where
  inner : δ
  calls : List (BackendCall σ φ)

namespace Recorded

variable {σ φ δ α β : Type}

def start (inner : δ) : Recorded σ φ δ := ⟨inner, []⟩

/-- A call to the inner device. What it gives is handed on as `hand` has it, which is told the
number of the call. -/
def calling (op : DeviceOp δ α) (call : α → BackendCall σ φ) (hand : Nat → α → β) :
    DeviceOp (Recorded σ φ δ) β :=
  ExceptT.mk fun d =>
    match op.runOn d.inner with
    | (.ok a, inner) => (.ok (hand d.calls.length a), ⟨inner, d.calls ++ [call a]⟩)
    | (.error fault, inner) => (.error fault, ⟨inner, d.calls⟩)

/-! ### How results are handed on -/

def asIs (_ : Nat) (a : α) : α := a

def anew (n : Nat) (made : Except RenderError α) : Except RenderError (Numbered α) :=
  made.map (⟨·, n⟩)

def again (object : Numbered α) (_ : Nat) (value : α) : Numbered α := { object with value }

def answer (canvas : Numbered α) (_ : Nat) (r : β × α) : β × Numbered α :=
  (r.1, { canvas with value := r.2 })

def frame {γ : Type} (canvas : Numbered α) (n : Nat) (r : Except RenderError (Option γ) × α) :
    Except RenderError (Option (Numbered γ)) × Numbered α :=
  (r.1.map (Option.map (⟨·, n⟩)), { canvas with value := r.2 })

def layerFrame {γ : Type} (layer : Numbered α) (n : Nat) (r : Except RenderError γ × α) :
    Except RenderError (Numbered γ) × Numbered α :=
  (anew n r.1, { layer with value := r.2 })

def begun {γ : Type} : Except RenderError (Option γ) → Bool
  | .ok (some _) => true
  | _ => false

def foreign (work : StateM δ α) : StateM (Recorded σ φ δ) α := fun d =>
  ((work d.inner).1, { d with inner := (work d.inner).2 })

end Recorded

open Recorded in
@[reducible] def Backend.recorded {σ : Type} (B : Backend σ) (φ : Type) : Backend σ where
  Device := Recorded σ φ B.Device
  Canvas := Numbered B.Canvas
  Layer := Numbered B.Layer
  Frame := Numbered B.Frame
  name := B.name
  capabilities d := B.capabilities d.inner
  createCanvas translucent :=
    calling (B.createCanvas translucent) (fun _ => .createCanvas translucent) anew
  bindSurface canvas surface viewport :=
    calling (B.bindSurface canvas.value surface viewport)
      (fun r => .bindSurface canvas.number surface viewport r.1.isOk) (answer canvas)
  unbindSurface canvas :=
    calling (B.unbindSurface canvas.value) (fun _ => .unbindSurface canvas.number) (again canvas)
  resize canvas viewport :=
    calling (B.resize canvas.value viewport)
      (fun r => .resize canvas.number viewport r.1.isOk) (answer canvas)
  beginFrame canvas damage :=
    calling (B.beginFrame canvas.value damage)
      (fun r => .beginFrame canvas.number damage (begun r.1)) (frame canvas)
  drawOp frame item :=
    calling (B.drawOp frame.value item) (fun _ => .drawOp frame.number item) (again frame)
  flush frame :=
    calling (B.flush frame.value) (fun _ => .flush frame.number) (again frame)
  endFrame canvas frame :=
    calling (B.endFrame canvas.value frame.value)
      (fun r => .endFrame canvas.number frame.number r.1.isOk) (answer canvas)
  createLayer size :=
    calling (B.createLayer size) (fun _ => .createLayer size) anew
  beginLayerFrame layer :=
    calling (B.beginLayerFrame layer.value)
      (fun r => .beginLayerFrame layer.number r.1.isOk) (layerFrame layer)
  endLayerFrame layer frame :=
    calling (B.endLayerFrame layer.value frame.value)
      (fun _ => .endLayerFrame layer.number frame.number) (again layer)
  drawLayer frame layer dst clip :=
    calling (B.drawLayer frame.value layer.value dst clip)
      (fun _ => .drawLayer frame.number layer.number dst clip) (again frame)
  copyLayer layer :=
    calling (B.copyLayer layer.value) (fun _ => .copyLayer layer.number) asIs
  destroyLayer layer :=
    calling (B.destroyLayer layer.value) (fun _ => .destroyLayer layer.number) asIs
  trimCaches canvas :=
    calling (B.trimCaches canvas.value) (fun _ => .trimCaches canvas.number) (again canvas)
  destroyCanvas canvas :=
    calling (B.destroyCanvas canvas.value) (fun _ => .destroyCanvas canvas.number) asIs

open Recorded in
/-- The surroundings of a backend with a record, which callbacks enter too. -/
def Host.recorded {σ φ τ : Type} {B : Backend σ} (H : Host B φ τ) : Host (B.recorded φ) φ τ where
  invoke callback frame info := fun d =>
    let r := H.invoke callback frame.value info d.inner
    (({ frame with value := r.1.1 }, r.1.2),
      ⟨r.2, d.calls ++ [.invoke frame.number callback info]⟩)
  perform task := foreign (H.perform task)
  report record d := { d with inner := H.report record d.inner }

/-! ### Calls that are recorded -/

namespace Recorded

variable {σ φ δ α β : Type} {call : α → BackendCall σ φ} {hand : Nat → α → β}

theorem runOn_calling (op : DeviceOp δ α) (d : Recorded σ φ δ) :
    (calling op call hand).runOn d =
      match op.runOn d.inner with
      | (.ok a, inner) => (.ok (hand d.calls.length a), ⟨inner, d.calls ++ [call a]⟩)
      | (.error fault, inner) => (.error fault, ⟨inner, d.calls⟩) := rfl

@[simp] theorem ensures_calling {op : DeviceOp δ α} {d : Recorded σ φ δ}
    {Q : β → Recorded σ φ δ → Prop} :
    (calling op call hand).Ensures d Q ↔ op.Ensures d.inner fun a inner =>
      Q (hand d.calls.length a) ⟨inner, d.calls ++ [call a]⟩ := by
  unfold Ensures
  rw [runOn_calling]
  rcases op.runOn d.inner with ⟨fault | a, inner⟩
  · simp
  · constructor
    · rintro h a' inner' ⟨rfl, rfl⟩
      exact h _ _ rfl
    · rintro h b d' ⟨rfl, rfl⟩
      exact h _ _ rfl

theorem returns_calling {op : DeviceOp δ α} (returns : op.Returns) :
    (calling op call hand).Returns := by
  intro d
  obtain ⟨a, inner, run⟩ := returns d.inner
  exact ⟨_, _, by rw [runOn_calling, run]⟩

/-- What the second device has inside is the first one. -/
def Inside (d : δ) (d' : Recorded σ φ δ) : Prop := d'.inner = d

theorem calling_simulates {R : α → β → Prop} (op : DeviceOp δ α) (rel : ∀ n a, R a (hand n a)) :
    Simulates Inside R op (calling op call hand) := by
  rintro _ d rfl a inner run
  exact ⟨_, ⟨inner, d.calls ++ [call a]⟩, by rw [runOn_calling, run], rel _ a, rfl⟩

end Recorded

namespace Backend

open Recorded

variable {σ φ τ : Type} {B : Backend σ}

theorem Faultless.recorded (faultless : B.Faultless) : (B.recorded φ).Faultless where
  createCanvas _ := returns_calling (faultless.createCanvas _)
  bindSurface _ _ _ := returns_calling (faultless.bindSurface _ _ _)
  unbindSurface _ := returns_calling (faultless.unbindSurface _)
  resize _ _ := returns_calling (faultless.resize _ _)
  beginFrame _ _ := returns_calling (faultless.beginFrame _ _)
  drawOp _ _ := returns_calling (faultless.drawOp _ _)
  flush _ := returns_calling (faultless.flush _)
  endFrame _ _ := returns_calling (faultless.endFrame _ _)
  createLayer _ := returns_calling (faultless.createLayer _)
  beginLayerFrame _ := returns_calling (faultless.beginLayerFrame _)
  endLayerFrame _ _ := returns_calling (faultless.endLayerFrame _ _)
  drawLayer _ _ _ _ := returns_calling (faultless.drawLayer _ _ _ _)
  copyLayer _ := returns_calling (faultless.copyLayer _)
  destroyLayer _ := returns_calling (faultless.destroyLayer _)
  trimCaches _ := returns_calling (faultless.trimCaches _)
  destroyCanvas _ := returns_calling (faultless.destroyCanvas _)

/-- What is made anew is the same on the side without numbers. -/
theorem outcome_anew {α : Type} (made : Except RenderError α) (n : Nat) :
    Outcome (fun a (a' : Numbered α) => a'.value = a) made (anew n made) := by
  cases made with
  | error e => exact .error e
  | ok a => exact .ok rfl

variable (H : Host B φ τ)

def recording : Correspondence H H.recorded where
  rename h := h
  injective _ _ same := same
  device := Inside
  canvas canvas canvas' := canvas'.value = canvas
  layer _ layer layer' := layer'.value = layer
  frame frame frame' := frame'.value = frame
  surface _ := True
  callback _ _ := True
  backend := rfl
  capabilities := by
    rintro _ d rfl
    rfl
  report := by
    rintro level reporter text handle _ d rfl
    rfl
  invoke := by
    rintro id f _ frame info - rfl
    refine simulates_lift ?_
    rintro _ d rfl
    exact ⟨⟨rfl, rfl⟩, rfl⟩
  bindSurface := by
    rintro _ canvas s viewport rfl -
    exact calling_simulates _ fun n r => ⟨rfl, rfl⟩
  unbindSurface := by
    rintro _ canvas rfl
    exact calling_simulates _ fun n r => rfl
  resize := by
    rintro _ canvas viewport rfl
    exact calling_simulates _ fun n r => ⟨rfl, rfl⟩
  beginFrame := by
    rintro _ canvas damage rfl
    refine calling_simulates _ fun n r => ⟨?_, rfl⟩
    rcases r with ⟨e | _ | frame, value⟩
    · exact .error e
    · exact .ok .none
    · exact .ok (.some rfl)
  drawOp := by
    rintro _ frame item rfl
    exact calling_simulates _ fun n r => rfl
  flush := by
    rintro _ frame rfl
    exact calling_simulates _ fun n r => rfl
  endFrame := by
    rintro _ canvas _ frame rfl rfl
    exact calling_simulates _ fun n r => ⟨rfl, rfl⟩
  beginLayerFrame := by
    rintro handle _ layer rfl
    exact calling_simulates _ fun n r => ⟨outcome_anew r.1 n, rfl⟩
  endLayerFrame := by
    rintro handle _ layer _ frame rfl rfl
    exact calling_simulates _ fun n r => rfl
  drawLayer := by
    rintro handle _ frame _ layer dst clip rfl rfl
    exact calling_simulates _ fun n r => rfl
  copyLayer := by
    rintro handle _ layer rfl
    exact calling_simulates _ fun n r => rfl
  trimCaches := by
    rintro _ canvas rfl
    exact calling_simulates _ fun n r => rfl

theorem recording_complete : (recording H).Complete where
  rename := rfl
  surfaces _ := trivial
  callbacks _ _ := trivial
  createsLayers fresh := by
    refine ⟨fun size => calling_simulates _ fun n r => outcome_anew r n, ?_⟩
    rintro level reporter text _ d rfl
    rfl
  destroysLayers := by
    rintro handle _ layer rfl
    exact calling_simulates _ fun _ _ => trivial
  createsCanvases translucent := calling_simulates _ fun n r => outcome_anew r n
  destroysCanvases := by
    rintro _ canvas rfl
    exact calling_simulates _ fun _ _ => trivial
  performs task := by
    refine simulates_lift ?_
    rintro _ d rfl
    exact ⟨rfl, rfl⟩

end Backend

/-- **A thread does what it does, whether or not its calls are recorded.** -/
theorem RenderLoop.serveAll_recorded {σ φ τ : Type} {B : Backend σ} {H : Host B φ τ}
    {turns : List (Turn σ φ τ)} {nextLayer : LayerHandle} {d d' : B.Device}
    {acks : List Acknowledgement} {final : Option (RenderLoop B φ)}
    (run : (serveAll H turns (.start nextLayer)).runOn d = (.ok (acks, final), d')) :
    ∃ final' d'',
      (serveAll H.recorded turns (.start nextLayer)).runOn (Recorded.start d) =
        (.ok (acks, final'), d'') ∧
      final'.isSome = final.isSome ∧ d''.inner = d' := by
  have started : (Backend.recording H).Loops (.start nextLayer) (.start nextLayer) :=
    ⟨.empty, rfl⟩
  obtain ⟨⟨_, final'⟩, d'', run', ⟨rfl, finals⟩, inside⟩ :=
    (Backend.recording_complete H).serveAll_simulates turns started d (.start d) rfl _ _ run
  exact ⟨final', d'', run', isSome_of_rel finals, inside⟩

end RenderRelay

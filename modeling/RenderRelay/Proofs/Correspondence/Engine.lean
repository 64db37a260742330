import RenderRelay.Proofs.Correspondence.Basic
import RenderRelay.Proofs.Evolution

/-!
The engine on two backends that correspond. Each function of the engine is simulated on the second
side, by the calls it makes one after the other; `dispatch_simulates` puts the commands together.
-/

namespace RenderRelay.Correspondence

open DeviceOp

variable {σ φ τ : Type} {B₁ B₂ : Backend σ} {H₁ : Host B₁ φ τ} {H₂ : Host B₂ φ τ}
  (C : Correspondence H₁ H₂)

/-! ### Reports -/

theorem note_simulates (name : String) (level : Level) (text : LayerHandle → String)
    (handle : LayerHandle) :
    Simulates C.device (fun _ _ => True) (Context.note H₁ name level (text handle))
      (Context.note H₂ name level (text (C.rename handle))) :=
  simulates_modify (C.report level .context (fun h => s!"[{name}] {text h}") handle)

/-- A report that names no layer is the same on both sides. -/
theorem same_note_simulates (name : String) (level : Level) (text : String) :
    Simulates C.device (fun _ _ => True) (Context.note H₁ name level text)
      (Context.note H₂ name level text) :=
  C.note_simulates name level (fun _ => text) default

theorem hostNote_simulates (level : Level) (reporter : Reporter) (text : String) :
    Simulates C.device (fun _ _ => True) (H₁.note level reporter text)
      (H₂.note level reporter text) :=
  simulates_modify (C.report level reporter (fun _ => text) default)

/-! ### Drawing lists -/

section Drawing

variable {C}

theorem drawItem_simulates {r₁ : Registry B₁.Layer φ} {r₂ : Registry B₂.Layer φ}
    (registries : C.Registries r₁ r₂) (name : String) (list : ListId) (target : Target)
    {f₁ : B₁.Frame} {f₂ : B₂.Frame} (frames : C.frame f₁ f₂) (item : DrawItem) :
    Simulates C.device C.frame (Context.drawItem H₁ name r₁ list target f₁ item)
      (Context.drawItem H₂ name r₂ list target f₂ (item.rename C.rename)) := by
  obtain ⟨op, clip⟩ := item
  cases op with
  | clear color => exact C.drawOp f₁ f₂ ⟨.clear color, clip⟩ frames
  | fill rect color => exact C.drawOp f₁ f₂ ⟨.fill rect color, clip⟩ frames
  | functor id =>
    simp only [Context.drawItem, DrawItem.rename, DrawOp.rename, registries.functors]
    cases found : r₁.functors.get? id with
    | none => exact (C.same_note_simulates name _ _).bind fun _ _ _ => simulates_pure frames
    | some f =>
      have allowed := registries.callbacks id f found
      refine (C.flush f₁ f₂ frames).bind fun f₁ f₂ frames => ?_
      refine (C.invoke id f f₁ f₂ _ allowed frames).bind ?_
      rintro ⟨f₁, completion⟩ ⟨f₂, completion'⟩ ⟨frames, same⟩
      obtain rfl : completion' = completion := same
      cases completion' with
      | finished => exact simulates_pure frames
      | panicked => exact (C.same_note_simulates name _ _).bind fun _ _ _ => simulates_pure frames
  | layer handle dst =>
    have look := registries.layer? handle
    simp only [Context.drawItem, DrawItem.rename, DrawOp.rename]
    generalize r₁.layers.get? handle = e₁ at look
    generalize r₂.layers.get? (C.rename handle) = e₂ at look
    cases look with
    | none =>
      have noted := C.note_simulates name .trace (fun h => s!"{h.text} unknown; skipped") handle
      exact noted.bind fun _ _ _ => simulates_pure frames
    | some entry => exact C.drawLayer handle f₁ f₂ _ _ dst clip frames entry.1

theorem drawItems_simulates {r₁ : Registry B₁.Layer φ} {r₂ : Registry B₂.Layer φ}
    (registries : C.Registries r₁ r₂) (name : String) (list : ListId) (target : Target)
    (items : List DrawItem) {f₁ : B₁.Frame} {f₂ : B₂.Frame} (frames : C.frame f₁ f₂) :
    Simulates C.device C.frame (Context.drawItems H₁ name r₁ list target items f₁)
      (Context.drawItems H₂ name r₂ list target (items.map (DrawItem.rename C.rename)) f₂) := by
  induction items generalizing f₁ f₂ with
  | nil => exact simulates_pure frames
  | cons item rest ih =>
    refine (drawItem_simulates registries name list target frames item).bind ?_
    exact fun f₁ f₂ frames => ih frames

end Drawing

/-! ### Layer updates -/

section Contexts

variable {C} {c₁ : Context B₁ φ} {c₂ : Context B₂ φ}

theorem redrawLayer_simulates (contexts : C.Contexts c₁ c₂) (handle : LayerHandle)
    (list : DisplayList) :
    Simulates C.device C.Contexts (c₁.redrawLayer H₁ handle list)
      (c₂.redrawLayer H₂ (C.rename handle) (list.rename C.rename)) := by
  have look := contexts.registry.layer? handle
  obtain @⟨h, name, viewport, bound, redraw, stats, canvas₁, canvas₂, r₁, r₂, canvas, registry⟩ :=
    contexts
  unfold Context.redrawLayer
  simp only at look ⊢
  generalize r₁.layers.get? handle = found₁ at look
  generalize r₂.layers.get? (C.rename handle) = found₂ at look
  cases look with
  | none => exact simulates_pure (.of_parts canvas registry)
  | @some e₁ e₂ entry =>
    have taken := registry.takeLayer handle
    obtain ⟨l₁, _⟩ := e₁
    obtain ⟨l₂, size⟩ := e₂
    obtain ⟨layers, rfl⟩ := entry
    refine (C.beginLayerFrame handle l₁ l₂ layers).bind ?_
    rintro ⟨begun₁, l₁⟩ ⟨begun₂, l₂⟩ ⟨outcome, layers⟩
    -- whatever became of the frame, the layer is put back under its name
    cases outcome with
    | ok frames =>
      refine (drawItems_simulates taken name list.id _ list.items frames).bind ?_
      intro f₁ f₂ frames
      refine (C.endLayerFrame handle l₁ l₂ f₁ f₂ layers frames).bind fun l₁ l₂ layers => ?_
      exact simulates_pure (.of_parts canvas (taken.insertLayer ⟨layers, rfl⟩))
    | error e =>
      have noted := C.note_simulates name .warn
        (fun h => s!"cannot re-record {h.text}: {e.message}") handle
      refine noted.bind fun _ _ _ => simulates_pure ?_
      exact .of_parts canvas (taken.insertLayer ⟨layers, rfl⟩)

theorem redrawLayers_simulates (updates : List (LayerHandle × DisplayList))
    (contexts : C.Contexts c₁ c₂) :
    Simulates C.device C.Contexts (Context.redrawLayers H₁ updates c₁)
      (Context.redrawLayers H₂ (updates.map (renameUpdate C.rename)) c₂) := by
  induction updates generalizing c₁ c₂ with
  | nil => exact simulates_pure contexts
  | cons update rest ih =>
    exact (redrawLayer_simulates contexts update.1 update.2).bind fun c₁ c₂ contexts => ih contexts

theorem applyLayerUpdates_simulates (contexts : C.Contexts c₁ c₂) :
    Simulates C.device C.Contexts (c₁.applyLayerUpdates H₁) (c₂.applyLayerUpdates H₂) := by
  obtain @⟨h, name, viewport, bound, redraw, stats, canvas₁, canvas₂, r₁, r₂, canvas, registry⟩ :=
    contexts
  unfold Context.applyLayerUpdates
  simp only [registry.pending]
  exact redrawLayers_simulates _ (.of_parts canvas registry.settled)

/-! ### Frames -/

/-- A command's result on both sides: the same value, and contexts that correspond. -/
def Results (C : Correspondence H₁ H₂) {α : Type} (r₁ : α × Context B₁ φ)
    (r₂ : α × Context B₂ φ) : Prop :=
  r₂.1 = r₁.1 ∧ C.Contexts r₁.2 r₂.2

theorem drawOnCanvas_simulates (contexts : C.Contexts c₁ c₂) {k₁ : B₁.Canvas} {k₂ : B₂.Canvas}
    (canvases : C.canvas k₁ k₂) (viewport : Viewport) (damage : PixelBox) (list : DisplayList) :
    Simulates C.device C.Results (c₁.drawOnCanvas H₁ k₁ viewport damage list)
      (c₂.drawOnCanvas H₂ k₂ viewport damage (list.rename C.rename)) := by
  obtain @⟨h, name, size, bound, redraw, stats, canvas₁, canvas₂, r₁, r₂, canvas, registry⟩ :=
    contexts
  refine (C.beginFrame k₁ k₂ damage canvases).bind ?_
  rintro ⟨begun₁, k₁⟩ ⟨begun₂, k₂⟩ ⟨outcome, canvases⟩
  cases outcome with
  | error e =>
    refine (C.same_note_simulates name _ _).bind fun _ _ _ => ?_
    exact simulates_pure ⟨rfl, .of_parts (.some canvases) registry⟩
  | ok frame? =>
    cases frame? with
    | none => exact simulates_pure ⟨rfl, .of_parts (.some canvases) registry⟩
    | some frames =>
      refine (drawItems_simulates registry name list.id _ list.items frames).bind ?_
      intro f₁ f₂ frames
      refine (C.endFrame k₁ k₂ f₁ f₂ canvases frames).bind ?_
      rintro ⟨_, k₁⟩ ⟨ended, k₂⟩ ⟨rfl, canvases⟩
      rcases ended with e | ⟨⟩
      · refine (C.same_note_simulates name _ _).bind fun _ _ _ => ?_
        exact simulates_pure ⟨rfl, .of_parts (.some canvases) registry⟩
      · exact simulates_pure ⟨rfl, .of_parts (.some canvases) registry⟩

theorem drawFrame_simulates (contexts : C.Contexts c₁ c₂) (list : DisplayList)
    (damage : Damage) :
    Simulates C.device C.Results (c₁.drawFrame H₁ list damage)
      (c₂.drawFrame H₂ (list.rename C.rename) damage) := by
  obtain @⟨h, name, viewport, bound, redraw, stats, canvas₁, canvas₂, r₁, r₂, canvas, registry⟩ :=
    contexts
  have contexts : C.Contexts ⟨h, name, canvas₁, r₁, viewport, bound, redraw, stats⟩
    ⟨h, name, canvas₂, r₂, viewport, bound, redraw, stats⟩ := .of_parts canvas registry
  unfold Context.drawFrame
  simp only
  cases canvas with
  | none => exact simulates_pure ⟨rfl, contexts⟩
  | some canvases =>
    cases bound with
    | false =>
      exact (C.same_note_simulates name _ _).bind fun _ _ _ => simulates_pure ⟨rfl, contexts⟩
    | true =>
      cases viewport with
      | none =>
        exact (C.same_note_simulates name _ _).bind fun _ _ _ => simulates_pure ⟨rfl, contexts⟩
      | some viewport =>
        refine simulates_get.bind fun d₁ d₂ devices => ?_
        simp only [C.capabilities d₁ d₂ devices]
        split
        · exact simulates_pure ⟨rfl, contexts⟩
        · exact drawOnCanvas_simulates contexts canvases viewport _ list

theorem draw_simulates (contexts : C.Contexts c₁ c₂) (list : DisplayList) (damage : Damage) :
    Simulates C.device C.Results (c₁.draw H₁ list damage)
      (c₂.draw H₂ (list.rename C.rename) damage) := by
  obtain ⟨canvas, registry⟩ := contexts
  have remembered := registry.remember (some list)
  refine (applyLayerUpdates_simulates (.of_parts canvas remembered)).bind fun c₁ c₂ contexts => ?_
  refine (drawFrame_simulates contexts list damage).bind ?_
  rintro ⟨_, c₁⟩ ⟨status, c₂⟩ ⟨rfl, contexts⟩
  obtain ⟨canvas, registry⟩ := contexts
  exact simulates_pure ⟨rfl, .of_parts canvas registry⟩

/-! ### Binding and size -/

theorem bind_simulates (contexts : C.Contexts c₁ c₂) (surface : Option σ)
    (allowed : ∀ s, surface = some s → C.surface s) :
    Simulates C.device C.Results (c₁.bind H₁ surface) (c₂.bind H₂ surface) := by
  obtain @⟨h, name, viewport, bound, redraw, stats, canvas₁, canvas₂, r₁, r₂, canvas, registry⟩ :=
    contexts
  unfold Context.bind
  simp only
  cases canvas with
  | none => exact simulates_pure ⟨rfl, .of_parts .none registry⟩
  | some canvases =>
    cases surface with
    | none =>
      refine (C.unbindSurface _ _ canvases).bind fun _ _ canvases => ?_
      exact simulates_pure ⟨rfl, .of_parts (.some canvases) registry⟩
    | some s =>
      refine (C.bindSurface _ _ s _ canvases (allowed s rfl)).bind ?_
      rintro ⟨_, k₁⟩ ⟨result, k₂⟩ ⟨rfl, canvases⟩
      rcases result with e | ⟨⟩
      · refine (C.same_note_simulates name _ _).bind fun _ _ _ => ?_
        exact simulates_pure ⟨rfl, .of_parts (.some canvases) registry⟩
      · exact simulates_pure ⟨rfl, .of_parts (.some canvases) registry⟩

theorem resize_simulates (contexts : C.Contexts c₁ c₂) (viewport : Viewport) :
    Simulates C.device C.Results (c₁.resize H₁ viewport) (c₂.resize H₂ viewport) := by
  obtain @⟨h, name, size, bound, redraw, stats, canvas₁, canvas₂, r₁, r₂, canvas, registry⟩ :=
    contexts
  unfold Context.resize
  simp only
  cases canvas with
  | none => exact simulates_pure ⟨rfl, .of_parts .none registry⟩
  | some canvases =>
    refine (C.resize _ _ viewport canvases).bind ?_
    rintro ⟨_, k₁⟩ ⟨result, k₂⟩ ⟨rfl, canvases⟩
    rcases result with e | ⟨⟩
    · refine (C.same_note_simulates name _ _).bind fun _ _ _ => ?_
      exact simulates_pure ⟨rfl, .of_parts (.some canvases) registry⟩
    · exact simulates_pure ⟨rfl, .of_parts (.some canvases) registry⟩

/-! ### Making and releasing -/

/-- What making a layer leaves: the layers go under two names, and if these are one layer's, the
contexts still correspond. -/
def Created (C : Correspondence H₁ H₂) (fresh₁ fresh₂ : LayerHandle)
    (r₁ : Except RenderError LayerHandle × Context B₁ φ)
    (r₂ : Except RenderError LayerHandle × Context B₂ φ) : Prop :=
  (∃ e, r₁.1 = .error e ∧ r₂.1 = .error e ∧ C.Contexts r₁.2 r₂.2) ∨
    (r₁.1 = .ok fresh₁ ∧ r₂.1 = .ok fresh₂ ∧ (C.rename fresh₁ = fresh₂ → C.Contexts r₁.2 r₂.2))

theorem createLayer_simulates {fresh₁ fresh₂ : LayerHandle}
    (creates : C.CreatesLayers fresh₁ fresh₂) (contexts : C.Contexts c₁ c₂) (size : Viewport) :
    Simulates C.device (C.Created fresh₁ fresh₂) (c₁.createLayer H₁ fresh₁ size)
      (c₂.createLayer H₂ fresh₂ size) := by
  obtain @⟨h, name, viewport, bound, redraw, stats, canvas₁, canvas₂, r₁, r₂, canvas, registry⟩ :=
    contexts
  unfold Context.createLayer
  simp only
  cases canvas with
  | none => exact simulates_pure (.inl ⟨_, rfl, rfl, .of_parts .none registry⟩)
  | some canvases =>
    refine (creates.create size).bind fun made₁ made₂ outcome => ?_
    cases outcome with
    | error e => exact simulates_pure (.inl ⟨e, rfl, rfl, .of_parts (.some canvases) registry⟩)
    | ok layers =>
      have noted : Simulates C.device (fun _ _ => True)
          (Context.note H₁ name .debug s!"{fresh₁.text} created ({size.width}x{size.height})")
          (Context.note H₂ name .debug s!"{fresh₂.text} created ({size.width}x{size.height})") :=
        simulates_modify (creates.report .debug .context fun h =>
          (fun text => s!"[{name}] {text}") s!"{h.text} created ({size.width}x{size.height})")
      refine noted.bind fun _ _ _ => simulates_pure (.inr ⟨rfl, rfl, ?_⟩)
      rintro rfl
      exact .of_parts (.some canvases) (registry.insertLayer ⟨layers, rfl⟩)

theorem destroyLayers_simulates (drops : C.DestroysLayers)
    {l₁ : List (LayerHandle × LayerEntry B₁.Layer)} {l₂ : List (LayerHandle × LayerEntry B₂.Layer)}
    (alike : List.Forall₂ (fun e e' => e'.1 = C.rename e.1 ∧ C.Entry e.1 e.2 e'.2) l₁ l₂) :
    Simulates C.device (fun _ _ => True) (Context.destroyLayers l₁) (Context.destroyLayers l₂) := by
  induction alike with
  | nil => exact simulates_pure trivial
  | cons entry _ ih => exact (drops _ _ _ entry.2.1).bind fun _ _ _ => ih

theorem releaseAll_simulates (drops : C.DestroysLayers) (ends : C.DestroysCanvases)
    (contexts : C.Contexts c₁ c₂) :
    Simulates C.device C.Contexts c₁.releaseAll c₂.releaseAll := by
  obtain ⟨canvas, registry⟩ := contexts
  refine (destroyLayers_simulates drops registry.layers).bind fun _ _ _ => ?_
  cases canvas with
  | none => exact simulates_pure (.of_parts .none .empty)
  | some canvases =>
    refine (ends _ _ canvases).bind fun _ _ _ => ?_
    exact simulates_pure (.of_parts .none .empty)

theorem release_simulates (full : Bool)
    (releases : full = true → C.DestroysLayers ∧ C.DestroysCanvases)
    (contexts : C.Contexts c₁ c₂) :
    Simulates C.device C.Contexts (c₁.release H₁ full) (c₂.release H₂ full) := by
  obtain @⟨h, name, viewport, bound, redraw, stats, canvas₁, canvas₂, r₁, r₂, canvas, registry⟩ :=
    contexts
  have contexts : C.Contexts ⟨h, name, canvas₁, r₁, viewport, bound, redraw, stats⟩
    ⟨h, name, canvas₂, r₂, viewport, bound, redraw, stats⟩ := .of_parts canvas registry
  cases full with
  | false => exact (C.same_note_simulates name _ _).bind fun _ _ _ => simulates_pure contexts
  | true =>
    obtain ⟨drops, ends⟩ := releases rfl
    refine (releaseAll_simulates drops ends contexts).bind fun c₁ c₂ contexts => ?_
    cases contexts with
    | of_parts canvas registry =>
      refine (C.same_note_simulates _ _ _).bind fun _ _ _ => ?_
      exact simulates_pure (.of_parts canvas registry)

theorem destroy_simulates (full : Bool)
    (releases : full = true → C.DestroysLayers ∧ C.DestroysCanvases)
    (contexts : C.Contexts c₁ c₂) :
    Simulates C.device C.Contexts (c₁.destroy H₁ full) (c₂.destroy H₂ full) := by
  obtain ⟨canvas, registry⟩ := contexts
  rw [Context.destroy_eq, Context.destroy_eq]
  cases canvas with
  | none => exact release_simulates full releases (.of_parts .none registry)
  | some canvases =>
    refine (C.unbindSurface _ _ canvases).bind fun _ _ canvases => ?_
    exact release_simulates full releases (.of_parts (.some canvases) registry)

theorem teardown_simulates (drops : C.DestroysLayers) (ends : C.DestroysCanvases)
    (contexts : C.Contexts c₁ c₂) :
    Simulates C.device (fun _ _ => True) (c₁.teardown H₁) (c₂.teardown H₂) := by
  refine (releaseAll_simulates drops ends contexts).bind fun c₁ c₂ contexts => ?_
  obtain ⟨canvas, registry⟩ := contexts
  exact C.same_note_simulates _ _ _

/-! ### Commands -/

/-- The answer to a command on both sides, where `fresh` is the name for the layer that it may make
on the second. -/
def Answers (C : Correspondence H₁ H₂) (fresh : LayerHandle) (r₁ : Option Reply × Context B₁ φ)
    (r₂ : Option Reply × Context B₂ φ) : Prop :=
  (∀ handle, Reply.made r₁.1 = some handle → C.rename handle = fresh) →
    r₂.1 = r₁.1.map (Reply.rename C.rename) ∧ C.Contexts r₁.2 r₂.2

theorem reply_simulates {α : Type} {op₁ : DeviceOp B₁.Device (α × Context B₁ φ)}
    {op₂ : DeviceOp B₂.Device (α × Context B₂ φ)} (sim : Simulates C.device C.Results op₁ op₂)
    (reply : α → Reply) (plain : ∀ a, (reply a).rename C.rename = reply a) (fresh : LayerHandle) :
    Simulates C.device (C.Answers fresh) (op₁ >>= fun r => pure (some (reply r.1), r.2))
      (op₂ >>= fun r => pure (some (reply r.1), r.2)) := by
  refine sim.bind ?_
  rintro ⟨_, c₁⟩ ⟨a, c₂⟩ ⟨rfl, contexts⟩
  exact simulates_pure fun _ => ⟨congrArg some (plain a).symm, contexts⟩

/-- **A command is carried out the same way on both sides.** -/
theorem execute_simulates (contexts : C.Contexts c₁ c₂) {command : Command σ φ}
    {fresh₁ fresh₂ : LayerHandle} (supports : C.Supports fresh₁ fresh₂ command) :
    Simulates C.device (C.Answers fresh₂) (c₁.execute H₁ fresh₁ command)
      (c₂.execute H₂ fresh₂ (command.rename C.rename)) := by
  obtain @⟨h, name, size, bound, redraw, stats, canvas₁, canvas₂, r₁, r₂, canvas, registry⟩ :=
    contexts
  have contexts : C.Contexts ⟨h, name, canvas₁, r₁, size, bound, redraw, stats⟩
    ⟨h, name, canvas₂, r₂, size, bound, redraw, stats⟩ := .of_parts canvas registry
  -- a command that is not replied to
  have silent {c₁ : Context B₁ φ} {c₂ : Context B₂ φ} (contexts : C.Contexts c₁ c₂) :
      Simulates C.device (C.Answers fresh₂) (pure (none, c₁)) (pure (none, c₂)) :=
    simulates_pure fun _ => ⟨rfl, contexts⟩
  cases command with
  | bindSurface s =>
    refine reply_simulates (bind_simulates contexts (some s) ?_) .surface (fun _ => rfl) fresh₂
    rintro t ⟨⟩
    exact supports
  | updateSurface s =>
    exact reply_simulates (bind_simulates contexts s supports) .surface (fun _ => rfl) fresh₂
  | setup viewport =>
    exact reply_simulates (resize_simulates contexts viewport) .resized (fun _ => rfl) fresh₂
  | draw list record =>
    exact reply_simulates (draw_simulates contexts list _) .drawn (fun _ => rfl) fresh₂
  | repeatLastDraw =>
    simp only [Context.execute, Command.rename, registry.lastDrawn]
    cases r₁.lastDrawn with
    | none =>
      refine (C.same_note_simulates name _ _).bind fun _ _ _ => ?_
      exact simulates_pure fun _ => ⟨rfl, .of_parts canvas registry⟩
    | some list =>
      exact reply_simulates (draw_simulates contexts list .whole) .drawn (fun _ => rfl) fresh₂
  | destroy full =>
    refine (destroy_simulates full supports contexts).bind fun c₁ c₂ contexts => ?_
    exact simulates_pure fun _ => ⟨rfl, contexts⟩
  | attachFunctor functor =>
    have attached := registry.attach? functor.id supports
    simp only [Context.execute, Command.rename]
    generalize r₁.attach? functor.id functor.callback = after₁ at attached
    generalize r₂.attach? functor.id functor.callback = after₂ at attached
    cases attached with
    | none => exact (C.same_note_simulates name _ _).bind fun _ _ _ => silent contexts
    | some registry => exact silent (.of_parts canvas registry)
  | detachFunctor id =>
    have detached := registry.detach? id
    simp only [Context.execute, Command.rename]
    generalize r₁.detach? id = after₁ at detached
    generalize r₂.detach? id = after₂ at detached
    cases detached with
    | none => exact (C.same_note_simulates name _ _).bind fun _ _ _ => silent contexts
    | some registry => exact silent (.of_parts canvas registry)
  | createLayer size =>
    refine (createLayer_simulates supports contexts size).bind ?_
    rintro ⟨made₁, c₁⟩ ⟨made₂, c₂⟩ (⟨e, rfl, rfl, contexts⟩ | ⟨rfl, rfl, contexts⟩)
    · exact simulates_pure fun _ => ⟨rfl, contexts⟩
    · refine simulates_pure fun named => ?_
      have same : C.rename fresh₁ = fresh₂ := named fresh₁ rfl
      refine ⟨?_, contexts same⟩
      simp [Reply.rename, same]
  | pushLayerUpdate layer list =>
    have queued := registry.queueUpdate? layer list
    simp only [Context.execute, Command.rename]
    generalize r₁.queueUpdate? layer list = after₁ at queued
    generalize r₂.queueUpdate? (C.rename layer) (list.rename C.rename) = after₂ at queued
    cases queued with
    | none =>
      have noted := C.note_simulates name .debug
        (fun h => s!"update for unknown {h.text} dropped") layer
      exact noted.bind fun _ _ _ => silent contexts
    | some registry => exact silent (.of_parts canvas registry)
  | flushLayerUpdates =>
    exact (applyLayerUpdates_simulates contexts).bind fun c₁ c₂ contexts => silent contexts
  | copyLayer layer =>
    refine (applyLayerUpdates_simulates contexts).bind fun c₁ c₂ contexts => ?_
    have look := contexts.registry.layer? layer
    generalize c₁.registry.layers.get? layer = e₁ at look
    generalize c₂.registry.layers.get? (C.rename layer) = e₂ at look
    cases look with
    | none => exact simulates_pure fun _ => ⟨rfl, contexts⟩
    | some entry =>
      refine (C.copyLayer layer _ _ entry.1).bind ?_
      rintro _ pixels rfl
      exact simulates_pure fun _ => ⟨rfl, contexts⟩
  | destroyLayer layer =>
    have look := registry.layer? layer
    simp only [Context.execute, Command.rename]
    generalize r₁.layers.get? layer = e₁ at look
    generalize r₂.layers.get? (C.rename layer) = e₂ at look
    cases look with
    | none =>
      have noted := C.note_simulates name .debug
        (fun h => s!"destroy of unknown {h.text} ignored") layer
      exact noted.bind fun _ _ _ => silent contexts
    | some entry =>
      refine (supports layer _ _ entry.1).bind fun _ _ _ => ?_
      exact silent (.of_parts canvas (registry.removeLayer layer))
  | flushCaches =>
    simp only [Context.execute, Command.rename]
    have forgotten := registry.remember none
    cases canvas with
    | none => exact silent (.of_parts .none forgotten)
    | some canvases =>
      refine (C.trimCaches _ _ canvases).bind fun _ _ canvases => ?_
      exact silent (.of_parts (.some canvases) forgotten)
  | setName name =>
    exact (C.same_note_simulates _ _ _).bind fun _ _ _ => silent (.of_parts canvas registry)
  | dumpInfo =>
    refine simulates_get.bind fun d₁ d₂ devices => simulates_pure fun _ => ⟨?_, contexts⟩
    exact congrArg (fun info => some (Reply.info info)) (contexts.info devices)
  | fence => exact simulates_pure fun _ => ⟨rfl, contexts⟩

/-- **A command is reported and carried out the same way on both sides.** -/
theorem dispatch_simulates (contexts : C.Contexts c₁ c₂) {command : Command σ φ}
    {fresh₁ fresh₂ : LayerHandle} (supports : C.Supports fresh₁ fresh₂ command) :
    Simulates C.device (C.Answers fresh₂) (c₁.dispatch H₁ fresh₁ command)
      (c₂.dispatch H₂ fresh₂ (command.rename C.rename)) := by
  have name : c₂.name = c₁.name := by
    obtain ⟨canvas, registry⟩ := contexts
    rfl
  unfold Context.dispatch
  rw [command.rename_name, name]
  exact (C.same_note_simulates _ _ _).bind fun _ _ _ => execute_simulates contexts supports

end Contexts

end RenderRelay.Correspondence

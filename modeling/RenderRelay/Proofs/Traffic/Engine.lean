import RenderRelay.Proofs.Traffic.Script

/-!
The engine makes the calls of the script. Each of its functions is taken through the calls it makes
one after the other; `dispatch_makes` puts the commands together.
-/

namespace RenderRelay

open DeviceOp Recorded

variable {σ φ τ : Type} {B : Backend σ}

namespace Directory

theorem drawsInto?_of_mem {s : Directory φ} {list : ListId} {target : Target} {frame : Nat}
    {items : List DrawItem} {call : BackendCall σ φ}
    (mem : call ∈ s.listCalls list target frame items) : call.drawsInto? = some frame := by
  obtain ⟨item, -, mem⟩ := List.mem_flatMap.1 mem
  unfold itemCalls at mem
  split at mem
  · obtain rfl := List.mem_singleton.1 mem
    rfl
  · obtain rfl := List.mem_singleton.1 mem
    rfl
  · split at mem
    · simp at mem
    · obtain rfl := List.mem_singleton.1 mem
      rfl
  · split at mem
    · simp at mem
    · rcases List.mem_pair.1 mem with rfl | rfl <;> rfl

theorem RedrawsAll.canvas? {s : Directory φ} {index n : Nat}
    {updates : List (LayerHandle × DisplayList)} {calls : List (BackendCall σ φ)}
    (redraws : s.RedrawsAll index n updates calls) : ∀ call ∈ calls, call.canvas? = none := by
  induction redraws with
  | nil => simp
  | cons first _ ih =>
    intro call mem
    rcases List.mem_append.1 mem with mem | mem
    · cases first with
      | unknown => simp at mem
      | refused =>
        obtain rfl := List.mem_singleton.1 mem
        rfl
      | drawn =>
        simp only [List.mem_cons, List.mem_append, List.not_mem_nil, or_false] at mem
        rcases mem with rfl | mem | rfl
        · rfl
        · exact BackendCall.canvas?_of_drawsInto? (drawsInto?_of_mem mem)
        · rfl
    · exact ih call mem

theorem Presents.own {s : Directory φ} {canvas n : Nat} {list : DisplayList} {target : Target}
    {calls : List (BackendCall σ φ)} (presents : s.Presents canvas list target n calls) :
    ∀ call ∈ calls, ∀ k, call.canvas? = some k → k = canvas := by
  intro call mem k about
  cases presents with
  | refused =>
    obtain rfl := List.mem_singleton.1 mem
    exact (Option.some.inj about).symm
  | drawn submitted =>
    simp only [List.mem_cons, List.mem_append, List.not_mem_nil, or_false] at mem
    rcases mem with rfl | mem | rfl
    · exact (Option.some.inj about).symm
    · simp [BackendCall.canvas?_of_drawsInto? (drawsInto?_of_mem mem)] at about
    · exact (Option.some.inj about).symm

theorem foldl_after_frame (s : Directory φ) (canvas n : Nat) (list : DisplayList)
    (target : Target) (submitted : Bool) (state : CanvasState) :
    (.beginFrame canvas target.damage true ::
        (s.listCalls (σ := σ) list.id target n list.items ++
          [.endFrame canvas n submitted])).foldl (CanvasState.after canvas) state =
      { state with stale := state.stale && !submitted } := by
  have off : ∀ call ∈ s.listCalls (σ := σ) list.id target n list.items,
      call.canvas? ≠ some canvas := by
    intro call mem
    simp [BackendCall.canvas?_of_drawsInto? (drawsInto?_of_mem mem)]
  rw [List.foldl_cons, List.foldl_append, CanvasState.foldl_after_of_others off]
  simp [CanvasState.after]

end Directory

namespace Context

variable (H : Host B φ τ) {n : Nat}

theorem drawItem_makes (name : String) (registry : Registry (B.recorded φ).Layer φ)
    (list : ListId) (target : Target) (frame : (B.recorded φ).Frame) (item : DrawItem) :
    Makes n (drawItem H.recorded name registry list target frame item) fun frame' calls =>
      frame'.number = frame.number ∧
        calls = registry.directory.itemCalls list target frame.number item := by
  obtain ⟨op, clip⟩ := item
  cases op with
  | clear color => exact makes_calling fun _ => ⟨rfl, rfl⟩
  | fill rect color => exact makes_calling fun _ => ⟨rfl, rfl⟩
  | layer handle dst =>
    simp only [drawItem, Directory.itemCalls, Registry.directory]
    cases registry.layers.get? handle with
    | none => exact (makes_note H _ _ _).bind_quiet fun _ => makes_pure ⟨rfl, rfl⟩
    | some entry => exact makes_calling fun _ => ⟨rfl, rfl⟩
  | functor id =>
    simp only [drawItem, Directory.itemCalls, Registry.directory]
    cases registry.functors.get? id with
    | none => exact (makes_note H _ _ _).bind_quiet fun _ => makes_pure ⟨rfl, rfl⟩
    | some callback =>
      refine (makes_calling (P := fun frame' calls =>
        frame'.number = frame.number ∧ calls = [.flush frame.number]) fun _ => ⟨rfl, rfl⟩).bind ?_
      rintro frame' _ ⟨same, rfl⟩
      refine (makes_invoke H callback frame' _).bind ?_
      rintro ⟨frame'', completion⟩ _ ⟨same', rfl⟩
      have held : frame''.number = frame.number := same'.trans same
      cases completion with
      | finished => exact makes_pure ⟨held, by simp [same]⟩
      | panicked =>
        exact (makes_note H _ _ _).bind_quiet fun _ => makes_pure ⟨held, by simp [same]⟩

theorem drawItems_makes (name : String) (registry : Registry (B.recorded φ).Layer φ)
    (list : ListId) (target : Target) (items : List DrawItem) (frame : (B.recorded φ).Frame) :
    Makes n (drawItems H.recorded name registry list target items frame) fun frame' calls =>
      frame'.number = frame.number ∧
        calls = registry.directory.listCalls list target frame.number items := by
  induction items generalizing frame n with
  | nil => exact makes_pure ⟨rfl, rfl⟩
  | cons item rest ih =>
    refine (drawItem_makes H name registry list target frame item).bind ?_
    rintro frame' _ ⟨same, rfl⟩
    refine (ih frame').mono ?_
    rintro frame'' _ ⟨same', rfl⟩
    refine ⟨same'.trans same, ?_⟩
    rw [same]
    rfl

/-! ### Layers -/

/-- A registry that is without a layer while the layer is drawn. -/
theorem directory_takeLayer (r : Registry (Numbered B.Layer) φ) (handle : LayerHandle) :
    (r.takeLayer handle).directory = r.directory.without handle := by
  unfold Registry.directory Directory.without Registry.takeLayer
  congr 1
  funext other
  rw [Table.get?_erase]
  by_cases same : handle = other
  · simp [same]
  · simp [same, Ne.symm same]

theorem directory_redraw {r : Registry (Numbered B.Layer) φ} {handle : LayerHandle}
    {entry : LayerEntry (Numbered B.Layer)} (there : r.layers.get? handle = some entry)
    {layer : Numbered B.Layer} (same : layer.number = entry.layer.number) :
    ((r.takeLayer handle).insertLayer handle { entry with layer }).directory = r.directory := by
  unfold Registry.directory Registry.insertLayer Registry.takeLayer
  congr 1
  funext other
  rw [Table.get?_insert, Table.get?_erase]
  split
  case isTrue eq =>
    subst eq
    simp [there, same]
  case isFalse => rfl

/-- A context after layers were drawn anew: its registry finds the same. -/
def Redrawn (c c' : Context (B.recorded φ) φ) : Prop :=
  (∃ layers, c' = { c with registry := { c.registry with layers } }) ∧
    c'.registry.directory = c.registry.directory

theorem redrawLayer_makes (c : Context (B.recorded φ) φ) (handle : LayerHandle)
    (list : DisplayList) :
    Makes n (c.redrawLayer H.recorded handle list) fun c' calls =>
      c.Redrawn c' ∧ c.registry.directory.Redraws c.stats.drawn n (handle, list) calls := by
  unfold redrawLayer
  split
  case h_1 unknown =>
    exact makes_pure ⟨⟨⟨_, rfl⟩, rfl⟩, .unknown (by simp [Registry.directory, unknown])⟩
  case h_2 entry there =>
    have known : c.registry.directory.layer handle = some (entry.layer.number, entry.size) := by
      simp [Registry.directory, there]
    refine (makes_calling (P := fun r calls => r.2.number = entry.layer.number ∧
      calls = [.beginLayerFrame entry.layer.number r.1.isOk] ∧
      ∀ frame, r.1 = .ok frame → frame.number = n) ?_).bind ?_
    · rintro ⟨e | frame, value⟩
      · exact ⟨rfl, rfl, by simp [layerFrame, anew, Except.map]⟩
      · refine ⟨rfl, rfl, ?_⟩
        rintro frame' ⟨⟩
        rfl
    rintro ⟨e | frame, layer⟩ _ ⟨same, rfl, number⟩
    · refine (makes_note H _ _ _).bind_quiet fun _ => makes_pure ?_
      exact ⟨⟨⟨_, rfl⟩, directory_redraw there same⟩, .refused known⟩
    · obtain rfl : frame.number = n := number frame rfl
      refine (drawItems_makes H _ _ _ _ _ frame).bind ?_
      rintro frame' _ ⟨same', rfl⟩
      refine (makes_calling (P := fun layer' calls => layer'.number = layer.number ∧
        calls = [.endLayerFrame layer.number frame'.number]) fun _ => ⟨rfl, rfl⟩).bind ?_
      rintro layer' _ ⟨same'', rfl⟩
      refine makes_pure ⟨⟨⟨_, rfl⟩, directory_redraw there (same''.trans same)⟩, ?_⟩
      rw [directory_takeLayer, same', same]
      exact .drawn known

theorem redrawLayers_makes (updates : List (LayerHandle × DisplayList))
    (c : Context (B.recorded φ) φ) :
    Makes n (redrawLayers H.recorded updates c) fun c' calls =>
      c.Redrawn c' ∧ c.registry.directory.RedrawsAll c.stats.drawn n updates calls := by
  induction updates generalizing c n with
  | nil => exact makes_pure ⟨⟨⟨_, rfl⟩, rfl⟩, .nil⟩
  | cons update rest ih =>
    refine (redrawLayer_makes H c update.1 update.2).bind ?_
    rintro _ calls ⟨⟨⟨layers, rfl⟩, same⟩, first⟩
    refine (ih _).mono ?_
    rintro _ calls' ⟨⟨⟨layers', rfl⟩, same'⟩, others⟩
    refine ⟨⟨⟨layers', rfl⟩, same'.trans same⟩, .cons first ?_⟩
    rwa [same] at others

/-- Carrying out the waiting updates makes their calls, and a list then finds what it found. -/
theorem applyLayerUpdates_makes (c : Context (B.recorded φ) φ) :
    Makes n (c.applyLayerUpdates H.recorded) fun c' calls =>
      (∃ layers, c' = { c with registry := { c.registry with layers, pending := [] } }) ∧
        c'.registry.directory = c.registry.directory ∧ c.Updates n calls := by
  refine (redrawLayers_makes H c.registry.pending
    { c with registry := { c.registry with pending := [] } }).mono ?_
  rintro _ calls ⟨⟨⟨layers, rfl⟩, same⟩, redraws⟩
  exact ⟨⟨layers, rfl⟩, same, redraws⟩

/-! ### Frames -/

theorem drawOnCanvas_makes {c : Context (B.recorded φ) φ} {canvas : Numbered B.Canvas}
    (there : c.canvas = some canvas) (viewport : Viewport) (damage : PixelBox)
    (list : DisplayList) :
    Makes n (c.drawOnCanvas H.recorded canvas viewport damage list) fun r calls =>
      c.registry.directory.Presents canvas.number list ⟨viewport, damage, c.stats.drawn⟩ n calls ∧
        c.Follows calls r.2 := by
  -- no frame came of it
  have refused {canvas' : Numbered B.Canvas} (same : canvas'.number = canvas.number) :
      c.registry.directory.Presents (σ := σ) canvas.number list
          ⟨viewport, damage, c.stats.drawn⟩ n [.beginFrame canvas.number damage false] ∧
        c.Follows [.beginFrame canvas.number damage false]
          { c with canvas := some canvas' } := by
    have presents : c.registry.directory.Presents (σ := σ) canvas.number list
      ⟨viewport, damage, c.stats.drawn⟩ n [.beginFrame canvas.number damage false] := .refused
    exact ⟨presents, .of_canvas there presents.own rfl same rfl⟩
  refine (makes_calling (P := fun r calls => r.2.number = canvas.number ∧
    calls = [.beginFrame canvas.number damage (begun r.1)] ∧
    ∀ frame, r.1 = .ok (some frame) → frame.number = n) ?_).bind ?_
  · rintro ⟨e | _ | frame, value⟩
    · exact ⟨rfl, rfl, by simp [Recorded.frame, Except.map]⟩
    · exact ⟨rfl, rfl, by simp [Recorded.frame, Except.map]⟩
    · refine ⟨rfl, rfl, ?_⟩
      rintro frame' ⟨⟩
      rfl
  rintro ⟨e | _ | frame, canvas'⟩ _ ⟨same, rfl, number⟩
  · exact (makes_note H _ _ _).bind_quiet fun _ => makes_pure (refused same)
  · exact makes_pure (refused same)
  · obtain rfl : frame.number = n := number frame rfl
    refine (drawItems_makes H _ _ _ _ _ frame).bind ?_
    rintro frame' _ ⟨same', rfl⟩
    refine (makes_calling (P := fun r calls => r.2.number = canvas'.number ∧
      calls = [.endFrame canvas'.number frame'.number r.1.isOk]) ?_).bind ?_
    · rintro ⟨e | _, value⟩ <;> exact ⟨rfl, rfl⟩
    rintro ⟨ended, canvas''⟩ _ ⟨same'', rfl⟩
    have number : canvas''.number = canvas.number := same''.trans same
    have presents : c.registry.directory.Presents (σ := σ) canvas.number list
      ⟨viewport, damage, c.stats.drawn⟩ frame.number _ := .drawn ended.isOk
    have state := Directory.foldl_after_frame (σ := σ) c.registry.directory canvas.number
      frame.number list ⟨viewport, damage, c.stats.drawn⟩ ended.isOk c.canvasState
    rw [same', same]
    cases ended with
    | ok _ =>
      refine makes_pure ⟨presents, .of_canvas there presents.own rfl number ?_⟩
      refine Eq.trans ?_ state.symm
      simp [canvasState, Except.isOk, Except.toBool]
    | error e =>
      refine (makes_note H _ _ _).bind_quiet fun _ => makes_pure ?_
      refine ⟨presents, .of_canvas there presents.own rfl number ?_⟩
      refine Eq.trans ?_ state.symm
      simp [canvasState, Except.isOk, Except.toBool]

theorem drawFrame_makes (c : Context (B.recorded φ) φ) (list : DisplayList) (damage : Damage) :
    Makes n (c.drawFrame H.recorded list damage) fun r calls =>
      c.Frames n list damage calls ∧ c.Follows calls r.2 := by
  unfold drawFrame
  split
  case h_1 gone => exact makes_pure ⟨.unbound (.inl gone), .refl c⟩
  case h_2 canvas there =>
    split
    case isTrue unbound =>
      refine (makes_note H _ _ _).bind_quiet fun _ => makes_pure ⟨.unbound ?_, .refl c⟩
      exact .inr (.inl (by simpa using unbound))
    case isFalse bound =>
      split
      case h_1 unset =>
        refine (makes_note H _ _ _).bind_quiet fun _ => makes_pure ⟨?_, .refl c⟩
        exact .unbound (.inr (.inr unset))
      case h_2 viewport sized =>
        refine makes_get.bind_quiet fun d => ?_
        simp only
        split
        case h_1 clean => exact makes_pure ⟨.outside sized clean, .refl c⟩
        case h_2 box repaints =>
          refine (drawOnCanvas_makes H there viewport box list).mono fun r calls made => ?_
          exact ⟨.frame there (by simpa using bound) sized repaints made.1, made.2⟩

/-- A frame's calls depend on what a list can refer to, not on the rest of the registry. -/
theorem Frames.of_registry {c : Context (B.recorded φ) φ} {registry : Registry (Numbered B.Layer) φ}
    (same : registry.directory = c.registry.directory) {list : DisplayList} {damage : Damage}
    {calls : List (BackendCall σ φ)}
    (frames : ({ c with registry } : Context (B.recorded φ) φ).Frames n list damage calls) :
    c.Frames n list damage calls := by
  cases frames with
  | unbound reason => exact .unbound reason
  | outside sized clean => exact .outside sized clean
  | frame there bound sized repaints presents =>
    exact .frame there bound sized repaints (same ▸ presents)

theorem draw_makes (c : Context (B.recorded φ) φ) (list : DisplayList) (damage : Damage) :
    Makes n (c.draw H.recorded list damage) fun r calls =>
      c.Draws n list damage calls ∧ c.Follows calls r.2 := by
  refine (applyLayerUpdates_makes H _).bind ?_
  rintro _ updates ⟨⟨layers, rfl⟩, same, made⟩
  have made : c.Updates n updates := made
  refine (drawFrame_makes H _ list damage).bind ?_
  rintro ⟨status, c'⟩ frame ⟨frames, follows⟩
  have frames : c.Frames (n + updates.length) list damage frame := frames.of_registry (c := c) same
  have redrawn : c.Follows updates { c with
      registry := { c.registry with layers, pending := [], lastDrawn := some list } } :=
    .of_same made.canvas? rfl rfl
  have follows := redrawn.trans follows
  rw [← List.append_nil (updates ++ frame), List.append_assoc] at follows
  exact makes_pure ⟨⟨updates, frame, made, frames, by simp⟩, follows.own, follows.state⟩

/-! ### Surfaces and sizes -/

theorem bind_makes (c : Context (B.recorded φ) φ) (surface : Option σ) :
    Makes n (c.bind H.recorded surface) fun r calls =>
      c.Binds surface calls ∧ c.Follows calls r.2 := by
  unfold bind
  split
  case h_1 gone => exact makes_pure ⟨by simp [Binds, gone], .refl c⟩
  case h_2 canvas there =>
    refine (makes_calling (P := fun canvas' calls => canvas'.number = canvas.number ∧
      calls = [.unbindSurface canvas.number]) fun _ => ⟨rfl, rfl⟩).bind ?_
    rintro canvas' _ ⟨same, rfl⟩
    refine makes_pure ⟨by simp [Binds, there], .of_call there rfl rfl same ?_⟩
    simp [CanvasState.after, canvasState]
  case h_3 canvas surface there =>
    refine (makes_calling (P := fun r calls => r.2.number = canvas.number ∧
      calls = [.bindSurface canvas.number surface c.viewport r.1.isOk])
      fun _ => ⟨rfl, rfl⟩).bind ?_
    rintro ⟨_ | _, canvas'⟩ _ ⟨same, rfl⟩
    · refine (makes_note H _ _ _).bind_quiet fun _ => makes_pure ?_
      refine ⟨by simp [Binds, there], .of_call there rfl rfl same ?_⟩
      simp [CanvasState.after, canvasState, Except.isOk, Except.toBool]
    · refine makes_pure ⟨by simp [Binds, there], .of_call there rfl rfl same ?_⟩
      simp [CanvasState.after, canvasState, Except.isOk, Except.toBool]

theorem resize_makes (c : Context (B.recorded φ) φ) (viewport : Viewport) :
    Makes n (c.resize H.recorded viewport) fun r calls =>
      c.Resizes viewport calls ∧ c.Follows calls r.2 := by
  unfold resize
  simp only
  split
  case h_1 gone => exact makes_pure ⟨by simp [Resizes, gone], .of_gone (by simp) gone⟩
  case h_2 canvas there =>
    refine (makes_calling (P := fun r calls => r.2.number = canvas.number ∧
      calls = [.resize canvas.number viewport r.1.isOk]) fun _ => ⟨rfl, rfl⟩).bind ?_
    rintro ⟨_ | _, canvas'⟩ _ ⟨same, rfl⟩
    · refine (makes_note H _ _ _).bind_quiet fun _ => makes_pure ?_
      refine ⟨by simp [Resizes, there], .of_call there rfl rfl same ?_⟩
      simp [CanvasState.after_resize, canvasState]
    · refine makes_pure ⟨by simp [Resizes, there], .of_call there rfl rfl same ?_⟩
      simp [CanvasState.after_resize, canvasState]

/-! ### Making and releasing -/

theorem createLayer_makes (c : Context (B.recorded φ) φ) (fresh : LayerHandle) (size : Viewport) :
    Makes n (c.createLayer H.recorded fresh size) fun r calls =>
      calls = (c.canvas.toList.map fun _ => .createLayer size) ∧ c.Follows calls r.2 := by
  unfold createLayer
  split
  case h_1 gone => exact makes_pure ⟨by simp [gone], .refl c⟩
  case h_2 canvas there =>
    refine (makes_calling (P := fun _ calls => calls = [.createLayer size]) fun _ => rfl).bind ?_
    rintro (e | layer) _ rfl
    · exact makes_pure ⟨by simp [there], .of_same (by simp [BackendCall.canvas?]) rfl rfl⟩
    · refine (makes_note H _ _ _).bind_quiet fun _ => makes_pure ?_
      exact ⟨by simp [there], .of_same (by simp [BackendCall.canvas?]) rfl rfl⟩

theorem destroyLayers_makes (layers : List (LayerHandle × LayerEntry (Numbered B.Layer))) :
    Makes n (destroyLayers (B := B.recorded φ) layers) fun _ calls =>
      calls = layers.map fun e => .destroyLayer e.2.layer.number := by
  induction layers generalizing n with
  | nil => exact makes_pure rfl
  | cons e rest ih =>
    refine (makes_calling (P := fun _ calls => calls = [.destroyLayer e.2.layer.number])
      fun _ => rfl).bind ?_
    rintro _ _ rfl
    refine ih.mono ?_
    rintro _ _ rfl
    rfl

theorem releaseAll_makes (c : Context (B.recorded φ) φ) :
    Makes n c.releaseAll fun c' calls => calls = c.releases ∧ c'.canvas = none := by
  unfold releaseAll releases
  refine (destroyLayers_makes _).bind ?_
  rintro _ _ rfl
  split
  case h_1 gone => exact makes_pure ⟨by simp [gone], gone⟩
  case h_2 canvas there =>
    refine (makes_calling (P := fun _ calls => calls = [.destroyCanvas canvas.number])
      fun _ => rfl).bind ?_
    rintro _ _ rfl
    exact makes_pure ⟨by simp [there], rfl⟩

theorem teardown_makes (c : Context (B.recorded φ) φ) :
    Makes n (c.teardown H.recorded) fun _ calls => calls = c.releases := by
  refine (releaseAll_makes c).bind ?_
  rintro c' _ ⟨rfl, -⟩
  refine (makes_note H _ _ _).mono ?_
  rintro _ _ rfl
  simp

theorem own_of_mem_releases {c : Context (B.recorded φ) φ} {call : BackendCall σ φ}
    (mem : call ∈ c.releases) {k : Nat} (about : call.canvas? = some k) :
    ∃ canvas, c.canvas = some canvas ∧ canvas.number = k := by
  unfold releases at mem
  rcases List.mem_append.1 mem with mem | mem
  · obtain ⟨e, -, rfl⟩ := List.mem_map.1 mem
    simp [BackendCall.canvas?] at about
  · obtain ⟨canvas, held, rfl⟩ := List.mem_map.1 mem
    exact ⟨canvas, by simpa using held, Option.some.inj about⟩

theorem release_makes (c : Context (B.recorded φ) φ) (full : Bool) :
    Makes n (c.release H.recorded full) fun c' calls =>
      calls = (if full then c.releases else []) ∧ c.Follows calls c' := by
  cases full with
  | false => exact (makes_note H _ _ _).bind_quiet fun _ => makes_pure ⟨rfl, .refl c⟩
  | true =>
    refine (releaseAll_makes c).bind ?_
    rintro c' _ ⟨rfl, gone⟩
    refine (makes_note H _ _ _).bind_quiet fun _ => makes_pure ⟨by simp, ?_⟩
    refine .of_gone ?_ gone
    intro call mem k about
    exact own_of_mem_releases (by simpa using mem) about

theorem destroy_makes (c : Context (B.recorded φ) φ) (full : Bool) :
    Makes n (c.destroy H.recorded full) fun c' calls =>
      calls = c.canvas.toList.map (fun canvas => .unbindSurface canvas.number) ++
        (if full then c.releases else []) ∧ c.Follows calls c' := by
  rw [destroy_eq]
  split
  case h_1 gone =>
    refine (release_makes H _ full).mono ?_
    rintro c' calls ⟨rfl, follows⟩
    refine ⟨by simp [gone, releases], follows.own, ?_⟩
    intro canvas' there'
    obtain ⟨canvas, there, -⟩ := follows.state canvas' there'
    simp [gone] at there
  case h_2 canvas there =>
    refine (makes_calling (P := fun canvas' calls => canvas'.number = canvas.number ∧
      calls = [.unbindSurface canvas.number]) fun _ => ⟨rfl, rfl⟩).bind ?_
    rintro canvas' _ ⟨same, rfl⟩
    refine (release_makes H _ full).mono ?_
    rintro c' calls ⟨rfl, follows⟩
    have unbound : c.Follows [.unbindSurface canvas.number]
        { c with canvas := some canvas', surfaceBound := false } :=
      .of_call there rfl rfl same (by simp [CanvasState.after, canvasState])
    refine ⟨?_, unbound.trans follows⟩
    simp [there, releases, same]

/-! ### Commands -/

/-- **A command makes the calls of its script**, and its context then is as they tell. -/
theorem execute_makes (c : Context (B.recorded φ) φ) (fresh : LayerHandle)
    (command : Command σ φ) :
    Makes n (c.execute H.recorded fresh command) fun r calls =>
      c.Carries n command calls ∧ c.Follows calls r.2 := by
  -- the reply is told after the last call
  have replied {α : Type} {op : DeviceOp (Recorded σ φ B.Device) α} {reply : α → Option Reply}
      {context : α → Context (B.recorded φ) φ} {script : List (BackendCall σ φ) → Prop}
      (makes : Makes n op fun a calls => script calls ∧ c.Follows calls (context a)) :
      Makes n (op >>= fun a => pure (reply a, context a)) fun r calls =>
        script calls ∧ c.Follows calls r.2 := by
    refine makes.bind fun a calls holds => makes_pure ?_
    rwa [List.append_nil]
  -- a command that makes no call
  have quiet (name : String) (level : Level) (text : String) :
      Makes n (note H.recorded name level text >>= fun _ => pure (none, c)) fun r calls =>
        calls = [] ∧ c.Follows calls (r : Option Reply × _).2 :=
    (makes_note H name level text).bind_quiet fun _ => makes_pure ⟨rfl, .refl c⟩
  cases command with
  | bindSurface surface => exact replied (bind_makes H c _)
  | updateSurface surface => exact replied (bind_makes H c surface)
  | setup viewport => exact replied (resize_makes H c viewport)
  | draw list record => exact replied (draw_makes H c list _)
  | repeatLastDraw =>
    unfold execute Carries
    simp only
    cases c.registry.lastDrawn with
    | none =>
      refine (makes_note H _ _ _).bind_quiet fun _ => makes_pure ⟨rfl, ?_⟩
      exact .of_same (by simp) rfl rfl
    | some list => exact replied (draw_makes H c list .whole)
  | destroy full => exact replied (destroy_makes H c full)
  | attachFunctor functor =>
    unfold execute
    simp only
    cases c.registry.attach? functor.id functor.callback with
    | none => exact quiet _ _ _
    | some registry => exact makes_pure ⟨rfl, .of_same (by simp) rfl rfl⟩
  | detachFunctor id =>
    unfold execute
    simp only
    cases c.registry.detach? id with
    | none => exact quiet _ _ _
    | some registry => exact makes_pure ⟨rfl, .of_same (by simp) rfl rfl⟩
  | createLayer size => exact replied (createLayer_makes H c fresh size)
  | pushLayerUpdate layer list =>
    unfold execute
    simp only
    cases c.registry.queueUpdate? layer list with
    | none => exact quiet _ _ _
    | some registry => exact makes_pure ⟨rfl, .of_same (by simp) rfl rfl⟩
  | flushLayerUpdates =>
    refine (applyLayerUpdates_makes H c).bind ?_
    rintro _ calls ⟨⟨layers, rfl⟩, -, made⟩
    refine makes_pure ?_
    rw [List.append_nil]
    exact ⟨made, .of_same made.canvas? rfl rfl⟩
  | copyLayer layer =>
    refine (applyLayerUpdates_makes H c).bind ?_
    rintro _ updates ⟨⟨layers, rfl⟩, same, made⟩
    -- the layer is found under the same number as before its update
    have found : (layers.get? layer).map (fun entry => (entry.layer.number, entry.size)) =
        c.registry.directory.layer layer := congrArg (·.layer layer) same
    simp only
    cases there : layers.get? layer with
    | none =>
      refine makes_pure ⟨⟨updates, made, ?_⟩, ?_⟩
      · simp [← found, there]
      · rw [List.append_nil]
        exact .of_same made.canvas? rfl rfl
    | some entry =>
      refine (makes_calling (P := fun _ calls => calls = [.copyLayer entry.layer.number])
        fun _ => rfl).bind ?_
      rintro pixels _ rfl
      refine makes_pure ⟨⟨updates, made, ?_⟩, .of_same ?_ rfl rfl⟩
      · simp [← found, there]
      · simp only [List.append_nil, List.mem_append, List.mem_singleton]
        rintro call (mem | rfl)
        · exact made.canvas? call mem
        · rfl
  | destroyLayer layer =>
    unfold execute Carries
    simp only [Registry.directory]
    cases c.registry.layers.get? layer with
    | none => exact quiet _ _ _
    | some entry =>
      refine (makes_calling (P := fun _ calls => calls = [.destroyLayer entry.layer.number])
        fun _ => rfl).bind ?_
      rintro _ _ rfl
      exact makes_pure ⟨rfl, .of_same (by simp [BackendCall.canvas?]) rfl rfl⟩
  | flushCaches =>
    unfold execute Carries
    simp only
    split
    case h_1 gone => exact makes_pure ⟨by simp [gone], .of_same (by simp) rfl rfl⟩
    case h_2 canvas there =>
      refine (makes_calling (P := fun canvas' calls => canvas'.number = canvas.number ∧
        calls = [.trimCaches canvas.number]) fun _ => ⟨rfl, rfl⟩).bind ?_
      rintro canvas' _ ⟨same, rfl⟩
      exact makes_pure ⟨by simp [there], .of_call there rfl rfl same rfl⟩
  | setName name =>
    exact (makes_note H _ _ _).bind_quiet fun _ => makes_pure ⟨rfl, .of_same (by simp) rfl rfl⟩
  | dumpInfo => exact makes_get.bind_quiet fun _ => makes_pure ⟨rfl, .refl c⟩
  | fence => exact makes_pure ⟨rfl, .refl c⟩

theorem dispatch_makes (c : Context (B.recorded φ) φ) (fresh : LayerHandle)
    (command : Command σ φ) :
    Makes n (c.dispatch H.recorded fresh command) fun r calls =>
      c.Carries n command calls ∧ c.Follows calls r.2 :=
  (makes_note H _ _ _).bind_quiet fun _ => execute_makes H c fresh command

end Context

end RenderRelay

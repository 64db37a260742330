import RenderRelay.Proofs.Layers.Deferral
import RenderRelay.Proofs.Repaint.Frames

/-!
Layers as their owner knows them. What a proxy sends and what it is replied tell which layers it
has, of which sizes, and which list it pushed to each last: its `Shelf`. While lists only clear and
fill, carrying out updates is a function of registries (`flushed`), and a context between two
commands has just the layers on the shelf: one that does not wait shows its list on a transparent
bitmap (`execute_shelved`).
-/

namespace RenderRelay

/-! ### Shelves -/

def DrawOp.paints : DrawOp → Bool
  | clear _ => true
  | fill _ _ => true
  | functor _ => false
  | layer _ _ => false

/-- There is nothing in the list but what clears or fills. -/
def DisplayList.paints (list : DisplayList) : Bool := list.items.all (·.op.paints)

/-- A layer as its owner knows it. -/
structure Sheet where
  size : Viewport
  list : Option DisplayList

def Sheet.items (sheet : Sheet) : List DrawItem := sheet.list.elim [] DisplayList.items

/-- The layers of a proxy as its owner knows them. -/
abbrev Shelf := LayerHandle → Option Sheet

abbrev Dealing (σ φ : Type) := Message σ φ × Option Reply

namespace Shelf

variable {σ φ : Type}

def empty : Shelf := fun _ => none

def after (shelf : Shelf) : Dealing σ φ → Shelf
  | (.create _, some (.created (.ok ()))) => empty
  | (.run (.createLayer size), some (.layer (.ok handle))) =>
    Function.update shelf handle (some ⟨size, none⟩)
  | (.run (.pushLayerUpdate handle list), _) =>
    Function.update shelf handle ((shelf handle).map fun sheet => { sheet with list := some list })
  | (.run (.destroyLayer handle), _) => Function.update shelf handle none
  | (.run (.destroy true), _) => empty
  | (.dispose, _) => empty
  | _ => shelf

def of (dealings : List (Dealing σ φ)) : Shelf := dealings.foldl after empty

@[simp] theorem of_concat (dealings : List (Dealing σ φ)) (dealing : Dealing σ φ) :
    of (dealings ++ [dealing]) = (of dealings).after dealing := by
  simp [of]

theorem after_empty (message : Message σ φ) : empty.after (message, none) = empty := by
  have absent (handle : LayerHandle) : Function.update empty handle none = empty :=
    Function.update_eq_self handle empty
  cases message with
  | create translucent => rfl
  | run command =>
    cases command with
    | pushLayerUpdate handle list => exact absent handle
    | destroyLayer handle => exact absent handle
    | destroy full => cases full <;> rfl
    | _ => rfl
  | dispose => rfl

end Shelf

namespace Headless

variable {ω φ τ : Type} {report : LogRecord → ω → ω}
  {invoke : φ → Frame → FunctorInfo → StateM ω (Frame × Completion)}
  {perform : τ → StateM ω Completion}

/-! ### Pixels -/

/-- The bitmap shows what a sheet's list makes of a transparent bitmap of the sheet's size. -/
structure Depicts (sheet : Sheet) (m : Bitmap) : Prop where
  fits : HasSize m sheet.size
  pixel : ∀ x y, x < sheet.size.width → y < sheet.size.height →
    m.pixel? x y = some (sheet.items.foldl (shade sheet.size (fun _ => none) x y) .transparent)

/-- An operation that clears or fills changes the pixels of the damage as `shade` says. -/
theorem drawOp_shades (f : Frame) {item : DrawItem} (paints : item.op.paints = true) :
    f.Changed (f.drawOp item) fun x y p => shade f.size (fun _ => none) x y p item := by
  obtain ⟨op, clip⟩ := item
  cases op with
  | clear color => exact f.drawOp_clear color clip
  | fill rect color =>
    refine (f.drawOp_fill rect color clip).congr fun x y p => ?_
    by_cases clipped : clipCovers f.size clip x y <;> simp [shade, clipped]
  | functor id => simp [DrawOp.paints] at paints
  | layer handle dst => simp [DrawOp.paints] at paints

theorem drawOps_shade (f : Frame) {items : List DrawItem}
    (paints : ∀ item ∈ items, item.op.paints = true) :
    f.Changed (items.foldl Frame.drawOp f) fun x y p =>
      items.foldl (shade f.size (fun _ => none) x y) p := by
  induction items generalizing f with
  | nil => exact .refl f
  | cons item rest ih =>
    have first := drawOp_shades f (paints item (.head _))
    have second := ih (f.drawOp item) fun item drawn => paints item (.tail _ drawn)
    rw [first.size] at second
    exact first.trans second

/-- What a list that only clears and fills makes of a layer. -/
def repainted (list : DisplayList) (m : Bitmap) : Bitmap :=
  (list.items.foldl Frame.drawOp (beginLayerFrame ⟨m⟩).1).target

theorem depicts_blank (size : Viewport) :
    Depicts ⟨size, none⟩ (.ofSize size.width size.height) where
  fits := ⟨rfl, rfl⟩
  pixel x y hx hy := by
    rw [Bitmap.pixel?_ofSize, if_pos ⟨hx, hy⟩]
    rfl

/-- **What was on a layer does not matter for what its list makes of it.** -/
theorem depicts_repainted {list : DisplayList} (paints : list.paints = true) {m : Bitmap}
    {size : Viewport} (fits : HasSize m size) : Depicts ⟨size, some list⟩ (repainted list m) := by
  obtain ⟨width, height⟩ := size
  obtain ⟨rfl, rfl⟩ := fits
  have changed := drawOps_shade (beginLayerFrame ⟨m⟩).1 (List.all_eq_true.1 paints)
  have size : (beginLayerFrame ⟨m⟩).1.size = ⟨m.width, m.height⟩ := by
    simp [Frame.size, beginLayerFrame, Bitmap.fill]
  rw [size] at changed
  refine ⟨?_, fun x y hx hy => ?_⟩
  · have kept : (repainted list m).extent = m.extent := changed.size.trans size
    simpa [Bitmap.extent, HasSize] using kept
  · have inside : m.bounds.contains x y = true := Bitmap.bounds_contains.2 ⟨hx, hy⟩
    obtain ⟨p, there⟩ := HasSize.pixel? (m := m) ⟨rfl, rfl⟩ hx hy
    have cleared : (beginLayerFrame ⟨m⟩).1.target.pixel? x y = some .transparent := by
      simp only [beginLayerFrame, Bitmap.pixel?_fill, there, inside, if_true, Option.map_some]
      rfl
    change (List.foldl Frame.drawOp _ _).target.pixel? x y = _
    rw [changed.pixel, cleared]
    simp [beginLayerFrame, inside, Sheet.items]

/-! ### Updates -/

section Updates

variable {c : Context (backend report) φ}

theorem drawItems_paints (name : String) (registry : Registry Layer φ) (id : ListId)
    (target : Target) {items : List DrawItem} (paints : ∀ item ∈ items, item.op.paints = true)
    (f : Frame) :
    Context.drawItems (host report invoke perform) name registry id target items f =
      pure (items.foldl Frame.drawOp f) := by
  induction items generalizing f with
  | nil => rfl
  | cons item rest ih =>
    have first : Context.drawItem (host report invoke perform) name registry id target f item =
        pure (f.drawOp item) := by
      have paint := paints item (.head _)
      obtain ⟨op, clip⟩ := item
      cases op with
      | functor id => simp [DrawOp.paints] at paint
      | layer handle dst => simp [DrawOp.paints] at paint
      | _ => rfl
    rw [Context.drawItems, first, pure_bind]
    exact ih (fun item drawn => paints item (.tail _ drawn)) _

def withUpdate (r : Registry Layer φ) (update : LayerUpdate) : Registry Layer φ :=
  match r.layers.get? update.1 with
  | none => r
  | some entry => (r.takeLayer update.1).insertLayer update.1
      { entry with layer := ⟨repainted update.2 entry.layer.pixels⟩ }

def flushed (r : Registry Layer φ) : Registry Layer φ :=
  r.pending.foldl withUpdate { r with pending := [] }

theorem redrawLayer_paints {update : LayerUpdate} (paints : update.2.paints = true) :
    c.redrawLayer (host report invoke perform) update.1 update.2 =
      pure { c with registry := withUpdate c.registry update } := by
  unfold Context.redrawLayer withUpdate
  cases c.registry.layers.get? update.1 with
  | none => rfl
  | some entry =>
    simp only [pure_bind, drawItems_paints _ _ _ _ (List.all_eq_true.1 paints)]
    rfl

theorem redrawLayers_paints {updates : List LayerUpdate}
    (paints : ∀ update ∈ updates, update.2.paints = true) :
    Context.redrawLayers (host report invoke perform) updates c =
      pure { c with registry := updates.foldl withUpdate c.registry } := by
  induction updates generalizing c with
  | nil => rfl
  | cons update rest ih =>
    rw [Context.redrawLayers, redrawLayer_paints (paints update (.head _)), pure_bind]
    exact ih fun update waits => paints update (.tail _ waits)

/-- **Updates that only clear and fill** do nothing but change the registry. -/
theorem applyLayerUpdates_paints (paints : ∀ update ∈ c.registry.pending, update.2.paints = true) :
    c.applyLayerUpdates (host report invoke perform) =
      pure { c with registry := flushed c.registry } :=
  redrawLayers_paints paints

end Updates

section Registries

variable {r : Registry Layer φ}

theorem layerPixels_withUpdate (r : Registry Layer φ) (update : LayerUpdate)
    (handle : LayerHandle) :
    layerPixels (withUpdate r update) handle =
      if handle = update.1 then (layerPixels r handle).map (repainted update.2)
      else layerPixels r handle := by
  unfold withUpdate
  cases there : r.layers.get? update.1 with
  | none =>
    simp only
    split
    case isTrue same => simp [same, layerPixels, there]
    case isFalse => rfl
  | some entry =>
    simp only [layerPixels_insertLayer, layerPixels_takeLayer, Function.update_idem]
    split
    case isTrue same => simp [same, layerPixels, there]
    case isFalse other => rw [Function.update_of_ne other]

theorem layerPixels_withUpdates_other {updates : List LayerUpdate} {handle : LayerHandle}
    (other : handle ∉ updated updates) :
    layerPixels (updates.foldl withUpdate r) handle = layerPixels r handle := by
  induction updates generalizing r with
  | nil => rfl
  | cons update rest ih =>
    obtain ⟨different, later⟩ : handle ≠ update.1 ∧ handle ∉ updated rest := by simpa using other
    rw [List.foldl_cons, ih later, layerPixels_withUpdate, if_neg different]

theorem layerPixels_withUpdates {updates : List LayerUpdate} (nodup : (updated updates).Nodup)
    {update : LayerUpdate} (waits : update ∈ updates) :
    layerPixels (updates.foldl withUpdate r) update.1 =
      (layerPixels r update.1).map (repainted update.2) := by
  induction updates generalizing r with
  | nil => simp at waits
  | cons first rest ih =>
    obtain ⟨new, nodup⟩ : first.1 ∉ updated rest ∧ (updated rest).Nodup := List.nodup_cons.1 nodup
    rw [List.foldl_cons]
    obtain rfl | waits := List.mem_cons.1 waits
    · rw [layerPixels_withUpdates_other new, layerPixels_withUpdate, if_pos rfl]
    · have different : update.1 ≠ first.1 := fun same => new (same ▸ List.mem_map_of_mem waits)
      rw [ih nodup waits, layerPixels_withUpdate, if_neg different]

theorem pending_flushed (r : Registry Layer φ) : (flushed r).pending = [] := by
  have kept (updates : List LayerUpdate) (r : Registry Layer φ) :
      (updates.foldl withUpdate r).pending = r.pending := by
    induction updates generalizing r with
    | nil => rfl
    | cons update rest ih =>
      rw [List.foldl_cons, ih]
      unfold withUpdate
      split <;> rfl
  exact kept _ _

/-! ### Registries and shelves -/

/-- The layers of a registry are those on the shelf. One that does not wait shows its list; for one
that does, that list waits. -/
structure Shelved (shelf : Shelf) (r : Registry Layer φ) : Prop where
  layer : ∀ handle, Option.Rel (fun sheet m => HasSize m sheet.size ∧
    (handle ∉ updated r.pending → Depicts sheet m)) (shelf handle) (layerPixels r handle)
  waits : ∀ update ∈ r.pending, update.2.paints = true ∧
    ∃ size, shelf update.1 = some ⟨size, some update.2⟩
  single : (updated r.pending).Nodup

namespace Shelved

variable {shelf : Shelf}

theorem empty : Shelved .empty (.empty : Registry Layer φ) where
  layer _ := .none
  waits := by simp [Registry.empty]
  single := .nil

theorem congr (shelved : Shelved shelf r) {r' : Registry Layer φ} (layers : r'.layers = r.layers)
    (pending : r'.pending = r.pending) : Shelved shelf r' := by
  have pixels : layerPixels r' = layerPixels r := by
    funext handle
    rw [layerPixels, layers]
    rfl
  exact ⟨by simpa only [pixels, pending] using shelved.layer,
    by simpa only [pending] using shelved.waits, by simpa only [pending] using shelved.single⟩

theorem contains_iff (shelved : Shelved shelf r) (handle : LayerHandle) :
    r.layers.contains handle = true ↔ (shelf handle).isSome = true := by
  have layer := shelved.layer handle
  have pixels : r.layers.contains handle = (layerPixels r handle).isSome := by
    simp [Table.contains, layerPixels]
  rw [pixels]
  generalize layerPixels r handle = m, shelf handle = sheet at layer
  cases layer <;> simp

theorem absent (shelved : Shelved shelf r) {handle : LayerHandle}
    (unknown : r.layers.get? handle = none) : shelf handle = none := by
  have layer := shelved.layer handle
  simp only [layerPixels, unknown, Option.map_none] at layer
  generalize shelf handle = sheet at layer
  cases layer
  rfl

/-- **Carrying out what waits** shows every layer's list. -/
theorem flushed (shelved : Shelved shelf r) : Shelved shelf (flushed r) where
  layer handle := by
    have layer := shelved.layer handle
    rw [pending_flushed]
    by_cases waits : handle ∈ updated r.pending
    · obtain ⟨update, mem, rfl⟩ := List.mem_map.1 waits
      obtain ⟨paints, size, there⟩ := shelved.waits update mem
      rw [Headless.flushed, layerPixels_withUpdates shelved.single mem]
      change Option.Rel _ _ ((layerPixels r update.1).map _)
      rw [there] at layer ⊢
      generalize layerPixels r update.1 = m at layer
      cases layer with
      | some here =>
        have depicts := depicts_repainted paints here.1
        exact .some ⟨depicts.fits, fun _ => depicts⟩
    · rw [Headless.flushed, layerPixels_withUpdates_other waits]
      change Option.Rel _ _ (layerPixels r handle)
      generalize layerPixels r handle = m, shelf handle = sheet at layer
      cases layer with
      | none => exact .none
      | some here => exact .some ⟨here.1, fun _ => here.2 waits⟩
  waits := by simp [pending_flushed]
  single := by simp [pending_flushed]

theorem make (shelved : Shelved shelf r) {fresh : LayerHandle} (unused : shelf fresh = none)
    (size : Viewport) :
    Shelved (Function.update shelf fresh (some ⟨size, none⟩))
      (r.insertLayer fresh ⟨⟨.ofSize size.width size.height⟩, size⟩) where
  layer handle := by
    rw [layerPixels_insertLayer]
    by_cases new : handle = fresh
    · subst new
      rw [Function.update_self, Function.update_self]
      exact .some ⟨⟨rfl, rfl⟩, fun _ => depicts_blank size⟩
    · rw [Function.update_of_ne new, Function.update_of_ne new]
      exact shelved.layer handle
  waits update waits := by
    obtain ⟨paints, size', there⟩ := shelved.waits update waits
    have other : update.1 ≠ fresh := by
      rintro rfl
      simp [unused] at there
    exact ⟨paints, size', by rwa [Function.update_of_ne other]⟩
  single := shelved.single

theorem push (shelved : Shelved shelf r) {handle : LayerHandle} {list : DisplayList} {sheet : Sheet}
    (there : shelf handle = some sheet) (paints : list.paints = true) :
    Shelved (Function.update shelf handle (some { sheet with list := some list }))
      { r with pending := Registry.enqueue handle list r.pending } where
  layer other := by
    have layer := shelved.layer other
    by_cases same : other = handle
    · subst same
      rw [there] at layer
      rw [Function.update_self]
      change Option.Rel _ _ (layerPixels r other)
      generalize layerPixels r other = m at layer
      cases layer with
      | some here =>
        refine .some ⟨here.1, fun ended => absurd ?_ ended⟩
        rw [updated_enqueue]
        split
        · assumption
        · simp
    · rw [Function.update_of_ne same]
      change Option.Rel _ _ (layerPixels r other)
      generalize layerPixels r other = m, shelf other = sheet at layer
      cases layer with
      | none => exact .none
      | some here =>
        refine .some ⟨here.1, fun ended => here.2 fun waits => ended ?_⟩
        rw [updated_enqueue]
        split
        · exact waits
        · exact List.mem_append_left _ waits
  waits update waits := by
    by_cases same : update.1 = handle
    · obtain rfl := enqueue_replaces shelved.single waits same
      exact ⟨paints, sheet.size, Function.update_self _ _ _⟩
    · have waited := (mem_enqueue waits).resolve_left fun equal => same (equal ▸ rfl)
      rw [Function.update_of_ne same]
      exact shelved.waits update waited
  single := nodup_enqueue shelved.single

theorem remove (shelved : Shelved shelf r) (handle : LayerHandle) :
    Shelved (Function.update shelf handle none) (r.removeLayer handle) where
  layer other := by
    have layer := shelved.layer other
    change Option.Rel _ _ (layerPixels (r.takeLayer handle) other)
    rw [layerPixels_takeLayer]
    by_cases same : other = handle
    · subst same
      rw [Function.update_self, Function.update_self]
      exact .none
    · rw [Function.update_of_ne same, Function.update_of_ne same]
      generalize layerPixels r other = m, shelf other = sheet at layer
      cases layer with
      | none => exact .none
      | some here =>
        refine .some ⟨here.1, fun ended => here.2 fun waits => ended ?_⟩
        obtain ⟨update, mem, rfl⟩ := List.mem_map.1 waits
        exact List.mem_map_of_mem (List.mem_filter.2 ⟨mem, by simpa using same⟩)
  waits update waits := by
    obtain ⟨mem, other⟩ := List.mem_filter.1 waits
    rw [Function.update_of_ne (by simpa using other)]
    exact shelved.waits update mem
  single := shelved.single.sublist (List.filter_sublist.map _)

end Shelved

end Registries

/-! ### Commands -/

section Commands

open DeviceOp

variable {c : Context (backend report) φ} {d : Device ω} {shelf : Shelf}

theorem ensures_newLayer {size : Viewport} {Q : Except RenderError Layer → Device ω → Prop}
    (refused : ∀ e, Q (.error e) d) (made : Q (.ok ⟨.ofSize size.width size.height⟩) d) :
    (createLayer size).Ensures d Q := by
  unfold createLayer
  split
  · exact ensures_pure.2 (refused _)
  · refine ensures_bind.2 (ensures_checkBudget fun checked => ?_)
    rcases checked with e | ⟨⟩
    · exact ensures_pure.2 (refused e)
    · refine ensures_bind.2 ?_
      unfold newBuffer
      split
      · exact ensures_throw.2 trivial
      · exact ensures_pure.2 (ensures_pure.2 made)

theorem createLayer_shelved (shelved : Shelved shelf c.registry) {fresh : LayerHandle}
    (unused : shelf fresh = none) (size : Viewport) :
    (c.createLayer (host report invoke perform) fresh size).Ensures d fun r _ =>
      Shelved (shelf.after ((.run (.createLayer size), some (.layer r.1)) : Dealing Surface φ))
        r.2.registry := by
  unfold Context.createLayer
  split
  · exact ensures_pure.2 shelved
  · refine ensures_bind.2 (ensures_newLayer (fun e => ensures_pure.2 shelved) ?_)
    exact ensures_note_bind fun world => ensures_pure.2 (shelved.make unused size)

theorem applyLayerUpdates_shelved (shelved : Shelved shelf c.registry) :
    (c.applyLayerUpdates (host report invoke perform)).Ensures d fun c' _ =>
      Shelved shelf c'.registry := by
  rw [applyLayerUpdates_paints fun update waits => (shelved.waits update waits).1]
  exact ensures_pure.2 shelved.flushed

theorem draw_shelved (shelved : Shelved shelf c.registry) (list : DisplayList) (damage : Damage) :
    (c.draw (host report invoke perform) list damage).Ensures d fun r _ =>
      Shelved shelf r.2.registry := by
  have remembered : Shelved shelf { c.registry with lastDrawn := some list } :=
    shelved.congr rfl rfl
  unfold Context.draw
  refine ensures_bind.2 ((applyLayerUpdates_shelved remembered).mono fun c₁ d₁ kept => ?_)
  refine ensures_bind.2 ((Context.drawFrame_registry _ c₁ list damage d₁).mono fun r d₂ same => ?_)
  refine ensures_pure.2 ?_
  change Shelved shelf r.2.registry
  rwa [same]

theorem destroy_shelved (shelved : Shelved shelf c.registry) (full : Bool) :
    (c.destroy (host report invoke perform) full).Ensures d fun c' _ =>
      Shelved (shelf.after ((.run (.destroy full), some .done) : Dealing Surface φ))
        c'.registry := by
  cases full with
  | true =>
    refine (Context.destroy_registry _ c d).mono fun c₁ d₁ emptied => ?_
    change Shelved .empty c₁.registry
    rw [emptied]
    exact .empty
  | false =>
    have released (canvas : Option Canvas) (d₁ : Device ω) :
        (Context.release (host report invoke perform)
          { c with canvas, surfaceBound := false } false).Ensures d₁ fun c' _ =>
            Shelved shelf c'.registry :=
      ensures_note_bind fun world => ensures_pure.2 shelved
    rw [Context.destroy_eq]
    split
    · exact released _ d
    · exact ensures_bind.2 (.of_forall fun canvas d₁ => released _ d₁)

/-- **Every command leaves in the registry just the layers that its sender knows of.** -/
theorem execute_shelved (shelved : Shelved shelf c.registry) {fresh : LayerHandle}
    (unused : shelf fresh = none) (command : Command Surface φ)
    (paints : ∀ handle list, command = .pushLayerUpdate handle list → list.paints = true) :
    (c.execute (host report invoke perform) fresh command).Ensures d fun r _ =>
      Shelved (shelf.after ((.run command, r.1) : Dealing Surface φ)) r.2.registry := by
  -- what is about something else
  have quiet {α : Type} {op : DeviceOp (Device ω) α} {context : α → Context (backend report) φ}
      (same : op.Ensures d fun a _ => (context a).registry = c.registry) :
      op.Ensures d fun a _ => Shelved shelf (context a).registry :=
    same.mono fun a d₁ same => same ▸ shelved
  cases command with
  | bindSurface surface =>
    refine ensures_bind.2 ((quiet (Context.bind_registry _ c _ d)).mono fun r d₁ kept => ?_)
    exact ensures_pure.2 kept
  | updateSurface surface =>
    refine ensures_bind.2 ((quiet (Context.bind_registry _ c _ d)).mono fun r d₁ kept => ?_)
    exact ensures_pure.2 kept
  | setup viewport =>
    refine ensures_bind.2 ((quiet (Context.resize_registry _ c _ d)).mono fun r d₁ kept => ?_)
    exact ensures_pure.2 kept
  | draw list record =>
    refine ensures_bind.2 ((draw_shelved shelved list _).mono fun r d₁ kept => ?_)
    exact ensures_pure.2 kept
  | repeatLastDraw =>
    simp only [Context.execute]
    split
    · refine ensures_bind.2 ((draw_shelved shelved _ .whole).mono fun r d₁ kept => ?_)
      exact ensures_pure.2 kept
    · exact ensures_note_bind fun world => ensures_pure.2 shelved
  | destroy full =>
    refine ensures_bind.2 ((destroy_shelved shelved full).mono fun c₁ d₁ kept => ?_)
    exact ensures_pure.2 kept
  | attachFunctor functor =>
    simp only [Context.execute]
    split
    case h_1 registry attached =>
      obtain rfl := Registry.eq_of_attach? attached
      exact ensures_pure.2 (shelved.congr rfl rfl)
    case h_2 => exact ensures_note_bind fun world => ensures_pure.2 shelved
  | detachFunctor id =>
    simp only [Context.execute]
    split
    case h_1 registry found =>
      obtain rfl := Registry.eq_of_detach? found
      exact ensures_pure.2 (shelved.congr rfl rfl)
    case h_2 => exact ensures_note_bind fun world => ensures_pure.2 shelved
  | createLayer size =>
    refine ensures_bind.2 ((createLayer_shelved shelved unused size).mono fun r d₁ kept => ?_)
    exact ensures_pure.2 kept
  | pushLayerUpdate handle list =>
    simp only [Context.execute]
    split
    case h_1 registry queued =>
      have known := Registry.contains_of_queueUpdate? queued
      obtain rfl := Registry.eq_of_queueUpdate? queued
      obtain ⟨sheet, there⟩ := Option.isSome_iff_exists.1 ((shelved.contains_iff handle).1 known)
      refine ensures_pure.2 ?_
      have pushed := shelved.push there (paints handle list rfl)
      simp only [Shelf.after, there, Option.map_some]
      exact pushed
    case h_2 unknown =>
      have absent : shelf handle = none := by
        refine shelved.absent (Option.not_isSome_iff_eq_none.1 fun known => ?_)
        simp [Registry.queueUpdate?, Table.contains, known] at unknown
      refine ensures_note_bind fun world => ensures_pure.2 ?_
      have same : shelf.after ((.run (.pushLayerUpdate handle list), none) : Dealing Surface φ) =
          shelf := by
        simp only [Shelf.after, absent, Option.map_none]
        rw [← absent, Function.update_eq_self]
      rwa [same]
  | flushLayerUpdates =>
    refine ensures_bind.2 ((applyLayerUpdates_shelved shelved).mono fun c₁ d₁ kept => ?_)
    exact ensures_pure.2 kept
  | copyLayer handle =>
    refine ensures_bind.2 ((applyLayerUpdates_shelved shelved).mono fun c₁ d₁ kept => ?_)
    split
    · exact ensures_pure.2 kept
    · exact ensures_bind.2 (.of_forall fun pixels d₂ => ensures_pure.2 kept)
  | destroyLayer handle =>
    simp only [Context.execute]
    cases there : c.registry.layers.get? handle with
    | none =>
      have absent := shelved.absent there
      refine ensures_note_bind fun world => ensures_pure.2 ?_
      have same : shelf.after ((.run (.destroyLayer handle), none) : Dealing Surface φ) =
          shelf := by
        simp only [Shelf.after]
        rw [← absent, Function.update_eq_self]
      rwa [same]
    | some entry => exact ensures_bind.2 (ensures_pure.2 (ensures_pure.2 (shelved.remove handle)))
  | flushCaches =>
    simp only [Context.execute]
    split
    · exact ensures_pure.2 (shelved.congr rfl rfl)
    · exact ensures_bind.2 (ensures_pure.2 (ensures_pure.2 (shelved.congr rfl rfl)))
  | setName name => exact ensures_note_bind fun world => ensures_pure.2 shelved
  | dumpInfo => exact ensures_bind.2 (ensures_get.2 (ensures_pure.2 shelved))
  | fence => exact ensures_pure.2 shelved

theorem dispatch_shelved (shelved : Shelved shelf c.registry) {fresh : LayerHandle}
    (unused : shelf fresh = none) (command : Command Surface φ)
    (paints : ∀ handle list, command = .pushLayerUpdate handle list → list.paints = true) :
    (c.dispatch (host report invoke perform) fresh command).Ensures d fun r _ =>
      Shelved (shelf.after ((.run command, r.1) : Dealing Surface φ)) r.2.registry :=
  ensures_note_bind fun _ => execute_shelved shelved unused command paints

/-- What is read back of a layer that is on the shelf, or is not. -/
def ReadsBack (sheet : Option Sheet) (result : Except RenderError Bitmap) : Prop :=
  match sheet with
  | none => result = .error .invalidHandle
  | some sheet => ∃ m, result = .ok m ∧ Depicts sheet m

variable (invoke perform) in
/-- **A layer is read back as it is on the shelf**, whatever waits. -/
theorem dispatch_copyLayer (shelved : Shelved shelf c.registry)
    (able : d.config.capabilities.layerReadback = true) (fresh handle : LayerHandle) :
    ∃ result,
      (c.dispatch (host report invoke perform) fresh (.copyLayer handle)).Ends d Prod.fst
        (.ok (some (.pixels result))) ∧ ReadsBack (shelf handle) result := by
  have layer := shelved.flushed.layer handle
  have applied : c.applyLayerUpdates (host report invoke perform) =
      pure { c with registry := flushed c.registry } :=
    applyLayerUpdates_paints fun update waits => (shelved.waits update waits).1
  have waitless : handle ∉ updated (flushed c.registry).pending := by simp [pending_flushed]
  simp only [Context.dispatch, Context.execute, applied, pure_bind]
  generalize shelf handle = sheet at layer ⊢
  unfold layerPixels at layer
  cases there : (flushed c.registry).layers.get? handle with
  | none =>
    rw [there] at layer
    cases layer
    exact ⟨_, ends_note_bind fun world => ends_pure _, rfl⟩
  | some entry =>
    rw [there] at layer
    cases layer with
    | some here =>
      refine ⟨.ok entry.layer.pixels, ends_note_bind fun world => ?_, _, rfl, here.2 waitless⟩
      simp [Ends, copyLayer, runOn_bind, able, Except.map]

end Commands

end Headless

end RenderRelay

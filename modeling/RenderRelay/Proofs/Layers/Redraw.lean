import Mathlib.Logic.Function.Basic
import RenderRelay.Proofs.Evolution
import RenderRelay.Proofs.Repaint.Shade

/-!
Layer updates as a function of pixels. `redrawn` is what an update whose list names no attached
callback makes of the layers of a context, seen by their pixels alone, or the fault it ends in; the
engine's `redrawLayers` ends so on every device. What a layer becomes depends on its own size and on
the layers that its list names, and on nothing else (`redrawn_congr`).
-/

namespace RenderRelay

def DisplayList.layers (list : DisplayList) : List LayerHandle :=
  list.items.filterMap fun item =>
    match item.op with
    | .layer handle _ => some handle
    | _ => none

theorem DisplayList.mem_layers {list : DisplayList} {item : DrawItem} {handle : LayerHandle}
    {dst : Rect} (drawn : item ∈ list.items) (op : item.op = .layer handle dst) :
    handle ∈ list.layers :=
  List.mem_filterMap.2 ⟨item, drawn, by simp only [op]⟩

theorem DisplayList.mem_functors {list : DisplayList} {item : DrawItem} {id : FunctorId}
    (drawn : item ∈ list.items) (op : item.op = .functor id) : id ∈ list.functors :=
  List.mem_filterMap.2 ⟨item, drawn, by simp only [op]⟩

/-! ### Buffers -/

namespace Bitmap

def extent (m : Bitmap) : Viewport := ⟨m.width, m.height⟩

theorem extent_paint (m : Bitmap) (area : PixelBox) (f : Nat → Nat → Pixel → Pixel) :
    (m.paint area f).extent = m.extent := by
  simp only [extent, width_paint, height_paint]

theorem extent_fill (m : Bitmap) (area : PixelBox) (c : Color) :
    (m.fill area c).extent = m.extent :=
  extent_paint m area _

/-- Buffers of one size with the same pixel at each place are the same. -/
theorem ext_pixel {m m' : Bitmap} (size : m.extent = m'.extent)
    (same : ∀ x y, m.pixel? x y = m'.pixel? x y) : m = m' := by
  obtain ⟨width, height, pixels, size_eq⟩ := m
  obtain ⟨width', height', pixels', size_eq'⟩ := m'
  obtain ⟨rfl, rfl⟩ : width = width' ∧ height = height' := by simpa [extent] using size
  have equal : pixels = pixels' := by
    refine Array.ext (size_eq.trans size_eq'.symm) fun i inside inside' => ?_
    have wide : 0 < width := by
      rcases Nat.eq_zero_or_pos width with rfl | wide
      · simp [size_eq] at inside
      · exact wide
    have column : i % width < width := Nat.mod_lt i wide
    have row : i / width < height := by
      rw [size_eq, Nat.mul_comm] at inside
      exact Nat.div_lt_of_lt_mul (Nat.mul_comm height width ▸ inside)
    have place : i / width * width + i % width = i := by
      rw [Nat.mul_comm]
      exact Nat.div_add_mod i width
    have here := same (i % width) (i / width)
    rw [pixel?_eq_getElem? _ column row, pixel?_eq_getElem? _ column row] at here
    simp only [place, Array.getElem?_eq_getElem inside, Array.getElem?_eq_getElem inside'] at here
    exact Option.some.inj here
  subst equal
  rfl

/-- A buffer that is filled from end to end keeps nothing but its size. -/
theorem fill_bounds_congr {m m' : Bitmap} (size : m.extent = m'.extent) (c : Color) :
    m.fill m.bounds c = m'.fill m'.bounds c := by
  have size' : m.width = m'.width ∧ m.height = m'.height := by simpa [extent] using size
  refine ext_pixel (by rw [extent_fill, extent_fill, size]) fun x y => ?_
  rw [pixel?_fill, pixel?_fill]
  by_cases inside : x < m.width ∧ y < m.height
  · have inside' : x < m'.width ∧ y < m'.height := by rwa [← size'.1, ← size'.2]
    rw [bounds_contains.2 inside, bounds_contains.2 inside', pixel?, dif_pos inside, pixel?,
      dif_pos inside']
    simp
  · have outside : ¬(x < m'.width ∧ y < m'.height) := by rwa [← size'.1, ← size'.2]
    rw [pixel?_eq_none inside, pixel?_eq_none outside]
    rfl

end Bitmap

namespace Headless

/-! ### What a list makes of a layer -/

/-- An item drawn with these layers; callbacks are passed over. -/
def Frame.drawItem (layers : LayerHandle → Option Bitmap) (f : Frame) (item : DrawItem) :
    Except Fault Frame :=
  match item.op with
  | .layer handle dst =>
    match layers handle with
    | none => .ok f
    | some pixels => f.drawLayer ⟨pixels⟩ dst item.clip
  | _ => .ok (f.drawOp item)

/-- What a list makes of a layer with these pixels, drawn with these other layers. -/
def recorded (layers : LayerHandle → Option Bitmap) (pixels : Bitmap) (list : DisplayList) :
    Except Fault Bitmap := do
  let f ← list.items.foldlM (Frame.drawItem layers) (beginLayerFrame ⟨pixels⟩).1
  return f.target

/-- The layers after an update of one of them, which does not see itself meanwhile. -/
def redrawn (layers : LayerHandle → Option Bitmap) (update : LayerHandle × DisplayList) :
    Except Fault (LayerHandle → Option Bitmap) :=
  match layers update.1 with
  | none => .ok layers
  | some pixels => do
    let pixels ← recorded (Function.update layers update.1 none) pixels update.2
    return Function.update layers update.1 (some pixels)

def redrawnAll (layers : LayerHandle → Option Bitmap) (updates : List (LayerHandle × DisplayList)) :
    Except Fault (LayerHandle → Option Bitmap) :=
  updates.foldlM redrawn layers

theorem Frame.drawItem_size {layers : LayerHandle → Option Bitmap} {f f' : Frame} {item : DrawItem}
    (drawn : f.drawItem layers item = .ok f') : f'.size = f.size := by
  obtain ⟨op, clip⟩ := item
  cases op with
  | clear color =>
    obtain rfl := Except.ok.inj drawn
    exact (f.drawOp_clear color clip).size
  | fill rect color =>
    obtain rfl := Except.ok.inj drawn
    exact (f.drawOp_fill rect color clip).size
  | functor id =>
    obtain rfl := Except.ok.inj drawn
    rfl
  | layer handle dst =>
    simp only [Frame.drawItem] at drawn
    split at drawn
    · obtain rfl := Except.ok.inj drawn
      rfl
    · exact (drawLayer_changed drawn).size

theorem bind_eq_ok {α β : Type} {r : Except Fault α} {next : α → Except Fault β} {b : β} :
    (r >>= next) = .ok b ↔ ∃ a, r = .ok a ∧ next a = .ok b := by
  rcases r with fault | a
  · simp [bind, Except.bind]
  · simp [bind, Except.bind]

theorem drawItems_size {layers : LayerHandle → Option Bitmap} {items : List DrawItem} {f f' : Frame}
    (drawn : items.foldlM (Frame.drawItem layers) f = .ok f') : f'.size = f.size := by
  induction items generalizing f with
  | nil =>
    obtain rfl : f = f' := Except.ok.inj drawn
    rfl
  | cons item rest ih =>
    rw [List.foldlM_cons] at drawn
    obtain ⟨f₁, first, drawn⟩ := bind_eq_ok.1 drawn
    exact (ih drawn).trans (Frame.drawItem_size first)

/-- Drawing looks at the layers that the items name, and at no others. -/
theorem drawItems_congr {layers layers' : LayerHandle → Option Bitmap} {items : List DrawItem}
    (same : ∀ item ∈ items, ∀ handle dst, item.op = .layer handle dst →
      layers handle = layers' handle) (f : Frame) :
    items.foldlM (Frame.drawItem layers) f = items.foldlM (Frame.drawItem layers') f := by
  induction items generalizing f with
  | nil => rfl
  | cons item rest ih =>
    have first : f.drawItem layers item = f.drawItem layers' item := by
      obtain ⟨op, clip⟩ := item
      cases op with
      | layer handle dst => simp only [Frame.drawItem, same _ (.head _) handle dst rfl]
      | _ => rfl
    rw [List.foldlM_cons, List.foldlM_cons, first]
    congr 1
    funext f₁
    exact ih (fun item drawn => same item (.tail _ drawn)) f₁

theorem extent_recorded {layers : LayerHandle → Option Bitmap} {pixels pixels' : Bitmap}
    {list : DisplayList} (drawn : recorded layers pixels list = .ok pixels') :
    pixels'.extent = pixels.extent := by
  obtain ⟨f, all, ended⟩ := bind_eq_ok.1 drawn
  obtain rfl : f.target = pixels' := Except.ok.inj ended
  have size := drawItems_size all
  simpa [Frame.size, beginLayerFrame, Bitmap.extent, Bitmap.fill] using size

/-- **What a list makes of a layer depends on the layer's size and on the layers that it names.** -/
theorem recorded_congr {layers layers' : LayerHandle → Option Bitmap} {pixels pixels' : Bitmap}
    {list : DisplayList} (size : pixels.extent = pixels'.extent)
    (same : ∀ handle ∈ list.layers, layers handle = layers' handle) :
    recorded layers pixels list = recorded layers' pixels' list := by
  have start : (beginLayerFrame ⟨pixels⟩).1 = (beginLayerFrame ⟨pixels'⟩).1 := by
    have size' : pixels.width = pixels'.width ∧ pixels.height = pixels'.height := by
      simpa [Bitmap.extent] using size
    simp only [beginLayerFrame, Bitmap.fill_bounds_congr size]
    simp only [Bitmap.bounds, size']
  unfold recorded
  rw [start]
  congr 1
  refine drawItems_congr ?_ _
  intro item drawn handle dst op
  exact same handle (DisplayList.mem_layers drawn op)

/-! ### What updates leave alone -/

theorem redrawn_ok {layers layers' : LayerHandle → Option Bitmap} {handle : LayerHandle}
    {list : DisplayList} (drawn : redrawn layers (handle, list) = .ok layers') :
    (layers handle = none ∧ layers' = layers) ∨
      ∃ pixels pixels', layers handle = some pixels ∧
        recorded (Function.update layers handle none) pixels list = .ok pixels' ∧
        layers' = Function.update layers handle (some pixels') := by
  unfold redrawn at drawn
  split at drawn
  case h_1 missing => exact .inl ⟨missing, (Except.ok.inj drawn).symm⟩
  case h_2 pixels there =>
    obtain ⟨pixels', recorded, ended⟩ := bind_eq_ok.1 drawn
    exact .inr ⟨pixels, pixels', there, recorded, (Except.ok.inj ended).symm⟩

theorem redrawn_other {layers layers' : LayerHandle → Option Bitmap} {handle other : LayerHandle}
    {list : DisplayList} (drawn : redrawn layers (handle, list) = .ok layers')
    (different : other ≠ handle) : layers' other = layers other := by
  obtain ⟨-, rfl⟩ | ⟨pixels, pixels', -, -, rfl⟩ := redrawn_ok drawn
  · rfl
  · exact Function.update_of_ne different _ _

theorem extent_redrawn {layers layers' : LayerHandle → Option Bitmap} {handle : LayerHandle}
    {list : DisplayList} (drawn : redrawn layers (handle, list) = .ok layers')
    (other : LayerHandle) :
    (layers' other).map Bitmap.extent = (layers other).map Bitmap.extent := by
  by_cases same : other = handle
  · subst same
    obtain ⟨-, rfl⟩ | ⟨pixels, pixels', there, recorded, rfl⟩ := redrawn_ok drawn
    · rfl
    · simp [there, extent_recorded recorded]
  · rw [redrawn_other drawn same]

/-- **An update makes the same of a layer among layers that look the same to its list.** -/
theorem redrawn_congr {layers layers' others : LayerHandle → Option Bitmap} {handle : LayerHandle}
    {list : DisplayList} (drawn : redrawn layers (handle, list) = .ok layers')
    (size : (layers handle).map Bitmap.extent = (others handle).map Bitmap.extent)
    (same : ∀ other ∈ list.layers, other ≠ handle → layers other = others other) :
    ∃ others', redrawn others (handle, list) = .ok others' ∧ others' handle = layers' handle := by
  obtain ⟨missing, rfl⟩ | ⟨pixels, pixels', there, made, rfl⟩ := redrawn_ok drawn
  · have missing' : others handle = none := by simpa [missing] using size.symm
    exact ⟨others, by simp [redrawn, missing'], missing'.trans missing.symm⟩
  · obtain ⟨pixels₁, there', extent⟩ : ∃ m, others handle = some m ∧ m.extent = pixels.extent := by
      simpa [there] using size.symm
    have seen : ∀ other ∈ list.layers,
        Function.update others handle none other = Function.update layers handle none other := by
      intro other named
      by_cases self : other = handle
      · simp [self]
      · rw [Function.update_of_ne self, Function.update_of_ne self, same other named self]
    refine ⟨Function.update others handle (some pixels'), ?_, by simp⟩
    simp only [redrawn, there', recorded_congr extent seen, made]
    rfl

theorem redrawnAll_cons {layers layers' : LayerHandle → Option Bitmap}
    {update : LayerHandle × DisplayList} {rest : List (LayerHandle × DisplayList)} :
    redrawnAll layers (update :: rest) = .ok layers' ↔
      ∃ layers₁, redrawn layers update = .ok layers₁ ∧ redrawnAll layers₁ rest = .ok layers' := by
  rw [redrawnAll, List.foldlM_cons, bind_eq_ok]
  rfl

theorem redrawnAll_append {layers layers' : LayerHandle → Option Bitmap}
    {updates rest : List (LayerHandle × DisplayList)} :
    redrawnAll layers (updates ++ rest) = .ok layers' ↔
      ∃ layers₁, redrawnAll layers updates = .ok layers₁ ∧
        redrawnAll layers₁ rest = .ok layers' := by
  rw [redrawnAll, List.foldlM_append, bind_eq_ok]
  rfl

theorem extent_redrawnAll {layers layers' : LayerHandle → Option Bitmap}
    {updates : List (LayerHandle × DisplayList)} (drawn : redrawnAll layers updates = .ok layers')
    (handle : LayerHandle) :
    (layers' handle).map Bitmap.extent = (layers handle).map Bitmap.extent := by
  induction updates generalizing layers with
  | nil =>
    obtain rfl : layers = layers' := Except.ok.inj drawn
    rfl
  | cons update rest ih =>
    obtain ⟨layers₁, first, drawn⟩ := redrawnAll_cons.1 drawn
    exact (ih drawn).trans (extent_redrawn first handle)

theorem redrawnAll_other {layers layers' : LayerHandle → Option Bitmap}
    {updates : List (LayerHandle × DisplayList)} (drawn : redrawnAll layers updates = .ok layers')
    {handle : LayerHandle} (other : handle ∉ updates.map Prod.fst) :
    layers' handle = layers handle := by
  induction updates generalizing layers with
  | nil =>
    obtain rfl : layers = layers' := Except.ok.inj drawn
    rfl
  | cons update rest ih =>
    obtain ⟨layers₁, first, drawn⟩ := redrawnAll_cons.1 drawn
    rw [List.map_cons, List.mem_cons, not_or] at other
    exact (ih drawn other.2).trans (redrawn_other first other.1)

/-! ### The engine's updates -/

section Engine

open DeviceOp

variable {ω φ τ : Type} {report : LogRecord → ω → ω}
  {invoke : φ → Frame → FunctorInfo → StateM ω (Frame × Completion)}
  {perform : τ → StateM ω Completion}

def Plain (registry : Registry Layer φ) (list : DisplayList) : Prop :=
  ∀ id ∈ list.functors, registry.functors.get? id = none

theorem ends_note_bind {α γ : Type} {name : String} {level : Level} {text : String} {d : Device ω}
    {next : Unit → DeviceOp (Device ω) α} {view : α → γ} {r : Except Fault γ}
    (h : ∀ world, Ends (next ()) { d with outside := world } view r) :
    Ends (Context.note (host report invoke perform) name level text >>= next) d view r := by
  have noted :
      Ends (Context.note (host report invoke perform) name level text) d id (pure ()) := rfl
  change Ends _ d view (pure () >>= fun _ => r)
  exact noted.bind (ensures_modify.2 (h _))

theorem drawItem_ends {registry : Registry Layer φ} {item : DrawItem}
    (plain : ∀ id, item.op = .functor id → registry.functors.get? id = none) (name : String)
    (list : ListId) (target : Target) (f : Frame) (d : Device ω) :
    (Context.drawItem (host report invoke perform) name registry list target f item).Ends d id
      (f.drawItem (layerPixels registry) item) := by
  obtain ⟨op, clip⟩ := item
  cases op with
  | clear color => exact ends_pure _
  | fill rect color => exact ends_pure _
  | functor id =>
    have unseen := plain id rfl
    unfold Context.drawItem
    simp only [unseen]
    exact ends_note_bind fun world => ends_pure f
  | layer handle dst =>
    unfold Context.drawItem Frame.drawItem
    cases entry : registry.layers.get? handle with
    | none =>
      simp only [entry, layerPixels, Option.map_none]
      exact ends_note_bind fun world => ends_pure f
    | some layer =>
      simp only [entry, layerPixels, Option.map_some]
      cases f.drawLayer layer.layer dst clip <;> rfl

theorem drawItems_ends {registry : Registry Layer φ} {items : List DrawItem}
    (plain : ∀ item ∈ items, ∀ id, item.op = .functor id → registry.functors.get? id = none)
    (name : String) (list : ListId) (target : Target) (f : Frame) (d : Device ω) :
    (Context.drawItems (host report invoke perform) name registry list target items f).Ends d id
      (items.foldlM (Frame.drawItem (layerPixels registry)) f) := by
  induction items generalizing f d with
  | nil => exact ends_pure f
  | cons item rest ih =>
    rw [List.foldlM_cons]
    refine (drawItem_ends (plain item (.head _)) name list target f d).bind (.of_forall ?_)
    intro f₁ d₁
    exact ih (fun item drawn => plain item (.tail _ drawn)) f₁ d₁

theorem layerPixels_takeLayer (registry : Registry Layer φ) (handle : LayerHandle) :
    layerPixels (registry.takeLayer handle) =
      Function.update (layerPixels registry) handle none := by
  funext other
  by_cases same : other = handle
  · subst same
    simp [layerPixels, Registry.takeLayer, Table.get?_erase]
  · rw [Function.update_of_ne same]
    simp [layerPixels, Registry.takeLayer, Table.get?_erase, Ne.symm same]

theorem layerPixels_insertLayer (registry : Registry Layer φ) (handle : LayerHandle)
    (entry : LayerEntry Layer) :
    layerPixels (registry.insertLayer handle entry) =
      Function.update (layerPixels registry) handle (some entry.layer.pixels) := by
  funext other
  by_cases same : other = handle
  · subst same
    simp [layerPixels, Registry.insertLayer, Table.get?_insert]
  · rw [Function.update_of_ne same]
    simp [layerPixels, Registry.insertLayer, Table.get?_insert, Ne.symm same]

/-- **A layer update does to the pixels of the layers what `redrawn` says.** -/
theorem redrawLayer_ends {c : Context (backend report) φ} {list : DisplayList}
    (plain : Plain c.registry list) (handle : LayerHandle) (d : Device ω) :
    (c.redrawLayer (host report invoke perform) handle list).Ends d (layerPixels ·.registry)
      (redrawn (layerPixels c.registry) (handle, list)) := by
  unfold Context.redrawLayer redrawn
  cases there : c.registry.layers.get? handle with
  | none =>
    simp only [layerPixels, there, Option.map_none]
    exact ends_pure c
  | some entry =>
    have pixels : layerPixels c.registry handle = some entry.layer.pixels := by
      simp [layerPixels, there]
    have plain' : ∀ item ∈ list.items, ∀ id, item.op = .functor id →
        (c.registry.takeLayer handle).functors.get? id = none := by
      intro item drawn id op
      exact plain id (DisplayList.mem_functors drawn op)
    simp only [pixels, recorded, bind_assoc, pure_bind, ← layerPixels_takeLayer]
    refine (drawItems_ends plain' _ _ _ _ _).bind (.of_forall fun f d₁ => ?_)
    change Ends (pure _) d₁ _ (.ok _)
    convert ends_pure _ using 2
    funext other
    simp only [layerPixels_insertLayer, layerPixels_takeLayer, Function.update_idem, id]

theorem redrawLayers_ends {c : Context (backend report) φ}
    {updates : List (LayerHandle × DisplayList)}
    (plain : ∀ update ∈ updates, Plain c.registry update.2) (d : Device ω) :
    (Context.redrawLayers (host report invoke perform) updates c).Ends d (layerPixels ·.registry)
      (redrawnAll (layerPixels c.registry) updates) := by
  induction updates generalizing c d with
  | nil => exact ends_pure c
  | cons update rest ih =>
    rw [redrawnAll, List.foldlM_cons]
    refine (redrawLayer_ends (plain update (.head _)) update.1 d).bind ?_
    refine (Context.redrawLayer_layers _ c update.1 update.2 d).mono ?_
    rintro c₁ d₁ ⟨layers, rfl⟩
    refine @ih { c with registry := { c.registry with layers } } ?_ d₁
    exact fun update later => plain update (.tail _ later)

end Engine

end Headless

end RenderRelay

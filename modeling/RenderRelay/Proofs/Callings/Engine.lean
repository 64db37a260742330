import RenderRelay.Proofs.Callings.Buffers
import RenderRelay.Proofs.Evolution
import RenderRelay.Proofs.Layers.Deferral
import RenderRelay.Proofs.Regions

/-!
What the engine calls. A command goes through lists (`Context.traversed`): those of the updates that
wait, and then the one that is drawn. Under standards that its surroundings heed, it makes the calls
that these lists ask for, in order, and no others (`execute_tracks`); only a fault or a frame that
is skipped breaks off. What it leaves meets the standards again.
-/

namespace RenderRelay

open DeviceOp

variable {σ φ τ : Type} {B : Backend σ}

/-! ### Lists and their calls -/

/-- The call that an item of a list asks for. -/
def DrawItem.calling? (functors : Table FunctorId φ) (list : ListId) (frameIndex : Nat)
    (item : DrawItem) : Option (Calling φ) :=
  match item.op with
  | .functor id => (functors.get? id).map (⟨·, list, item.clip, frameIndex⟩)
  | _ => none

/-- The calls that a list asks for, with these callbacks attached and that many frames drawn. -/
def DisplayList.callings (functors : Table FunctorId φ) (frameIndex : Nat) (list : DisplayList) :
    List (Calling φ) :=
  list.items.filterMap (DrawItem.calling? functors list.id frameIndex)

namespace Context

/-- The lists of the updates that wait. An update of a layer that is gone draws nothing. -/
def waiting (c : Context B φ) : List DisplayList :=
  (c.registry.pending.filter fun update => c.registry.layers.contains update.1).map Prod.snd

def traversed (c : Context B φ) : Command σ φ → List DisplayList
  | .draw list _ => c.waiting ++ [list]
  | .repeatLastDraw => c.registry.lastDrawn.elim [] (c.waiting ++ [·])
  | .flushLayerUpdates => c.waiting
  | .copyLayer _ => c.waiting
  | _ => []

def callings (c : Context B φ) (lists : List DisplayList) : List (Calling φ) :=
  lists.flatMap (·.callings c.registry.functors c.stats.drawn)

theorem callings_append (c : Context B φ) (lists lists' : List DisplayList) :
    c.callings (lists ++ lists') = c.callings lists ++ c.callings lists' := List.flatMap_append

theorem callings_singleton (c : Context B φ) (list : DisplayList) :
    c.callings [list] = list.callings c.registry.functors c.stats.drawn := by
  simp [callings]

def updating (c : Context B φ) (update : LayerHandle × DisplayList) : List DisplayList :=
  if c.registry.layers.contains update.1 then [update.2] else []

theorem waiting_eq (c : Context B φ) : c.waiting = c.registry.pending.flatMap c.updating := by
  unfold waiting updating
  induction c.registry.pending with
  | nil => rfl
  | cons update rest ih =>
    rw [List.flatMap_cons, ← ih, List.filter_cons]
    split <;> simp [*]

/-- Layers were drawn anew; a list asks for the same calls as before. -/
structure Refreshed (c c' : Context B φ) : Prop where
  rest : ∃ layers, c' = { c with registry := { c.registry with layers } }
  layers : ∀ handle, c'.registry.layers.contains handle = c.registry.layers.contains handle

namespace Refreshed

variable {c c' c'' : Context B φ}

theorem refl (c : Context B φ) : c.Refreshed c := ⟨⟨_, rfl⟩, fun _ => rfl⟩

theorem trans (first : c.Refreshed c') (second : c'.Refreshed c'') : c.Refreshed c'' := by
  obtain ⟨⟨layers, rfl⟩, same⟩ := first
  obtain ⟨⟨layers', rfl⟩, same'⟩ := second
  exact ⟨⟨layers', rfl⟩, fun handle => (same' handle).trans (same handle)⟩

theorem callings (refreshed : c.Refreshed c') (lists : List DisplayList) :
    c'.callings lists = c.callings lists := by
  obtain ⟨⟨layers, rfl⟩, -⟩ := refreshed
  rfl

theorem updating (refreshed : c.Refreshed c') : c'.updating = c.updating := by
  funext update
  simp only [Context.updating, refreshed.layers]

theorem of_there {handle : LayerHandle} {entry : LayerEntry B.Layer}
    (there : c.registry.layers.get? handle = some entry) (layer : B.Layer) :
    c.Refreshed { c with registry :=
      (c.registry.takeLayer handle).insertLayer handle { entry with layer } } := by
  refine ⟨⟨_, rfl⟩, fun other => ?_⟩
  simp only [Registry.insertLayer, Registry.takeLayer, Table.contains, Table.get?_insert,
    Table.get?_erase]
  split
  case isTrue same => simp [← same, there]
  case isFalse => rfl

end Refreshed

end Context

namespace Headless

namespace Standards

variable {ω : Type} {S : Standards φ} {report : LogRecord → ω → ω}
  {invoke : φ → Frame → FunctorInfo → StateM ω (Frame × Completion)}
  {perform : τ → StateM ω Completion} {world : List (Calling φ) → ω → Prop}

/-! ### Contexts -/

variable (S) in
def OnList (list : DisplayList) : Prop := ∀ item ∈ list.items, S.Item item

variable (S) in
structure OnRegistry (r : Registry Layer φ) : Prop where
  layers : ∀ handle entry, r.layers.get? handle = some entry → S.OnLayer entry.size entry.layer
  callbacks : ∀ id callback, r.functors.get? id = some callback → S.callback callback
  pending : ∀ update ∈ r.pending, S.OnList update.2
  lastDrawn : ∀ list, r.lastDrawn = some list → S.OnList list

variable (S) in
/-- A context whose canvas has its size. -/
structure OnContext (c : Context (backend report) φ) : Prop where
  canvas : ∀ canvas, c.canvas = some canvas → S.OnCanvas c.viewport canvas
  registry : S.OnRegistry c.registry

variable (S) in
def Allows : Command Surface φ → Prop
  | .draw list _ => S.OnList list
  | .pushLayerUpdate _ list => S.OnList list
  | .attachFunctor functor => S.callback functor.callback
  | _ => True

variable (S) in
def OnReply (reply : Reply) : Prop := ∀ m, reply = .pixels (.ok m) → m.All S.pixel

namespace OnRegistry

variable {r : Registry Layer φ}

theorem empty : S.OnRegistry .empty where
  layers := by simp [Registry.empty]
  callbacks := by simp [Registry.empty]
  pending := by simp [Registry.empty]
  lastDrawn := by simp [Registry.empty]

theorem takeLayer (on : S.OnRegistry r) (handle : LayerHandle) :
    S.OnRegistry (r.takeLayer handle) where
  layers other entry there := by
    simp only [Registry.takeLayer, Table.get?_erase] at there
    split at there
    · simp at there
    · exact on.layers other entry there
  callbacks := on.callbacks
  pending := on.pending
  lastDrawn := on.lastDrawn

theorem insertLayer (on : S.OnRegistry r) (handle : LayerHandle) {entry : LayerEntry Layer}
    (made : S.OnLayer entry.size entry.layer) : S.OnRegistry (r.insertLayer handle entry) where
  layers other entry' there := by
    simp only [Registry.insertLayer, Table.get?_insert] at there
    split at there
    · exact Option.some.inj there ▸ made
    · exact on.layers other entry' there
  callbacks := on.callbacks
  pending := on.pending
  lastDrawn := on.lastDrawn

theorem removeLayer (on : S.OnRegistry r) (handle : LayerHandle) :
    S.OnRegistry (r.removeLayer handle) where
  layers := (on.takeLayer handle).layers
  callbacks := on.callbacks
  pending update mem := on.pending update (List.mem_of_mem_filter mem)
  lastDrawn := on.lastDrawn

theorem remember (on : S.OnRegistry r) {last : Option DisplayList}
    (allowed : ∀ list, last = some list → S.OnList list) :
    S.OnRegistry { r with lastDrawn := last } :=
  ⟨on.layers, on.callbacks, on.pending, allowed⟩

theorem settle (on : S.OnRegistry r) : S.OnRegistry { r with pending := [] } :=
  ⟨on.layers, on.callbacks, by simp, on.lastDrawn⟩

theorem attach? (on : S.OnRegistry r) {r' : Registry Layer φ} {id : FunctorId} {callback : φ}
    (allowed : S.callback callback) (attached : r.attach? id callback = some r') :
    S.OnRegistry r' := by
  obtain rfl := Registry.eq_of_attach? attached
  refine ⟨on.layers, fun other callback' there => ?_, on.pending, on.lastDrawn⟩
  simp only [Table.get?_insert] at there
  split at there
  · exact Option.some.inj there ▸ allowed
  · exact on.callbacks other callback' there

theorem detach? (on : S.OnRegistry r) {r' : Registry Layer φ} {id : FunctorId}
    (found : r.detach? id = some r') : S.OnRegistry r' := by
  obtain rfl := Registry.eq_of_detach? found
  refine ⟨on.layers, fun other callback there => ?_, on.pending, on.lastDrawn⟩
  simp only [Table.get?_erase] at there
  split at there
  · simp at there
  · exact on.callbacks other callback there

theorem queueUpdate? (on : S.OnRegistry r) {r' : Registry Layer φ} {handle : LayerHandle}
    {list : DisplayList} (allowed : S.OnList list) (queued : r.queueUpdate? handle list = some r') :
    S.OnRegistry r' := by
  obtain rfl := Registry.eq_of_queueUpdate? queued
  refine ⟨on.layers, on.callbacks, fun update mem => ?_, on.lastDrawn⟩
  obtain rfl | mem := mem_enqueue mem
  · exact allowed
  · exact on.pending update mem

end OnRegistry

theorem OnContext.withRegistry {c : Context (backend report) φ} (on : S.OnContext c)
    {r : Registry Layer φ} (registry : S.OnRegistry r) :
    S.OnContext { c with registry := r } :=
  ⟨on.canvas, registry⟩

/-! ### Drawing -/

variable (heeds : S.Heeds report invoke perform world) {called : List (Calling φ)}

include heeds

/-- **An item makes the call that it asks for.** -/
theorem drawItem_tracks (name : String) {registry : Registry Layer φ} (on : S.OnRegistry registry)
    (list : ListId) (target : Target) {f : Frame}
    (frame : S.OnFrame target.viewport target.damage f) {item : DrawItem} (allowed : S.Item item) :
    Tracks (S.OnDevice world) called
      (item.calling? registry.functors list target.frameIndex).toList
      (Context.drawItem (host report invoke perform) name registry list target f item)
      fun f' made => S.OnFrame target.viewport target.damage f' ∧
        made = (item.calling? registry.functors list target.frameIndex).toList := by
  obtain ⟨op, clip⟩ := item
  cases op with
  | clear color => exact .pure ⟨frame.drawOp allowed, rfl⟩
  | fill rect color => exact .pure ⟨frame.drawOp allowed, rfl⟩
  | layer handle dst =>
    unfold Context.drawItem
    cases there : registry.layers.get? handle with
    | none =>
      simp only [there]
      exact .after_quiet (heeds.note_quiet _ _ _) fun _ _ => .pure ⟨frame, rfl⟩
    | some entry =>
      simp only [there]
      have drawn : Quiet (S.OnDevice world) ((backend report).drawLayer f entry.layer dst clip)
          (S.OnFrame target.viewport target.damage) :=
        drawLayer_quiet frame (on.layers handle entry there) dst clip
      exact drawn.tracks
  | functor id =>
    unfold Context.drawItem DrawItem.calling?
    cases there : registry.functors.get? id with
    | none =>
      simp only [there]
      exact .after_quiet (heeds.note_quiet _ _ _) fun _ _ => .pure ⟨frame, rfl⟩
    | some callback =>
      simp only [there]
      have invoked : Tracks (S.OnDevice world) called
          [⟨callback, list, clip, target.frameIndex⟩]
          (liftM ((host report invoke perform).invoke callback f
            ⟨list, target.viewport, target.damage, clip, target.frameIndex⟩))
          fun r made => S.OnFrame target.viewport target.damage r.1 ∧
            made = [⟨callback, list, clip, target.frameIndex⟩] := by
        intro d kept
        obtain ⟨frame', shows⟩ := heeds.invokes called callback list target.viewport target.damage
          clip target.frameIndex f d.outside (on.callbacks id callback there) frame kept.world
        exact settles_lift.2 ⟨_, List.prefix_refl _, ⟨frame', rfl⟩, kept.inWorld shows⟩
      refine .after_quiet (R := fun f' => f' = f) (.pure rfl) ?_
      rintro _ rfl
      refine .then_quiet invoked ?_
      rintro ⟨f', completion⟩ made ⟨frame', rfl⟩
      cases completion with
      | finished => exact .pure ⟨frame', rfl⟩
      | panicked => exact (heeds.note_quiet _ _ _).bind fun _ _ => .pure ⟨frame', rfl⟩

/-- **A list makes its calls in the order of its items.** -/
theorem drawItems_tracks (name : String) {registry : Registry Layer φ}
    (on : S.OnRegistry registry) (list : ListId) (target : Target) {items : List DrawItem}
    {f : Frame} (frame : S.OnFrame target.viewport target.damage f)
    (allowed : ∀ item ∈ items, S.Item item) :
    Tracks (S.OnDevice world) called
      (items.filterMap (DrawItem.calling? registry.functors list target.frameIndex))
      (Context.drawItems (host report invoke perform) name registry list target items f)
      fun f' made => S.OnFrame target.viewport target.damage f' ∧
        made = items.filterMap (DrawItem.calling? registry.functors list target.frameIndex) := by
  induction items generalizing f called with
  | nil => exact .pure ⟨frame, rfl⟩
  | cons item rest ih =>
    have plan : (item :: rest).filterMap
        (DrawItem.calling? registry.functors list target.frameIndex) =
        (item.calling? registry.functors list target.frameIndex).toList ++
          rest.filterMap (DrawItem.calling? registry.functors list target.frameIndex) := by
      rw [List.filterMap_cons]
      split <;> simp [*]
    rw [plan]
    refine (drawItem_tracks heeds name on list target frame (allowed item (.head _))).bind ?_
    rintro f' made ⟨frame', rfl⟩
    refine ⟨rfl, (ih frame' fun item mem => allowed item (.tail _ mem)).mono ?_⟩
    rintro f'' made ⟨frame'', rfl⟩
    exact ⟨frame'', rfl⟩

/-! ### Layers -/

theorem redrawLayer_tracks {c : Context (backend report) φ} (on : S.OnContext c)
    (update : LayerHandle × DisplayList) (allowed : S.OnList update.2) :
    Tracks (S.OnDevice world) called (c.callings (c.updating update))
      (c.redrawLayer (host report invoke perform) update.1 update.2) fun c' made =>
        (S.OnContext c' ∧ c.Refreshed c') ∧ made = c.callings (c.updating update) := by
  obtain ⟨handle, list⟩ := update
  unfold Context.redrawLayer
  cases there : c.registry.layers.get? handle with
  | none =>
    have nothing : c.updating (handle, list) = [] := by
      simp [Context.updating, Table.contains, there]
    rw [nothing]
    exact .pure ⟨⟨on, .refl c⟩, rfl⟩
  | some entry =>
    have drawn : c.updating (handle, list) = [list] := by
      simp [Context.updating, Table.contains, there]
    simp only [drawn, Context.callings_singleton]
    have layer := on.registry.layers handle entry there
    refine .after_quiet (R := fun r => r = (.ok (beginLayerFrame entry.layer).1, ⟨.empty⟩))
      (.pure rfl) ?_
    rintro _ rfl
    refine .then_quiet (drawItems_tracks heeds c.name (on.registry.takeLayer handle) list.id
      ⟨entry.size, .ofSize entry.size.width entry.size.height, c.stats.drawn⟩
      layer.beginLayerFrame allowed) ?_
    rintro f made ⟨frame, rfl⟩
    refine Quiet.bind (P := fun l => l = ⟨f.target⟩) (.pure rfl) ?_
    rintro _ rfl
    exact .pure ⟨⟨on.withRegistry ((on.registry.takeLayer handle).insertLayer handle
      (frame.layer layer.nonempty)), .of_there there _⟩, rfl⟩

theorem redrawLayers_tracks {updates : List (LayerHandle × DisplayList)}
    (allowed : ∀ update ∈ updates, S.OnList update.2) {c : Context (backend report) φ}
    (on : S.OnContext c) :
    Tracks (S.OnDevice world) called (c.callings (updates.flatMap c.updating))
      (Context.redrawLayers (host report invoke perform) updates c) fun c' made =>
        (S.OnContext c' ∧ c.Refreshed c') ∧ made = c.callings (updates.flatMap c.updating) := by
  induction updates generalizing c called with
  | nil => exact .pure ⟨⟨on, .refl c⟩, rfl⟩
  | cons update rest ih =>
    rw [List.flatMap_cons, Context.callings_append]
    refine (redrawLayer_tracks heeds on update (allowed update (.head _))).bind ?_
    rintro c₁ made ⟨⟨on₁, refreshed⟩, rfl⟩
    rw [← refreshed.updating, ← refreshed.callings (rest.flatMap _)]
    refine ⟨rfl, (ih (fun update mem => allowed update (.tail _ mem)) on₁).mono ?_⟩
    rintro c₂ made ⟨⟨on₂, refreshed'⟩, rfl⟩
    exact ⟨⟨on₂, refreshed.trans refreshed'⟩, rfl⟩

theorem applyLayerUpdates_tracks {c : Context (backend report) φ} (on : S.OnContext c) :
    Tracks (S.OnDevice world) called (c.callings c.waiting)
      (c.applyLayerUpdates (host report invoke perform)) fun c' made =>
        (S.OnContext c' ∧ c'.stats = c.stats ∧ c'.registry.functors = c.registry.functors) ∧
          made = c.callings c.waiting := by
  rw [Context.waiting_eq]
  refine (redrawLayers_tracks heeds on.registry.pending
    (on.withRegistry on.registry.settle)).mono ?_
  rintro c' made ⟨⟨on', ⟨layers, rfl⟩, -⟩, rfl⟩
  exact ⟨⟨on', rfl, rfl⟩, rfl⟩

/-! ### Frames -/

omit heeds

theorem frameDamage_within {capabilities : Capabilities} {full : Bool} {size : Viewport}
    {damage : Damage} {box : PixelBox}
    (repaints : Context.frameDamage capabilities full size damage = some box) :
    box.Within size := by
  unfold Context.frameDamage at repaints
  simp only at repaints
  split at repaints
  · simp at repaints
  case h_2 part clipped =>
    have within := Damage.clipTo_within clipped
    split at repaints
    · obtain rfl := Option.some.inj repaints
      cases all : Damage.whole.clipTo size with
      | none => exact within
      | some box => exact Damage.clipTo_within all
    · exact Option.some.inj repaints ▸ within

include heeds

theorem drawOnCanvas_tracks {c : Context (backend report) φ} (on : S.OnContext c)
    {canvas : Canvas} {viewport : Viewport} {damage : PixelBox} {list : DisplayList}
    (there : c.canvas = some canvas) (sized : c.viewport = some viewport)
    (inside : damage.Within viewport) (allowed : S.OnList list) :
    Tracks (S.OnDevice world) called (c.callings [list])
      (c.drawOnCanvas (host report invoke perform) canvas viewport damage list) fun r made =>
        S.OnContext r.2 ∧ r.2.stats = c.stats ∧ (r.1 = .drawn → made = c.callings [list]) := by
  have onCanvas := on.canvas canvas there
  rw [sized] at onCanvas
  have kept {canvas' : Canvas} {needsFullRedraw : Bool}
      (on' : S.OnCanvas (some viewport) canvas') :
      S.OnContext { c with canvas := some canvas', needsFullRedraw } := by
    refine ⟨?_, on.registry⟩
    rintro _ ⟨⟩
    exact sized ▸ on'
  unfold Context.drawOnCanvas
  refine .after_quiet (beginFrame_quiet onCanvas inside) ?_
  rintro ⟨e | _ | f, canvas'⟩ ⟨frame, on'⟩
  · exact .after_quiet (heeds.note_quiet _ _ _) fun _ _ => .pure ⟨kept on', rfl, nofun⟩
  · exact .pure ⟨kept on', rfl, nofun⟩
  · rw [Context.callings_singleton]
    refine .then_quiet (drawItems_tracks heeds c.name on.registry list.id
      ⟨viewport, damage, c.stats.drawn⟩ (frame f rfl) allowed) ?_
    rintro f' made ⟨frame', rfl⟩
    refine (heeds.endFrame_quiet on' frame').bind ?_
    rintro ⟨e | ⟨⟩, canvas''⟩ on''
    · exact (heeds.note_quiet _ _ _).bind fun _ _ => .pure ⟨kept on'', rfl, nofun⟩
    · exact .pure ⟨kept on'', rfl, fun _ => rfl⟩

theorem drawFrame_tracks {c : Context (backend report) φ} (on : S.OnContext c)
    {list : DisplayList} (allowed : S.OnList list) (damage : Damage) :
    Tracks (S.OnDevice world) called (c.callings [list])
      (c.drawFrame (host report invoke perform) list damage) fun r made =>
        S.OnContext r.2 ∧ r.2.stats = c.stats ∧ (r.1 = .drawn → made = c.callings [list]) := by
  have skipped : S.OnContext c ∧ c.stats = c.stats ∧
      (DrawStatus.skipped = .drawn → [] = c.callings [list]) := ⟨on, rfl, nofun⟩
  unfold Context.drawFrame
  split
  case h_1 => exact .pure skipped
  case h_2 canvas there =>
    split
    · exact .after_quiet (heeds.note_quiet _ _ _) fun _ _ => .pure skipped
    · split
      case h_1 => exact .after_quiet (heeds.note_quiet _ _ _) fun _ _ => .pure skipped
      case h_2 viewport sized =>
        refine .after_quiet .get fun d _ => ?_
        simp only
        split
        case h_1 => exact .pure skipped
        case h_2 box repaints =>
          exact drawOnCanvas_tracks heeds on there sized (frameDamage_within repaints) allowed

theorem draw_tracks {c : Context (backend report) φ} (on : S.OnContext c)
    {list : DisplayList} (allowed : S.OnList list) (damage : Damage) :
    Tracks (S.OnDevice world) called (c.callings (c.waiting ++ [list]))
      (c.draw (host report invoke perform) list damage) fun r made =>
        S.OnContext r.2 ∧ (r.1 = .drawn → made = c.callings (c.waiting ++ [list])) := by
  rw [Context.callings_append]
  unfold Context.draw
  have remembered : S.OnContext
      { c with registry := { c.registry with lastDrawn := some list } } := by
    refine on.withRegistry (on.registry.remember ?_)
    rintro _ ⟨⟩
    exact allowed
  refine (applyLayerUpdates_tracks heeds remembered).bind ?_
  rintro c₁ made ⟨⟨on₁, stats, functors⟩, rfl⟩
  have same : c₁.callings [list] = c.callings [list] := by
    rw [Context.callings_singleton, Context.callings_singleton, stats, functors]
  refine ⟨rfl, .then_quiet (same ▸ drawFrame_tracks heeds on₁ allowed damage) ?_⟩
  rintro ⟨status, c₂⟩ made ⟨on₂, -, whole⟩
  refine .pure ⟨⟨on₂.canvas, on₂.registry⟩, fun drawn => ?_⟩
  exact congrArg (c.callings c.waiting ++ ·) (whole drawn)

/-! ### Other commands -/

theorem bind_quiet {c : Context (backend report) φ} (on : S.OnContext c)
    (surface : Option Surface) :
    Quiet (S.OnDevice world) (c.bind (host report invoke perform) surface) fun r =>
      S.OnContext r.2 := by
  have kept {canvas : Canvas} {surfaceBound needsFullRedraw : Bool}
      (on' : S.OnCanvas c.viewport canvas) :
      S.OnContext { c with canvas := some canvas, surfaceBound, needsFullRedraw } := by
    refine ⟨?_, on.registry⟩
    rintro _ ⟨⟩
    exact on'
  unfold Context.bind
  split
  case h_1 => exact .pure on
  case h_2 canvas there =>
    exact (heeds.unbindSurface_quiet (on.canvas canvas there)).bind fun _ on' => .pure (kept on')
  case h_3 canvas surface there =>
    refine (heeds.bindSurface_quiet (on.canvas canvas there) surface c.viewport).bind ?_
    rintro ⟨e | ⟨⟩, canvas'⟩ on'
    · exact (heeds.note_quiet _ _ _).bind fun _ _ => .pure (kept on')
    · exact .pure (kept on')

theorem setSize_quiet {c : Context (backend report) φ} (on : S.OnContext c) (viewport : Viewport) :
    Quiet (S.OnDevice world) (c.resize (host report invoke perform) viewport) fun r =>
      S.OnContext r.2 := by
  unfold Context.resize
  simp only
  split
  case h_1 none => exact .pure ⟨by simp [none], on.registry⟩
  case h_2 canvas there =>
    have kept {canvas' : Canvas} {needsFullRedraw : Bool}
        (on' : S.OnCanvas (some viewport) canvas') :
        S.OnContext { c with
          canvas := some canvas', viewport := some viewport, needsFullRedraw } := by
      refine ⟨?_, on.registry⟩
      rintro _ ⟨⟩
      exact on'
    refine (resize_quiet (on.canvas canvas there) viewport).bind ?_
    rintro ⟨e | ⟨⟩, canvas'⟩ on'
    · exact (heeds.note_quiet _ _ _).bind fun _ _ => .pure (kept on')
    · exact .pure (kept on')

theorem makeLayer_quiet {c : Context (backend report) φ} (on : S.OnContext c)
    (fresh : LayerHandle) (size : Viewport) :
    Quiet (S.OnDevice world) (c.createLayer (host report invoke perform) fresh size) fun r =>
      S.OnContext r.2 := by
  unfold Context.createLayer
  split
  · exact .pure on
  · refine (createLayer_quiet size).bind ?_
    rintro (e | layer) made
    · exact .pure on
    · exact (heeds.note_quiet _ _ _).bind fun _ _ =>
        .pure (on.withRegistry (on.registry.insertLayer fresh (made layer rfl)))

omit heeds

theorem destroyLayers_quiet (layers : List (LayerHandle × LayerEntry Layer)) :
    Quiet (S.OnDevice world) (Context.destroyLayers (B := backend report) layers)
      fun _ => True := by
  induction layers with
  | nil => exact .pure trivial
  | cons entry rest ih => exact Quiet.bind (P := fun _ => True) (.pure trivial) fun _ _ => ih

include heeds

theorem releaseAll_quiet {c : Context (backend report) φ} (on : S.OnContext c) :
    Quiet (S.OnDevice world) c.releaseAll S.OnContext := by
  unfold Context.releaseAll
  refine (destroyLayers_quiet _).bind fun _ _ => ?_
  split
  case h_1 none => exact .pure ⟨by simp [none], .empty⟩
  case h_2 canvas there =>
    exact (heeds.destroyCanvas_quiet (on.canvas canvas there)).bind fun _ _ =>
      .pure ⟨by simp, .empty⟩

theorem release_quiet {c : Context (backend report) φ} (on : S.OnContext c) (full : Bool) :
    Quiet (S.OnDevice world) (c.release (host report invoke perform) full) S.OnContext := by
  cases full with
  | false => exact (heeds.note_quiet _ _ _).bind fun _ _ => .pure on
  | true =>
    exact (releaseAll_quiet heeds on).bind fun c' on' =>
      (heeds.note_quiet _ _ _).bind fun _ _ => .pure on'

theorem destroy_quiet {c : Context (backend report) φ} (on : S.OnContext c) (full : Bool) :
    Quiet (S.OnDevice world) (c.destroy (host report invoke perform) full) S.OnContext := by
  rw [Context.destroy_eq]
  split
  case h_1 none =>
    have unbound : S.OnContext { c with surfaceBound := false } := ⟨by simp [none], on.registry⟩
    exact release_quiet heeds unbound full
  case h_2 canvas there =>
    refine (heeds.unbindSurface_quiet (on.canvas canvas there)).bind fun canvas' on' => ?_
    have unbound : S.OnContext { c with canvas := some canvas', surfaceBound := false } := by
      refine ⟨?_, on.registry⟩
      rintro _ ⟨⟩
      exact on'
    exact release_quiet heeds unbound full

theorem teardown_quiet {c : Context (backend report) φ} (on : S.OnContext c) :
    Quiet (S.OnDevice world) (c.teardown (host report invoke perform)) fun _ => True :=
  (releaseAll_quiet heeds on).bind fun _ _ => heeds.note_quiet _ _ _

/-! ### Commands -/

omit heeds

variable (S) in
/-- What a command leaves: it made the calls of the lists that it went through, all of them unless
a frame was skipped. -/
structure Done (c : Context (backend report) φ) (command : Command Surface φ)
    (r : Option Reply × Context (backend report) φ) (made : List (Calling φ)) : Prop where
  context : S.OnContext r.2
  reply : ∀ reply, r.1 = some reply → S.OnReply reply
  made : r.1 ≠ some (.drawn .skipped) → made = c.callings (c.traversed command)

include heeds

/-- **A command makes the calls of the lists that it goes through.** -/
theorem execute_tracks {c : Context (backend report) φ} (on : S.OnContext c) (fresh : LayerHandle)
    {command : Command Surface φ} (allowed : S.Allows command) :
    Tracks (S.OnDevice world) called (c.callings (c.traversed command))
      (c.execute (host report invoke perform) fresh command) (S.Done c command) := by
  -- most commands go through no list
  have done {command : Command Surface φ} {reply : Option Reply} {c' : Context (backend report) φ}
      (on' : S.OnContext c') (none : c.traversed command = [])
      (silent : ∀ m, reply ≠ some (.pixels (.ok m))) : S.Done c command (reply, c') [] :=
    ⟨on', fun _ given m same => absurd (given.trans (congrArg some same)) (silent m),
      fun _ => by rw [none]; rfl⟩
  have drawn {command : Command Surface φ} {status : DrawStatus}
      {c' : Context (backend report) φ} {list : DisplayList} {made : List (Calling φ)}
      (on' : S.OnContext c') (lists : c.traversed command = c.waiting ++ [list])
      (whole : status = .drawn → made = c.callings (c.waiting ++ [list])) :
      S.Done c command (some (.drawn status), c') made := by
    refine ⟨on', ?_, fun shown => ?_⟩
    · rintro _ ⟨⟩ m same
      simp at same
    · rw [lists]
      refine whole ?_
      cases status with
      | drawn => rfl
      | skipped => exact absurd rfl shown
  cases command with
  | bindSurface surface =>
    exact .after_quiet (bind_quiet heeds on _) fun r on' => .pure (done on' rfl (by simp))
  | updateSurface surface =>
    exact .after_quiet (bind_quiet heeds on _) fun r on' => .pure (done on' rfl (by simp))
  | setup viewport =>
    exact .after_quiet (setSize_quiet heeds on _) fun r on' => .pure (done on' rfl (by simp))
  | draw list record =>
    refine .then_quiet (draw_tracks heeds on allowed _) ?_
    rintro ⟨status, c'⟩ made ⟨on', whole⟩
    exact .pure (drawn on' rfl whole)
  | repeatLastDraw =>
    unfold Context.execute Context.traversed
    cases last : c.registry.lastDrawn with
    | none =>
      refine .after_quiet (heeds.note_quiet _ _ _) fun _ _ => .pure ?_
      exact done ⟨on.canvas, on.registry⟩ (by simp [Context.traversed, last]) (by simp)
    | some list =>
      refine .then_quiet (draw_tracks heeds on (on.registry.lastDrawn list last) .whole) ?_
      rintro ⟨status, c'⟩ made ⟨on', whole⟩
      exact .pure (drawn on' (by simp [Context.traversed, last]) whole)
  | destroy full =>
    exact .after_quiet (destroy_quiet heeds on full) fun c' on' => .pure (done on' rfl (by simp))
  | attachFunctor functor =>
    unfold Context.execute
    simp only
    split
    case h_1 registry attached =>
      exact .pure (done (on.withRegistry (on.registry.attach? allowed attached)) rfl (by simp))
    case h_2 =>
      exact .after_quiet (heeds.note_quiet _ _ _) fun _ _ => .pure (done on rfl (by simp))
  | detachFunctor id =>
    unfold Context.execute
    simp only
    split
    case h_1 registry found =>
      exact .pure (done (on.withRegistry (on.registry.detach? found)) rfl (by simp))
    case h_2 =>
      exact .after_quiet (heeds.note_quiet _ _ _) fun _ _ => .pure (done on rfl (by simp))
  | createLayer size =>
    exact .after_quiet (makeLayer_quiet heeds on fresh size) fun r on' =>
      .pure (done on' rfl (by simp))
  | pushLayerUpdate layer list =>
    unfold Context.execute
    simp only
    split
    case h_1 registry queued =>
      exact .pure (done (on.withRegistry (on.registry.queueUpdate? allowed queued)) rfl (by simp))
    case h_2 =>
      exact .after_quiet (heeds.note_quiet _ _ _) fun _ _ => .pure (done on rfl (by simp))
  | flushLayerUpdates =>
    refine .then_quiet (applyLayerUpdates_tracks heeds on) ?_
    rintro c' made ⟨⟨on', -⟩, rfl⟩
    exact .pure ⟨on', by simp, fun _ => rfl⟩
  | copyLayer layer =>
    refine .then_quiet (applyLayerUpdates_tracks heeds on) ?_
    rintro c' made ⟨⟨on', -⟩, rfl⟩
    split
    case h_1 =>
      refine .pure ⟨on', ?_, fun _ => rfl⟩
      rintro _ ⟨⟩ m same
      simp at same
    case h_2 entry there =>
      refine (copyLayer_quiet (on'.registry.layers layer entry there)).bind fun pixels copied => ?_
      refine .pure ⟨on', ?_, fun _ => rfl⟩
      rintro _ ⟨⟩ m same
      exact copied m (Reply.pixels.inj same)
  | destroyLayer layer =>
    unfold Context.execute
    simp only
    split
    case h_1 entry there =>
      refine .after_quiet (R := fun _ => True) (.pure trivial) fun _ _ => .pure ?_
      exact done (on.withRegistry (on.registry.removeLayer layer)) rfl (by simp)
    case h_2 =>
      exact .after_quiet (heeds.note_quiet _ _ _) fun _ _ => .pure (done on rfl (by simp))
  | flushCaches =>
    have forgotten : S.OnRegistry { c.registry with lastDrawn := none } :=
      on.registry.remember (by simp)
    unfold Context.execute
    simp only
    split
    case h_1 none => exact .pure (done ⟨by simp [none], forgotten⟩ rfl (by simp))
    case h_2 canvas there =>
      refine .after_quiet (R := fun canvas' => canvas' = trimCaches canvas) (.pure rfl) ?_
      rintro _ rfl
      refine .pure (done ⟨?_, forgotten⟩ rfl (by simp))
      rintro _ ⟨⟩
      exact (on.canvas canvas there).trimCaches
  | setName name =>
    exact .after_quiet (heeds.note_quiet _ _ _) fun _ _ =>
      .pure (done ⟨on.canvas, on.registry⟩ rfl (by simp))
  | dumpInfo => exact .after_quiet .get fun d _ => .pure (done on rfl (by simp))
  | fence => exact .pure (done on rfl (by simp))

theorem dispatch_tracks {c : Context (backend report) φ} (on : S.OnContext c)
    (fresh : LayerHandle) {command : Command Surface φ} (allowed : S.Allows command) :
    Tracks (S.OnDevice world) called (c.callings (c.traversed command))
      (c.dispatch (host report invoke perform) fresh command) (S.Done c command) :=
  .after_quiet (heeds.note_quiet _ _ _) fun _ _ => execute_tracks heeds on fresh allowed

end Standards

end Headless

end RenderRelay

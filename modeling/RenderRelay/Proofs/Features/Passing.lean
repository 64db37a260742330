import RenderRelay.Proofs.Features.Within
import RenderRelay.Proofs.Isolation.Apart

/-!
Items that are passed over. An item that names a callback which is not attached, or a layer which is
not there, leaves a report and nothing else, so a draw does the same without it (`draw_without`):
it ends in the same status or in the same fault, and shows the same pixels.
-/

namespace RenderRelay

/-! ### Runs that end alike -/

namespace DeviceOp

variable {δ α β : Type} {D : δ → δ → Prop} {R : α → α → Prop}

/-- Both runs end in values that `R` relates or both in the same fault, and they leave devices that
`D` relates. -/
inductive Alike (D : δ → δ → Prop) (R : α → α → Prop) :
    Except Fault α × δ → Except Fault α × δ → Prop
  | ended {a a' : α} {d d' : δ} (values : R a a') (devices : D d d') :
    Alike D R (.ok a, d) (.ok a', d')
  | failed {fault : Fault} {d d' : δ} (devices : D d d') :
    Alike D R (.error fault, d) (.error fault, d')

/-- Begun on devices that `D` relates, the operations end alike. -/
def Matches (D : δ → δ → Prop) (R : α → α → Prop) (op op' : DeviceOp δ α) : Prop :=
  ∀ d d', D d d' → Alike D R (op.runOn d) (op'.runOn d')

theorem matches_pure {a a' : α} (values : R a a') : Matches D R (pure a) (pure a') :=
  fun _ _ devices => .ended values devices

theorem matches_throw (fault : Fault) : Matches D R (throw fault) (throw fault) :=
  fun _ _ devices => .failed devices

theorem matches_get : Matches D D get get :=
  fun _ _ devices => .ended devices devices

theorem matches_modify {f f' : δ → δ} (step : ∀ d d', D d d' → D (f d) (f' d')) :
    Matches D Eq (modify f) (modify f') :=
  fun d d' devices => .ended rfl (step d d' devices)

theorem matches_lift {work work' : StateM δ α}
    (step : ∀ d d', D d d' → R (work d).1 (work' d').1 ∧ D (work d).2 (work' d').2) :
    Matches D R (liftM work) (liftM work') :=
  fun d d' devices => .ended (step d d' devices).1 (step d d' devices).2

/-- **Sequences match part by part.** -/
theorem Matches.bind {op op' : DeviceOp δ α} {f f' : α → DeviceOp δ β} {S : β → β → Prop}
    (first : Matches D R op op') (second : ∀ a a', R a a' → Matches D S (f a) (f' a')) :
    Matches D S (op >>= f) (op' >>= f') := by
  intro d d' devices
  have ends := first d d' devices
  rw [runOn_bind, runOn_bind]
  generalize op.runOn d = r, op'.runOn d' = r' at ends
  cases ends with
  | ended values devices => exact second _ _ values _ _ devices
  | failed devices => exact .failed devices

/-- A step of the first operation alone, that keeps to the relation. -/
theorem Matches.modify_left {f : δ → δ} {g : Unit → DeviceOp δ β} {op' : DeviceOp δ β}
    {S : β → β → Prop} (step : ∀ d d', D d d' → D (f d) d') (rest : Matches D S (g ()) op') :
    Matches D S (modify f >>= g) op' := by
  intro d d' devices
  rw [runOn_bind, runOn_modify]
  exact rest _ _ (step d d' devices)

end DeviceOp

open DeviceOp

/-- The item names a callback that is not attached or a layer that is not there. -/
def DrawItem.Unknown {Layer φ : Type} (registry : Registry Layer φ) (item : DrawItem) : Prop :=
  match item.op with
  | .functor id => registry.functors.get? id = none
  | .layer handle _ => registry.layers.get? handle = none
  | _ => False

def DisplayList.without (list : DisplayList) (drop : DrawItem → Bool) : DisplayList :=
  { list with items := list.items.filter (!drop ·) }

theorem DrawItem.unknown_iff {Layer φ : Type} {registry : Registry Layer φ} {item : DrawItem} :
    item.Unknown registry ↔
      match item.op with
      | .functor id => registry.inventory.callbacks id = none
      | .layer handle _ => registry.inventory.sizes handle = none
      | _ => False := by
  unfold Unknown
  split <;> simp [Registry.inventory]

/-! ### The list kept for repeated draws -/

namespace Context

variable {σ φ τ : Type} {B : Backend σ} (H : Host B φ τ)

def remember (c : Context B φ) (last : Option DisplayList) : Context B φ :=
  { c with registry := { c.registry with lastDrawn := last } }

@[simp] theorem remember_needsFullRedraw (c : Context B φ) (last : Option DisplayList) :
    (c.remember last).needsFullRedraw = c.needsFullRedraw := rfl

theorem drawItem_remember (name : String) (registry : Registry B.Layer φ)
    (last : Option DisplayList) (list : ListId) (target : Target) (frame : B.Frame)
    (item : DrawItem) :
    drawItem H name { registry with lastDrawn := last } list target frame item =
      drawItem H name registry list target frame item := rfl

theorem drawItems_remember (name : String) (registry : Registry B.Layer φ)
    (last : Option DisplayList) (list : ListId) (target : Target) (items : List DrawItem)
    (frame : B.Frame) :
    drawItems H name { registry with lastDrawn := last } list target items frame =
      drawItems H name registry list target items frame := by
  induction items generalizing frame with
  | nil => rfl
  | cons item rest ih => simp only [drawItems, drawItem_remember, ih]

theorem redrawLayer_remember (c : Context B φ) (last : Option DisplayList) (handle : LayerHandle)
    (list : DisplayList) :
    redrawLayer H (c.remember last) handle list =
      (do return (← redrawLayer H c handle list).remember last) := by
  have same : (c.remember last).registry.layers = c.registry.layers := rfl
  unfold redrawLayer
  rw [same]
  cases c.registry.layers.get? handle with
  | none => rfl
  | some entry =>
    simp only [bind_assoc]
    refine bind_congr fun begun => ?_
    obtain ⟨e | frame, layer⟩ := begun
    · simp only [bind_assoc]
      rfl
    · simp only [bind_assoc, pure_bind]
      refine Eq.trans (congrArg (· >>= _) (drawItems_remember H c.name
        (c.registry.takeLayer handle) last list.id _ list.items frame)) ?_
      rfl

theorem redrawLayers_remember (updates : List LayerUpdate) (c : Context B φ)
    (last : Option DisplayList) :
    redrawLayers H updates (c.remember last) =
      (do return (← redrawLayers H updates c).remember last) := by
  induction updates generalizing c with
  | nil => rfl
  | cons update rest ih =>
    simp only [redrawLayers, redrawLayer_remember, bind_assoc, pure_bind, ih]

/-- **Waiting updates do not depend on the list that is kept.** -/
theorem applyLayerUpdates_remember (c : Context B φ) (last : Option DisplayList) :
    applyLayerUpdates H (c.remember last) =
      (do return (← applyLayerUpdates H c).remember last) :=
  redrawLayers_remember H c.registry.pending
    { c with registry := { c.registry with pending := [] } } last

/-- A draw carries the updates out, keeps the list, draws the frame and counts it. -/
theorem draw_eq (c : Context B φ) (list : DisplayList) (damage : Damage) :
    c.draw H list damage = applyLayerUpdates H c >>= fun c =>
      drawFrame H (c.remember (some list)) list damage >>= fun r =>
        pure (r.1, { r.2 with stats := r.2.stats.count r.1 }) := by
  change applyLayerUpdates H (c.remember (some list)) >>= _ = _
  rw [applyLayerUpdates_remember, bind_assoc]
  rfl

end Context

namespace Headless

variable {ω π φ τ : Type} {report : LogRecord → ω → ω}
  {invoke : φ → Frame → FunctorInfo → StateM ω (Frame × Completion)}
  {perform : τ → StateM ω Completion} {part : ω → π}

/-! ### Devices -/

/-- Devices that differ at most in a part of the world that callbacks do not see. -/
structure Device.Like (part : ω → π) (d d' : Device ω) : Prop where
  config : d'.config = d.config
  live : d'.live = d.live
  gallery : d'.gallery = d.gallery
  part : part d'.outside = part d.outside

theorem Device.Like.refl (d : Device ω) : Device.Like part d d := ⟨rfl, rfl, rfl, rfl⟩

section Devices

variable (unreported : ∀ record world, part (report record world) = part world)

include unreported

theorem note_matches (name : String) (level : Level) (text : String) :
    Matches (Device.Like part) Eq (Context.note (host report invoke perform) name level text)
      (Context.note (host report invoke perform) name level text) :=
  matches_modify fun _ _ like => ⟨like.config, like.live, like.gallery, by
    simpa [host, unreported] using like.part⟩

theorem note_matches_left {α : Type} {R : α → α → Prop} (name : String) (level : Level)
    (text : String) {f : Unit → DeviceOp (Device ω) α} {op : DeviceOp (Device ω) α}
    (rest : Matches (Device.Like part) R (f ()) op) :
    Matches (Device.Like part) R
      (Context.note (host report invoke perform) name level text >>= f) op :=
  .modify_left (fun _ _ like => ⟨like.config, like.live, like.gallery, by
    simpa [host, unreported] using like.part⟩) rest

theorem present_matches (surface : Surface) (frame : Bitmap) :
    Matches (Device.Like part) Eq (present report surface frame) (present report surface frame) := by
  refine matches_get.bind fun d d' like => ?_
  rw [like.gallery]
  refine Matches.bind (R := Eq) (matches_modify fun d d' like => ?_) fun _ _ _ => matches_pure rfl
  have outside : part (d'.presented report surface frame).outside =
      part (d.presented report surface frame).outside := by
    simp only [Device.presented, like.gallery]
    split
    · simp only [unreported, like.part]
    · exact like.part
  exact ⟨like.config, like.live, congrArg (·.present surface frame) like.gallery, outside⟩

theorem endFrame_matches (canvas : Canvas) (frame : Frame) :
    Matches (Device.Like part) Eq (endFrame report canvas frame)
      (endFrame report canvas frame) := by
  unfold endFrame
  split
  · exact matches_pure rfl
  · exact (present_matches unreported _ _).bind fun _ _ _ => matches_pure rfl

end Devices

/-! ### Frames -/

theorem checkBudget_matches (what : String) (size : Viewport) :
    Matches (Device.Like part) Eq (checkBudget (ω := ω) what size) (checkBudget what size) := by
  unfold checkBudget
  split
  · exact matches_throw _
  · refine matches_get.bind fun d d' like => ?_
    simp only [like.config]
    split <;> exact matches_pure rfl

theorem newBuffer_matches (size : Viewport) :
    Matches (Device.Like part) Eq (newBuffer size) (newBuffer size) := by
  unfold newBuffer
  split
  · exact matches_throw _
  · exact matches_pure rfl

theorem backOfSize_matches (canvas : Canvas) (size : Viewport) :
    Matches (Device.Like part) Eq (backOfSize canvas size) (backOfSize canvas size) := by
  unfold backOfSize
  split
  · exact matches_pure rfl
  · refine (checkBudget_matches _ size).bind ?_
    rintro (e | ⟨⟩) _ rfl
    · exact matches_pure rfl
    · refine (newBuffer_matches size).bind ?_
      rintro m _ rfl
      exact matches_pure rfl

theorem beginFrame_matches (canvas : Canvas) (damage : PixelBox) :
    Matches (Device.Like part) Eq (beginFrame canvas damage) (beginFrame canvas damage) := by
  unfold beginFrame
  split
  · exact matches_pure rfl
  · split
    · exact matches_pure rfl
    · refine (backOfSize_matches canvas _).bind ?_
      rintro (e | target) _ rfl
      · exact matches_pure rfl
      · refine matches_get.bind fun d d' like => ?_
        rw [like.config]
        exact matches_pure rfl

theorem drawLayer_matches (frame : Frame) (layer : Layer) (dst : Rect) (clip : Option Rect) :
    Matches (Device.Like part) Eq ((backend report).drawLayer frame layer dst clip)
      ((backend report).drawLayer frame layer dst clip) := by
  simp only [backend]
  split
  · exact matches_pure rfl
  · exact matches_throw _

/-! ### Items -/

variable (perform)

theorem drawItem_unknown {registry : Registry Layer φ} {item : DrawItem}
    (unknown : item.Unknown registry) (name : String) (list : ListId) (target : Target)
    (frame : Frame) :
    ∃ level text,
      Context.drawItem (host report invoke perform) name registry list target frame item =
        (do Context.note (host report invoke perform) name level text; return frame) := by
  unfold DrawItem.Unknown at unknown
  unfold Context.drawItem
  split at unknown
  case h_1 id same =>
    simp only [same, unknown]
    exact ⟨_, _, rfl⟩
  case h_2 handle dst same =>
    simp only [same, unknown]
    exact ⟨_, _, rfl⟩
  case h_3 => exact absurd unknown id

section Items

variable (unreported : ∀ record world, part (report record world) = part world)
  {registry : Registry Layer φ}
  (confined : ∀ id f, registry.functors.get? id = some f → Confined invoke part f)

include unreported confined

theorem drawItem_matches (name : String) (list : ListId) (target : Target) (frame : Frame)
    (item : DrawItem) :
    Matches (Device.Like part) Eq
      (Context.drawItem (host report invoke perform) name registry list target frame item)
      (Context.drawItem (host report invoke perform) name registry list target frame item) := by
  have noted (level : Level) (text : String) (frame : Frame) :
      Matches (Device.Like part) Eq
        (do Context.note (host report invoke perform) name level text; return frame)
        (do Context.note (host report invoke perform) name level text; return frame) :=
    (note_matches unreported name level text).bind fun _ _ _ => matches_pure rfl
  unfold Context.drawItem
  split
  case h_1 id _ =>
    split
    case h_1 => exact noted _ _ _
    case h_2 callback attached =>
      refine Matches.bind (R := Eq) (matches_pure rfl) ?_
      rintro frame _ rfl
      refine Matches.bind (R := Eq) (matches_lift fun d d' like => ?_) ?_
      · obtain ⟨same, kept⟩ := confined id callback attached frame _ d.outside d'.outside like.part
        exact ⟨same.symm, like.config, like.live, like.gallery, kept⟩
      · rintro ⟨frame, _ | _⟩ _ rfl
        · exact matches_pure rfl
        · exact noted _ _ _
  case h_2 =>
    split
    case h_1 => exact noted _ _ _
    case h_2 entry _ => exact drawLayer_matches _ _ _ _
  case h_3 => exact matches_pure rfl
  case h_4 => exact matches_pure rfl

/-- **A list is drawn as it is without the items that are passed over.** -/
theorem drawItems_matches (drop : DrawItem → Bool) (name : String) (list : ListId)
    (target : Target) (items : List DrawItem)
    (unknown : ∀ item ∈ items, drop item = true → item.Unknown registry) (frame : Frame) :
    Matches (Device.Like part) Eq
      (Context.drawItems (host report invoke perform) name registry list target items frame)
      (Context.drawItems (host report invoke perform) name registry list target
        (items.filter (!drop ·)) frame) := by
  induction items generalizing frame with
  | nil => exact matches_pure rfl
  | cons item rest ih =>
    have rest_unknown := fun later mem => unknown later (List.mem_cons_of_mem item mem)
    cases dropped : drop item with
    | false =>
      rw [List.filter_cons_of_pos (by simp [dropped])]
      refine (drawItem_matches perform unreported confined name list target frame item).bind ?_
      rintro frame _ rfl
      exact ih rest_unknown frame
    | true =>
      rw [List.filter_cons_of_neg (by simp [dropped])]
      obtain ⟨level, text, passed⟩ :=
        drawItem_unknown perform (unknown item (.head _) dropped) name list target frame
      rw [Context.drawItems, passed, bind_assoc]
      exact note_matches_left unreported name level text (ih rest_unknown frame)

end Items

/-! ### Draws -/

/-- What two draws leave: the same status, and contexts that differ in the list kept at most. -/
def ButForList (last : Option DisplayList) (r r' : DrawStatus × Context (backend report) φ) :
    Prop :=
  r'.1 = r.1 ∧ r'.2 = r.2.remember last

section Draws

variable (unreported : ∀ record world, part (report record world) = part world)
  {c : Context (backend report) φ}
  (confined : ∀ id f, c.registry.functors.get? id = some f → Confined invoke part f)
  {list : DisplayList} {drop : DrawItem → Bool}
  (unknown : ∀ item ∈ list.items, drop item = true → item.Unknown c.registry)

include unreported confined unknown

theorem drawOnCanvas_matches (last last' : Option DisplayList) (canvas : Canvas)
    (viewport : Viewport) (damage : PixelBox) :
    Matches (Device.Like part) (ButForList last')
      (Context.drawOnCanvas (host report invoke perform) (c.remember last) canvas viewport damage
        list)
      (Context.drawOnCanvas (host report invoke perform) (c.remember last') canvas viewport damage
        (list.without drop)) := by
  refine (beginFrame_matches canvas damage).bind ?_
  rintro ⟨e | ⟨⟩ | frame, canvas⟩ _ rfl
  · exact (note_matches unreported _ _ _).bind fun _ _ _ => matches_pure ⟨rfl, rfl⟩
  · exact matches_pure ⟨rfl, rfl⟩
  · have kept (last : Option DisplayList) (items : List DrawItem) :=
      Context.drawItems_remember (host report invoke perform) c.name c.registry last list.id
        ⟨viewport, damage, c.stats.drawn⟩ items frame
    have items := drawItems_matches perform unreported confined drop c.name list.id
      ⟨viewport, damage, c.stats.drawn⟩ list.items unknown frame
    rw [← kept last, ← kept last'] at items
    refine Matches.bind items ?_
    rintro frame _ rfl
    refine (endFrame_matches unreported canvas frame).bind ?_
    rintro ⟨e | ⟨⟩, canvas⟩ _ rfl
    · exact (note_matches unreported _ _ _).bind fun _ _ _ => matches_pure ⟨rfl, rfl⟩
    · exact matches_pure ⟨rfl, rfl⟩

theorem drawFrame_matches (last last' : Option DisplayList) (damage : Damage) :
    Matches (Device.Like part) (ButForList last')
      (Context.drawFrame (host report invoke perform) (c.remember last) list damage)
      (Context.drawFrame (host report invoke perform) (c.remember last') (list.without drop)
        damage) := by
  obtain ⟨handle, name, canvas | canvas, registry, viewport, bound, redraw, stats⟩ := c
  · exact matches_pure ⟨rfl, rfl⟩
  cases bound with
  | false => exact (note_matches unreported _ _ _).bind fun _ _ _ => matches_pure ⟨rfl, rfl⟩
  | true =>
    cases viewport with
    | none => exact (note_matches unreported _ _ _).bind fun _ _ _ => matches_pure ⟨rfl, rfl⟩
    | some viewport =>
      refine matches_get.bind fun d d' like => ?_
      simp only [like.config, Context.remember_needsFullRedraw]
      split
      · exact matches_pure ⟨rfl, rfl⟩
      · exact drawOnCanvas_matches perform unreported confined unknown last last' canvas viewport _

/-- **A draw is what it is without the items that are passed over.** -/
theorem draw_without (damage : Damage) (d : Device ω) :
    Alike (Device.Like part) (ButForList (some (list.without drop)))
      ((c.draw (host report invoke perform) list damage).runOn d)
      ((c.draw (host report invoke perform) (list.without drop) damage).runOn d) := by
  rw [Context.draw_eq, Context.draw_eq, runOn_bind, runOn_bind]
  have layers := Context.applyLayerUpdates_layers (host report invoke perform) c d
  have inventory := Context.applyLayerUpdates_inventory (host report invoke perform) c d
  rcases applied : (c.applyLayerUpdates (host report invoke perform)).runOn d with ⟨fault | c₁, d₁⟩
  · exact .failed (.refl d₁)
  · obtain ⟨layers, same⟩ := layers c₁ d₁ applied
    have inventory := inventory c₁ d₁ applied
    have attached : ∀ id f, c₁.registry.functors.get? id = some f → Confined invoke part f := by
      rw [same]
      exact confined
    have passed : ∀ item ∈ list.items, drop item = true → item.Unknown c₁.registry := by
      intro item mem dropped
      have before := DrawItem.unknown_iff.1 (unknown item mem dropped)
      rw [DrawItem.unknown_iff, inventory]
      exact before
    have frames := drawFrame_matches perform unreported attached passed (some list)
      (some (list.without drop)) damage
    refine (frames.bind fun r r' leaves => matches_pure ?_) d₁ d₁ (.refl d₁)
    obtain ⟨status, c₂⟩ := r
    obtain ⟨status', c₂'⟩ := r'
    obtain ⟨rfl, rfl⟩ : status' = status ∧ c₂' = c₂.remember (some (list.without drop)) := leaves
    exact ⟨rfl, rfl⟩

end Draws

end Headless

end RenderRelay

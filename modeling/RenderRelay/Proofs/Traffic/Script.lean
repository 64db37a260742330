import RenderRelay.Proofs.Evolution
import RenderRelay.Proofs.Traffic.Record

/-!
Which calls a command makes. `Context.Carries` tells it for every command, in terms of what the
context has when the command comes and of what the backend answers. `CanvasState` is what the calls
so far tell of a canvas. That the engine makes these calls and no others is proved in `Engine`.
-/

namespace RenderRelay

open DeviceOp

variable {σ φ τ : Type} {B : Backend σ}

/-! ### Lists -/

/-- What the items of a list can refer to: callbacks that are attached, and layers with their
numbers and sizes. -/
structure Directory (φ : Type) where
  callback : FunctorId → Option φ
  layer : LayerHandle → Option (Nat × Viewport)

namespace Directory

def without (s : Directory φ) (handle : LayerHandle) : Directory φ :=
  { s with layer := fun other => if other = handle then none else s.layer other }

/-- The calls for one item of a list that is drawn into a frame. -/
def itemCalls (s : Directory φ) (list : ListId) (target : Target) (frame : Nat) (item : DrawItem) :
    List (BackendCall σ φ) :=
  match item.op with
  | .clear _ => [.drawOp frame item]
  | .fill _ _ => [.drawOp frame item]
  | .layer handle dst =>
    match s.layer handle with
    | none => []
    | some (layer, _) => [.drawLayer frame layer dst item.clip]
  | .functor id =>
    match s.callback id with
    | none => []
    | some callback =>
      [.flush frame, .invoke frame callback
        ⟨list, target.viewport, target.damage, item.clip, target.frameIndex⟩]

/-- The calls for the items of a list, in its order. -/
def listCalls (s : Directory φ) (list : ListId) (target : Target) (frame : Nat)
    (items : List DrawItem) : List (BackendCall σ φ) :=
  items.flatMap (s.itemCalls list target frame)

/-- The calls for a layer that is drawn anew as the frame of that index, the first of them the
`n`th. -/
inductive Redraws (s : Directory φ) (index n : Nat) :
    LayerHandle × DisplayList → List (BackendCall σ φ) → Prop
  | unknown {handle : LayerHandle} {list : DisplayList} (unknown : s.layer handle = none) :
    Redraws s index n (handle, list) []
  | refused {handle : LayerHandle} {list : DisplayList} {layer : Nat} {size : Viewport}
      (known : s.layer handle = some (layer, size)) :
    Redraws s index n (handle, list) [.beginLayerFrame layer false]
  | drawn {handle : LayerHandle} {list : DisplayList} {layer : Nat} {size : Viewport}
      (known : s.layer handle = some (layer, size)) :
    Redraws s index n (handle, list)
      (.beginLayerFrame layer true ::
        ((s.without handle).listCalls list.id ⟨size, .ofSize size.width size.height, index⟩ n
          list.items ++ [.endLayerFrame layer n]))

/-- The calls for layers that are drawn anew one after the other. -/
inductive RedrawsAll (s : Directory φ) (index : Nat) :
    Nat → List (LayerHandle × DisplayList) → List (BackendCall σ φ) → Prop
  | nil {n : Nat} : RedrawsAll s index n [] []
  | cons {n : Nat} {update : LayerHandle × DisplayList} {rest : List (LayerHandle × DisplayList)}
      {calls calls' : List (BackendCall σ φ)} (first : s.Redraws index n update calls)
      (others : RedrawsAll s index (n + calls.length) rest calls') :
    RedrawsAll s index n (update :: rest) (calls ++ calls')

/-- The calls for a list that is drawn to a canvas, the first of them the `n`th. -/
inductive Presents (s : Directory φ) (canvas : Nat) (list : DisplayList) (target : Target)
    (n : Nat) : List (BackendCall σ φ) → Prop
  | refused : Presents s canvas list target n [.beginFrame canvas target.damage false]
  | drawn (submitted : Bool) :
    Presents s canvas list target n
      (.beginFrame canvas target.damage true ::
        (s.listCalls list.id target n list.items ++ [.endFrame canvas n submitted]))

end Directory

def Registry.directory {Layer : Type} (r : Registry (Numbered Layer) φ) : Directory φ where
  callback := r.functors.get?
  layer handle := (r.layers.get? handle).map fun entry => (entry.layer.number, entry.size)

/-! ### Commands -/

namespace Context

variable (c : Context (B.recorded φ) φ) (n : Nat)

def Updates (calls : List (BackendCall σ φ)) : Prop :=
  c.registry.directory.RedrawsAll c.stats.drawn n c.registry.pending calls

/-- The calls for a frame. There are none just if there is nothing to draw to or to repaint. -/
inductive Frames (list : DisplayList) (damage : Damage) : List (BackendCall σ φ) → Prop
  | unbound (reason : c.canvas = none ∨ c.surfaceBound = false ∨ c.viewport = none) :
    Frames list damage []
  | outside {viewport : Viewport} {capabilities : Capabilities}
      (sized : c.viewport = some viewport)
      (clean : frameDamage capabilities c.needsFullRedraw viewport damage = none) :
    Frames list damage []
  | frame {canvas : Numbered B.Canvas} {viewport : Viewport} {box : PixelBox}
      {capabilities : Capabilities} {calls : List (BackendCall σ φ)}
      (there : c.canvas = some canvas) (bound : c.surfaceBound = true)
      (sized : c.viewport = some viewport)
      (repaints : frameDamage capabilities c.needsFullRedraw viewport damage = some box)
      (presents : c.registry.directory.Presents canvas.number list ⟨viewport, box, c.stats.drawn⟩ n
        calls) :
    Frames list damage calls

def Draws (list : DisplayList) (damage : Damage) (calls : List (BackendCall σ φ)) : Prop :=
  ∃ updates frame, c.Updates n updates ∧ c.Frames (n + updates.length) list damage frame ∧
    calls = updates ++ frame

def Binds (surface : Option σ) (calls : List (BackendCall σ φ)) : Prop :=
  match c.canvas, surface with
  | none, _ => calls = []
  | some canvas, none => calls = [.unbindSurface canvas.number]
  | some canvas, some surface =>
    ∃ bound, calls = [.bindSurface canvas.number surface c.viewport bound]

def Resizes (viewport : Viewport) (calls : List (BackendCall σ φ)) : Prop :=
  match c.canvas with
  | none => calls = []
  | some canvas => ∃ accepted, calls = [.resize canvas.number viewport accepted]

def releases : List (BackendCall σ φ) :=
  c.registry.layers.entries.map (fun e => .destroyLayer e.2.layer.number) ++
    c.canvas.toList.map fun canvas => .destroyCanvas canvas.number

/-- The calls for a command, the first of them the `n`th. -/
def Carries : Command σ φ → List (BackendCall σ φ) → Prop
  | .bindSurface surface, calls => c.Binds (some surface) calls
  | .updateSurface surface, calls => c.Binds surface calls
  | .setup viewport, calls => c.Resizes viewport calls
  | .draw list record, calls => c.Draws n list (.decode record) calls
  | .repeatLastDraw, calls =>
    match c.registry.lastDrawn with
    | none => calls = []
    | some list => c.Draws n list .whole calls
  | .destroy full, calls =>
    calls = c.canvas.toList.map (fun canvas => .unbindSurface canvas.number) ++
      if full then c.releases else []
  | .createLayer size, calls => calls = c.canvas.toList.map fun _ => .createLayer size
  | .flushLayerUpdates, calls => c.Updates n calls
  | .copyLayer layer, calls =>
    ∃ updates, c.Updates n updates ∧
      calls = updates ++ (c.registry.directory.layer layer).toList.map fun e => .copyLayer e.1
  | .destroyLayer layer, calls =>
    calls = (c.registry.directory.layer layer).toList.map fun e => .destroyLayer e.1
  | .flushCaches, calls => calls = c.canvas.toList.map fun canvas => .trimCaches canvas.number
  | .attachFunctor _, calls => calls = []
  | .detachFunctor _, calls => calls = []
  | .pushLayerUpdate _ _, calls => calls = []
  | .setName _, calls => calls = []
  | .dumpInfo, calls => calls = []
  | .fence, calls => calls = []

end Context

/-! ### Canvases -/

def BackendCall.canvas? : BackendCall σ φ → Option Nat
  | .bindSurface canvas _ _ _ => some canvas
  | .unbindSurface canvas => some canvas
  | .resize canvas _ _ => some canvas
  | .beginFrame canvas _ _ => some canvas
  | .endFrame canvas _ _ => some canvas
  | .trimCaches canvas => some canvas
  | .destroyCanvas canvas => some canvas
  | _ => none

def BackendCall.drawsInto? : BackendCall σ φ → Option Nat
  | .drawOp frame _ => some frame
  | .drawLayer frame _ _ _ => some frame
  | .flush frame => some frame
  | .invoke frame _ _ => some frame
  | _ => none

theorem BackendCall.canvas?_of_drawsInto? {call : BackendCall σ φ} {frame : Nat}
    (draws : call.drawsInto? = some frame) : call.canvas? = none := by
  cases call <;> simp_all [drawsInto?, canvas?]

/-- What decides about the next frame of a canvas. -/
structure CanvasState where
  bound : Bool
  size : Option Viewport
  stale : Bool

namespace CanvasState

def fresh : CanvasState := ⟨false, none, true⟩

def after (canvas : Nat) (s : CanvasState) : BackendCall σ φ → CanvasState
  | .bindSurface k _ _ bound =>
    if k = canvas then { s with bound, stale := s.stale || bound } else s
  | .unbindSurface k => if k = canvas then { s with bound := false } else s
  | .resize k size _ =>
    if k = canvas then { s with size := some size, stale := s.stale || s.size ≠ some size } else s
  | .endFrame k _ submitted => if k = canvas then { s with stale := s.stale && !submitted } else s
  | _ => s

def told (canvas : Nat) (log : List (BackendCall σ φ)) : CanvasState :=
  log.foldl (after canvas) fresh

theorem after_resize (canvas : Nat) (s : CanvasState) (size : Viewport) (accepted : Bool) :
    s.after canvas (.resize canvas size accepted : BackendCall σ φ) =
      { s with size := some size, stale := s.stale || !decide (s.size = some size) } := by
  simp [after]

theorem after_of_other {canvas : Nat} {s : CanvasState} {call : BackendCall σ φ}
    (other : call.canvas? ≠ some canvas) : s.after canvas call = s := by
  cases call <;> simp_all [BackendCall.canvas?, after]

theorem foldl_after_of_others {canvas : Nat} {s : CanvasState} {calls : List (BackendCall σ φ)}
    (others : ∀ call ∈ calls, call.canvas? ≠ some canvas) : calls.foldl (after canvas) s = s := by
  induction calls with
  | nil => rfl
  | cons call rest ih =>
    rw [List.foldl_cons, after_of_other (others call (by simp))]
    exact ih fun call mem => others call (List.mem_cons_of_mem _ mem)

end CanvasState

/-- The canvas of a context as the context has it. -/
def Context.canvasState (c : Context (B.recorded φ) φ) : CanvasState :=
  ⟨c.surfaceBound, c.viewport, c.needsFullRedraw⟩

/-- A context after a command's calls. They are about its own canvas alone, and the canvas, while it
is there, is as they tell. -/
structure Context.Follows (c : Context (B.recorded φ) φ) (calls : List (BackendCall σ φ))
    (c' : Context (B.recorded φ) φ) : Prop where
  own : ∀ call ∈ calls, ∀ k, call.canvas? = some k → ∃ canvas, c.canvas = some canvas ∧
    canvas.number = k
  state : ∀ canvas', c'.canvas = some canvas' → ∃ canvas, c.canvas = some canvas ∧
    canvas'.number = canvas.number ∧
    c'.canvasState = calls.foldl (CanvasState.after canvas.number) c.canvasState

namespace Context.Follows

variable {c c₁ c' : Context (B.recorded φ) φ} {calls calls' : List (BackendCall σ φ)}

/-- Calls that are about no canvas, and a context that has the same. -/
theorem of_same (off : ∀ call ∈ calls, call.canvas? = none) (canvas : c'.canvas = c.canvas)
    (state : c'.canvasState = c.canvasState) : c.Follows calls c' where
  own call mem k about := by simp [off call mem] at about
  state canvas' there := by
    refine ⟨canvas', canvas ▸ there, rfl, ?_⟩
    rw [CanvasState.foldl_after_of_others fun call mem => by simp [off call mem], state]

theorem refl (c : Context (B.recorded φ) φ) : c.Follows [] c := of_same (by simp) rfl rfl

theorem trans (first : c.Follows calls c₁) (second : c₁.Follows calls' c') :
    c.Follows (calls ++ calls') c' where
  own call mem k about := by
    rcases List.mem_append.1 mem with mem | mem
    · exact first.own call mem k about
    · obtain ⟨canvas₁, there₁, number₁⟩ := second.own call mem k about
      obtain ⟨canvas, there, number, -⟩ := first.state canvas₁ there₁
      exact ⟨canvas, there, number ▸ number₁⟩
  state canvas' there' := by
    obtain ⟨canvas₁, there₁, number', state'⟩ := second.state canvas' there'
    obtain ⟨canvas, there, number, state⟩ := first.state canvas₁ there₁
    refine ⟨canvas, there, number'.trans number, ?_⟩
    rw [List.foldl_append, ← state, ← number, state']

/-- Calls about the canvas of a context, after which it is as they tell. -/
theorem of_canvas {canvas canvas' : Numbered B.Canvas} (there : c.canvas = some canvas)
    (own : ∀ call ∈ calls, ∀ k, call.canvas? = some k → k = canvas.number)
    (there' : c'.canvas = some canvas') (number : canvas'.number = canvas.number)
    (state : c'.canvasState = calls.foldl (CanvasState.after canvas.number) c.canvasState) :
    c.Follows calls c' where
  own call mem k about := ⟨canvas, there, (own call mem k about).symm⟩
  state canvas'' there'' := by
    obtain rfl : canvas' = canvas'' := by simpa [there'] using there''
    exact ⟨canvas, there, number, state⟩

theorem of_call {canvas canvas' : Numbered B.Canvas} {call : BackendCall σ φ}
    (there : c.canvas = some canvas) (about : call.canvas? = some canvas.number)
    (there' : c'.canvas = some canvas') (number : canvas'.number = canvas.number)
    (state : c'.canvasState = c.canvasState.after canvas.number call) : c.Follows [call] c' := by
  refine .of_canvas there ?_ there' number state
  rintro _ (_ | ⟨_, ⟨⟩⟩) k own
  exact Option.some.inj (own.symm.trans about)

theorem of_gone (own : ∀ call ∈ calls, ∀ k, call.canvas? = some k → ∃ canvas,
    c.canvas = some canvas ∧ canvas.number = k) (gone : c'.canvas = none) : c.Follows calls c' where
  own := own
  state canvas' there := by simp [gone] at there

end Context.Follows

/-! ### Operations that make calls -/

namespace Recorded

variable {δ α β : Type} {n : Nat}

/-- Begun after `n` calls, the operation makes further ones; of them and of what it ends in, `P`
holds. -/
def Makes (n : Nat) (op : DeviceOp (Recorded σ φ δ) α) (P : α → List (BackendCall σ φ) → Prop) :
    Prop :=
  ∀ d, d.calls.length = n →
    op.Ensures d fun a d' => ∃ calls, d'.calls = d.calls ++ calls ∧ P a calls

variable {P : α → List (BackendCall σ φ) → Prop}

theorem makes_pure {a : α} (holds : P a []) : Makes n (pure a : DeviceOp (Recorded σ φ δ) α) P :=
  fun _ _ => ensures_pure.2 ⟨[], (List.append_nil _).symm, holds⟩

theorem Makes.mono {op : DeviceOp (Recorded σ φ δ) α} {Q : α → List (BackendCall σ φ) → Prop}
    (makes : Makes n op P) (weaker : ∀ a calls, P a calls → Q a calls) : Makes n op Q :=
  fun d length => (makes d length).mono fun a _ ⟨calls, added, holds⟩ =>
    ⟨calls, added, weaker a calls holds⟩

/-- **A sequence makes the calls of its parts, one after the other.** -/
theorem Makes.bind {op : DeviceOp (Recorded σ φ δ) α} {f : α → DeviceOp (Recorded σ φ δ) β}
    {Q : β → List (BackendCall σ φ) → Prop} (first : Makes n op P)
    (second : ∀ a calls, P a calls →
      Makes (n + calls.length) (f a) fun b calls' => Q b (calls ++ calls')) :
    Makes n (op >>= f) Q := by
  rintro d rfl
  refine ensures_bind.2 ((first d rfl).mono ?_)
  rintro a d₁ ⟨calls, added, holds⟩
  refine (second a calls holds d₁ (by simp [added])).mono ?_
  rintro b d₂ ⟨calls', added', holds'⟩
  exact ⟨calls ++ calls', by rw [added', added, List.append_assoc], holds'⟩

theorem Makes.bind_quiet {op : DeviceOp (Recorded σ φ δ) α}
    {f : α → DeviceOp (Recorded σ φ δ) β} {Q : β → List (BackendCall σ φ) → Prop}
    (first : Makes n op fun _ calls => calls = []) (second : ∀ a, Makes n (f a) Q) :
    Makes n (op >>= f) Q := by
  refine first.bind ?_
  rintro a _ rfl
  exact second a

theorem makes_calling {op : DeviceOp δ β} {call : β → BackendCall σ φ} {hand : Nat → β → α}
    (holds : ∀ a, P (hand n a) [call a]) : Makes n (calling op call hand) P := by
  rintro d rfl
  exact ensures_calling.2 (.of_forall fun a inner => ⟨_, rfl, holds a⟩)

theorem makes_get :
    Makes n (get : DeviceOp (Recorded σ φ δ) (Recorded σ φ δ)) fun _ calls => calls = [] :=
  fun _ _ => ensures_get.2 ⟨[], (List.append_nil _).symm, rfl⟩

/-- A callback is entered, and its frame stays the same one, however it ends. -/
theorem makes_invoke (H : Host B φ τ) (callback : φ) (frame : Numbered B.Frame)
    (info : FunctorInfo) :
    Makes n (liftM (H.recorded.invoke callback frame info) :
        DeviceOp (Recorded σ φ B.Device) (Numbered B.Frame × Completion)) fun r calls =>
      r.1.number = frame.number ∧ calls = [.invoke frame.number callback info] :=
  fun _ _ => ensures_lift.2 ⟨_, rfl, rfl, rfl⟩

theorem makes_hostNote (H : Host B φ τ) (level : Level) (reporter : Reporter) (text : String) :
    Makes n (H.recorded.note level reporter text) fun _ calls => calls = [] :=
  fun _ _ => H.recorded.ensures_note.2 ⟨[], (List.append_nil _).symm, rfl⟩

theorem makes_note (H : Host B φ τ) (name : String) (level : Level) (text : String) :
    Makes n (Context.note H.recorded name level text) fun _ calls => calls = [] :=
  makes_hostNote H level .context _

end Recorded

end RenderRelay

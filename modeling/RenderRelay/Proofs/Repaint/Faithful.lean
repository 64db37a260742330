import RenderRelay.Proofs.Evolution
import RenderRelay.Proofs.Exchange.Replies
import RenderRelay.Proofs.Repaint.History

/-!
No stale pixel is ever seen. A context is `Faithful` to its history when its fields and its canvas
agree with it and the buffer of a bound canvas, once a frame counts, shows the frames that count.
Every command keeps it so, and a command that draws a frame presents that buffer.
-/

namespace RenderRelay

namespace Headless

open DeviceOp

variable {ω φ τ : Type} {report : LogRecord → ω → ω}
  {invoke : φ → Frame → FunctorInfo → StateM ω (Frame × Completion)}
  {perform : τ → StateM ω Completion}

/-! ### The invariant -/

/-- The canvas agrees with the history, and the context knows whether it is bound. -/
structure Agrees (translucent : Bool) (h : History) (c : Context (backend report) φ)
    (canvas : Canvas) : Prop where
  translucent : canvas.translucent = translucent
  viewport : canvas.viewport = h.size
  surface : canvas.surface = h.surface
  bound : c.surfaceBound = h.surface.isSome

/-- **What holds of a context between any two commands.** -/
structure Faithful (config : Config) (translucent : Bool) (h : History)
    (c : Context (backend report) φ) (d : Device ω) : Prop where
  configured : d.config = config
  detached : ∀ id, c.registry.functors.get? id = none
  size : c.viewport = h.size
  last : c.registry.lastDrawn = h.last
  fresh : c.needsFullRedraw = h.frames.isEmpty
  agrees : ∀ canvas, c.canvas = some canvas → Agrees translucent h c canvas
  shows : ∀ canvas size, c.canvas = some canvas → h.surface.isSome = true → h.size = some size →
    h.frames ≠ [] → Shows canvas.back size (clearColor config translucent) h.frames

/-- What no command changes that is about resources, names or reports. For a context that is written
out, most of this is seen from the fields that are written. -/
structure Keeps (c : Context (backend report) φ) (d : Device ω) (c' : Context (backend report) φ)
    (d' : Device ω) : Prop where
  config : d'.config = d.config := by rfl
  canvas : c'.canvas = c.canvas := by rfl
  viewport : c'.viewport = c.viewport := by rfl
  surfaceBound : c'.surfaceBound = c.surfaceBound := by rfl
  needsFullRedraw : c'.needsFullRedraw = c.needsFullRedraw := by rfl
  last : c'.registry.lastDrawn = c.registry.lastDrawn := by rfl
  detached : ∀ id, c.registry.functors.get? id = none → c'.registry.functors.get? id = none := by
    exact fun _ detached => detached

namespace Keeps

variable {c c' c'' : Context (backend report) φ} {d d' d'' : Device ω}

theorem refl (c : Context (backend report) φ) (config : d'.config = d.config) : Keeps c d c d' where
  config := config

theorem trans (first : Keeps c d c' d') (second : Keeps c' d' c'' d'') : Keeps c d c'' d'' where
  config := second.config.trans first.config
  canvas := second.canvas.trans first.canvas
  viewport := second.viewport.trans first.viewport
  surfaceBound := second.surfaceBound.trans first.surfaceBound
  needsFullRedraw := second.needsFullRedraw.trans first.needsFullRedraw
  last := second.last.trans first.last
  detached id h := second.detached id (first.detached id h)

end Keeps

section Invariant

variable {config : Config} {translucent : Bool} {h : History} {c : Context (backend report) φ}
  {d d' : Device ω}

theorem Faithful.of_keeps {c' : Context (backend report) φ}
    (faithful : Faithful config translucent h c d) (keeps : Keeps c d c' d') :
    Faithful config translucent h c' d' where
  configured := keeps.config.trans faithful.configured
  detached id := keeps.detached id (faithful.detached id)
  size := keeps.viewport.trans faithful.size
  last := keeps.last.trans faithful.last
  fresh := keeps.needsFullRedraw.trans faithful.fresh
  agrees canvas there := by
    have agrees := faithful.agrees canvas (keeps.canvas ▸ there)
    exact ⟨agrees.translucent, agrees.viewport, agrees.surface,
      keeps.surfaceBound.trans agrees.bound⟩
  shows canvas size there := faithful.shows canvas size (keeps.canvas ▸ there)

theorem Faithful.remember (faithful : Faithful config translucent h c d)
    (last : Option DisplayList) :
    Faithful config translucent { h with last }
      { c with registry := { c.registry with lastDrawn := last } } d := by
  refine ⟨faithful.configured, faithful.detached, faithful.size, rfl, faithful.fresh, ?_,
    faithful.shows⟩
  intro canvas there
  have agrees := faithful.agrees canvas there
  exact ⟨agrees.translucent, agrees.viewport, agrees.surface, agrees.bound⟩

theorem Faithful.gone (faithful : Faithful config translucent h c d) (none : c.canvas = none)
    (surface : Option Surface) : Faithful config translucent { h with surface } c d := by
  refine ⟨faithful.configured, faithful.detached, faithful.size, faithful.last, faithful.fresh,
    ?_, ?_⟩
  · intro canvas there
    simp [none] at there
  · intro canvas size there
    simp [none] at there

theorem Faithful.unbound (faithful : Faithful config translucent h c d) {canvas : Option Canvas}
    (same : d'.config = d.config)
    (agrees : ∀ found, canvas = some found →
      found.translucent = translucent ∧ found.viewport = c.viewport ∧ found.surface = none) :
    Faithful config translucent { h with surface := none }
      { c with canvas, surfaceBound := false } d' := by
  refine ⟨same.trans faithful.configured, faithful.detached, faithful.size, faithful.last,
    faithful.fresh, ?_, ?_⟩
  · intro found there
    obtain ⟨kind, viewport, surface⟩ := agrees found there
    exact ⟨kind, viewport.trans faithful.size, surface, rfl⟩
  · intro found size there bound
    simp at bound

theorem Faithful.unbind (faithful : Faithful config translucent h c d) {canvas : Canvas}
    (there : c.canvas = some canvas) (same : d'.config = d.config) :
    Faithful config translucent { h with surface := none }
      { c with canvas := some { canvas with surface := none }, surfaceBound := false } d' := by
  refine faithful.unbound same ?_
  rintro found ⟨rfl⟩
  have agrees := faithful.agrees canvas there
  exact ⟨agrees.translucent, agrees.viewport.trans faithful.size.symm, rfl⟩

/-! ### Bindings and sizes -/

/-- A binding that succeeds leaves no frame that counts, and everything is to be repainted. -/
theorem Faithful.bound (faithful : Faithful config translucent h c d) {canvas : Canvas}
    (there : c.canvas = some canvas) (same : d'.config = d.config) (surface : Surface) :
    Faithful config translucent (h.bind surface (.ok ()))
      { c with
        canvas := some { canvas.cleared with surface := some surface }
        surfaceBound := true
        needsFullRedraw := true } d' := by
  refine ⟨same.trans faithful.configured, faithful.detached, faithful.size, faithful.last, rfl,
    ?_, ?_⟩
  · rintro found ⟨rfl⟩
    have agrees := faithful.agrees canvas there
    exact ⟨agrees.translucent, agrees.viewport, rfl, rfl⟩
  · intro found size there' bound sized some
    exact absurd rfl some

theorem bind_faithful (faithful : Faithful config translucent h c d) (surface : Surface) :
    (c.bind (host report invoke perform) (some surface)).Ensures d fun r d' =>
      Faithful config translucent (h.bind surface r.1) r.2 d' := by
  unfold Context.bind
  cases there : c.canvas with
  | none => exact ensures_pure.2 (faithful.gone there _)
  | some canvas =>
    refine ensures_bind.2 (ensures_bindSurface (fun e d₁ same => ?_) fun d₁ same => ?_)
    · refine ensures_note_bind fun world => ensures_pure.2 (Faithful.unbound faithful same ?_)
      rintro found ⟨rfl⟩
      have agrees := faithful.agrees canvas there
      exact ⟨agrees.translucent, agrees.viewport.trans faithful.size.symm, rfl⟩
    · exact ensures_pure.2 (faithful.bound there same surface)

theorem unbind_faithful (faithful : Faithful config translucent h c d) :
    (c.bind (host report invoke perform) none).Ensures d fun r d' =>
      Faithful config translucent { h with surface := none } r.2 d' := by
  unfold Context.bind
  cases there : c.canvas with
  | none => exact ensures_pure.2 (faithful.gone there _)
  | some canvas =>
    refine ensures_bind.2 (ensures_unbindSurface fun d₁ same => ensures_pure.2 ?_)
    exact faithful.unbind there same

/-- Another size leaves no frame that counts, and the size that is set leaves them all. -/
theorem Faithful.sized (faithful : Faithful config translucent h c d) {viewport : Viewport}
    {canvas : Option Canvas} (same : d'.config = d.config)
    (held : canvas = c.canvas.map (·.sized viewport)) :
    Faithful config translucent (h.resize viewport)
      { c with
        canvas
        viewport := some viewport
        needsFullRedraw := c.needsFullRedraw || c.viewport ≠ some viewport } d' := by
  refine ⟨same.trans faithful.configured, faithful.detached, rfl, faithful.last, ?_, ?_, ?_⟩
  · simp only [History.resize, faithful.fresh, faithful.size]
    by_cases unchanged : h.size = some viewport <;> simp [unchanged]
  · intro found there
    obtain ⟨before, there', rfl⟩ := Option.map_eq_some_iff.1 (held.symm.trans there)
    have agrees := faithful.agrees before there'
    exact ⟨agrees.translucent, rfl, agrees.surface, agrees.bound⟩
  · intro found size there bound sized some
    obtain ⟨before, there', rfl⟩ := Option.map_eq_some_iff.1 (held.symm.trans there)
    obtain rfl : viewport = size := Option.some.inj sized
    simp only [History.resize] at some ⊢
    split at some
    case isTrue unchanged =>
      rw [if_pos unchanged]
      exact faithful.shows before viewport there' bound unchanged some
    case isFalse => exact absurd rfl some

/-- Also a size that the backend has no buffers for is taken. -/
theorem resize_faithful (faithful : Faithful config translucent h c d) (viewport : Viewport) :
    (c.resize (host report invoke perform) viewport).Ensures d fun r d' =>
      Faithful config translucent (h.resize viewport) r.2 d' := by
  unfold Context.resize
  cases there : c.canvas with
  | none =>
    refine ensures_pure.2 (faithful.sized rfl ?_)
    simp [there]
  | some canvas =>
    refine ensures_bind.2 (ensures_resize fun r => ?_)
    rcases r with e | ⟨⟩
    · refine ensures_note_bind fun world => ensures_pure.2 (faithful.sized rfl ?_)
      simp [there]
    · refine ensures_pure.2 (faithful.sized rfl ?_)
      simp [there]

/-! ### Layer updates -/

theorem redrawLayer_keeps (c : Context (backend report) φ) (d : Device ω)
    (detached : ∀ id, c.registry.functors.get? id = none) (handle : LayerHandle)
    (list : DisplayList) :
    (c.redrawLayer (host report invoke perform) handle list).Ensures d (Keeps c d) := by
  unfold Context.redrawLayer
  cases c.registry.layers.get? handle with
  | none => exact ensures_pure.2 (.refl c rfl)
  | some entry =>
    have detached' : ∀ id, (c.registry.takeLayer handle).functors.get? id = none := detached
    refine ensures_bind.2 (ensures_pure.2 ?_)
    refine ensures_bind.2 (Ensures.mono
      (drawItems_shades (fun _ _ id _ => detached' id) _ _ _ _ _) ?_)
    rintro f d₁ ⟨-, config⟩
    refine ensures_bind.2 (ensures_pure.2 (ensures_pure.2 ?_))
    exact { config }

theorem redrawLayers_keeps (c : Context (backend report) φ) (d : Device ω)
    (detached : ∀ id, c.registry.functors.get? id = none)
    (updates : List (LayerHandle × DisplayList)) :
    (Context.redrawLayers (host report invoke perform) updates c).Ensures d (Keeps c d) := by
  induction updates generalizing c d with
  | nil => exact ensures_pure.2 (.refl c rfl)
  | cons update rest ih =>
    refine ensures_bind.2 ((redrawLayer_keeps c d detached update.1 update.2).mono ?_)
    intro c₁ d₁ first
    refine (ih c₁ d₁ fun id => first.detached id (detached id)).mono ?_
    intro c₂ d₂ second
    exact first.trans second

theorem applyLayerUpdates_keeps (c : Context (backend report) φ) (d : Device ω)
    (detached : ∀ id, c.registry.functors.get? id = none) :
    (c.applyLayerUpdates (host report invoke perform)).Ensures d (Keeps c d) := by
  unfold Context.applyLayerUpdates
  have taken : Keeps c d { c with registry := { c.registry with pending := [] } } d := {}
  refine (redrawLayers_keeps _ d (fun id => taken.detached id (detached id)) _).mono ?_
  intro c' d' keeps
  exact taken.trans keeps

/-! ### Draws -/

theorem Faithful.painted (faithful : Faithful config translucent h c d) {canvas : Canvas}
    {surface : Surface} {size : Viewport} {damage : Damage} {record : FrameRecord} {back : Bitmap}
    (same : d'.config = d.config) (there : c.canvas = some canvas)
    (own : canvas.surface = some surface) (sized : c.viewport = some size)
    (reached : Context.frameDamage config.capabilities c.needsFullRedraw size damage =
      some record.damage)
    (painted : Painted canvas.back size (clearColor config translucent) record back) :
    Faithful config translucent { h with frames := record :: h.frames }
        { c with
          canvas := some { canvas with surface := some surface, back }
          needsFullRedraw := false } d' ∧
      Shows back size (clearColor config translucent) (record :: h.frames) := by
  have agrees := faithful.agrees canvas there
  have bound : h.surface = some surface := agrees.surface.symm.trans own
  -- either nothing of the buffer is kept, or it showed the frames before this one
  have held : (∀ x y, x < size.width → y < size.height → record.damage.contains x y = true) ∨
      Shows canvas.back size (clearColor config translucent) h.frames := by
    by_cases first : h.frames = []
    · have everything : c.needsFullRedraw = true := by simp [faithful.fresh, first]
      rw [everything] at reached
      exact .inl fun x y hx hy => frameDamage_full reached hx hy
    · refine .inr (faithful.shows canvas size there ?_ ?_ first)
      · simp [bound]
      · exact faithful.size.symm.trans sized
  have shows := painted.shows held
  refine ⟨⟨same.trans faithful.configured, faithful.detached, faithful.size, faithful.last, rfl,
    ?_, ?_⟩, shows⟩
  · rintro found ⟨rfl⟩
    exact ⟨agrees.translucent, agrees.viewport, bound.symm, agrees.bound⟩
  · rintro found size' ⟨rfl⟩ bound' sized' some
    obtain rfl : size = size' :=
      Option.some.inj (sized.symm.trans (faithful.size.trans sized'))
    exact shows

/-- What a draw leaves: the context as it has to be, and after a frame the surface. -/
structure Drawn (config : Config) (translucent : Bool) (h : History) (g : Gallery)
    (list : DisplayList) (damage : Damage) (status : DrawStatus) (c' : Context (backend report) φ)
    (d' : Device ω) : Prop where
  faithful : Faithful config translucent
    (h.draw config.capabilities (layerPixels c'.registry) list damage status) c' d'
  onSurface : status = .drawn →
    (h.draw config.capabilities (layerPixels c'.registry) list damage status).OnSurface
      (clearColor config translucent) g d'.gallery

theorem drawFrame_drawn (list : DisplayList) (damage : Damage)
    (faithful : Faithful config translucent { h with last := some list } c d) :
    (c.drawFrame (host report invoke perform) list damage).Ensures d fun r d' =>
      Drawn config translucent h d.gallery list damage r.1 r.2 d' := by
  have skipped {d' : Device ω} (same : d'.config = d.config) :
      Drawn config translucent h d.gallery list damage .skipped c d' := by
    refine ⟨faithful.of_keeps (.refl c same), ?_⟩
    rintro ⟨⟩
  refine Context.ensures_drawFrame (skipped rfl) (fun _ => skipped rfl) ?_
  intro canvas size box there _ sized reached
  have agrees := faithful.agrees canvas there
  have size_eq : h.size = some size := faithful.size.symm.trans sized
  refine ensures_drawOnCanvas faithful.detached (agrees.viewport.trans size_eq) ?_ ?_
  · intro d' same
    refine ⟨faithful.of_keeps ?_, ?_⟩
    · exact { config := same, canvas := there.symm }
    · rintro ⟨⟩
  · intro surface back d' same own painted gallery
    rw [faithful.configured, agrees.translucent] at painted
    change Context.frameDamage d.config.capabilities _ _ _ = _ at reached
    rw [faithful.configured] at reached
    obtain ⟨after, shows⟩ := faithful.painted same there own sized reached painted
    rw [faithful.fresh] at reached
    have history := History.draw_drawn (layerPixels c.registry) list size_eq reached
    have presented : Presented surface back d.gallery d'.gallery :=
      gallery ▸ presented_present surface back d.gallery
    refine ⟨?_, fun _ => ⟨surface, size, back, ?_, ?_, ?_, presented⟩⟩
    all_goals simp only [history]
    · exact after
    · exact agrees.surface.symm.trans own
    · exact size_eq
    · exact shows

/-- The waiting updates come before the frame and leave alone what it depends on. -/
theorem draw_drawn (faithful : Faithful config translucent h c d) (list : DisplayList)
    (damage : Damage) :
    (c.draw (host report invoke perform) list damage).Ensures d fun r d' =>
      Drawn config translucent h d.gallery list damage r.1 r.2 d' := by
  unfold Context.draw
  have remembered := faithful.remember (some list)
  refine ensures_bind.2 fun c₁ d₁ applied => ?_
  have keeps := applyLayerUpdates_keeps _ d remembered.detached _ _ applied
  have gallery : d₁.gallery = d.gallery :=
    congrArg Prod.snd ((applyLayerUpdates_shown _).of_run applied)
  rw [← gallery]
  refine ensures_bind.2 ((drawFrame_drawn list damage (remembered.of_keeps keeps)).mono ?_)
  rintro ⟨status, c₂⟩ d₂ drawn
  exact ensures_pure.2 ⟨drawn.faithful.of_keeps {}, drawn.onSurface⟩

/-! ### Resources -/

theorem ensures_destroyLayers (layers : List (LayerHandle × LayerEntry Layer))
    {Q : Unit → Device ω → Prop} (after : Q () d) :
    (Context.destroyLayers (B := backend report) layers).Ensures d Q := by
  induction layers with
  | nil => exact ensures_pure.2 after
  | cons layer rest ih => exact ensures_bind.2 (ensures_pure.2 ih)

theorem releaseAll_faithful (faithful : Faithful config translucent h c d) :
    (c.releaseAll).Ensures d fun c' d' =>
      Faithful config translucent { h with last := none } c' d' := by
  unfold Context.releaseAll
  refine ensures_bind.2 (ensures_destroyLayers _ ?_)
  have emptied : Faithful config translucent { h with last := none }
      { c with registry := (.empty : Registry Layer φ) } d := by
    exact (faithful.remember none).of_keeps { detached := fun _ _ => rfl }
  split
  case h_1 => exact ensures_pure.2 emptied
  case h_2 canvas there =>
    refine ensures_bind.2 (ensures_destroyCanvas fun d₁ same => ensures_pure.2 ?_)
    refine ⟨same.trans faithful.configured, fun id => rfl, faithful.size, rfl, faithful.fresh,
      ?_, ?_⟩
    · rintro found ⟨⟩
    · rintro found size ⟨⟩

theorem destroy_faithful (faithful : Faithful config translucent h c d) (full : Bool) :
    (c.destroy (host report invoke perform) full).Ensures d fun c' d' => Faithful config translucent
      { h with surface := none, last := if full then none else h.last } c' d' := by
  have rest (c₁ : Context (backend report) φ) (d₁ : Device ω)
      (faithful₁ : Faithful config translucent { h with surface := none } c₁ d₁) :
      Ensures (do
        if full then
          let c ← c₁.releaseAll
          Context.note (host report invoke perform) c.name .debug "destroyed with all resources"
          return c
        else
          Context.note (host report invoke perform) c₁.name .debug "surface released"
          return c₁) d₁ fun c' d' => Faithful config translucent
        { h with surface := none, last := if full then none else h.last } c' d' := by
    cases full with
    | true =>
      refine ensures_bind.2 ((releaseAll_faithful faithful₁).mono fun c₂ d₂ faithful₂ => ?_)
      exact ensures_note_bind fun world => ensures_pure.2 (faithful₂.of_keeps (.refl c₂ rfl))
    | false =>
      exact ensures_note_bind fun world => ensures_pure.2 (faithful₁.of_keeps (.refl c₁ rfl))
  unfold Context.destroy
  cases there : c.canvas with
  | none =>
    refine ensures_bind.2 (ensures_pure.2 (rest _ d (faithful.unbound rfl ?_)))
    rintro found ⟨⟩
  | some canvas =>
    refine ensures_bind.2 (ensures_unbindSurface fun d₁ same => ?_)
    exact ensures_bind.2 (ensures_pure.2 (rest _ d₁ (faithful.unbind there same)))

theorem createLayer_keeps (fresh : LayerHandle) (size : Viewport) :
    (c.createLayer (host report invoke perform) fresh size).Ensures d fun r d' =>
      Keeps c d r.2 d' := by
  unfold Context.createLayer
  cases there : c.canvas with
  | none => exact ensures_pure.2 (.refl c rfl)
  | some canvas =>
    refine ensures_bind.2 (ensures_createLayer fun r => ?_)
    rcases r with e | layer
    · exact ensures_pure.2 (.refl c rfl)
    · refine ensures_note_bind fun world => ensures_pure.2 ?_
      exact { canvas := there.symm }

theorem ensures_copyLayer {layer : Layer} {Q : Except RenderError Bitmap → Device ω → Prop}
    (after : ∀ r, Q r d) : (copyLayer layer).Ensures d Q := by
  unfold copyLayer
  refine ensures_bind.2 (ensures_get.2 ?_)
  split <;> exact ensures_pure.2 (after _)

theorem Faithful.trimmed (faithful : Faithful config translucent h c d) {canvas : Canvas}
    (there : c.canvas = some canvas) :
    Faithful config translucent h { c with canvas := some (trimCaches canvas) } d := by
  have agrees := faithful.agrees canvas there
  cases bound : canvas.surface with
  | none =>
    have dropped : trimCaches canvas = { canvas with back := .empty } := by
      simp [trimCaches, bound]
    have unbound : h.surface = none := agrees.surface.symm.trans bound
    refine ⟨faithful.configured, faithful.detached, faithful.size, faithful.last, faithful.fresh,
      ?_, ?_⟩
    · rintro found ⟨rfl⟩
      rw [dropped]
      exact ⟨agrees.translucent, agrees.viewport, agrees.surface, agrees.bound⟩
    · intro found size there' bound'
      simp [unbound] at bound'
  | some surface =>
    have kept : trimCaches canvas = canvas := by simp [trimCaches, bound]
    rw [kept]
    exact faithful.of_keeps { canvas := there.symm }

/-! ### Every command -/

/-- What a command leaves: the context as it has to be, and after a frame the surface. -/
structure Obeyed (config : Config) (translucent : Bool) (h : History) (g : Gallery)
    (command : Command Surface φ) (reply : Option Reply) (c' : Context (backend report) φ)
    (d' : Device ω) : Prop where
  faithful : Faithful config translucent
    (h.after config.capabilities (layerPixels c'.registry) command reply) c' d'
  onSurface : reply = some (.drawn .drawn) →
    (h.after config.capabilities (layerPixels c'.registry) command reply).OnSurface
      (clearColor config translucent) g d'.gallery

theorem Obeyed.of_faithful {g : Gallery} {command : Command Surface φ} {reply : Option Reply}
    {c' : Context (backend report) φ} (undrawn : reply ≠ some (.drawn .drawn))
    (faithful : Faithful config translucent
      (h.after config.capabilities (layerPixels c'.registry) command reply) c' d') :
    Obeyed config translucent h g command reply c' d' :=
  ⟨faithful, fun drawn => absurd drawn undrawn⟩

theorem Obeyed.of_keeps {g : Gallery} {command : Command Surface φ} {reply : Option Reply}
    {c' : Context (backend report) φ} (faithful : Faithful config translucent h c d)
    (keeps : Keeps c d c' d') (undrawn : reply ≠ some (.drawn .drawn))
    (same : h.after config.capabilities (layerPixels c'.registry) command reply = h) :
    Obeyed config translucent h g command reply c' d' := by
  refine .of_faithful undrawn ?_
  rw [same]
  exact faithful.of_keeps keeps

theorem Drawn.obeyed {g : Gallery} {command : Command Surface φ} {list : DisplayList} {damage : Damage}
    {status : DrawStatus} {c' : Context (backend report) φ}
    (drawn : Drawn config translucent h g list damage status c' d')
    (same : h.after config.capabilities (layerPixels c'.registry) command (some (.drawn status)) =
      h.draw config.capabilities (layerPixels c'.registry) list damage status) :
    Obeyed config translucent h g command (some (.drawn status)) c' d' := by
  refine ⟨?_, ?_⟩
  · rw [same]
    exact drawn.faithful
  · rintro ⟨⟩
    rw [same]
    exact drawn.onSurface rfl

/-- **Every command keeps a context faithful to its history.** -/
theorem execute_obeyed (faithful : Faithful config translucent h c d) (fresh : LayerHandle)
    (command : Command Surface φ) (plain : ∀ functor, command ≠ .attachFunctor functor) :
    (c.execute (host report invoke perform) fresh command).Ensures d fun r d' =>
      Obeyed config translucent h d.gallery command r.1 r.2 d' := by
  cases command with
  | bindSurface surface =>
    refine ensures_bind.2 ((bind_faithful faithful surface).mono ?_)
    intro r d₁ bound
    exact ensures_pure.2 (.of_faithful (by simp) bound)
  | updateSurface surface =>
    cases surface with
    | none =>
      refine ensures_bind.2 ((unbind_faithful faithful).mono ?_)
      intro r d₁ unbound
      exact ensures_pure.2 (.of_faithful (by simp) unbound)
    | some surface =>
      refine ensures_bind.2 ((bind_faithful faithful surface).mono ?_)
      intro r d₁ bound
      exact ensures_pure.2 (.of_faithful (by simp) bound)
  | setup viewport =>
    refine ensures_bind.2 ((resize_faithful faithful viewport).mono ?_)
    intro r d₁ resized
    exact ensures_pure.2 (.of_faithful (by simp) resized)
  | draw list record =>
    refine ensures_bind.2 ((draw_drawn faithful list (.decode record)).mono ?_)
    intro r d₁ drawn
    exact ensures_pure.2 (drawn.obeyed rfl)
  | repeatLastDraw =>
    simp only [Context.execute]
    have last := faithful.last
    cases there : c.registry.lastDrawn with
    | none =>
      rw [there] at last
      refine ensures_note_bind fun world => ensures_pure.2 (.of_keeps faithful {} (by simp) ?_)
      simp only [History.after, ← last]
    | some list =>
      rw [there] at last
      refine ensures_bind.2 ((draw_drawn faithful list .whole).mono ?_)
      intro r d₁ drawn
      refine ensures_pure.2 (drawn.obeyed ?_)
      simp only [History.after, ← last]
  | destroy full =>
    refine ensures_bind.2 ((destroy_faithful faithful full).mono ?_)
    intro c₁ d₁ destroyed
    exact ensures_pure.2 (.of_faithful (by simp) destroyed)
  | attachFunctor functor => exact absurd rfl (plain functor)
  | detachFunctor id =>
    simp only [Context.execute]
    split
    case h_1 registry found =>
      obtain rfl := Registry.eq_of_detach? found
      refine ensures_pure.2 (.of_keeps faithful { detached := ?_ } (by simp) rfl)
      intro other detached
      simp only [Table.get?_erase, detached, ite_self]
    case h_2 =>
      refine ensures_note_bind fun world => ensures_pure.2 ?_
      exact .of_keeps faithful (.refl c rfl) (by simp) rfl
  | createLayer size =>
    refine ensures_bind.2 ((createLayer_keeps fresh size).mono ?_)
    intro r d₁ keeps
    exact ensures_pure.2 (.of_keeps faithful keeps (by simp) rfl)
  | pushLayerUpdate layer list =>
    simp only [Context.execute]
    split
    case h_1 registry queued =>
      obtain rfl := Registry.eq_of_queueUpdate? queued
      exact ensures_pure.2 (.of_keeps faithful {} (by simp) rfl)
    case h_2 =>
      refine ensures_note_bind fun world => ensures_pure.2 ?_
      exact .of_keeps faithful (.refl c rfl) (by simp) rfl
  | flushLayerUpdates =>
    refine ensures_bind.2 ((applyLayerUpdates_keeps c d faithful.detached).mono ?_)
    intro c₁ d₁ keeps
    exact ensures_pure.2 (.of_keeps faithful keeps (by simp) rfl)
  | copyLayer layer =>
    refine ensures_bind.2 ((applyLayerUpdates_keeps c d faithful.detached).mono ?_)
    intro c₁ d₁ keeps
    cases c₁.registry.layers.get? layer with
    | none => exact ensures_pure.2 (.of_keeps faithful keeps (by simp) rfl)
    | some entry =>
      refine ensures_bind.2 (ensures_copyLayer fun pixels => ensures_pure.2 ?_)
      exact .of_keeps faithful keeps (by simp) rfl
  | destroyLayer layer =>
    simp only [Context.execute]
    cases c.registry.layers.get? layer with
    | none =>
      refine ensures_note_bind fun world => ensures_pure.2 ?_
      exact .of_keeps faithful (.refl c rfl) (by simp) rfl
    | some entry =>
      refine ensures_bind.2 (ensures_pure.2 (ensures_pure.2 ?_))
      exact .of_keeps faithful {} (by simp) rfl
  | flushCaches =>
    have forgot := faithful.remember none
    simp only [Context.execute]
    split
    case h_1 => exact ensures_pure.2 (.of_faithful (by simp) forgot)
    case h_2 canvas there =>
      refine ensures_bind.2 (ensures_pure.2 (ensures_pure.2 ?_))
      exact .of_faithful (by simp) (forgot.trimmed there)
  | setName name =>
    refine ensures_note_bind fun world => ensures_pure.2 ?_
    exact .of_keeps faithful {} (by simp) rfl
  | dumpInfo =>
    refine ensures_bind.2 (ensures_get.2 (ensures_pure.2 ?_))
    exact .of_keeps faithful (.refl c rfl) (by simp) rfl
  | fence => exact ensures_pure.2 (.of_keeps faithful (.refl c rfl) (by simp) rfl)

theorem dispatch_obeyed (faithful : Faithful config translucent h c d) (fresh : LayerHandle)
    (command : Command Surface φ) (plain : ∀ functor, command ≠ .attachFunctor functor) :
    (c.dispatch (host report invoke perform) fresh command).Ensures d fun r d' =>
      Obeyed config translucent h d.gallery command r.1 r.2 d' := by
  refine ensures_note_bind fun world => ?_
  have told : Faithful config translucent h c { d with outside := world } :=
    faithful.of_keeps (.refl c rfl)
  exact execute_obeyed told fresh command plain

/-! ### Whole histories -/

theorem ensures_createCanvas {Q : Except RenderError Canvas → Device ω → Prop}
    (refused : ∀ e, Q (.error e) d)
    (made : ∀ d', d'.config = d.config → Q (.ok ⟨translucent, none, none, .empty⟩) d') :
    (createCanvas report translucent).Ensures d Q := by
  unfold createCanvas
  refine ensures_bind.2 (ensures_get.2 ?_)
  split
  · exact ensures_pure.2 (refused _)
  · refine ensures_bind.2 (ensures_set.2 ?_)
    exact ensures_backendNote_bind fun world => ensures_pure.2 (made _ rfl)

theorem Faithful.ofCanvas (handle : ProxyHandle) {canvas : Canvas} (configured : d.config = config)
    (run : (createCanvas report translucent).runOn d = (.ok (.ok canvas), d')) :
    Faithful config translucent .start
      (Context.ofCanvas (B := backend report) (φ := φ) handle canvas) d' := by
  have made : canvas = ⟨translucent, none, none, .empty⟩ ∧ d'.config = d.config :=
    ensures_createCanvas
      (Q := fun r d' => ∀ canvas, r = .ok canvas →
        canvas = ⟨translucent, none, none, .empty⟩ ∧ d'.config = d.config)
      (by simp) (fun d' same => by simpa using same) _ _ run canvas rfl
  obtain ⟨rfl, same⟩ := made
  refine ⟨same.trans configured, fun id => rfl, rfl, rfl, rfl, ?_, ?_⟩
  · rintro found ⟨rfl⟩
    exact ⟨rfl, rfl, rfl, rfl⟩
  · intro found size there bound
    simp [History.start] at bound

/-- **A context is faithful to whatever was done to it.** -/
theorem Lived.faithful (lived : Lived (host report invoke perform) config translucent h c d) :
    Faithful config translucent h c d := by
  induction lived with
  | made configured run => exact .ofCanvas _ configured run
  | elsewhere lived configured ih =>
    exact ih.of_keeps (.refl _ (configured.trans ih.configured.symm))
  | obeyed lived fresh command plain run ih =>
    exact (dispatch_obeyed ih fresh command plain _ _ run).faithful

/-- **No stale pixel is presented.** Whatever was done to a context before, and whether or not
frames may be drawn in part, a command that is answered with a drawn frame has presented one of just
the size that is set to the surface that is bound. Every pixel of it was repainted since the last
binding and the last change of size, and it is what the last frame that repainted it makes of the
clear colour. It is shown, unless the owner is reading just then: what the surface shows stays then,
and the frame is counted as dropped. -/
theorem drawn_frame_shows {c' : Context (backend report) φ} {fresh : LayerHandle}
    {command : Command Surface φ}
    (lived : Lived (host report invoke perform) config translucent h c d)
    (run : (c.dispatch (host report invoke perform) fresh command).runOn d =
      (.ok (some (.drawn .drawn), c'), d')) :
    (h.after config.capabilities (layerPixels c'.registry) command
      (some (.drawn .drawn))).OnSurface (clearColor config translucent) d.gallery d'.gallery := by
  have plain : ∀ functor, command ≠ .attachFunctor functor := by
    rintro functor rfl
    have kind := Context.dispatch_replyKind _ _ _ _ _ _ _ run
    simp [Command.replyKind] at kind
  exact (dispatch_obeyed lived.faithful fresh command plain _ _ run).onSurface rfl

end Invariant

/-- A context with a window of two pixels, in which nothing was drawn. -/
def twoPixels : Context (backend fun _ (_ : Unit) => ()) Unit :=
  let canvas : Canvas := ⟨false, some ⟨1, "window", false⟩, some ⟨2, 1⟩, .empty⟩
  { Context.ofCanvas (B := backend fun _ (_ : Unit) => ()) ⟨1⟩ canvas with
    viewport := some ⟨2, 1⟩
    surfaceBound := true }

theorem lived_twoPixels (d : Device Unit) (configured : d.config = .standard) :
    Lived idleHost .standard false ⟨some ⟨1, "window", false⟩, some ⟨2, 1⟩, none, []⟩ twoPixels
      d := by
  have made : Lived idleHost .standard false .start (.ofCanvas ⟨1⟩ ⟨false, none, none, .empty⟩)
      ⟨.standard, 1, .empty, ()⟩ := .made (d := .start .standard ()) rfl rfl
  have bound := made.obeyed ⟨1⟩ (.bindSurface ⟨1, "window", false⟩) (by simp) rfl
  exact (bound.obeyed ⟨1⟩ (.setup ⟨2, 1⟩) (by simp) rfl).elsewhere configured

/-- The first frame repaints both pixels, though it was asked for one. -/
theorem drawn_frame_shows_two_pixels :
    let h : History := ⟨some ⟨1, "window", false⟩, some ⟨2, 1⟩, none, []⟩
    let command : Command Surface Unit := .draw ⟨⟨1⟩, [⟨.clear .black, none⟩]⟩ ⟨0, 0, 1, 1⟩
    ∃ c d, (twoPixels.dispatch idleHost ⟨1⟩ command).runOn ⟨.standard, 1, .empty, ()⟩ =
        (.ok (some (.drawn .drawn), c), d) ∧
      (h.after .all (layerPixels c.registry) command (some (.drawn .drawn))).OnSurface
        (clearColor .standard false) .empty d.gallery := by
  intro h command
  have ready := lived_twoPixels ⟨.standard, 1, .empty, ()⟩ rfl
  obtain ⟨c, d, run⟩ : ∃ c d, (twoPixels.dispatch idleHost ⟨1⟩ command).runOn
      ⟨.standard, 1, .empty, ()⟩ = (.ok (some (.drawn .drawn), c), d) := ⟨_, _, rfl⟩
  exact ⟨c, d, run, drawn_frame_shows ready run⟩

/-- What becomes of draws among some commands, and after each command the size of the frame that is
shown. -/
def sizesShown (surface : Surface) : List (Command Surface Unit) →
    Context (backend fun _ (_ : Unit) => ()) Unit → Device Unit →
      List (Option DrawStatus × Option (Nat × Nat))
  | [], _, _ => []
  | command :: rest, c, d =>
    match (c.dispatch idleHost ⟨1⟩ command).runOn d with
    | (.error _, _) => []
    | (.ok (reply, c), d) =>
      let status := match reply with
        | some (.drawn status) => some status
        | _ => none
      (status, (d.gallery.look surface).front.map fun m => (m.width, m.height)) ::
        sizesShown surface rest c d

/-- A frame of two pixels is shown, and it still is when the size is one pixel. The frame of that
size comes while the owner is reading: it is drawn and dropped, and the old one stays. -/
theorem old_size_still_shown :
    let watched : Device Unit := .watched .standard (fun _ attempts => attempts == 1) ()
    let draw : Command Surface Unit := .draw ⟨⟨1⟩, [⟨.clear .black, none⟩]⟩ Damage.whole.encode
    Lived idleHost .standard false ⟨some ⟨1, "window", false⟩, some ⟨2, 1⟩, none, []⟩ twoPixels
        watched ∧
      sizesShown ⟨1, "window", false⟩ [draw, .setup ⟨1, 1⟩, draw] twoPixels watched =
        [(some .drawn, some (2, 1)), (none, some (2, 1)), (some .drawn, some (2, 1))] := by
  intro watched draw
  constructor
  · exact lived_twoPixels watched rfl
  · decide +kernel

end Headless

end RenderRelay

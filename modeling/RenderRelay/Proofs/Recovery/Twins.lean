import RenderRelay.Proofs.Explicit
import RenderRelay.Proofs.Features.Whole
import RenderRelay.Proofs.Recovery.Loose
import RenderRelay.Proofs.Recovery.Refit
import RenderRelay.Proofs.Traffic.Redraw

/-!
Contexts of which one repaints everything where the other need not. They have buffers of one size
and are otherwise the same (`Twins`). A draw has the same status for both, and one that repaints
everything leaves them equal (`draw_twins`).
-/

namespace RenderRelay

open DeviceOp

theorem DeviceOp.Simulates.also {δ₁ δ₂ α₁ α₂ : Type} {D : δ₁ → δ₂ → Prop} {R : α₁ → α₂ → Prop}
    {P : α₁ → Prop} {op₁ : DeviceOp δ₁ α₁} {op₂ : DeviceOp δ₂ α₂} (sim : Simulates D R op₁ op₂)
    (holds : ∀ d, op₁.Ensures d fun a _ => P a) : Simulates D (fun a b => R a b ∧ P a) op₁ op₂ := by
  intro d₁ d₂ devices a d₁' run
  obtain ⟨b, d₂', run', rel, devices'⟩ := sim d₁ d₂ devices a d₁' run
  exact ⟨b, d₂', run', ⟨rel, holds d₁ a d₁' run⟩, devices'⟩

/-! ### The pixels of a frame -/

theorem Damage.contains_of_clipTo {damage : Damage} {size : Viewport} {box : PixelBox}
    (clipped : damage.clipTo size = some box) {x y : Nat} (inside : box.contains x y = true) :
    (PixelBox.ofSize size.width size.height).contains x y = true := by
  cases damage with
  | whole => exact (PixelBox.nonempty?_eq_some.1 clipped).1 ▸ inside
  | box b =>
    have pixels := any_contains_clipTo b size x y
    rw [clipped, Option.any_some, inside] at pixels
    exact (Bool.and_eq_true_iff.1 pixels.symm).1

namespace Context

/-- All of a target, or what was asked for, or less than that. -/
def Covers (size : Viewport) (box box' : PixelBox) : Prop :=
  (∀ x y, box'.contains x y = true → box.contains x y = true) ∧
    (box' = .ofSize size.width size.height → box = .ofSize size.width size.height)

theorem frameDamage_covers {capabilities : Capabilities} {redraw redraw' : Bool}
    (more : redraw' = true → redraw = true) (size : Viewport) (damage : Damage) :
    Option.Rel (Covers size) (frameDamage capabilities redraw size damage)
      (frameDamage capabilities redraw' size damage) := by
  unfold frameDamage
  simp only
  generalize (if capabilities.partialRedraw then damage else Damage.whole) = reached
  cases clipped : reached.clipTo size with
  | none => exact .none
  | some box =>
    simp only [Damage.clipTo_whole clipped, Option.getD_some]
    cases redraw with
    | false =>
      obtain rfl : redraw' = false := by simpa using more
      exact .some ⟨fun _ _ => id, id⟩
    | true =>
      cases redraw' with
      | true => exact .some ⟨fun _ _ => id, id⟩
      | false => exact .some ⟨fun x y => Damage.contains_of_clipTo clipped, fun _ => rfl⟩

end Context

namespace Headless

variable {ω π φ τ : Type} {report : LogRecord → ω → ω}
  {invoke : φ → Frame → FunctorInfo → StateM ω (Frame × Completion)}
  {perform : τ → StateM ω Completion} {part : ω → π}

/-! ### Galleries -/

/-- Each surface has shown and dropped as many frames in both, and is read at the same times. -/
structure Counts (g g' : Gallery) : Prop where
  reading : g'.reading = g.reading
  presents : ∀ s, (g'.look s).presents = (g.look s).presents
  dropped : ∀ s, (g'.look s).dropped = (g.look s).dropped

theorem Counts.refl (g : Gallery) : Counts g g := ⟨rfl, fun _ => rfl, fun _ => rfl⟩

theorem Counts.busy {g g' : Gallery} (counts : Counts g g') (s : Surface) :
    g'.isRead s = g.isRead s :=
  Gallery.isRead_congr counts.reading (congrArg₂ (· + ·) (counts.presents s) (counts.dropped s))

theorem Counts.present {g g' : Gallery} (counts : Counts g g') (s : Surface)
    (frame frame' : Bitmap) : Counts (g.present s frame) (g'.present s frame') where
  reading := counts.reading
  presents t := by
    simp only [Gallery.look_present, Presentation.next, counts.busy s]
    split
    · split
      · exact counts.presents s
      · exact congrArg (· + 1) (counts.presents s)
    · exact counts.presents t
  dropped t := by
    simp only [Gallery.look_present, Presentation.next, counts.busy s]
    split
    · split
      · exact congrArg (· + 1) (counts.dropped s)
      · exact counts.dropped s
    · exact counts.dropped t

theorem presentable_counts : Presentable Counts where
  busy s _ _ counts := counts.busy s
  present s frame _ _ counts := counts.present s frame frame

theorem presentable_eq : Presentable Eq where
  busy := by
    rintro s g _ rfl
    rfl
  present := by
    rintro s frame g _ rfl
    rfl

/-! ### Canvases -/

/-- Canvases that differ in the pixels of their buffers at most. -/
inductive Canvas.Near (k : Canvas) : Canvas → Prop
  | of_back {back : Bitmap} (size : back.extent = k.back.extent) : Near k { k with back }

theorem Canvas.Near.refl (k : Canvas) : k.Near k := .of_back rfl

/-- Frames of which the second repaints less, or both everything. -/
def Frame.Over (size : Viewport) (box' : PixelBox) (f f' : Frame) : Prop :=
  f.Loose f' ∧ (box' = .ofSize size.width size.height → f' = f)

theorem Frame.Over.of_fill {m m' : Bitmap} {size : Viewport} {box box' : PixelBox}
    (covers : Context.Covers size box box') (fits : HasSize m size) (fits' : HasSize m' size)
    (clear : Color) :
    Frame.Over size box' ⟨m.fill box clear, box⟩ ⟨m'.fill box' clear, box'⟩ := by
  refine ⟨⟨?_, covers.1⟩, ?_⟩
  · have first : (m.fill box clear).extent = size :=
      (m.extent_fill box clear).trans (congrArg₂ Viewport.mk fits.1 fits.2)
    have second : (m'.fill box' clear).extent = size :=
      (m'.extent_fill box' clear).trans (congrArg₂ Viewport.mk fits'.1 fits'.2)
    exact second.trans first.symm
  · rintro rfl
    obtain rfl := covers.2 rfl
    rw [fill_whole fits, fill_whole fits']

namespace Unread

variable (unread : Unread report invoke perform part) {config : Config} {k k' : Canvas}

section Canvases

theorem trimCaches_near (near : k.Near k') : (trimCaches k).Near (trimCaches k') := by
  obtain ⟨same⟩ := near
  obtain ⟨translucent, surface, viewport, back⟩ := k
  cases surface with
  | none => exact .refl _
  | some s => exact .of_back same

include unread

theorem bindSurface_near (near : k.Near k') (s : Surface) (size : Option Viewport) :
    Simulates (Device.Beside config Counts part) (fun r r' => r' = r)
      (bindSurface report k s size) (bindSurface report k' s size) := by
  have bound := (unread.pairing config presentable_counts).bindSurface_simulates k
    (s := s) trivial size
  obtain ⟨-⟩ := near
  exact bound.mono fun r r' same => Prod.ext same.1 same.2.1.symm

theorem unbindSurface_near (near : k.Near k') :
    Simulates (Device.Beside config Counts part) Canvas.Near (unbindSurface report k)
      (unbindSurface report k') := by
  obtain ⟨same⟩ := near
  unfold unbindSurface
  cases bound : k.surface with
  | none => exact simulates_pure (bound ▸ .of_back same)
  | some s => exact (unread.note_simulates _).bind fun _ _ _ => simulates_pure (.of_back same)

theorem resize_near (near : k.Near k') (size : Viewport) :
    Simulates (Device.Beside config Counts part) (fun r r' => r'.1 = r.1 ∧ r.2.Near r'.2)
      (resize k size) (resize k' size) := by
  obtain ⟨same⟩ := near
  obtain ⟨translucent, surface, viewport, back⟩ := k
  cases surface with
  | none => exact simulates_pure ⟨rfl, .of_back same⟩
  | some s =>
    refine ((unread.pairing config presentable_counts).checkBudget_simulates _ _).bind ?_
    rintro _ checked rfl
    exact simulates_pure ⟨rfl, .of_back same⟩

theorem destroyCanvas_near (near : k.Near k') :
    Simulates (Device.Beside config Counts part) (fun _ _ => True) (destroyCanvas report k)
      (destroyCanvas report k') :=
  (unread.unbindSurface_near near).bind fun _ _ _ => unread.uncount_simulates

theorem backOfSize_near (near : k.Near k') (size : Viewport) :
    Simulates (Device.Beside config Counts part)
      (Outcome fun m m' => HasSize m size ∧ HasSize m' size) (backOfSize k size)
      (backOfSize k' size) := by
  obtain @⟨back, same⟩ := near
  have sizes : back.width = k.back.width ∧ back.height = k.back.height := by
    simpa [Bitmap.extent] using same
  unfold backOfSize
  simp only [sizes]
  by_cases fits : k.back.width = size.width ∧ k.back.height = size.height
  · rw [if_pos fits, if_pos fits]
    exact simulates_pure (.ok ⟨fits, by rwa [← sizes.1, ← sizes.2] at fits⟩)
  · rw [if_neg fits, if_neg fits]
    refine ((unread.pairing config presentable_counts).checkBudget_simulates _ size).bind ?_
    rintro _ (e | ⟨⟩) rfl
    · exact simulates_pure (.error e)
    · refine Simulates.bind (R := fun m m' => HasSize m size ∧ HasSize m' size) ?_ ?_
      · unfold newBuffer
        split
        · exact simulates_throw _ _
        · exact simulates_pure ⟨⟨rfl, rfl⟩, rfl, rfl⟩
      · exact fun m m' sizes => simulates_pure (.ok sizes)

theorem beginFrame_near (near : k.Near k') {size : Viewport} {box box' : PixelBox}
    (covers : Context.Covers size box box') (sized : k.viewport = some size) :
    Simulates (Device.Beside config Counts part)
      (fun r r' => Outcome (Option.Rel (Frame.Over size box')) r.1 r'.1 ∧ r.2.Near r'.2)
      (beginFrame k box) (beginFrame k' box') := by
  have backs : Simulates (Device.Beside config Counts part) _ (backOfSize k size)
      (backOfSize k' size) := unread.backOfSize_near near size
  obtain @⟨back, same⟩ := near
  obtain ⟨translucent, surface, _, kept⟩ := k
  obtain rfl : _ = some size := sized
  unfold beginFrame
  simp only [Option.filter_some]
  cases size.isEmpty with
  | true => exact simulates_pure ⟨.ok .none, .of_back same⟩
  | false =>
    simp only [Bool.not_false, if_true]
    cases surface.isNone with
    | true => exact simulates_pure ⟨.ok .none, .of_back same⟩
    | false =>
      refine backs.bind fun made made' outcome => ?_
      cases outcome with
      | error e => exact simulates_pure ⟨.error e, .of_back same⟩
      | @ok m m' fits =>
        refine simulates_get.bind fun d d' beside => ?_
        rw [beside.first, beside.second]
        exact simulates_pure ⟨.ok (.some (.of_fill covers fits.1 fits.2 _)), .refl _⟩

/-- Two frames that come to a surface are both shown or both dropped. -/
theorem present_counts (s : Surface) (frame frame' : Bitmap) :
    Simulates (Device.Beside config Counts part) (fun _ _ => True) (present report s frame)
      (present report s frame') := by
  refine simulates_get.bind fun d d' _ => ?_
  refine (simulates_modify fun d d' beside => ?_).bind fun _ _ _ => simulates_pure trivial
  have gallery := beside.gallery.present s frame frame'
  have outside : part (d'.presented report s frame').outside =
      part (d.presented report s frame).outside := by
    simp only [Device.presented, beside.gallery.busy s]
    split
    · simp only [unread.reports, beside.part]
    · exact beside.part
  exact ⟨beside.first, beside.second, beside.live, gallery, outside⟩

theorem endFrame_near (near : k.Near k') {f f' : Frame} (loose : f.Loose f') :
    Simulates (Device.Beside config Counts part)
      (fun r r' => r'.1 = r.1 ∧ r.2.Near r'.2 ∧ (f' = f → r'.2 = r.2))
      (endFrame report k f) (endFrame report k' f') := by
  have held : f'.target.extent = f.target.extent := loose.size
  obtain ⟨same⟩ := near
  obtain ⟨translucent, surface, viewport, back⟩ := k
  have ended : Simulates (Device.Beside config Counts part)
      (fun r r' : Except RenderError Unit × Canvas =>
        r'.1 = r.1 ∧ r.2.Near r'.2 ∧ (f' = f → r'.2 = r.2))
      (pure (.ok (), ⟨translucent, surface, viewport, f.target⟩))
      (pure (.ok (), ⟨translucent, surface, viewport, f'.target⟩)) :=
    simulates_pure ⟨rfl, .of_back held, fun equal => by rw [equal]⟩
  cases surface with
  | none => exact ended
  | some s => exact (unread.present_counts s _ _).bind fun _ _ _ => ended

end Canvases

end Unread

/-! ### Contexts -/

/-- Contexts that differ in the pixels of their buffers, of which the first repaints everything if
the second does. -/
inductive Twins (c : Context (backend report) φ) : Context (backend report) φ → Prop
  | of_canvas {canvas : Option Canvas} {redraw : Bool}
      (near : Option.Rel Canvas.Near c.canvas canvas)
      (more : redraw = true → c.needsFullRedraw = true) : Twins c (c.withCanvas canvas redraw)

theorem Twins.name {c c' : Context (backend report) φ} (twins : Twins c c') : c'.name = c.name := by
  obtain ⟨near, more⟩ := twins
  rfl

theorem Twins.registry {c c' : Context (backend report) φ} (twins : Twins c c') :
    c'.registry = c.registry := by
  obtain ⟨near, more⟩ := twins
  rfl

theorem Twins.counted {c c' : Context (backend report) φ} (twins : Twins c c')
    (stats : FrameStats → FrameStats) :
    Twins { c with stats := stats c.stats } { c' with stats := stats c'.stats } := by
  obtain ⟨near, more⟩ := twins
  exact .of_canvas near more

/-- A draw of such damage repaints everything if it repaints anything. -/
def RepaintsAll (capabilities : Capabilities) (c : Context (backend report) φ) (damage : Damage) :
    Prop :=
  ∀ size box, c.viewport = some size →
    Context.frameDamage capabilities c.needsFullRedraw size damage = some box →
      box = .ofSize size.width size.height

def Both {α : Type} (r r' : α × Context (backend report) φ) : Prop :=
  r'.1 = r.1 ∧ Twins r.2 r'.2

/-- The same status twice, with twins, and with one context if the frame was of everything. -/
def BothDrawn (whole : Prop) (r r' : DrawStatus × Context (backend report) φ) : Prop :=
  Both r r' ∧ (whole → r.1 = .drawn → r'.2 = r.2)

namespace Unread

variable (unread : Unread report invoke perform part) (heedless : ∀ f, Heedless invoke part f)
  {config : Config} {c c' : Context (backend report) φ}

include unread

section Draws

include heedless

theorem drawItems_over {size : Viewport} {box box' : PixelBox}
    (covers : Context.Covers size box box') {f f' : Frame} (wider : Frame.Over size box' f f')
    (name : String) (registry : Registry Layer φ) (list : ListId) (index : Nat)
    (items : List DrawItem) :
    Simulates (Device.Beside config Counts part) (Frame.Over size box')
      (Context.drawItems (host report invoke perform) name registry list ⟨size, box, index⟩ items f)
      (Context.drawItems (host report invoke perform) name registry list ⟨size, box', index⟩ items
        f') := by
  by_cases whole : box' = .ofSize size.width size.height
  · obtain rfl : box = box' := (covers.2 whole).trans whole.symm
    obtain rfl := wider.2 whole
    have registries := ((unread.pairing_open config presentable_counts).registries_iff perform).2
      (rfl : registry = registry)
    have same := Correspondence.drawItems_simulates registries name list ⟨size, box, index⟩ items
      (rfl : f' = f')
    have renamed : items.map (DrawItem.rename fun h => h) = items := by simp
    refine (renamed ▸ same).mono ?_
    rintro g _ rfl
    exact ⟨⟨rfl, fun _ _ => id⟩, fun _ => rfl⟩
  · have loose : Simulates (Device.Beside config Counts part) Frame.Loose _ _ :=
      unread.drawItems_loose heedless name registry list ⟨size, box, index⟩ box' items wider.1
    exact loose.mono fun _ _ loose => ⟨loose, fun equal => absurd equal whole⟩

theorem drawOnCanvas_twins {size : Viewport} {box box' : PixelBox}
    (covers : Context.Covers size box box') (twins : Twins c c') {k k' : Canvas} (near : k.Near k')
    (sized : k.viewport = some size) (list : DisplayList) :
    Simulates (Device.Beside config Counts part)
      (BothDrawn (box' = .ofSize size.width size.height))
      (c.drawOnCanvas (host report invoke perform) k size box list)
      (c'.drawOnCanvas (host report invoke perform) k' size box' list) := by
  obtain @⟨canvas, redraw, _, more⟩ := twins
  -- nothing was drawn
  have skipped {k k' : Canvas} (near : k.Near k') :
      Simulates (Device.Beside config Counts part)
        (BothDrawn (box' = .ofSize size.width size.height))
        (pure (.skipped, { c with canvas := some k }))
        (pure (.skipped, { c.withCanvas canvas redraw with canvas := some k' })) :=
    simulates_pure ⟨⟨rfl, .of_canvas (.some near) more⟩, fun _ => nofun⟩
  refine (unread.beginFrame_near near covers sized).bind ?_
  rintro ⟨begun, k⟩ ⟨begun', k'⟩ ⟨outcome, near⟩
  cases outcome with
  | error e => exact (unread.contextNote_simulates _ _ _).bind fun _ _ _ => skipped near
  | ok frames =>
    cases frames with
    | none => exact skipped near
    | some wider =>
      refine (unread.drawItems_over heedless covers wider _ _ _ _ _).bind fun f f' wider => ?_
      refine (unread.endFrame_near near wider.1).bind ?_
      rintro ⟨_, k⟩ ⟨ended, k'⟩ ⟨rfl, near, same⟩
      rcases ended with e | ⟨⟩
      · exact (unread.contextNote_simulates _ _ _).bind fun _ _ _ => skipped near
      · refine simulates_pure ⟨⟨rfl, .of_canvas (.some near) nofun⟩, fun whole _ => ?_⟩
        obtain rfl : k' = k := same (wider.2 whole)
        rfl

theorem drawFrame_twins (twins : Twins c c') (coherent : Coherent c) (list : DisplayList)
    (damage : Damage) :
    Simulates (Device.Beside config Counts part)
      (BothDrawn (RepaintsAll config.capabilities c' damage))
      (c.drawFrame (host report invoke perform) list damage)
      (c'.drawFrame (host report invoke perform) list damage) := by
  have skipped : Simulates (Device.Beside config Counts part)
      (BothDrawn (RepaintsAll config.capabilities c' damage)) (pure (.skipped, c))
      (pure (.skipped, c')) := simulates_pure ⟨⟨rfl, twins⟩, fun _ => nofun⟩
  have own := twins
  obtain @⟨canvas, redraw, near, more⟩ := twins
  obtain ⟨h, name, canvas₁, registry, size, bound, redraw₁, stats⟩ := c
  unfold Context.drawFrame
  cases near with
  | none => exact skipped
  | @some k k' near =>
    cases bound with
    | false => exact (unread.contextNote_simulates _ _ _).bind fun _ _ _ => skipped
    | true =>
      cases size with
      | none => exact (unread.contextNote_simulates _ _ _).bind fun _ _ _ => skipped
      | some size =>
        refine simulates_get.bind fun d d' beside => ?_
        simp only [beside.first, beside.second, Context.withCanvas_needsFullRedraw]
        have covers : Option.Rel (Context.Covers size)
            (Context.frameDamage config.capabilities redraw₁ size damage)
            (Context.frameDamage config.capabilities redraw size damage) :=
          Context.frameDamage_covers more size damage
        generalize Context.frameDamage config.capabilities redraw₁ size damage = box at covers
        generalize reached : Context.frameDamage config.capabilities redraw size damage = box'
          at covers
        cases covers with
        | none => exact skipped
        | some covers =>
          have sized : k.viewport = some size := (coherent k rfl).1
          refine (unread.drawOnCanvas_twins heedless covers own near sized list).mono ?_
          exact fun r r' drawn => ⟨drawn.1, fun whole => drawn.2 (whole size _ rfl reached)⟩

theorem draw_twins (twins : Twins c c') (coherent : Coherent c) (list : DisplayList)
    (damage : Damage) :
    Simulates (Device.Beside config Counts part)
      (BothDrawn (RepaintsAll config.capabilities c' damage))
      (c.draw (host report invoke perform) list damage)
      (c'.draw (host report invoke perform) list damage) := by
  obtain @⟨canvas, redraw, near, more⟩ := twins
  let c₀ : Context (backend report) φ :=
    { c with registry := { c.registry with lastDrawn := some list } }
  have contexts := ((unread.pairing_open config presentable_counts).contexts_iff perform).2
    (rfl : c₀ = c₀)
  have updated : Simulates (Device.Beside config Counts part)
      (fun c₁ c₁' : Context (backend report) φ => c₁' = c₁ ∧
        ∃ layers, c₁ = { c₀ with registry := { c₀.registry with layers, pending := [] } })
      (c₀.applyLayerUpdates (host report invoke perform))
      (c₀.applyLayerUpdates (host report invoke perform)) := by
    have same := Correspondence.applyLayerUpdates_simulates contexts
    refine Simulates.also (same.mono fun c₁ c₁' => ?_) (Context.applyLayerUpdates_layers _ c₀)
    exact ((unread.pairing_open config presentable_counts).contexts_iff perform).1
  change Simulates _ _ (c₀.applyLayerUpdates (host report invoke perform) >>= _)
    ((c₀.withCanvas canvas redraw).applyLayerUpdates (host report invoke perform) >>= _)
  rw [Context.applyLayerUpdates_withCanvas, bind_assoc]
  refine updated.bind ?_
  rintro _ _ ⟨rfl, layers, rfl⟩
  simp only [pure_bind]
  let c₁ : Context (backend report) φ :=
    { c₀ with registry := { c₀.registry with layers, pending := [] } }
  have twins : Twins c₁ (c₁.withCanvas canvas redraw) := .of_canvas near more
  refine (unread.drawFrame_twins heedless twins coherent list damage).bind ?_
  rintro ⟨_, c₂⟩ ⟨status, c₂'⟩ ⟨⟨rfl, twins⟩, whole⟩
  refine simulates_pure ⟨⟨rfl, twins.counted (·.count status)⟩, fun all drawn => ?_⟩
  obtain rfl : c₂' = c₂ := whole all drawn
  rfl

end Draws

end Unread

end Headless

end RenderRelay

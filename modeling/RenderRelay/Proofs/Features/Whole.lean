import RenderRelay.Proofs.Features.Passing

/-!
Features from end to end. Without partial redraws every frame that is drawn shows its whole list
anew, whatever was on the surface before (`draw_shows_whole`). With what is sent (`Gate`), what is
kept (`Within`) and what is passed over (`Passing`), this is all that a run can be told by of the
features of its backend (`features_gate`).
-/

namespace RenderRelay

open DeviceOp

def DrawItem.isFunctor (item : DrawItem) : Bool :=
  match item.op with
  | .functor _ => true
  | _ => false

def DrawItem.isLayer (item : DrawItem) : Bool :=
  match item.op with
  | .layer _ _ => true
  | _ => false

namespace Headless

variable {ω φ τ : Type} {report : LogRecord → ω → ω}
  {invoke : φ → Frame → FunctorInfo → StateM ω (Frame × Completion)}
  {perform : τ → StateM ω Completion}

/-! ### Frames of everything -/

/-- Draws a list on a buffer of a size that is cleared all over. -/
def repaint (H : Host (backend report) φ τ) (c : Context (backend report) φ) (size : Viewport)
    (clear : Color) (list : DisplayList) : DeviceOp (Device ω) Frame :=
  let whole := PixelBox.ofSize size.width size.height
  Context.drawItems H c.name c.registry list.id ⟨size, whole, c.stats.drawn⟩ list.items
    ⟨(Bitmap.ofSize size.width size.height).fill whole clear, whole⟩

/-- What a list makes of a cleared buffer of the size that is set is presented to the bound surface:
it is all that is shown there then, unless the owner is reading and the frame is dropped. -/
def ShowsWhole (H : Host (backend report) φ τ) (c : Context (backend report) φ)
    (list : DisplayList) (d d' : Device ω) : Prop :=
  ∃ canvas surface size frame d₁,
    c.canvas = some canvas ∧ canvas.surface = some surface ∧ c.viewport = some size ∧
    (repaint H c size (clearColor d.config canvas.translucent) list).runOn d = (.ok frame, d₁) ∧
    d' = d₁.presented report surface frame.target

/-- Where frames are not drawn in part the whole size is repainted. -/
theorem frameDamage_whole {capabilities : Capabilities} (whole : capabilities.partialRedraw = false)
    {needsFullRedraw : Bool} {size : Viewport} {damage : Damage} {box : PixelBox}
    (reached : Context.frameDamage capabilities needsFullRedraw size damage = some box) :
    box = PixelBox.ofSize size.width size.height := by
  have all {area : PixelBox} (clipped : Damage.clipTo .whole size = some area) :
      area = PixelBox.ofSize size.width size.height := by
    unfold Damage.clipTo PixelBox.nonempty? at clipped
    simp only at clipped
    split at clipped
    · simp at clipped
    · exact (Option.some.inj clipped).symm
  unfold Context.frameDamage at reached
  simp only [whole, Bool.false_eq_true, if_false] at reached
  cases clipped : Damage.clipTo .whole size with
  | none => simp [clipped] at reached
  | some area =>
    simp only [clipped, Option.getD_some, ite_self, Option.some.injEq] at reached
    exact reached ▸ all clipped

/-- A buffer that is cleared all over is one of its size. -/
theorem fill_whole {m : Bitmap} {size : Viewport} (fits : HasSize m size) (clear : Color) :
    m.fill (PixelBox.ofSize size.width size.height) clear =
      (Bitmap.ofSize size.width size.height).fill
        (PixelBox.ofSize size.width size.height) clear := by
  have same : m.extent = (Bitmap.ofSize size.width size.height).extent :=
    congrArg₂ Viewport.mk fits.1 fits.2
  have filled := Bitmap.fill_bounds_congr same clear
  have bounds : m.bounds = PixelBox.ofSize size.width size.height :=
    congrArg₂ PixelBox.ofSize fits.1 fits.2
  rw [bounds] at filled
  exact filled

variable {c : Context (backend report) φ} {d : Device ω}

theorem drawOnCanvas_shows_whole {canvas : Canvas} {size : Viewport} {list : DisplayList}
    (there : c.canvas = some canvas) (sized : c.viewport = some size)
    (same : canvas.viewport = some size) :
    (c.drawOnCanvas (host report invoke perform) canvas size
      (PixelBox.ofSize size.width size.height) list).Ensures d fun r d' =>
        r.1 = .drawn → ShowsWhole (host report invoke perform) c list d d' := by
  refine ensures_bind.2 (ensures_beginFrame (fun e => ?_) ?_ ?_)
  · exact ensures_bind.2 ((Context.ensures_note _).2 (ensures_pure.2 nofun))
  · exact ensures_pure.2 nofun
  · intro size' surface target sized' bound fits own
    obtain rfl : size = size' := Option.some.inj (same.symm.trans sized')
    rw [fill_whole fits]
    refine ensures_bind.2 fun frame d₁ run => ?_
    refine ensures_bind.2 (ensures_endFrame_bound bound (ensures_pure.2 fun _ => ?_))
    exact ⟨canvas, surface, size, frame, d₁, there, bound, sized, run, rfl⟩

theorem drawFrame_shows_whole (coherent : Coherent c)
    (whole : d.config.capabilities.partialRedraw = false) (list : DisplayList) (damage : Damage) :
    (c.drawFrame (host report invoke perform) list damage).Ensures d fun r d' =>
      r.1 = .drawn → ShowsWhole (host report invoke perform) c list d d' := by
  refine Context.ensures_drawFrame nofun (fun _ => nofun)
    fun canvas size box there _ sized hit => ?_
  rw [frameDamage_whole whole hit]
  exact drawOnCanvas_shows_whole there sized ((coherent canvas there).1.trans sized)

/-- Nothing that a context does with its layers sets the device up anew. -/
theorem applyLayerUpdates_config (c : Context (backend report) φ) (d : Device ω) :
    (c.applyLayerUpdates (host report invoke perform)).Ensures d fun _ d' =>
      d'.config = d.config := by
  have fits : ((lasting d.config : Upkeep report invoke).constraint perform).Fits c :=
    ⟨fun _ _ _ _ => trivial, fun _ _ => trivial, fun _ _ _ => trivial⟩
  have simulates := Correspondence.applyLayerUpdates_simulates (Constraint.fits_iff.1 fits)
  exact (simulates.ensures ⟨rfl, rfl⟩).mono fun _ _ kept => kept.2.2

/-- **Without partial redraws a draw that is not skipped shows its whole list anew**, drawn when the
updates that waited are done. -/
theorem draw_shows_whole (coherent : Coherent c)
    (whole : d.config.capabilities.partialRedraw = false) (list : DisplayList) (damage : Damage) :
    (c.draw (host report invoke perform) list damage).Ensures d fun r d' =>
      r.1 = .drawn → ∃ c₁ d₁, (c.applyLayerUpdates (host report invoke perform)).runOn d =
        (.ok c₁, d₁) ∧ ShowsWhole (host report invoke perform) c₁ list d₁ d' := by
  rw [Context.draw_eq]
  refine ensures_bind.2 fun c₁ d₁ applied => ?_
  obtain ⟨layers, same⟩ := Context.applyLayerUpdates_layers _ _ _ _ _ applied
  have coherent₁ : Coherent (c₁.remember (some list)) := by
    subst same
    exact coherent
  have whole₁ : d₁.config.capabilities.partialRedraw = false := by
    rw [applyLayerUpdates_config _ _ _ _ applied]
    exact whole
  refine ensures_bind.2 ((drawFrame_shows_whole coherent₁ whole₁ list damage).mono ?_)
  refine fun r d' shows => ensures_pure.2 fun drawn => ⟨c₁, d₁, applied, ?_⟩
  obtain ⟨canvas, surface, size, frame, d₂, there, bound, sized, run, left⟩ := shows drawn
  refine ⟨canvas, surface, size, frame, d₂, there, bound, sized, ?_, left⟩
  rw [← run]
  exact congrArg (·.runOn d₁) (Context.drawItems_remember ..).symm

/-! ### Contexts without a feature -/

section Contexts

/-- Where a feature is missing nothing of it is kept, and a draw shows what it shows without the
items that need it. For copied layers that is as far as the callbacks in it do not read what is
reported. Without partial redraws a draw that is not skipped shows the whole list anew. -/
structure DoesWithout (report : LogRecord → ω → ω)
    (invoke : φ → Frame → FunctorInfo → StateM ω (Frame × Completion))
    (perform : τ → StateM ω Completion) (config : Config) (c : Context (backend report) φ) :
    Prop where
  callbacks : config.capabilities.functors = false → c.registry.functors.entries = []
  layers : config.capabilities.layers = false →
    c.registry.layers.entries = [] ∧ c.registry.pending = []
  withoutCallbacks : config.capabilities.functors = false → ∀ list damage d,
    Alike (Device.Like fun _ => ()) (ButForList (some (list.without DrawItem.isFunctor)))
      ((c.draw (host report invoke perform) list damage).runOn d)
      ((c.draw (host report invoke perform) (list.without DrawItem.isFunctor) damage).runOn d)
  withoutLayers : config.capabilities.layers = false → ∀ {π : Type} (part : ω → π),
    (∀ record world, part (report record world) = part world) →
    (∀ id f, c.registry.functors.get? id = some f → Confined invoke part f) → ∀ list damage d,
      Alike (Device.Like part) (ButForList (some (list.without DrawItem.isLayer)))
        ((c.draw (host report invoke perform) list damage).runOn d)
        ((c.draw (host report invoke perform) (list.without DrawItem.isLayer) damage).runOn d)
  whole : config.capabilities.partialRedraw = false → ∀ list damage d c' d', d.config = config →
    (c.draw (host report invoke perform) list damage).runOn d = (.ok (.drawn, c'), d') →
      ∃ c₁ d₁, (c.applyLayerUpdates (host report invoke perform)).runOn d = (.ok c₁, d₁) ∧
        ShowsWhole (host report invoke perform) c₁ list d₁ d'

theorem doesWithout {config : Config} (within : c.registry.Within config.capabilities)
    (coherent : Coherent c) : DoesWithout report invoke perform config c where
  callbacks := within.functors
  layers := within.layers
  withoutCallbacks none list damage d := by
    have nothing := Table.entries_eq_nil_iff.1 (within.functors none)
    have unreported : ∀ (record : LogRecord) (world : ω),
        (fun _ => () : ω → Unit) (report record world) = (fun _ => ()) world := fun _ _ => rfl
    refine draw_without perform unreported ?_ ?_ damage d
    · intro id f attached
      simp [nothing] at attached
    · intro item _ drop
      unfold DrawItem.isFunctor at drop
      unfold DrawItem.Unknown
      split at drop
      case h_1 id op => simp only [op, nothing]
      case h_2 => simp at drop
  withoutLayers none _ part unreported confined list damage d := by
    have nothing := Table.entries_eq_nil_iff.1 (within.layers none).1
    refine draw_without perform unreported confined ?_ damage d
    intro item _ drop
    unfold DrawItem.isLayer at drop
    unfold DrawItem.Unknown
    split at drop
    case h_1 handle dst op => simp only [op, nothing]
    case h_2 => simp at drop
  whole none list damage d c' d' set run :=
    draw_shows_whole coherent (set ▸ none) list damage _ _ run rfl

end Contexts

theorem steadfast_coherent (features : Capabilities) :
    Steadfast (host report invoke perform) features Coherent where
  made h translucent canvas d d' run := by
    have new : canvas = ⟨translucent, none, none, .empty⟩ :=
      ensures_createCanvas (Q := fun r _ => ∀ canvas, r = .ok canvas →
        canvas = ⟨translucent, none, none, .empty⟩)
        (by simp) (fun _ _ => by simp) _ _ run canvas rfl
    rintro canvas' ⟨⟩
    simp [new, Context.ofCanvas]
  obeyed c fresh command d coherent _ :=
    (dispatch_booked coherent fresh command).mono fun _ _ booked => booked.coherent

end Headless

namespace Exchange

open Headless

variable {ω φ τ : Type} {report : LogRecord → ω → ω}
  {invoke : φ → Frame → FunctorInfo → StateM ω (Frame × Completion)}
  {perform : τ → StateM ω Completion} {capacity : Nat} {config : Config}
  {log : Submissions Surface φ} {s : State (backend report) φ τ}

/-- The call is answered at once: nothing is sent, and nothing has changed. -/
structure State.Declines (s : State (backend report) φ τ) (h : ProxyHandle)
    (call : Call Surface φ) (outcome : CallOutcome) : Prop where
  plan : (s.parties h).proxy.plan call = ((s.parties h).proxy, .answer outcome)
  same : (s.parties h).phase = .idle → s.setParty h ((s.parties h).begin call) = s

theorem State.declines_of_plan {h : ProxyHandle} {call : Call Surface φ} {outcome : CallOutcome}
    (plan : (s.parties h).proxy.plan call = ((s.parties h).proxy, .answer outcome)) :
    s.Declines h call outcome where
  plan := plan
  same idle := by
    have same : (s.parties h).begin call = s.parties h := by
      unfold Party.begin
      rw [plan]
    rw [same]
    obtain ⟨handles, issued, parties, queue, engine, journal⟩ := s
    simp [State.setParty]

/-- A thread and its proxies keep to the thread's features. A call on a live proxy that needs others
is answered at once, on either side, by naming just those that it needs and that are not there;
flushing or destroying layers where there are none is done at once. -/
structure State.KeepsTo (invoke : φ → Frame → FunctorInfo → StateM ω (Frame × Completion))
    (perform : τ → StateM ω Completion) (config : Config) (s : State (backend report) φ τ) :
    Prop where
  refused : ∀ h, (s.parties h).phase ≠ .unborn → (s.parties h).proxy.lifecycle = .live →
    ∀ call, Capabilities.missing call.needs config.capabilities ≠ .none →
      s.Declines h call
        (.error (.unsupported (Capabilities.missing call.needs config.capabilities)))
  named : ∀ (call : Call Surface φ) i,
    (Capabilities.missing call.needs config.capabilities).toBits.testBit i =
      (call.needs.toBits.testBit i && !config.capabilities.toBits.testBit i)
  skipped : config.capabilities.layers = false → ∀ h, (s.parties h).phase ≠ .unborn →
    (s.parties h).proxy.lifecycle = .live → ∀ call, call.skipsLayers = true →
      s.Declines h call (.ok .done)
  returned : ∀ h, (s.parties h).phase ≠ .unborn → (s.parties h).proxy.lifecycle = .live →
    ∀ {M : Type → Type} [Monad M] (k : Session.Caller M) (thread : Nat),
      (∀ call, Capabilities.missing call.needs config.capabilities ≠ .none →
        k.perform thread (s.parties h).proxy call =
          pure ((s.parties h).proxy,
            .error (.unsupported (Capabilities.missing call.needs config.capabilities)))) ∧
      (config.capabilities.layers = false → ∀ call, call.skipsLayers = true →
        k.perform thread (s.parties h).proxy call = pure ((s.parties h).proxy, .ok .done))
  contexts : ∀ h c, s.engine.contexts.get? h = some c →
    DoesWithout report invoke perform config c

def bare : Config := { Config.standard with capabilities := .none }

end Exchange

end RenderRelay

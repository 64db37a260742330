import RenderRelay.Proofs.Accord.Books
import RenderRelay.Session.Run

/-!
Explicit damage. The record of a draw has no tag: one box of all, `Damage.wholeRecord`, stands for
everything. Every other box arrives as it was given (`Damage.decode_encode`), is repainted as far as
it lies on the target (`Context.frameDamage_box`), and is skipped without a trace where it does not
meet the target at all (`explicit_damage_kept`).
-/

namespace RenderRelay

open DeviceOp

/-! ### Boxes on targets -/

def DamageBox.contains (b : DamageBox) (x y : Nat) : Bool :=
  b.left ≤ x && x < b.right && b.top ≤ y && y < b.bottom

def DamageBox.Meets (b : DamageBox) (size : Viewport) : Prop :=
  ∃ x y, (PixelBox.ofSize size.width size.height).contains x y = true ∧ b.contains x y = true

theorem PixelBox.nonempty?_eq_none {b : PixelBox} :
    b.nonempty? = none ↔ ∀ x y, b.contains x y = false := by
  constructor
  · intro dropped x y
    have same := any_contains_nonempty? b x y
    rw [dropped] at same
    exact same.symm
  · intro nothing
    -- a box with a column and a row has a corner
    have corner := nothing b.x0 b.y0
    have empty : b.isEmpty = true := by
      simp only [contains, isEmpty, Bool.and_eq_false_iff, decide_eq_false_iff_not,
        Bool.or_eq_true, decide_eq_true_eq] at corner ⊢
      omega
    simp [nonempty?, empty]

namespace Damage

/-- **A record is read as it was written**, but for the box that stands for everything. -/
theorem decode_encode_iff {damage : Damage} :
    decode damage.encode = damage ↔ damage ≠ .box wholeRecord := by
  cases damage with
  | whole => simp [encode, decode]
  | box b =>
    by_cases same : b = wholeRecord
    · simp [encode, decode, same]
    · simp [encode, decode, same]

/-- A box that is clipped keeps the pixels that lie on the target. -/
theorem any_contains_clipTo (b : DamageBox) (size : Viewport) (x y : Nat) :
    ((box b).clipTo size).any (·.contains x y) =
      ((PixelBox.ofSize size.width size.height).contains x y && b.contains x y) := by
  unfold clipTo
  simp only
  split
  case isTrue empty =>
    simp only [DamageBox.isEmpty, Bool.or_eq_true, decide_eq_true_eq] at empty
    rw [Option.any_none, Bool.eq_iff_iff]
    simp only [DamageBox.contains, Bool.and_eq_true, decide_eq_true_eq, Bool.false_eq_true,
      false_iff]
    omega
  case isFalse =>
    rw [PixelBox.any_contains_intersect, Bool.eq_iff_iff]
    simp only [PixelBox.contains, DamageBox.contains, Bool.and_eq_true, decide_eq_true_eq]
    simp only [PixelBox.ofSize, clampEdge]
    omega

/-- Nothing is left of a box just if it does not meet the target. -/
theorem clipTo_eq_none {b : DamageBox} {size : Viewport} :
    (box b).clipTo size = none ↔ ¬b.Meets size := by
  have pixels := any_contains_clipTo b size
  constructor
  · rintro none ⟨x, y, inside, there⟩
    simpa [none, inside, there] using pixels x y
  · intro misses
    cases clipped : (box b).clipTo size with
    | none => rfl
    | some area =>
      -- an area that is kept has a corner
      have kept : area.nonempty? = some area := by
        unfold clipTo at clipped
        simp only at clipped
        split at clipped
        · simp at clipped
        · obtain ⟨rfl, full⟩ := PixelBox.nonempty?_eq_some.1 clipped
          exact PixelBox.nonempty?_eq_some.2 ⟨rfl, full⟩
      have dropped : area.nonempty? = none := by
        refine PixelBox.nonempty?_eq_none.2 fun x y => ?_
        have same := pixels x y
        rw [clipped, Option.any_some] at same
        rw [same, Bool.eq_false_iff]
        exact fun both => misses ⟨x, y, Bool.and_eq_true_iff.1 both⟩
      simp [kept] at dropped

end Damage

/-! ### Contexts -/

section Contexts

variable {σ φ τ : Type} {B : Backend σ} (H : Host B φ τ) {b : DamageBox} {size : Viewport}

/-- A draw with an explicit box on a backend with partial redraws, from the call to the frame. The
record that is sent stands for the box. If the box meets the target there is a frame, which repaints
the box alone while what is outside is valid; if not, the box does not reach the backend. -/
structure DrawsBox (b : DamageBox) : Prop where
  sent : ∀ (p : Proxy) list, p.lifecycle = .live →
    p.plan (.draw list (some b) : Call σ φ) = (p, .ask (.draw list (Damage.box b).encode))
  acts : ∀ (c : Context B φ) fresh list,
    c.execute H fresh (.draw list (Damage.box b).encode) = (do
      let (status, c) ← c.draw H list (.box b)
      return (some (.drawn status), c))
  meets : ∀ capabilities needsFullRedraw size, capabilities.partialRedraw = true →
    (Context.frameDamage capabilities needsFullRedraw size (.box b) = none ↔ ¬b.Meets size)
  repaints : ∀ capabilities size area, capabilities.partialRedraw = true →
    Context.frameDamage capabilities false size (.box b) = some area → ∀ x y, area.contains x y =
      ((PixelBox.ofSize size.width size.height).contains x y && b.contains x y)
  skips : ∀ (c : Context B φ) canvas size d list, c.canvas = some canvas → c.surfaceBound = true →
    c.viewport = some size → (B.capabilities d).partialRedraw = true → ¬b.Meets size →
      (c.drawFrame H list (.box b)).runOn d = (.ok (.skipped, c), d)

namespace Context

variable {H}

theorem frameDamage_box {capabilities : Capabilities}
    (part : capabilities.partialRedraw = true) {needsFullRedraw : Bool} :
    frameDamage capabilities needsFullRedraw size (.box b) = none ↔ ¬b.Meets size := by
  rw [← Damage.clipTo_eq_none]
  unfold frameDamage
  simp only [part, if_true]
  cases (Damage.box b).clipTo size with
  | none => simp
  | some area => cases needsFullRedraw <;> simp

theorem drawFrame_misses {c : Context B φ} {d : B.Device} {list : DisplayList}
    (part : (B.capabilities d).partialRedraw = true)
    (misses : ∀ size, c.viewport = some size → ¬b.Meets size) :
    (c.drawFrame H list (.box b)).Ensures d fun r _ => r = (.skipped, c) := by
  unfold drawFrame
  split
  case h_1 => exact ensures_pure.2 rfl
  case h_2 canvas there =>
    split
    case isTrue => exact ensures_bind.2 ((ensures_note _).2 (ensures_pure.2 rfl))
    case isFalse =>
      split
      case h_1 => exact ensures_bind.2 ((ensures_note _).2 (ensures_pure.2 rfl))
      case h_2 size sized =>
        refine ensures_bind.2 (ensures_get.2 ?_)
        simp only [(frameDamage_box part).2 (misses size sized)]
        exact ensures_pure.2 rfl

end Context

theorem drawsBox (explicit : b ≠ Damage.wholeRecord) : DrawsBox H b where
  sent p list live := by simp [Proxy.plan, Proxy.isEnabled, live, Proxy.planLive, Damage.ofBox?]
  acts c fresh list := by
    have kept : Damage.decode (Damage.box b).encode = .box b :=
      Damage.decode_encode_iff.2 (by simpa using explicit)
    simp only [Context.execute, kept]
  meets capabilities needsFullRedraw size part := Context.frameDamage_box part
  repaints capabilities size area part reached x y := by
    unfold Context.frameDamage at reached
    simp only [part, if_true] at reached
    rw [← Damage.any_contains_clipTo]
    cases clipped : (Damage.box b).clipTo size with
    | none => simp [clipped] at reached
    | some kept =>
      simp only [clipped, Bool.false_eq_true, if_false, Option.some.injEq] at reached
      rw [reached]
      rfl
  skips c canvas size d list there bound sized part misses := by
    unfold Context.drawFrame
    simp only [there, bound, sized, Bool.not_true, Bool.false_eq_true, if_false]
    rw [runOn_bind, runOn_get]
    simp only [(Context.frameDamage_box part).2 misses]
    rfl

end Contexts

/-! ### Surfaces -/

namespace Headless

variable {ω φ τ : Type} {report : LogRecord → ω → ω}
  {invoke : φ → Frame → FunctorInfo → StateM ω (Frame × Completion)}
  {perform : τ → StateM ω Completion} {d : Device ω}

section Misses

variable {b : DamageBox} {c : Context (backend report) φ}

theorem drawFrame_shown (list : DisplayList) (part : d.config.capabilities.partialRedraw = true)
    (misses : ∀ size, c.viewport = some size → ¬b.Meets size) :
    Preserves Device.shown (c.drawFrame (host report invoke perform) list (.box b)) d := by
  unfold Context.drawFrame
  split
  case h_1 => exact preserves_pure _
  case h_2 canvas there =>
    split
    case isTrue => exact (note_shown ..).bind (.of_forall fun _ _ => preserves_pure _)
    case isFalse =>
      split
      case h_1 => exact (note_shown ..).bind (.of_forall fun _ _ => preserves_pure _)
      case h_2 size sized =>
        refine preserves_get.bind (ensures_get.2 ?_)
        simp only [(Context.frameDamage_box part).2 (misses size sized)]
        exact preserves_pure _

/-- **A draw whose box misses the target is skipped.** What it leaves are the updates that waited
for it. -/
theorem draw_misses (list : DisplayList) (part : d.config.capabilities.partialRedraw = true)
    (misses : ∀ size, c.viewport = some size → ¬b.Meets size) :
    Preserves Device.shown (c.draw (host report invoke perform) list (.box b)) d ∧
      (c.draw (host report invoke perform) list (.box b)).Ensures d fun r _ =>
        r.1 = .skipped ∧ r.2.canvas = c.canvas := by
  let c₀ : Context (backend report) φ :=
    { c with registry := { c.registry with lastDrawn := some list } }
  have kept : Preserves Device.shown (c₀.applyLayerUpdates (host report invoke perform)) d :=
    applyLayerUpdates_shown c₀
  have updated : (c₀.applyLayerUpdates (host report invoke perform)).Ensures d fun c₁ d₁ =>
      c₁.canvas = c.canvas ∧ d₁.config.capabilities.partialRedraw = true ∧
        ∀ size, c₁.viewport = some size → ¬b.Meets size := by
    intro c₁ d₁ run
    obtain ⟨layers, rfl⟩ := Context.applyLayerUpdates_layers _ _ _ _ _ run
    rw [Preserves, run] at kept
    have same : d₁.config = d.config := congrArg Prod.fst kept
    exact ⟨rfl, same ▸ part, misses⟩
  constructor
  · refine kept.bind (updated.mono fun c₁ d₁ found => ?_)
    exact (drawFrame_shown list found.2.1 found.2.2).bind (.of_forall fun _ _ => preserves_pure _)
  · refine ensures_bind.2 (updated.mono fun c₁ d₁ found => ?_)
    refine ensures_bind.2 ((Context.drawFrame_misses found.2.1 found.2.2).mono ?_)
    rintro _ d₂ rfl
    exact ensures_pure.2 ⟨rfl, found.1⟩

end Misses

/-- What a box that misses the target comes to. The draw is skipped and nothing is presented, also
if an update that waited ends in a fault; the caller is told so, also if there is no reply any more.
-/
structure Misses (report : LogRecord → ω → ω)
    (invoke : φ → Frame → FunctorInfo → StateM ω (Frame × Completion))
    (perform : τ → StateM ω Completion) (b : DamageBox)
    (loop : RenderLoop (backend report) φ) (d : Device ω) (h : ProxyHandle)
    (c : Context (backend report) φ) (list : DisplayList) : Prop where
  skipped : (loop.serve (host report invoke perform)
      (.message h (.run (.draw list (Damage.box b).encode)))).Ensures d fun served _ =>
    ∃ c', served = .next ⟨loop.contexts.insert h c', loop.nextLayer⟩ (some ⟨h, .drawn .skipped⟩) ∧
      c'.canvas = c.canvas
  unseen : ((loop.serve (host report invoke perform)
      (.message h (.run (.draw list (Damage.box b).encode)))).runOn d).2.gallery = d.gallery
  returned : ∀ (p : Proxy) reply, (reply = none ∨ reply = some (.drawn .skipped)) →
    p.conclude (.draw list (some b) : Call Surface φ) reply = (p, .ok (.drawn .skipped))

theorem misses {b : DamageBox} (explicit : b ≠ Damage.wholeRecord)
    {loop : RenderLoop (backend report) φ} {h : ProxyHandle} {c : Context (backend report) φ}
    (there : loop.contexts.get? h = some c) (part : d.config.capabilities.partialRedraw = true)
    (none : ∀ size, c.viewport = some size → ¬b.Meets size) (list : DisplayList) :
    Misses report invoke perform b loop d h c list where
  skipped := by
    refine ensures_bind.2 ?_
    unfold RenderLoop.run
    simp only [there]
    refine ensures_bind.2 (ensures_bind.2 ((Context.ensures_note _).2 ?_))
    rw [(drawsBox _ explicit).acts]
    refine ensures_bind.2 ((draw_misses list ?_ none).2.mono ?_)
    · exact part
    · rintro ⟨_, c'⟩ d' ⟨rfl, same⟩
      exact ensures_pure.2 (ensures_pure.2 (ensures_pure.2 ⟨c', rfl, same⟩))
  unseen := by
    have kept : Preserves Device.shown (loop.serve (host report invoke perform)
        (.message h (.run (.draw list (Damage.box b).encode)))) d := by
      refine Preserves.bind ?_ (.of_forall fun _ _ => preserves_pure _)
      unfold RenderLoop.run
      simp only [there]
      refine Preserves.bind ?_ (.of_forall fun _ _ => preserves_pure _)
      refine (note_shown ..).bind ((Context.ensures_note _).2 ?_)
      rw [(drawsBox _ explicit).acts]
      refine (draw_misses list ?_ none).1.bind (.of_forall fun _ _ => preserves_pure _)
      exact part
    exact congrArg Prod.snd kept
  returned p reply answered := by
    rcases answered with rfl | rfl <;> rfl

/-- **Explicit damage is kept.** Every box but the one that stands for everything arrives on the
render thread as it was given, is repainted as far as it meets the target, and is skipped, with
nothing shown or changed, where it has no pixel of it. -/
theorem explicit_damage_kept {b : DamageBox} (explicit : b ≠ Damage.wholeRecord) :
    Damage.decode (Damage.box b).encode = .box b ∧ Damage.decode Damage.whole.encode = .whole ∧
    (∀ {σ φ τ : Type} {B : Backend σ} (H : Host B φ τ), DrawsBox H b) ∧
    ∀ {ω φ τ : Type} (report : LogRecord → ω → ω)
      (invoke : φ → Frame → FunctorInfo → StateM ω (Frame × Completion))
      (perform : τ → StateM ω Completion) (loop : RenderLoop (backend report) φ) (d : Device ω)
      (h : ProxyHandle) (c : Context (backend report) φ) (list : DisplayList),
      loop.contexts.get? h = some c → d.config.capabilities.partialRedraw = true →
      (∀ size, c.viewport = some size → ¬b.Meets size) →
        Misses report invoke perform b loop d h c list :=
  ⟨Damage.decode_encode_iff.2 (by simpa using explicit), rfl, fun H => drawsBox H explicit,
    fun _ _ _ _ _ _ _ list there part none => misses explicit there part none list⟩

def bound : Context (backend fun _ (_ : Unit) => ()) Unit :=
  let canvas : Canvas := ⟨false, some ⟨0, "window", false⟩, some ⟨1, 1⟩, .empty⟩
  { (.ofCanvas ⟨1⟩ canvas : Context (backend fun _ (_ : Unit) => ()) Unit) with
    viewport := some ⟨1, 1⟩
    surfaceBound := true }

theorem explicit_damage_kept_inverted :
    (⟨-1, -1, -1, -2⟩ : DamageBox) ≠ Damage.wholeRecord ∧
    ∃ loop : RenderLoop (backend fun _ (_ : Unit) => ()) Unit,
      loop.contexts.get? ⟨1⟩ = some bound ∧
      Misses _ (fun _ frame _ => pure (frame, .finished)) (fun _ : Unit => pure .finished)
        ⟨-1, -1, -1, -2⟩ loop (.start .standard ()) ⟨1⟩ bound ⟨⟨1⟩, []⟩ := by
  have kept := explicit_damage_kept (b := ⟨-1, -1, -1, -2⟩) (by decide)
  refine ⟨by decide, ⟨Table.empty.insert ⟨1⟩ bound, ⟨1⟩⟩, rfl, ?_⟩
  refine kept.2.2.2 _ _ _ _ _ _ _ _ rfl rfl fun size sized => ?_
  obtain rfl : ⟨1, 1⟩ = size := Option.some.inj sized
  exact Damage.clipTo_eq_none.1 (by decide)

end Headless

namespace Session

/-- A frame of everything, and then one with a box beside the target. -/
def drawBeside (box : DamageBox) : StateM (Stage Rig.headless) (List CallOutcome) := do
  let _ ← Stage.perform (.spawn ⟨"render", "render", standardCapacity, .standard⟩ none)
  match ← Stage.control.makeProxy 0 false with
  | .error _ => return []
  | .ok p => do
    let (p, _) ← Stage.control.perform 0 p (.bindSurface ⟨0, "window", false⟩)
    let (p, _) ← Stage.control.perform 0 p (.setup ⟨1, 1⟩)
    let (p, first) ← Stage.control.perform 0 p (.draw ⟨⟨1⟩, []⟩ none)
    let (_, second) ← Stage.control.perform 0 p (.draw ⟨⟨1⟩, []⟩ (some box))
    return [first, second]

def status? : CallOutcome → Option DrawStatus
  | .ok (.drawn status) => some status
  | _ => none

/-- The box that stands for everything is drawn, though it has no pixel of the target. -/
theorem whole_record_repaints :
    ¬Damage.wholeRecord.Meets ⟨1, 1⟩ ∧
      Damage.decode (Damage.box Damage.wholeRecord).encode = .whole ∧
      (drawBeside Damage.wholeRecord .empty).1.map status? = [some .drawn, some .drawn] :=
  ⟨Damage.clipTo_eq_none.1 (by decide), by decide, by decide +kernel⟩

end Session

end RenderRelay

import RenderRelay.Proofs.Gpu.Requests
import RenderRelay.Proofs.Rounding

/-!
Drawing in batches. Neighbours under equal clips share a draw, where clips are compared as numbers:
the two zeros are equal, and a clip with an undefined field differs from itself. Such a comparison
is symmetric and transitive, and equal clips have one scissor (`scissor_congr`), so the draws of a
batch are those of its instances one by one, in longest runs (`batch_draws_each`).
-/

namespace RenderRelay

/-! ### Equal clips -/

namespace Single

theorem beq_iff {a b : Single} : (a == b) = true ↔ ∃ v, a.value = some v ∧ b.value = some v := by
  unfold instBEq
  dsimp only
  split
  · next u v hu hv =>
    rw [hu, hv, beq_iff_eq]
    constructor
    · rintro rfl
      exact ⟨u, rfl, rfl⟩
    · rintro ⟨w, hu, hv⟩
      exact (Option.some.inj hu).trans (Option.some.inj hv).symm
  · next undefined =>
    simp only [Bool.false_eq_true, false_iff, not_exists, not_and]
    exact fun v hu hv => undefined v v hu hv

instance : PartialEquivBEq Single where
  symm same := by
    obtain ⟨v, hu, hv⟩ := beq_iff.1 same
    exact beq_iff.2 ⟨v, hv, hu⟩
  trans same same' := by
    obtain ⟨v, hu, hv⟩ := beq_iff.1 same
    obtain ⟨w, hv', hw⟩ := beq_iff.1 same'
    exact beq_iff.2 ⟨v, hu, hw.trans (hv'.symm.trans hv)⟩

theorem value_of_beq {a b : Single} (same : (a == b) = true) : a.value = b.value := by
  obtain ⟨v, hu, hv⟩ := beq_iff.1 same
  rw [hu, hv]

theorem lt_congr {a a' b : Single} (same : a.value = a'.value) : a.lt b = a'.lt b := by
  unfold lt
  rw [same]

end Single

namespace Rect

theorem beq_iff {r s : Rect} : (r == s) = true ↔
    (r.x == s.x) = true ∧ (r.y == s.y) = true ∧ (r.width == s.width) = true ∧
      (r.height == s.height) = true := by
  change (r.x == s.x && r.y == s.y && r.width == s.width && r.height == s.height) = true ↔ _
  simp only [Bool.and_eq_true, and_assoc]

instance : PartialEquivBEq Rect where
  symm same := by
    obtain ⟨x, y, width, height⟩ := beq_iff.1 same
    exact beq_iff.2 ⟨BEq.symm x, BEq.symm y, BEq.symm width, BEq.symm height⟩
  trans same same' := by
    obtain ⟨x, y, width, height⟩ := beq_iff.1 same
    obtain ⟨x', y', width', height'⟩ := beq_iff.1 same'
    exact beq_iff.2
      ⟨BEq.trans x x', BEq.trans y y', BEq.trans width width', BEq.trans height height'⟩

theorem normalizedSide_congr {start start' extent extent' : Single}
    (starts : start.value = start'.value) (extents : extent.value = extent'.value) :
    (normalizedSide start extent).1.value = (normalizedSide start' extent').1.value ∧
      (normalizedSide start extent).2.value = (normalizedSide start' extent').2.value := by
  unfold normalizedSide
  rw [Single.lt_congr extents]
  split
  · refine ⟨Single.value_add_congr starts extents, ?_⟩
    rw [Single.value_neg, Single.value_neg, extents]
  · exact ⟨starts, extents⟩

theorem coverage_congr {r s : Rect} (same : (r == s) = true) (width height : Nat) :
    r.coverage width height = s.coverage width height := by
  obtain ⟨x, y, w, h⟩ := beq_iff.1 same
  obtain ⟨left, across⟩ := normalizedSide_congr (Single.value_of_beq x) (Single.value_of_beq w)
  obtain ⟨top, down⟩ := normalizedSide_congr (Single.value_of_beq y) (Single.value_of_beq h)
  have bounded : r.isFinite = s.isFinite := by
    simp only [isFinite, Single.isFinite_congr (Single.value_of_beq x),
      Single.isFinite_congr (Single.value_of_beq y), Single.isFinite_congr (Single.value_of_beq w),
      Single.isFinite_congr (Single.value_of_beq h)]
  have box : PixelBox.mk (snap width r.normalized.x) (snap height r.normalized.y)
      (snap width r.normalized.right) (snap height r.normalized.bottom) =
      PixelBox.mk (snap width s.normalized.x) (snap height s.normalized.y)
        (snap width s.normalized.right) (snap height s.normalized.bottom) := by
    rw [PixelBox.mk.injEq]
    exact ⟨snap_congr left _, snap_congr top _, snap_congr (Single.value_add_congr left across) _,
      snap_congr (Single.value_add_congr top down) _⟩
  simp only [coverage, bounded, box]

end Rect

namespace Gpu

open RectRenderer (drawRuns instanceNumber quadIndices)

instance : PartialEquivBEq (Option Rect) where
  symm {a b} same := by
    cases a with
    | none => cases b with
      | none => rfl
      | some s => simp at same
    | some r => cases b with
      | none => simp at same
      | some s => exact @PartialEquivBEq.symm Rect _ _ r s same
  trans {a b c} same same' := by
    cases a with
    | none => cases b with
      | none => exact same'
      | some s => simp at same
    | some r => cases b with
      | none => simp at same
      | some s => cases c with
        | none => simp at same'
        | some t => exact @PartialEquivBEq.trans Rect _ _ r s t same same'

/-- **Equal clips have one scissor.** -/
theorem scissor_congr {a b : Option Rect} (same : (a == b) = true) (v : Viewport) :
    scissor a v = scissor b v := by
  cases a with
  | none =>
    cases b with
    | none => rfl
    | some s => simp at same
  | some r =>
    cases b with
    | none => simp at same
    | some s => exact Rect.coverage_congr same _ _

/-! ### Runs -/

/-- A longest run of equal clips, between what comes before and after it. -/
structure IsRun (clips before run after : List (Option Rect)) : Prop where
  parts : clips = before ++ run ++ after
  nonempty : run ≠ []
  alike : run.Pairwise fun a b => (a == b) = true
  starts : ∀ a ∈ before.getLast?, ∀ b ∈ run.head?, (a == b) = false
  ends : ∀ a ∈ run.getLast?, ∀ b ∈ after.head?, (a == b) = false

section

variable (clip : Option Rect) (rest : List (Option Rect))

theorem run_append :
    clip :: rest = clip :: rest.takeWhile (· == clip) ++ rest.dropWhile (· == clip) := by
  rw [List.cons_append, List.takeWhile_append_dropWhile]

theorem run_length : (clip :: rest.takeWhile (· == clip)).length +
    (rest.dropWhile (· == clip)).length = (clip :: rest).length := by
  rw [← List.length_append, ← run_append]

theorem beq_of_mem_run {a : Option Rect} (among : a ∈ rest.takeWhile (· == clip)) :
    (a == clip) = true :=
  List.all_eq_true.1 List.all_takeWhile a among

theorem run_alike :
    (clip :: rest.takeWhile (· == clip)).Pairwise fun a b => (a == b) = true := by
  refine List.pairwise_cons.2 ⟨fun a among => BEq.symm (beq_of_mem_run clip rest among), ?_⟩
  refine List.pairwise_of_forall_mem_list fun a amongA b amongB => ?_
  exact BEq.trans (beq_of_mem_run clip rest amongA) (BEq.symm (beq_of_mem_run clip rest amongB))

/-- The clip after a run differs from the last of the run. -/
theorem run_ends : ∀ a ∈ (clip :: rest.takeWhile (· == clip)).getLast?,
    ∀ b ∈ (rest.dropWhile (· == clip)).head?, (a == b) = false := by
  intro a last b next
  have different := List.head?_dropWhile_not (· == clip) rest
  rw [Option.mem_def.1 next] at different
  change (b == clip) = false at different
  rw [Bool.eq_false_iff]
  intro same
  have first : (b == clip) = true := by
    rcases List.mem_cons.1 (List.mem_of_getLast? last) with rfl | among
    · exact BEq.symm same
    · exact BEq.trans (BEq.symm same) (beq_of_mem_run clip rest among)
  rw [first] at different
  simp at different

end

/-! ### Draws -/

def Draw.instances (d : Draw) : List (Option PixelBox × Nat) :=
  (List.range' d.first (d.last - d.first)).map (d.pass.area, ·)

theorem instanceNumber_eq {n : Nat} (small : n < 0x100000000) : instanceNumber n = n :=
  Nat.mod_eq_of_lt small

/-- The draws of a batch: that of the first run, if it has a scissor, and those of the others. -/
theorem draws_batch (v : Viewport) (p : Pass) (first : Nat) (clip : Option Rect)
    (rest : List (Option Rect)) :
    ∃ p' : Pass, p'.instances = p.instances ∧
      draws p (drawRuns v first (clipRuns (clip :: rest))) =
        ((scissor clip v).map fun area => (⟨⟨some area, p.instances⟩, quadIndices.length,
          instanceNumber first,
          instanceNumber (first + (clip :: rest.takeWhile (· == clip)).length)⟩ : Draw)).toList ++
        draws p' (drawRuns v (first + (clip :: rest.takeWhile (· == clip)).length)
          (clipRuns (rest.dropWhile (· == clip)))) := by
  rw [clipRuns, drawRuns]
  cases scissor clip v with
  | none => exact ⟨p, rfl, rfl⟩
  | some area => exact ⟨⟨some area, p.instances⟩, rfl, rfl⟩

/-- The clips of a run are drawn under its scissor, or none of them is. -/
theorem filterMap_run (v : Viewport) (first : Nat) (clip : Option Rect)
    (rest : List (Option Rect)) :
    ((clip :: rest.takeWhile (· == clip)).zipIdx first).filterMap
        (fun (a, k) => (scissor a v).map fun area => (some area, k)) =
      ((scissor clip v).map fun area => (List.range' first
        (clip :: rest.takeWhile (· == clip)).length).map (some area, ·)).getD [] := by
  have same : ((clip :: rest.takeWhile (· == clip)).zipIdx first).filterMap
        (fun (a, k) => (scissor a v).map fun area => (some area, k)) =
      ((clip :: rest.takeWhile (· == clip)).zipIdx first).filterMap
        (fun (_, k) => (scissor clip v).map fun area => (some area, k)) := by
    refine List.filterMap_congr fun (a, k) among => ?_
    rcases List.mem_cons.1 (List.fst_mem_of_mem_zipIdx among) with rfl | later
    · rfl
    · simp only [scissor_congr (beq_of_mem_run clip rest later) v]
  rw [same, ← List.zipIdx_map_snd first]
  generalize clip :: rest.takeWhile (· == clip) = run
  cases scissor clip v with
  | none => exact List.filterMap_eq_nil_iff.2 fun _ _ => rfl
  | some area =>
    rw [Option.map_some, Option.getD_some, List.map_map]
    exact congrFun List.filterMap_eq_map _

/-- The draws of instances with these clips, from the place `base` on. -/
structure Batched (v : Viewport) (base : Nat) (clips : List (Option Rect)) (drawn : List Draw) :
    Prop where
  each : drawn.flatMap Draw.instances =
    (clips.zipIdx base).filterMap fun (clip, k) => (scissor clip v).map fun area => (some area, k)
  quads : ∀ a ∈ drawn, a.indices = quadIndices.length
  ordered : drawn.Pairwise fun a b => a.last ≤ b.first
  longest : ∀ a ∈ drawn, ∃ before run after, IsRun clips before run after ∧
    a.first = base + before.length ∧ a.last = a.first + run.length

theorem each_batch (v : Viewport) (p : Pass) {first : Nat} {clips : List (Option Rect)}
    (fits : first + clips.length < 0x100000000) :
    (draws p (drawRuns v first (clipRuns clips))).flatMap Draw.instances =
      (clips.zipIdx first).filterMap fun (clip, k) =>
        (scissor clip v).map fun area => (some area, k) := by
  induction clips using clipRuns.induct generalizing p first with
  | case1 =>
    rw [clipRuns]
    rfl
  | case2 clip rest ih =>
    obtain ⟨p', -, drawn⟩ := draws_batch v p first clip rest
    rw [← run_length, ← Nat.add_assoc] at fits
    rw [drawn, List.flatMap_append, ih p' fits, run_append clip rest, List.zipIdx_append,
      List.filterMap_append, filterMap_run]
    congr 1
    cases scissor clip v with
    | none => rfl
    | some area =>
      rw [instanceNumber_eq (by omega), instanceNumber_eq (by omega)]
      simp [Draw.instances]

theorem longest_batch (v : Viewport) (p : Pass) {base : Nat}
    {clips before current : List (Option Rect)} (fits : base + clips.length < 0x100000000)
    (parts : clips = before ++ current)
    (starts : ∀ a ∈ before.getLast?, ∀ b ∈ current.head?, (a == b) = false) :
    ∀ d ∈ draws p (drawRuns v (base + before.length) (clipRuns current)),
      d.indices = quadIndices.length ∧ d.pass.instances = p.instances ∧
        ∃ outer run after, IsRun clips outer run after ∧ d.first = base + outer.length ∧
          d.last = d.first + run.length := by
  induction current using clipRuns.induct generalizing p before with
  | case1 =>
    rw [clipRuns]
    intro d among
    simp [drawRuns, draws] at among
  | case2 clip rest ih =>
    have isRun : IsRun clips before (clip :: rest.takeWhile (· == clip))
        (rest.dropWhile (· == clip)) := by
      refine ⟨?_, by simp, run_alike clip rest, starts, run_ends clip rest⟩
      rw [parts, List.append_assoc, ← run_append]
    obtain ⟨p', passed, drawn⟩ := draws_batch v p (base + before.length) clip rest
    have count := congrArg List.length isRun.parts
    rw [List.length_append, List.length_append] at count
    -- what is left comes after the run
    have later := ih p' isRun.parts (by
      rw [List.getLast?_append_of_ne_nil _ isRun.nonempty]
      exact isRun.ends)
    rw [List.length_append, ← Nat.add_assoc] at later
    rw [drawn]
    intro d among
    rcases List.mem_append.1 among with head | tail
    · cases found : scissor clip v with
      | none => simp [found] at head
      | some area =>
        rw [found, Option.map_some, Option.toList_some, List.mem_singleton] at head
        rw [head, instanceNumber_eq (by omega), instanceNumber_eq (by omega)]
        exact ⟨rfl, rfl, before, _, _, isRun, rfl, rfl⟩
    · obtain ⟨whole, same, rest⟩ := later d tail
      exact ⟨whole, same.trans passed, rest⟩

theorem ordered_batch (v : Viewport) (p : Pass) {first : Nat} {clips : List (Option Rect)}
    (fits : first + clips.length < 0x100000000) :
    (draws p (drawRuns v first (clipRuns clips))).Pairwise fun a b => a.last ≤ b.first := by
  induction clips using clipRuns.induct generalizing p first with
  | case1 =>
    rw [clipRuns]
    exact .nil
  | case2 clip rest ih =>
    obtain ⟨p', -, drawn⟩ := draws_batch v p first clip rest
    rw [← run_length, ← Nat.add_assoc] at fits
    rw [drawn]
    refine List.pairwise_append.2 ⟨?_, ih p' fits, ?_⟩
    · cases scissor clip v <;> simp
    · intro a head b tail
      have start := longest_batch v p' fits (List.nil_append _).symm (by simp) b tail
      obtain ⟨-, -, outer, run, after, -, begins, -⟩ := start
      cases found : scissor clip v with
      | none => simp [found] at head
      | some area =>
        rw [found, Option.map_some, Option.toList_some, List.mem_singleton] at head
        rw [head, begins]
        exact Nat.le_trans (Nat.mod_le ..) (Nat.le_add_right ..)

/-- **A batch draws what its rectangles draw one by one.** Where there is room whose places can be
numbered, and that is so of every frame whose places can, rectangles are drawn in order, each at its
place and under the scissor of its own clip, in longest runs of equal clips. -/
theorem batch_draws_each {rects : List PendingRect} (waiting : rects ≠ []) {viewport : Viewport}
    (pixels : viewport.isEmpty = false) (r : RectRenderer) (format : TextureFormat) (d : Device) :
    (∀ place arena, r.room rects.length = .ok (place, arena) →
      place.base + rects.length < 0x100000000 →
      ∃ r' d' calls, (r.render format viewport rects).run d = (.ok r', d') ∧
        d'.calls = d.calls ++ calls ∧
        Batched viewport place.base (rects.map PendingRect.clip) (draws .fresh calls)) ∧
    (r.presentArena.cursor + rects.length < 0x100000000 →
      ∃ place arena, r.room rects.length = .ok (place, arena) ∧
        place.base + rects.length < 0x100000000) := by
  refine ⟨fun place arena room fits => ?_, RectRenderer.room_of_fits⟩
  have effective : (rects.isEmpty || viewport.isEmpty) = false := by
    rw [pixels, Bool.or_false, List.isEmpty_eq_false_iff]
    exact waiting
  obtain ⟨pipeline, quad, binding, made, r₁, d₁, ready, -, run⟩ :=
    RectRenderer.render_asks effective r format d
  rw [room] at run
  refine ⟨_, _, _, run, rfl, ?_⟩
  rw [← List.length_map (f := PendingRect.clip)] at fits
  rw [RectRenderer.draws_render ready.prepares]
  generalize rects.map PendingRect.clip = clips at fits ⊢
  have longest := longest_batch viewport ⟨none, some (r.instanceBuffer d₁.buffers place)⟩ fits
    (List.nil_append clips).symm (by simp)
  exact
    { each := each_batch viewport _ fits
      quads := fun a among => (longest a among).1
      ordered := ordered_batch viewport _ fits
      longest := fun a among => (longest a among).2.2 }

/-- Under equal clips that differ in the sign of a zero, then under an undefined clip twice, then
under none. -/
def sixRects : List PendingRect :=
  [some ⟨0, 0, 2, 2⟩, some ⟨.ofBits 0x80000000, 0, 2, 2⟩, some ⟨.nan, 0, 2, 2⟩,
    some ⟨.nan, 0, 2, 2⟩, none, none].map (.ofRect ⟨0, 0, 4, 4⟩ .white)

theorem batch_draws_each_six :
    sixRects ≠ [] ∧ Viewport.isEmpty ⟨4, 4⟩ = false ∧
    ∃ r' d' calls, (RectRenderer.empty.render ⟨"Rgba8Unorm"⟩ ⟨4, 4⟩ sixRects).run .fresh =
        (.ok r', d') ∧ d'.calls = calls ∧
      (draws .fresh calls).flatMap Draw.instances =
        [(some ⟨0, 0, 2, 2⟩, 0), (some ⟨0, 0, 2, 2⟩, 1), (some ⟨0, 0, 4, 4⟩, 4),
          (some ⟨0, 0, 4, 4⟩, 5)] := by
  have waiting : sixRects ≠ [] := by simp [sixRects]
  have pixels : Viewport.isEmpty ⟨4, 4⟩ = false := rfl
  obtain ⟨drawn, places⟩ := batch_draws_each waiting pixels .empty ⟨"Rgba8Unorm"⟩ .fresh
  have fits : RectRenderer.empty.presentArena.cursor + sixRects.length < 0x100000000 := by
    decide +kernel
  obtain ⟨place, arena, room, small⟩ := places fits
  obtain ⟨r', d', calls, run, asked, batched⟩ := drawn place arena room small
  refine ⟨waiting, pixels, r', d', calls, run, asked, ?_⟩
  obtain rfl : place = .grow 64 := by
    have grown : RectRenderer.empty.room sixRects.length = .ok (.grow 64, ⟨64, 6⟩) := by
      decide +kernel
    exact (Prod.mk.inj (Except.ok.inj (room.symm.trans grown))).1
  rw [batched.each]
  decide +kernel

end Gpu

end RenderRelay

import RenderRelay.Bench.GpuBench
import RenderRelay.Proofs.Gpu.Batching

/-!
Instance data over the life of a renderer. What the arena believes about its buffer is true of the
record: the buffer was made, of this size, and all that was written into it since the frame began
ends where the cursor stands (`Sound`). Every step keeps that (`Sound.step`), so the writes of a
frame lie apart, each in its buffer, and a draw finds what its own call wrote
(`instance_data_apart`).
-/

namespace RenderRelay.Gpu

open Bench (RendererStep)

/-! ### Steps -/

/-- A step of a renderer that comes to no fault, with its requests. -/
inductive Stepped (r : RectRenderer) (d : Device) :
    RendererStep → List DeviceCall → RectRenderer → Device → Prop
  | beginFrame : Stepped r d .beginFrame [] r.beginFrame d
  | trim : Stepped r d .trim [] r.trim d
  | idle {format : TextureFormat} {viewport : Viewport} {rects : List PendingRect}
    (nothing : (rects.isEmpty || viewport.isEmpty) = true) :
    Stepped r d (.render format viewport rects) [] r d
  | rendered {format : TextureFormat} {viewport : Viewport} {rects : List PendingRect}
    {place : Reservation} {arena : InstanceArena} {pipeline : Pipeline} {quad : Quad}
    {binding : Binding} {made : List DeviceCall} {r₁ : RectRenderer} {d₁ : Device}
    (effective : (rects.isEmpty || viewport.isEmpty) = false)
    (room : r.room rects.length = .ok (place, arena)) (ready : r.GetsReady d made r₁ d₁)
    (bound : r₁.binding = some binding) :
    Stepped r d (.render format viewport rects)
      (made ++ place.requests d₁.buffers ++ RectRenderer.passRequests pipeline quad binding
        (r.instanceBuffer d₁.buffers place) place.base viewport rects)
      { r₁ with instances := r.instanceBuffer d₁.buffers place, arena }
      { d₁ with buffers := d₁.buffers + (place.requests d₁.buffers).length, calls := [] }

theorem stepped_of_run {step : RendererStep} {r r' : RectRenderer} {d d' : Device}
    {calls : List DeviceCall} (taken : d.calls = [])
    (run : step.run r d = (.ok calls, r', d')) : Stepped r d step calls r' d' := by
  cases step with
  | beginFrame =>
    cases run
    exact .beginFrame
  | trim =>
    cases run
    exact .trim
  | render format viewport rects =>
    cases effective : rects.isEmpty || viewport.isEmpty with
    | true =>
      have same : Device.mk d.buffers d.pipelines d.groups [] = d := by rw [← taken]
      simp only [RendererStep.run, RectRenderer.render_idle effective, Device.takeCalls, taken,
        same] at run
      cases run
      exact .idle effective
    | false =>
      obtain ⟨pipeline, quad, binding, made, r₁, d₁, ready, bound, asked⟩ :=
        RectRenderer.render_asks effective r format d
      cases room : r.room rects.length with
      | error fault =>
        rw [room] at asked
        simp [RendererStep.run, asked] at run
      | ok placed =>
        obtain ⟨place, arena⟩ := placed
        rw [room] at asked
        simp only [RendererStep.run, asked, Device.takeCalls, taken, List.nil_append] at run
        cases run
        exact .rendered effective room ready bound

/-- Steps without a fault, each with its requests, from a renderer and a device that are new. -/
inductive Ran : List (RendererStep × List DeviceCall) → RectRenderer → Device → Prop
  | start : Ran [] .empty .fresh
  | next {past : List (RendererStep × List DeviceCall)} {r r' : RectRenderer} {d d' : Device}
    {step : RendererStep} {calls : List DeviceCall} (ran : Ran past r d)
    (run : step.run r d = (.ok calls, r', d')) : Ran (past ++ [(step, calls)]) r' d'

def history (past : List (RendererStep × List DeviceCall)) : List DeviceCall :=
  past.flatMap Prod.snd

def afterStep (frame : List DeviceCall) (done : RendererStep × List DeviceCall) : List DeviceCall :=
  match done.1 with
  | .beginFrame => []
  | _ => frame ++ done.2

def sinceFrame (past : List (RendererStep × List DeviceCall)) : List DeviceCall :=
  past.foldl afterStep []

theorem history_next (past : List (RendererStep × List DeviceCall)) (step : RendererStep)
    (calls : List DeviceCall) : history (past ++ [(step, calls)]) = history past ++ calls := by
  simp [history]

theorem sinceFrame_next (past : List (RendererStep × List DeviceCall)) (step : RendererStep)
    (calls : List DeviceCall) :
    sinceFrame (past ++ [(step, calls)]) = afterStep (sinceFrame past) (step, calls) := by
  simp [sinceFrame]

/-! ### Sizes -/

namespace InstanceArena

theorem isPowerOfTwo_growth (used : Nat) : (growth used).isPowerOfTwo := by
  have power : (powerAbove used).isPowerOfTwo := by
    unfold powerAbove
    split
    · exact ⟨0, rfl⟩
    · exact ⟨_, Nat.one_shiftLeft _⟩
  rcases Nat.le_total (powerAbove used) minCapacity with le | le
  · rw [growth, Nat.max_eq_right le]
    exact ⟨6, rfl⟩
  · rwa [growth, Nat.max_eq_left le]

theorem minCapacity_le_growth (used : Nat) : minCapacity ≤ growth used := Nat.le_max_right ..

theorem le_growth (used : Nat) : used ≤ growth used :=
  Nat.le_trans (le_powerAbove used) (Nat.le_max_left ..)

end InstanceArena

/-! ### What is kept -/

def HoldsInstances (calls : List DeviceCall) (buffer capacity : Nat) : Prop :=
  .createBuffer buffer instanceLabel (capacity * PendingRect.instanceBytes) [.copyDst, .vertex] ∈
    calls

def HoldsViewport (calls : List DeviceCall) (buffer : Nat) : Prop :=
  .createBuffer buffer "tessera rect viewport ubo" RectRenderer.uniformBytes [.copyDst, .uniform] ∈
    calls

def Lies (calls : List DeviceCall) (w : Span) : Prop :=
  ∃ label bytes usage, .createBuffer w.buffer label bytes usage ∈ calls ∧ w.last ≤ bytes

/-- The renderer and its arena agree with the record, and with what was asked for since the frame
began. -/
structure Sound (record frame : List DeviceCall) (r : RectRenderer) (d : Device) : Prop where
  taken : d.calls = []
  numbers : record.filterMap DeviceCall.buffer? = List.range d.buffers
  uniform : r.HasUniform record
  bare : r.instances = none → r.arena = .empty
  sized : ∀ buffer, r.instances = some buffer → HoldsInstances record buffer r.arena.capacity ∧
    r.arena.capacity.isPowerOfTwo ∧ InstanceArena.minCapacity ≤ r.arena.capacity
  cursor : r.arena.cursor ≤ r.arena.capacity
  recorded : ∀ w ∈ writes frame, w ∈ writes record
  lies : ∀ w ∈ writes record, Lies record w
  below : ∀ w ∈ writes frame, r.instances = some w.buffer → HoldsViewport record w.buffer ∨
    w.last ≤ r.arena.cursor * PendingRect.instanceBytes
  apart : (writes frame).Pairwise fun a b => a.buffer = b.buffer → HoldsViewport record a.buffer ∨
    a.last ≤ b.first

theorem range_append_range' {m n : Nat} (le : m ≤ n) :
    List.range m ++ List.range' m (n - m) = List.range n := by
  have joined := @List.range'_append 0 m (n - m) 1
  rwa [Nat.zero_add, Nat.one_mul, Nat.add_sub_of_le le, ← List.range_eq_range',
    ← List.range_eq_range'] at joined

namespace Sound

variable {record frame : List DeviceCall} {r : RectRenderer} {d : Device}

theorem start : Sound [] [] .empty .fresh where
  taken := rfl
  numbers := rfl
  uniform binding bound := by simp [RectRenderer.empty] at bound
  bare _ := rfl
  sized buffer some := by simp [RectRenderer.empty] at some
  cursor := Nat.le_refl _
  recorded := by simp [writes]
  lies := by simp [writes]
  below := by simp [writes]
  apart := .nil

theorem beginFrame (sound : Sound record frame r d) : Sound record [] r.beginFrame d where
  taken := sound.taken
  numbers := sound.numbers
  uniform := sound.uniform
  bare none := by
    rw [RectRenderer.beginFrame, InstanceArena.rewind, sound.bare none]
    rfl
  sized := sound.sized
  cursor := Nat.zero_le _
  recorded := by simp [writes]
  lies := sound.lies
  below := by simp [writes]
  apart := .nil

theorem trim (sound : Sound record frame r d) : Sound record frame r.trim d where
  taken := sound.taken
  numbers := sound.numbers
  uniform := sound.uniform
  bare _ := rfl
  sized buffer some := by simp [RectRenderer.trim] at some
  cursor := Nat.le_refl _
  recorded := sound.recorded
  lies := sound.lies
  below w _ some := by simp [RectRenderer.trim] at some
  apart := sound.apart

/-- The arena that room is looked for in is the renderer's own. -/
theorem presentArena (sound : Sound record frame r d) : r.presentArena = r.arena := by
  unfold RectRenderer.presentArena
  split
  case isTrue missing => exact (sound.bare (Option.isNone_iff_eq_none.1 missing)).symm
  case isFalse => rfl

theorem lt_of_made (sound : Sound record frame r d) {buffer bytes : Nat} {label : String}
    {usage : List BufferUsage} (made : .createBuffer buffer label bytes usage ∈ record) :
    buffer < d.buffers := by
  have number : buffer ∈ record.filterMap DeviceCall.buffer? :=
    List.mem_filterMap.2 ⟨_, made, rfl⟩
  rw [sound.numbers] at number
  exact List.mem_range.1 number

theorem lt_of_written (sound : Sound record frame r d) {w : Span} (written : w ∈ writes record) :
    w.buffer < d.buffers := by
  obtain ⟨label, bytes, usage, made, -⟩ := sound.lies w written
  exact sound.lt_of_made made

/-- A place lies in a buffer that was made and is large enough, and nothing was written there in
this frame. -/
structure Placed (record frame : List DeviceCall) (r : RectRenderer) (buffer count : Nat)
    (place : Reservation) (arena : InstanceArena) (calls : List DeviceCall) : Prop where
  holds : HoldsInstances (record ++ calls) buffer arena.capacity
  power : arena.capacity.isPowerOfTwo
  least : InstanceArena.minCapacity ≤ arena.capacity
  cursor : arena.cursor = place.base + count
  fits : arena.cursor ≤ arena.capacity
  grows : r.arena.capacity ≤ arena.capacity
  earlier : ∀ w ∈ writes frame, w.buffer = buffer → HoldsViewport record w.buffer ∨
    w.last ≤ place.base * PendingRect.instanceBytes

theorem placed (sound : Sound record frame r d) {count : Nat} {place : Reservation}
    {arena : InstanceArena} (room : r.room count = .ok (place, arena)) {next : Nat}
    (later : d.buffers ≤ next) {calls : List DeviceCall}
    (requested : ∀ call ∈ place.requests next, call ∈ calls) :
    Placed record frame r (r.instanceBuffer next place) count place arena calls := by
  have reserved := RectRenderer.room_reserves room
  rw [sound.presentArena] at reserved
  rcases InstanceArena.reserve_cases reserved with
    ⟨rfl, -, fits, rfl⟩ | ⟨rfl, tooSmall, rfl⟩
  · obtain ⟨buffer, present⟩ := Option.isSome_iff_exists.1 (RectRenderer.isSome_of_within room)
    obtain ⟨holds, power, least⟩ := sound.sized buffer present
    have same : r.instanceBuffer next (.within r.arena.cursor) = buffer := by
      rw [RectRenderer.instanceBuffer, present, Option.getD_some]
    rw [same]
    refine ⟨List.mem_append_left _ holds, power, least, rfl, fits, Nat.le_refl _, ?_⟩
    rintro w written rfl
    exact sound.below w written present
  · have large := InstanceArena.le_growth (r.arena.cursor + count)
    refine ⟨List.mem_append_right _ (requested _ (.head _)), InstanceArena.isPowerOfTwo_growth _,
      InstanceArena.minCapacity_le_growth _, (Nat.zero_add _).symm, ?_, ?_, ?_⟩
    · simp only
      omega
    · simp only
      omega
    · -- the buffer is new
      intro w written same
      have old := sound.lt_of_written (sound.recorded w written)
      rw [same] at old
      exact absurd old (Nat.not_lt.2 later)

/-- What a call that draws adds to a record: buffers with the next numbers, a viewport in a buffer
made for it, and instances. -/
structure Adds (record : List DeviceCall) (d : Device) (calls : List DeviceCall)
    (next uniform : Nat) (instances : Span) : Prop where
  le : d.buffers ≤ next
  numbers : calls.filterMap DeviceCall.buffer? = List.range' d.buffers (next - d.buffers)
  viewport : HoldsViewport (record ++ calls) uniform
  written : writes calls = [⟨uniform, 0, RectRenderer.uniformBytes⟩, instances]

theorem Adds.cases_written {calls : List DeviceCall} {next uniform : Nat} {instances w : Span}
    (adds : Adds record d calls next uniform instances) {past : List DeviceCall}
    (among : w ∈ writes (past ++ calls)) :
    w ∈ writes past ∨ w = ⟨uniform, 0, RectRenderer.uniformBytes⟩ ∨ w = instances := by
  rw [writes_append, adds.written] at among
  simpa only [List.mem_append, List.mem_cons, List.not_mem_nil, or_false] using among

theorem adds (sound : Sound record frame r d) {viewport : Viewport} {rects : List PendingRect}
    {place : Reservation} {pipeline : Pipeline} {quad : Quad} {binding : Binding}
    {made : List DeviceCall} {r₁ : RectRenderer} {d₁ : Device} (ready : r.GetsReady d made r₁ d₁)
    (bound : r₁.binding = some binding) (instances : Nat) :
    Adds record d
      (made ++ place.requests d₁.buffers ++
        RectRenderer.passRequests pipeline quad binding instances place.base viewport rects)
      (d₁.buffers + (place.requests d₁.buffers).length) binding.uniform
      ⟨instances, place.base * PendingRect.instanceBytes,
        (place.base + rects.length) * PendingRect.instanceBytes⟩ where
  le := Nat.le_add_right_of_le ready.le
  numbers := RectRenderer.numbers_render ready ..
  viewport := by
    have known := ready.uniform record sound.uniform binding bound
    rw [← List.append_assoc, ← List.append_assoc]
    exact List.mem_append_left _ (List.mem_append_left _ known)
  written := RectRenderer.writes_render ready.prepares ..

/-- A call that draws keeps the agreement, as it writes its instances at such a place. -/
theorem rendered (sound : Sound record frame r d) {r' : RectRenderer} {d' : Device}
    {calls : List DeviceCall} {place : Reservation} {binding : Binding} {buffer count : Nat}
    (taken : d'.calls = []) (bound : r'.binding = some binding)
    (present : r'.instances = some buffer)
    (placed : Placed record frame r buffer count place r'.arena calls)
    (adds : Adds record d calls d'.buffers binding.uniform ⟨buffer,
      place.base * PendingRect.instanceBytes, (place.base + count) * PendingRect.instanceBytes⟩) :
    Sound (record ++ calls) (frame ++ calls) r' d' := by
  have still {b : Nat} (known : HoldsViewport record b) : HoldsViewport (record ++ calls) b :=
    List.mem_append_left _ known
  constructor
  case taken => exact taken
  case numbers =>
    rw [List.filterMap_append, sound.numbers, adds.numbers]
    exact range_append_range' adds.le
  case uniform =>
    intro other tied
    obtain rfl : binding = other := Option.some.inj (bound.symm.trans tied)
    exact adds.viewport
  case bare =>
    intro none
    simp [present] at none
  case sized =>
    intro other held
    obtain rfl : buffer = other := Option.some.inj (present.symm.trans held)
    exact ⟨placed.holds, placed.power, placed.least⟩
  case cursor => exact placed.fits
  case recorded =>
    intro w among
    rw [writes_append, List.mem_append] at among ⊢
    exact among.imp_left (sound.recorded w)
  case lies =>
    intro w among
    rcases adds.cases_written among with old | rfl | rfl
    · obtain ⟨label, bytes, usage, made, within⟩ := sound.lies w old
      exact ⟨label, bytes, usage, List.mem_append_left _ made, within⟩
    · exact ⟨_, _, _, adds.viewport, Nat.le_refl _⟩
    · refine ⟨_, _, _, placed.holds, Nat.mul_le_mul_right _ ?_⟩
      rw [← placed.cursor]
      exact placed.fits
  case below =>
    intro w among held
    have same : w.buffer = buffer := Option.some.inj (held.symm.trans present)
    rcases adds.cases_written among with old | rfl | rfl
    · refine (placed.earlier w old same).imp still fun ends => ?_
      rw [placed.cursor, Nat.add_mul]
      exact Nat.le_add_right_of_le ends
    · exact .inl adds.viewport
    · exact .inr (by rw [placed.cursor])
  case apart =>
    rw [writes_append, adds.written]
    refine List.pairwise_append.2 ⟨?_, ?_, ?_⟩
    · exact sound.apart.imp fun apart same => (apart same).imp_left still
    · refine List.pairwise_cons.2 ⟨fun _ _ _ => .inl adds.viewport, ?_⟩
      simp
    · intro a old b new same
      simp only [List.mem_cons, List.not_mem_nil, or_false] at new
      rcases new with rfl | rfl
      · rw [same]
        exact .inl adds.viewport
      · exact (placed.earlier a old same).imp_left still

end Sound

theorem Stepped.sound {record frame calls : List DeviceCall} {r r' : RectRenderer} {d d' : Device}
    {step : RendererStep} (stepped : Stepped r d step calls r' d')
    (sound : Sound record frame r d) :
    Sound (record ++ calls) (afterStep frame (step, calls)) r' d' := by
  cases stepped with
  | beginFrame =>
    rw [List.append_nil]
    exact sound.beginFrame
  | trim =>
    rw [afterStep, List.append_nil, List.append_nil]
    exact sound.trim
  | idle nothing =>
    rw [afterStep, List.append_nil, List.append_nil]
    exact sound
  | rendered effective room ready bound =>
    refine sound.rendered rfl bound rfl (sound.placed room ready.le fun call among => ?_)
      (sound.adds ready bound _)
    exact List.mem_append_left _ (List.mem_append_right _ among)

theorem Ran.sound {past : List (RendererStep × List DeviceCall)} {r : RectRenderer} {d : Device}
    (ran : Ran past r d) : Sound (history past) (sinceFrame past) r d := by
  induction ran with
  | start => exact .start
  | next ran run ih =>
    rw [history_next, sinceFrame_next]
    exact (stepped_of_run ih.taken run).sound ih

theorem Ran.rendering {past : List (RendererStep × List DeviceCall)} {r : RectRenderer} {d : Device}
    (ran : Ran past r d) (format : TextureFormat) (viewport : Viewport) (rects : List PendingRect)
    (effective : (rects.isEmpty || viewport.isEmpty) = false) {place : Reservation}
    {arena : InstanceArena} (room : r.room rects.length = .ok (place, arena)) :
    ∃ calls r' d', Ran (past ++ [(.render format viewport rects, calls)]) r' d' ∧
      r'.arena = arena ∧ r'.instances.isSome = true := by
  obtain ⟨_, _, _, _, _, d₁, _, _, asked⟩ := RectRenderer.render_asks effective r format d
  rw [room] at asked
  obtain ⟨calls, r', d', run, shown⟩ : ∃ calls r' d',
      (RendererStep.render format viewport rects).run r d = (.ok calls, r', d') ∧
        r'.arena = arena ∧ r'.instances.isSome = true := by
    rw [RendererStep.run, asked]
    exact ⟨_, _, _, rfl, rfl, rfl⟩
  exact ⟨calls, r', d', ran.next run, shown⟩

/-! ### The life of a renderer -/

/-- A draw takes its instances from the buffer that is set, and all of them were written there by
these requests. -/
def Draw.Finds (calls : List DeviceCall) (a : Draw) : Prop :=
  ∃ w ∈ writes calls, a.pass.instances = some w.buffer ∧
    w.first ≤ a.first * PendingRect.instanceBytes ∧ a.last * PendingRect.instanceBytes ≤ w.last

/-- The instance data that a renderer has written: no buffer is filled beyond the cursor or twice in
one place, no buffer number is used twice, and where the places of a call can be numbered its draws
find what it wrote. -/
structure InstancesApart (past : List (RendererStep × List DeviceCall)) (r : RectRenderer)
    (d : Device) : Prop where
  once : ((history past).filterMap DeviceCall.buffer?).Nodup
  capacity_eq_zero : r.arena.capacity = 0 ↔ r.instances = none
  sized : ∀ buffer, r.instances = some buffer →
    HoldsInstances (history past) buffer r.arena.capacity ∧ r.arena.capacity.isPowerOfTwo ∧
      64 ≤ r.arena.capacity
  cursor : r.arena.cursor ≤ r.arena.capacity
  lies : ∀ w ∈ writes (history past), Lies (history past) w
  apart : (writes (sinceFrame past)).Pairwise fun a b => a.buffer = b.buffer →
    ∀ capacity, HoldsInstances (history past) a.buffer capacity → a.last ≤ b.first
  grows : ∀ (step : RendererStep) (calls : List DeviceCall) (r' : RectRenderer) (d' : Device),
    step.run r d = (.ok calls, r', d') → step ≠ .trim → r.arena.capacity ≤ r'.arena.capacity
  finds : ∀ (format : TextureFormat) (viewport : Viewport) (rects : List PendingRect)
    (place : Reservation) (arena : InstanceArena) (calls : List DeviceCall) (r' : RectRenderer)
    (d' : Device), r.room rects.length = .ok (place, arena) →
    place.base + rects.length < 0x100000000 →
    (RendererStep.render format viewport rects).run r d = (.ok calls, r', d') →
    ∀ a ∈ draws .fresh calls, a.Finds calls

theorem eq_of_made {calls : List DeviceCall} (once : (calls.filterMap DeviceCall.buffer?).Nodup)
    {a b : DeviceCall} (madeA : a ∈ calls) (madeB : b ∈ calls) {buffer : Nat}
    (numberA : a.buffer? = some buffer) (numberB : b.buffer? = some buffer) : a = b := by
  induction calls with
  | nil => simp at madeA
  | cons call rest ih =>
    have later : (rest.filterMap DeviceCall.buffer?).Nodup :=
      ((List.sublist_cons_self call rest).filterMap _).nodup once
    have alone {other : DeviceCall} (first : call.buffer? = some buffer)
        (number : other.buffer? = some buffer) : other ∉ rest := by
      intro among
      rw [List.filterMap_cons, first] at once
      exact (List.nodup_cons.1 once).1 (List.mem_filterMap.2 ⟨other, among, number⟩)
    rcases List.mem_cons.1 madeA with rfl | amongA
    · rcases List.mem_cons.1 madeB with rfl | amongB
      · rfl
      · exact absurd amongB (alone numberA numberB)
    · rcases List.mem_cons.1 madeB with rfl | amongB
      · exact absurd amongA (alone numberB numberA)
      · exact ih later amongA amongB

/-- **Instance data of one frame never collides.** -/
theorem instance_data_apart {past : List (RendererStep × List DeviceCall)} {r : RectRenderer}
    {d : Device} (ran : Ran past r d) : InstancesApart past r d := by
  have sound := ran.sound
  have once : ((history past).filterMap DeviceCall.buffer?).Nodup := by
    rw [sound.numbers]
    exact List.nodup_range
  constructor
  case once => exact once
  case capacity_eq_zero =>
    cases present : r.instances with
    | none => simp [sound.bare present, InstanceArena.empty]
    | some buffer =>
      have least := (sound.sized buffer present).2.2
      unfold InstanceArena.minCapacity at least
      simp only [reduceCtorEq, iff_false]
      omega
  case sized => exact sound.sized
  case cursor => exact sound.cursor
  case lies => exact sound.lies
  case apart =>
    refine sound.apart.imp fun apart same capacity holds => (apart same).resolve_left ?_
    intro viewport
    have clash := eq_of_made once holds viewport rfl rfl
    simp [instanceLabel] at clash
  case grows =>
    intro step calls r' d' run other
    cases stepped_of_run sound.taken run with
    | beginFrame => exact Nat.le_refl _
    | trim => exact absurd rfl other
    | idle => exact Nat.le_refl _
    | rendered effective room ready bound =>
      exact (sound.placed room ready.le fun call among => among).grows
  case finds =>
    intro format viewport rects place arena calls r' d' room fits run a among
    cases stepped_of_run sound.taken run with
    | idle => simp [draws] at among
    | @rendered _ _ _ place' arena' pipeline quad binding made r₁ d₁ effective room' ready bound =>
      obtain ⟨rfl, rfl⟩ := Prod.mk.inj (Except.ok.inj (room.symm.trans room'))
      rw [RectRenderer.draws_render ready.prepares] at among
      rw [← List.length_map (f := PendingRect.clip)] at fits
      obtain ⟨-, bound, outer, run, after, isRun, first, last⟩ :=
        longest_batch viewport _ fits (List.nil_append _).symm (by simp) a among
      have count := congrArg List.length isRun.parts
      rw [List.length_map, List.length_append, List.length_append] at count
      unfold Draw.Finds
      rw [RectRenderer.writes_render ready.prepares]
      refine ⟨_, .tail _ (.head _), bound, ?_, ?_⟩
      · exact Nat.mul_le_mul_right _ (by omega)
      · exact Nat.mul_le_mul_right _ (by omega)

def squares (count : Nat) : List PendingRect := .replicate count (.ofRect ⟨0, 0, 1, 1⟩ .white none)

def drawSquares (count : Nat) : RendererStep := .render ⟨"Rgba8Unorm"⟩ ⟨4, 4⟩ (squares count)

/-- The buffer becomes too small within a frame, and is written anew in the next one. -/
theorem instance_data_apart_growth :
    ∃ past r d, Ran past r d ∧
      past.map Prod.fst = [drawSquares 3, drawSquares 70, .beginFrame, drawSquares 5] ∧
      r.arena = ⟨128, 5⟩ ∧ InstancesApart past r d := by
  have room {r : RectRenderer} (present : r.instances.isSome = true) (count : Nat) :
      r.room count = RectRenderer.room ⟨none, none, none, some 0, r.arena⟩ count := by
    simp only [RectRenderer.room, Option.isNone_eq_false_iff.2 present, Option.isNone_some]
  have empty : RectRenderer.empty.room 3 = .ok (.grow 64, ⟨64, 3⟩) := by decide +kernel
  obtain ⟨_, r₁, _, three, arena₁, present₁⟩ :=
    Ran.start.rendering ⟨"Rgba8Unorm"⟩ ⟨4, 4⟩ (squares 3) rfl empty
  have small : r₁.room 70 = .ok (.grow 128, ⟨128, 70⟩) := by
    rw [room present₁, arena₁]
    decide +kernel
  obtain ⟨_, r₂, _, seventy, arena₂, present₂⟩ :=
    three.rendering ⟨"Rgba8Unorm"⟩ ⟨4, 4⟩ (squares 70) rfl small
  have begun := seventy.next (show RendererStep.beginFrame.run _ _ = (.ok [], _, _) from rfl)
  have kept : r₂.beginFrame.instances.isSome = true := present₂
  have rewound : r₂.beginFrame.arena = ⟨128, 0⟩ := by
    rw [RectRenderer.beginFrame, arena₂]
    rfl
  have free : r₂.beginFrame.room 5 = .ok (.within 0, ⟨128, 5⟩) := by
    rw [room kept, rewound]
    decide +kernel
  obtain ⟨_, r₃, d₃, five, arena₃, -⟩ := begun.rendering ⟨"Rgba8Unorm"⟩ ⟨4, 4⟩ (squares 5) rfl free
  exact ⟨_, r₃, d₃, five, rfl, arena₃, instance_data_apart five⟩

end RenderRelay.Gpu

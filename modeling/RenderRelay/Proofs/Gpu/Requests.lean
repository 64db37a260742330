import RenderRelay.Gpu.RectRenderer
import Mathlib.Data.List.Basic

/-!
What a renderer asks of the device. Before it draws it gets ready: it makes the objects that are
missing, and neither writes nor draws (`GetsReady`). Then it finds room for its instances, makes a
larger buffer for them if there is none, writes them, and draws in one pass (`render_run`).

A record of requests is read in two ways: by the parts of buffers that are written (`writes`), and
by the instances that are drawn, with what was set in the pass until then (`draws`).
-/

namespace RenderRelay.Gpu

/-! ### Reading a record -/

/-- The bytes of a buffer from `first` up to `last`. -/
structure Span where
  buffer : Nat
  first : Nat
  last : Nat

/-- The bytes that a request writes into a buffer that exists. -/
def DeviceCall.write? : DeviceCall → Option Span
  | writeBuffer buffer offset words => some ⟨buffer, offset, offset + 4 * words.length⟩
  | _ => none

def writes (calls : List DeviceCall) : List Span := calls.filterMap DeviceCall.write?

def DeviceCall.buffer? : DeviceCall → Option Nat
  | createBuffer buffer _ _ _ => some buffer
  | _ => none

/-- What was set in a pass: the scissor, and the buffer that instances are taken from. -/
structure Pass where
  area : Option PixelBox
  instances : Option Nat

def Pass.fresh : Pass := ⟨none, none⟩

def Pass.after (p : Pass) : DeviceCall → Pass
  | .beginPass _ => fresh
  | .setScissor area => { p with area := some area }
  | .setVertexBuffer slot buffer => if slot = 1 then { p with instances := some buffer } else p
  | _ => p

/-- The instances from `first` up to `last` of a buffer, drawn inside a scissor with this many
indices each. -/
structure Draw where
  pass : Pass
  indices : Nat
  first : Nat
  last : Nat

def Pass.draw? (p : Pass) : DeviceCall → Option Draw
  | .drawIndexed indices first last => some ⟨p, indices, first, last⟩
  | _ => none

/-- The draws of a record, from a pass in which something may be set. -/
def draws : Pass → List DeviceCall → List Draw
  | _, [] => []
  | p, call :: rest => (p.draw? call).toList ++ draws (p.after call) rest

theorem draws_append (p : Pass) (calls more : List DeviceCall) :
    draws p (calls ++ more) = draws p calls ++ draws (calls.foldl Pass.after p) more := by
  induction calls generalizing p with
  | nil => rfl
  | cons call rest ih => rw [List.cons_append, draws, draws, ih, List.foldl_cons, List.append_assoc]

theorem writes_append (calls more : List DeviceCall) :
    writes (calls ++ more) = writes calls ++ writes more :=
  List.filterMap_append

def instanceLabel : String := "tessera rect instance vbo"

def DeviceCall.prepares : DeviceCall → Bool
  | createShader _ _ => true
  | createBindGroupLayout _ _ _ => true
  | createPipelineLayout _ _ => true
  | createPipeline _ _ => true
  | createBuffer _ label _ _ => label != instanceLabel
  | fillBuffer _ _ => true
  | createBindGroup _ _ _ _ _ => true
  | _ => false

theorem DeviceCall.quiet_of_prepares {call : DeviceCall} (prepares : call.prepares = true)
    (p : Pass) : p.draw? call = none ∧ p.after call = p ∧ call.write? = none := by
  cases call <;> first | exact ⟨rfl, rfl, rfl⟩ | exact nomatch prepares

theorem draws_of_prepares {calls : List DeviceCall} (prepares : ∀ call ∈ calls, call.prepares)
    (p : Pass) : draws p calls = [] ∧ calls.foldl Pass.after p = p := by
  induction calls with
  | nil => exact ⟨rfl, rfl⟩
  | cons call rest ih =>
    obtain ⟨undrawn, unset, -⟩ := DeviceCall.quiet_of_prepares (prepares call (.head _)) p
    obtain ⟨later, same⟩ := ih fun call among => prepares call (.tail _ among)
    rw [draws, List.foldl_cons, undrawn, unset, later, same]
    exact ⟨rfl, rfl⟩

theorem writes_of_prepares {calls : List DeviceCall} (prepares : ∀ call ∈ calls, call.prepares) :
    writes calls = [] :=
  List.filterMap_eq_nil_iff.2 fun call among =>
    (DeviceCall.quiet_of_prepares (prepares call among) .fresh).2.2

namespace RectRenderer

/-! ### Getting ready -/

def HasUniform (history : List DeviceCall) (r : RectRenderer) : Prop :=
  ∀ binding, r.binding = some binding → .createBuffer binding.uniform "tessera rect viewport ubo"
    uniformBytes [.copyDst, .uniform] ∈ history

/-- Objects are made and kept; the instances and their arena stay as they are. -/
structure GetsReady (r : RectRenderer) (d : Device) (made : List DeviceCall) (r' : RectRenderer)
    (d' : Device) : Prop where
  instances : r'.instances = r.instances
  arena : r'.arena = r.arena
  calls : d'.calls = d.calls ++ made
  prepares : ∀ call ∈ made, call.prepares
  le : d.buffers ≤ d'.buffers
  numbers : made.filterMap DeviceCall.buffer? = List.range' d.buffers (d'.buffers - d.buffers)
  uniform : ∀ history, HasUniform history r → HasUniform (history ++ made) r'

namespace GetsReady

theorem refl (r : RectRenderer) (d : Device) : GetsReady r d [] r d where
  instances := rfl
  arena := rfl
  calls := (List.append_nil _).symm
  prepares := by simp
  le := Nat.le_refl _
  numbers := by simp
  uniform history known := by rwa [List.append_nil]

theorem trans {r r' r'' : RectRenderer} {d d' d'' : Device} {made made' : List DeviceCall}
    (first : GetsReady r d made r' d') (second : GetsReady r' d' made' r'' d'') :
    GetsReady r d (made ++ made') r'' d'' where
  instances := second.instances.trans first.instances
  arena := second.arena.trans first.arena
  calls := by rw [second.calls, first.calls, List.append_assoc]
  prepares call among := (List.mem_append.1 among).elim (first.prepares call) (second.prepares call)
  le := Nat.le_trans first.le second.le
  numbers := by
    have le := first.le
    have le' := second.le
    rw [List.filterMap_append, first.numbers, second.numbers]
    have start : d'.buffers = d.buffers + 1 * (d'.buffers - d.buffers) := by omega
    have total : d''.buffers - d.buffers =
        (d'.buffers - d.buffers) + (d''.buffers - d'.buffers) := by omega
    rw [total, ← List.range'_append, ← start]
  uniform history known := by
    rw [← List.append_assoc]
    exact second.uniform _ (first.uniform history known)

end GetsReady

def pipelineRequests (number : Nat) (format : TextureFormat) : List DeviceCall :=
  [.createShader "tessera rect shader" shaderBytes,
    .createBindGroupLayout number "tessera rect bgl" [⟨0, uniformBytes⟩],
    .createPipelineLayout "tessera rect pipeline layout" [number],
    .createPipeline number
      ⟨"tessera rect pipeline", "vs_main", "fs_main", vertexLayouts, format⟩]

/-- The requests for the quad, whose buffers have this number and the next. -/
def quadRequests (vertices : Nat) : List DeviceCall :=
  [.createBuffer vertices "tessera rect quad vbo" 32 [.vertex],
    .fillBuffer vertices (quadCorners.map Single.toBits),
    .createBuffer (vertices + 1) "tessera rect quad ibo" 12 [.index],
    .fillBuffer (vertices + 1) (packHalves quadIndices)]

def bindingRequests (binding : Binding) (layout : Nat) : List DeviceCall :=
  [.createBuffer binding.uniform "tessera rect viewport ubo" uniformBytes [.copyDst, .uniform],
    .createBindGroup binding.group layout "tessera rect bind group" 0 binding.uniform]

theorem ensurePipeline_kept {r : RectRenderer} {format : TextureFormat} {pipeline : Pipeline}
    (kept : r.pipeline.filter (·.format = format) = some pipeline) (d : Device) :
    (r.ensurePipeline format).run d = ((pipeline, r), d) := by
  simp only [ensurePipeline, kept]
  rfl

theorem ensurePipeline_made {r : RectRenderer} {format : TextureFormat}
    (missing : r.pipeline.filter (·.format = format) = none) (d : Device) :
    (r.ensurePipeline format).run d =
      ((⟨d.pipelines, format⟩,
          { r with pipeline := some ⟨d.pipelines, format⟩, binding := none }),
        { d with
          pipelines := d.pipelines + 1
          calls := d.calls ++ pipelineRequests d.pipelines format }) := by
  simp only [ensurePipeline, missing]
  change (_, Device.mk _ _ _ (d.calls ++ [_] ++ [_] ++ [_] ++ [_])) = _
  simp only [List.append_assoc]
  rfl

theorem ensureQuad_kept {r : RectRenderer} {quad : Quad} (kept : r.quad = some quad) (d : Device) :
    r.ensureQuad.run d = ((quad, r), d) := by
  simp only [ensureQuad, kept]
  rfl

theorem ensureQuad_made {r : RectRenderer} (missing : r.quad = none) (d : Device) :
    r.ensureQuad.run d =
      ((⟨d.buffers, d.buffers + 1⟩, { r with quad := some ⟨d.buffers, d.buffers + 1⟩ }),
        { d with buffers := d.buffers + 2, calls := d.calls ++ quadRequests d.buffers }) := by
  simp only [ensureQuad, missing]
  change (_, Device.mk _ _ _ (d.calls ++ [_] ++ [_] ++ [_] ++ [_])) = _
  simp only [List.append_assoc]
  rfl

theorem ensureBinding_kept {r : RectRenderer} {binding : Binding} (kept : r.binding = some binding)
    (pipeline : Pipeline) (d : Device) : (r.ensureBinding pipeline).run d = ((binding, r), d) := by
  simp only [ensureBinding, kept]
  rfl

theorem ensureBinding_made {r : RectRenderer} (missing : r.binding = none) (pipeline : Pipeline)
    (d : Device) :
    (r.ensureBinding pipeline).run d =
      ((⟨d.groups, d.buffers⟩, { r with binding := some ⟨d.groups, d.buffers⟩ }),
        { d with
          buffers := d.buffers + 1
          groups := d.groups + 1
          calls := d.calls ++ bindingRequests ⟨d.groups, d.buffers⟩ pipeline.number }) := by
  simp only [ensureBinding, missing]
  change (_, Device.mk _ _ _ (d.calls ++ [_] ++ [_])) = _
  simp only [List.append_assoc]
  rfl

theorem ensurePipeline_ready {r r' : RectRenderer} {format : TextureFormat} {pipeline : Pipeline}
    {d d' : Device} (run : (r.ensurePipeline format).run d = ((pipeline, r'), d')) :
    ∃ made, GetsReady r d made r' d' := by
  cases kept : r.pipeline.filter (·.format = format) with
  | some pipeline =>
    rw [ensurePipeline_kept kept] at run
    cases run
    exact ⟨[], .refl r d⟩
  | none =>
    rw [ensurePipeline_made kept] at run
    cases run
    refine ⟨pipelineRequests d.pipelines format, rfl, rfl, rfl, by simp [pipelineRequests,
      DeviceCall.prepares], Nat.le_refl _, by simp [pipelineRequests, DeviceCall.buffer?], ?_⟩
    rintro history - binding tied
    simp at tied

theorem ensureQuad_ready {r r' : RectRenderer} {quad : Quad} {d d' : Device}
    (run : r.ensureQuad.run d = ((quad, r'), d')) : ∃ made, GetsReady r d made r' d' := by
  cases kept : r.quad with
  | some quad =>
    rw [ensureQuad_kept kept] at run
    cases run
    exact ⟨[], .refl r d⟩
  | none =>
    rw [ensureQuad_made kept] at run
    cases run
    have two : d.buffers + 2 - d.buffers = 2 := by omega
    refine ⟨quadRequests d.buffers, rfl, rfl, rfl, by simp [quadRequests, DeviceCall.prepares,
      instanceLabel], Nat.le_add_right .., by rw [two]; rfl, ?_⟩
    intro history known binding tied
    exact List.mem_append_left _ (known binding tied)

theorem ensureBinding_ready {r r' : RectRenderer} {pipeline : Pipeline} {binding : Binding}
    {d d' : Device} (run : (r.ensureBinding pipeline).run d = ((binding, r'), d')) :
    r'.binding = some binding ∧ ∃ made, GetsReady r d made r' d' := by
  cases kept : r.binding with
  | some binding =>
    rw [ensureBinding_kept kept] at run
    cases run
    exact ⟨kept, [], .refl r d⟩
  | none =>
    rw [ensureBinding_made kept] at run
    cases run
    refine ⟨rfl, bindingRequests ⟨d.groups, d.buffers⟩ pipeline.number, rfl, rfl, rfl,
      by simp [bindingRequests, DeviceCall.prepares, instanceLabel], Nat.le_succ _,
      by simp [bindingRequests, DeviceCall.buffer?, List.range'_succ], ?_⟩
    rintro history - binding tied
    obtain rfl := Option.some.inj tied
    simp [bindingRequests]

/-- The objects of a draw were looked for one after the other, and made where they were missing. -/
def Ensured (r : RectRenderer) (format : TextureFormat) (d : Device) (pipeline : Pipeline)
    (quad : Quad) (binding : Binding) (r' : RectRenderer) (d' : Device) : Prop :=
  ∃ r₁ d₁ r₂ d₂, (r.ensurePipeline format).run d = ((pipeline, r₁), d₁) ∧
    r₁.ensureQuad.run d₁ = ((quad, r₂), d₂) ∧
    (r₂.ensureBinding pipeline).run d₂ = ((binding, r'), d')

theorem Ensured.ready {r r' : RectRenderer} {format : TextureFormat} {d d' : Device}
    {pipeline : Pipeline} {quad : Quad} {binding : Binding}
    (ensured : r.Ensured format d pipeline quad binding r' d') :
    r'.binding = some binding ∧ ∃ made, GetsReady r d made r' d' := by
  obtain ⟨_, _, _, _, first, second, third⟩ := ensured
  obtain ⟨_, readyPipeline⟩ := ensurePipeline_ready first
  obtain ⟨_, readyQuad⟩ := ensureQuad_ready second
  obtain ⟨bound, _, readyBinding⟩ := ensureBinding_ready third
  exact ⟨bound, _, (readyPipeline.trans readyQuad).trans readyBinding⟩

theorem requestAll_run (calls : List DeviceCall) (d : Device) :
    (requestAll calls).run d = ((), { d with calls := d.calls ++ calls }) := by
  induction calls generalizing d with
  | nil => simp only [List.append_nil]; rfl
  | cons call rest ih =>
    change (requestAll rest).run { d with calls := d.calls ++ [call] } = _
    rw [ih, List.append_assoc, List.singleton_append]

/-! ### Room for instances -/

end RectRenderer

namespace InstanceArena

theorem powerAbove_le {n k : Nat} (le : n ≤ 1 <<< k) : powerAbove n ≤ 1 <<< k := by
  rw [Nat.one_shiftLeft] at le
  unfold powerAbove
  simp only [Nat.one_shiftLeft]
  split
  · exact Nat.one_le_two_pow
  · refine Nat.pow_le_pow_right (by decide) ?_
    rw [Nat.succ_le_iff, Nat.log2_lt (by omega)]
    omega

theorem le_powerAbove (n : Nat) : n ≤ powerAbove n := by
  unfold powerAbove
  split
  · assumption
  · have above : n - 1 < 2 ^ ((n - 1).log2 + 1) := Nat.lt_log2_self
    rw [Nat.one_shiftLeft]
    omega

/-- The size of a new buffer for a frame that has come to this many instances. -/
def growth (used : Nat) : Nat := max (powerAbove used) minCapacity

/-- A range is free after those handed out before, or the buffer is too small for all of them. -/
theorem reserve_cases {a a' : InstanceArena} {count : Nat} {place : Reservation}
    (reserved : a.reserve count = .ok (place, a')) :
    (place = .within a.cursor ∧ 0 < a.capacity ∧ a.cursor + count ≤ a.capacity ∧
        a' = ⟨a.capacity, a.cursor + count⟩) ∨
      (place = .grow (growth (a.cursor + count)) ∧
        (a.capacity = 0 ∨ a.capacity < a.cursor + count) ∧
        a' = ⟨growth (a.cursor + count), count⟩) := by
  simp only [reserve] at reserved
  split at reserved
  · simp at reserved
  · split at reserved
    case isTrue fits =>
      obtain ⟨rfl, rfl⟩ := Prod.mk.inj (Except.ok.inj reserved)
      exact .inl ⟨rfl, fits.1, fits.2, rfl⟩
    case isFalse tooSmall =>
      split at reserved
      · simp at reserved
      · obtain ⟨rfl, rfl⟩ := Prod.mk.inj (Except.ok.inj reserved)
        exact .inr ⟨rfl, by omega, rfl⟩

end InstanceArena

def Reservation.base : Reservation → Nat
  | within base => base
  | grow _ => 0

/-- What is made for a reservation; a new buffer has this number. -/
def Reservation.requests (next : Nat) : Reservation → List DeviceCall
  | within _ => []
  | grow capacity =>
    [.createBuffer next instanceLabel (capacity * PendingRect.instanceBytes) [.copyDst, .vertex]]

namespace RectRenderer

/-- The buffer of a reservation; a new one has this number. -/
def instanceBuffer (r : RectRenderer) (next : Nat) : Reservation → Nat
  | .within _ => r.instances.getD 0
  | .grow _ => next

def presentArena (r : RectRenderer) : InstanceArena :=
  if r.instances.isNone then .empty else r.arena

theorem room_reserves {r : RectRenderer} {count : Nat} {place : Reservation} {arena : InstanceArena}
    (room : r.room count = .ok (place, arena)) :
    r.presentArena.reserve count = .ok (place, arena) := by
  unfold RectRenderer.room at room
  rw [← presentArena] at room
  simp only at room
  split at room
  · simp at room
  · next same => rwa [same]
  · next same =>
    split at room
    · simp at room
    · rwa [same]

theorem room_of_fits {r : RectRenderer} {count : Nat}
    (fits : r.presentArena.cursor + count < 0x100000000) :
    ∃ place arena, r.room count = .ok (place, arena) ∧ place.base + count < 0x100000000 := by
  have small : InstanceArena.growth (r.presentArena.cursor + count) ≤ 0x100000000 :=
    Nat.max_le.2 ⟨InstanceArena.powerAbove_le (k := 32) (Nat.le_of_lt fits), by decide⟩
  have word : ¬InstanceArena.wordLimit ≤ r.presentArena.cursor + count := by
    unfold InstanceArena.wordLimit
    omega
  have power : ¬InstanceArena.wordLimit ≤
      InstanceArena.powerAbove (r.presentArena.cursor + count) := by
    unfold InstanceArena.growth at small
    unfold InstanceArena.wordLimit
    omega
  have bytes : ¬InstanceArena.wordLimit ≤
      InstanceArena.growth (r.presentArena.cursor + count) * PendingRect.instanceBytes := by
    unfold InstanceArena.wordLimit PendingRect.instanceBytes
    omega
  unfold RectRenderer.room
  rw [← presentArena]
  simp only [InstanceArena.reserve, if_neg word]
  by_cases inside : 0 < r.presentArena.capacity ∧
      r.presentArena.cursor + count ≤ r.presentArena.capacity
  · rw [if_pos inside]
    exact ⟨_, _, rfl, fits⟩
  · rw [if_neg inside, if_neg power]
    simp only
    rw [← InstanceArena.growth, if_neg bytes]
    exact ⟨_, _, rfl, by simp only [Reservation.base]; omega⟩

theorem isSome_of_within {r : RectRenderer} {count base : Nat} {arena : InstanceArena}
    (room : r.room count = .ok (.within base, arena)) : r.instances.isSome = true := by
  rw [← Option.isNone_eq_false_iff, Bool.eq_false_iff]
  intro missing
  rcases InstanceArena.reserve_cases (room_reserves room) with ⟨-, positive, -⟩ | ⟨grows, -⟩
  · rw [presentArena, if_pos missing] at positive
    exact Nat.lt_irrefl 0 positive
  · simp at grows

theorem reserveInstances_run {r : RectRenderer} {count : Nat} {place : Reservation}
    {arena : InstanceArena} (room : r.room count = .ok (place, arena)) (d : Device) :
    (r.reserveInstances count).run d =
      (.ok (r.instanceBuffer d.buffers place, place.base,
          { r with instances := some (r.instanceBuffer d.buffers place), arena }),
        { d with
          buffers := d.buffers + (place.requests d.buffers).length
          calls := d.calls ++ place.requests d.buffers }) := by
  unfold reserveInstances
  rw [room]
  cases place with
  | within base =>
    obtain ⟨buffer, present⟩ := Option.isSome_iff_exists.1 (isSome_of_within room)
    simp only [present, instanceBuffer, Option.getD_some, Reservation.requests, List.append_nil]
    rfl
  | grow capacity => rfl

/-- The requests of a pass that draws rectangles, and of the writes before it. -/
def passRequests (pipeline : Pipeline) (quad : Quad) (binding : Binding) (instances base : Nat)
    (viewport : Viewport) (rects : List PendingRect) : List DeviceCall :=
  [.writeBuffer binding.uniform 0
      (([.ofNat viewport.width, .ofNat viewport.height, 0, 0] : List Single).map Single.toBits),
    .writeBuffer instances (base * PendingRect.instanceBytes) (rects.flatMap PendingRect.words),
    .beginPass "tessera rect pass",
    .setPipeline pipeline.number pipeline.format,
    .setBindGroup 0 binding.group,
    .setVertexBuffer 0 quad.vertices,
    .setVertexBuffer 1 instances,
    .setIndexBuffer quad.indices] ++
  drawRuns viewport base (clipRuns (rects.map PendingRect.clip)) ++
  [.endPass]

/-- All draws of a pass come after its instances were set, and no scissor before. -/
theorem draws_passRequests (p : Pass) (pipeline : Pipeline) (quad : Quad) (binding : Binding)
    (instances base : Nat) (viewport : Viewport) (rects : List PendingRect) :
    draws p (passRequests pipeline quad binding instances base viewport rects) =
      draws ⟨none, some instances⟩
        (drawRuns viewport base (clipRuns (rects.map PendingRect.clip))) := by
  rw [passRequests, draws_append, draws_append]
  exact List.append_nil _

theorem lift_bind_run {α β : Type} {x : StateM Device α} {d d' : Device} {a : α}
    (run : x.run d = (a, d')) (f : α → ExceptT Fault (StateM Device) β) :
    ((liftM x : ExceptT Fault (StateM Device) α) >>= f).run d = (f a).run d' := by
  change (f (x.run d).1).run (x.run d).2 = _
  rw [run]

theorem ok_bind_run {α β : Type} {x : ExceptT Fault (StateM Device) α} {d d' : Device} {a : α}
    (run : x.run d = (.ok a, d')) (f : α → ExceptT Fault (StateM Device) β) :
    (x >>= f).run d = (f a).run d' := by
  change (ExceptT.bindCont f (x.run d).1) (x.run d).2 = _
  rw [run]
  rfl

theorem error_bind_run {α β : Type} {x : ExceptT Fault (StateM Device) α} {d d' : Device}
    {fault : Fault} (run : x.run d = (.error fault, d')) (f : α → ExceptT Fault (StateM Device) β) :
    (x >>= f).run d = (.error fault, d') := by
  change (ExceptT.bindCont f (x.run d).1) (x.run d).2 = _
  rw [run]
  rfl

theorem render_idle {rects : List PendingRect} {viewport : Viewport}
    (idle : (rects.isEmpty || viewport.isEmpty) = true) (r : RectRenderer) (format : TextureFormat)
    (d : Device) : (r.render format viewport rects).run d = (.ok r, d) := by
  unfold render
  rw [idle]
  rfl

theorem render_run {rects : List PendingRect} {viewport : Viewport}
    (effective : (rects.isEmpty || viewport.isEmpty) = false) (r : RectRenderer)
    (format : TextureFormat) (d : Device) :
    ∃ pipeline quad binding r₃ d₃, r.Ensured format d pipeline quad binding r₃ d₃ ∧
      (r.render format viewport rects).run d =
        match r₃.room rects.length with
        | .error fault => (.error fault, d₃)
        | .ok (place, arena) =>
          (.ok { r₃ with instances := r₃.instanceBuffer d₃.buffers place, arena },
            { d₃ with
              buffers := d₃.buffers + (place.requests d₃.buffers).length
              calls := d₃.calls ++ place.requests d₃.buffers ++
                passRequests pipeline quad binding (r₃.instanceBuffer d₃.buffers place) place.base
                  viewport rects }) := by
  rcases first : (r.ensurePipeline format).run d with ⟨⟨pipeline, r₁⟩, d₁⟩
  rcases second : r₁.ensureQuad.run d₁ with ⟨⟨quad, r₂⟩, d₂⟩
  rcases third : (r₂.ensureBinding pipeline).run d₂ with ⟨⟨binding, r₃⟩, d₃⟩
  refine ⟨pipeline, quad, binding, r₃, d₃, ⟨r₁, d₁, r₂, d₂, first, second, third⟩, ?_⟩
  unfold render
  rw [effective]
  refine (lift_bind_run first _).trans ?_
  refine (lift_bind_run second _).trans ?_
  refine (lift_bind_run third _).trans ?_
  cases room : r₃.room rects.length with
  | error fault =>
    have refused : (r₃.reserveInstances rects.length).run d₃ = (.error fault, d₃) := by
      unfold reserveInstances
      rw [room]
      rfl
    exact error_bind_run refused _
  | ok placed =>
    refine (ok_bind_run (reserveInstances_run room d₃) _).trans ?_
    refine (lift_bind_run (requestAll_run _ _) _).trans ?_
    rfl

theorem draws_render {made : List DeviceCall} (prepares : ∀ call ∈ made, call.prepares) (next : Nat)
    (place : Reservation) (pipeline : Pipeline) (quad : Quad) (binding : Binding)
    (instances base : Nat) (viewport : Viewport) (rects : List PendingRect) :
    draws .fresh (made ++ place.requests next ++
        passRequests pipeline quad binding instances base viewport rects) =
      draws ⟨none, some instances⟩
        (drawRuns viewport base (clipRuns (rects.map PendingRect.clip))) := by
  have none : draws .fresh (place.requests next) = [] := by cases place <;> rfl
  obtain ⟨quiet, unset⟩ := draws_of_prepares prepares .fresh
  rw [draws_append, draws_append, quiet, unset, none, draws_passRequests]
  rfl

theorem mem_drawRuns {viewport : Viewport} {first : Nat} {runs : List (Option Rect × Nat)}
    {call : DeviceCall} (among : call ∈ drawRuns viewport first runs) :
    (∃ area, call = .setScissor area) ∨
      ∃ indices first last, call = .drawIndexed indices first last := by
  induction runs generalizing first with
  | nil => simp [drawRuns] at among
  | cons run rest ih =>
    rw [drawRuns, List.mem_append] at among
    rcases among with own | later
    · cases drawn : scissor run.1 viewport with
      | none => simp [drawn] at own
      | some area =>
        simp only [drawn, List.mem_cons, List.not_mem_nil, or_false] at own
        exact own.imp (fun same => ⟨area, same⟩) fun same => ⟨_, _, _, same⟩
    · exact ih later

/-- What no scissor and no draw has is not found in runs. -/
theorem filterMap_drawRuns {α : Type} {read : DeviceCall → Option α}
    (scissors : ∀ area, read (.setScissor area) = none)
    (draws : ∀ indices first last, read (.drawIndexed indices first last) = none)
    (viewport : Viewport) (first : Nat) (runs : List (Option Rect × Nat)) :
    (drawRuns viewport first runs).filterMap read = [] := by
  refine List.filterMap_eq_nil_iff.2 fun call among => ?_
  rcases mem_drawRuns among with ⟨area, rfl⟩ | ⟨_, _, _, rfl⟩
  · exact scissors area
  · exact draws ..

theorem writes_render {made : List DeviceCall} (prepares : ∀ call ∈ made, call.prepares)
    (next : Nat) (place : Reservation) (pipeline : Pipeline) (quad : Quad) (binding : Binding)
    (instances base : Nat) (viewport : Viewport) (rects : List PendingRect) :
    writes (made ++ place.requests next ++
        passRequests pipeline quad binding instances base viewport rects) =
      [⟨binding.uniform, 0, uniformBytes⟩,
        ⟨instances, base * PendingRect.instanceBytes,
          (base + rects.length) * PendingRect.instanceBytes⟩] := by
  have none : writes (place.requests next) = [] := by cases place <;> rfl
  have words : 4 * (rects.flatMap PendingRect.words).length =
      rects.length * PendingRect.instanceBytes := by
    have eight (p : PendingRect) : p.words.length = 8 := rfl
    unfold PendingRect.instanceBytes
    induction rects with
    | nil => rfl
    | cons p rest ih =>
      rw [List.flatMap_cons, List.length_append, List.length_cons, eight]
      omega
  rw [writes_append, writes_append, writes_of_prepares prepares, none, passRequests, writes_append,
    writes_append, writes, writes, writes, filterMap_drawRuns (fun _ => rfl) (fun _ _ _ => rfl),
    Nat.add_mul, ← words]
  rfl

theorem numbers_render {r r' : RectRenderer} {d d' : Device} {made : List DeviceCall}
    (ready : GetsReady r d made r' d') (place : Reservation) (pipeline : Pipeline) (quad : Quad)
    (binding : Binding) (instances base : Nat) (viewport : Viewport) (rects : List PendingRect) :
    (made ++ place.requests d'.buffers ++
        passRequests pipeline quad binding instances base viewport rects).filterMap
          DeviceCall.buffer? =
      List.range' d.buffers (d'.buffers + (place.requests d'.buffers).length - d.buffers) := by
  have pass : (passRequests pipeline quad binding instances base viewport rects).filterMap
      DeviceCall.buffer? = [] := by
    rw [passRequests, List.filterMap_append, List.filterMap_append,
      filterMap_drawRuns (fun _ => rfl) (fun _ _ _ => rfl)]
    rfl
  have le := ready.le
  rw [List.filterMap_append, List.filterMap_append, ready.numbers, pass, List.append_nil]
  cases place with
  | within base => rw [Reservation.requests, List.filterMap_nil, List.append_nil]; rfl
  | grow capacity =>
    have total : d'.buffers + 1 - d.buffers = (d'.buffers - d.buffers) + 1 := by omega
    change _ ++ [d'.buffers] = List.range' d.buffers (d'.buffers + 1 - d.buffers)
    rw [total, List.range'_1_concat]
    congr 2
    omega

/-- What a call that draws asks for, with the objects that it came to. -/
theorem render_ensures {rects : List PendingRect} {viewport : Viewport}
    (effective : (rects.isEmpty || viewport.isEmpty) = false) (r : RectRenderer)
    (format : TextureFormat) (d : Device) :
    ∃ pipeline quad binding made r₁ d₁, r.Ensured format d pipeline quad binding r₁ d₁ ∧
      GetsReady r d made r₁ d₁ ∧
      (r.render format viewport rects).run d =
        match r.room rects.length with
        | .error fault => (.error fault, d₁)
        | .ok (place, arena) =>
          (.ok { r₁ with instances := r.instanceBuffer d₁.buffers place, arena },
            { d₁ with
              buffers := d₁.buffers + (place.requests d₁.buffers).length
              calls := d.calls ++ (made ++ place.requests d₁.buffers ++ passRequests pipeline quad
                binding (r.instanceBuffer d₁.buffers place) place.base viewport rects) }) := by
  obtain ⟨pipeline, quad, binding, r₁, d₁, ensured, run⟩ := render_run effective r format d
  obtain ⟨-, made, ready⟩ := ensured.ready
  have same : r₁.room rects.length = r.room rects.length := by
    unfold RectRenderer.room
    rw [ready.instances, ready.arena]
  refine ⟨pipeline, quad, binding, made, r₁, d₁, ensured, ready, ?_⟩
  rw [run, same]
  cases r.room rects.length with
  | error fault => rfl
  | ok placed =>
    obtain ⟨place, arena⟩ := placed
    have buffer : r₁.instanceBuffer d₁.buffers place = r.instanceBuffer d₁.buffers place := by
      cases place with
      | within base => rw [instanceBuffer, instanceBuffer, ready.instances]
      | grow capacity => rfl
    simp only [buffer, ready.calls, List.append_assoc]

/-- **What a call that draws asks for**: getting ready, a larger buffer if one is due, and the pass.
It ends early where there is no room. -/
theorem render_asks {rects : List PendingRect} {viewport : Viewport}
    (effective : (rects.isEmpty || viewport.isEmpty) = false) (r : RectRenderer)
    (format : TextureFormat) (d : Device) :
    ∃ pipeline quad binding made r₁ d₁, GetsReady r d made r₁ d₁ ∧ r₁.binding = some binding ∧
      (r.render format viewport rects).run d =
        match r.room rects.length with
        | .error fault => (.error fault, d₁)
        | .ok (place, arena) =>
          (.ok { r₁ with instances := r.instanceBuffer d₁.buffers place, arena },
            { d₁ with
              buffers := d₁.buffers + (place.requests d₁.buffers).length
              calls := d.calls ++ (made ++ place.requests d₁.buffers ++ passRequests pipeline quad
                binding (r.instanceBuffer d₁.buffers place) place.base viewport rects) }) := by
  obtain ⟨pipeline, quad, binding, made, r₁, d₁, ensured, ready, run⟩ :=
    render_ensures effective r format d
  exact ⟨pipeline, quad, binding, made, r₁, d₁, ready, ensured.ready.1, run⟩

end RectRenderer

end RenderRelay.Gpu

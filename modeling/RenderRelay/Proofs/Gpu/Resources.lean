import RenderRelay.Proofs.Gpu.Instances

/-!
What a renderer keeps from one call to the next. After a call that drew it has a pipeline for the
format of that call, a bind group over the layout made with that pipeline, and the quad, all of them
made in its record (`Stocked`); a call with another format makes the first two anew, and none makes
the quad again. So every pass is drawn with objects that belong together and to its own call
(`resources_match`).
-/

namespace RenderRelay.Gpu

open Bench (RendererStep)
open RectRenderer (pipelineRequests quadRequests bindingRequests passRequests drawRuns)

/-! ### Reading a record -/

/-- What a renderer makes to draw with again and again. -/
inductive Part where
  | pipeline (format : TextureFormat)
  | group
  | uniform
  | corners
  | indices
  deriving DecidableEq

def DeviceCall.part? : DeviceCall → Option Part
  | createPipeline _ descriptor => some (.pipeline descriptor.format)
  | createBindGroup _ _ _ _ _ => some .group
  | createBuffer _ label _ _ =>
    if label = "tessera rect viewport ubo" then some .uniform
    else if label = "tessera rect quad vbo" then some .corners
    else if label = "tessera rect quad ibo" then some .indices
    else none
  | _ => none

def parts (calls : List DeviceCall) : List Part := calls.filterMap DeviceCall.part?

def DeviceCall.pipeline? : DeviceCall → Option Nat
  | createPipeline pipeline _ => some pipeline
  | _ => none

def DeviceCall.layout? : DeviceCall → Option Nat
  | createBindGroupLayout layout _ _ => some layout
  | _ => none

def DeviceCall.group? : DeviceCall → Option Nat
  | createBindGroup group _ _ _ _ => some group
  | _ => none

/-- Where a request stands: outside all passes, at an end of one, or inside. -/
inductive Site where
  | outside
  | beginning
  | inside
  | ending
  deriving DecidableEq

def DeviceCall.site : DeviceCall → Site
  | beginPass _ => .beginning
  | endPass => .ending
  | setPipeline _ _ => .inside
  | setBindGroup _ _ => .inside
  | setVertexBuffer _ _ => .inside
  | setIndexBuffer _ => .inside
  | setScissor _ => .inside
  | drawIndexed _ _ _ => .inside
  | _ => .outside

theorem part?_silent (call : DeviceCall) (other : call.prepares = false) : call.part? = none := by
  cases call with
  | createBuffer buffer label bytes usage =>
    obtain rfl : label = instanceLabel := by simpa [DeviceCall.prepares] using other
    rfl
  | _ => first | rfl | cases other

theorem pipeline?_silent (call : DeviceCall) (other : call.prepares = false) :
    call.pipeline? = none := by
  cases call <;> first | rfl | cases other

theorem layout?_silent (call : DeviceCall) (other : call.prepares = false) :
    call.layout? = none := by
  cases call <;> first | rfl | cases other

theorem group?_silent (call : DeviceCall) (other : call.prepares = false) : call.group? = none := by
  cases call <;> first | rfl | cases other

/-- What is set in a pass: the pipeline with its format, the first bind group, and the buffers of
corners and of indices. -/
structure Gear where
  pipeline : Option (Nat × TextureFormat)
  group : Option Nat
  corners : Option Nat
  indices : Option Nat
  deriving DecidableEq

def Gear.none : Gear := ⟨.none, .none, .none, .none⟩

def Gear.after (g : Gear) : DeviceCall → Gear
  | .setPipeline pipeline format => { g with pipeline := some (pipeline, format) }
  | .setBindGroup index group => if index = 0 then { g with group := some group } else g
  | .setVertexBuffer slot buffer => if slot = 0 then { g with corners := some buffer } else g
  | .setIndexBuffer buffer => { g with indices := some buffer }
  | _ => g

/-- What is set at a draw, or when the pass ends. -/
def Gear.used? (g : Gear) : DeviceCall → Option Gear
  | .drawIndexed _ _ _ => some g
  | .endPass => some g
  | _ => .none

/-- What is set at each draw of a pass and at its end, from a pass in which something may be set. -/
def gears : Gear → List DeviceCall → List Gear
  | _, [] => []
  | g, call :: rest => (g.used? call).toList ++ gears (g.after call) rest

theorem gears_append (g : Gear) (calls more : List DeviceCall) :
    gears g (calls ++ more) = gears g calls ++ gears (calls.foldl Gear.after g) more := by
  induction calls generalizing g with
  | nil => rfl
  | cons call rest ih => rw [List.cons_append, gears, gears, ih, List.foldl_cons, List.append_assoc]

theorem Gear.eq_of_used {g gear : Gear} {call : DeviceCall} (used : g.used? call = some gear) :
    gear = g := by
  cases call <;> first | exact (Option.some.inj used).symm | cases used

theorem eq_of_mem_gears {g gear : Gear} {calls : List DeviceCall}
    (unset : ∀ call ∈ calls, g.after call = g) (used : gear ∈ gears g calls) : gear = g := by
  induction calls with
  | nil => simp [gears] at used
  | cons call rest ih =>
    rw [gears, unset call (.head _), List.mem_append] at used
    rcases used with own | later
    · exact Gear.eq_of_used (Option.mem_toList.1 own)
    · exact ih (fun call among => unset call (.tail _ among)) later

/-! ### Objects that belong together -/

/-- A pipeline, the quad, and a binding. -/
structure Outfit where
  pipeline : Pipeline
  quad : Quad
  binding : Binding

namespace Outfit

/-- The objects were made, the bind group over the layout that was made with the pipeline. -/
structure Made (record : List DeviceCall) (o : Outfit) : Prop where
  pipeline : pipelineRequests o.pipeline.number o.pipeline.format <:+: record
  quad : quadRequests o.quad.vertices <:+: record
  indices : o.quad.indices = o.quad.vertices + 1
  binding : bindingRequests o.binding o.pipeline.number <:+: record

theorem Made.append {record : List DeviceCall} {o : Outfit} (made : o.Made record)
    (more : List DeviceCall) : o.Made (record ++ more) where
  pipeline := made.pipeline.trans (List.prefix_append ..).isInfix
  quad := made.quad.trans (List.prefix_append ..).isInfix
  indices := made.indices
  binding := made.binding.trans (List.prefix_append ..).isInfix

def format (o : Outfit) : TextureFormat := o.pipeline.format

/-- What a pass has set that draws with these objects. -/
def gear (o : Outfit) : Gear :=
  ⟨some (o.pipeline.number, o.format), some o.binding.group, some o.quad.vertices,
    some o.quad.indices⟩

end Outfit

def viewportWords (v : Viewport) : List UInt32 :=
  ([.ofNat v.width, .ofNat v.height, 0, 0] : List Single).map Single.toBits

/-- The objects of a pass belong to its call: the pipeline is for the call's format, all of them
were made in `record`, which is all that was asked for until the pass, and the call wrote its
viewport, and nothing else, to the uniform buffer. `asked` is what the call itself asked for until
then. -/
structure Outfit.Fits (record asked : List DeviceCall) (format : TextureFormat)
    (viewport : Viewport) (o : Outfit) : Prop where
  format : o.format = format
  made : o.Made record
  written : .writeBuffer o.binding.uniform 0 (viewportWords viewport) ∈ asked
  only : ∀ offset words, .writeBuffer o.binding.uniform offset words ∈ asked →
    offset = 0 ∧ words = viewportWords viewport

/-! ### What is kept -/

/-- The objects that a renderer keeps; it has all of them or none. -/
structure Stocked (record : List DeviceCall) (r : RectRenderer) (kept : Option Outfit) : Prop where
  pipeline : r.pipeline = kept.map Outfit.pipeline
  quad : r.quad = kept.map Outfit.quad
  binding : r.binding = kept.map Outfit.binding
  made : ∀ o, kept = some o → o.Made record

/-- The device has counted what was made. -/
structure Counted (record : List DeviceCall) (d : Device) : Prop where
  pipelines : record.filterMap DeviceCall.pipeline? = List.range d.pipelines
  layouts : record.filterMap DeviceCall.layout? = List.range d.pipelines
  groups : record.filterMap DeviceCall.group? = List.range d.groups

theorem Counted.append {record more : List DeviceCall} {d d' : Device} (counted : Counted record d)
    (quiet : ∀ call ∈ more, call.prepares = false) (pipelines : d'.pipelines = d.pipelines)
    (groups : d'.groups = d.groups) : Counted (record ++ more) d' := by
  have unread {read : DeviceCall → Option Nat}
      (silent : ∀ call, call.prepares = false → read call = none) : more.filterMap read = [] :=
    List.filterMap_eq_nil_iff.2 fun call among => silent call (quiet call among)
  constructor
  case pipelines =>
    rw [List.filterMap_append, unread pipeline?_silent, List.append_nil, counted.pipelines,
      pipelines]
  case layouts =>
    rw [List.filterMap_append, unread layout?_silent, List.append_nil, counted.layouts, pipelines]
  case groups =>
    rw [List.filterMap_append, unread group?_silent, List.append_nil, counted.groups, groups]

/-- The parts that a call has to make after one that drew to the format `last`, if there was one. -/
def missing (last : Option TextureFormat) (format : TextureFormat) : List Part :=
  if last = some format then []
  else
    [.pipeline format] ++ (if last.isNone then [.corners, .indices] else []) ++ [.uniform, .group]

/-- The objects for a call are kept or were made. -/
structure Equips (record : List DeviceCall) (kept : Option Outfit) (format : TextureFormat)
    (made : List DeviceCall) (o : Outfit) (r' : RectRenderer) (d' : Device) : Prop where
  parts : parts made = missing (kept.map Outfit.format) format
  format : o.format = format
  stocked : Stocked (record ++ made) r' (some o)
  counted : Counted (record ++ made) d'

section

variable {record made : List DeviceCall} {kept : Option Outfit} {r r' : RectRenderer}
  {d d' : Device} {format : TextureFormat} {pipeline : Pipeline} {quad : Quad} {binding : Binding}

/-- The quad is kept, or was made by requests that make nothing else. -/
theorem ensureQuad_equips (run : r.ensureQuad.run d = ((quad, r'), d'))
    (stocked : r.quad = kept.map Outfit.quad) (known : ∀ o, kept = some o → o.Made record) :
    ∃ buffers made, r' = { r with quad := some quad } ∧
      d' = { d with buffers, calls := d.calls ++ made } ∧
      (made = if kept.isNone then quadRequests quad.vertices else []) ∧
      quad.indices = quad.vertices + 1 ∧ quadRequests quad.vertices <:+: record ++ made := by
  cases kept with
  | none =>
    rw [RectRenderer.ensureQuad_made stocked] at run
    cases run
    exact ⟨_, _, rfl, rfl, rfl, rfl, (List.suffix_append ..).isInfix⟩
  | some o =>
    rw [RectRenderer.ensureQuad_kept stocked] at run
    cases run
    refine ⟨d.buffers, [], ?_, ?_, rfl, (known o rfl).indices, ?_⟩
    · rw [← Option.map_some, ← stocked]
    · rw [List.append_nil]
    · rw [List.append_nil]
      exact (known o rfl).quad

/-- A call with the format of the one before it has all that it needs. -/
theorem equips_kept {o : Outfit} (stocked : Stocked record r (some o)) (counted : Counted record d)
    (same : o.format = format) (ensured : r.Ensured format d pipeline quad binding r' d')
    (calls : d'.calls = d.calls ++ made) :
    Equips record (some o) format made ⟨pipeline, quad, binding⟩ r' d' := by
  obtain ⟨r₁, d₁, r₂, d₂, first, second, third⟩ := ensured
  have fitting : r.pipeline.filter (·.format = format) = some o.pipeline := by
    rw [stocked.pipeline, Option.map_some, Option.filter_some,
      if_pos (decide_eq_true (show o.pipeline.format = format from same))]
  rw [RectRenderer.ensurePipeline_kept fitting] at first
  cases first
  rw [RectRenderer.ensureQuad_kept stocked.quad] at second
  cases second
  rw [RectRenderer.ensureBinding_kept stocked.binding] at third
  cases third
  obtain rfl : made = [] := List.self_eq_append_right.1 calls
  refine ⟨?_, same, ?_, ?_⟩
  · rw [missing, Option.map_some, if_pos (congrArg some same)]
    rfl
  · rwa [List.append_nil]
  · rwa [List.append_nil]

/-- A call with another format, or the first one, makes a pipeline and a binding for it. -/
theorem equips_anew (stocked : Stocked record r kept) (counted : Counted record d)
    (other : kept.map Outfit.format ≠ some format)
    (ensured : r.Ensured format d pipeline quad binding r' d')
    (calls : d'.calls = d.calls ++ made) :
    Equips record kept format made ⟨pipeline, quad, binding⟩ r' d' := by
  obtain ⟨r₁, d₁, r₂, d₂, first, second, third⟩ := ensured
  have unfit : r.pipeline.filter (·.format = format) = none := by
    rw [stocked.pipeline]
    cases kept with
    | none => rfl
    | some o =>
      rw [Option.map_some, Option.filter_some, if_neg]
      exact fun same => other (congrArg some (of_decide_eq_true same))
  rw [RectRenderer.ensurePipeline_made unfit] at first
  cases first
  -- of the old objects only the quad is still of use
  obtain ⟨buffers, middle, rfl, rfl, only, indices, quadMade⟩ :=
    ensureQuad_equips second stocked.quad fun o known =>
      (stocked.made o known).append (pipelineRequests d.pipelines format)
  rw [RectRenderer.ensureBinding_made rfl] at third
  cases third
  simp only [List.append_assoc, List.append_cancel_left_eq] at calls
  subst calls
  obtain ⟨noPipeline, noLayout, noGroup⟩ : middle.filterMap DeviceCall.pipeline? = [] ∧
      middle.filterMap DeviceCall.layout? = [] ∧ middle.filterMap DeviceCall.group? = [] := by
    rw [only]
    split <;> exact ⟨rfl, rfl, rfl⟩
  have partsMiddle : parts middle = if kept.isNone then [.corners, .indices] else [] := by
    rw [only]
    split <;> rfl
  refine ⟨?_, rfl, ?_, ?_⟩
  · rw [missing, if_neg other, Option.isNone_map, ← partsMiddle]
    simp only [parts, List.filterMap_append, ← List.append_assoc]
    rfl
  · refine ⟨rfl, rfl, rfl, ?_⟩
    intro o known
    obtain rfl := Option.some.inj known
    refine ⟨⟨record, _, List.append_assoc ..⟩, ?_, indices, ?_⟩
    · refine quadMade.trans ?_
      simp only [← List.append_assoc]
      exact (List.prefix_append ..).isInfix
    · simp only [← List.append_assoc]
      exact (List.suffix_append ..).isInfix
  · constructor
    case pipelines =>
      simp only [List.filterMap_append, noPipeline, counted.pipelines, List.range_succ]
      rfl
    case layouts =>
      simp only [List.filterMap_append, noLayout, counted.layouts, List.range_succ]
      rfl
    case groups =>
      simp only [List.filterMap_append, noGroup, counted.groups, List.range_succ]
      rfl

theorem equips (stocked : Stocked record r kept) (counted : Counted record d)
    (ensured : r.Ensured format d pipeline quad binding r' d')
    (calls : d'.calls = d.calls ++ made) :
    Equips record kept format made ⟨pipeline, quad, binding⟩ r' d' := by
  by_cases same : kept.map Outfit.format = some format
  · obtain ⟨o, rfl, fitting⟩ := Option.map_eq_some_iff.1 same
    exact equips_kept stocked counted fitting ensured calls
  · exact equips_anew stocked counted same ensured calls

/-! ### A call that draws -/

/-- Calls ask for one pass, with `pass` between its ends, and for `before` before it. -/
structure OnePass (calls before pass : List DeviceCall) : Prop where
  parts : calls = before ++ .beginPass "tessera rect pass" :: (pass ++ [.endPass])
  before : ∀ call ∈ before, call.site = .outside
  inside : ∀ call ∈ pass, call.site = .inside

theorem DeviceCall.site_of_prepares {call : DeviceCall} (prepares : call.prepares = true) :
    call.site = .outside := by
  cases call <;> first | rfl | exact nomatch prepares

theorem not_prepares_of_mem {next instances base : Nat} {place : Reservation} {viewport : Viewport}
    {rects : List PendingRect} {call : DeviceCall}
    (among : call ∈ place.requests next ++
      passRequests pipeline quad binding instances base viewport rects) :
    call.prepares = false := by
  rcases List.mem_append.1 among with larger | drawing
  · cases place with
    | within base => simp [Reservation.requests] at larger
    | grow capacity =>
      obtain rfl := List.mem_singleton.1 larger
      simp [DeviceCall.prepares]
  · rw [passRequests, List.mem_append, List.mem_append] at drawing
    rcases drawing with (begins | runs) | ends
    · simp only [List.mem_cons, List.not_mem_nil, or_false] at begins
      rcases begins with rfl | rfl | rfl | rfl | rfl | rfl | rfl | rfl <;> rfl
    · rcases RectRenderer.mem_drawRuns runs with ⟨area, rfl⟩ | ⟨_, _, _, rfl⟩ <;> rfl
    · obtain rfl := List.mem_singleton.1 ends
      rfl

/-- The parts that a call makes are those that it makes when it gets ready. -/
theorem parts_render (next instances base : Nat) (place : Reservation) (viewport : Viewport)
    (rects : List PendingRect) :
    parts (made ++ place.requests next ++
        passRequests pipeline quad binding instances base viewport rects) = parts made := by
  rw [List.append_assoc, parts, List.filterMap_append, ← parts, List.append_right_eq_self]
  exact List.filterMap_eq_nil_iff.2 fun call among =>
    part?_silent call (not_prepares_of_mem among)

def opening (o : Outfit) (made : List DeviceCall) (next instances : Nat) (place : Reservation)
    (viewport : Viewport) (rects : List PendingRect) : List DeviceCall :=
  made ++ place.requests next ++
    [.writeBuffer o.binding.uniform 0 (viewportWords viewport),
      .writeBuffer instances (place.base * PendingRect.instanceBytes)
        (rects.flatMap PendingRect.words)]

def settings (o : Outfit) (instances : Nat) : List DeviceCall :=
  [.setPipeline o.pipeline.number o.pipeline.format, .setBindGroup 0 o.binding.group,
    .setVertexBuffer 0 o.quad.vertices, .setVertexBuffer 1 instances,
    .setIndexBuffer o.quad.indices]

def interior (o : Outfit) (instances base : Nat) (viewport : Viewport) (rects : List PendingRect) :
    List DeviceCall :=
  settings o instances ++ drawRuns viewport base (clipRuns (rects.map PendingRect.clip))

theorem onePass_render (prepares : ∀ call ∈ made, call.prepares) (o : Outfit) (next instances : Nat)
    (place : Reservation) (viewport : Viewport) (rects : List PendingRect) :
    OnePass
      (made ++ place.requests next ++
        passRequests o.pipeline o.quad o.binding instances place.base viewport rects)
      (opening o made next instances place viewport rects)
      (interior o instances place.base viewport rects) := by
  constructor
  case parts =>
    simp only [opening, interior, passRequests, List.append_assoc]
    rfl
  case before =>
    intro call among
    rw [opening, List.mem_append, List.mem_append] at among
    rcases among with (ready | larger) | written
    · exact DeviceCall.site_of_prepares (prepares call ready)
    · cases place with
      | within base => simp [Reservation.requests] at larger
      | grow capacity =>
        obtain rfl := List.mem_singleton.1 larger
        rfl
    · simp only [List.mem_cons, List.not_mem_nil, or_false] at written
      rcases written with rfl | rfl <;> rfl
  case inside =>
    intro call among
    rcases List.mem_append.1 among with set | drawn
    · simp only [settings, List.mem_cons, List.not_mem_nil, or_false] at set
      rcases set with rfl | rfl | rfl | rfl | rfl <;> rfl
    · rcases RectRenderer.mem_drawRuns drawn with ⟨area, rfl⟩ | ⟨_, _, _, rfl⟩ <;> rfl

/-- All of a pass is drawn with the objects of its call. -/
theorem eq_gear_of_mem {o : Outfit} {instances base : Nat} {viewport : Viewport}
    {rects : List PendingRect} {gear : Gear}
    (worn : gear ∈ gears .none (interior o instances base viewport rects ++ [.endPass])) :
    gear = o.gear := by
  have unset : ∀ call ∈ drawRuns viewport base (clipRuns (rects.map PendingRect.clip)) ++
      [.endPass], o.gear.after call = o.gear := by
    intro call among
    rcases List.mem_append.1 among with drawn | ends
    · rcases RectRenderer.mem_drawRuns drawn with ⟨area, rfl⟩ | ⟨_, _, _, rfl⟩ <;> rfl
    · obtain rfl := List.mem_singleton.1 ends
      rfl
  rw [interior, List.append_assoc, gears_append] at worn
  exact eq_of_mem_gears unset worn

theorem eq_of_written {o : Outfit} {next instances offset : Nat} {place : Reservation}
    {viewport : Viewport} {rects : List PendingRect} {words : List UInt32}
    (prepares : ∀ call ∈ made, call.prepares) (apart : o.binding.uniform ≠ instances)
    (written : .writeBuffer o.binding.uniform offset words ∈
      opening o made next instances place viewport rects) :
    offset = 0 ∧ words = viewportWords viewport := by
  rw [opening, List.mem_append, List.mem_append] at written
  rcases written with (ready | larger) | writes
  · exact nomatch prepares _ ready
  · cases place <;> simp [Reservation.requests] at larger
  · simp only [List.mem_cons, DeviceCall.writeBuffer.injEq, List.not_mem_nil, or_false] at writes
    rcases writes with ⟨-, rfl, rfl⟩ | ⟨same, -⟩
    · exact ⟨rfl, rfl⟩
    · exact absurd same apart

theorem render_equips {rects : List PendingRect} {viewport : Viewport}
    (effective : (rects.isEmpty || viewport.isEmpty) = false) (stocked : Stocked record r kept)
    (counted : Counted record d) (format : TextureFormat) :
    ∃ o made r₁ d₁, r.GetsReady d made r₁ d₁ ∧ Equips record kept format made o r₁ d₁ ∧
      (r.render format viewport rects).run d =
        match r.room rects.length with
        | .error fault => (.error fault, d₁)
        | .ok (place, arena) =>
          (.ok { r₁ with instances := r.instanceBuffer d₁.buffers place, arena },
            { d₁ with
              buffers := d₁.buffers + (place.requests d₁.buffers).length
              calls := d.calls ++ (made ++ place.requests d₁.buffers ++
                passRequests o.pipeline o.quad o.binding (r.instanceBuffer d₁.buffers place)
                  place.base viewport rects) }) := by
  obtain ⟨pipeline, quad, binding, made, r₁, d₁, ensured, ready, run⟩ :=
    RectRenderer.render_ensures effective r format d
  exact ⟨⟨pipeline, quad, binding⟩, made, r₁, d₁, ready,
    equips stocked counted ensured ready.calls, run⟩

end

/-! ### The life of a renderer -/

/-- The format of a step that has something to draw, and pixels to draw to. -/
def drawnFormat? : RendererStep → Option TextureFormat
  | .render format viewport rects =>
    if rects.isEmpty || viewport.isEmpty then none else some format
  | _ => none

def lastFormat (past : List (RendererStep × List DeviceCall)) : Option TextureFormat :=
  (past.filterMap fun done => drawnFormat? done.1).getLast?

theorem lastFormat_next (past : List (RendererStep × List DeviceCall)) (step : RendererStep)
    (calls : List DeviceCall) :
    lastFormat (past ++ [(step, calls)]) = (drawnFormat? step).or (lastFormat past) := by
  unfold lastFormat
  cases drawn : drawnFormat? step <;> simp [drawn]

/-- A call with nothing to draw asks for nothing and changes nothing. -/
theorem idle_run {r : RectRenderer} {d : Device} {format : TextureFormat} {viewport : Viewport}
    {rects : List PendingRect} (taken : d.calls = [])
    (idle : (rects.isEmpty || viewport.isEmpty) = true) :
    (RendererStep.render format viewport rects).run r d = (.ok [], r, d) := by
  rw [RendererStep.run, RectRenderer.render_idle idle]
  simp only [Device.takeCalls, taken]
  rw [← taken]

def Part.ofQuad : Part → Bool
  | corners => true
  | indices => true
  | _ => false

theorem filter_missing (last : Option TextureFormat) (format : TextureFormat) :
    (missing last format).filter Part.ofQuad =
      if last.isSome then [] else [.corners, .indices] := by
  unfold missing
  cases last with
  | none => rfl
  | some other => split <;> rfl

/-- A renderer has the objects that its last call drew with, and the quad was made once. -/
structure Kitted (past : List (RendererStep × List DeviceCall)) (r : RectRenderer) (d : Device)
    (kept : Option Outfit) : Prop where
  stocked : Stocked (history past) r kept
  counted : Counted (history past) d
  last : lastFormat past = kept.map Outfit.format
  quad : (parts (history past)).filter Part.ofQuad =
    if kept.isSome then [.corners, .indices] else []

namespace Kitted

variable {past : List (RendererStep × List DeviceCall)} {r r' : RectRenderer} {d d' : Device}
  {kept : Option Outfit}

theorem start : Kitted [] .empty .fresh none where
  stocked := ⟨rfl, rfl, rfl, by simp⟩
  counted := ⟨rfl, rfl, rfl⟩
  last := rfl
  quad := rfl

theorem quiet (kitted : Kitted past r d kept) {step : RendererStep}
    (idle : drawnFormat? step = none) (pipeline : r'.pipeline = r.pipeline)
    (quad : r'.quad = r.quad) (binding : r'.binding = r.binding) :
    Kitted (past ++ [(step, [])]) r' d kept where
  stocked := by
    rw [history_next, List.append_nil]
    exact ⟨pipeline.trans kitted.stocked.pipeline, quad.trans kitted.stocked.quad,
      binding.trans kitted.stocked.binding, kitted.stocked.made⟩
  counted := by
    rw [history_next, List.append_nil]
    exact kitted.counted
  last := by rw [lastFormat_next, idle, Option.none_or, kitted.last]
  quad := by
    rw [history_next, List.append_nil]
    exact kitted.quad

theorem drawn (kitted : Kitted past r d kept) {format : TextureFormat} {viewport : Viewport}
    {rects : List PendingRect} {made : List DeviceCall} {o : Outfit} {r₁ : RectRenderer}
    {d₁ : Device} (effective : (rects.isEmpty || viewport.isEmpty) = false)
    (equips : Equips (history past) kept format made o r₁ d₁) (next instances base buffers : Nat)
    (place : Reservation) (arena : InstanceArena) :
    Kitted (past ++ [(.render format viewport rects, made ++ place.requests next ++
        passRequests o.pipeline o.quad o.binding instances base viewport rects)])
      { r₁ with instances := some instances, arena } { d₁ with buffers, calls := [] } (some o) where
  stocked := by
    rw [history_next, List.append_assoc, ← List.append_assoc (history past)]
    exact ⟨equips.stocked.pipeline, equips.stocked.quad, equips.stocked.binding,
      fun o known => (equips.stocked.made o known).append _⟩
  counted := by
    rw [history_next, List.append_assoc, ← List.append_assoc (history past)]
    exact equips.counted.append (fun _ => not_prepares_of_mem) rfl rfl
  last := by
    rw [lastFormat_next, drawnFormat?, effective, Option.map_some, equips.format]
    rfl
  quad := by
    rw [history_next, parts, List.filterMap_append, ← parts, ← parts, parts_render,
      List.filter_append, kitted.quad, equips.parts, filter_missing, Option.isSome_map]
    cases kept <;> rfl

end Kitted

theorem Kitted.of_run {past : List (RendererStep × List DeviceCall)} {r r' : RectRenderer}
    {d d' : Device} {kept : Option Outfit} {format : TextureFormat} {viewport : Viewport}
    {rects : List PendingRect} {calls : List DeviceCall} (kitted : Kitted past r d kept)
    (taken : d.calls = []) (effective : (rects.isEmpty || viewport.isEmpty) = false)
    (run : (RendererStep.render format viewport rects).run r d = (.ok calls, r', d')) :
    ∃ o made r₁ d₁ place arena, r.GetsReady d made r₁ d₁ ∧
      Equips (history past) kept format made o r₁ d₁ ∧ r.room rects.length = .ok (place, arena) ∧
      calls = made ++ place.requests d₁.buffers ++ passRequests o.pipeline o.quad o.binding
        (r.instanceBuffer d₁.buffers place) place.base viewport rects ∧
      r' = { r₁ with instances := r.instanceBuffer d₁.buffers place, arena } ∧
      d' = { d₁ with buffers := d₁.buffers + (place.requests d₁.buffers).length, calls := [] } := by
  obtain ⟨o, made, r₁, d₁, ready, equips, asked⟩ :=
    render_equips effective kitted.stocked kitted.counted format
  cases room : r.room rects.length with
  | error fault =>
    rw [room] at asked
    simp [RendererStep.run, asked] at run
  | ok placed =>
    obtain ⟨place, arena⟩ := placed
    rw [room] at asked
    simp only [RendererStep.run, asked, Device.takeCalls, taken, List.nil_append] at run
    cases run
    exact ⟨o, made, r₁, d₁, place, arena, ready, equips, rfl, rfl, rfl, rfl⟩

theorem Ran.kitted {past : List (RendererStep × List DeviceCall)} {r : RectRenderer} {d : Device}
    (ran : Ran past r d) : ∃ kept, Kitted past r d kept := by
  induction ran with
  | start => exact ⟨none, .start⟩
  | @next past r r' d d' step calls ran run ih =>
    obtain ⟨kept, kitted⟩ := ih
    cases step with
    | beginFrame =>
      cases run
      exact ⟨kept, kitted.quiet rfl rfl rfl rfl⟩
    | trim =>
      cases run
      exact ⟨kept, kitted.quiet rfl rfl rfl rfl⟩
    | render format viewport rects =>
      cases effective : rects.isEmpty || viewport.isEmpty with
      | true =>
        rw [idle_run ran.sound.taken effective] at run
        cases run
        refine ⟨kept, kitted.quiet ?_ rfl rfl rfl⟩
        rw [drawnFormat?, effective]
        rfl
      | false =>
        obtain ⟨o, made, r₁, d₁, place, arena, -, equips, -, rfl, rfl, rfl⟩ :=
          kitted.of_run ran.sound.taken effective run
        exact ⟨some o, kitted.drawn effective equips _ _ _ _ _ _⟩

/-- What a renderer draws with fits what it draws to. The quad is made once, by the first call that
draws. A call with nothing to draw asks for nothing; every other one makes just the parts that are
missing for its format, and draws in one pass with objects that fit it, unless it ends in a fault
before the pass. -/
structure ResourcesMatch (past : List (RendererStep × List DeviceCall)) (r : RectRenderer)
    (d : Device) : Prop where
  taken : d.calls = []
  pipelines : ((history past).filterMap DeviceCall.pipeline?).Nodup
  layouts : ((history past).filterMap DeviceCall.layout?).Nodup
  groups : ((history past).filterMap DeviceCall.group?).Nodup
  buffers : ((history past).filterMap DeviceCall.buffer?).Nodup
  quad : (parts (history past)).filter Part.ofQuad =
    if (lastFormat past).isSome then [.corners, .indices] else []
  idle : ∀ (format : TextureFormat) (viewport : Viewport) (rects : List PendingRect),
    (rects.isEmpty || viewport.isEmpty) = true →
    (RendererStep.render format viewport rects).run r d = (.ok [], r, d)
  makes : ∀ (format : TextureFormat) (viewport : Viewport) (rects : List PendingRect)
    (result : Except Fault RectRenderer) (d' : Device),
    (rects.isEmpty || viewport.isEmpty) = false →
    (r.render format viewport rects).run d = (result, d') →
    parts d'.calls = missing (lastFormat past) format
  fits : ∀ (format : TextureFormat) (viewport : Viewport) (rects : List PendingRect)
    (calls : List DeviceCall) (r' : RectRenderer) (d' : Device),
    (rects.isEmpty || viewport.isEmpty) = false →
    (RendererStep.render format viewport rects).run r d = (.ok calls, r', d') →
    ∃ before pass o, OnePass calls before pass ∧
      Outfit.Fits (history past ++ before) before format viewport o ∧
      ∀ gear ∈ gears .none (pass ++ [.endPass]), gear = o.gear
  faulty : ∀ (format : TextureFormat) (viewport : Viewport) (rects : List PendingRect)
    (fault : Fault) (d' : Device),
    (r.render format viewport rects).run d = (.error fault, d') →
    ∀ call ∈ d'.calls, call.site = .outside

section

variable {past : List (RendererStep × List DeviceCall)} {r r' : RectRenderer} {d d' : Device}
  {format : TextureFormat} {viewport : Viewport} {rects : List PendingRect}

theorem Kitted.makes {kept : Option Outfit} (kitted : Kitted past r d kept) (taken : d.calls = [])
    (effective : (rects.isEmpty || viewport.isEmpty) = false)
    {result : Except Fault RectRenderer}
    (run : (r.render format viewport rects).run d = (result, d')) :
    parts d'.calls = missing (lastFormat past) format := by
  obtain ⟨o, made, r₁, d₁, ready, equips, asked⟩ :=
    render_equips effective kitted.stocked kitted.counted format
  rw [run] at asked
  rw [kitted.last, ← equips.parts]
  cases room : r.room rects.length with
  | error fault =>
    rw [room] at asked
    cases asked
    rw [ready.calls, taken, List.nil_append]
  | ok placed =>
    rw [room] at asked
    cases asked
    rw [taken, List.nil_append, parts_render]

theorem Kitted.faulty {kept : Option Outfit} (kitted : Kitted past r d kept) (taken : d.calls = [])
    {fault : Fault} (run : (r.render format viewport rects).run d = (.error fault, d')) :
    ∀ call ∈ d'.calls, call.site = .outside := by
  intro call among
  cases effective : rects.isEmpty || viewport.isEmpty with
  | true =>
    rw [RectRenderer.render_idle effective] at run
    cases run
  | false =>
    obtain ⟨o, made, r₁, d₁, ready, -, asked⟩ :=
      render_equips effective kitted.stocked kitted.counted format
    rw [run] at asked
    split at asked
    · cases asked
      rw [ready.calls, taken, List.nil_append] at among
      exact DeviceCall.site_of_prepares (ready.prepares call among)
    · cases asked

theorem Ran.fits (ran : Ran past r d) (effective : (rects.isEmpty || viewport.isEmpty) = false)
    {calls : List DeviceCall}
    (run : (RendererStep.render format viewport rects).run r d = (.ok calls, r', d')) :
    ∃ before pass o, OnePass calls before pass ∧
      Outfit.Fits (history past ++ before) before format viewport o ∧
      ∀ gear ∈ gears .none (pass ++ [.endPass]), gear = o.gear := by
  have sound := ran.sound
  have later := (stepped_of_run sound.taken run).sound sound
  obtain ⟨kept, kitted⟩ := ran.kitted
  obtain ⟨o, made, r₁, d₁, place, arena, ready, equips, -, rfl, rfl, -⟩ :=
    kitted.of_run sound.taken effective run
  -- the two buffers that are written were made under different names
  have apart : o.binding.uniform ≠ r.instanceBuffer d₁.buffers place := by
    intro same
    have uniform := later.uniform o.binding equips.stocked.binding
    have instances := (later.sized _ (congrArg some same.symm)).1
    have once := later.numbers ▸ List.nodup_range
    have clash := eq_of_made once uniform instances rfl rfl
    simp [instanceLabel] at clash
  refine ⟨_, _, o, onePass_render ready.prepares .., ?_, fun gear => eq_gear_of_mem⟩
  constructor
  case format => exact equips.format
  case made =>
    rw [opening, List.append_assoc, ← List.append_assoc (history past)]
    exact (equips.stocked.made o rfl).append _
  case written => exact List.mem_append_right _ (.head _)
  case only => exact fun offset words => eq_of_written ready.prepares apart

end

/-- **What a renderer draws with always fits what it draws to.** -/
theorem resources_match {past : List (RendererStep × List DeviceCall)} {r : RectRenderer}
    {d : Device} (ran : Ran past r d) : ResourcesMatch past r d := by
  have sound := ran.sound
  obtain ⟨kept, kitted⟩ := ran.kitted
  constructor
  case taken => exact sound.taken
  case pipelines =>
    rw [kitted.counted.pipelines]
    exact List.nodup_range
  case layouts =>
    rw [kitted.counted.layouts]
    exact List.nodup_range
  case groups =>
    rw [kitted.counted.groups]
    exact List.nodup_range
  case buffers =>
    rw [sound.numbers]
    exact List.nodup_range
  case quad => rw [kitted.quad, kitted.last, Option.isSome_map]
  case idle => exact fun _ _ _ => idle_run sound.taken
  case makes => exact fun _ _ _ _ _ effective run => kitted.makes sound.taken effective run
  case fits => exact fun _ _ _ _ _ _ effective run => ran.fits effective run
  case faulty => exact fun _ _ _ _ _ run => kitted.faulty sound.taken run

def drawIn (format : String) : RendererStep := .render ⟨format⟩ ⟨4, 4⟩ (squares 1)

/-- Another format after a trim, and the same one again in a new frame. -/
theorem resources_match_two_formats :
    ∃ past r d, Ran past r d ∧
      past.map Prod.fst = [drawIn "Rgba8Unorm", .trim, drawIn "Bgra8Unorm", .beginFrame,
        drawIn "Bgra8Unorm"] ∧
      lastFormat past = some ⟨"Bgra8Unorm"⟩ ∧ ResourcesMatch past r d := by
  have empty : RectRenderer.empty.room 1 = .ok (.grow 64, ⟨64, 1⟩) := by decide +kernel
  obtain ⟨_, r₁, _, one, -, -⟩ :=
    Ran.start.rendering ⟨"Rgba8Unorm"⟩ ⟨4, 4⟩ (squares 1) rfl empty
  have trimmed := one.next (show RendererStep.trim.run _ _ = (.ok [], _, _) from rfl)
  have again : r₁.trim.room 1 = .ok (.grow 64, ⟨64, 1⟩) := empty
  obtain ⟨_, r₂, _, two, arena, present⟩ :=
    trimmed.rendering ⟨"Bgra8Unorm"⟩ ⟨4, 4⟩ (squares 1) rfl again
  have begun := two.next (show RendererStep.beginFrame.run _ _ = (.ok [], _, _) from rfl)
  have free : r₂.beginFrame.room 1 = .ok (.within 0, ⟨64, 1⟩) := by
    have buffer : r₂.beginFrame.instances.isNone = false := Option.isNone_eq_false_iff.2 present
    have rewound : r₂.beginFrame.arena = ⟨64, 0⟩ := by
      rw [RectRenderer.beginFrame, arena]
      rfl
    simp only [RectRenderer.room, buffer, rewound]
    decide +kernel
  obtain ⟨_, r₃, d₃, three, -, -⟩ :=
    begun.rendering ⟨"Bgra8Unorm"⟩ ⟨4, 4⟩ (squares 1) rfl free
  exact ⟨_, r₃, d₃, three, rfl, rfl, resources_match three⟩

end RenderRelay.Gpu

import RenderRelay.Gpu.RectRenderer
import RenderRelay.Gpu.WindowSurface

/-!
Benches for the parts of a graphics backend: operations one by one on an instance arena, a window
surface and a rectangle renderer.
-/

namespace RenderRelay.Bench

open Gpu

/-! ### Instance arenas -/

inductive ArenaStep where
  | reserve (count : Nat)
  | rewind
  | trim

/-- What an operation on an arena answers. -/
inductive ArenaAnswer where
  | reserved (reservation : Reservation)
  | rewound
  | trimmed
  | fault (fault : Fault)

def ArenaStep.run : ArenaStep → InstanceArena → ArenaAnswer × InstanceArena
  | reserve count, arena =>
    match arena.reserve count with
    | .ok (reservation, arena) => (.reserved reservation, arena)
    | .error fault => (.fault fault, arena)
  | rewind, arena => (.rewound, arena.rewind)
  | trim, _ => (.trimmed, .empty)

/-- Carries out operations; each answer comes with the arena afterwards. -/
def ArenaStep.runAll : List ArenaStep → InstanceArena → List (ArenaAnswer × InstanceArena)
  | [], _ => []
  | first :: rest, arena =>
    let (answer, arena) := first.run arena
    (answer, arena) :: runAll rest arena

/-! ### Window surfaces -/

inductive SurfaceStep where
  | configure (size : Viewport)
  | fail (failure : SurfaceFailure)

/-- What was done about a failure, the surface afterwards, and the requests that went out. -/
structure SurfaceAnswer where
  action : Option SurfaceAction
  surface : WindowSurface
  requests : List Configuration

def SurfaceStep.run : SurfaceStep → WindowSurface → SurfaceAnswer
  | configure size, surface =>
    let (surface, requests) := surface.configure size
    ⟨none, surface, requests⟩
  | fail failure, surface =>
    let (action, requests) := surface.handle failure
    ⟨some action, surface, requests⟩

def SurfaceStep.runAll : List SurfaceStep → WindowSurface → List SurfaceAnswer
  | [], _ => []
  | first :: rest, surface =>
    let answer := first.run surface
    answer :: runAll rest answer.surface

/-! ### Rectangle renderers -/

inductive RendererStep where
  | beginFrame
  | trim
  | render (format : TextureFormat) (viewport : Viewport) (rects : List PendingRect)

/-- Carries out an operation on a renderer. A fault leaves the renderer as it was. -/
def RendererStep.run : RendererStep → RectRenderer → Device →
    Except Fault (List DeviceCall) × RectRenderer × Device
  | beginFrame, r, d => (.ok [], r.beginFrame, d)
  | trim, r, d => (.ok [], r.trim, d)
  | render format viewport rects, r, d =>
    match (r.render format viewport rects).run d with
    | (.ok r, d) =>
      let (calls, d) := d.takeCalls
      (.ok calls, r, d)
    | (.error fault, d) => (.error fault, r, d.takeCalls.2)

def RendererStep.runAll : List RendererStep → RectRenderer → Device →
    List (Except Fault (List DeviceCall))
  | [], _, _ => []
  | first :: rest, r, d =>
    let (answer, r, d) := first.run r d
    answer :: runAll rest r d

end RenderRelay.Bench

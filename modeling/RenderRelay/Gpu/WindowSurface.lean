import RenderRelay.Geometry.Viewport
import RenderRelay.Gpu.Device

/-!
Window surfaces: the choice of their format and alpha mode, and when they are configured anew.
-/

namespace RenderRelay.Gpu

/-! ### Choices -/

/-- The formats that store colours with a nonlinear transfer function, the preferred one first. -/
def srgbFormats : List TextureFormat := [⟨"Bgra8UnormSrgb"⟩, ⟨"Rgba8UnormSrgb"⟩]

/-- The format to use of those on offer: a nonlinear one if that is preferred and there is one, and
the first otherwise. -/
def chooseFormat (offered : List TextureFormat) (preferSrgb : Bool) : Option TextureFormat :=
  let preferred := if preferSrgb then srgbFormats.find? offered.contains else none
  preferred.or offered.head?

/-- How a compositor treats the alpha channel. -/
inductive AlphaMode where
  | auto
  | opaqueMode
  | preMultiplied
  | postMultiplied
  | inherit
  deriving DecidableEq

/-- The modes that suit a canvas, the better one first. -/
def wantedModes (translucent : Bool) : List AlphaMode :=
  if translucent then [.preMultiplied, .postMultiplied] else [.opaqueMode]

/-- The mode to use of those on offer: one that suits, else the first, else the default. -/
def chooseAlphaMode (offered : List AlphaMode) (translucent : Bool) : AlphaMode :=
  (((wantedModes translucent).find? offered.contains).or offered.head?).getD .auto

/-! ### Configuration -/

/-- A request to configure the window's surface. -/
structure Configuration where
  size : Viewport
  format : TextureFormat
  deriving DecidableEq

/-- A window surface that a canvas is bound to. The configuration keeps the last size that had
pixels; `configured` says whether the latest one had. -/
structure WindowSurface where
  configuration : Configuration
  configured : Bool
  deriving DecidableEq

/-- What can go wrong when a frame of a surface is asked for. -/
inductive SurfaceFailure where
  | timeout
  | outdated
  | lost
  | outOfMemory
  | other
  deriving DecidableEq

/-- What to do about it. -/
inductive SurfaceAction where
  /-- The surface is configured anew; the next frame may succeed. -/
  | reconfigured
  | skipFrame
  | fatal
  deriving DecidableEq

namespace WindowSurface

def unconfigured (format : TextureFormat) : WindowSurface := ⟨⟨⟨1, 1⟩, format⟩, false⟩

/-- Configures the surface for a size, and gives the request that goes out. A size without pixels
sends none. -/
def configure (s : WindowSurface) (size : Viewport) : WindowSurface × List Configuration :=
  if size.isEmpty then ({ s with configured := false }, [])
  else
    let configuration := { s.configuration with size }
    (⟨configuration, true⟩, [configuration])

/-- Answers a failure, with the request that goes out. -/
def handle (s : WindowSurface) : SurfaceFailure → SurfaceAction × List Configuration
  | .lost => (.reconfigured, if s.configured then [s.configuration] else [])
  | .outdated => (.reconfigured, if s.configured then [s.configuration] else [])
  | .outOfMemory => (.fatal, [])
  | .timeout => (.skipFrame, [])
  | .other => (.skipFrame, [])

end WindowSurface

/-! ### Setup -/

/-- How frames are handed to the display. -/
inductive PresentMode where
  | fifo
  deriving DecidableEq

/-- Which adapter is preferred. -/
inductive PowerPreference where
  | highPerformance
  deriving DecidableEq

/-- What a graphics device is opened with, beside the default limits and no extra features. -/
structure Setup where
  preferSrgb : Bool
  presentMode : PresentMode
  power : PowerPreference
  requiredFeatures : List String
  changedLimits : List String
  maxFrameLatency : Nat

/-- Nonlinear formats, frames paced by the display, the fast adapter, two frames of latency. -/
def Setup.standard : Setup := ⟨true, .fifo, .highPerformance, [], [], 2⟩

end RenderRelay.Gpu

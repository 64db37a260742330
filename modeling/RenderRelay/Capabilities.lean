/-!
The optional features of a backend, as a set of flags and as a bit mask.
-/

namespace RenderRelay

/-- The features a backend provides. `others` holds the bits above the four known flags, which are
carried along without meaning. -/
structure Capabilities where
  layers : Bool
  layerReadback : Bool
  functors : Bool
  partialRedraw : Bool
  others : Nat
  deriving DecidableEq, Inhabited

namespace Capabilities

def none : Capabilities := ⟨false, false, false, false, 0⟩

def all : Capabilities := ⟨true, true, true, true, 0⟩

def onlyLayers : Capabilities := { none with layers := true }

def onlyLayerReadback : Capabilities := { none with layerReadback := true }

def onlyFunctors : Capabilities := { none with functors := true }

def ofBits (bits : Nat) : Capabilities :=
  ⟨bits.testBit 0, bits.testBit 1, bits.testBit 2, bits.testBit 3, bits / 16⟩

def toBits (c : Capabilities) : Nat :=
  c.layers.toNat + 2 * c.layerReadback.toNat + 4 * c.functors.toNat + 8 * c.partialRedraw.toNat
    + 16 * c.others

def missing (needed c : Capabilities) : Capabilities where
  layers := needed.layers && !c.layers
  layerReadback := needed.layerReadback && !c.layerReadback
  functors := needed.functors && !c.functors
  partialRedraw := needed.partialRedraw && !c.partialRedraw
  others := 0

/-- The names of the features in the set, and the other bits in hexadecimal. -/
def names (c : Capabilities) : List String :=
  (if c.layers then ["LAYERS"] else []) ++
  (if c.layerReadback then ["LAYER_READBACK"] else []) ++
  (if c.functors then ["FUNCTORS"] else []) ++
  (if c.partialRedraw then ["PARTIAL_REDRAW"] else []) ++
  (if c.others = 0 then [] else ["0x" ++ String.ofList (Nat.toDigits 16 (16 * c.others))])

def text (c : Capabilities) : String :=
  let names := if c.names.isEmpty then ["0x0"] else c.names
  "Capabilities(" ++ " | ".intercalate names ++ ")"

end Capabilities

end RenderRelay

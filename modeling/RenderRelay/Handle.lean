/-!
Names of the things that control and render threads speak about. Each kind is numbered from one in
the order in which it is handed out and never handed out again.
-/

namespace RenderRelay

/-- Names a display list. -/
structure ListId where
  number : Nat
  deriving DecidableEq, Inhabited

/-- Names a draw callback. -/
structure FunctorId where
  number : Nat
  deriving DecidableEq, Inhabited

/-- Names an offscreen layer. -/
structure LayerHandle where
  number : Nat
  deriving DecidableEq, Inhabited

/-- Names a rendering context. Zero is the handle of a proxy that has no context. -/
structure ProxyHandle where
  number : Nat
  deriving DecidableEq, Inhabited

def ListId.text (id : ListId) : String := s!"DisplayListId#{id.number}"

def FunctorId.text (id : FunctorId) : String := s!"FunctorId#{id.number}"

def LayerHandle.text (h : LayerHandle) : String := s!"LayerHandle#{h.number}"

def LayerHandle.next (h : LayerHandle) : LayerHandle := ⟨h.number + 1⟩

namespace ProxyHandle

def invalid : ProxyHandle := ⟨0⟩

def isValid (h : ProxyHandle) : Bool := h.number ≠ 0

def text (h : ProxyHandle) : String :=
  if h.isValid then s!"ProxyHandle#{h.number}" else "ProxyHandle(invalid)"

end ProxyHandle

end RenderRelay

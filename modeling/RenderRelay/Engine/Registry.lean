import RenderRelay.Display.DisplayList
import RenderRelay.Geometry.Viewport
import RenderRelay.Table

/-!
What a context keeps between its commands: attached callbacks, layers, the layer updates that wait
for the next draw, and the list drawn last.
-/

namespace RenderRelay

/-- A layer and the size it was made with. -/
structure LayerEntry (Layer : Type) where
  layer : Layer
  size : Viewport

/-- The resources of a context. -/
structure Registry (Layer Callback : Type) where
  functors : Table FunctorId Callback
  layers : Table LayerHandle (LayerEntry Layer)
  /-- At most one list for each layer, in the order in which layers began to wait. -/
  pending : List (LayerHandle × DisplayList)
  lastDrawn : Option DisplayList

namespace Registry

variable {Layer Callback : Type}

def empty : Registry Layer Callback := ⟨.empty, .empty, [], none⟩

instance : Inhabited (Registry Layer Callback) := ⟨empty⟩

/-- Attaches a callback; `none` if the name is taken, and then the first callback stays. -/
def attach? (r : Registry Layer Callback) (id : FunctorId) (callback : Callback) :
    Option (Registry Layer Callback) :=
  if r.functors.contains id then none
  else some { r with functors := r.functors.insert id callback }

/-- Detaches a callback; `none` if there is none of that name. -/
def detach? (r : Registry Layer Callback) (id : FunctorId) : Option (Registry Layer Callback) :=
  if r.functors.contains id then some { r with functors := r.functors.erase id } else none

theorem eq_of_detach? {r r' : Registry Layer Callback} {id : FunctorId}
    (found : r.detach? id = some r') : r' = { r with functors := r.functors.erase id } := by
  unfold detach? at found
  split at found
  · exact (Option.some.inj found).symm
  · simp at found

def insertLayer (r : Registry Layer Callback) (handle : LayerHandle) (entry : LayerEntry Layer) :
    Registry Layer Callback :=
  { r with layers := r.layers.insert handle entry }

/-- Takes a layer out while it is drawn anew; lists drawn meanwhile do not see it. -/
def takeLayer (r : Registry Layer Callback) (handle : LayerHandle) : Registry Layer Callback :=
  { r with layers := r.layers.erase handle }

/-- Drops a layer together with the update that waits for it. -/
def removeLayer (r : Registry Layer Callback) (handle : LayerHandle) : Registry Layer Callback :=
  { r with
    layers := r.layers.erase handle
    pending := r.pending.filter fun update => update.1 ≠ handle }

/-- Puts a list in the place of the one that waits for the layer, or behind all that wait. -/
def enqueue (handle : LayerHandle) (list : DisplayList) :
    List (LayerHandle × DisplayList) → List (LayerHandle × DisplayList)
  | [] => [(handle, list)]
  | update :: rest =>
    if update.1 = handle then (handle, list) :: rest else update :: enqueue handle list rest

/-- Lets a list wait for its layer; `none` if there is no such layer. -/
def queueUpdate? (r : Registry Layer Callback) (handle : LayerHandle) (list : DisplayList) :
    Option (Registry Layer Callback) :=
  if r.layers.contains handle then some { r with pending := enqueue handle list r.pending }
  else none

theorem eq_of_queueUpdate? {r r' : Registry Layer Callback} {handle : LayerHandle}
    {list : DisplayList} (queued : r.queueUpdate? handle list = some r') :
    r' = { r with pending := enqueue handle list r.pending } := by
  unfold queueUpdate? at queued
  split at queued
  · exact (Option.some.inj queued).symm
  · simp at queued

def cachedLists (r : Registry Layer Callback) : Nat :=
  r.pending.length + r.lastDrawn.isSome.toNat

end Registry

end RenderRelay

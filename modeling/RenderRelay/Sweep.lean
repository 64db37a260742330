/-!
Releasing the resources of a tree, each node before its children. The walk keeps the nodes still to
be visited on a stack, so the tree may change under it: children are read after their parent was
released.
-/

namespace RenderRelay

/-- A tree of nodes `ν` inside a state `σ`. -/
structure ResourceTree (σ ν : Type) where
  release : ν → σ → σ
  /-- The children of a node, in draw order. -/
  children : ν → σ → List ν

namespace ResourceTree

variable {σ ν : Type}

/-- Visits the nodes on the stack and all below them, counting from `visited`; `none` if `fuel`
visits are not enough. -/
def sweepFrom (t : ResourceTree σ ν) : Nat → List ν → σ → Nat → Option (Nat × σ)
  | _, [], s, visited => some (visited, s)
  | 0, _ :: _, _, _ => none
  | fuel + 1, n :: rest, s, visited =>
    let s := t.release n s
    t.sweepFrom fuel (t.children n s ++ rest) s (visited + 1)

/-- Releases a node and all below it; the answer is the number of visits and the state left. -/
def sweep (t : ResourceTree σ ν) (fuel : Nat) (root : ν) (s : σ) : Option (Nat × σ) :=
  t.sweepFrom fuel [root] s 0

end ResourceTree

/-! ### Trees given by a table of children -/

/-- A tree whose nodes are numbers, and what its releases did so far. -/
structure ChildTable where
  /-- The children of each node that has an entry. -/
  children : List (Nat × List Nat)
  /-- What the release of a node changes: the entry it replaces, and by what. -/
  onRelease : List (Nat × Nat × List Nat)
  /-- The released nodes, the last one first. -/
  released : List Nat
  deriving Inhabited

namespace ChildTable

def childrenOf (t : ChildTable) (n : Nat) : List Nat := (t.children.lookup n).getD []

/-- Notes the release, then replaces the entry that hangs on it. -/
def release (n : Nat) (t : ChildTable) : ChildTable :=
  let t := { t with released := n :: t.released }
  match t.onRelease.lookup n with
  | none => t
  | some entry => { t with children := entry :: t.children }

def tree : ResourceTree ChildTable Nat := ⟨release, fun n t => t.childrenOf n⟩

end ChildTable

end RenderRelay

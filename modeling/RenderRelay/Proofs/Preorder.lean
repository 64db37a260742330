import Mathlib.Data.Fintype.Card
import Mathlib.Data.List.Nodup
import Mathlib.Data.Set.Finite.Basic
import Mathlib.Logic.Relation
import RenderRelay.Sweep

/-!
Sweeps as walks. A walk releases a node, then reads its children and walks them one after the other,
each with all below it; what a release does to the tree is seen by everything after it (`Walk`). A
sweep keeps the nodes to come on a stack, and ends just if the walk does, in the same state
(`sweep_eq_some_iff`). Over a finite tree whose children stay as they are, a walk lists the nodes
from the root down: each once, parents first, siblings in order (`sweep_is_walk`).
-/

namespace RenderRelay

open Relation

namespace ResourceTree

variable {σ ν : Type}

/-! ### Walks -/

section Walks

variable (t : ResourceTree σ ν)

/-- A walk by recursion over some nodes and all below them: from a state, by these releases in this
order, to a state. -/
inductive Walk : List ν → σ → List ν → σ → Prop
  | nil (s : σ) : Walk [] s [] s
  | cons {n : ν} {rest below after : List ν} {s s₁ s₂ : σ}
    (down : Walk (t.children n (t.release n s)) (t.release n s) below s₁)
    (onward : Walk rest s₁ after s₂) : Walk (n :: rest) s (n :: (below ++ after)) s₂

def releaseAll (released : List ν) (s : σ) : σ := released.foldl (fun s n => t.release n s) s

def noting : ResourceTree (σ × List ν) ν where
  release n s := (t.release n s.1, s.2 ++ [n])
  children n s := t.children n s.1

/-- No releases change what the children of a node are. -/
def Steady (s : σ) : Prop :=
  ∀ (released : List ν) (n : ν), t.children n (t.releaseAll released s) = t.children n s

end Walks

variable {t : ResourceTree σ ν}

theorem releaseAll_append (released more : List ν) (s : σ) :
    t.releaseAll (released ++ more) s = t.releaseAll more (t.releaseAll released s) :=
  List.foldl_append ..

/-- A walk over two lists of nodes is done with the first before it comes to the second. -/
theorem Walk.split {stack rest visited : List ν} {s s₂ : σ}
    (walk : t.Walk (stack ++ rest) s visited s₂) :
    ∃ before after s₁, visited = before ++ after ∧ t.Walk stack s before s₁ ∧
      t.Walk rest s₁ after s₂ := by
  induction stack generalizing s visited with
  | nil => exact ⟨[], visited, s, rfl, .nil s, walk⟩
  | cons n stack ih =>
    cases walk with
    | cons down onward =>
      obtain ⟨before, after, s₁, rfl, first, second⟩ := ih onward
      exact ⟨_, after, s₁, by simp, .cons down first, second⟩

theorem Walk.noting {stack visited : List ν} {s s' : σ} (walk : t.Walk stack s visited s')
    (released : List ν) : t.noting.Walk stack (s, released) visited (s', released ++ visited) := by
  induction walk generalizing released with
  | nil s =>
    rw [List.append_nil]
    exact .nil _
  | @cons n _ below after _ _ _ _ _ ihDown ihOnward =>
    have notes : released ++ n :: (below ++ after) = released ++ [n] ++ below ++ after := by simp
    rw [notes]
    exact .cons (ihDown (released ++ [n])) (ihOnward (released ++ [n] ++ below))

/-! ### Sweeps -/

/-- A sweep does what is to be walked first, and goes on with the rest of its stack. -/
theorem Walk.sweepFrom {stack visited : List ν} {s s' : σ} (walk : t.Walk stack s visited s')
    (fuel : Nat) (rest : List ν) (count : Nat) :
    t.sweepFrom (visited.length + fuel) (stack ++ rest) s count =
      t.sweepFrom fuel rest s' (count + visited.length) := by
  induction walk generalizing fuel rest count with
  | nil => rw [List.length_nil, Nat.zero_add]; rfl
  | @cons n later below after s _ _ _ _ ihDown ihOnward =>
    have length : (n :: (below ++ after)).length + fuel =
        below.length + (after.length + fuel) + 1 := by
      rw [List.length_cons, List.length_append]
      omega
    rw [length, List.cons_append, ResourceTree.sweepFrom, ihDown, ihOnward, List.length_cons,
      List.length_append]
    congr 1
    omega

theorem walk_of_sweepFrom {fuel : Nat} {stack : List ν} {s s' : σ} {count total : Nat}
    (swept : t.sweepFrom fuel stack s count = some (total, s')) :
    ∃ visited, t.Walk stack s visited s' ∧ total = count + visited.length ∧
      visited.length ≤ fuel := by
  induction fuel generalizing stack s count with
  | zero =>
    cases stack with
    | nil =>
      cases swept
      exact ⟨[], .nil _, rfl, Nat.le_refl _⟩
    | cons n rest => cases swept
  | succ fuel ih =>
    cases stack with
    | nil =>
      cases swept
      exact ⟨[], .nil _, rfl, Nat.zero_le _⟩
    | cons n rest =>
      obtain ⟨visited, walk, rfl, enough⟩ := ih swept
      obtain ⟨below, after, s₁, rfl, down, onward⟩ := walk.split
      refine ⟨_, .cons down onward, ?_, ?_⟩
      · rw [List.length_cons]
        omega
      · rw [List.length_cons]
        omega

/-- **A sweep ends just if the walk does**, in the state that the walk leaves; it counts the
releases. -/
theorem sweep_eq_some_iff {fuel : Nat} {root : ν} {s s' : σ} {total : Nat} :
    t.sweep fuel root s = some (total, s') ↔
      ∃ visited, t.Walk [root] s visited s' ∧ visited.length = total ∧ visited.length ≤ fuel := by
  constructor
  · intro swept
    obtain ⟨visited, walk, rfl, enough⟩ := walk_of_sweepFrom swept
    exact ⟨visited, walk, (Nat.zero_add _).symm, enough⟩
  · rintro ⟨visited, walk, rfl, enough⟩
    have swept := walk.sweepFrom (fuel - visited.length) [] 0
    rw [Nat.add_sub_of_le enough, Nat.zero_add] at swept
    rw [sweep, ← List.append_nil [root], swept]
    cases fuel - visited.length <;> rfl

end ResourceTree

/-! ### Trees that stay as they are -/

section

variable {ν : Type} (kids : ν → List ν)

def Below : ν → ν → Prop := ReflTransGen fun p c => c ∈ kids p

/-- Finitely many nodes are below the root; the root has no parent, and every other one has one,
among whose children it is once. -/
structure IsTree (root : ν) : Prop where
  finite : {n | Below kids root n}.Finite
  rooted : ∀ p, Below kids root p → root ∉ kids p
  once : ∀ p, Below kids root p → (kids p).Nodup
  parent : ∀ p q c, Below kids root p → Below kids root q → c ∈ kids p → c ∈ kids q → p = q

/-- A node before what is listed for its children, down to a depth. -/
def listing : Nat → ν → List ν
  | 0, _ => []
  | depth + 1, n => n :: (kids n).flatMap (listing depth)

/-- The preorder listing of a tree: parents stand before their children, these stand in their order,
and what is below a child stands together. -/
structure InPreorder (root : ν) (visited : List ν) : Prop where
  nodup : visited.Nodup
  mem_iff : ∀ n, n ∈ visited ↔ Below kids root n
  ordered : ∀ p ∈ visited, (p :: kids p).Sublist visited
  listed : ∃ depth, ∀ deeper, depth ≤ deeper → listing kids deeper root = visited

def EndsBy : Nat → ν → Prop
  | 0, _ => False
  | depth + 1, n => ∀ c ∈ kids n, EndsBy depth c

variable {kids} {root n m : ν} {depth deeper : Nat}

namespace EndsBy

theorem mono (ends : EndsBy kids depth n) (le : depth ≤ deeper) : EndsBy kids deeper n := by
  induction depth generalizing n deeper with
  | zero => exact ends.elim
  | succ depth ih =>
    obtain ⟨rest, rfl⟩ := Nat.exists_eq_add_of_le le
    rw [Nat.add_right_comm]
    exact fun c child => ih (ends c child) (Nat.le_add_right ..)

theorem exists_common {nodes : List ν} (each : ∀ n ∈ nodes, ∃ depth, EndsBy kids depth n) :
    ∃ depth, ∀ n ∈ nodes, EndsBy kids depth n := by
  induction nodes with
  | nil => exact ⟨0, by simp⟩
  | cons n rest ih =>
    obtain ⟨depth, ends⟩ := each n (.head _)
    obtain ⟨depth', ends'⟩ := ih fun m later => each m (.tail _ later)
    refine ⟨max depth depth', fun m among => ?_⟩
    rcases List.mem_cons.1 among with rfl | later
    · exact ends.mono (Nat.le_max_left ..)
    · exact (ends' m later).mono (Nat.le_max_right ..)

theorem listing_eq (ends : EndsBy kids depth n) (le : depth ≤ deeper) :
    listing kids deeper n = listing kids depth n := by
  induction depth generalizing n deeper with
  | zero => exact ends.elim
  | succ depth ih =>
    obtain ⟨rest, rfl⟩ := Nat.exists_eq_add_of_le le
    rw [Nat.add_right_comm, listing, listing]
    congr 1
    exact List.flatMap_congr fun c child => ih (ends c child) (Nat.le_add_right ..)

theorem mem_listing (ends : EndsBy kids depth n) : m ∈ listing kids depth n ↔ Below kids n m := by
  induction depth generalizing n with
  | zero => exact ends.elim
  | succ depth ih =>
    rw [listing, List.mem_cons, List.mem_flatMap]
    constructor
    · rintro (rfl | ⟨c, child, among⟩)
      · exact .refl
      · exact .head child ((ih (ends c child)).1 among)
    · intro below
      rcases ReflTransGen.cases_head below with rfl | ⟨c, child, rest⟩
      · exact .inl rfl
      · exact .inr ⟨c, child, (ih (ends c child)).2 rest⟩

theorem self_sublist_flatMap {f : ν → List ν} {children : List ν}
    (each : ∀ c ∈ children, c ∈ f c) : children.Sublist (children.flatMap f) := by
  induction children with
  | nil => exact .slnil
  | cons c rest ih =>
    rw [List.flatMap_cons, ← List.singleton_append]
    exact (List.singleton_sublist.2 (each c (.head _))).append
      (ih fun c later => each c (.tail _ later))

theorem sublist_listing {p : ν} (ends : EndsBy kids depth n) (among : p ∈ listing kids depth n) :
    (p :: kids p).Sublist (listing kids depth n) := by
  induction depth generalizing n with
  | zero => exact ends.elim
  | succ depth ih =>
    rw [listing, List.mem_cons, List.mem_flatMap] at among
    rw [listing]
    rcases among with rfl | ⟨c, child, among⟩
    · exact .cons_cons p (self_sublist_flatMap fun c child => (ends c child).mem_listing.2 .refl)
    · refine .cons _ ((ih (ends c child) among).trans ?_)
      exact List.sublist_flatten_of_mem (List.mem_map_of_mem child)

end EndsBy

namespace IsTree

theorem acyclic (tree : IsTree kids root) (below : Below kids root n) :
    ¬TransGen (fun p c => c ∈ kids p) n n := by
  induction below with
  | refl =>
    intro cycle
    obtain ⟨p, below, child⟩ := TransGen.tail'_iff.1 cycle
    exact tree.rooted p below child
  | @tail p c below child ih =>
    intro cycle
    obtain ⟨q, around, child'⟩ := TransGen.tail'_iff.1 cycle
    obtain rfl := tree.parent p q c below ((below.tail child).trans around) child child'
    exact ih (TransGen.head' child around)

theorem exists_ends (tree : IsTree kids root) (below : Below kids root n) :
    ∃ depth, EndsBy kids depth n := by
  have : Finite {n | Below kids root n} := tree.finite
  let under (a b : {n | Below kids root n}) : Prop := TransGen (fun p c => c ∈ kids p) b.1 a.1
  have : IsTrans _ under := ⟨fun _ _ _ first second => second.trans first⟩
  have : Std.Irrefl under := ⟨fun a => tree.acyclic a.2⟩
  have founded : WellFounded under := Finite.wellFounded_of_trans_of_irrefl under
  suffices all : ∀ a : {n | Below kids root n}, ∃ depth, EndsBy kids depth a.1 from all ⟨n, below⟩
  intro a
  induction a using founded.induction with
  | _ a ih =>
    obtain ⟨depth, ends⟩ := EndsBy.exists_common fun c (child : c ∈ kids a.1) =>
      ih ⟨c, a.2.tail child⟩ (.single child)
    exact ⟨depth + 1, ends⟩

/-- Of two nodes with a common descendant one is below the other. -/
theorem below_or_below (tree : IsTree kids root) {a b : ν} (belowA : Below kids root a)
    (belowB : Below kids root b) (fromA : Below kids a m) (fromB : Below kids b m) :
    Below kids a b ∨ Below kids b a := by
  induction fromA with
  | refl => exact .inr fromB
  | @tail p c fromA child ih =>
    rcases ReflTransGen.cases_tail fromB with rfl | ⟨q, fromB, child'⟩
    · exact .inl (fromA.tail child)
    · obtain rfl := tree.parent p q c (belowA.trans fromA) (belowB.trans fromB) child child'
      exact ih fromB

theorem not_below_siblings (tree : IsTree kids root) (below : Below kids root n) {a b : ν}
    (childA : a ∈ kids n) (childB : b ∈ kids n) (different : a ≠ b) (fromA : Below kids a m) :
    ¬Below kids b m := by
  -- else one of them would be below the other, and so below itself
  have notBelow {a b : ν} (childA : a ∈ kids n) (childB : b ∈ kids n) (different : a ≠ b) :
      ¬Below kids a b := by
    intro fromA
    rcases ReflTransGen.cases_tail fromA with same | ⟨p, fromA, child⟩
    · exact different same.symm
    · obtain rfl := tree.parent p n b ((below.tail childA).trans fromA) below child childB
      exact tree.acyclic below (TransGen.head' childA fromA)
  intro fromB
  rcases tree.below_or_below (below.tail childA) (below.tail childB) fromA fromB with ab | ba
  · exact notBelow childA childB different ab
  · exact notBelow childB childA different.symm ba

theorem nodup_listing (tree : IsTree kids root) (below : Below kids root n)
    (ends : EndsBy kids depth n) : (listing kids depth n).Nodup := by
  induction depth generalizing n with
  | zero => exact ends.elim
  | succ depth ih =>
    rw [listing, List.nodup_cons, List.mem_flatMap, List.nodup_flatMap]
    refine ⟨?_, fun c child => ih (below.tail child) (ends c child), ?_⟩
    · rintro ⟨c, child, among⟩
      exact tree.acyclic below (TransGen.head' child ((ends c child).mem_listing.1 among))
    · refine (tree.once n below).pairwise_of_forall_ne fun a childA b childB different => ?_
      intro m amongA amongB
      exact tree.not_below_siblings below childA childB different
        ((ends a childA).mem_listing.1 amongA) ((ends b childB).mem_listing.1 amongB)

theorem preorder (tree : IsTree kids root) (ends : EndsBy kids depth root) :
    InPreorder kids root (listing kids depth root) where
  nodup := tree.nodup_listing .refl ends
  mem_iff _ := ends.mem_listing
  ordered _ among := ends.sublist_listing among
  listed := ⟨depth, fun _ le => ends.listing_eq le⟩

end IsTree

end

namespace ResourceTree

variable {σ ν : Type} {t : ResourceTree σ ν}

/-- A walk over nodes whose children stay as they are follows the listing. -/
theorem Steady.walk {s : σ} (steady : t.Steady s) {depth : Nat} {stack : List ν}
    (ends : ∀ n ∈ stack, EndsBy (t.children · s) depth n) (released : List ν) :
    t.Walk stack (t.releaseAll released s) (stack.flatMap (listing (t.children · s) depth))
      (t.releaseAll (released ++ stack.flatMap (listing (t.children · s) depth)) s) := by
  induction depth generalizing stack released with
  | zero =>
    cases stack with
    | nil =>
      rw [List.flatMap_nil, List.append_nil]
      exact .nil _
    | cons n rest => exact (ends n (.head _)).elim
  | succ depth ih =>
    induction stack generalizing released with
    | nil =>
      rw [List.flatMap_nil, List.append_nil]
      exact .nil _
    | cons n rest ihRest =>
      have one : t.releaseAll (released ++ [n]) s = t.release n (t.releaseAll released s) :=
        releaseAll_append ..
      have down := ih (ends n (.head _)) (released ++ [n])
      have onward := ihRest (fun m later => ends m (.tail _ later))
        (released ++ listing (t.children · s) (depth + 1) n)
      rw [List.flatMap_cons, ← List.append_assoc]
      refine .cons ?_ onward
      rw [← one, steady]
      rwa [List.append_assoc] at down

/-- **A sweep is a walk.** Whatever releases do to the tree, where the walk by recursion ends, a
sweep ends too, after the same releases and in the same state, and gives their number. Over a finite
tree whose children stay as they are, that is the preorder listing. -/
theorem sweep_is_walk (t : ResourceTree σ ν) (root : ν) (s : σ) :
    (∀ visited s', t.Walk [root] s visited s' → ∀ fuel, visited.length ≤ fuel →
      t.sweep fuel root s = some (visited.length, s') ∧
      t.noting.sweep fuel root (s, []) = some (visited.length, s', visited)) ∧
    (t.Steady s → IsTree (t.children · s) root →
      ∃ visited, t.Walk [root] s visited (t.releaseAll visited s) ∧
        InPreorder (t.children · s) root visited) := by
  constructor
  · intro visited s' walk fuel enough
    exact ⟨sweep_eq_some_iff.2 ⟨visited, walk, rfl, enough⟩,
      sweep_eq_some_iff.2 ⟨visited, walk.noting [], rfl, enough⟩⟩
  · intro steady tree
    obtain ⟨depth, ends⟩ := tree.exists_ends .refl
    have alone : ∀ n ∈ [root], EndsBy (t.children · s) depth n := by simpa using ends
    have walk := steady.walk alone []
    rw [List.flatMap_singleton, List.nil_append] at walk
    exact ⟨_, walk, tree.preorder ends⟩

end ResourceTree

namespace ChildTable

theorem release_of_still {table : ChildTable} (still : table.onRelease = []) (n : Nat) :
    table.release n = { table with released := n :: table.released } := by
  simp [release, still]

theorem steady {table : ChildTable} (still : table.onRelease = []) : tree.Steady table := by
  intro released n
  induction released generalizing table with
  | nil => rfl
  | cons m rest ih =>
    have after := release_of_still still m
    have stays : (table.release m).onRelease = [] := by rw [after, still]
    refine (ih stays).trans ?_
    rw [after]
    rfl

/-- A node with three children, two of which have children of their own. -/
def sevenNodes : ChildTable := ⟨[(0, [1, 4, 5]), (1, [2, 3]), (5, [6])], [], []⟩

/-- The release of a node gives children to its sibling, and that of the sibling takes one away. -/
def replanted : ChildTable := ⟨[(0, [1, 2])], [(1, 2, [3, 4, 5]), (2, 2, [4, 5])], []⟩

theorem isTree_sevenNodes : IsTree (tree.children · sevenNodes) 0 := by
  have small {n : Nat} (below : Below (tree.children · sevenNodes) 0 n) : n ∈ List.range 7 := by
    induction below with
    | refl => decide
    | @tail p c _ child ih =>
      have all : ∀ p ∈ List.range 7, ∀ c ∈ tree.children p sevenNodes, c ∈ List.range 7 := by
        decide
      exact all p ih c child
  refine ⟨(List.finite_toSet (List.range 7)).subset fun n => small, fun p below => ?_,
    fun p below => ?_, fun p q c belowP belowQ => ?_⟩
  · have all : ∀ p ∈ List.range 7, 0 ∉ tree.children p sevenNodes := by decide
    exact all p (small below)
  · have all : ∀ p ∈ List.range 7, (tree.children p sevenNodes).Nodup := by decide
    exact all p (small below)
  · have all : ∀ p ∈ List.range 7, ∀ q ∈ List.range 7, ∀ c ∈ tree.children p sevenNodes,
        c ∈ tree.children q sevenNodes → p = q := by decide
    exact all p (small belowP) q (small belowQ) c

theorem sweep_is_walk_replanted :
    (∃ visited s', tree.Walk [0] replanted visited s' ∧ visited.length ≤ 5 ∧
      tree.sweep 5 0 replanted = some (visited.length, s') ∧
      tree.noting.sweep 5 0 (replanted, []) = some (visited.length, s', visited) ∧
      s'.released = [5, 4, 2, 1, 0]) ∧
    tree.Steady sevenNodes ∧ IsTree (tree.children · sevenNodes) 0 ∧
      ∃ visited, tree.Walk [0] sevenNodes visited (tree.releaseAll visited sevenNodes) ∧
        InPreorder (tree.children · sevenNodes) 0 visited := by
  constructor
  · have ends : tree.sweep 5 0 replanted = some (5, tree.releaseAll [0, 1, 2, 4, 5] replanted) :=
      rfl
    obtain ⟨visited, walk, -, enough⟩ := ResourceTree.sweep_eq_some_iff.1 ends
    obtain ⟨swept, noted⟩ :=
      (ResourceTree.sweep_is_walk tree 0 replanted).1 visited _ walk 5 enough
    exact ⟨visited, _, walk, enough, swept, noted, rfl⟩
  · exact ⟨steady rfl, isTree_sevenNodes,
      (ResourceTree.sweep_is_walk tree 0 sevenNodes).2 (steady rfl) isTree_sevenNodes⟩

end ChildTable

end RenderRelay

import Mathlib.Data.List.Induction
import Mathlib.Data.List.Infix
import RenderRelay.Display.Recorder

/-!
What a recording means. Calls whose clips are opened and closed in pairs are a nested program, and
the items recorded by it are read off the program: each operation under the clip that the rectangles
around it leave, whatever scopes were closed before (`Program.items`). Calls that do not pair end at
the first clip that is closed and was not open, or with clips that are still open when the list is
asked for; what was recorded until then is kept (`recording_denotes`).
-/

namespace RenderRelay

namespace Recorder

/-! ### Calls -/

/-- A call that may record an operation. -/
inductive Mark where
  | push (op : DrawOp)
  | clearTo (color : Color)
  | fillRect (rect : Rect) (color : Color)
  | drawFunctor (id : FunctorId)
  | drawLayer (handle : LayerHandle) (dst : Rect)

namespace Mark

def run (r : Recorder) : Mark → Recorder
  | push op => r.push op
  | clearTo color => r.clearTo color
  | fillRect rect color => r.fillRect rect color
  | drawFunctor id => r.drawFunctor id
  | drawLayer handle dst => r.drawLayer handle dst

/-- The operation that is recorded: none for filling a rectangle that is empty or not finite. -/
def op? : Mark → Option DrawOp
  | push op => some op
  | clearTo color => some (.clear color)
  | fillRect rect color => if rect.isEmpty || !rect.isFinite then none else some (.fill rect color)
  | drawFunctor id => some (.functor id)
  | drawLayer handle dst => some (.layer handle dst)

def items (clip : Option Rect) (mark : Mark) : List DrawItem :=
  (mark.op?.map fun op => ⟨op, clip⟩).toList

theorem run_eq (r : Recorder) (mark : Mark) :
    mark.run r = { r with items := r.items ++ mark.items r.clips.head? } := by
  cases mark with
  | fillRect rect color =>
    by_cases nothing : rect.isEmpty || !rect.isFinite
    · simp only [run, Recorder.fillRect, items, op?, if_pos nothing, Option.map_none,
        Option.toList_none, List.append_nil]
    · simp only [run, Recorder.fillRect, items, op?, if_neg nothing, Option.map_some,
        Option.toList_some]
      rfl
  | _ => rfl

end Mark

inductive Call where
  | mark (m : Mark)
  | pushClip (rect : Rect)
  | popClip

def Call.run (r : Recorder) : Call → Except Fault Recorder
  | mark m => .ok (m.run r)
  | pushClip rect => .ok (r.pushClip rect)
  | popClip => r.popClip

def Call.op? : Call → Option DrawOp
  | mark m => m.op?
  | pushClip _ => none
  | popClip => none

/-- Carries out calls up to the first fault, which is raised before anything was changed. -/
def runAll : List Call → Recorder → Option Fault × Recorder
  | [], r => (none, r)
  | call :: rest, r =>
    match call.run r with
    | .ok r => runAll rest r
    | .error fault => (some fault, r)

/-- Carries out calls and ends the recording under a name. A fault leaves it as it was. -/
def recordList (calls : List Call) (id : ListId) (r : Recorder) :
    Except Fault DisplayList × Recorder :=
  match runAll calls r with
  | (some fault, r) => (.error fault, r)
  | (none, r) =>
    match r.finish id with
    | .error fault => (.error fault, r)
    | .ok (list, r) => (.ok list, r)

/-! ### Clips -/

/-- What a clip leaves of a rectangle; without any extent where the two are disjoint. -/
def within (around rect : Rect) : Rect := (around.intersect rect).getD .zero

/-- What nested rectangles leave, the outermost one first; none leave all. -/
def effective : List Rect → Option Rect
  | [] => none
  | outermost :: inner => some (inner.foldl within outermost.normalized)

/-- The clips of nested rectangles that are open, from the innermost outwards. -/
def openClips (rects : List Rect) : List Rect := rects.inits.reverse.filterMap effective

theorem nestedClip_eq {clips enclosing : List Rect} (innermost : clips.head? = effective enclosing)
    (rect : Rect) : effective (enclosing ++ [rect]) = some (nestedClip clips rect) := by
  cases enclosing with
  | nil =>
    cases clips with
    | nil => rfl
    | cons clip clips => simp [effective] at innermost
  | cons outermost inner =>
    cases clips with
    | nil => simp [effective] at innermost
    | cons clip clips =>
      obtain rfl : clip = inner.foldl within outermost.normalized := by
        simpa [effective] using innermost
      simp [effective, nestedClip, within]

theorem openClips_concat (rects : List Rect) (rect : Rect) :
    openClips (rects ++ [rect]) = (effective (rects ++ [rect])).toList ++ openClips rects := by
  have last : (rects ++ [rect]).inits = rects.inits ++ [rects ++ [rect]] := by
    simp [List.inits_append]
  rw [openClips, last, List.reverse_append, List.filterMap_append, List.reverse_singleton,
    List.filterMap_cons, ← openClips]
  cases effective (rects ++ [rect]) <;> rfl

theorem head?_openClips (rects : List Rect) : (openClips rects).head? = effective rects := by
  induction rects using List.reverseRecOn with
  | nil => rfl
  | append_singleton rects rect ih =>
    rw [openClips_concat, nestedClip_eq ih]
    rfl

/-! ### Programs -/

/-- Calls in which every clip that is opened is closed, in the order of a program. -/
inductive Program where
  | done
  | mark (m : Mark) (rest : Program)
  | scope (rect : Rect) (body rest : Program)

namespace Program

def calls : Program → List Call
  | done => []
  | mark m rest => .mark m :: rest.calls
  | scope rect body rest => .pushClip rect :: (body.calls ++ .popClip :: rest.calls)

/-- **What a program records** inside scopes of these rectangles, the outermost one first. -/
def items (enclosing : List Rect) : Program → List DrawItem
  | done => []
  | mark m rest => m.items (effective enclosing) ++ rest.items enclosing
  | scope rect body rest => body.items (enclosing ++ [rect]) ++ rest.items enclosing

def append : Program → Program → Program
  | done, q => q
  | mark m rest, q => mark m (rest.append q)
  | scope rect body rest, q => scope rect body (rest.append q)

theorem calls_append (p q : Program) : (p.append q).calls = p.calls ++ q.calls := by
  induction p with
  | done => rfl
  | mark m rest ih => rw [append, calls, calls, ih, List.cons_append]
  | scope rect body rest _ ih => simp only [append, calls, ih, List.cons_append, List.append_assoc]

theorem map_op_items (p : Program) (enclosing : List Rect) :
    (p.items enclosing).map DrawItem.op = p.calls.filterMap Call.op? := by
  have mark (m : Mark) (clip : Option Rect) : (m.items clip).map DrawItem.op = m.op?.toList := by
    rw [Mark.items]
    cases m.op? <;> rfl
  induction p generalizing enclosing with
  | done => rfl
  | mark m rest ih =>
    rw [items, calls, List.map_append, ih, mark, List.filterMap_cons, Call.op?]
    cases m.op? <;> rfl
  | scope rect body rest ihBody ihRest =>
    rw [items, calls, List.map_append, ihBody, ihRest, List.filterMap_cons, List.filterMap_append,
      List.filterMap_cons]
    rfl

/-- Recording a program adds its items and leaves the clips as they were. -/
theorem runAll_calls (p : Program) {r : Recorder} {enclosing : List Rect}
    (innermost : r.clips.head? = effective enclosing) (rest : List Call) :
    runAll (p.calls ++ rest) r = runAll rest { r with items := r.items ++ p.items enclosing } := by
  induction p generalizing r enclosing rest with
  | done => simp [calls, items]
  | mark m later ih =>
    have marked : (m.run r).clips.head? = effective enclosing := by rw [Mark.run_eq, innermost]
    simp only [calls, List.cons_append, runAll, Call.run]
    rw [ih marked, Mark.run_eq, innermost, items, List.append_assoc]
  | scope rect body later ihBody ihLater =>
    have opened : (r.pushClip rect).clips.head? = effective (enclosing ++ [rect]) :=
      (nestedClip_eq innermost rect).symm
    simp only [calls, List.cons_append, List.append_assoc, runAll, Call.run]
    rw [ihBody opened]
    have closed := ihLater (r := { r with items := r.items ++ body.items (enclosing ++ [rect]) })
      innermost rest
    simp only [runAll, Call.run, popClip, pushClip]
    rw [closed, items, List.append_assoc]

end Program

/-! ### Programs that end early -/

/-- Calls in which some clips are opened and not closed: what came before each of them was opened,
from the outermost inwards, and what came after the last. -/
structure Unfinished where
  outer : List (Program × Rect)
  inner : Program

namespace Unfinished

def rects (u : Unfinished) : List Rect := u.outer.map Prod.snd

def calls (u : Unfinished) : List Call :=
  u.outer.flatMap (fun (p, rect) => p.calls ++ [.pushClip rect]) ++ u.inner.calls

def itemsFrom (enclosing : List Rect) : List (Program × Rect) → Program → List DrawItem
  | [], inner => inner.items enclosing
  | (p, rect) :: outer, inner =>
    p.items enclosing ++ itemsFrom (enclosing ++ [rect]) outer inner

def items (u : Unfinished) : List DrawItem := itemsFrom [] u.outer u.inner

theorem runAll_calls (u : Unfinished) {r : Recorder} (bare : r.clips = []) (rest : List Call) :
    runAll (u.calls ++ rest) r = runAll rest ⟨r.items ++ u.items, openClips u.rects⟩ := by
  obtain ⟨outer, inner⟩ := u
  have inside (enclosing : List Rect) (r : Recorder) (clips : r.clips = openClips enclosing) :
      runAll (calls ⟨outer, inner⟩ ++ rest) r =
        runAll rest ⟨r.items ++ itemsFrom enclosing outer inner,
          openClips (enclosing ++ rects ⟨outer, inner⟩)⟩ := by
    induction outer generalizing enclosing r with
    | nil =>
      have innermost : r.clips.head? = effective enclosing := by rw [clips, head?_openClips]
      simp only [calls, rects, List.flatMap_nil, List.nil_append, List.map_nil, List.append_nil,
        itemsFrom]
      rw [inner.runAll_calls innermost, clips]
    | cons first outer ih =>
      obtain ⟨p, rect⟩ := first
      have innermost : r.clips.head? = effective enclosing := by rw [clips, head?_openClips]
      simp only [calls, rects, List.flatMap_cons, List.append_assoc, List.map_cons,
        List.cons_append, List.nil_append, itemsFrom] at ih ⊢
      rw [p.runAll_calls innermost]
      simp only [runAll, Call.run, pushClip]
      rw [ih (enclosing ++ [rect])]
      · simp only [List.append_assoc, List.singleton_append]
      · rw [openClips_concat, nestedClip_eq innermost, clips]
        rfl
  have all := inside [] r bare
  rwa [List.nil_append] at all

end Unfinished

/-- Calls can be read as far as they pair: either none closes a clip that is not open, or the first
one that does follows a program. -/
theorem paired_or_unmatched (calls : List Call) :
    (∃ u : Unfinished, u.calls = calls) ∨
      ∃ (p : Program) (rest : List Call), calls = p.calls ++ .popClip :: rest := by
  induction calls using List.reverseRecOn with
  | nil => exact .inl ⟨⟨[], .done⟩, rfl⟩
  | append_singleton calls last ih =>
    rcases ih with ⟨⟨outer, inner⟩, rfl⟩ | ⟨p, rest, rfl⟩
    · cases last with
      | mark m =>
        refine .inl ⟨⟨outer, inner.append (.mark m .done)⟩, ?_⟩
        simp [Unfinished.calls, Program.calls_append, Program.calls]
      | pushClip rect =>
        refine .inl ⟨⟨outer ++ [(inner, rect)], .done⟩, ?_⟩
        simp [Unfinished.calls, Program.calls]
      | popClip =>
        rcases List.eq_nil_or_concat outer with rfl | ⟨outer, ⟨p, rect⟩, rfl⟩
        · exact .inr ⟨inner, [], by simp [Unfinished.calls]⟩
        · refine .inl ⟨⟨outer, p.append (.scope rect inner .done)⟩, ?_⟩
          simp [Unfinished.calls, Program.calls_append, Program.calls]
    · exact .inr ⟨p, rest ++ [last], by simp⟩

/-- **A recording is the meaning of its program.** On a recorder without open clips, calls that are
a program add its items, and ending the recording gives all items and leaves an empty recorder.
Calls that are none end in a fault: they go as far as they pair, and then close a clip where none is
open, or end with clips open. What was recorded until then, and the clips that are open, are left as
if the call that failed had not been made. -/
theorem recording_denotes (r : Recorder) (bare : r.clips = []) (id : ListId) :
    (∀ p : Program,
      recordList p.calls id r = (.ok ⟨id, r.items ++ p.items []⟩, empty) ∧
      (p.items []).map DrawItem.op = p.calls.filterMap Call.op?) ∧
    ∀ calls, (∀ p : Program, p.calls ≠ calls) → ∃ (u : Unfinished) (fault : Fault),
      recordList calls id r = (.error fault, ⟨r.items ++ u.items, openClips u.rects⟩) ∧
      (fault = .unmatchedPopClip ∧ u.outer = [] ∧ (∃ rest, calls = u.calls ++ .popClip :: rest) ∨
        fault = .unbalancedFinish ∧ u.outer ≠ [] ∧ calls = u.calls) ∧
      ∀ more, recordList more id ⟨r.items ++ u.items, openClips u.rects⟩ =
        recordList (u.calls ++ more) id r := by
  have continued (u : Unfinished) (more : List Call) :
      recordList more id ⟨r.items ++ u.items, openClips u.rects⟩ =
        recordList (u.calls ++ more) id r := by
    rw [recordList, recordList, u.runAll_calls bare]
  have noted (p : Program) : Unfinished.calls ⟨[], p⟩ = p.calls := rfl
  refine ⟨fun p => ⟨?_, p.map_op_items []⟩, fun calls unpaired => ?_⟩
  · have whole := continued ⟨[], p⟩ []
    rw [noted, List.append_nil] at whole
    rw [← whole]
    rfl
  · rcases paired_or_unmatched calls with ⟨u, rfl⟩ | ⟨p, rest, rfl⟩
    · have left : u.outer ≠ [] := by
        intro none
        refine unpaired u.inner ?_
        rw [Unfinished.calls, none]
        rfl
      have clips : openClips u.rects ≠ [] := by
        intro none
        have innermost := head?_openClips u.rects
        obtain ⟨first, outer, split⟩ := List.exists_cons_of_ne_nil left
        rw [none, Unfinished.rects, split] at innermost
        simp [effective] at innermost
      obtain ⟨clip, enclosing, split⟩ := List.exists_cons_of_ne_nil clips
      refine ⟨u, .unbalancedFinish, ?_, .inr ⟨rfl, left, rfl⟩, continued u⟩
      have whole := continued u []
      rw [List.append_nil] at whole
      rw [← whole, split]
      rfl
    · refine ⟨⟨[], p⟩, .unmatchedPopClip, ?_, .inl ⟨rfl, rfl, rest, rfl⟩, continued _⟩
      rw [← noted, ← continued]
      rfl

def pending : Recorder := ⟨[⟨.clear default, none⟩], []⟩

/-- A clip that extends to the left, and in it one that reaches out of it and one that lies
apart. -/
def threeScopes : Program :=
  .scope ⟨4, 0, -4, 4⟩
    (.mark (.clearTo default)
      (.scope ⟨2, 2, 4, 4⟩
        (.mark (.fillRect ⟨0, 0, 0, 1⟩ default) (.mark (.drawFunctor ⟨3⟩) .done))
        (.scope ⟨8, 8, 1, 1⟩ (.mark (.fillRect ⟨0, 0, 1, 1⟩ default) .done) .done)))
    (.mark (.drawFunctor ⟨5⟩) .done)

theorem recording_denotes_threeScopes :
    pending.clips = [] ∧
    recordList threeScopes.calls ⟨7⟩ pending =
      (.ok ⟨⟨7⟩,
        [⟨.clear default, none⟩, ⟨.clear default, some ⟨0, 0, 4, 4⟩⟩,
          ⟨.functor ⟨3⟩, some ⟨2, 2, 2, 2⟩⟩, ⟨.fill ⟨0, 0, 1, 1⟩ default, some .zero⟩,
          ⟨.functor ⟨5⟩, none⟩]⟩, empty) ∧
    (∀ p : Program, p.calls ≠ [.popClip]) ∧
    ∃ (u : Unfinished) (fault : Fault), recordList [.popClip] ⟨7⟩ pending =
      (.error fault, ⟨pending.items ++ u.items, openClips u.rects⟩) := by
  obtain ⟨programs, others⟩ := recording_denotes pending rfl ⟨7⟩
  have items : pending.items ++ threeScopes.items [] =
      [⟨.clear default, none⟩, ⟨.clear default, some ⟨0, 0, 4, 4⟩⟩,
        ⟨.functor ⟨3⟩, some ⟨2, 2, 2, 2⟩⟩, ⟨.fill ⟨0, 0, 1, 1⟩ default, some .zero⟩,
        ⟨.functor ⟨5⟩, none⟩] := by decide +kernel
  have unpaired (p : Program) : p.calls ≠ [.popClip] := by
    cases p <;> simp [Program.calls]
  obtain ⟨u, fault, failed, -, -⟩ := others [.popClip] unpaired
  refine ⟨rfl, ?_, unpaired, u, fault, failed⟩
  rw [(programs threeScopes).1, items]

end Recorder

end RenderRelay

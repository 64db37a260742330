import Mathlib.Data.List.Induction
import RenderRelay.Proofs.Traffic.Engine

/-!
The order of the calls to a backend. In an `Orderly` record frames are only begun where there is
something to draw to, and each is ended before anything else happens to its canvas. A command's
calls fall into single calls and frames (`Pieces`), and these keep a record orderly.
-/

namespace RenderRelay

open DeviceOp Recorded

variable {σ φ τ : Type} {B : Backend σ}

/-! ### Orderly records -/

namespace BackendCall

/-- The call begins a frame that has to be ended. -/
def opens : BackendCall σ φ → Bool
  | .beginFrame _ _ begun => begun
  | .beginLayerFrame _ begun => begun
  | _ => false

def ends? : BackendCall σ φ → Option Nat
  | .endFrame _ frame _ => some frame
  | .endLayerFrame _ frame => some frame
  | _ => none

/-- The first call begins a frame, as the `n`th of all, and the second ends it for the same canvas
or the same layer. -/
inductive Pairs (n : Nat) : BackendCall σ φ → BackendCall σ φ → Prop
  | canvas {canvas : Nat} {damage : PixelBox} {submitted : Bool} :
    Pairs n (.beginFrame canvas damage true) (.endFrame canvas n submitted)
  | layer {layer : Nat} : Pairs n (.beginLayerFrame layer true) (.endLayerFrame layer n)

/-- The call has nothing to do with frames as a whole. -/
def Plain (call : BackendCall σ φ) : Prop :=
  call.opens = false ∧ call.ends? = none ∧
    ∀ canvas damage begun, call ≠ .beginFrame canvas damage begun

/-- The call binds or releases the surface of a canvas. -/
def rebinds (canvas : Nat) : BackendCall σ φ → Bool
  | .bindSurface k _ _ _ => k = canvas
  | .unbindSurface k => k = canvas
  | _ => false

end BackendCall

/-- The last binding of the canvas succeeded, its surface was not released since, and a size was
set. -/
def Ready (canvas : Nat) (log : List (BackendCall σ φ)) : Prop :=
  (∃ before surface viewport after,
    log = before ++ .bindSurface canvas surface viewport true :: after ∧
      ∀ call ∈ after, call.rebinds canvas = false) ∧
  ∃ viewport accepted, .resize canvas viewport accepted ∈ log

/-- Records of calls made in the order that a backend may rely on: a frame is only asked for where
there is something to draw to, and one that was begun is ended once, with nothing but draws into it
between. -/
structure Orderly (log : List (BackendCall σ φ)) : Prop where
  ready : ∀ before canvas damage begun after,
    log = before ++ .beginFrame canvas damage begun :: after → Ready canvas before
  closed : ∀ before first after, log = before ++ first :: after → first.opens = true →
    ∃ body last rest, after = body ++ last :: rest ∧ first.Pairs before.length last ∧
      (∀ call ∈ body, call.canvas? = none ∧ call.drawsInto? = some before.length) ∧
      ∀ call ∈ before ++ body ++ rest, call.ends? ≠ some before.length
  begun : ∀ before last after, log = before ++ last :: after → ∀ n, last.ends? = some n →
    ∃ first, before[n]? = some first ∧ first.Pairs n last

/-- What a record is made of: single calls, and frames from the call that begins them to the one
that ends them. -/
inductive Piece (log : List (BackendCall σ φ)) : List (BackendCall σ φ) → Prop
  | single {call : BackendCall σ φ} (opens : call.opens = false) (ends : call.ends? = none)
      (ready : ∀ canvas damage begun, call = .beginFrame canvas damage begun → Ready canvas log) :
    Piece log [call]
  | frame {first last : BackendCall σ φ} {body : List (BackendCall σ φ)}
      (pairs : first.Pairs log.length last)
      (draws : ∀ call ∈ body, call.drawsInto? = some log.length)
      (ready : ∀ canvas damage begun, first = .beginFrame canvas damage begun → Ready canvas log) :
    Piece log (first :: (body ++ [last]))

/-- Calls that are added to a record piece by piece. -/
inductive Pieces : List (BackendCall σ φ) → List (BackendCall σ φ) → Prop
  | nil {log : List (BackendCall σ φ)} : Pieces log []
  | cons {log piece rest : List (BackendCall σ φ)} (first : Piece log piece)
      (others : Pieces (log ++ piece) rest) : Pieces log (piece ++ rest)

namespace BackendCall

variable {call : BackendCall σ φ} {n : Nat}

theorem not_ends_of_draws (draws : call.drawsInto? = some n) : call.ends? = none := by
  cases call <;> simp_all [drawsInto?, ends?]

theorem not_draws_of_opens (opens : call.opens = true) : call.drawsInto? = none := by
  cases call <;> simp_all [drawsInto?, BackendCall.opens]

theorem not_ends_of_opens (opens : call.opens = true) : call.ends? = none := by
  cases call <;> simp_all [ends?, BackendCall.opens]

theorem Pairs.not_ends {first last : BackendCall σ φ} (pairs : first.Pairs n last) :
    first.ends? = none := by
  cases pairs <;> rfl

theorem Pairs.ends {first last : BackendCall σ φ} (pairs : first.Pairs n last) :
    last.ends? = some n := by
  cases pairs <;> rfl

end BackendCall

theorem append_eq_split {α : Type} {xs ys before after : List α} {a : α}
    (split : xs ++ ys = before ++ a :: after) :
    (∃ rest, xs = before ++ a :: rest ∧ after = rest ++ ys) ∨
      ∃ more, before = xs ++ more ∧ ys = more ++ a :: after := by
  rcases List.append_eq_append_iff.1 split with ⟨more, rfl, same⟩ | ⟨rest, rfl, same⟩
  · exact .inr ⟨more, rfl, same⟩
  · cases rest with
    | nil => exact .inr ⟨[], by simp, by simpa using same.symm⟩
    | cons b rest =>
      obtain ⟨rfl, rfl⟩ := List.cons_eq_cons.1 same
      exact .inl ⟨rest, rfl, rfl⟩

namespace Orderly

variable {log piece calls : List (BackendCall σ φ)}

theorem nil : Orderly ([] : List (BackendCall σ φ)) where
  ready := by simp
  closed := by simp
  begun := by simp

theorem lt_length (orderly : Orderly log) {call : BackendCall σ φ} (mem : call ∈ log) {n : Nat}
    (ends : call.ends? = some n) : n < log.length := by
  obtain ⟨before, after, rfl⟩ := List.append_of_mem mem
  obtain ⟨first, there, -⟩ := orderly.begun before call after rfl n ends
  have := (List.getElem?_eq_some_iff.1 there).1
  simp only [List.length_append]
  omega

end Orderly

namespace Piece

variable {log piece more after : List (BackendCall σ φ)} {call : BackendCall σ φ}

/-- The frames that a piece ends are its own, and the piece begins with the call that began it. -/
theorem of_ends (added : Piece log piece) (split : piece = more ++ call :: after) {n : Nat}
    (ends : call.ends? = some n) :
    n = log.length ∧ ∃ first more', more = first :: more' ∧ first.Pairs n call := by
  cases added with
  | @single only opens not_ends ready =>
    have mem : call ∈ [only] := by simp [split]
    obtain rfl := List.mem_singleton.1 mem
    simp [not_ends] at ends
  | @frame first last body pairs draws ready =>
    cases more with
    | nil =>
      obtain ⟨rfl, -⟩ := List.cons_eq_cons.1 split
      simp [pairs.not_ends] at ends
    | cons first' more' =>
      obtain ⟨rfl, inside⟩ := List.cons_eq_cons.1 (split.trans List.cons_append)
      have mem : call ∈ body ++ [last] := by simp [inside]
      rcases List.mem_append.1 mem with mem | mem
      · simp [BackendCall.not_ends_of_draws (draws call mem)] at ends
      · obtain rfl := List.mem_singleton.1 mem
        obtain rfl : n = log.length := Option.some.inj (ends.symm.trans pairs.ends)
        exact ⟨rfl, first, more', rfl, pairs⟩

theorem head (added : Piece log piece) (split : piece = more ++ call :: after)
    (draws : call.drawsInto? = none) (ends : call.ends? = none) : more = [] := by
  cases added with
  | single opens not_ends ready =>
    cases more with
    | nil => rfl
    | cons first more' => simp at split
  | @frame first last body pairs drawn ready =>
    cases more with
    | nil => rfl
    | cons first' more' =>
      have inside := (List.cons_eq_cons.1 (split.trans List.cons_append)).2
      have mem : call ∈ body ++ [last] := by simp [inside]
      rcases List.mem_append.1 mem with mem | mem
      · simp [drawn call mem] at draws
      · obtain rfl := List.mem_singleton.1 mem
        simp [pairs.ends] at ends

end Piece

namespace Orderly

variable {log piece calls : List (BackendCall σ φ)}

/-- **A piece more keeps a record orderly.** -/
theorem append_piece (orderly : Orderly log) (added : Piece log piece) :
    Orderly (log ++ piece) where
  ready before canvas damage begun after split := by
    rcases append_eq_split split with ⟨rest, whole, -⟩ | ⟨more, rfl, inside⟩
    · exact orderly.ready before canvas damage begun rest whole
    · obtain rfl := added.head inside rfl rfl
      rw [List.append_nil]
      cases added with
      | single opens not_ends ready =>
        exact ready canvas damage begun (List.cons_eq_cons.1 inside).1
      | frame pairs draws ready => exact ready canvas damage begun (List.cons_eq_cons.1 inside).1
  closed before first after split opens := by
    rcases append_eq_split split with ⟨rest, whole, rfl⟩ | ⟨more, rfl, inside⟩
    · obtain ⟨body, last, rest, rfl, pairs, draws, once⟩ :=
        orderly.closed before first rest whole opens
      refine ⟨body, last, rest ++ piece, by simp, pairs, draws, ?_⟩
      intro call mem ends
      rw [← List.append_assoc] at mem
      rcases List.mem_append.1 mem with mem | mem
      · exact once call mem ends
      · -- the piece ends another frame
        obtain ⟨more, after, split⟩ := List.append_of_mem mem
        have number := (added.of_ends split ends).1
        rw [whole, List.length_append, List.length_cons] at number
        omega
    · obtain rfl := added.head inside (first.not_draws_of_opens opens)
        (first.not_ends_of_opens opens)
      rw [List.append_nil]
      cases added with
      | single closed not_ends ready =>
        obtain ⟨rfl, -⟩ := List.cons_eq_cons.1 inside
        simp [closed] at opens
      | @frame first' last body pairs draws ready =>
        obtain ⟨rfl, rfl⟩ := List.cons_eq_cons.1 inside
        refine ⟨body, last, [], rfl, pairs, fun call mem => ?_, fun call mem ends => ?_⟩
        · exact ⟨BackendCall.canvas?_of_drawsInto? (draws call mem), draws call mem⟩
        · simp only [List.append_nil, List.mem_append] at mem
          rcases mem with mem | mem
          · exact Nat.lt_irrefl _ (orderly.lt_length mem ends)
          · simp [BackendCall.not_ends_of_draws (draws call mem)] at ends
  begun before last after split n ends := by
    rcases append_eq_split split with ⟨rest, whole, -⟩ | ⟨more, rfl, inside⟩
    · exact orderly.begun before last rest whole n ends
    · obtain ⟨rfl, first, more', rfl, pairs⟩ := added.of_ends inside ends
      exact ⟨first, by simp, pairs⟩

theorem append (orderly : Orderly log) (pieces : Pieces log calls) : Orderly (log ++ calls) := by
  induction pieces with
  | nil => simpa using orderly
  | cons first _ ih =>
    rw [← List.append_assoc]
    exact ih (orderly.append_piece first)

end Orderly

/-! ### What the calls so far tell -/

namespace CanvasState

variable {canvas : Nat} {log calls : List (BackendCall σ φ)}

theorem told_append :
    told canvas (log ++ calls) = calls.foldl (after canvas) (told canvas log) :=
  List.foldl_append

theorem told_append_of_others (others : ∀ call ∈ calls, call.canvas? ≠ some canvas) :
    told canvas (log ++ calls) = told canvas log := by
  rw [told_append, foldl_after_of_others others]

theorem after_bound {s : CanvasState} {call : BackendCall σ φ}
    (other : call.rebinds canvas = false) : (s.after canvas call).bound = s.bound := by
  cases call <;> simp_all [BackendCall.rebinds, after]
  split <;> rfl
  split <;> rfl

theorem after_size (canvas : Nat) (s : CanvasState) (call : BackendCall σ φ) :
    (s.after canvas call).size = s.size ∨
      ∃ viewport accepted, call = .resize canvas viewport accepted := by
  cases call with
  | resize k viewport accepted =>
    by_cases same : k = canvas
    · exact .inr ⟨viewport, accepted, same ▸ rfl⟩
    · exact .inl (by simp [after, same])
  | bindSurface => left; simp only [after]; split <;> rfl
  | unbindSurface => left; simp only [after]; split <;> rfl
  | endFrame => left; simp only [after]; split <;> rfl
  | _ => exact .inl rfl

/-- A canvas that is bound by what the calls tell has its last binding among them. -/
theorem bound_of_told (bound : (told canvas log).bound = true) :
    ∃ before surface viewport after,
      log = before ++ .bindSurface canvas surface viewport true :: after ∧
        ∀ call ∈ after, call.rebinds canvas = false := by
  induction log using List.reverseRecOn with
  | nil => simp [told, fresh] at bound
  | append_singleton log call ih =>
    rw [told_append] at bound
    cases rebinds : call.rebinds canvas with
    | false =>
      obtain ⟨before, surface, viewport, after, rfl, since⟩ := ih (by
        rwa [List.foldl_cons, List.foldl_nil, after_bound rebinds] at bound)
      refine ⟨before, surface, viewport, after ++ [call], by simp, ?_⟩
      simp only [List.mem_append, List.mem_singleton]
      rintro call' (mem | rfl)
      · exact since call' mem
      · exact rebinds
    | true =>
      cases call with
      | bindSurface k surface viewport succeeded =>
        obtain rfl : k = canvas := by simpa [BackendCall.rebinds] using rebinds
        obtain rfl : succeeded = true := by simpa [after] using bound
        exact ⟨log, surface, viewport, [], rfl, by simp⟩
      | unbindSurface k =>
        obtain rfl : k = canvas := by simpa [BackendCall.rebinds] using rebinds
        simp [after] at bound
      | _ => simp [BackendCall.rebinds] at rebinds

theorem sized_of_told (sized : (told canvas log).size.isSome = true) :
    ∃ viewport accepted, .resize canvas viewport accepted ∈ log := by
  induction log using List.reverseRecOn with
  | nil => simp [told, fresh] at sized
  | append_singleton log call ih =>
    rw [told_append] at sized
    rcases after_size canvas (told canvas log) call with same | ⟨viewport, accepted, rfl⟩
    · obtain ⟨viewport, accepted, mem⟩ := ih (by
        rwa [List.foldl_cons, List.foldl_nil, same] at sized)
      exact ⟨viewport, accepted, List.mem_append_left _ mem⟩
    · exact ⟨viewport, accepted, by simp⟩

theorem ready_of_told (bound : (told canvas log).bound = true)
    (sized : (told canvas log).size.isSome = true) : Ready canvas log :=
  ⟨bound_of_told bound, sized_of_told sized⟩

end CanvasState

/-! ### Commands in pieces -/

namespace Pieces

variable {log calls calls' : List (BackendCall σ φ)}

theorem append (first : Pieces log calls) (second : Pieces (log ++ calls) calls') :
    Pieces log (calls ++ calls') := by
  induction first with
  | nil => simpa using second
  | cons piece _ ih =>
    rw [List.append_assoc]
    exact .cons piece (ih (by rwa [List.append_assoc]))

theorem of_piece (piece : Piece log calls) : Pieces log calls := by
  simpa using Pieces.cons piece .nil

theorem of_plain (plain : ∀ call ∈ calls, call.Plain) : Pieces log calls := by
  induction calls generalizing log with
  | nil => exact .nil
  | cons call rest ih =>
    obtain ⟨opens, ends, other⟩ := plain call (by simp)
    exact .cons (.single opens ends fun _ _ _ same => absurd same (other _ _ _))
      (ih fun call mem => plain call (List.mem_cons_of_mem _ mem))

end Pieces

namespace Directory

variable {s : Directory φ} {index n : Nat} {log calls : List (BackendCall σ φ)}

theorem Redraws.pieces {update : LayerHandle × DisplayList}
    (redraws : s.Redraws index log.length update calls) : Pieces log calls := by
  cases redraws with
  | unknown => exact .nil
  | refused => exact .of_piece (.single rfl rfl (by simp))
  | drawn => exact .of_piece (.frame .layer (fun _ mem => drawsInto?_of_mem mem) (by simp))

theorem RedrawsAll.pieces {updates : List (LayerHandle × DisplayList)}
    (redraws : s.RedrawsAll index n updates calls) (length : log.length = n) :
    Pieces log calls := by
  induction redraws generalizing log with
  | nil => exact .nil
  | cons first _ ih =>
    subst length
    exact first.pieces.append (ih List.length_append)

theorem Presents.pieces {canvas : Nat} {list : DisplayList} {target : Target}
    (presents : s.Presents canvas list target log.length calls) (ready : Ready canvas log) :
    Pieces log calls := by
  cases presents with
  | refused =>
    refine .of_piece (.single rfl rfl ?_)
    rintro _ _ _ ⟨⟩
    exact ready
  | drawn submitted =>
    refine .of_piece (.frame .canvas (fun _ mem => drawsInto?_of_mem mem) ?_)
    rintro _ _ _ ⟨⟩
    exact ready

end Directory

namespace Context

variable {c : Context (B.recorded φ) φ} {log calls : List (BackendCall σ φ)}

/-- A context that is as the calls so far tell. -/
def Told (c : Context (B.recorded φ) φ) (log : List (BackendCall σ φ)) : Prop :=
  ∀ canvas, c.canvas = some canvas → c.canvasState = .told canvas.number log

theorem Frames.pieces {list : DisplayList} {damage : Damage}
    (frames : c.Frames log.length list damage calls) (told : c.Told log) : Pieces log calls := by
  cases frames with
  | unbound => exact .nil
  | outside => exact .nil
  | frame there bound sized repaints presents =>
    refine presents.pieces (CanvasState.ready_of_told ?_ ?_) <;> rw [← told _ there]
    · exact bound
    · simp [canvasState, sized]

theorem Draws.pieces {list : DisplayList} {damage : Damage}
    (draws : c.Draws log.length list damage calls) (told : c.Told log) : Pieces log calls := by
  obtain ⟨updates, frame, redraws, frames, rfl⟩ := draws
  have told : c.Told (log ++ updates) := by
    intro canvas there
    rw [told canvas there, CanvasState.told_append_of_others]
    exact fun call mem => by simp [redraws.canvas? call mem]
  rw [← List.length_append] at frames
  exact (Directory.RedrawsAll.pieces redraws rfl).append (frames.pieces told)

end Context

namespace BackendCall

theorem Plain.of_mem_map {α : Type} {as : List α} {f : α → BackendCall σ φ} {call : BackendCall σ φ}
    (mem : call ∈ as.map f) (plain : ∀ a, (f a).Plain) : call.Plain := by
  obtain ⟨a, -, rfl⟩ := List.mem_map.1 mem
  exact plain a

end BackendCall

namespace Context

variable {c : Context (B.recorded φ) φ} {n : Nat} {log calls : List (BackendCall σ φ)}
  {call : BackendCall σ φ}

theorem plain_of_mem_releases (mem : call ∈ c.releases) : call.Plain := by
  rcases List.mem_append.1 mem with mem | mem
  · exact .of_mem_map mem fun _ => ⟨rfl, rfl, nofun⟩
  · exact .of_mem_map mem fun _ => ⟨rfl, rfl, nofun⟩

theorem Binds.plain {surface : Option σ} (binds : c.Binds surface calls) (mem : call ∈ calls) :
    call.Plain := by
  unfold Binds at binds
  split at binds
  · simp [binds] at mem
  · obtain rfl := List.mem_singleton.1 (binds ▸ mem)
    exact ⟨rfl, rfl, nofun⟩
  · obtain ⟨bound, rfl⟩ := binds
    obtain rfl := List.mem_singleton.1 mem
    exact ⟨rfl, rfl, nofun⟩

theorem Resizes.plain {viewport : Viewport} (resizes : c.Resizes viewport calls)
    (mem : call ∈ calls) : call.Plain := by
  unfold Resizes at resizes
  split at resizes
  · simp [resizes] at mem
  · obtain ⟨accepted, rfl⟩ := resizes
    obtain rfl := List.mem_singleton.1 mem
    exact ⟨rfl, rfl, nofun⟩

/-- The calls of a command are those of a draw, or have to do with no frame but those of waiting
updates, which come first. -/
theorem Carries.parts {command : Command σ φ} (carries : c.Carries n command calls) :
    (∃ list damage, c.Draws n list damage calls) ∨
      (∃ updates rest, c.Updates n updates ∧ calls = updates ++ rest ∧ ∀ call ∈ rest, call.Plain) ∨
      ∀ call ∈ calls, call.Plain := by
  unfold Carries at carries
  cases command with
  | draw list record => exact .inl ⟨_, _, carries⟩
  | repeatLastDraw =>
    simp only at carries
    split at carries
    · exact .inr (.inr (by simp [carries]))
    · exact .inl ⟨_, _, carries⟩
  | flushLayerUpdates => exact .inr (.inl ⟨calls, [], carries, by simp, by simp⟩)
  | copyLayer layer =>
    obtain ⟨updates, redraws, rfl⟩ := carries
    refine .inr (.inl ⟨updates, _, redraws, rfl, fun call mem => ?_⟩)
    exact .of_mem_map mem fun _ => ⟨rfl, rfl, nofun⟩
  | bindSurface surface => exact .inr (.inr fun _ mem => carries.plain mem)
  | updateSurface surface => exact .inr (.inr fun _ mem => carries.plain mem)
  | setup viewport => exact .inr (.inr fun _ mem => carries.plain mem)
  | destroy full =>
    refine .inr (.inr fun call mem => ?_)
    rcases List.mem_append.1 (carries ▸ mem) with mem | mem
    · exact .of_mem_map mem fun _ => ⟨rfl, rfl, nofun⟩
    · split at mem
      · exact plain_of_mem_releases mem
      · simp at mem
  | createLayer size =>
    subst carries
    exact .inr (.inr fun _ mem => .of_mem_map mem fun _ => ⟨rfl, rfl, nofun⟩)
  | destroyLayer layer =>
    subst carries
    exact .inr (.inr fun _ mem => .of_mem_map mem fun _ => ⟨rfl, rfl, nofun⟩)
  | flushCaches =>
    subst carries
    exact .inr (.inr fun _ mem => .of_mem_map mem fun _ => ⟨rfl, rfl, nofun⟩)
  | _ => exact .inr (.inr (by simp [show calls = [] from carries]))

/-- **The calls of a command come in pieces.** -/
theorem Carries.pieces {command : Command σ φ} (carries : c.Carries log.length command calls)
    (told : c.Told log) : Pieces log calls := by
  rcases carries.parts with ⟨list, damage, draws⟩ | ⟨updates, rest, redraws, rfl, plain⟩ | plain
  · exact draws.pieces told
  · exact (Directory.RedrawsAll.pieces redraws rfl).append (.of_plain plain)
  · exact .of_plain plain

end Context

end RenderRelay

import Mathlib.Data.List.Induction
import RenderRelay.Bench.GpuBench

/-!
Sizes of window surfaces. What a surface believes is read off the sizes that it was given
(`Recalls`): its configuration is of the last one with pixels, and it counts as configured if that
one was the last of all. So the size that is kept through a time without pixels is used again only
when it is the latest, and no request asks for another one (`configured_for_usable_sizes`).
-/

namespace RenderRelay

theorem Viewport.isEmpty_eq_false_iff {size : Viewport} :
    size.isEmpty = false ↔ 0 < size.width ∧ 0 < size.height := by
  simp only [isEmpty, Bool.or_eq_false_iff, decide_eq_false_iff_not]
  omega

namespace Gpu

open Bench (SurfaceStep)

/-! ### Sizes given -/

def givenSize? : SurfaceStep → Option Viewport
  | .configure size => some size
  | .fail _ => none

def givenSizes (steps : List SurfaceStep) : List Viewport := steps.filterMap givenSize?

def lastGiven? (steps : List SurfaceStep) : Option Viewport := (givenSizes steps).getLast?

def lastUsable? (steps : List SurfaceStep) : Option Viewport :=
  ((givenSizes steps).filter (!·.isEmpty)).getLast?

variable {steps : List SurfaceStep} {size : Viewport}

theorem givenSizes_configure (steps : List SurfaceStep) (size : Viewport) :
    givenSizes (steps ++ [.configure size]) = givenSizes steps ++ [size] :=
  List.filterMap_append

theorem givenSizes_fail (steps : List SurfaceStep) (failure : SurfaceFailure) :
    givenSizes (steps ++ [.fail failure]) = givenSizes steps := by
  rw [givenSizes, List.filterMap_append]
  exact List.append_nil _

theorem lastGiven?_configure (steps : List SurfaceStep) (size : Viewport) :
    lastGiven? (steps ++ [.configure size]) = some size := by
  rw [lastGiven?, givenSizes_configure, List.getLast?_concat]

theorem lastUsable?_configure (steps : List SurfaceStep) (size : Viewport) :
    lastUsable? (steps ++ [.configure size]) =
      if size.isEmpty then lastUsable? steps else some size := by
  rw [lastUsable?, givenSizes_configure, List.filter_append]
  cases empty : size.isEmpty with
  | true => simp [lastUsable?, empty]
  | false => simp [empty]

theorem isEmpty_of_lastUsable? (last : lastUsable? steps = some size) : size.isEmpty = false := by
  have among := List.mem_of_getLast? last
  simpa using (List.mem_filter.1 among).2

/-- A size with pixels that was given last is the last one with pixels. -/
theorem lastUsable?_of_lastGiven? (last : lastGiven? steps = some size)
    (full : size.isEmpty = false) : lastUsable? steps = some size := by
  obtain ⟨before, given⟩ := List.getLast?_eq_some_iff.1 last
  rw [lastUsable?, given, List.filter_append]
  simp [full]

/-! ### What a surface believes -/

def surfaceAfter (s : WindowSurface) (steps : List SurfaceStep) : WindowSurface :=
  steps.foldl (fun s step => (step.run s).surface) s

theorem surfaceAfter_concat (s : WindowSurface) (steps : List SurfaceStep) (step : SurfaceStep) :
    surfaceAfter s (steps ++ [step]) = (step.run (surfaceAfter s steps)).surface := by
  simp only [surfaceAfter, List.foldl_append, List.foldl_cons, List.foldl_nil]

/-- What a surface that began as `s₀` believes after steps: whether the size given last had pixels,
and the last size that had. -/
structure Recalls (s₀ : WindowSurface) (steps : List SurfaceStep) (s : WindowSurface) : Prop where
  configured : s.configured = (lastGiven? steps).any (!·.isEmpty)
  configuration : s.configuration =
    { s₀.configuration with size := (lastUsable? steps).getD s₀.configuration.size }

namespace Recalls

variable {s₀ s : WindowSurface}

theorem start (fresh : s₀.configured = false) : Recalls s₀ [] s₀ := ⟨fresh, rfl⟩

theorem configure (recalls : Recalls s₀ steps s) (size : Viewport) :
    Recalls s₀ (steps ++ [.configure size]) (s.configure size).1 := by
  unfold WindowSurface.configure
  split
  case isTrue empty =>
    refine ⟨?_, ?_⟩
    · rw [lastGiven?_configure, Option.any_some, empty]
      rfl
    · rw [lastUsable?_configure, if_pos empty]
      exact recalls.configuration
  case isFalse full =>
    refine ⟨?_, ?_⟩
    · simp only [lastGiven?_configure, Option.any_some, full, Bool.not_false]
    · simp only [lastUsable?_configure, full, Bool.false_eq_true, if_false,
        Option.getD_some, recalls.configuration]

theorem fail (recalls : Recalls s₀ steps s) (failure : SurfaceFailure) :
    Recalls s₀ (steps ++ [.fail failure]) s := by
  refine ⟨?_, ?_⟩
  · rw [lastGiven?, givenSizes_fail]
    exact recalls.configured
  · rw [lastUsable?, givenSizes_fail]
    exact recalls.configuration

theorem run (recalls : Recalls s₀ steps s) (step : SurfaceStep) :
    Recalls s₀ (steps ++ [step]) (step.run s).surface := by
  cases step with
  | configure size => exact recalls.configure size
  | fail failure => exact recalls.fail failure

theorem after (fresh : s₀.configured = false) (steps : List SurfaceStep) :
    Recalls s₀ steps (surfaceAfter s₀ steps) := by
  induction steps using List.reverseRecOn with
  | nil => exact start fresh
  | append_singleton steps step ih =>
    rw [surfaceAfter_concat]
    exact ih.run step

theorem configured_iff (recalls : Recalls s₀ steps s) :
    s.configured = true ↔ ∃ size, lastGiven? steps = some size ∧ size.isEmpty = false := by
  rw [recalls.configured, Option.any_eq_true]
  simp

theorem lastUsable?_eq (recalls : Recalls s₀ steps s) (configured : s.configured = true) :
    lastUsable? steps = some s.configuration.size := by
  obtain ⟨size, last, full⟩ := recalls.configured_iff.1 configured
  have latest := lastUsable?_of_lastGiven? last full
  rw [recalls.configuration, latest]
  rfl

theorem full (recalls : Recalls s₀ steps s) (usable : s₀.configuration.size.isEmpty = false) :
    s.configuration.size.isEmpty = false := by
  rw [recalls.configuration]
  cases last : lastUsable? steps with
  | none => exact usable
  | some size => exact isEmpty_of_lastUsable? last

end Recalls

/-! ### Requests -/

/-- The failures after which a surface has to be configured anew. -/
def SurfaceFailure.isLoss (failure : SurfaceFailure) : Bool :=
  failure = .lost || failure = .outdated

theorem requests_configure (s : WindowSurface) (size : Viewport) :
    (SurfaceStep.run (.configure size) s).requests =
      if size.isEmpty then [] else [⟨size, s.configuration.format⟩] := by
  simp only [SurfaceStep.run, WindowSurface.configure]
  split <;> rfl

theorem requests_fail (s : WindowSurface) (failure : SurfaceFailure) :
    (SurfaceStep.run (.fail failure) s).requests =
      if failure.isLoss && s.configured then [s.configuration] else [] := by
  cases failure <;> rfl

/-- Every request of a step is for the last size with pixels, the step's own included. -/
theorem Recalls.requests {s₀ s : WindowSurface} (recalls : Recalls s₀ steps s) (step : SurfaceStep)
    {request : Configuration} (asked : request ∈ (step.run s).requests) :
    lastUsable? (steps ++ [step]) = some request.size ∧
      request.format = s₀.configuration.format := by
  cases step with
  | configure size =>
    rw [requests_configure] at asked
    rw [lastUsable?_configure]
    split at asked
    case isTrue => simp at asked
    case isFalse full =>
      obtain rfl := List.mem_singleton.1 asked
      refine ⟨by rw [if_neg full], ?_⟩
      rw [recalls.configuration]
  | fail failure =>
    rw [requests_fail] at asked
    rw [lastUsable?, givenSizes_fail]
    split at asked
    case isTrue loss =>
      obtain rfl := List.mem_singleton.1 asked
      rw [Bool.and_eq_true] at loss
      refine ⟨recalls.lastUsable?_eq loss.2, ?_⟩
      rw [recalls.configuration]
    case isFalse => simp at asked

/-! ### Runs -/

/-- A step is answered by the surface that the earlier ones left. -/
theorem runAll_getElem? (s : WindowSurface) (earlier : List SurfaceStep) (step : SurfaceStep)
    (later : List SurfaceStep) :
    (SurfaceStep.runAll (earlier ++ step :: later) s)[earlier.length]? =
      some (step.run (surfaceAfter s earlier)) := by
  induction earlier generalizing s with
  | nil => rfl
  | cons first rest ih =>
    simp only [List.cons_append, SurfaceStep.runAll, List.length_cons, List.getElem?_cons_succ]
    exact ih _

/-- **A window surface is only configured for usable sizes.** After any steps of a surface that was
not configured, it counts as configured just if the size given last had pixels, and what it keeps is
of the last size that had. Every request of a step has both sides, and they are those of the last
size with pixels that was given by then; a size with pixels is asked for once. A failure changes
nothing of the surface; a loss is answered by one request just if the surface counts as configured,
and any other failure by none. -/
theorem configured_for_usable_sizes {s : WindowSurface} (fresh : s.configured = false)
    (usable : s.configuration.size.isEmpty = false) (steps : List SurfaceStep) :
    ((surfaceAfter s steps).configured = true ↔
      ∃ size, lastGiven? steps = some size ∧ size.isEmpty = false) ∧
    (surfaceAfter s steps).configuration =
      { s.configuration with size := (lastUsable? steps).getD s.configuration.size } ∧
    (surfaceAfter s steps).configuration.size.isEmpty = false ∧
    ∀ earlier step later, steps = earlier ++ step :: later →
      ∃ answer, (SurfaceStep.runAll steps s)[earlier.length]? = some answer ∧
        answer.surface = surfaceAfter s (earlier ++ [step]) ∧
        (∀ request ∈ answer.requests, (0 < request.size.width ∧ 0 < request.size.height) ∧
          lastUsable? (earlier ++ [step]) = some request.size ∧
          request.format = s.configuration.format) ∧
        (∀ size, step = .configure size →
          answer.requests.length = if size.isEmpty then 0 else 1) ∧
        ∀ failure, step = .fail failure → answer.surface = surfaceAfter s earlier ∧
          answer.requests = if failure.isLoss && answer.surface.configured then
            [answer.surface.configuration] else [] := by
  have recalls := Recalls.after fresh steps
  refine ⟨recalls.configured_iff, recalls.configuration, recalls.full usable, ?_⟩
  rintro earlier step later rfl
  refine ⟨_, runAll_getElem? s earlier step later, (surfaceAfter_concat ..).symm, ?_, ?_, ?_⟩
  · intro request asked
    obtain ⟨latest, format⟩ := (Recalls.after fresh earlier).requests step asked
    exact ⟨Viewport.isEmpty_eq_false_iff.1 (isEmpty_of_lastUsable? latest), latest, format⟩
  · rintro size rfl
    rw [requests_configure]
    split <;> rfl
  · rintro failure rfl
    exact ⟨rfl, requests_fail ..⟩

/-- A window that is shown, minimised, lost while it is, shown again in another size, and lost. -/
def minimised : List SurfaceStep :=
  [.configure ⟨3, 2⟩, .configure ⟨0, 5⟩, .fail .lost, .configure ⟨4, 4⟩, .fail .outdated]

/-- The loss in between asks for nothing, the one at the end for the second size. -/
theorem configured_for_usable_sizes_minimised :
    let s := WindowSurface.unconfigured ⟨"Bgra8Unorm"⟩
    (s.configured = false ∧ s.configuration.size.isEmpty = false) ∧
    (surfaceAfter s minimised).configured = true ∧
    (∃ answer, (SurfaceStep.runAll minimised s)[2]? = some answer ∧ answer.requests = []) ∧
    ∃ answer, (SurfaceStep.runAll minimised s)[4]? = some answer ∧
      answer.requests = [⟨⟨4, 4⟩, ⟨"Bgra8Unorm"⟩⟩] := by
  intro s
  have fresh : s.configured = false := rfl
  have usable : s.configuration.size.isEmpty = false := rfl
  obtain ⟨configured, -, -, answered⟩ := configured_for_usable_sizes fresh usable minimised
  refine ⟨⟨fresh, usable⟩, configured.2 ⟨⟨4, 4⟩, rfl, rfl⟩, ?_, ?_⟩
  · obtain ⟨answer, there, -, -, -, failed⟩ :=
      answered [.configure ⟨3, 2⟩, .configure ⟨0, 5⟩] (.fail .lost) _ rfl
    obtain ⟨kept, asked⟩ := failed .lost rfl
    exact ⟨answer, there, by rw [asked, kept]; rfl⟩
  · obtain ⟨answer, there, -, -, -, failed⟩ :=
      answered [.configure ⟨3, 2⟩, .configure ⟨0, 5⟩, .fail .lost, .configure ⟨4, 4⟩]
        (.fail .outdated) [] rfl
    obtain ⟨kept, asked⟩ := failed .outdated rfl
    exact ⟨answer, there, by rw [asked, kept]; rfl⟩

end Gpu

end RenderRelay

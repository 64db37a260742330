import RenderRelay.Proofs.Traffic.Thread
import RenderRelay.Session.Run

/-!
Which frames repaint everything. A canvas is renewed when a surface is bound to it and when it is
given a size other than the one it was given before, and until a frame was submitted since then its
frames repaint everything (`first_frame_whole`). A size that was refused was given all the same:
given again and accepted, it renews nothing (`retried_size_repaints_part`).
-/

namespace RenderRelay

open DeviceOp Recorded

variable {σ φ τ : Type} {B : Backend σ}

/-! ### Renewed canvases -/

/-- The call, made after those before, leaves nothing valid on the canvas. -/
def BackendCall.Renews (canvas : Nat) (before : List (BackendCall σ φ)) : BackendCall σ φ → Prop
  | .bindSurface k _ _ bound => k = canvas ∧ bound = true
  | .resize k size _ => k = canvas ∧ (CanvasState.told canvas before).size ≠ some size
  | _ => False

/-- No frame was submitted since the canvas was renewed, or none at all. -/
def Unshown (canvas : Nat) (log : List (BackendCall σ φ)) : Prop :=
  (∀ frame, .endFrame canvas frame true ∉ log) ∨
    ∃ before call after, log = before ++ call :: after ∧ call.Renews canvas before ∧
      ∀ frame, .endFrame canvas frame true ∉ after

theorem unshown_concat {canvas : Nat} {log : List (BackendCall σ φ)} {call : BackendCall σ φ} :
    Unshown canvas (log ++ [call]) ↔
      call.Renews canvas log ∨
        Unshown canvas log ∧ ∀ frame, call ≠ .endFrame canvas frame true := by
  constructor
  · rintro (never | ⟨before, renewing, after, split, renews, since⟩)
    · refine .inr ⟨.inl fun frame mem => ?_, fun frame same => ?_⟩
      · exact never frame (List.mem_append_left _ mem)
      · exact never frame (by simp [same])
    · rcases append_eq_split split with ⟨rest, rfl, rfl⟩ | ⟨more, rfl, last⟩
      · refine .inr ⟨.inr ⟨before, renewing, rest, rfl, renews, fun frame mem => ?_⟩,
          fun frame same => ?_⟩
        · exact since frame (List.mem_append_left _ mem)
        · exact since frame (by simp [same])
      · obtain ⟨rfl, rfl, -⟩ : more = [] ∧ renewing = call ∧ after = [] := by
          simpa [List.singleton_eq_append_iff, and_assoc] using last
        exact .inl (by simpa using renews)
  · rintro (renews | ⟨never | ⟨before, renewing, after, rfl, renews, since⟩, other⟩)
    · exact .inr ⟨log, call, [], rfl, renews, by simp⟩
    · refine .inl fun frame mem => ?_
      rcases List.mem_append.1 mem with mem | mem
      · exact never frame mem
      · exact other frame (List.mem_singleton.1 mem).symm
    · refine .inr ⟨before, renewing, after ++ [call], by simp, renews, fun frame mem => ?_⟩
      rcases List.mem_append.1 mem with mem | mem
      · exact since frame mem
      · exact other frame (List.mem_singleton.1 mem).symm

/-- **A canvas has something to repaint in full just while it is unshown.** -/
theorem CanvasState.stale_told {canvas : Nat} {log : List (BackendCall σ φ)} :
    (told canvas log).stale = true ↔ Unshown canvas log := by
  induction log using List.reverseRecOn with
  | nil => exact ⟨fun _ => .inl (by simp), fun _ => rfl⟩
  | append_singleton log call ih =>
    rw [unshown_concat, ← ih, told_append, List.foldl_cons, List.foldl_nil]
    cases call with
    | bindSurface k surface viewport bound =>
      by_cases own : k = canvas <;> simp [after, BackendCall.Renews, own, or_comm]
    | resize k size accepted =>
      by_cases own : k = canvas <;> simp [after, BackendCall.Renews, own, or_comm]
    | endFrame k frame submitted =>
      by_cases own : k = canvas <;> simp [after, BackendCall.Renews, own]
    | unbindSurface k => by_cases own : k = canvas <;> simp [after, BackendCall.Renews, own]
    | _ => simp [after, BackendCall.Renews]

/-! ### The pixels of a frame -/

theorem Damage.clipTo_whole {damage : Damage} {size : Viewport} {box : PixelBox}
    (meets : damage.clipTo size = some box) :
    Damage.whole.clipTo size = some (.ofSize size.width size.height) := by
  cases damage with
  | whole => exact (PixelBox.nonempty?_eq_some.1 meets).1 ▸ meets
  | box b =>
    refine PixelBox.nonempty?_eq_some.2 ⟨rfl, ?_⟩
    simp only [clipTo] at meets
    split at meets
    · simp at meets
    · have part := (PixelBox.nonempty?_eq_some.1 meets).2
      simp only [PixelBox.isEmpty, PixelBox.ofSize, Nat.zero_le, Nat.max_eq_right,
        Bool.or_eq_false_iff, decide_eq_false_iff_not, Nat.not_le, Nat.le_zero_eq] at part ⊢
      omega

namespace Context

theorem frameDamage_whole {capabilities : Capabilities} {size : Viewport} {damage : Damage}
    {box : PixelBox} (reached : frameDamage capabilities true size damage = some box) :
    box = .ofSize size.width size.height := by
  unfold frameDamage at reached
  simp only at reached
  split at reached
  · simp at reached
  case h_2 part meets => simpa [Damage.clipTo_whole meets] using reached.symm

end Context

/-- A frame is begun with the first of its calls, on the canvas and with the pixels it is for. -/
theorem Directory.Presents.begins {s : Directory φ} {own n : Nat} {list : DisplayList}
    {target : Target} {calls more after : List (BackendCall σ φ)} {canvas : Nat} {box : PixelBox}
    {begun : Bool} (presents : s.Presents own list target n calls)
    (split : calls = more ++ .beginFrame canvas box begun :: after) :
    more = [] ∧ canvas = own ∧ box = target.damage := by
  cases more with
  | nil => cases presents <;> simp_all
  | cons first more =>
    have mem : .beginFrame canvas box begun ∈ calls.tail := by simp [split]
    cases presents with
    | refused => simp at mem
    | drawn submitted =>
      rcases List.mem_append.1 mem with mem | mem
      · simpa [BackendCall.drawsInto?] using Directory.drawsInto?_of_mem mem
      · simp at mem

namespace Context

variable {c : Context (B.recorded φ) φ} {n canvas : Nat} {box : PixelBox} {begun : Bool}
  {calls more after : List (BackendCall σ φ)}

/-- Where a frame is begun in the calls for a draw: behind the updates, on the context's canvas,
with the pixels that are to be repainted. -/
theorem Draws.begins {list : DisplayList} {damage : Damage} (draws : c.Draws n list damage calls)
    (split : calls = more ++ .beginFrame canvas box begun :: after) :
    c.Updates n more ∧ ∃ own size capabilities, c.canvas = some own ∧ own.number = canvas ∧
      c.viewport = some size ∧
      frameDamage capabilities c.needsFullRedraw size damage = some box := by
  obtain ⟨updates, frame, redraws, frames, rfl⟩ := draws
  rcases append_eq_split split with ⟨rest, rfl, -⟩ | ⟨more, rfl, behind⟩
  · have off := redraws.canvas? (.beginFrame canvas box begun) (by simp)
    simp [BackendCall.canvas?] at off
  · cases frames with
    | unbound => simp at behind
    | outside => simp at behind
    | frame there bound sized repaints presents =>
      obtain ⟨rfl, rfl, rfl⟩ := presents.begins behind
      exact ⟨by simpa using redraws, _, _, _, there, rfl, sized, repaints⟩

theorem Carries.draws {command : Command σ φ} (carries : c.Carries n command calls)
    (begins : .beginFrame canvas box begun ∈ calls) :
    ∃ list damage, c.Draws n list damage calls := by
  rcases carries.parts with draws | ⟨updates, rest, redraws, rfl, plain⟩ | plain
  · exact draws
  · rcases List.mem_append.1 begins with mem | mem
    · simpa [BackendCall.canvas?] using redraws.canvas? _ mem
    · exact absurd rfl ((plain _ mem).2.2 _ _ _)
  · exact absurd rfl ((plain _ begins).2.2 _ _ _)

/-- **The pixels of a frame.** All of them if the canvas is unshown, and else those asked for. -/
theorem Draws.damage {log : List (BackendCall σ φ)} {list : DisplayList} {damage : Damage}
    (draws : c.Draws log.length list damage calls) (told : c.Told log)
    (split : calls = more ++ .beginFrame canvas box begun :: after) :
    ∃ size capabilities redraw, (CanvasState.told canvas (log ++ more)).size = some size ∧
      frameDamage capabilities redraw size damage = some box ∧
      (redraw = true ↔ Unshown canvas (log ++ more)) := by
  obtain ⟨updates, own, size, capabilities, there, rfl, sized, repaints⟩ := draws.begins split
  have state : c.canvasState = .told own.number (log ++ more) := by
    rw [told own there, CanvasState.told_append_of_others]
    exact fun call mem => by simp [updates.canvas? call mem]
  rw [← CanvasState.stale_told, ← state]
  exact ⟨size, capabilities, c.needsFullRedraw, sized, repaints, Iff.rfl⟩

end Context

/-! ### Whole runs -/

/-- Every frame that was asked for while its canvas was unshown was to repaint all pixels of the
canvas. -/
def WholeFirst (log : List (BackendCall σ φ)) : Prop :=
  ∀ before canvas box begun after, log = before ++ .beginFrame canvas box begun :: after →
    Unshown canvas before → ∃ size, (CanvasState.told canvas before).size = some size ∧
      box = .ofSize size.width size.height

theorem wholeFirst_comes {log calls : List (BackendCall σ φ)}
    (comes : RenderLoop.Comes B log calls) (wholeFirst : WholeFirst log) :
    WholeFirst (log ++ calls) := by
  intro before canvas box begun after split unshown
  rcases append_eq_split split with ⟨rest, old, -⟩ | ⟨more, rfl, new⟩
  · exact wholeFirst before canvas box begun rest old unshown
  · have begins : .beginFrame canvas box begun ∈ calls := by simp [new]
    cases comes with
    | plain plain => exact absurd rfl ((plain _ begins).2.2 _ _ _)
    | command told carries =>
      obtain ⟨list, damage, draws⟩ := carries.draws begins
      obtain ⟨size, capabilities, redraw, sized, repaints, full⟩ := draws.damage told new
      obtain rfl := full.2 unshown
      exact ⟨size, sized, Context.frameDamage_whole repaints⟩

/-- **Which frames repaint everything.** Whatever a thread is sent, and whatever its backend
answers: a frame that is asked for while no frame was submitted since a surface was bound, or since
a size was set, also in vain, that differed from the one set before, is one of all pixels. A draw
that comes then asks for all pixels only in that case, and else for those of its own damage. -/
theorem first_frame_whole (H : Host B φ τ) (turns : List (Turn σ φ τ)) (nextLayer : LayerHandle)
    (d : B.Device) :
    (RenderLoop.serveAll H.recorded turns (.start nextLayer)).Ensures (.start d) fun r d' =>
      WholeFirst d'.calls ∧ ∀ loop, r.2 = some loop → ∀ others h list record,
        (RenderLoop.serve H.recorded (loop.later others)
            (.message h (.run (.draw list record)))).Ensures d' fun _ d'' =>
          ∀ more canvas box begun after,
            d''.calls = d'.calls ++ more ++ .beginFrame canvas box begun :: after →
            ∃ size capabilities redraw,
              (CanvasState.told canvas (d'.calls ++ more)).size = some size ∧
              Context.frameDamage capabilities redraw size (.decode record) = some box ∧
              (redraw = true ↔ Unshown canvas (d'.calls ++ more)) := by
  have kept := RenderLoop.serveAll_keeps (P := WholeFirst) (fun _ _ => wholeFirst_comes (B := B)) H
    (by simp [WholeFirst]) turns nextLayer d
  refine kept.mono ?_
  rintro ⟨acks, final⟩ d' ⟨wholeFirst, told⟩
  refine ⟨wholeFirst, ?_⟩
  rintro loop rfl others h list record
  cases there : loop.contexts.get? h with
  | none =>
    simp only [RenderLoop.serve, RenderLoop.run, RenderLoop.later, there]
    refine ensures_bind.2 (ensures_bind.2 (H.recorded.ensures_note.2 (ensures_pure.2 ?_)))
    refine ensures_pure.2 fun more canvas box begun after split => ?_
    simpa [Host.recorded] using congrArg List.length split
  | some c =>
    simp only [RenderLoop.serve, RenderLoop.run, RenderLoop.later, there]
    refine ensures_bind.2 (ensures_bind.2 ?_)
    refine (Context.dispatch_makes H c _ (.draw list record) d' rfl).mono ?_
    rintro r d'' ⟨calls, added, draws, -⟩
    refine ensures_pure.2 (ensures_pure.2 fun more canvas box begun after split => ?_)
    rw [added, List.append_assoc] at split
    exact draws.damage ((told loop rfl).contexts h c there) (List.append_cancel_left split)

/-! ### A size that was refused -/

namespace Session

def Caller.performAll {M : Type → Type} [Monad M] (k : Caller M) (thread : Nat) (p : Proxy) :
    List (Call Surface Script) → M (Proxy × List CallOutcome)
  | [] => return (p, [])
  | call :: rest => do
    let (p, outcome) ← k.perform thread p call
    let (p, outcomes) ← performAll k thread p rest
    return (p, outcome :: outcomes)

/-- The fickle backend in a session, with a record of the calls to it. -/
def Rig.fickle : Rig where
  backend := (RenderRelay.fickle Surface (Gallery × World)).recorded Script
  host := (fickleHost Surface (Gallery × World) Script Script).recorded
  Own := Nat × List (BackendCall Surface Script)
  boot _ := (0, [])
  enter own gallery world := ⟨(own.1, gallery, world), own.2⟩
  leave d := ((d.inner.1, d.calls), d.inner.2)
  presents := false

/-- A size is refused, drawn to, given again and drawn to in part. -/
def retry : StateM (Stage Rig.fickle) (List CallOutcome) := do
  let _ ← Stage.perform (.spawn ⟨"render", "render", standardCapacity, .standard⟩ none)
  match ← Stage.control.makeProxy 0 false with
  | .error _ => return []
  | .ok p => do
    let (_, outcomes) ← Stage.control.performAll 0 p
      [.bindSurface ⟨1, "window", false⟩, .setup ⟨2, 2⟩, .draw ⟨⟨1⟩, []⟩ none, .setup ⟨2, 2⟩,
        .draw ⟨⟨1⟩, []⟩ (some ⟨0, 0, 1, 1⟩)]
    return outcomes

/-- A size that was refused is drawn to all the same. Given again it is accepted, but the first
frame since then, which is asked for with the last call but one, is only of the pixels that the draw
was for. -/
theorem retried_size_repaints_part :
    (retry .empty).1.map Except.isOk = [true, false, true, true, true] ∧
      ((retry .empty).2.machines.get? 0).map (·.own.2) =
        some [.createCanvas false, .bindSurface 0 ⟨1, "window", false⟩ none true,
          .resize 0 ⟨2, 2⟩ false, .beginFrame 0 ⟨0, 0, 2, 2⟩ true, .endFrame 0 3 true,
          .resize 0 ⟨2, 2⟩ true, .beginFrame 0 ⟨0, 0, 1, 1⟩ true, .endFrame 0 6 true] ∧
      (⟨0, 0, 1, 1⟩ : PixelBox) ≠ .ofSize 2 2 := by
  -- there is no callback among these calls, so how callbacks are compared does not matter
  classical
  decide +kernel

end Session

end RenderRelay

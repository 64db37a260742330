import RenderRelay.Proofs.Traffic.Protocol

/-!
The calls of a whole thread. Between two envelopes every context is as the calls so far tell of its
canvas, and no two contexts share one. So what the calls of every single command keep, the record of
a run keeps (`serveAll_keeps`), and `backend_protocol` puts together what is known of it.
-/

namespace RenderRelay

open DeviceOp Recorded

variable {σ φ τ : Type} {B : Backend σ}

namespace RenderLoop

/-- Contexts that are as the calls so far tell, each on a canvas of its own. -/
structure Told (loop : RenderLoop (B.recorded φ) φ) (log : List (BackendCall σ φ)) : Prop where
  contexts : ∀ h c, loop.contexts.get? h = some c → c.Told log
  known : ∀ h c canvas, loop.contexts.get? h = some c → c.canvas = some canvas →
    canvas.number < log.length
  apart : ∀ h h' c c' canvas canvas', loop.contexts.get? h = some c →
    loop.contexts.get? h' = some c' → c.canvas = some canvas → c'.canvas = some canvas' →
    canvas.number = canvas'.number → h = h'
  past : ∀ call ∈ log, ∀ k, call.canvas? = some k → k < log.length

namespace Told

variable {loop loop' : RenderLoop (B.recorded φ) φ} {log calls : List (BackendCall σ φ)}
  {h : ProxyHandle} {c c' : Context (B.recorded φ) φ}

theorem start (nextLayer : LayerHandle) :
    (.start nextLayer : RenderLoop (B.recorded φ) φ).Told [] where
  contexts h c there := by simp [RenderLoop.start] at there
  known h c canvas there := by simp [RenderLoop.start] at there
  apart h h' c c' canvas canvas' there := by simp [RenderLoop.start] at there
  past := by simp

/-- Calls of one context leave the canvases of the others as they are. -/
theorem next (told : loop.Told log) (there : loop.contexts.get? h = some c)
    (own : ∀ call ∈ calls, ∀ k, call.canvas? = some k →
      ∃ canvas, c.canvas = some canvas ∧ canvas.number = k)
    (each : ∀ k c', loop'.contexts.get? k = some c' →
      (k = h ∧ c.Follows calls c') ∨ (k ≠ h ∧ loop.contexts.get? k = some c')) :
    loop'.Told (log ++ calls) := by
  -- a canvas after the calls is one from before, of the same proxy
  have source {k : ProxyHandle} {c' : Context (B.recorded φ) φ} {canvas' : Numbered B.Canvas}
      (there' : loop'.contexts.get? k = some c') (held : c'.canvas = some canvas') :
      ∃ c₀ canvas₀, loop.contexts.get? k = some c₀ ∧ c₀.canvas = some canvas₀ ∧
        canvas'.number = canvas₀.number := by
    rcases each k c' there' with ⟨rfl, follows⟩ | ⟨-, there'⟩
    · obtain ⟨canvas, held₀, number, -⟩ := follows.state canvas' held
      exact ⟨c, canvas, there, held₀, number⟩
    · exact ⟨c', canvas', there', held, rfl⟩
  refine ⟨fun k c' there' canvas' held => ?_, fun k c' canvas' there' held => ?_, ?_, ?_⟩
  · rcases each k c' there' with ⟨rfl, follows⟩ | ⟨other, there'⟩
    · obtain ⟨canvas, held₀, number, state⟩ := follows.state canvas' held
      rw [state, number, CanvasState.told_append, told.contexts _ c there canvas held₀]
    · rw [CanvasState.told_append_of_others, told.contexts k c' there' canvas' held]
      intro call mem about
      obtain ⟨canvas, held₀, number⟩ := own call mem _ about
      exact other (told.apart k h c' c canvas' canvas there' there held held₀ number.symm)
  · obtain ⟨c₀, canvas₀, there₀, held₀, number⟩ := source there' held
    have := told.known k c₀ canvas₀ there₀ held₀
    simp only [List.length_append]
    omega
  · intro k k' c₁ c₂ canvas₁ canvas₂ there₁ there₂ held₁ held₂ same
    obtain ⟨c₁', canvas₁', there₁', held₁', number₁⟩ := source there₁ held₁
    obtain ⟨c₂', canvas₂', there₂', held₂', number₂⟩ := source there₂ held₂
    refine told.apart k k' c₁' c₂' canvas₁' canvas₂' there₁' there₂' held₁' held₂' ?_
    rw [← number₁, ← number₂, same]
  · intro call mem k about
    have bound : k < log.length := by
      rcases List.mem_append.1 mem with mem | mem
      · exact told.past call mem k about
      · obtain ⟨canvas, held, rfl⟩ := own call mem k about
        exact told.known h c canvas there held
    simp only [List.length_append]
    omega

theorem obeyed (told : loop.Told log) (there : loop.contexts.get? h = some c)
    (follows : c.Follows calls c') (nextLayer : LayerHandle) :
    (⟨loop.contexts.insert h c', nextLayer⟩ : RenderLoop (B.recorded φ) φ).Told
      (log ++ calls) := by
  refine told.next there follows.own fun k c'' there' => ?_
  rw [Table.get?_insert] at there'
  split at there'
  case isTrue same => exact .inl ⟨same.symm, Option.some.inj there' ▸ follows⟩
  case isFalse other => exact .inr ⟨Ne.symm other, there'⟩

theorem disposed (told : loop.Told log) (there : loop.contexts.get? h = some c) :
    ({ loop with contexts := loop.contexts.erase h } : RenderLoop (B.recorded φ) φ).Told
      (log ++ c.releases) := by
  refine told.next there (fun _ mem _ => Context.own_of_mem_releases mem) fun k c' there' => ?_
  rw [Table.get?_erase] at there'
  split at there'
  · simp at there'
  case isFalse other => exact .inr ⟨Ne.symm other, there'⟩

theorem aside (told : loop.Told log) (off : ∀ call ∈ calls, call.canvas? = none) :
    loop.Told (log ++ calls) := by
  have grown : log.length ≤ (log ++ calls).length := by simp
  refine ⟨fun h c there canvas held => ?_, fun h c canvas there held => ?_, told.apart, ?_⟩
  · rw [CanvasState.told_append_of_others fun call mem => by simp [off call mem]]
    exact told.contexts h c there canvas held
  · exact Nat.lt_of_lt_of_le (told.known h c canvas there held) grown
  · intro call mem k about
    rcases List.mem_append.1 mem with mem | mem
    · exact Nat.lt_of_lt_of_le (told.past call mem k about) grown
    · simp [off call mem] at about

theorem created (told : loop.Told log) (h : ProxyHandle) {canvas : Numbered B.Canvas}
    (number : canvas.number = log.length) (translucent : Bool) :
    ({ loop with contexts := loop.contexts.insert h (.ofCanvas h canvas) } :
      RenderLoop (B.recorded φ) φ).Told (log ++ [.createCanvas translucent]) := by
  have source {k : ProxyHandle} {c' : Context (B.recorded φ) φ} {canvas' : Numbered B.Canvas}
      (there' : (loop.contexts.insert h (.ofCanvas h canvas)).get? k = some c')
      (held : c'.canvas = some canvas') :
      (k = h ∧ c' = .ofCanvas h canvas ∧ canvas' = canvas) ∨
        (loop.contexts.get? k = some c' ∧ canvas'.number < log.length) := by
    rw [Table.get?_insert] at there'
    split at there'
    case isTrue same =>
      obtain rfl := Option.some.inj there'
      exact .inl ⟨same.symm, rfl, (Option.some.inj held).symm⟩
    case isFalse => exact .inr ⟨there', told.known k c' canvas' there' held⟩
  refine ⟨fun k c' there' canvas' held => ?_, fun k c' canvas' there' held => ?_, ?_, ?_⟩
  · rcases source there' held with ⟨-, rfl, rfl⟩ | ⟨there', -⟩
    · rw [CanvasState.told_append_of_others (by simp [BackendCall.canvas?])]
      refine (CanvasState.foldl_after_of_others fun call mem about => ?_).symm
      have := told.past call mem _ about
      omega
    · rw [CanvasState.told_append_of_others (by simp [BackendCall.canvas?])]
      exact told.contexts k c' there' canvas' held
  · rcases source there' held with ⟨-, -, rfl⟩ | ⟨-, bound⟩
    · simp [number]
    · simp only [List.length_append]
      omega
  · intro k k' c₁ c₂ canvas₁ canvas₂ there₁ there₂ held₁ held₂ same
    rcases source there₁ held₁ with ⟨rfl, -, rfl⟩ | ⟨there₁, bound₁⟩ <;>
      rcases source there₂ held₂ with ⟨rfl, -, rfl⟩ | ⟨there₂, bound₂⟩
    · rfl
    · omega
    · omega
    · exact told.apart k k' c₁ c₂ canvas₁ canvas₂ there₁ there₂ held₁ held₂ same
  · intro call mem k about
    rcases List.mem_append.1 mem with mem | mem
    · have := told.past call mem k about
      simp only [List.length_append]
      omega
    · obtain rfl := List.mem_singleton.1 mem
      simp [BackendCall.canvas?] at about

end Told

/-! ### Envelopes -/

/-- Calls that come about together after those of a log: they have nothing to do with frames as a
whole, or carry out a command for a context that is as the log tells. -/
inductive Comes (B : Backend σ) (log : List (BackendCall σ φ)) : List (BackendCall σ φ) → Prop
  | plain {calls : List (BackendCall σ φ)} (plain : ∀ call ∈ calls, call.Plain) : Comes B log calls
  | command {calls : List (BackendCall σ φ)} {c : Context (B.recorded φ) φ}
      {command : Command σ φ} (told : c.Told log)
      (carries : c.Carries log.length command calls) : Comes B log calls

section Keeps

variable {P : List (BackendCall σ φ) → Prop}
  (step : ∀ log calls, Comes B log calls → P log → P (log ++ calls)) (H : Host B φ τ)
  {loop : RenderLoop (B.recorded φ) φ} {d : Recorded σ φ B.Device}

/-- Between two envelopes: contexts as the calls tell, and `P` of the calls. -/
def Keeps (P : List (BackendCall σ φ) → Prop) (loop : RenderLoop (B.recorded φ) φ)
    (d : Recorded σ φ B.Device) : Prop :=
  loop.Told d.calls ∧ P d.calls

include step

theorem create_keeps (kept : loop.Keeps P d) (h : ProxyHandle) (translucent : Bool) :
    (create H.recorded loop h translucent).Ensures d fun r d' => r.2.Keeps P d' := by
  have made : Makes d.calls.length (create H.recorded loop h translucent) fun r calls =>
      calls = [.createCanvas translucent] ∧
        r.2.Told (d.calls ++ [.createCanvas translucent]) := by
    refine (makes_calling (P := fun r calls => calls = [.createCanvas translucent] ∧
      ∀ canvas, r = .ok canvas → canvas.number = d.calls.length) ?_).bind ?_
    · rintro (e | canvas)
      · exact ⟨rfl, by simp [anew, Except.map]⟩
      · refine ⟨rfl, ?_⟩
        rintro canvas' ⟨⟩
        rfl
    rintro (e | canvas) _ ⟨rfl, number⟩
    · refine (makes_hostNote H _ _ _).bind_quiet fun _ => makes_pure ⟨rfl, ?_⟩
      exact kept.1.aside (by simp [BackendCall.canvas?])
    · refine (makes_hostNote H _ _ _).bind_quiet fun _ => makes_pure ⟨rfl, ?_⟩
      exact kept.1.created h (number canvas rfl) translucent
  refine (made d rfl).mono ?_
  rintro r d' ⟨_, added, rfl, told⟩
  rw [Keeps, added]
  refine ⟨told, step _ _ (.plain ?_) kept.2⟩
  rintro call mem
  exact List.mem_singleton.1 mem ▸ ⟨rfl, rfl, by simp⟩

theorem run_keeps (kept : loop.Keeps P d) (h : ProxyHandle) (command : Command σ φ) :
    (run H.recorded loop h command).Ensures d fun r d' => r.2.Keeps P d' := by
  unfold run
  split
  case h_1 => exact ensures_bind.2 (H.recorded.ensures_note.2 (ensures_pure.2 kept))
  case h_2 c there =>
    have made := Context.dispatch_makes H c loop.nextLayer command d rfl
    refine ensures_bind.2 (made.mono ?_)
    rintro r d' ⟨calls, added, carries, follows⟩
    refine ensures_pure.2 ?_
    rw [Keeps, added]
    have told := kept.1.contexts h c there
    exact ⟨kept.1.obeyed there follows _, step _ _ (.command told carries) kept.2⟩

theorem dispose_keeps (kept : loop.Keeps P d) (h : ProxyHandle) :
    (dispose H.recorded loop h).Ensures d (Keeps P) := by
  unfold dispose
  split
  case h_1 => exact ensures_bind.2 (H.recorded.ensures_note.2 (ensures_pure.2 kept))
  case h_2 c there =>
    refine ensures_bind.2 ((Context.teardown_makes H c d rfl).mono ?_)
    rintro _ d' ⟨calls, added, rfl⟩
    refine ensures_pure.2 ?_
    rw [Keeps, added]
    refine ⟨kept.1.disposed there, step _ _ (.plain ?_) kept.2⟩
    exact fun call mem => Context.plain_of_mem_releases mem

theorem teardownAll_keeps (contexts : List (ProxyHandle × Context (B.recorded φ) φ))
    (kept : P d.calls) :
    (teardownAll H.recorded contexts).Ensures d fun _ d' => P d'.calls := by
  induction contexts generalizing d with
  | nil => exact ensures_pure.2 kept
  | cons e rest ih =>
    refine ensures_bind.2 (H.recorded.ensures_note.2 (ensures_bind.2 ?_))
    refine (Context.teardown_makes H e.2 _ rfl).mono ?_
    rintro _ d' ⟨calls, added, rfl⟩
    refine ih ?_
    rw [added]
    exact step _ _ (.plain fun call mem => Context.plain_of_mem_releases mem) kept

/-- **What the calls of a command keep, an envelope keeps.** -/
theorem serve_keeps (kept : loop.Keeps P d) (envelope : Envelope σ φ τ) :
    (serve H.recorded loop envelope).Ensures d fun served d' =>
      (∀ loop' ack, served = .next loop' ack → loop'.Keeps P d') ∧
        (served = .stopped → P d'.calls) := by
  refine serve_ensures (P := Keeps P) (Q := fun d => P d.calls) envelope
    (fun h translucent _ => create_keeps step H kept h translucent) (run_keeps step H kept)
    (dispose_keeps step H kept) (fun task => kept) (fun record d' kept => kept) ?_
  refine ensures_bind.2 ((teardownAll_keeps step H _ kept.2).mono fun _ d' kept => ?_)
  exact H.recorded.ensures_note.2 kept

/-- **And so does all that a thread is sent.** -/
theorem serveAll_keeps (holds : P []) (turns : List (Turn σ φ τ)) (nextLayer : LayerHandle)
    (d : B.Device) :
    (serveAll H.recorded turns (.start nextLayer)).Ensures (.start d) fun r d' =>
      P d'.calls ∧ ∀ loop, r.2 = some loop → loop.Told d'.calls := by
  have kept : (serveAll H.recorded turns (.start nextLayer)).Ensures (.start d) fun r d' =>
      (∀ loop, r.2 = some loop → loop.Keeps P d') ∧ (r.2 = none → P d'.calls) := by
    refine serveAll_ensures (P := fun _ => Keeps P) (Q := fun d => P d.calls) turns ?_
      ⟨.start nextLayer, holds⟩
    rintro turn _ loop d ⟨⟨contexts, known, apart, past⟩, holds⟩
    have kept : (loop.later turn.others).Keeps P d := ⟨⟨contexts, known, apart, past⟩, holds⟩
    exact serve_keeps step H kept turn.envelope
  refine kept.mono fun r d' ends => ?_
  obtain ⟨acks, final⟩ := r
  cases final with
  | none => exact ⟨ends.2 rfl, by simp⟩
  | some loop =>
    refine ⟨(ends.1 loop rfl).2, ?_⟩
    rintro loop' ⟨⟩
    exact (ends.1 loop rfl).1

end Keeps

theorem orderly_comes {log calls : List (BackendCall σ φ)} (comes : Comes B log calls)
    (orderly : Orderly log) : Orderly (log ++ calls) := by
  cases comes with
  | plain plain => exact orderly.append (.of_plain plain)
  | command told carries => exact orderly.append (carries.pieces told)

variable (H : Host B φ τ)

/-- A command for a context is served, with the calls of its script. -/
theorem serve_command (faultless : B.Faultless) {loop : RenderLoop (B.recorded φ) φ}
    {h : ProxyHandle} {c : Context (B.recorded φ) φ} (there : loop.contexts.get? h = some c)
    (command : Command σ φ) (d : Recorded σ φ B.Device) :
    ∃ loop' ack d' calls,
      (serve H.recorded loop (.message h (.run command))).runOn d = (.ok (.next loop' ack), d') ∧
      d'.calls = d.calls ++ calls ∧ c.Carries d.calls.length command calls := by
  obtain ⟨⟨reply, c'⟩, d', run⟩ := Context.dispatch_returns (faultless.recorded (φ := φ)) H.recorded
    c loop.nextLayer command d
  obtain ⟨calls, added, carries, -⟩ := Context.dispatch_makes H c _ command d rfl _ _ run
  refine ⟨⟨loop.contexts.insert h c', layerAfter loop.nextLayer reply⟩, reply.map (⟨h, ·⟩), d',
    calls, ?_, added, carries⟩
  unfold serve RenderLoop.run
  simp only [there]
  rw [runOn_bind, runOn_bind, run]
  rfl

/-- **The calls to a backend.** A thread that is sent anything, on a backend without faults and with
callbacks that end as they like, comes to the end of it, and the backend sees orderly calls: a frame
is only begun where a surface is bound and a size set, and each is ended once, on what it was begun
on, with only draws into it between. A command that comes then makes the calls of its script: for
each item of a list that is drawn, in order, the draws that it stands for and no others. -/
theorem backend_protocol {σ φ τ : Type} {B : Backend σ} (faultless : B.Faultless)
    (H : Host B φ τ) (turns : List (Turn σ φ τ)) (nextLayer : LayerHandle) (d : B.Device) :
    ∃ acks final d', (serveAll H turns (.start nextLayer)).runOn d = (.ok (acks, final), d') ∧
      ∃ final' d'', (serveAll H.recorded turns (.start nextLayer)).runOn (.start d) =
          (.ok (acks, final'), d'') ∧
        d''.inner = d' ∧ final'.isSome = final.isSome ∧ Orderly d''.calls ∧
        ∀ loop, final' = some loop → ∀ others h c, loop.contexts.get? h = some c →
          ∀ command, ∃ loop' ack d₃ calls,
            (serve H.recorded (loop.later others) (.message h (.run command))).runOn d'' =
              (.ok (.next loop' ack), d₃) ∧
            d₃.calls = d''.calls ++ calls ∧ c.Carries d''.calls.length command calls := by
  obtain ⟨⟨acks, final⟩, d', run⟩ := serveAll_returns faultless H turns (.start nextLayer) d
  obtain ⟨final', d'', run', same, inner⟩ := serveAll_recorded run
  have orderly := (serveAll_keeps (P := Orderly) (fun _ _ => orderly_comes (B := B)) H .nil turns
    nextLayer d _ _ run').1
  refine ⟨acks, final, d', run, final', d'', run', inner, same, orderly, ?_⟩
  rintro loop rfl others h c there command
  have there : (loop.later others).contexts.get? h = some c := there
  exact serve_command H faultless there command d''

end RenderLoop

/-! ### A backend of few words -/

/-- A backend that begins every frame and refuses the first size it is asked for. It keeps the
number of sizes it was asked for, next to what is none of its business. -/
def fickle (σ ω : Type) : Backend σ where
  Device := Nat × ω
  Canvas := Unit
  Layer := Unit
  Frame := Unit
  name := "fickle"
  capabilities _ := .all
  createCanvas _ := pure (.ok ())
  bindSurface _ _ _ := pure (.ok (), ())
  unbindSurface _ := pure ()
  resize _ _ := do
    let (asked, outside) ← get
    set (asked + 1, outside)
    return (if asked = 0 then .error (.allocationFailure (.described "not yet")) else .ok (), ())
  beginFrame _ _ := pure (.ok (some ()), ())
  drawOp _ _ := pure ()
  endFrame _ _ := pure (.ok (), ())
  createLayer _ := pure (.ok ())
  beginLayerFrame _ := pure (.ok (), ())
  destroyCanvas _ := pure ()

theorem fickle_faultless (σ ω : Type) : (fickle σ ω).Faultless := by
  constructor <;> intros <;> first | exact returns_pure _ | exact fun _ => ⟨_, _, rfl⟩

def fickleHost (σ ω φ τ : Type) : Host (fickle σ ω) φ τ where
  invoke _ _ _ := pure ((), .panicked)
  perform _ := pure .finished
  report _ d := d

/-- A list with a callback and an unknown layer between two fills. -/
def fourItems : DisplayList :=
  ⟨⟨1⟩, [⟨.clear ⟨0, 0, 0, 0⟩, none⟩, ⟨.functor ⟨1⟩, none⟩, ⟨.layer ⟨1⟩ .zero, none⟩,
    ⟨.fill .zero ⟨0, 0, 0, 0⟩, none⟩]⟩

def oneFrame : List (Turn Unit Unit Unit) :=
  [⟨0, .message ⟨1⟩ (.create true)⟩, ⟨0, .message ⟨1⟩ (.run (.bindSurface ()))⟩,
    ⟨0, .message ⟨1⟩ (.run (.attachFunctor ⟨⟨1⟩, ()⟩))⟩,
    ⟨0, .message ⟨1⟩ (.run (.setup ⟨2, 2⟩))⟩,
    ⟨0, .message ⟨1⟩ (.run (.draw fourItems ⟨0, 0, 1, 1⟩))⟩]

/-- The panic of the callback and the layer that does not exist change nothing else. -/
theorem RenderLoop.backend_protocol_one_frame :
    (fickle Unit Unit).Faultless ∧
      ∃ acks final d, (serveAll (fickleHost Unit Unit Unit Unit).recorded oneFrame
          (.start ⟨1⟩)).runOn (.start (0, ())) = (.ok (acks, final), d) ∧
        d.calls =
          [.createCanvas true, .bindSurface 0 () none true, .resize 0 ⟨2, 2⟩ false,
            .beginFrame 0 ⟨0, 0, 2, 2⟩ true, .drawOp 3 ⟨.clear ⟨0, 0, 0, 0⟩, none⟩, .flush 3,
            .invoke 3 () ⟨⟨1⟩, ⟨2, 2⟩, ⟨0, 0, 2, 2⟩, none, 0⟩,
            .drawOp 3 ⟨.fill .zero ⟨0, 0, 0, 0⟩, none⟩, .endFrame 0 3 true] ∧
        Orderly d.calls := by
  let H := fickleHost Unit Unit Unit Unit
  obtain ⟨acks, final, d', -, final', d'', run, -, -, orderly, -⟩ :=
    backend_protocol (fickle_faultless Unit Unit) H oneFrame ⟨1⟩ (0, ())
  refine ⟨fickle_faultless Unit Unit, acks, final', d'', run, ?_, orderly⟩
  obtain rfl : ((serveAll H.recorded oneFrame (.start ⟨1⟩)).runOn (.start (0, ()))).2 = d'' :=
    congrArg Prod.snd run
  decide +kernel

end RenderRelay

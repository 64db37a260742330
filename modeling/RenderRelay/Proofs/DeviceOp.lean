import Mathlib.Tactic.Common
import RenderRelay.Engine.Context

/-!
How device operations run. `runOn` is the run of an operation on a device as one value.
`Ensures` says what holds of every run that does not end in a fault; its rules take an operation
apart into its parts, so that no statement about the engine looks at the monad.
-/

namespace RenderRelay

namespace DeviceOp

variable {δ α β : Type}

/-- How an operation ends that is begun on a device, and the device that it leaves. -/
def runOn (op : DeviceOp δ α) (d : δ) : Except Fault α × δ := op.run d

@[simp] theorem runOn_pure (a : α) (d : δ) : runOn (pure a) d = (.ok a, d) := rfl

@[simp] theorem runOn_throw (fault : Fault) (d : δ) :
    runOn (throw fault : DeviceOp δ α) d = (.error fault, d) := rfl

@[simp] theorem runOn_get (d : δ) : runOn get d = (.ok d, d) := rfl

@[simp] theorem runOn_set (d d' : δ) : runOn (set d') d = (.ok ⟨⟩, d') := rfl

@[simp] theorem runOn_modify (f : δ → δ) (d : δ) : runOn (modify f) d = (.ok ⟨⟩, f d) := rfl

@[simp] theorem runOn_lift (work : StateM δ α) (d : δ) :
    runOn (liftM work) d = (.ok (work d).1, (work d).2) := rfl

/-- The second operation runs where the first one ended, unless that was in a fault. -/
theorem runOn_bind (op : DeviceOp δ α) (f : α → DeviceOp δ β) (d : δ) :
    runOn (op >>= f) d =
      match op.runOn d with
      | (.ok a, d') => (f a).runOn d'
      | (.error fault, d') => (.error fault, d') := by
  unfold runOn
  rw [ExceptT.run_bind]
  change StateT.bind op.run _ d = _
  unfold StateT.bind
  simp only [bind]
  rcases op.run d with ⟨fault | a, d'⟩ <;> rfl

/-! ### What runs without a fault ensure -/

/-- Begun on `d`, the operation ends in a fault or in a value and a device of which `Q` holds. -/
def Ensures (op : DeviceOp δ α) (d : δ) (Q : α → δ → Prop) : Prop :=
  ∀ a d', op.runOn d = (.ok a, d') → Q a d'

section Rules

variable {d : δ}

theorem Ensures.of_forall {op : DeviceOp δ α} {Q : α → δ → Prop} (h : ∀ a d', Q a d') :
    Ensures op d Q :=
  fun a d' _ => h a d'

theorem Ensures.mono {op : DeviceOp δ α} {P Q : α → δ → Prop} (hP : Ensures op d P)
    (h : ∀ a d', P a d' → Q a d') : Ensures op d Q :=
  fun a d' run => h a d' (hP a d' run)

@[simp] theorem ensures_pure {a : α} {Q : α → δ → Prop} : Ensures (pure a) d Q ↔ Q a d := by
  simp [Ensures]

@[simp] theorem ensures_throw {fault : Fault} {Q : α → δ → Prop} :
    Ensures (throw fault) d Q ↔ True := by
  simp [Ensures]

@[simp] theorem ensures_get {Q : δ → δ → Prop} : Ensures get d Q ↔ Q d d := by
  simp [Ensures]

@[simp] theorem ensures_set {d' : δ} {Q : PUnit → δ → Prop} : Ensures (set d') d Q ↔ Q ⟨⟩ d' := by
  constructor
  · exact fun h => h ⟨⟩ _ rfl
  · rintro h a d₁ run
    cases run
    exact h

@[simp] theorem ensures_modify {f : δ → δ} {Q : PUnit → δ → Prop} :
    Ensures (modify f) d Q ↔ Q ⟨⟩ (f d) := by
  constructor
  · exact fun h => h ⟨⟩ _ rfl
  · rintro h a d₁ run
    cases run
    exact h

@[simp] theorem ensures_lift {work : StateM δ α} {Q : α → δ → Prop} :
    Ensures (liftM work) d Q ↔ Q (work d).1 (work d).2 := by
  simp [Ensures]

/-- **What a sequence ensures, its second part ensures wherever the first one ends.** -/
@[simp] theorem ensures_bind {op : DeviceOp δ α} {f : α → DeviceOp δ β} {Q : β → δ → Prop} :
    Ensures (op >>= f) d Q ↔ Ensures op d fun a d₁ => Ensures (f a) d₁ Q := by
  unfold Ensures
  rw [runOn_bind]
  rcases op.runOn d with ⟨fault | a, d₁⟩
  · simp
  · constructor
    · rintro h a' d₁' ⟨rfl, rfl⟩
      exact h
    · intro h
      exact h a d₁ rfl

end Rules

/-! ### How runs end -/

/-- Begun on `d`, the operation ends as `r` says: in that fault, or in a value that looks like that
in this view. -/
def Ends {γ : Type} (op : DeviceOp δ α) (d : δ) (view : α → γ) (r : Except Fault γ) : Prop :=
  (op.runOn d).1.map view = r

section Ends

variable {γ γ' : Type} {d : δ} {view : α → γ}

theorem ends_pure (a : α) : Ends (pure a) d view (.ok (view a)) := rfl

theorem Ends.bind {op : DeviceOp δ α} {f : α → DeviceOp δ β} {view' : β → γ'} {r : Except Fault γ}
    {next : γ → Except Fault γ'} (first : Ends op d view r)
    (second : Ensures op d fun a d' => Ends (f a) d' view' (next (view a))) :
    Ends (op >>= f) d view' (r >>= next) := by
  unfold Ends at first ⊢
  rw [← first, runOn_bind]
  rcases run : op.runOn d with ⟨fault | a, d'⟩
  · rfl
  · exact second a d' run

theorem Ends.ok {op : DeviceOp δ α} {x : γ} (ends : Ends op d view (.ok x)) :
    ∃ a d', op.runOn d = (.ok a, d') ∧ view a = x := by
  unfold Ends at ends
  rcases run : op.runOn d with ⟨fault | a, d'⟩
  · simp [run, Except.map] at ends
  · refine ⟨a, d', rfl, ?_⟩
    simpa [run, Except.map] using ends

theorem Ends.eq_ok {op : DeviceOp δ α} {r : Except Fault γ} {a : α} {d' : δ}
    (ends : Ends op d view r) (run : op.runOn d = (.ok a, d')) : r = .ok (view a) := by
  unfold Ends at ends
  rw [← ends, run]
  rfl

end Ends

/-! ### Two runs side by side -/

section Simulates

variable {δ₁ δ₂ α₁ α₂ β₁ β₂ : Type} {D : δ₁ → δ₂ → Prop} {R : α₁ → α₂ → Prop}

/-- Begun on devices that `D` relates, the second operation ends in a value where the first does;
then `R` relates the values and `D` the devices. -/
def Simulates (D : δ₁ → δ₂ → Prop) (R : α₁ → α₂ → Prop) (op₁ : DeviceOp δ₁ α₁)
    (op₂ : DeviceOp δ₂ α₂) : Prop :=
  ∀ d₁ d₂, D d₁ d₂ → Ensures op₁ d₁ fun a₁ d₁' =>
    ∃ a₂ d₂', op₂.runOn d₂ = (.ok a₂, d₂') ∧ R a₁ a₂ ∧ D d₁' d₂'

theorem simulates_pure {a₁ : α₁} {a₂ : α₂} (rel : R a₁ a₂) :
    Simulates D R (pure a₁) (pure a₂) :=
  fun _ d₂ devices => ensures_pure.2 ⟨a₂, d₂, rfl, rel, devices⟩

theorem simulates_throw (fault : Fault) (op₂ : DeviceOp δ₂ α₂) :
    Simulates D R (throw fault) op₂ :=
  fun _ _ _ => ensures_throw.2 trivial

theorem simulates_get : Simulates D D get get :=
  fun _ d₂ devices => ensures_get.2 ⟨d₂, d₂, rfl, devices, devices⟩

theorem simulates_modify {f₁ : δ₁ → δ₁} {f₂ : δ₂ → δ₂}
    (step : ∀ d₁ d₂, D d₁ d₂ → D (f₁ d₁) (f₂ d₂)) :
    Simulates D (fun _ _ => True) (modify f₁) (modify f₂) :=
  fun d₁ d₂ devices => ensures_modify.2 ⟨⟨⟩, f₂ d₂, rfl, trivial, step d₁ d₂ devices⟩

theorem simulates_lift {work₁ : StateM δ₁ α₁} {work₂ : StateM δ₂ α₂}
    (step : ∀ d₁ d₂, D d₁ d₂ →
      R (work₁ d₁).1 (work₂ d₂).1 ∧ D (work₁ d₁).2 (work₂ d₂).2) :
    Simulates D R (liftM work₁) (liftM work₂) :=
  fun d₁ d₂ devices => ensures_lift.2 ⟨_, _, rfl, step d₁ d₂ devices⟩

theorem Simulates.mono {op₁ : DeviceOp δ₁ α₁} {op₂ : DeviceOp δ₂ α₂} {S : α₁ → α₂ → Prop}
    (sim : Simulates D R op₁ op₂) (weaker : ∀ a₁ a₂, R a₁ a₂ → S a₁ a₂) :
    Simulates D S op₁ op₂ := by
  intro d₁ d₂ devices
  refine (sim d₁ d₂ devices).mono fun a₁ d₁' found => ?_
  obtain ⟨a₂, d₂', run, rel, devices'⟩ := found
  exact ⟨a₂, d₂', run, weaker a₁ a₂ rel, devices'⟩

/-- **Sequences are simulated part by part.** -/
theorem Simulates.bind {op₁ : DeviceOp δ₁ α₁} {op₂ : DeviceOp δ₂ α₂} {f₁ : α₁ → DeviceOp δ₁ β₁}
    {f₂ : α₂ → DeviceOp δ₂ β₂} {S : β₁ → β₂ → Prop} (first : Simulates D R op₁ op₂)
    (second : ∀ a₁ a₂, R a₁ a₂ → Simulates D S (f₁ a₁) (f₂ a₂)) :
    Simulates D S (op₁ >>= f₁) (op₂ >>= f₂) := by
  intro d₁ d₂ devices
  refine ensures_bind.2 ((first d₁ d₂ devices).mono fun a₁ d₁' found => ?_)
  obtain ⟨a₂, d₂', run, rel, devices'⟩ := found
  refine (second a₁ a₂ rel d₁' d₂' devices').mono fun b₁ d₁'' found => ?_
  obtain ⟨b₂, d₂'', run', rel', devices''⟩ := found
  refine ⟨b₂, d₂'', ?_, rel', devices''⟩
  rw [runOn_bind, run]
  exact run'

/-- Twice the same, and so that `P` holds of it. -/
def Twice (P : α → Prop) (a a' : α) : Prop := a = a' ∧ P a

/-- An invariant of an operation as a relation of its run to itself. -/
theorem simulates_of_ensures {I : δ → Prop} {P : α → Prop} {op : DeviceOp δ α}
    (keeps : ∀ d, I d → Ensures op d fun a d' => P a ∧ I d') :
    Simulates (Twice I) (Twice P) op op := by
  rintro d _ ⟨rfl, holds⟩ a d' run
  have kept := keeps d holds a d' run
  exact ⟨a, d', run, ⟨rfl, kept.1⟩, rfl, kept.2⟩

theorem simulates_of_keeps {I : δ → Prop} {op : DeviceOp δ α}
    (keeps : ∀ d, I d → Ensures op d fun _ d' => I d') :
    Simulates (Twice I) (fun a a' => a = a') op op := by
  rintro d _ ⟨rfl, holds⟩ a d' run
  exact ⟨a, d', run, rfl, rfl, keeps d holds a d' run⟩

theorem Simulates.ensures {D : δ → δ → Prop} {R : α → α → Prop} {op : DeviceOp δ α} {d : δ}
    (sim : Simulates D R op op) (devices : D d d) :
    Ensures op d fun a d' => R a a ∧ D d' d' := by
  intro a d' run
  obtain ⟨a₂, d₂, run₂, rel⟩ := sim d d devices a d' run
  obtain ⟨rfl, rfl⟩ : a = a₂ ∧ d' = d₂ := by
    rw [run] at run₂
    simpa using run₂
  exact rel

end Simulates

end DeviceOp

@[simp] theorem Host.ensures_note {σ φ τ : Type} {B : Backend σ} (H : Host B φ τ) {level : Level}
    {reporter : Reporter} {text : String} {d : B.Device} {Q : Unit → B.Device → Prop} :
    (H.note level reporter text).Ensures d Q ↔ Q () (H.report ⟨level, reporter, text⟩ d) :=
  DeviceOp.ensures_modify

@[simp] theorem Context.ensures_note {σ φ τ : Type} {B : Backend σ} (H : Host B φ τ)
    {name : String} {level : Level} {text : String} {d : B.Device} {Q : Unit → B.Device → Prop} :
    (note H name level text).Ensures d Q ↔
      Q () (H.report ⟨level, .context, s!"[{name}] {text}"⟩ d) :=
  H.ensures_note

end RenderRelay

import RenderRelay.Proofs.DeviceOp

/-!
What is called, and how far a run gets with it. `Settles` says what is left also where an
operation ends in a fault. With it, `Tracks` says that an operation makes the calls of a plan, from
the first one on, and none beside them: a fault, or a frame that is not begun, breaks the plan off,
and what was called until then is a prefix of it.
-/

namespace RenderRelay

namespace DeviceOp

variable {δ α β : Type}

/-- Begun on `d`, the operation ends in a fault and leaves a device of which `E` holds, or it ends
in a value and leaves a device of which `Q` holds. -/
def Settles (op : DeviceOp δ α) (d : δ) (E : δ → Prop) (Q : α → δ → Prop) : Prop :=
  match op.runOn d with
  | (.ok a, d') => Q a d'
  | (.error _, d') => E d'

section Rules

variable {d : δ} {E : δ → Prop}

theorem Settles.mono {op : DeviceOp δ α} {E' : δ → Prop} {P Q : α → δ → Prop}
    (settles : op.Settles d E P) (faults : ∀ d', E d' → E' d')
    (values : ∀ a d', P a d' → Q a d') : op.Settles d E' Q := by
  unfold Settles at settles ⊢
  rcases run : op.runOn d with ⟨fault | a, d'⟩
  · rw [run] at settles
    exact faults d' settles
  · rw [run] at settles
    exact values a d' settles

@[simp] theorem settles_pure {a : α} {Q : α → δ → Prop} :
    Settles (pure a) d E Q ↔ Q a d := by
  simp [Settles]

@[simp] theorem settles_throw {fault : Fault} {Q : α → δ → Prop} :
    Settles (throw fault) d E Q ↔ E d := by
  simp [Settles]

@[simp] theorem settles_get {Q : δ → δ → Prop} : Settles get d E Q ↔ Q d d := by
  simp [Settles]

@[simp] theorem settles_set {d' : δ} {Q : PUnit → δ → Prop} :
    Settles (set d') d E Q ↔ Q ⟨⟩ d' := by
  simp [Settles]

@[simp] theorem settles_modify {f : δ → δ} {Q : PUnit → δ → Prop} :
    Settles (modify f) d E Q ↔ Q ⟨⟩ (f d) := by
  simp [Settles]

@[simp] theorem settles_lift {work : StateM δ α} {Q : α → δ → Prop} :
    Settles (liftM work) d E Q ↔ Q (work d).1 (work d).2 := by
  simp [Settles]

@[simp] theorem settles_bind {op : DeviceOp δ α} {f : α → DeviceOp δ β} {Q : β → δ → Prop} :
    Settles (op >>= f) d E Q ↔ op.Settles d E fun a d' => (f a).Settles d' E Q := by
  unfold Settles
  rw [runOn_bind]
  rcases op.runOn d with ⟨fault | a, d'⟩ <;> rfl

theorem Settles.ensures {op : DeviceOp δ α} {Q : α → δ → Prop}
    (settles : op.Settles d E Q) : op.Ensures d Q := by
  intro a d' run
  unfold Settles at settles
  rwa [run] at settles

/-- However the operation ends, the device that it leaves is one of which this holds. -/
theorem Settles.always {op : DeviceOp δ α} {Q : α → δ → Prop} (settles : op.Settles d E Q)
    (values : ∀ a d', Q a d' → E d') : E (op.runOn d).2 := by
  unfold Settles at settles
  rcases run : op.runOn d with ⟨fault | a, d'⟩
  · rwa [run] at settles
  · rw [run] at settles
    exact values a d' settles

end Rules

/-! ### Calls -/

section Plans

variable {ι : Type} {K : List ι → δ → Prop} {called plan : List ι}

/-- The operation makes no calls: whatever was called before, that was still all when it ends. Of
its value `P` holds. -/
def Quiet (K : List ι → δ → Prop) (op : DeviceOp δ α) (P : α → Prop) : Prop :=
  ∀ called d, K called d → op.Settles d (K called) fun a d' => P a ∧ K called d'

/-- After `called`, the operation makes calls of the plan in order and from the first one on; `P`
holds of its value and the calls that it made. -/
def Tracks (K : List ι → δ → Prop) (called plan : List ι) (op : DeviceOp δ α)
    (P : α → List ι → Prop) : Prop :=
  ∀ d, K called d → op.Settles d (fun d' => ∃ made, made <+: plan ∧ K (called ++ made) d')
    fun a d' => ∃ made, made <+: plan ∧ P a made ∧ K (called ++ made) d'

namespace Quiet

variable {op : DeviceOp δ α} {P Q : α → Prop}

theorem pure {a : α} (holds : P a) : Quiet K (pure a) P :=
  fun _ _ kept => settles_pure.2 ⟨holds, kept⟩

theorem throw (fault : Fault) : Quiet K (throw fault) P :=
  fun _ _ kept => settles_throw.2 kept

theorem get : Quiet K MonadState.get fun _ => True :=
  fun _ _ kept => settles_get.2 ⟨trivial, kept⟩

theorem modify {f : δ → δ} (keeps : ∀ called d, K called d → K called (f d)) :
    Quiet K (modify f) fun _ => True :=
  fun called d kept => settles_modify.2 ⟨trivial, keeps called d kept⟩

theorem bind {f : α → DeviceOp δ β} {Q : β → Prop} (first : Quiet K op P)
    (second : ∀ a, P a → Quiet K (f a) Q) : Quiet K (op >>= f) Q := by
  intro called d kept
  refine settles_bind.2 ((first called d kept).mono (fun _ same => same) fun a d' ended => ?_)
  exact second a ended.1 called d' ended.2

theorem tracks (quiet : Quiet K op P) : Tracks K called plan op fun a made => P a ∧ made = [] := by
  intro d kept
  have none (d' : δ) (kept' : K called d') : K (called ++ []) d' := by rwa [List.append_nil]
  refine (quiet called d kept).mono (fun d' kept' => ⟨[], List.nil_prefix, none d' kept'⟩) ?_
  exact fun a d' ended => ⟨[], List.nil_prefix, ⟨ended.1, rfl⟩, none d' ended.2⟩

end Quiet

namespace Tracks

variable {op : DeviceOp δ α} {P : α → List ι → Prop}

theorem pure {a : α} (holds : P a []) : Tracks K called plan (pure a) P :=
  fun d kept => settles_pure.2 ⟨[], List.nil_prefix, holds, by rwa [List.append_nil]⟩

theorem mono {Q : α → List ι → Prop} (tracks : Tracks K called plan op P)
    (weaker : ∀ a made, P a made → Q a made) : Tracks K called plan op Q := by
  intro d kept
  refine (tracks d kept).mono (fun _ same => same) ?_
  rintro a d' ⟨made, part, holds, kept'⟩
  exact ⟨made, part, weaker a made holds, kept'⟩

/-- **A sequence follows one plan after the other**, if the first one is carried out whole. -/
theorem bind {before after : List ι} {f : α → DeviceOp δ β} {Q : β → List ι → Prop}
    (first : Tracks K called before op P) (second : ∀ a made, P a made → made = before ∧
      Tracks K (called ++ before) after (f a) fun b made => Q b (before ++ made)) :
    Tracks K called (before ++ after) (op >>= f) Q := by
  intro d kept
  refine settles_bind.2 ((first d kept).mono ?_ ?_)
  · rintro d' ⟨made, part, kept'⟩
    exact ⟨made, part.trans (List.prefix_append ..), kept'⟩
  · rintro a d' ⟨made, -, holds, kept'⟩
    obtain ⟨rfl, tracks⟩ := second a made holds
    refine (tracks d' kept').mono ?_ ?_
    · rintro d'' ⟨made', part, kept''⟩
      exact ⟨made ++ made', List.prefix_append_right_inj made |>.2 part,
        by rwa [← List.append_assoc]⟩
    · rintro b d'' ⟨made', part, holds', kept''⟩
      exact ⟨made ++ made', List.prefix_append_right_inj made |>.2 part, holds',
        by rwa [← List.append_assoc]⟩

theorem after_quiet {R : α → Prop} {f : α → DeviceOp δ β} {Q : β → List ι → Prop}
    (first : Quiet K op R) (second : ∀ a, R a → Tracks K called plan (f a) Q) :
    Tracks K called plan (op >>= f) Q := by
  intro d kept
  refine settles_bind.2 ((first called d kept).mono (fun d' kept' => ?_) fun a d' ended => ?_)
  · exact ⟨[], List.nil_prefix, by rwa [List.append_nil]⟩
  · exact second a ended.1 d' ended.2

theorem then_quiet {f : α → DeviceOp δ β} {Q : β → List ι → Prop}
    (first : Tracks K called plan op P)
    (second : ∀ a made, P a made → Quiet K (f a) fun b => Q b made) :
    Tracks K called plan (op >>= f) Q := by
  intro d kept
  refine settles_bind.2 ((first d kept).mono (fun _ same => same) ?_)
  rintro a d' ⟨made, part, holds, kept'⟩
  refine (second a made holds _ d' kept').mono (fun d'' kept'' => ⟨made, part, kept''⟩) ?_
  exact fun b d'' ended => ⟨made, part, ended.1, ended.2⟩

end Tracks

end Plans

end DeviceOp

end RenderRelay

import RenderRelay.Proofs.Correspondence.Headless
import RenderRelay.Proofs.Correspondence.Thread
import RenderRelay.Proofs.Layers.Shelf

/-!
The layers that a render thread keeps. What an envelope is to one proxy is a dealing or nothing, and
after it the thread holds of that proxy's layers what the dealings so far make of an empty shelf
(`Holds.serves`). A device is never set up anew, so one that can read layers back answers whenever
it is asked to, and what it answers is on the shelf (`Holds.copy`).
-/

namespace RenderRelay

open DeviceOp

section Dealings

variable {σ φ τ : Type}

/-- The message pushes no list but one that clears and fills. -/
def Message.paints : Message σ φ → Bool
  | .run (.pushLayerUpdate _ list) => list.paints
  | _ => true

/-- What passes between a proxy and the render thread with an envelope. -/
def Envelope.dealing? (h : ProxyHandle) (ack : Option Acknowledgement) :
    Envelope σ φ τ → Option (Dealing σ φ)
  | .message k sent => if k = h then some (sent, ack.map (·.reply)) else none
  | .task _ => none
  | .shutdown => none

theorem Envelope.dealing?_eq_some {h : ProxyHandle} {ack : Option Acknowledgement}
    {envelope : Envelope σ φ τ} {message : Message σ φ} {reply : Option Reply}
    (passed : envelope.dealing? h ack = some (message, reply)) :
    envelope = .message h message ∧ ack.map (·.reply) = reply := by
  unfold dealing? at passed
  split at passed
  · split at passed
    case isTrue same =>
      obtain ⟨rfl, told⟩ := Prod.mk.inj (Option.some.inj passed)
      exact ⟨same ▸ rfl, told⟩
    case isFalse => simp at passed
  · simp at passed
  · simp at passed

end Dealings

namespace Headless

variable {ω φ τ : Type} {report : LogRecord → ω → ω}
  {invoke : φ → Frame → FunctorInfo → StateM ω (Frame × Completion)}
  {perform : τ → StateM ω Completion}

/-! ### Devices -/

/-- Whatever is done with a device, it is set up as before. -/
def lasting (config : Config) : Upkeep report invoke where
  device d := d.config = config
  surface _ := True
  callback _ := True
  report _ _ same := same
  present _ _ _ _ same := same
  invoke _ _ _ _ _ same := same

theorem createCanvas_config (translucent : Bool) (d : Device ω) :
    (createCanvas report translucent).Ensures d fun _ d' => d'.config = d.config := by
  unfold createCanvas
  refine ensures_bind.2 (ensures_get.2 ?_)
  split
  · exact ensures_pure.2 rfl
  · exact ensures_bind.2 (ensures_set.2 (ensures_bind.2 (ensures_modify.2 (ensures_pure.2 rfl))))

theorem destroyCanvas_config (canvas : Canvas) (d : Device ω) :
    (destroyCanvas report canvas).Ensures d fun _ d' => d'.config = d.config := by
  have unbound : (unbindSurface report canvas).Ensures d fun _ d' => d'.config = d.config := by
    unfold unbindSurface
    split
    · exact ensures_pure.2 rfl
    · exact ensures_bind.2 (ensures_modify.2 (ensures_pure.2 rfl))
  refine ensures_bind.2 (unbound.mono fun _ d₁ same => ?_)
  exact ensures_bind.2 (ensures_get.2 (ensures_bind.2 (ensures_set.2 (ensures_modify.2 same))))

theorem lasting_complete (config : Config) :
    ((lasting config : Upkeep report invoke).constraint perform).correspondence.Complete where
  rename := rfl
  surfaces _ := trivial
  callbacks _ _ := trivial
  createsLayers fresh := Upkeep.createsLayers _ fresh
  destroysLayers := Upkeep.destroysLayers _
  createsCanvases translucent := by
    refine (simulates_of_keeps fun d set => ?_).mono ?_
    · exact (createCanvas_config translucent d).mono fun _ d' same => same.trans set
    · rintro made _ rfl
      exact Constraint.outcome_self fun canvas _ => ⟨rfl, fun _ _ => trivial⟩
  destroysCanvases := by
    rintro canvas _ ⟨rfl, -⟩
    refine (simulates_of_keeps fun d set => ?_).mono fun _ _ _ => trivial
    exact (destroyCanvas_config canvas d).mono fun _ d' same => same.trans set
  performs task := (simulates_of_keeps fun d set => ensures_lift.2 set).mono fun _ _ => Eq.symm

/-- **No envelope sets the device up anew.** -/
theorem serve_config (loop : RenderLoop (backend report) φ) (envelope : Envelope Surface φ τ)
    (d : Device ω) :
    (loop.serve (host report invoke perform) envelope).Ensures d fun _ d' =>
      d'.config = d.config := by
  have loops : Correspondence.Loops
      ((lasting d.config : Upkeep report invoke).constraint perform).correspondence loop loop := by
    refine ⟨List.forall₂_same.2 fun e _ => ⟨rfl, Constraint.fits_iff.1 ?_⟩, rfl⟩
    exact ⟨fun _ _ _ _ => trivial, fun _ _ => trivial, fun _ _ _ => trivial⟩
  have kept := ((lasting_complete d.config).serve_simulates loops envelope).ensures ⟨rfl, rfl⟩
  exact kept.mono fun _ _ found => found.2.2

/-! ### Contexts -/

/-- The context of a proxy has the layers on the shelf; where there is none, the shelf is empty. -/
structure Holds (loop : RenderLoop (backend report) φ) (h : ProxyHandle) (shelf : Shelf) :
    Prop where
  known : ∀ c, loop.contexts.get? h = some c → Shelved shelf c.registry
  unknown : loop.contexts.get? h = none → shelf = .empty

namespace Holds

variable {loop loop' : RenderLoop (backend report) φ} {h : ProxyHandle} {shelf : Shelf}

theorem congr (holds : Holds loop h shelf)
    (same : loop'.contexts.get? h = loop.contexts.get? h) : Holds loop' h shelf :=
  ⟨fun c there => holds.known c (same ▸ there), fun none => holds.unknown (same ▸ none)⟩

theorem start (nextLayer : LayerHandle) :
    Holds (.start nextLayer : RenderLoop (backend report) φ) h .empty where
  known c there := by simp [RenderLoop.start] at there
  unknown _ := rfl

/-- A message to a context is a dealing with one proxy and none with the others. -/
theorem message {dealings : List (Dealing Surface φ)} {k : ProxyHandle}
    {sent : Message Surface φ} {ack : Option Acknowledgement} (holds : Holds loop h (.of dealings))
    (own : k = h → Holds loop' h ((Shelf.of dealings).after (sent, ack.map (·.reply))))
    (foreign : k ≠ h → loop'.contexts.get? h = loop.contexts.get? h) :
    Holds loop' h (.of (dealings ++
      ((Envelope.message k sent : Envelope Surface φ τ).dealing? h ack).toList)) := by
  by_cases same : k = h
  · simpa [Envelope.dealing?, same] using own same
  · simpa [Envelope.dealing?, same] using holds.congr (foreign same)

/-- **What a thread keeps of a proxy's layers is what passed between the two.** -/
theorem serves {dealings : List (Dealing Surface φ)} {envelope : Envelope Surface φ τ}
    {ack : Option Acknowledgement} (holds : Holds loop h (.of dealings)) (named : loop.Named)
    (serves : loop.Serves (host report invoke perform) envelope (.next loop' ack))
    (paints : ∀ message, envelope = .message h message → message.paints = true) :
    Holds loop' h (.of (dealings ++ (envelope.dealing? h ack).toList)) := by
  cases serves with
  | @made k translucent canvas =>
    refine holds.message ?_ fun other => by simp [Table.get?_insert, other]
    rintro rfl
    refine ⟨fun c there => ?_, fun _ => rfl⟩
    obtain rfl : .ofCanvas k canvas = c := by simpa [Table.get?_insert] using there
    exact .empty
  | refused => exact holds.message (fun _ => holds) fun _ => rfl
  | @obeyed k command c c' reply d d' there run =>
    refine holds.message ?_ fun other => by simp [Table.get?_insert, other]
    rintro rfl
    have shelved := holds.known c there
    have kept := dispatch_shelved shelved (shelved.absent (named.unused there)) command (by
      rintro handle list rfl
      exact paints _ rfl) _ _ run
    refine ⟨fun c₁ found => ?_, fun none => by simp [Table.get?_insert] at none⟩
    obtain rfl : c' = c₁ := by simpa [Table.get?_insert] using found
    cases reply <;> exact kept
  | dropped unknown =>
    refine holds.message ?_ fun _ => rfl
    rintro rfl
    have empty := holds.unknown unknown
    rw [empty] at holds
    simpa [empty, Shelf.after_empty] using holds
  | @disposed k c there =>
    refine holds.message ?_ fun other => by simp [Table.get?_erase, other]
    rintro rfl
    exact ⟨fun c found => by simp [Table.get?_erase] at found, fun _ => rfl⟩
  | ignored unknown =>
    refine holds.message ?_ fun _ => rfl
    rintro rfl
    exact ⟨fun c found => by simp [unknown] at found, fun _ => rfl⟩
  | performed => simpa [Envelope.dealing?] using holds

variable (invoke perform) in
/-- **A proxy that asks for a layer is given what is on its shelf.** -/
theorem copy {d : Device ω} {c : Context (backend report) φ} (holds : Holds loop h shelf)
    (there : loop.contexts.get? h = some c) (able : d.config.capabilities.layerReadback = true)
    (handle : LayerHandle) :
    ∃ result loop' d',
      (loop.serve (host report invoke perform) (.message h (.run (.copyLayer handle)))).runOn d =
        (.ok (.next loop' (some ⟨h, .pixels result⟩)), d') ∧ ReadsBack (shelf handle) result := by
  obtain ⟨result, ends, right⟩ :=
    dispatch_copyLayer invoke perform (holds.known c there) able loop.nextLayer handle
  obtain ⟨⟨reply, c'⟩, d', run, rfl⟩ := ends.ok
  refine ⟨result, ⟨loop.contexts.insert h c', loop.nextLayer⟩, d', ?_, right⟩
  simp only [RenderLoop.serve, RenderLoop.run, there, runOn_bind, run, runOn_pure]
  rfl

theorem answer {d d' : Device ω} {ack : Acknowledgement} {handle : LayerHandle}
    (holds : Holds loop h shelf) (able : d.config.capabilities.layerReadback = true)
    (served : (loop.serve (host report invoke perform)
      (.message h (.run (.copyLayer handle)))).runOn d = (.ok (.next loop' (some ack)), d')) :
    ∃ result, ack.reply = .pixels result ∧ ReadsBack (shelf handle) result := by
  cases there : loop.contexts.get? h with
  | none =>
    have serves := RenderLoop.serve_serves _ _ _ _ _ _ served
    generalize next : RenderLoop.Served.next loop' (some ack) = result at serves
    cases serves with
    | obeyed known => simp [there] at known
    | dropped => simp at next
  | some c =>
    obtain ⟨result, loop₁, d₁, run, right⟩ := holds.copy invoke perform there able handle
    rw [run] at served
    obtain ⟨⟨rfl, rfl⟩, rfl⟩ := by simpa using served
    exact ⟨result, rfl, right⟩

end Holds

/-! ### What was read back -/

/-- Whenever a layer was read back, it was as it was on the shelf then. -/
def ReadBack (dealings : List (Dealing Surface φ)) : Prop :=
  ∀ before handle reply, before ++ [(.run (.copyLayer handle), some reply)] <+: dealings →
    ∃ result, reply = .pixels result ∧ ReadsBack (Shelf.of before handle) result

theorem ReadBack.nil : ReadBack ([] : List (Dealing Surface φ)) := by
  intro before handle reply first
  simp at first

theorem ReadBack.concat {dealings : List (Dealing Surface φ)} {dealing : Dealing Surface φ}
    (right : ReadBack dealings)
    (last : ∀ handle reply, dealing = (.run (.copyLayer handle), some reply) →
      ∃ result, reply = .pixels result ∧ ReadsBack (Shelf.of dealings handle) result) :
    ReadBack (dealings ++ [dealing]) := by
  intro before handle reply first
  rcases List.prefix_concat_iff.1 first with same | first
  · obtain ⟨rfl, new⟩ := List.append_inj' same rfl
    exact last handle reply (List.singleton_inj.1 new).symm
  · exact right before handle reply first

end Headless

end RenderRelay

import RenderRelay.Proofs.Custody.Census
import RenderRelay.Proofs.Isolation.Names

/-!
One proxy among others. Beside a thread that serves many proxies stands one that serves a single one
of them; `Threads` and `Agree` are what the two keep alike: the proxy's context, what its surfaces
show, and the part of the world that its callbacks work in. An envelope of another proxy moves the
first thread alone and changes nothing of this (`other_serve`); one of the proxy itself moves both
the same way, as its commands do (`own_run`).
-/

namespace RenderRelay

open DeviceOp

variable {ω φ τ π : Type}

/-! ### What a proxy binds and attaches -/

def Command.Binds (s : Surface) : Command Surface φ → Prop
  | bindSurface t => t = s
  | updateSurface t => t = some s
  | _ => False

def Command.Attaches {σ : Type} (f : φ) : Command σ φ → Prop
  | attachFunctor functor => functor.callback = f
  | _ => False

namespace Headless

variable {report : LogRecord → ω → ω}
  {invoke : φ → Frame → FunctorInfo → StateM ω (Frame × Completion)}
  {perform : τ → StateM ω Completion}

/-- A callback that reads and changes its own part of the world alone. -/
def Confined (invoke : φ → Frame → FunctorInfo → StateM ω (Frame × Completion)) (part : ω → π)
    (f : φ) : Prop :=
  ∀ frame info world world', part world' = part world →
    (invoke f frame info world').1 = (invoke f frame info world).1 ∧
      part (invoke f frame info world').2 = part (invoke f frame info world).2

def Sparing (invoke : φ → Frame → FunctorInfo → StateM ω (Frame × Completion)) (part : ω → π)
    (f : φ) : Prop :=
  ∀ frame info world, part (invoke f frame info world).2 = part world

/-- A proxy and what is its own: surfaces, by their numbers, and a part of the world that is not
reported to. On a thread of its own its layers go under other names. -/
structure Domain (report : LogRecord → ω → ω)
    (invoke : φ → Frame → FunctorInfo → StateM ω (Frame × Completion)) (π : Type) where
  proxy : ProxyHandle
  mine : Nat → Prop
  part : ω → π
  unreported : ∀ record world, part (report record world) = part world
  rename : LayerHandle → LayerHandle
  injective : Function.Injective rename

namespace Domain

variable (D : Domain report invoke π)

/-- Devices that agree on what is the proxy's own. -/
structure Agree (d₁ d₂ : Device ω) : Prop where
  config : d₂.config = d₁.config
  reading : d₂.gallery.reading = d₁.gallery.reading
  look : ∀ s, D.mine s.number → d₂.gallery.look s = d₁.gallery.look s
  part : D.part d₂.outside = D.part d₁.outside

variable {D} {d₁ d₂ : Device ω}

theorem Agree.refl (d : Device ω) : D.Agree d d := ⟨rfl, rfl, fun _ _ => rfl, rfl⟩

theorem Agree.symm (agree : D.Agree d₁ d₂) : D.Agree d₂ d₁ :=
  ⟨agree.config.symm, agree.reading.symm, fun s mine => (agree.look s mine).symm,
    agree.part.symm⟩

theorem Agree.busy (agree : D.Agree d₁ d₂) {s : Surface} (mine : D.mine s.number) :
    d₂.gallery.isRead s = d₁.gallery.isRead s :=
  Gallery.isRead_congr agree.reading (congrArg Presentation.attempts (agree.look s mine))

theorem Agree.live (agree : D.Agree d₁ d₂) (n₁ n₂ : Nat) :
    D.Agree { d₁ with live := n₁ } { d₂ with live := n₂ } :=
  ⟨agree.config, agree.reading, agree.look, agree.part⟩

theorem Agree.reported (agree : D.Agree d₁ d₂) (record₁ record₂ : LogRecord) :
    D.Agree { d₁ with outside := report record₁ d₁.outside }
      { d₂ with outside := report record₂ d₂.outside } :=
  ⟨agree.config, agree.reading, agree.look, by rw [D.unreported, D.unreported, agree.part]⟩

theorem Agree.reported_left (agree : D.Agree d₁ d₂) (record : LogRecord) :
    D.Agree { d₁ with outside := report record d₁.outside } d₂ :=
  ⟨agree.config, agree.reading, agree.look, by rw [D.unreported, agree.part]⟩

variable (D)

def pairing : Pairing report invoke where
  rename := D.rename
  injective := D.injective
  device := D.Agree
  surface s := D.mine s.number
  callback := Confined invoke D.part
  config _ _ agree := agree.config
  report _ _ _ _ _ _ agree := agree.reported _ _
  busy _ _ _ mine agree := agree.busy mine
  present s frame d₁ d₂ mine agree := by
    refine ⟨agree.config, agree.reading, fun t own => ?_, agree.part⟩
    simp only [Gallery.look_present, agree.look s mine, agree.look t own, agree.busy mine]
  invoke f frame info d₁ d₂ confined agree := by
    obtain ⟨same, part⟩ := confined frame info d₁.outside d₂.outside agree.part
    exact ⟨same, agree.config, agree.reading, agree.look, part⟩

def upkeep (d₂ : Device ω) : Upkeep report invoke where
  device d₁ := D.Agree d₁ d₂
  surface s := ¬D.mine s.number
  callback := Sparing invoke D.part
  report _ _ agree := agree.reported_left _
  present s frame d₁ foreign agree := by
    refine ⟨agree.config, agree.reading, fun t own => ?_, agree.part⟩
    have other : s.number ≠ t.number := fun same => foreign (same ▸ own)
    simp only [Gallery.look_present, if_neg other, agree.look t own]
  invoke f frame info d₁ sparing agree := by
    refine ⟨agree.config, agree.reading, agree.look, ?_⟩
    rw [agree.part]
    exact (sparing frame info d₁.outside).symm

abbrev correspondence (perform : τ → StateM ω Completion) :
    Correspondence (host report invoke perform) (host report invoke perform) :=
  D.pairing.correspondence perform

variable {D}

/-! ### Its own commands -/

theorem destroysCanvases : (D.correspondence perform).DestroysCanvases := by
  rintro canvas _ ⟨rfl, -⟩
  have unbound := D.pairing.unbindSurface_simulates canvas
  refine unbound.bind fun _ _ _ => simulates_get.bind fun d₁ d₂ agree => ?_
  refine Simulates.bind (R := fun _ _ => True) ?_ fun _ _ _ => ?_
  · exact fun _ _ _ => ensures_set.2 ⟨⟨⟩, _, rfl, trivial, Agree.live agree _ _⟩
  · exact simulates_modify fun d₁ d₂ agree => Agree.reported agree _ _

theorem supports {command : Command Surface φ}
    (binds : ∀ s, command.Binds s → D.mine s.number)
    (attaches : ∀ f, command.Attaches f → Confined invoke D.part f)
    (fresh₁ fresh₂ : LayerHandle) :
    (D.correspondence perform).Supports fresh₁ fresh₂ command := by
  cases command with
  | bindSurface s => exact binds s rfl
  | updateSurface s => exact fun t same => binds t same
  | attachFunctor functor => exact attaches _ rfl
  | createLayer size =>
    exact Pairing.createsLayers _ fun _ _ _ _ _ agree => Agree.reported agree _ _
  | destroyLayer layer => exact Pairing.destroysLayers _
  | destroy full =>
    exact fun _ => ⟨Pairing.destroysLayers _, destroysCanvases⟩
  | _ => trivial

/-! ### Commands of other proxies -/

section Others

variable {d : Device ω}

theorem unbindSurface_agree (agree : D.Agree d d₂) (canvas : Canvas) :
    (unbindSurface report canvas).Ensures d fun _ d' => D.Agree d' d₂ := by
  unfold unbindSurface
  split
  · exact ensures_pure.2 agree
  · exact ensures_bind.2 (ensures_modify.2 (ensures_pure.2 (agree.reported_left _)))

theorem destroyCanvas_agree (agree : D.Agree d d₂) (canvas : Canvas) :
    (destroyCanvas report canvas).Ensures d fun _ d' => D.Agree d' d₂ := by
  refine ensures_bind.2 ((unbindSurface_agree agree canvas).mono fun _ d₁ agree => ?_)
  refine ensures_bind.2 (ensures_get.2 (ensures_bind.2 (ensures_set.2 (ensures_modify.2 ?_))))
  exact (agree.live _ d₂.live).reported_left _

theorem createCanvas_agree (agree : D.Agree d d₂) (translucent : Bool) :
    (createCanvas report translucent).Ensures d fun made d' =>
      (∀ canvas, made = .ok canvas → canvas = ⟨translucent, none, none, .empty⟩) ∧
        D.Agree d' d₂ := by
  refine ensures_bind.2 (ensures_get.2 ?_)
  split
  · exact ensures_pure.2 ⟨by simp, agree⟩
  · refine ensures_bind.2 (ensures_set.2 (ensures_bind.2 (ensures_modify.2 (ensures_pure.2 ?_))))
    refine ⟨?_, (agree.live _ d₂.live).reported_left _⟩
    rintro canvas ⟨⟩
    rfl

theorem upkeep_destroysCanvases :
    ((D.upkeep d₂).constraint perform).correspondence.DestroysCanvases := by
  rintro canvas _ ⟨rfl, -⟩
  have keeps := simulates_of_keeps (I := fun d => D.Agree d d₂)
    fun d agree => destroyCanvas_agree agree canvas
  exact keeps.mono fun _ _ _ => trivial

theorem upkeep_supports {command : Command Surface φ}
    (binds : ∀ s, command.Binds s → ¬D.mine s.number)
    (attaches : ∀ f, command.Attaches f → Sparing invoke D.part f) (fresh : LayerHandle) :
    ((D.upkeep d₂).constraint perform).correspondence.Supports fresh fresh
      command := by
  cases command with
  | bindSurface s => exact binds s rfl
  | updateSurface s => exact fun t same => binds t same
  | attachFunctor functor => exact attaches _ rfl
  | createLayer size => exact Upkeep.createsLayers _ fresh
  | destroyLayer layer => exact Upkeep.destroysLayers _
  | destroy full => exact fun _ => ⟨Upkeep.destroysLayers _, upkeep_destroysCanvases⟩
  | _ => trivial

end Others

/-- A context that has nothing of what is the proxy's own. -/
structure Foreign (D : Domain report invoke π)
    (c : Context (backend report) φ) : Prop where
  surface : ∀ canvas s, c.canvas = some canvas → canvas.surface = some s → ¬D.mine s.number
  callbacks : ∀ id f, c.registry.functors.get? id = some f → Sparing invoke D.part f

theorem foreign_iff {c : Context (backend report) φ} :
    D.Foreign c ↔ ((D.upkeep d₂).constraint perform).Fits c :=
  ⟨fun foreign => ⟨fun canvas there s => foreign.surface canvas s there, fun _ _ => trivial,
      foreign.callbacks⟩,
    fun fits => ⟨fun canvas s there => fits.canvas canvas there s, fits.callbacks⟩⟩

theorem Foreign.ofCanvas (h : ProxyHandle) {canvas : Canvas} (unbound : canvas.surface = none) :
    D.Foreign (.ofCanvas h canvas : Context (backend report) φ) where
  surface := by
    rintro found s ⟨rfl⟩ bound
    simp [unbound] at bound
  callbacks := by simp [Context.ofCanvas, Registry.empty]

variable {c : Context (backend report) φ} {d : Device ω}

/-- **A command of another proxy leaves what is the proxy's own.** -/
theorem Foreign.dispatch (foreign : D.Foreign c) (agree : D.Agree d d₂)
    {command : Command Surface φ} (binds : ∀ s, command.Binds s → ¬D.mine s.number)
    (attaches : ∀ f, command.Attaches f → Sparing invoke D.part f) (fresh : LayerHandle) :
    (c.dispatch (host report invoke perform) fresh command).Ensures d fun r d' =>
      D.Foreign r.2 ∧ D.Agree d' d₂ := by
  intro r d' run
  have fits : ((D.upkeep d₂).constraint perform).Fits c := foreign_iff.1 foreign
  have kept := Constraint.dispatch_fits fits (upkeep_supports binds attaches fresh)
    agree r d' run
  have named := (Context.dispatch_evolves _ c fresh command d r d' run).2
  exact ⟨foreign_iff.2 (kept.1 named), kept.2⟩

theorem Foreign.teardown (foreign : D.Foreign c) (agree : D.Agree d d₂) :
    (c.teardown (host report invoke perform)).Ensures d fun _ d' => D.Agree d' d₂ := by
  have fits : ((D.upkeep d₂).constraint perform).Fits c := foreign_iff.1 foreign
  have sim := Correspondence.teardown_simulates (Upkeep.destroysLayers _)
    (upkeep_destroysCanvases) (Constraint.fits_iff.1 fits)
  exact (sim.ensures ⟨rfl, agree⟩).mono fun _ _ kept => kept.2.2

/-! ### Two threads -/

/-- What a proxy has on a thread that serves others too, and on one that serves it alone. -/
structure Threads (D : Domain report invoke π) (perform : τ → StateM ω Completion)
    (loop₁ loop₂ : RenderLoop (backend report) φ) : Prop where
  own : Option.Rel (D.correspondence perform).Contexts (loop₁.contexts.get? D.proxy)
    (loop₂.contexts.get? D.proxy)
  alone : ∀ k, k ≠ D.proxy → loop₂.contexts.get? k = none
  foreign : ∀ k c, k ≠ D.proxy → loop₁.contexts.get? k = some c → D.Foreign c

namespace Threads

variable {loop₁ loop₂ : RenderLoop (backend report) φ}

theorem start (nextLayer : LayerHandle) :
    D.Threads perform (.start nextLayer) (.start nextLayer) where
  own := .none
  alone _ _ := rfl
  foreign k c _ there := by simp [RenderLoop.start] at there

theorem put_other (threads : D.Threads perform loop₁ loop₂) {k : ProxyHandle} (other : k ≠ D.proxy)
    {c : Context (backend report) φ} (foreign : D.Foreign c) (next : LayerHandle) :
    D.Threads perform ⟨loop₁.contexts.insert k c, next⟩ loop₂ where
  own := by simpa only [Table.get?_insert, if_neg other] using threads.own
  alone := threads.alone
  foreign k' c' different there := by
    rw [Table.get?_insert] at there
    split at there
    · exact Option.some.inj there ▸ foreign
    · exact threads.foreign k' c' different there

theorem drop_other (threads : D.Threads perform loop₁ loop₂) {k : ProxyHandle}
    (other : k ≠ D.proxy) :
    D.Threads perform { loop₁ with contexts := loop₁.contexts.erase k } loop₂ where
  own := by simpa only [Table.get?_erase, if_neg other] using threads.own
  alone := threads.alone
  foreign k' c' different there := by
    rw [Table.get?_erase] at there
    split at there
    · simp at there
    · exact threads.foreign k' c' different there

theorem put_own (threads : D.Threads perform loop₁ loop₂) {c₁ c₂ : Context (backend report) φ}
    (contexts : (D.correspondence perform).Contexts c₁ c₂) (next₁ next₂ : LayerHandle) :
    D.Threads perform ⟨loop₁.contexts.insert D.proxy c₁, next₁⟩
      ⟨loop₂.contexts.insert D.proxy c₂, next₂⟩ where
  own := by simpa [Table.get?_insert] using contexts
  alone k other := by simpa [Table.get?_insert, Ne.symm other] using threads.alone k other
  foreign k c other there := by
    refine threads.foreign k c other ?_
    simpa [Table.get?_insert, Ne.symm other] using there

theorem drop_own (threads : D.Threads perform loop₁ loop₂) :
    D.Threads perform { loop₁ with contexts := loop₁.contexts.erase D.proxy }
      { loop₂ with contexts := loop₂.contexts.erase D.proxy } where
  own := by simp [Table.get?_erase]
  alone k other := by simpa [Table.get?_erase, Ne.symm other] using threads.alone k other
  foreign k c other there := by
    refine threads.foreign k c other ?_
    simpa [Table.get?_erase, Ne.symm other] using there

theorem unknown (threads : D.Threads perform loop₁ loop₂)
    (unknown : loop₁.contexts.get? D.proxy = none) : loop₂.contexts.get? D.proxy = none := by
  have own := threads.own
  rw [unknown] at own
  cases found : loop₂.contexts.get? D.proxy with
  | none => rfl
  | some c =>
    rw [found] at own
    cases own

theorem canvases_eq_zero (threads : D.Threads perform loop₁ loop₂)
    (unknown : loop₁.contexts.get? D.proxy = none) : loop₂.canvases = 0 := by
  have none (k : ProxyHandle) : loop₂.contexts.get? k = none := by
    by_cases same : k = D.proxy
    · exact same ▸ threads.unknown unknown
    · exact threads.alone k same
  refine List.countP_eq_zero.2 fun e mem => ?_
  have there := Table.get?_of_mem mem
  simp [none] at there

/-! ### Envelopes of other proxies -/

section Other

variable {k : ProxyHandle}

theorem other_create (threads : D.Threads perform loop₁ loop₂) (agree : D.Agree d₁ d₂)
    (other : k ≠ D.proxy) (translucent : Bool) :
    (loop₁.create (host report invoke perform) k translucent).Ensures d₁ fun r d₁' =>
      D.Threads perform r.2 loop₂ ∧ D.Agree d₁' d₂ := by
  refine ensures_bind.2 ((createCanvas_agree agree translucent).mono fun made d₁' kept => ?_)
  have agree := kept.2.reported_left
  cases made with
  | error e => exact ensures_bind.2 ((Host.ensures_note _).2 (ensures_pure.2 ⟨threads, agree _⟩))
  | ok canvas =>
    refine ensures_bind.2 ((Host.ensures_note _).2 (ensures_pure.2 ⟨?_, agree _⟩))
    have unbound : canvas.surface = none := by simp [kept.1 canvas rfl]
    exact threads.put_other other (.ofCanvas k unbound) _

theorem other_run (threads : D.Threads perform loop₁ loop₂) (agree : D.Agree d₁ d₂)
    (other : k ≠ D.proxy) {command : Command Surface φ}
    (binds : ∀ s, command.Binds s → ¬D.mine s.number)
    (attaches : ∀ f, command.Attaches f → Sparing invoke D.part f) :
    (loop₁.run (host report invoke perform) k command).Ensures d₁ fun r d₁' =>
      D.Threads perform r.2 loop₂ ∧ D.Agree d₁' d₂ := by
  unfold RenderLoop.run
  split
  case h_1 =>
    refine ensures_bind.2 ((Host.ensures_note _).2 (ensures_pure.2 ⟨threads, ?_⟩))
    exact agree.reported_left _
  case h_2 c there =>
    have foreign := threads.foreign k c other there
    refine ensures_bind.2 ((foreign.dispatch agree binds attaches _).mono fun r d₁' kept => ?_)
    exact ensures_pure.2 ⟨threads.put_other other kept.1 _, kept.2⟩

theorem other_dispose (threads : D.Threads perform loop₁ loop₂) (agree : D.Agree d₁ d₂)
    (other : k ≠ D.proxy) :
    (loop₁.dispose (host report invoke perform) k).Ensures d₁ fun loop₁' d₁' =>
      D.Threads perform loop₁' loop₂ ∧ D.Agree d₁' d₂ := by
  unfold RenderLoop.dispose
  split
  case h_1 =>
    refine ensures_bind.2 ((Host.ensures_note _).2 (ensures_pure.2 ⟨threads, ?_⟩))
    exact agree.reported_left _
  case h_2 c there =>
    have foreign := threads.foreign k c other there
    refine ensures_bind.2 ((foreign.teardown agree).mono fun _ d₁' agree => ?_)
    exact ensures_pure.2 ⟨threads.drop_other other, agree⟩

/-- **An envelope of another proxy changes nothing of what is the proxy's own**, and is not answered
to it. -/
theorem other_serve (threads : D.Threads perform loop₁ loop₂) (agree : D.Agree d₁ d₂)
    (other : k ≠ D.proxy) {m : Message Surface φ}
    (binds : ∀ command s, m = .run command → command.Binds s → ¬D.mine s.number)
    (attaches : ∀ command f, m = .run command → command.Attaches f → Sparing invoke D.part f) :
    (loop₁.serve (host report invoke perform) (.message k m)).Ensures d₁ fun served d₁' =>
      ∃ loop₁' ack, served = .next loop₁' ack ∧ (∀ a, ack = some a → a.handle = k) ∧
        D.Threads perform loop₁' loop₂ ∧ D.Agree d₁' d₂ := by
  cases m with
  | create translucent =>
    refine ensures_bind.2 ((threads.other_create agree other translucent).mono fun r d₁' kept => ?_)
    exact ensures_pure.2 ⟨_, _, rfl, by rintro a ⟨⟩; rfl, kept⟩
  | run command =>
    refine ensures_bind.2 ((threads.other_run agree other (binds command · rfl)
      (attaches command · rfl)).mono fun r d₁' kept => ?_)
    refine ensures_pure.2 ⟨_, _, rfl, fun a answered => ?_, kept⟩
    obtain ⟨reply, -, rfl⟩ := Option.map_eq_some_iff.1 answered
    rfl
  | dispose =>
    refine ensures_bind.2 ((threads.other_dispose agree other).mono fun r d₁' kept => ?_)
    exact ensures_pure.2 ⟨_, _, rfl, by simp, kept⟩

end Other

/-! ### Envelopes of the proxy itself -/

/-- Both threads went on, if the layer that was made has the right name: the answer on the second
is the first one's with the new names. -/
def Steps (D : Domain report invoke π) (perform : τ → StateM ω Completion) (next : LayerHandle)
    (r₁ r₂ : Option Reply × RenderLoop (backend report) φ) : Prop :=
  (∀ handle, Reply.made r₁.1 = some handle → D.rename handle = next) →
    r₂.1 = r₁.1.map (Reply.rename D.rename) ∧ D.Threads perform r₁.2 r₂.2 ∧
      r₂.2.nextLayer = RenderLoop.layerAfter next r₁.1

theorem layerAfter_rename (ρ : LayerHandle → LayerHandle) (next : LayerHandle)
    (reply : Option Reply) :
    RenderLoop.layerAfter next (reply.map (Reply.rename ρ)) =
      RenderLoop.layerAfter next reply := by
  rcases reply with _ | (_ | _ | _ | _ | _ | (_ | _) | _ | _) <;> rfl

theorem own_run (threads : D.Threads perform loop₁ loop₂) {command : Command Surface φ}
    (binds : ∀ s, command.Binds s → D.mine s.number)
    (attaches : ∀ f, command.Attaches f → Confined invoke D.part f) :
    Simulates D.Agree (Steps D perform loop₂.nextLayer)
      (loop₁.run (host report invoke perform) D.proxy command)
      (loop₂.run (host report invoke perform) D.proxy (command.rename D.rename)) := by
  have own := threads.own
  unfold RenderLoop.run
  generalize loop₁.contexts.get? D.proxy = c₁ at own
  generalize loop₂.contexts.get? D.proxy = c₂ at own
  cases own with
  | none =>
    rw [command.rename_name]
    refine ((D.correspondence perform).hostNote_simulates _ _ _).bind fun _ _ _ => ?_
    exact simulates_pure fun _ => ⟨rfl, threads, rfl⟩
  | some contexts =>
    have supports : (D.correspondence perform).Supports loop₁.nextLayer loop₂.nextLayer command :=
      supports binds attaches _ _
    refine (Correspondence.dispatch_simulates contexts supports).bind ?_
    rintro ⟨reply, c₁⟩ ⟨reply', c₂⟩ answers
    refine simulates_pure fun named => ?_
    obtain ⟨rfl, contexts⟩ := answers named
    exact ⟨rfl, threads.put_own contexts _ _, layerAfter_rename _ _ _⟩

theorem own_dispose (threads : D.Threads perform loop₁ loop₂) :
    Simulates D.Agree
      (fun loop₁' loop₂' => D.Threads perform loop₁' loop₂' ∧ loop₂'.nextLayer = loop₂.nextLayer)
      (loop₁.dispose (host report invoke perform) D.proxy)
      (loop₂.dispose (host report invoke perform) D.proxy) := by
  have own := threads.own
  unfold RenderLoop.dispose
  generalize loop₁.contexts.get? D.proxy = c₁ at own
  generalize loop₂.contexts.get? D.proxy = c₂ at own
  cases own with
  | none =>
    refine ((D.correspondence perform).hostNote_simulates _ _ _).bind fun _ _ _ => ?_
    exact simulates_pure ⟨threads, rfl⟩
  | some contexts =>
    refine (Correspondence.teardown_simulates (Pairing.destroysLayers _) destroysCanvases
      contexts).bind fun _ _ _ => simulates_pure ⟨threads.drop_own, rfl⟩

variable {config : Config} {n : Nat}

/-- The proxy's context is made beside others: then there is room for it alone, too. -/
theorem own_create (threads : D.Threads perform loop₁ loop₂) (agree : D.Agree d₁ d₂)
    (census₁ : Census config (n + loop₁.canvases) d₁)
    (census₂ : Census config (n + loop₂.canvases) d₂)
    (unknown : loop₁.contexts.get? D.proxy = none) (translucent : Bool) :
    (loop₁.create (host report invoke perform) D.proxy translucent).Ensures d₁ fun r d₁' =>
      r.1 = .ok () → ∃ loop₂' d₂',
        (loop₂.create (host report invoke perform) D.proxy translucent).runOn d₂ =
          (.ok (.ok (), loop₂'), d₂') ∧
        D.Threads perform r.2 loop₂' ∧ loop₂'.nextLayer = loop₂.nextLayer ∧ D.Agree d₁' d₂' := by
  rw [threads.canvases_eq_zero unknown] at census₂
  refine ensures_bind.2 fun made₁ d₁' run₁ => ?_
  have counted := createCanvas_census census₁ translucent _ _ run₁
  obtain ⟨made, agree⟩ := createCanvas_agree agree translucent _ _ run₁
  cases made₁ with
  | error e => exact ensures_bind.2 ((Host.ensures_note _).2 (ensures_pure.2 (by simp)))
  | ok canvas₁ =>
    refine ensures_bind.2 ((Host.ensures_note _).2 (ensures_pure.2 fun _ => ?_))
    have room : ¬config.reached n := by
      obtain ⟨e, same, -⟩ | ⟨_, -, room, -⟩ := counted
      · simp at same
      · rintro ⟨most, configured, full⟩
        exact room ⟨most, configured, Nat.le_add_right_of_le full⟩
    -- alone, the canvas is made as well
    obtain ⟨made₂, d₂', run₂⟩ := createCanvas_returns translucent d₂
    obtain ⟨e, -, full, -⟩ | ⟨canvas₂, rfl, -, -⟩ :=
      createCanvas_census census₂ translucent _ _ run₂
    · exact absurd full room
    obtain ⟨made', agree'⟩ := createCanvas_agree agree.symm translucent _ _ run₂
    obtain rfl := made canvas₁ rfl
    obtain rfl := made' canvas₂ rfl
    let told := s!"context {D.proxy.text} created (translucent={translucent})"
    refine ⟨_, _, ?_, threads.put_own (.ofCanvas D.proxy (.unbound rfl)) _ loop₂.nextLayer, rfl,
      agree'.symm.reported _ ⟨.debug, .thread, told⟩⟩
    unfold RenderLoop.create
    rw [runOn_bind, run₂]
    rfl

end Threads

end Domain

end Headless

end RenderRelay

import Mathlib.Data.List.Nodup
import RenderRelay.Proofs.Correspondence.Invariant
import RenderRelay.Proofs.Custody.Holding
import RenderRelay.Proofs.Turns

/-!
Whose the names are. A context knows the layers that its own proxy was told of and the callbacks
that it attached; a name is told once, and once a context has lost a layer it never knows the name
again.
What a context does not know, a command that names it leaves as it was.
-/

namespace RenderRelay

open DeviceOp

variable {σ φ τ : Type} {B : Backend σ} {H : Host B φ τ}

/-! ### Names that are told -/

/-- The layer that a proxy is told of, and whose it is. -/
def Acknowledgement.issued? (ack : Acknowledgement) : Option (ProxyHandle × LayerHandle) :=
  (Reply.made (some ack.reply)).map (ack.handle, ·)

def Acknowledgement.issued (acks : List Acknowledgement) : List (ProxyHandle × LayerHandle) :=
  acks.filterMap issued?

theorem Acknowledgement.issued_append (acks acks' : List Acknowledgement) :
    issued (acks ++ acks') = issued acks ++ issued acks' :=
  List.filterMap_append

theorem Acknowledgement.issued_reply (h : ProxyHandle) (reply : Option Reply) :
    issued (reply.map (⟨h, ·⟩)).toList = (Reply.made reply).toList.map (h, ·) := by
  cases reply with
  | none => rfl
  | some reply =>
    unfold issued
    cases made : Reply.made (some reply) <;> simp [issued?, made]

theorem Acknowledgement.mem_issued {h : ProxyHandle} {handle : LayerHandle}
    {acks : List Acknowledgement} :
    (h, handle) ∈ issued acks ↔ ⟨h, .layer (.ok handle)⟩ ∈ acks := by
  unfold issued
  rw [List.mem_filterMap]
  constructor
  · rintro ⟨⟨k, reply⟩, mem, issued⟩
    obtain ⟨handle', made, same⟩ := Option.map_eq_some_iff.1 issued
    obtain ⟨rfl, rfl⟩ := Prod.mk.inj same
    rcases reply with _ | _ | _ | _ | _ | (e | handle'') | _ | _ <;> simp [Reply.made] at made
    subst made
    exact mem
  · exact fun mem => ⟨_, mem, rfl⟩

namespace RenderLoop

/-- The context of a proxy has a layer of this name. -/
def HasLayer (loop : RenderLoop B φ) (h : ProxyHandle) (handle : LayerHandle) : Prop :=
  ∃ c, loop.contexts.get? h = some c ∧ handle ∈ c.registry.layers.keys

/-- Whoever knows a name was told it, and nobody was told it twice. -/
structure Titled (told : List (ProxyHandle × LayerHandle)) (loop : RenderLoop B φ) : Prop where
  known : ∀ h handle, loop.HasLayer h handle → (h, handle) ∈ told
  old : ∀ e ∈ told, e.2.number < loop.nextLayer.number
  nodup : (told.map Prod.snd).Nodup

variable {loop loop' : RenderLoop B φ} {envelope : Envelope σ φ τ} {ack : Option Acknowledgement}
  {told : List (ProxyHandle × LayerHandle)} {h : ProxyHandle} {handle : LayerHandle}

theorem Titled.start (nextLayer : LayerHandle) :
    (.start nextLayer : RenderLoop B φ).Titled [] where
  known := by
    rintro h handle ⟨c, there, -⟩
    simp [RenderLoop.start] at there
  old := by simp
  nodup := .nil

theorem Titled.later (titled : loop.Titled told) (others : Nat) :
    (loop.later others).Titled told where
  known := titled.known
  old e mem := Nat.lt_of_lt_of_le (titled.old e mem) (Nat.le_add_right _ _)
  nodup := titled.nodup

/-- A name that a context learns is the one that its proxy is told. -/
theorem Serves.hasLayer (serves : Serves H loop envelope (.next loop' ack))
    (known : loop'.HasLayer h handle) :
    loop.HasLayer h handle ∨
      (h, handle) ∈ Acknowledgement.issued ack.toList ∧ handle = loop.nextLayer := by
  obtain ⟨c, there, mem⟩ := known
  cases serves.source there with
  | before there => exact .inl ⟨c, there, mem⟩
  | made _ new =>
    subst new
    simp [Context.ofCanvas, Registry.empty, Table.keys, Table.empty] at mem
  | @obeyed command c₀ reply d d' _ before run told _ =>
    obtain ⟨evolves, fresh⟩ := Context.dispatch_evolves H c₀ loop.nextLayer command d _ _ run
    rcases evolves_keys evolves mem with mem | made
    · exact .inl ⟨c₀, before, mem⟩
    · refine .inr ⟨?_, fresh handle made⟩
      rw [told, Acknowledgement.issued_reply, show Reply.made reply = some handle from made]
      exact .head _

theorem Serves.issued (serves : Serves H loop envelope (.next loop' ack)) :
    Acknowledgement.issued ack.toList = [] ∨
      ∃ k, Acknowledgement.issued ack.toList = [(k, loop.nextLayer)] ∧
        loop'.nextLayer = loop.nextLayer.next := by
  cases serves with
  | @obeyed k command c₀ c₁ reply d d' before run =>
    have fresh := (Context.dispatch_evolves H c₀ loop.nextLayer command d _ _ run).2
    rw [Acknowledgement.issued_reply]
    cases made : Reply.made reply with
    | none => exact .inl rfl
    | some handle => exact .inr ⟨k, by simp [fresh handle made], layerAfter_of_made made⟩
  | _ => exact .inl rfl

/-- **Every envelope leaves the names with whom they were told to.** -/
theorem Titled.serves (titled : loop.Titled told)
    (serves : Serves H loop envelope (.next loop' ack)) :
    loop'.Titled (told ++ Acknowledgement.issued ack.toList) := by
  refine ⟨fun h handle known => ?_, ?_, ?_⟩
  · rcases serves.hasLayer known with known | issued
    · exact List.mem_append_left _ (titled.known h handle known)
    · exact List.mem_append_right _ issued.1
  · rintro ⟨k, handle⟩ mem
    rcases serves.issued with none | ⟨k', issued, next⟩
    · rw [none, List.append_nil] at mem
      exact Nat.lt_of_lt_of_le (titled.old _ mem) serves.le_nextLayer
    · rw [issued] at mem
      rw [next]
      rcases List.mem_append.1 mem with mem | mem
      · exact Nat.lt_succ_of_lt (titled.old _ mem)
      · obtain ⟨-, rfl⟩ := Prod.mk.inj (List.mem_singleton.1 mem)
        exact Nat.lt_succ_self _
  · rcases serves.issued with none | ⟨k', issued, -⟩
    · rw [none, List.append_nil]
      exact titled.nodup
    · rw [issued, List.map_append]
      refine List.nodup_append.2 ⟨titled.nodup, by simp, ?_⟩
      intro handle mem handle' mem' same
      obtain ⟨e, there, rfl⟩ := List.mem_map.1 mem
      have lt := titled.old e there
      rw [same, List.mem_singleton.1 mem'] at lt
      exact Nat.lt_irrefl _ lt

/-- **So does a list of envelopes.** -/
theorem serveAll_titled (titled : loop.Titled told) (turns : List (Turn σ φ τ)) (d : B.Device) :
    (serveAll H turns loop).Ensures d fun r _ =>
      ∀ loop', r.2 = some loop' → loop'.Titled (told ++ Acknowledgement.issued r.1) := by
  induction turns generalizing loop told d with
  | nil =>
    refine ensures_pure.2 ?_
    rintro loop' ⟨⟩
    simpa [Acknowledgement.issued] using titled
  | cons turn rest ih =>
    refine ensures_bind.2 ((serve_serves H _ turn.envelope d).mono fun served d' serves => ?_)
    cases served with
    | next loop₁ ack =>
      have titled := (titled.later turn.others).serves serves
      refine ensures_bind.2 ((ih titled d').mono fun r d'' ended => ensures_pure.2 ?_)
      rw [Acknowledgement.issued_append, ← List.append_assoc]
      exact ended
    | stopped => exact ensures_pure.2 (by simp)

/-- **A name that is not new is not learned.** -/
theorem serveAll_forgotten (turns : List (Turn σ φ τ)) (d : B.Device)
    (old : handle.number < loop.nextLayer.number) (unknown : ¬loop.HasLayer h handle) :
    (serveAll H turns loop).Ensures d fun r _ =>
      ∀ loop', r.2 = some loop' → ¬loop'.HasLayer h handle := by
  have kept := serveAll_ensures (H := H) turns (d := d)
    (P := fun _ loop _ => handle.number < loop.nextLayer.number ∧ ¬loop.HasLayer h handle)
    (Q := fun _ => True) (fun turn rest loop d holds => ?_) ⟨old, unknown⟩
  · exact kept.mono fun r d' kept loop' same => (kept.1 loop' same).2
  · obtain ⟨old, unknown⟩ := holds
    refine (serve_serves H _ turn.envelope d).mono fun served d' serves => ⟨?_, fun _ => trivial⟩
    rintro loop' ack rfl
    have old : handle.number < (loop.later turn.others).nextLayer.number :=
      Nat.lt_of_lt_of_le old (Nat.le_add_right _ _)
    refine ⟨Nat.lt_of_lt_of_le old serves.le_nextLayer, fun known => ?_⟩
    rcases serves.hasLayer known with known | ⟨-, rfl⟩
    · exact unknown known
    · exact Nat.lt_irrefl _ old

end RenderLoop

/-! ### Callbacks -/

/-- Nothing but a choice of the callbacks that may be attached. -/
def attachable (H : Host B φ τ) (allowed : FunctorId → φ → Prop) : Constraint H where
  device _ := True
  canvas _ := True
  layer _ _ := True
  surface _ := True
  callback := allowed
  report _ _ _ := trivial
  invoke _ _ _ _ _ _ _ := trivial
  bindSurface _ _ _ _ _ _ _ := .of_forall fun _ _ => ⟨trivial, trivial⟩
  unbindSurface _ _ _ _ := .of_forall fun _ _ => ⟨trivial, trivial⟩
  resize _ _ _ _ _ := .of_forall fun _ _ => ⟨trivial, trivial⟩
  beginFrame _ _ _ _ _ := .of_forall fun _ _ => ⟨trivial, trivial⟩
  drawOp _ _ _ _ := .of_forall fun _ _ => trivial
  flush _ _ _ := .of_forall fun _ _ => trivial
  endFrame _ _ _ _ _ := .of_forall fun _ _ => ⟨trivial, trivial⟩
  beginLayerFrame _ _ _ _ _ := .of_forall fun _ _ => ⟨trivial, trivial⟩
  endLayerFrame _ _ _ _ _ _ := .of_forall fun _ _ => ⟨trivial, trivial⟩
  drawLayer _ _ _ _ _ _ _ _ := .of_forall fun _ _ => trivial
  copyLayer _ _ _ _ _ := .of_forall fun _ _ => trivial
  trimCaches _ _ _ _ := .of_forall fun _ _ => ⟨trivial, trivial⟩

theorem attachable_createsLayers (allowed : FunctorId → φ → Prop) (fresh : LayerHandle) :
    (attachable H allowed).correspondence.CreatesLayers fresh fresh where
  create size := by
    rintro d _ ⟨rfl, -⟩ made d' run
    refine ⟨made, d', run, ?_, rfl, trivial⟩
    cases made with
    | error e => exact .error e
    | ok layer => exact .ok ⟨rfl, trivial⟩
  report := by
    rintro level reporter text d _ ⟨rfl, -⟩
    exact ⟨rfl, trivial⟩

theorem attachable_supports (allowed : FunctorId → φ → Prop) (fresh : LayerHandle)
    {command : Command σ φ}
    (attached : ∀ functor, command = .attachFunctor functor →
      allowed functor.id functor.callback) :
    (attachable H allowed).correspondence.Supports fresh fresh command := by
  have ends {α : Type} (op : DeviceOp B.Device α) :
      Simulates (attachable H allowed).correspondence.device (fun _ _ => True) op op := by
    rintro d _ ⟨rfl, -⟩ a d' run
    exact ⟨a, d', run, trivial, rfl, trivial⟩
  cases command with
  | bindSurface s => trivial
  | updateSurface s => exact fun _ _ => trivial
  | attachFunctor functor => exact attached functor rfl
  | createLayer size => exact attachable_createsLayers allowed fresh
  | destroyLayer layer =>
    rintro handle layer _ ⟨rfl, -⟩
    exact ends _
  | destroy full =>
    refine fun _ => ⟨?_, ?_⟩
    · rintro handle layer _ ⟨rfl, -⟩
      exact ends _
    · rintro canvas _ ⟨rfl, -⟩
      exact ends _
  | _ => trivial

/-- **A callback comes into a context by the command that attaches it.** -/
theorem Context.dispatch_callbacks (c : Context B φ) (fresh : LayerHandle) (command : Command σ φ)
    (d : B.Device) :
    (c.dispatch H fresh command).Ensures d fun r _ =>
      ∀ id f, r.2.registry.functors.get? id = some f →
        c.registry.functors.get? id = some f ∨ command = .attachFunctor ⟨id, f⟩ := by
  intro r d' run
  have fits : (attachable H fun id f => c.registry.functors.get? id = some f ∨
      command = .attachFunctor ⟨id, f⟩).Fits c :=
    ⟨fun _ _ => trivial, fun _ _ => trivial, fun _ _ there => .inl there⟩
  have supports := attachable_supports (H := H) (fun id f => c.registry.functors.get? id = some f ∨
    command = .attachFunctor ⟨id, f⟩) fresh fun _ same => .inr same
  have named := (dispatch_evolves H c fresh command d r d' run).2
  exact ((Constraint.dispatch_fits fits supports trivial r d' run).1 named).callbacks

namespace RenderLoop

/-- The context of a proxy has this callback under this id. -/
def HasCallback (loop : RenderLoop B φ) (h : ProxyHandle) (id : FunctorId) (f : φ) : Prop :=
  ∃ c, loop.contexts.get? h = some c ∧ c.registry.functors.get? id = some f

theorem Serves.hasCallback {loop loop' : RenderLoop B φ} {envelope : Envelope σ φ τ}
    {ack : Option Acknowledgement} {h : ProxyHandle} {id : FunctorId} {f : φ}
    (serves : Serves H loop envelope (.next loop' ack)) (has : loop'.HasCallback h id f) :
    loop.HasCallback h id f ∨ envelope = .message h (.run (.attachFunctor ⟨id, f⟩)) := by
  obtain ⟨c, there, found⟩ := has
  cases serves.source there with
  | before there => exact .inl ⟨c, there, found⟩
  | made _ new =>
    subst new
    simp [Context.ofCanvas, Registry.empty] at found
  | @obeyed command c₀ reply d d' sent before run _ _ =>
    rcases Context.dispatch_callbacks c₀ _ command d _ _ run id f found with found | rfl
    · exact .inl ⟨c₀, before, found⟩
    · exact .inr sent

/-- **A context has no callbacks but those that its own proxy attaches.** -/
theorem serveAll_attached {turns : List (Turn σ φ τ)} {loop : RenderLoop B φ} {h : ProxyHandle}
    {id : FunctorId} {f : φ} (d : B.Device) (unknown : ¬loop.HasCallback h id f)
    (unsent : ∀ turn ∈ turns, turn.envelope ≠ .message h (.run (.attachFunctor ⟨id, f⟩))) :
    (serveAll H turns loop).Ensures d fun r _ =>
      ∀ loop', r.2 = some loop' → ¬loop'.HasCallback h id f := by
  have kept := serveAll_ensures (H := H) turns (d := d)
    (P := fun rest loop _ => ¬loop.HasCallback h id f ∧
      ∀ turn ∈ rest, turn.envelope ≠ .message h (.run (.attachFunctor ⟨id, f⟩)))
    (Q := fun _ => True) (fun turn rest loop d holds => ?_) ⟨unknown, unsent⟩
  · exact kept.mono fun r d' kept loop' same => (kept.1 loop' same).1
  · obtain ⟨unknown, unsent⟩ := holds
    refine (serve_serves H _ turn.envelope d).mono fun served d' serves => ⟨?_, fun _ => trivial⟩
    rintro loop' ack rfl
    refine ⟨fun has => ?_, fun turn mem => unsent turn (.tail _ mem)⟩
    rcases serves.hasCallback has with has | sent
    · exact unknown has
    · exact unsent turn (.head _) sent

end RenderLoop

/-! ### Names that are not known -/

def Host.reported (H : Host B φ τ) (records : List LogRecord) (d : B.Device) : B.Device :=
  records.foldl (fun d record => H.report record d) d

namespace Context

def Ignores (H : Host B φ τ) (c : Context B φ) (fresh : LayerHandle) (command : Command σ φ) :
    Prop :=
  ∀ d, ∃ records, (c.dispatch H fresh command).runOn d = (.ok (none, c), H.reported records d)

def Passes (H : Host B φ τ) (registry : Registry B.Layer φ) (item : DrawItem) : Prop :=
  ∀ name list target frame d, ∃ records,
    (drawItem H name registry list target frame item).runOn d = (.ok frame, H.reported records d)

/-- The name of a layer does nothing in a context: it cannot be updated, destroyed or drawn, and a
copy of it fails, once the updates that wait are carried out. -/
structure IgnoresLayer (H : Host B φ τ) (c : Context B φ) (fresh layer : LayerHandle) : Prop where
  push : ∀ list, c.Ignores H fresh (.pushLayerUpdate layer list)
  destroy : c.Ignores H fresh (.destroyLayer layer)
  copy : ∀ d, (c.dispatch H fresh (.copyLayer layer)).runOn d =
    (do
      note H c.name .trace "copy_layer"
      let c ← c.applyLayerUpdates H
      return (some (Reply.pixels (.error .invalidHandle)), c)).runOn d
  draw : ∀ dst clip, Passes H c.registry ⟨.layer layer dst, clip⟩

/-- The id of a callback does nothing in a context. -/
structure IgnoresFunctor (H : Host B φ τ) (c : Context B φ) (fresh : LayerHandle) (id : FunctorId) :
    Prop where
  detach : c.Ignores H fresh (.detachFunctor id)
  draw : ∀ clip, Passes H c.registry ⟨.functor id, clip⟩

variable {c : Context B φ} {fresh : LayerHandle}

/-- A command that is reported, found to name nothing, and reported once more. -/
theorem ignores_of_note {command : Command σ φ} (text : String)
    (noted : c.execute H fresh command = (do note H c.name .debug text; return (none, c))) :
    c.Ignores H fresh command := by
  intro d
  refine ⟨[⟨.trace, .context, s!"[{c.name}] {command.name}"⟩,
    ⟨.debug, .context, s!"[{c.name}] {text}"⟩], ?_⟩
  unfold dispatch
  rw [noted]
  rfl

theorem passes_of_note {registry : Registry B.Layer φ} {item : DrawItem} (text : String)
    (noted : ∀ name list target frame, drawItem H name registry list target frame item =
      (do note H name .trace text; return frame)) :
    Passes H registry item := by
  intro name list target frame d
  refine ⟨[⟨.trace, .context, s!"[{name}] {text}"⟩], ?_⟩
  rw [noted]
  rfl

/-- **The name of a layer that a context does not know does nothing there.** -/
theorem ignoresLayer {layer : LayerHandle} (unknown : c.registry.layers.get? layer = none) :
    c.IgnoresLayer H fresh layer where
  push list := ignores_of_note s!"update for unknown {layer.text} dropped"
    (by simp [execute, Registry.queueUpdate?, Table.contains, unknown])
  destroy := ignores_of_note s!"destroy of unknown {layer.text} ignored"
    (by simp [execute, unknown])
  copy d := by
    unfold dispatch execute
    rw [runOn_bind, runOn_bind]
    simp only [note, Host.note, runOn_modify, Command.name, runOn_bind]
    rcases run : (c.applyLayerUpdates H).runOn _ with ⟨fault | c', d'⟩
    · rfl
    · have stays := applyLayerUpdates_stays H c _ c' d' run
      have unknown' : c'.registry.layers.get? layer = none := by
        rw [Table.get?_eq_none_iff] at unknown ⊢
        exact mt stays.layers.mem_iff.1 unknown
      simp only [unknown']
  draw dst clip := passes_of_note s!"{layer.text} unknown; skipped" fun _ _ _ _ => by
    simp only [drawItem, unknown]

theorem ignoresFunctor {id : FunctorId} (unknown : c.registry.functors.get? id = none) :
    c.IgnoresFunctor H fresh id where
  detach := ignores_of_note s!"{id.text} was not attached"
    (by simp [execute, Registry.detach?, Table.contains, unknown])
  draw clip := passes_of_note s!"{id.text} not attached; skipped" fun _ _ _ _ => by
    simp only [drawItem, unknown]

end Context

/-! ### Names that were given up -/

def Command.DropsLayer (layer : LayerHandle) : Command σ φ → Prop
  | destroyLayer gone => gone = layer
  | destroy full => full = true
  | _ => False

def Command.DropsFunctor (id : FunctorId) : Command σ φ → Prop
  | detachFunctor gone => gone = id
  | destroy full => full = true
  | _ => False

namespace Context

variable {c : Context B φ} {fresh : LayerHandle} {command : Command σ φ}

theorem dispatch_dropsLayer {layer : LayerHandle} (drops : command.DropsLayer layer)
    (d : B.Device) :
    (c.dispatch H fresh command).Ensures d fun r _ => r.2.registry.layers.get? layer = none := by
  refine ensures_bind.2 ((ensures_note H).2 ?_)
  cases command with
  | destroyLayer gone =>
    obtain rfl : gone = layer := drops
    simp only [execute]
    split
    case h_1 entry found =>
      refine ensures_bind.2 (.of_forall fun _ _ => ensures_pure.2 ?_)
      simp [Registry.removeLayer, Table.get?_erase]
    case h_2 unknown => exact ensures_bind.2 ((ensures_note H).2 (ensures_pure.2 unknown))
  | destroy full =>
    obtain rfl : full = true := drops
    refine ensures_bind.2 ((destroy_registry H c _).mono fun c' _ emptied => ensures_pure.2 ?_)
    rw [emptied]
    exact Table.get?_empty _
  | _ => exact drops.elim

theorem dispatch_dropsFunctor {id : FunctorId} (drops : command.DropsFunctor id) (d : B.Device) :
    (c.dispatch H fresh command).Ensures d fun r _ => r.2.registry.functors.get? id = none := by
  refine ensures_bind.2 ((ensures_note H).2 ?_)
  cases command with
  | detachFunctor gone =>
    obtain rfl : gone = id := drops
    simp only [execute]
    split
    case h_1 registry detached =>
      obtain rfl := Registry.eq_of_detach? detached
      exact ensures_pure.2 (by simp [Table.get?_erase])
    case h_2 unknown =>
      refine ensures_bind.2 ((ensures_note H).2 (ensures_pure.2 ?_))
      unfold Registry.detach? at unknown
      split at unknown
      case isTrue => simp at unknown
      case isFalse absent => simpa [Table.contains] using absent
  | destroy full =>
    obtain rfl : full = true := drops
    refine ensures_bind.2 ((destroy_registry H c _).mono fun c' _ emptied => ensures_pure.2 ?_)
    rw [emptied]
    exact Table.get?_empty _
  | _ => exact drops.elim

end Context

namespace RenderLoop

theorem Serves.layer_gone {loop loop' : RenderLoop B φ} {ack : Option Acknowledgement}
    {h : ProxyHandle} {command : Command σ φ} {layer : LayerHandle}
    (serves : Serves (τ := τ) H loop (.message h (.run command)) (.next loop' ack))
    (drops : command.DropsLayer layer) : ¬loop'.HasLayer h layer := by
  rintro ⟨c, there, mem⟩
  cases serves with
  | @obeyed _ _ c₀ c₁ reply d d' before run =>
    rw [Table.get?_insert, if_pos rfl] at there
    obtain rfl := Option.some.inj there
    exact Table.get?_eq_none_iff.1 (Context.dispatch_dropsLayer drops d _ _ run) mem
  | dropped unknown => simp [unknown] at there

theorem Serves.callback_gone {loop loop' : RenderLoop B φ} {ack : Option Acknowledgement}
    {h : ProxyHandle} {command : Command σ φ} {id : FunctorId}
    (serves : Serves (τ := τ) H loop (.message h (.run command)) (.next loop' ack))
    (drops : command.DropsFunctor id) (f : φ) : ¬loop'.HasCallback h id f := by
  rintro ⟨c, there, found⟩
  cases serves with
  | @obeyed _ _ c₀ c₁ reply d d' before run =>
    rw [Table.get?_insert, if_pos rfl] at there
    obtain rfl := Option.some.inj there
    simp [Context.dispatch_dropsFunctor drops d _ _ run] at found
  | dropped unknown => simp [unknown] at there

/-! ### What a context knows in the end -/

section Known

variable {turns before after : List (Turn σ φ τ)} {nextLayer : LayerHandle}
  {loop loop' : RenderLoop B φ} {d d' d'' : B.Device} {acks acks' : List Acknowledgement}
  {h k : ProxyHandle} {c : Context B φ} {layer : LayerHandle} {id : FunctorId} {other : Nat}

theorem layer_unknown (there : loop.contexts.get? h = some c) (unknown : ¬loop.HasLayer h layer) :
    c.registry.layers.get? layer = none :=
  Table.get?_eq_none_iff.2 fun mem => unknown ⟨c, there, mem⟩

theorem callback_unknown (there : loop.contexts.get? h = some c)
    (unknown : ∀ f, ¬loop.HasCallback h id f) : c.registry.functors.get? id = none :=
  Option.eq_none_iff_forall_ne_some.2 fun f found => unknown f ⟨c, there, found⟩

theorem unknown_of_other
    (run : (serveAll H turns (.start nextLayer)).runOn d = (.ok (acks, some loop), d'))
    (there : loop.contexts.get? h = some c) (told : ⟨k, .layer (.ok layer)⟩ ∈ acks)
    (other : k ≠ h) : c.registry.layers.get? layer = none := by
  have titled := serveAll_titled (H := H) (.start nextLayer) turns d _ _ run loop rfl
  refine layer_unknown there fun has => other ?_
  have own := titled.known h layer has
  have others := Acknowledgement.mem_issued.2 told
  exact congrArg Prod.fst (List.inj_on_of_nodup_map titled.nodup others own rfl)

theorem unknown_of_destroyed {command : Command σ φ} (drops : command.DropsLayer layer)
    (run : (serveAll H (before ++ ⟨other, .message h (.run command)⟩ :: after)
      (.start nextLayer)).runOn d = (.ok (acks, some loop), d'))
    (first : (serveAll H before (.start nextLayer)).runOn d = (.ok (acks', some loop'), d''))
    (told : ⟨k, .layer (.ok layer)⟩ ∈ acks') (there : loop.contexts.get? h = some c) :
    c.registry.layers.get? layer = none := by
  obtain ⟨middle, acks₁, d₁, acks₂, first', second, -⟩ := serveAll_append run
  obtain ⟨⟨rfl, rfl⟩, rfl⟩ : (acks' = acks₁ ∧ loop' = middle) ∧ d'' = d₁ := by
    simpa [first] using first'
  have titled := serveAll_titled (H := H) (.start nextLayer) before d _ _ first loop' rfl
  have old := (titled.later other).old _ (Acknowledgement.mem_issued.2 told)
  obtain ⟨loop₁, ack, d₂, acks₃, served, rest, -⟩ := serveAll_cons.1 second
  have serves := serve_serves _ _ _ _ _ _ served
  have old₁ := Nat.lt_of_lt_of_le old serves.le_nextLayer
  exact layer_unknown there
    (serveAll_forgotten after d₂ old₁ (serves.layer_gone drops) _ _ rest loop rfl)

theorem unknown_of_unattached
    (run : (serveAll H turns (.start nextLayer)).runOn d = (.ok (acks, some loop), d'))
    (there : loop.contexts.get? h = some c)
    (unsent : ∀ f, ∀ turn ∈ turns, turn.envelope ≠ .message h (.run (.attachFunctor ⟨id, f⟩))) :
    c.registry.functors.get? id = none := by
  refine callback_unknown there fun f => ?_
  refine serveAll_attached d ?_ (unsent f) _ _ run loop rfl
  rintro ⟨c, there, -⟩
  simp [RenderLoop.start] at there

/-- A callback that was detached is not known until it is attached again. -/
theorem unknown_of_detached {command : Command σ φ} (drops : command.DropsFunctor id)
    (run : (serveAll H (before ++ ⟨other, .message h (.run command)⟩ :: after)
      (.start nextLayer)).runOn d = (.ok (acks, some loop), d'))
    (there : loop.contexts.get? h = some c)
    (unsent : ∀ f, ∀ turn ∈ after, turn.envelope ≠ .message h (.run (.attachFunctor ⟨id, f⟩))) :
    c.registry.functors.get? id = none := by
  obtain ⟨middle, acks₁, d₁, acks₂, -, second, -⟩ := serveAll_append run
  obtain ⟨loop₁, ack, d₂, acks₃, served, rest, -⟩ := serveAll_cons.1 second
  have serves := serve_serves _ _ _ _ _ _ served
  refine callback_unknown there fun f => ?_
  exact serveAll_attached d₂ (serves.callback_gone drops f) (unsent f) _ _ rest loop rfl

end Known

end RenderLoop

end RenderRelay

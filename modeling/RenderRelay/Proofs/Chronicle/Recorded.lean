import Mathlib.Data.Set.Card
import RenderRelay.Backend.Headless
import RenderRelay.Proofs.Chronicle.Inventory

/-!
The registry of a context is the fold of its chronicle, whatever the backend: every command does to
it what one act more does to the fold (`dispatch_inventory`). So of every context that commands
were carried out on, all that its registry holds can be read off those commands
(`registry_recounts_chronicle`).
-/

namespace RenderRelay

open DeviceOp

/-- A set with the elements of a list that has none twice. -/
theorem ncard_of_nodup {κ : Type} [DecidableEq κ] {l : List κ} (nodup : l.Nodup) {s : Set κ}
    (mem_iff : ∀ k, k ∈ l ↔ k ∈ s) : s.ncard = l.length := by
  have same : s = ↑l.toFinset := Set.ext fun k => by simp [mem_iff]
  rw [same, Set.ncard_coe_finset, List.toFinset_card_of_nodup nodup]

/-- The size of a table is the number of keys that have a value. -/
theorem Table.size_eq_ncard {κ α : Type} [DecidableEq κ] (t : Table κ α) :
    t.size = {k | (t.get? k).isSome}.ncard := by
  have mem_iff (k : κ) : k ∈ t.keys ↔ (t.get? k).isSome := by
    rw [← not_iff_not, Option.not_isSome_iff_eq_none, get?_eq_none_iff]
  exact ((ncard_of_nodup t.nodup mem_iff).trans (List.length_map _)).symm

namespace Registry

variable {Layer σ φ : Type}

/-- What a registry holds, apart from the pixels of its layers. -/
def inventory (r : Registry Layer φ) : Inventory φ where
  callbacks := r.functors.get?
  sizes handle := (r.layers.get? handle).map (·.size)
  waiting := r.pending
  last := r.lastDrawn

theorem inventory_attach (r : Registry Layer φ) (functor : Functor φ) (reply : Option Reply) :
    ((r.attach? functor.id functor.callback).getD r).inventory =
      r.inventory.after ((.attachFunctor functor : Command σ φ), reply) := by
  unfold attach? Table.contains
  cases there : r.functors.get? functor.id with
  | some callback =>
    refine Inventory.ext (funext fun id => ?_) rfl rfl rfl
    by_cases same : functor.id = id
    · subst same
      simp [inventory, Inventory.after, there]
    · simp [inventory, Inventory.after, Ne.symm same]
  | none =>
    refine Inventory.ext (funext fun id => ?_) rfl rfl rfl
    by_cases same : functor.id = id
    · subst same
      simp [inventory, Inventory.after, there, Table.get?_insert]
    · simp [inventory, Inventory.after, Table.get?_insert, same, Ne.symm same]

theorem inventory_detach (r : Registry Layer φ) (id : FunctorId) (reply : Option Reply) :
    ((r.detach? id).getD r).inventory =
      r.inventory.after ((.detachFunctor id : Command σ φ), reply) := by
  unfold detach? Table.contains
  cases there : r.functors.get? id with
  | some callback =>
    refine Inventory.ext (funext fun other => ?_) rfl rfl rfl
    by_cases same : id = other
    · subst same
      simp [inventory, Inventory.after, Table.get?_erase]
    · simp [inventory, Inventory.after, Table.get?_erase, same, Ne.symm same]
  | none =>
    refine Inventory.ext (funext fun other => ?_) rfl rfl rfl
    by_cases same : id = other
    · subst same
      simp [inventory, Inventory.after, there]
    · simp [inventory, Inventory.after, Ne.symm same]

theorem inventory_insertLayer (r : Registry Layer φ) (handle : LayerHandle)
    (entry : LayerEntry Layer) :
    (r.insertLayer handle entry).inventory =
      { r.inventory with sizes := Function.update r.inventory.sizes handle (some entry.size) } := by
  refine Inventory.ext rfl (funext fun other => ?_) rfl rfl
  by_cases same : handle = other
  · subst same
    simp [inventory, insertLayer, Table.get?_insert]
  · simp [inventory, insertLayer, Table.get?_insert, same, Ne.symm same]

theorem inventory_redrawn (r : Registry Layer φ) {handle : LayerHandle} {entry : LayerEntry Layer}
    (there : r.layers.get? handle = some entry) (layer : Layer) :
    ((r.takeLayer handle).insertLayer handle { entry with layer }).inventory = r.inventory := by
  refine Inventory.ext rfl (funext fun other => ?_) rfl rfl
  by_cases same : handle = other
  · subst same
    simp [inventory, insertLayer, takeLayer, Table.get?_insert, there]
  · simp [inventory, insertLayer, takeLayer, Table.get?_insert, Table.get?_erase, same]

theorem inventory_queueUpdate (r : Registry Layer φ) (handle : LayerHandle) (list : DisplayList)
    (reply : Option Reply) :
    ((r.queueUpdate? handle list).getD r).inventory =
      r.inventory.after ((.pushLayerUpdate handle list : Command σ φ), reply) := by
  unfold queueUpdate? Table.contains
  cases there : r.layers.get? handle <;> simp [inventory, Inventory.after, there]

theorem inventory_removeLayer (r : Registry Layer φ) {handle : LayerHandle}
    (there : (r.layers.get? handle).isSome) (reply : Option Reply) :
    (r.removeLayer handle).inventory =
      r.inventory.after ((.destroyLayer handle : Command σ φ), reply) := by
  have known : (r.inventory.sizes handle).isSome := by simpa [inventory] using there
  simp only [Inventory.after, known, if_true]
  refine Inventory.ext rfl (funext fun other => ?_) rfl rfl
  by_cases same : handle = other
  · subst same
    simp [inventory, removeLayer, Table.get?_erase]
  · simp [inventory, removeLayer, Table.get?_erase, same, Ne.symm same]

end Registry

namespace Context

variable {σ φ τ : Type} {B : Backend σ} (H : Host B φ τ)

/-! ### One command -/

theorem redrawLayer_inventory (c : Context B φ) (handle : LayerHandle) (list : DisplayList)
    (d : B.Device) :
    (c.redrawLayer H handle list).Ensures d fun c' _ =>
      c'.registry.inventory = c.registry.inventory := by
  unfold redrawLayer
  split
  case h_1 => exact ensures_pure.2 rfl
  case h_2 entry there =>
    have redrawn := fun layer => c.registry.inventory_redrawn there layer
    refine ensures_bind.2 (.of_forall fun begun d₁ => ?_)
    obtain ⟨fault | frame, layer⟩ := begun
    · exact ensures_bind.2 ((ensures_note H).2 (ensures_pure.2 (redrawn layer)))
    · refine ensures_bind.2 (.of_forall fun frame d₂ => ?_)
      exact ensures_bind.2 (.of_forall fun layer d₃ => ensures_pure.2 (redrawn layer))

theorem redrawLayers_inventory (updates : List LayerUpdate) (c : Context B φ) (d : B.Device) :
    (redrawLayers H updates c).Ensures d fun c' _ =>
      c'.registry.inventory = c.registry.inventory := by
  induction updates generalizing c d with
  | nil => exact ensures_pure.2 rfl
  | cons update rest ih =>
    refine ensures_bind.2 ((redrawLayer_inventory H c update.1 update.2 d).mono ?_)
    intro c₁ d₁ first
    exact (ih c₁ d₁).mono fun c₂ d₂ second => second.trans first

theorem applyLayerUpdates_inventory (c : Context B φ) (d : B.Device) :
    (c.applyLayerUpdates H).Ensures d fun c' _ =>
      c'.registry.inventory = { c.registry.inventory with waiting := [] } :=
  redrawLayers_inventory H _ _ d

theorem draw_inventory (c : Context B φ) (list : DisplayList) (damage : Damage) (d : B.Device) :
    (c.draw H list damage).Ensures d fun r _ =>
      r.2.registry.inventory = { c.registry.inventory with waiting := [], last := some list } := by
  refine ensures_bind.2 ((applyLayerUpdates_inventory H _ d).mono fun c₁ d₁ applied => ?_)
  refine ensures_bind.2 ((drawFrame_registry H c₁ list damage d₁).mono fun r d₂ same => ?_)
  refine ensures_pure.2 ?_
  change r.2.registry.inventory = _
  rw [same, applied]
  rfl

theorem createLayer_inventory (c : Context B φ) (fresh : LayerHandle) (size : Viewport)
    (d : B.Device) :
    (c.createLayer H fresh size).Ensures d fun r _ =>
      r.2.registry.inventory =
        c.registry.inventory.after ((.createLayer size : Command σ φ), some (.layer r.1)) := by
  unfold createLayer
  split
  · exact ensures_pure.2 rfl
  · refine ensures_bind.2 (.of_forall fun made d₁ => ?_)
    rcases made with e | layer
    · exact ensures_pure.2 rfl
    · refine ensures_bind.2 ((ensures_note H).2 (ensures_pure.2 ?_))
      exact c.registry.inventory_insertLayer fresh ⟨layer, size⟩

theorem destroy_inventory (c : Context B φ) (full : Bool) (reply : Option Reply) (d : B.Device) :
    (c.destroy H full).Ensures d fun c' _ =>
      c'.registry.inventory =
        c.registry.inventory.after ((.destroy full : Command σ φ), reply) := by
  cases full with
  | true =>
    refine (destroy_registry H c d).mono fun c' d' emptied => ?_
    rw [emptied]
    rfl
  | false =>
    rw [destroy_eq]
    split
    · exact ensures_bind.2 ((ensures_note H).2 (ensures_pure.2 rfl))
    · exact ensures_bind.2 (.of_forall fun canvas d₁ =>
        ensures_bind.2 ((ensures_note H).2 (ensures_pure.2 rfl)))

/-- **A command does to a registry what one act more does to the fold.** -/
theorem execute_inventory (c : Context B φ) (fresh : LayerHandle) (command : Command σ φ)
    (d : B.Device) :
    (c.execute H fresh command).Ensures d fun r _ =>
      r.2.registry.inventory = c.registry.inventory.after (command, r.1) := by
  -- the reply comes with the context that is left
  have replied {α : Type} {op : DeviceOp B.Device α} {reply : α → Option Reply}
      {context : α → Context B φ}
      (keeps : op.Ensures d fun a _ =>
        (context a).registry.inventory = c.registry.inventory.after (command, reply a)) :
      (op >>= fun a => pure (reply a, context a)).Ensures d fun r _ =>
        r.2.registry.inventory = c.registry.inventory.after (command, r.1) :=
    ensures_bind.2 (keeps.mono fun a d₁ kept => ensures_pure.2 kept)
  cases command with
  | bindSurface surface =>
    exact replied ((bind_registry H c _ d).mono fun r d₁ same => congrArg _ same)
  | updateSurface surface =>
    exact replied ((bind_registry H c _ d).mono fun r d₁ same => congrArg _ same)
  | setup viewport =>
    exact replied ((resize_registry H c _ d).mono fun r d₁ same => congrArg _ same)
  | draw list record => exact replied (draw_inventory H c list _ d)
  | repeatLastDraw =>
    simp only [execute]
    split
    case h_1 list last =>
      refine replied ((draw_inventory H c list _ d).mono fun r d₁ kept => ?_)
      refine kept.trans (Inventory.ext rfl rfl ?_ last.symm)
      simp [Registry.inventory, Inventory.after, last]
    case h_2 last =>
      refine replied ((ensures_note H).2 (Inventory.ext rfl rfl ?_ rfl))
      simp [Registry.inventory, Inventory.after, last]
  | destroy full => exact replied (destroy_inventory H c full _ d)
  | attachFunctor functor =>
    have attached := c.registry.inventory_attach (σ := σ) functor none
    simp only [execute]
    split
    case h_1 registry found => exact ensures_pure.2 (by simpa [found] using attached)
    case h_2 taken => exact replied ((ensures_note H).2 (by simpa [taken] using attached))
  | detachFunctor id =>
    have detached := c.registry.inventory_detach (σ := σ) id none
    simp only [execute]
    split
    case h_1 registry found => exact ensures_pure.2 (by simpa [found] using detached)
    case h_2 missing => exact replied ((ensures_note H).2 (by simpa [missing] using detached))
  | createLayer size => exact replied (createLayer_inventory H c fresh size d)
  | pushLayerUpdate layer list =>
    have queued := c.registry.inventory_queueUpdate (σ := σ) layer list none
    simp only [execute]
    split
    case h_1 registry found => exact ensures_pure.2 (by simpa [found] using queued)
    case h_2 missing => exact replied ((ensures_note H).2 (by simpa [missing] using queued))
  | flushLayerUpdates => exact replied (applyLayerUpdates_inventory H c d)
  | copyLayer layer =>
    refine ensures_bind.2 ((applyLayerUpdates_inventory H c d).mono fun c₁ d₁ applied => ?_)
    split
    · exact ensures_pure.2 applied
    · exact ensures_bind.2 (.of_forall fun pixels d₂ => ensures_pure.2 applied)
  | destroyLayer layer =>
    simp only [execute]
    split
    case h_1 entry there =>
      refine ensures_bind.2 (.of_forall fun _ d₁ => ensures_pure.2 ?_)
      exact c.registry.inventory_removeLayer (by simp [there]) none
    case h_2 missing =>
      refine replied ((ensures_note H).2 ?_)
      simp [Registry.inventory, Inventory.after, missing]
  | flushCaches =>
    simp only [execute]
    split
    · exact ensures_pure.2 rfl
    · exact ensures_bind.2 (.of_forall fun _ d₁ => ensures_pure.2 rfl)
  | setName name => exact replied ((ensures_note H).2 rfl)
  | dumpInfo => exact replied (ensures_get.2 rfl)
  | fence => exact ensures_pure.2 rfl

theorem dispatch_inventory (c : Context B φ) (fresh : LayerHandle) (command : Command σ φ)
    (d : B.Device) :
    (c.dispatch H fresh command).Ensures d fun r _ =>
      r.2.registry.inventory = c.registry.inventory.after (command, r.1) :=
  ensures_bind.2 ((ensures_note H).2 (execute_inventory H c fresh command _))

theorem dispatch_emptied (c : Context B φ) (fresh : LayerHandle) (d : B.Device) :
    (c.dispatch H fresh (.destroy true)).Ensures d fun r _ => r.2.registry = .empty :=
  ensures_bind.2 ((ensures_note H).2 (ensures_bind.2 ((destroy_registry H c _).mono
    fun _ _ emptied => ensures_pure.2 emptied)))

/-! ### Any number of commands -/

/-- A context with its chronicle: that of a new canvas, or what one more command makes of it on
whatever device others left. -/
inductive Reached : List (Act σ φ) → Context B φ → Prop
  | made (handle : ProxyHandle) (canvas : B.Canvas) : Reached [] (.ofCanvas handle canvas)
  | obeyed {told : List (Act σ φ)} {c c' : Context B φ} {d d' : B.Device} {reply : Option Reply}
      (reached : Reached told c) (fresh : LayerHandle) (command : Command σ φ)
      (run : (c.dispatch H fresh command).runOn d = (.ok (reply, c'), d')) :
      Reached ((command, reply) :: told) c'

variable {H} {told : List (Act σ φ)} {c : Context B φ}

theorem Reached.inventory (reached : c.Reached H told) : c.registry.inventory = .of told := by
  induction reached with
  | made => rfl
  | obeyed reached fresh command run ih =>
    rw [Inventory.of_cons, ← ih]
    exact dispatch_inventory H _ fresh command _ _ _ run

variable (H told c)

/-- All that a registry holds is as the chronicle tells, and so is what depends on it: a repeated
draw is one of the list that was drawn last, with full damage, and without such a list it counts a
skipped frame and leaves a report; nothing is left after a full destruction. -/
structure Chronicled : Prop where
  folded : c.registry.inventory = .of told
  attached : ∀ id, c.registry.functors.contains id =
    ((moments told).find? (·.names id)).any fun m => (m.attached? id).isSome
  callbacks : ∀ id, c.registry.functors.get? id = callbackOf told id
  sizes : ∀ handle, (c.registry.layers.get? handle).map (·.size) = sizeOf? told handle
  queued : Queued told c.registry.pending
  last : c.registry.lastDrawn = listToRepeat told
  repeated : ∀ list, listToRepeat told = some list → ∀ fresh,
    c.execute H fresh .repeatLastDraw = c.execute H fresh (.draw list (Damage.encode .whole))
  nothing : listToRepeat told = none → ∀ fresh d,
    (c.execute H fresh .repeatLastDraw).runOn d =
      (.ok (some (.drawn .skipped),
        { c with stats := { c.stats with skipped := c.stats.skipped + 1 } }),
        H.report ⟨.debug, .context, s!"[{c.name}] " ++ "nothing to repeat"⟩ d)
  counts : ∀ fresh d, ∃ info,
    (c.execute H fresh .dumpInfo).runOn d = (.ok (some (.info info), c), d) ∧
    info.functors = {id | (callbackOf told id).isSome}.ncard ∧
    info.layers = {handle | (sizeOf? told handle).isSome}.ncard ∧
    info.cachedLists =
      {handle | (waitingFor told handle).isSome}.ncard + (listToRepeat told).isSome.toNat
  emptied : ∀ reply past, told = (.destroy true, reply) :: past → c.registry = .empty

variable {H told c}

/-- **The registry is the fold of the command history.** After any commands, whatever others did to
the device meanwhile, each table of a context's registry is what its chronicle tells. -/
theorem registry_recounts_chronicle (reached : c.Reached H told) : c.Chronicled H told := by
  have folded := reached.inventory
  obtain ⟨callbacks, sizes, last, queued⟩ := recounts_of told
  rw [← folded] at callbacks sizes last queued
  change ∀ id, c.registry.functors.get? id = _ at callbacks
  change ∀ handle, (c.registry.layers.get? handle).map (·.size) = _ at sizes
  change c.registry.lastDrawn = _ at last
  change Queued told c.registry.pending at queued
  refine {
    folded, callbacks, sizes, last, queued
    attached := fun id => ?_
    repeated := fun list found fresh => ?_
    nothing := fun missing fresh d => ?_
    counts := fun fresh d => ⟨c.info d, rfl, ?_, ?_, ?_⟩
    emptied := ?_ }
  · rw [← isSome_callbackOf, ← callbacks, Table.contains]
  · rw [← last] at found
    simp [execute, found, Damage.encode, Damage.decode]
  · rw [← last] at missing
    simp only [execute, missing]
    rfl
  · simp only [← callbacks]
    exact c.registry.functors.size_eq_ncard
  · simp only [← sizes, Option.isSome_map]
    exact c.registry.layers.size_eq_ncard
  · have waiting := ncard_of_nodup queued.nodup fun handle => queued.mem_updated_iff
    change c.registry.cachedLists = _
    rw [← last, Registry.cachedLists, ← List.length_map, ← waiting]
    rfl
  · rintro reply past rfl
    cases reached with
    | obeyed reached fresh _ run => exact dispatch_emptied H _ fresh _ _ _ run

end Context

namespace Headless

/-- A callback is attached, a draw is skipped for want of a surface, and an update waits. -/
theorem registry_recounts_chronicle_one_layer :
    let list : DisplayList := ⟨⟨1⟩, [⟨.clear .black, none⟩]⟩
    let told : List (Act Surface Unit) :=
      [(.pushLayerUpdate ⟨1⟩ list, none), (.createLayer ⟨2, 1⟩, some (.layer (.ok ⟨1⟩))),
        (.draw list ⟨0, 0, 1, 1⟩, some (.drawn .skipped)), (.attachFunctor ⟨⟨1⟩, ()⟩, none)]
    ∃ c : Context (backend fun _ (_ : Unit) => ()) Unit,
      c.Reached idleHost told ∧ c.Chronicled idleHost told := by
  intro list told
  let device : Device Unit := .start .standard ()
  have made : Context.Reached idleHost ([] : List (Act Surface Unit))
      (.ofCanvas ⟨1⟩ ⟨false, none, none, .empty⟩) := .made _ _
  have attached := made.obeyed (d := device) ⟨1⟩ (.attachFunctor ⟨⟨1⟩, ()⟩) rfl
  have drawn := attached.obeyed (d := device) ⟨1⟩ (.draw list ⟨0, 0, 1, 1⟩) rfl
  have layer := drawn.obeyed (d := device) ⟨1⟩ (.createLayer ⟨2, 1⟩) rfl
  have pushed := layer.obeyed (d := device) ⟨2⟩ (.pushLayerUpdate ⟨1⟩ list) rfl
  exact ⟨_, pushed, Context.registry_recounts_chronicle pushed⟩

end Headless

end RenderRelay

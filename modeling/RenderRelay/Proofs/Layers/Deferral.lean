import Mathlib.Data.List.Induction
import Mathlib.Data.List.Nodup
import Mathlib.Data.List.TakeWhile
import RenderRelay.Proofs.Evolution
import RenderRelay.Proofs.Layers.Redraw

/-!
Layer updates that wait. A push that finds an update of its layer waiting takes that update's place
in the queue, so a queue carries out the last list for each layer in the order of the first ones.
`Settled` says when these lists then see the same layers as they do when each update is carried out
at once, and in that case nobody can tell the two apart (`deferral_unseen`). Otherwise they can be
told apart (`deferral_seen`).
-/

namespace RenderRelay

open DeviceOp Registry

/-- A layer and the list that it is to be drawn anew from. -/
abbrev LayerUpdate := LayerHandle × DisplayList

/-! ### Queues -/

abbrev updated (updates : List LayerUpdate) : List LayerHandle := updates.map Prod.fst

theorem updated_concat (updates : List LayerUpdate) (handle : LayerHandle) (list : DisplayList) :
    updated (updates ++ [(handle, list)]) = updated updates ++ [handle] :=
  List.map_append

theorem updated_around (before after : List LayerUpdate) (handle : LayerHandle)
    (list : DisplayList) :
    updated (before ++ (handle, list) :: after) = updated before ++ handle :: updated after :=
  List.map_append

/-- A queue after updates were pushed, one after the other. -/
def enqueueAll (queue updates : List LayerUpdate) : List LayerUpdate :=
  updates.foldl (fun queue update => enqueue update.1 update.2 queue) queue

theorem updated_enqueue (handle : LayerHandle) (list : DisplayList) (queue : List LayerUpdate) :
    updated (enqueue handle list queue) =
      if handle ∈ updated queue then updated queue else updated queue ++ [handle] := by
  induction queue with
  | nil => simp [enqueue, updated]
  | cons update rest ih =>
    by_cases same : update.1 = handle
    · simp [enqueue, updated, same]
    · simp only [updated] at ih
      simp only [enqueue, if_neg same, updated, List.map_cons, List.mem_cons, Ne.symm same, ih,
        false_or]
      split <;> rfl

theorem nodup_enqueue {handle : LayerHandle} {list : DisplayList} {queue : List LayerUpdate}
    (nodup : (updated queue).Nodup) : (updated (enqueue handle list queue)).Nodup := by
  rw [updated_enqueue]
  split
  case isTrue => exact nodup
  case isFalse new =>
    have concat : (updated queue).concat handle = updated queue ++ [handle] := List.concat_eq_append
    exact concat ▸ List.Nodup.concat new nodup

/-- What waits after a push is the list that was pushed, or it waited before. -/
theorem mem_enqueue {handle : LayerHandle} {list : DisplayList} {queue : List LayerUpdate}
    {update : LayerUpdate} (waits : update ∈ enqueue handle list queue) :
    update = (handle, list) ∨ update ∈ queue := by
  induction queue with
  | nil => exact .inl (List.mem_singleton.1 waits)
  | cons first rest ih =>
    unfold enqueue at waits
    split at waits
    case isTrue =>
      obtain rfl | waits := List.mem_cons.1 waits
      · exact .inl rfl
      · exact .inr (.tail _ waits)
    case isFalse =>
      obtain rfl | waits := List.mem_cons.1 waits
      · exact .inr (.head _)
      · exact (ih waits).imp_right (.tail _)

/-- The list that was pushed is the only one that waits for its layer. -/
theorem enqueue_replaces {handle : LayerHandle} {list : DisplayList} {queue : List LayerUpdate}
    (nodup : (updated queue).Nodup) {update : LayerUpdate}
    (waits : update ∈ enqueue handle list queue) (same : update.1 = handle) :
    update = (handle, list) := by
  induction queue with
  | nil => exact List.mem_singleton.1 waits
  | cons first rest ih =>
    obtain ⟨new, nodup⟩ : first.1 ∉ updated rest ∧ (updated rest).Nodup := List.nodup_cons.1 nodup
    unfold enqueue at waits
    split at waits
    case isTrue here =>
      obtain rfl | waits := List.mem_cons.1 waits
      · rfl
      · exact absurd (List.mem_map_of_mem waits) ((same.trans here.symm) ▸ new)
    case isFalse other =>
      obtain rfl | waits := List.mem_cons.1 waits
      · exact absurd same other
      · exact ih nodup waits

/-! ### Orders -/

theorem mem_takeWhile_concat {l : List LayerHandle} {last handle other : LayerHandle} :
    other ∈ (l ++ [last]).takeWhile (· ≠ handle) ↔
      other ∈ l.takeWhile (· ≠ handle) ∨ (handle ∉ l ∧ last ≠ handle ∧ other = last) := by
  induction l with
  | nil => by_cases same : last = handle <;> simp [same]
  | cons first rest ih =>
    by_cases same : first = handle
    · simp [same]
    · have different : handle ≠ first := Ne.symm same
      simp only [List.cons_append, List.takeWhile_cons, same, ne_eq, not_false_eq_true,
        decide_true, if_true, List.mem_cons, different, false_or] at ih ⊢
      rw [ih, or_assoc]

theorem takeWhile_until (l rest : List LayerHandle) (handle : LayerHandle) :
    (l ++ handle :: rest).takeWhile (· ≠ handle) = l.takeWhile (· ≠ handle) := by
  induction l with
  | nil => simp
  | cons first l ih => by_cases same : first = handle <;> simp_all

theorem takeWhile_absent {l : List LayerHandle} {handle : LayerHandle} (absent : handle ∉ l) :
    l.takeWhile (· ≠ handle) = l := by
  refine List.takeWhile_eq_self_iff.2 fun other here => decide_eq_true ?_
  rintro rfl
  exact absent here

/-- The queue that updates leave: for each layer its last list, in the order of the first ones. -/
structure Condenses (queue updates : List LayerUpdate) : Prop where
  nodup : (updated queue).Nodup
  updated_iff : ∀ handle, handle ∈ updated queue ↔ handle ∈ updated updates
  last : ∀ handle list, (handle, list) ∈ queue → ∃ before after,
    updates = before ++ (handle, list) :: after ∧ handle ∉ updated after
  order : ∀ handle other, other ∈ (updated queue).takeWhile (· ≠ handle) ↔
    other ∈ (updated updates).takeWhile (· ≠ handle)

namespace Condenses

variable {queue updates : List LayerUpdate}

theorem refl (nodup : (updated queue).Nodup) : Condenses queue queue where
  nodup := nodup
  updated_iff _ := .rfl
  last handle list waits := by
    obtain ⟨before, after, rfl⟩ := List.append_of_mem waits
    refine ⟨before, after, rfl, ?_⟩
    rw [updated_around] at nodup
    exact (List.nodup_middle.1 nodup).notMem ∘ List.mem_append_right _
  order _ _ := .rfl

theorem push (condenses : Condenses queue updates) (handle : LayerHandle) (list : DisplayList) :
    Condenses (enqueue handle list queue) (updates ++ [(handle, list)]) where
  nodup := nodup_enqueue condenses.nodup
  updated_iff other := by
    rw [updated_enqueue, updated_concat, List.mem_append, ← condenses.updated_iff]
    split
    case isTrue waits =>
      refine (or_iff_left_of_imp fun this => ?_).symm
      obtain rfl := List.mem_singleton.1 this
      exact waits
    case isFalse => exact List.mem_append
  last other list' waits := by
    by_cases same : other = handle
    · obtain ⟨rfl, rfl⟩ := Prod.mk.inj (enqueue_replaces condenses.nodup waits same)
      exact ⟨updates, [], rfl, List.not_mem_nil⟩
    · have waited : (other, list') ∈ queue :=
        (mem_enqueue waits).resolve_left fun equal => same (Prod.mk.inj equal).1
      obtain ⟨before, after, rfl, last⟩ := condenses.last other list' waited
      refine ⟨before, after ++ [(handle, list)], by simp, ?_⟩
      rw [updated_concat, List.mem_append, not_or]
      exact ⟨last, fun this => same (List.mem_singleton.1 this)⟩
  order first other := by
    have same := condenses.order first other
    rw [updated_enqueue, updated_concat, mem_takeWhile_concat, ← same, ← condenses.updated_iff]
    split
    case isTrue waits =>
      refine (or_iff_left_of_imp ?_).symm
      rintro ⟨absent, -, rfl⟩
      rwa [takeWhile_absent absent]
    case isFalse => exact mem_takeWhile_concat

theorem pushAll (condenses : Condenses queue updates) (more : List LayerUpdate) :
    Condenses (enqueueAll queue more) (updates ++ more) := by
  induction more generalizing queue updates with
  | nil => simpa [enqueueAll] using condenses
  | cons update rest ih => simpa [enqueueAll] using ih (condenses.push update.1 update.2)

end Condenses

/-- The last list for each layer sees the other layers that it names as it would in the order in
which layers began to be updated: one that was updated before it began so before its own layer did,
and is not updated again. -/
def Settled (updates : List LayerUpdate) : Prop :=
  ∀ before handle list after, updates = before ++ (handle, list) :: after →
    handle ∉ updated after →
    ∀ other ∈ list.layers, other ≠ handle → other ∈ updated before →
      other ∈ (updated before).takeWhile (· ≠ handle) ∧ other ∉ updated after

/-! ### Contexts -/

section Contexts

variable {σ φ τ : Type} {B : Backend σ} (H : Host B φ τ)

namespace Context

/-- The contexts that there are: those of new canvases, and what commands make of them. -/
inductive Arises : Context B φ → Prop
  | made (handle : ProxyHandle) (canvas : B.Canvas) : Arises (.ofCanvas handle canvas)
  | obeyed {c c' : Context B φ} {d d' : B.Device} {reply : Option Reply} (arises : Arises c)
      (fresh : LayerHandle) (command : Command σ φ)
      (run : (c.dispatch H fresh command).runOn d = (.ok (reply, c'), d')) : Arises c'

theorem single_change {made : Option LayerHandle} {r r' : Registry B.Layer φ}
    (change : Registry.Change made r r') (single : (updated r.pending).Nodup) :
    (updated r'.pending).Nodup := by
  cases change with
  | wait handle list there => exact nodup_enqueue single
  | remove handle => exact single.sublist (List.filter_sublist.map _)
  | settle => exact List.nodup_nil
  | clear => exact List.nodup_nil
  | _ => exact single

theorem Arises.single {c : Context B φ} (arises : c.Arises H) :
    (updated c.registry.pending).Nodup := by
  induction arises with
  | made => exact List.nodup_nil
  | obeyed arises fresh command run ih =>
    have evolves := (dispatch_evolves H _ fresh command _ _ _ run).1
    exact evolves.preserves (P := fun r => (updated r.pending).Nodup) (fun r r' => single_change) ih

/-- Carries out commands, one after the other, without regard to replies. -/
def obeyAll (fresh : LayerHandle) :
    List (Command σ φ) → Context B φ → DeviceOp B.Device (Context B φ)
  | [], c => pure c
  | command :: rest, c => do
    let (_, c) ← c.dispatch H fresh command
    obeyAll fresh rest c

end Context

def LayerUpdate.push (update : LayerUpdate) : Command σ φ := .pushLayerUpdate update.1 update.2

/-- Updates that are carried out as soon as they are pushed. -/
def atOnce (updates : List LayerUpdate) : List (Command σ φ) :=
  updates.flatMap fun update => [update.push, .flushLayerUpdates]

def deferred (updates : List LayerUpdate) : List (Command σ φ) :=
  updates.map LayerUpdate.push ++ [.flushLayerUpdates]

/-- The order in which updates are carried out as soon as they are pushed, where others waited. -/
def orderAtOnce (waiting : List LayerUpdate) : List LayerUpdate → List LayerUpdate
  | [] => waiting
  | update :: rest => enqueue update.1 update.2 waiting ++ rest

end Contexts

namespace Headless

/-! ### Pixels -/

/-- **A queue leaves the pixels that the updates it came from leave.** -/
theorem redrawnAll_condensed {layers layers' : LayerHandle → Option Bitmap}
    {queue updates : List LayerUpdate} (condenses : Condenses queue updates)
    (settled : Settled updates) (drawn : redrawnAll layers updates = .ok layers') :
    redrawnAll layers queue = .ok layers' := by
  -- every beginning of the queue leaves its layers as they are in the end
  have beginning (done rest : List LayerUpdate) (parts : queue = done ++ rest) :
      ∃ middle, redrawnAll layers done = .ok middle ∧
        ∀ handle ∈ updated done, middle handle = layers' handle := by
    induction done using List.reverseRecOn generalizing rest with
    | nil => exact ⟨layers, rfl, by simp⟩
    | append_singleton done update ih =>
      obtain ⟨handle, list⟩ := update
      rw [List.append_assoc, List.singleton_append] at parts
      obtain ⟨middle, all, same⟩ := ih ((handle, list) :: rest) parts
      obtain ⟨before, after, rfl, last⟩ := condenses.last handle list (by simp [parts])
      obtain ⟨seen, first, drawn'⟩ := redrawnAll_append.1 drawn
      obtain ⟨left, now, finish⟩ := redrawnAll_cons.1 drawn'
      -- the layers that come before this one in the queue
      have new : handle ∉ updated done := by
        have nodup := condenses.nodup
        rw [parts, updated_around] at nodup
        exact (List.nodup_middle.1 nodup).notMem ∘ List.mem_append_left _
      have earlier (other : LayerHandle) : other ∈ updated done ↔
          other ∈ (updated before).takeWhile (· ≠ handle) := by
        have order := condenses.order handle other
        rwa [parts, updated_around, updated_around, takeWhile_until, takeWhile_until,
          takeWhile_absent new] at order
      have agree : ∀ other ∈ list.layers, other ≠ handle → seen other = middle other := by
        intro other named different
        by_cases here : other ∈ updated before
        · obtain ⟨began, closed⟩ :=
            settled before handle list after rfl last other named different here
          rw [same other ((earlier other).2 began), redrawnAll_other finish closed,
            redrawn_other now different]
        · have later : other ∉ updated done := fun began =>
            here ((List.takeWhile_subset _) ((earlier other).1 began))
          rw [redrawnAll_other first here, redrawnAll_other all later]
      have size : (seen handle).map Bitmap.extent = (middle handle).map Bitmap.extent := by
        rw [extent_redrawnAll first, extent_redrawnAll all]
      obtain ⟨middle', step, here⟩ := redrawn_congr now size agree
      refine ⟨middle', redrawnAll_append.2 ⟨middle, all, redrawnAll_cons.2 ⟨_, step, rfl⟩⟩, ?_⟩
      intro other waits
      by_cases self : other = handle
      · rw [self, here, redrawnAll_other finish last]
      · rw [redrawn_other step self]
        rw [updated_concat, List.mem_append, List.mem_singleton] at waits
        exact same other (waits.resolve_right self)
  obtain ⟨middle, all, same⟩ := beginning queue [] (by simp)
  obtain rfl : middle = layers' := by
    funext handle
    by_cases waits : handle ∈ updated queue
    · exact same handle waits
    · rw [redrawnAll_other all waits, redrawnAll_other drawn]
      rwa [← condenses.updated_iff]
  exact all

/-! ### Commands -/

section Commands

variable {ω φ τ : Type} {report : LogRecord → ω → ω}
  {invoke : φ → Frame → FunctorInfo → StateM ω (Frame × Completion)}
  {perform : τ → StateM ω Completion} {c : Context (backend report) φ} {d : Device ω}

/-- A push to a layer of the context lets the update wait. -/
theorem ends_push {γ : Type} {view : Context (backend report) φ → γ} {r : Except Fault γ}
    {fresh : LayerHandle} {update : LayerUpdate} {rest : List (Command Surface φ)}
    (known : c.registry.layers.contains update.1 = true)
    (after : ∀ d', (Context.obeyAll (host report invoke perform) fresh rest
      { c with registry :=
        { c.registry with pending := enqueue update.1 update.2 c.registry.pending } }).Ends
          d' view r) :
    (c.obeyAll (host report invoke perform) fresh (update.push :: rest)).Ends d view r := by
  simp only [Context.obeyAll, Context.dispatch, bind_assoc]
  refine ends_note_bind fun world => ?_
  have queued : c.registry.queueUpdate? update.1 update.2 = some
      { c.registry with pending := enqueue update.1 update.2 c.registry.pending } := if_pos known
  simp only [LayerUpdate.push, Context.execute, queued, pure_bind]
  exact after _

theorem ends_flush {γ : Type} {view : Context (backend report) φ → γ}
    {next : (LayerHandle → Option Bitmap) → Except Fault γ} {fresh : LayerHandle}
    {rest : List (Command Surface φ)}
    (plain : ∀ update ∈ c.registry.pending, Plain c.registry update.2)
    (after : ∀ layers d', redrawnAll (layerPixels c.registry) c.registry.pending =
        .ok (layerPixels { c.registry with layers, pending := [] }) →
      (Context.obeyAll (host report invoke perform) fresh rest
        { c with registry := { c.registry with layers, pending := [] } }).Ends d' view
          (next (layerPixels { c.registry with layers, pending := [] }))) :
    (c.obeyAll (host report invoke perform) fresh (.flushLayerUpdates :: rest)).Ends d view
      (redrawnAll (layerPixels c.registry) c.registry.pending >>= next) := by
  simp only [Context.obeyAll, Context.dispatch, bind_assoc]
  refine ends_note_bind fun world => ?_
  simp only [Context.execute, bind_assoc, pure_bind]
  have ends : (Context.redrawLayers (host report invoke perform) c.registry.pending
      { c with registry := { c.registry with pending := [] } }).Ends { d with outside := world }
      (layerPixels ·.registry) (redrawnAll (layerPixels c.registry) c.registry.pending) :=
    redrawLayers_ends (c := { c with registry := { c.registry with pending := [] } }) plain _
  refine ends.bind ?_
  intro c' d' run
  obtain ⟨layers, rfl⟩ := Context.redrawLayers_layers _ _ _ _ _ _ run
  exact after layers d' (ends.eq_ok run)

/-- What waits and what is to be pushed names no attached callback and is about layers that there
are. -/
structure Ready (c : Context (backend report) φ) (updates : List LayerUpdate) : Prop where
  known : ∀ update ∈ updates, c.registry.layers.contains update.1 = true
  plain : ∀ update ∈ c.registry.pending ++ updates, Plain c.registry update.2

theorem Ready.push {update : LayerUpdate} {rest : List LayerUpdate}
    (ready : Ready c (update :: rest)) :
    Ready { c with registry :=
      { c.registry with pending := enqueue update.1 update.2 c.registry.pending } } rest where
  known later waits := ready.known later (.tail _ waits)
  plain later waits := by
    refine ready.plain later (List.mem_append.2 ?_)
    obtain waits | waits := List.mem_append.1 waits
    · obtain rfl | waits := mem_enqueue waits
      · exact .inr (.head _)
      · exact .inl waits
    · exact .inr (.tail _ waits)

theorem Ready.flushed {updates : List LayerUpdate} {layers : Table LayerHandle (LayerEntry Layer)}
    (ready : Ready c updates)
    (drawn : redrawnAll (layerPixels c.registry) c.registry.pending =
      .ok (layerPixels { c.registry with layers, pending := [] })) :
    Ready { c with registry := { c.registry with layers, pending := [] } } updates where
  known update waits := by
    have there := ready.known update waits
    have same := congrArg Option.isSome (extent_redrawnAll drawn update.1)
    simp only [layerPixels, Option.isSome_map] at same
    exact same.trans there
  plain update waits := ready.plain update (List.mem_append_right _ waits)

theorem deferred_ends {updates : List LayerUpdate} (ready : Ready c updates) (fresh : LayerHandle) :
    (c.obeyAll (host report invoke perform) fresh (deferred updates)).Ends d
      (layerPixels ·.registry)
      (redrawnAll (layerPixels c.registry) (enqueueAll c.registry.pending updates)) := by
  induction updates generalizing c d with
  | nil =>
    rw [← bind_pure (redrawnAll _ _)]
    refine ends_flush (fun update waits => ready.plain update (List.mem_append_left _ waits)) ?_
    exact fun layers d' _ => ends_pure _
  | cons update rest ih => exact ends_push (ready.known update (.head _)) fun d' => ih ready.push

theorem atOnce_ends {update : LayerUpdate} {rest : List LayerUpdate}
    (ready : Ready c (update :: rest)) (fresh : LayerHandle) :
    (c.obeyAll (host report invoke perform) fresh (atOnce (update :: rest))).Ends d
      (layerPixels ·.registry)
      (redrawnAll (layerPixels c.registry) (orderAtOnce c.registry.pending (update :: rest))) := by
  induction rest generalizing update c d with
  | nil =>
    refine ends_push (ready.known update (.head _)) fun d' => ?_
    rw [orderAtOnce, List.append_nil, ← bind_pure (redrawnAll _ _)]
    refine ends_flush ?_ fun layers d' _ => ends_pure _
    exact fun update waits => ready.push.plain update (List.mem_append_left _ waits)
  | cons next rest ih =>
    refine ends_push (ready.known update (.head _)) fun d' => ?_
    rw [orderAtOnce, redrawnAll, List.foldlM_append]
    refine ends_flush ?_ fun layers d'' drawn => ih (ready.push.flushed drawn)
    exact fun update waits => ready.push.plain update (List.mem_append_left _ waits)

/-- **Deferring layer updates is not seen** where the updates are settled: what is pushed leaves
every layer with the same pixels, whether it is carried out at once or when all is pushed. -/
theorem deferral_unseen {updates : List LayerUpdate} {c₁ : Context (backend report) φ}
    {d₁ : Device ω} (fresh : LayerHandle) (arises : c.Arises (host report invoke perform))
    (some : updates ≠ [] ∨ c.registry.pending = [])
    (known : ∀ update ∈ updates, c.registry.layers.contains update.1 = true)
    (plain : ∀ update ∈ c.registry.pending ++ updates, Plain c.registry update.2)
    (settled : Settled (orderAtOnce c.registry.pending updates))
    (run : (c.obeyAll (host report invoke perform) fresh (atOnce updates)).runOn d = (.ok c₁, d₁)) :
    ∃ c₂ d₂, (c.obeyAll (host report invoke perform) fresh (deferred updates)).runOn d =
        (.ok c₂, d₂) ∧
      ∀ handle, layerPixels c₂.registry handle = layerPixels c₁.registry handle := by
  have ready : Ready c updates := ⟨known, plain⟩
  have condenses : Condenses (enqueueAll c.registry.pending updates)
      (orderAtOnce c.registry.pending updates) := by
    cases updates with
    | nil => exact .refl arises.single
    | cons update rest => exact (Condenses.refl (nodup_enqueue arises.single)).pushAll rest
  have drawn : redrawnAll (layerPixels c.registry) (orderAtOnce c.registry.pending updates) =
      .ok (layerPixels c₁.registry) := by
    cases updates with
    | nil =>
      obtain ⟨rfl, rfl⟩ : c = c₁ ∧ d = d₁ := by simpa [atOnce, Context.obeyAll] using run
      rw [orderAtOnce, some.resolve_left (by simp)]
      rfl
    | cons update rest => exact (atOnce_ends ready fresh).eq_ok run
  have ends : (c.obeyAll (host report invoke perform) fresh (deferred updates)).Ends d
      (layerPixels ·.registry) (.ok (layerPixels c₁.registry)) :=
    redrawnAll_condensed condenses settled drawn ▸ deferred_ends ready fresh
  obtain ⟨c₂, d₂, run₂, same⟩ := ends.ok
  exact ⟨c₂, d₂, run₂, congrFun same⟩

end Commands

/-! ### Two layers -/

def twoLayers : Context (backend fun _ (_ : Unit) => ()) Unit :=
  let canvas : Canvas := ⟨false, none, none, .empty⟩
  let layer : LayerEntry Layer := ⟨⟨.ofSize 1 1⟩, ⟨1, 1⟩⟩
  { Context.ofCanvas (B := backend fun _ (_ : Unit) => ()) (φ := Unit) ⟨1⟩ canvas with
    registry := (Registry.empty.insertLayer ⟨1⟩ layer).insertLayer ⟨2⟩ layer }

theorem twoLayers_arises : twoLayers.Arises idleHost := by
  have none := Context.Arises.made (B := backend fun _ (_ : Unit) => ()) (H := idleHost) ⟨1⟩
    (⟨false, .none, .none, .empty⟩ : Canvas)
  have one := none.obeyed (d := Device.start .standard ()) ⟨1⟩ (.createLayer ⟨1, 1⟩) rfl
  exact one.obeyed (d := Device.start .standard ()) ⟨2⟩ (.createLayer ⟨1, 1⟩) rfl

def flood (color : Color) : DisplayList := ⟨⟨1⟩, [⟨.clear color, none⟩]⟩

def mirror : DisplayList := ⟨⟨2⟩, [⟨.layer ⟨1⟩ ⟨0, 0, 1, 1⟩, none⟩]⟩

/-- The second layer mirrors the first one after that has its last colour. -/
theorem deferral_unseen_two_layers :
    let updates : List LayerUpdate :=
      [(⟨1⟩, flood .white), (⟨1⟩, flood .black), (⟨2⟩, mirror)]
    ∃ c₁ d₁ c₂ d₂,
      (twoLayers.obeyAll idleHost ⟨3⟩ (atOnce updates)).runOn (.start .standard ()) =
        (.ok c₁, d₁) ∧
      (twoLayers.obeyAll idleHost ⟨3⟩ (deferred updates)).runOn (.start .standard ()) =
        (.ok c₂, d₂) ∧
      ∀ handle, layerPixels c₂.registry handle = layerPixels c₁.registry handle := by
  intro updates
  have settled : Settled (orderAtOnce [] updates) := by
    intro before handle list after parts last other named different here
    -- only the last list names a layer
    rcases before with _ | ⟨first, _ | ⟨second, _ | ⟨third, before⟩⟩⟩
    · simp at here
    · obtain ⟨-, ⟨-, rfl⟩, -⟩ : _ ∧ (_ ∧ flood .black = list) ∧ _ := by
        simpa [updates, orderAtOnce, enqueue] using parts
      exact absurd named List.not_mem_nil
    · obtain ⟨rfl, rfl, ⟨rfl, rfl⟩, rfl⟩ : (⟨1⟩, flood .white) = first ∧
          (⟨1⟩, flood .black) = second ∧ (⟨2⟩ = handle ∧ mirror = list) ∧ [] = after := by
        simpa [updates, orderAtOnce, enqueue] using parts
      obtain rfl : other = ⟨1⟩ := List.mem_singleton.1 named
      exact ⟨by decide, List.not_mem_nil⟩
    · simp [updates, orderAtOnce, enqueue] at parts
  have ends : (twoLayers.obeyAll idleHost ⟨3⟩ (atOnce updates)).Ends (.start .standard ())
      (fun _ => ()) (.ok ()) := by
    unfold Ends
    decide +kernel
  obtain ⟨c₁, d₁, run, -⟩ := ends.ok
  obtain ⟨c₂, d₂, run₂, same⟩ := deferral_unseen ⟨3⟩ twoLayers_arises (.inl (by simp [updates]))
    (by decide) (fun _ _ _ _ => rfl) settled run
  exact ⟨c₁, d₁, c₂, d₂, run, run₂, same⟩

/-- **Deferring layer updates can be seen**: here the second layer mirrors the first one as it is
between two updates, unless both wait. -/
theorem deferral_seen :
    let updates : List LayerUpdate :=
      [(⟨1⟩, flood .white), (⟨2⟩, mirror), (⟨1⟩, flood .black)]
    twoLayers.Arises idleHost ∧
      (∀ update ∈ updates, twoLayers.registry.layers.contains update.1 = true) ∧
      ∃ c₁ d₁ c₂ d₂,
        (twoLayers.obeyAll idleHost ⟨3⟩ (atOnce updates)).runOn (.start .standard ()) =
          (.ok c₁, d₁) ∧
        (twoLayers.obeyAll idleHost ⟨3⟩ (deferred updates)).runOn (.start .standard ()) =
          (.ok c₂, d₂) ∧
        layerPixels c₂.registry ⟨2⟩ ≠ layerPixels c₁.registry ⟨2⟩ := by
  intro updates
  have one : (twoLayers.obeyAll idleHost ⟨3⟩ (atOnce updates)).Ends (.start .standard ())
      (fun c => (layerPixels c.registry ⟨2⟩).bind (·.pixel? 0 0))
      (.ok (some Color.white.quantize)) := by
    unfold Ends
    decide +kernel
  have other : (twoLayers.obeyAll idleHost ⟨3⟩ (deferred updates)).Ends (.start .standard ())
      (fun c => (layerPixels c.registry ⟨2⟩).bind (·.pixel? 0 0))
      (.ok (some Color.black.quantize)) := by
    unfold Ends
    decide +kernel
  obtain ⟨c₁, d₁, run₁, white⟩ := one.ok
  obtain ⟨c₂, d₂, run₂, black⟩ := other.ok
  refine ⟨twoLayers_arises, by decide, c₁, d₁, c₂, d₂, run₁, run₂, fun same => ?_⟩
  rw [same, white] at black
  exact absurd black (by decide)

end Headless

end RenderRelay

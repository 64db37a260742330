import RenderRelay.Proofs.Layers.Deferral
import RenderRelay.Proofs.Tables

/-!
What a context has by what it was told. A chronicle lists the acts of a context, the last one
first, and its registry is the fold of them (`Inventory.of`). What the fold holds can be said of
each callback, each layer and each list by itself, without following it: which act was the last, or
the first, of its kind since another kind of act (`latest`, `earliest`). `recounts_of` says so.
-/

namespace RenderRelay

variable {σ φ : Type}

/-! ### Acts -/

/-- A command that was carried out, and its reply if it gave one. -/
abbrev Act (σ φ : Type) := Command σ φ × Option Reply

/-- An act and those before it, the last one first. -/
structure Moment (σ φ : Type) where
  act : Act σ φ
  past : List (Act σ φ)

def moments : List (Act σ φ) → List (Moment σ φ)
  | [] => []
  | act :: past => ⟨act, past⟩ :: moments past

theorem moments_cons (act : Act σ φ) (past : List (Act σ φ)) :
    moments (act :: past) = ⟨act, past⟩ :: moments past := rfl

section Search

variable {α : Type} (stop : Moment σ φ → Bool) (find : Moment σ φ → Option α)

/-- The moments since the last one of a kind; all of them if there was none. -/
def since (told : List (Act σ φ)) : List (Moment σ φ) := (moments told).takeWhile (!stop ·)

/-- What the last moment has that has such a thing, of those since the last one of a kind. -/
def latest (told : List (Act σ φ)) : Option α := (since stop told).findSome? find

/-- What the first moment has that has such a thing, of those since the last one of a kind. -/
def earliest (told : List (Act σ φ)) : Option α := (since stop told).reverse.findSome? find

theorem latest_cons (act : Act σ φ) (past : List (Act σ φ)) :
    latest stop find (act :: past) =
      if stop ⟨act, past⟩ then none else (find ⟨act, past⟩).or (latest stop find past) := by
  unfold latest since
  rw [moments_cons, List.takeWhile_cons]
  cases stop ⟨act, past⟩ with
  | true => rfl
  | false => cases found : find ⟨act, past⟩ <;> simp [found]

theorem earliest_cons (act : Act σ φ) (past : List (Act σ φ)) :
    earliest stop find (act :: past) =
      if stop ⟨act, past⟩ then none else (earliest stop find past).or (find ⟨act, past⟩) := by
  unfold earliest since
  rw [moments_cons, List.takeWhile_cons]
  cases stop ⟨act, past⟩ with
  | true => rfl
  | false => simp [List.findSome?_append]

/-- There is a first one just if there is a last one. -/
theorem isSome_earliest (told : List (Act σ φ)) :
    (earliest stop find told).isSome = (latest stop find told).isSome := by
  induction told with
  | nil => rfl
  | cons act past ih =>
    rw [latest_cons, earliest_cons]
    split
    · rfl
    · rw [Option.isSome_or, Option.isSome_or, ih, Bool.or_comm]

end Search

/-! ### What is found in a chronicle -/

namespace Moment

variable (m : Moment σ φ)

def attached? (id : FunctorId) : Option φ :=
  match m.act.1 with
  | .attachFunctor functor => if functor.id = id then some functor.callback else none
  | _ => none

def detaches (id : FunctorId) : Bool :=
  match m.act.1 with
  | .detachFunctor id' => id' = id
  | .destroy full => full
  | _ => false

/-- The act attaches something under the id or gives it up. -/
def names (id : FunctorId) : Bool := (m.attached? id).isSome || m.detaches id

/-- The size of the layer that is made under a name. -/
def made? (handle : LayerHandle) : Option Viewport :=
  match m.act.1 with
  | .createLayer size => if Reply.made m.act.2 = some handle then some size else none
  | _ => none

def destroys (handle : LayerHandle) : Bool :=
  match m.act.1 with
  | .destroyLayer handle' => handle' = handle
  | .destroy full => full
  | _ => false

def drawn? : Option DisplayList :=
  match m.act.1 with
  | .draw list _ => some list
  | _ => none

def forgets : Bool :=
  match m.act.1 with
  | .flushCaches => true
  | .destroy full => full
  | _ => false

end Moment

section Chronicle

variable (told : List (Act σ φ))

/-- What is attached under an id: the first callback since the id was last detached. -/
def callbackOf (id : FunctorId) : Option φ := earliest (·.detaches id) (·.attached? id) told

/-- The size of the layer of a name, if one was made and not destroyed since. -/
def sizeOf? (handle : LayerHandle) : Option Viewport :=
  latest (·.destroys handle) (·.made? handle) told

/-- The list that a repeated draw draws: the last one since the caches were flushed. -/
def listToRepeat : Option DisplayList := latest (·.forgets) (·.drawn?) told

end Chronicle

namespace Moment

variable (m : Moment σ φ)

def drains : Bool :=
  match m.act.1 with
  | .draw .. => true
  | .repeatLastDraw => (listToRepeat m.past).isSome
  | .flushLayerUpdates => true
  | .copyLayer _ => true
  | _ => false

def settles (handle : LayerHandle) : Bool := m.drains || m.destroys handle

/-- The list that is pushed to a layer that is there. -/
def pushed? (handle : LayerHandle) : Option DisplayList :=
  match m.act.1 with
  | .pushLayerUpdate handle' list =>
    if handle' = handle ∧ (sizeOf? m.past handle).isSome then some list else none
  | _ => none

/-- When something is pushed to a layer that is there: how many acts there were before. -/
def pushedAt? (handle : LayerHandle) : Option Nat := (m.pushed? handle).map fun _ => m.past.length

end Moment

section Chronicle

variable (told : List (Act σ φ))

/-- The list that waits for a layer: the last one pushed since it was last drawn anew. -/
def waitingFor (handle : LayerHandle) : Option DisplayList :=
  latest (·.settles handle) (·.pushed? handle) told

/-- Since when a list waits for a layer: how many acts were before the first push since it was last
drawn anew. -/
def waitingSince (handle : LayerHandle) : Option Nat :=
  earliest (·.settles handle) (·.pushedAt? handle) told

theorem isSome_waitingSince (handle : LayerHandle) :
    (waitingSince told handle).isSome = (waitingFor told handle).isSome := by
  unfold waitingSince waitingFor
  rw [isSome_earliest]
  induction told with
  | nil => rfl
  | cons act past ih =>
    rw [latest_cons, latest_cons]
    split
    · rfl
    · rw [Option.isSome_or, Option.isSome_or, ih, Moment.pushedAt?, Option.isSome_map]

theorem waitingSince_lt {told : List (Act σ φ)} {handle : LayerHandle} {n : Nat}
    (waits : waitingSince told handle = some n) : n < told.length := by
  induction told with
  | nil => simp [waitingSince, earliest, since, moments] at waits
  | cons act past ih =>
    rw [waitingSince, earliest_cons] at waits
    split at waits
    · simp at waits
    · rcases Option.or_eq_some_iff.1 waits with before | ⟨-, now⟩
      · exact (ih before).trans (Nat.lt_succ_self _)
      · obtain ⟨list, -, rfl⟩ := Option.map_eq_some_iff.1 now
        exact Nat.lt_succ_self _

/-- **Something is attached under an id just if the last act that names the id attached it.** -/
theorem isSome_callbackOf (id : FunctorId) :
    (callbackOf told id).isSome =
      ((moments told).find? (·.names id)).any fun m => (m.attached? id).isSome := by
  unfold callbackOf
  induction told with
  | nil => rfl
  | cons act past ih =>
    rw [earliest_cons, moments_cons, List.find?_cons]
    cases attached : (Moment.attached? ⟨act, past⟩ id : Option φ) with
    | none =>
      cases detaches : Moment.detaches ⟨act, past⟩ id with
      | true => simp [Moment.names, attached, detaches]
      | false => simp [Moment.names, attached, detaches, ih]
    | some callback =>
      -- what attaches does not detach
      have kept : Moment.detaches ⟨act, past⟩ id = false := by
        obtain ⟨command, reply⟩ := act
        cases command <;> simp_all [Moment.attached?, Moment.detaches]
      simp [Moment.names, attached, kept]

end Chronicle

/-! ### The fold -/

/-- What a context has, apart from the pixels of its layers. -/
@[ext]
structure Inventory (φ : Type) where
  callbacks : FunctorId → Option φ
  sizes : LayerHandle → Option Viewport
  waiting : List LayerUpdate
  last : Option DisplayList

namespace Inventory

def empty : Inventory φ := ⟨fun _ => none, fun _ => none, [], none⟩

def after (i : Inventory φ) : Act σ φ → Inventory φ
  | (.attachFunctor functor, _) => { i with
      callbacks := Function.update i.callbacks functor.id
        ((i.callbacks functor.id).or (some functor.callback)) }
  | (.detachFunctor id, _) => { i with callbacks := Function.update i.callbacks id none }
  | (.createLayer size, reply) =>
    match Reply.made reply with
    | some handle => { i with sizes := Function.update i.sizes handle (some size) }
    | none => i
  | (.pushLayerUpdate handle list, _) =>
    if (i.sizes handle).isSome then { i with waiting := Registry.enqueue handle list i.waiting }
    else i
  | (.destroyLayer handle, _) =>
    if (i.sizes handle).isSome then { i with
      sizes := Function.update i.sizes handle none
      waiting := i.waiting.filter fun update => update.1 ≠ handle }
    else i
  | (.draw list _, _) => { i with waiting := [], last := some list }
  | (.repeatLastDraw, _) => { i with waiting := if i.last.isSome then [] else i.waiting }
  | (.flushLayerUpdates, _) => { i with waiting := [] }
  | (.copyLayer _, _) => { i with waiting := [] }
  | (.flushCaches, _) => { i with last := none }
  | (.destroy true, _) => empty
  | _ => i

def of (told : List (Act σ φ)) : Inventory φ := told.foldr (fun act i => i.after act) empty

@[simp] theorem of_cons (act : Act σ φ) (past : List (Act σ φ)) :
    of (act :: past) = (of past).after act := rfl

end Inventory

/-! ### What the fold holds -/

section Steps

variable (act : Act σ φ) (past : List (Act σ φ))

theorem callbackOf_cons (id : FunctorId) :
    callbackOf (act :: past) id =
      if Moment.detaches ⟨act, past⟩ id then none
      else (callbackOf past id).or (Moment.attached? ⟨act, past⟩ id) :=
  earliest_cons ..

theorem sizeOf?_cons (handle : LayerHandle) :
    sizeOf? (act :: past) handle =
      if Moment.destroys ⟨act, past⟩ handle then none
      else (Moment.made? ⟨act, past⟩ handle).or (sizeOf? past handle) :=
  latest_cons ..

theorem listToRepeat_cons :
    listToRepeat (act :: past) =
      if Moment.forgets ⟨act, past⟩ then none
      else (Moment.drawn? ⟨act, past⟩).or (listToRepeat past) :=
  latest_cons ..

theorem waitingFor_cons (handle : LayerHandle) :
    waitingFor (act :: past) handle =
      if Moment.settles ⟨act, past⟩ handle then none
      else (Moment.pushed? ⟨act, past⟩ handle).or (waitingFor past handle) :=
  latest_cons ..

theorem waitingSince_cons (handle : LayerHandle) :
    waitingSince (act :: past) handle =
      if Moment.settles ⟨act, past⟩ handle then none
      else (waitingSince past handle).or (Moment.pushedAt? ⟨act, past⟩ handle) :=
  earliest_cons ..

end Steps

namespace Inventory

variable (told : List (Act σ φ))

theorem callbacks_of (id : FunctorId) : (of told).callbacks id = callbackOf told id := by
  induction told with
  | nil => rfl
  | cons act past ih =>
    rw [callbackOf_cons, ← ih]
    obtain ⟨command, reply⟩ := act
    cases command with
    | attachFunctor functor =>
      by_cases same : functor.id = id
      · subst same
        simp [after, Moment.detaches, Moment.attached?]
      · simp [after, Moment.detaches, Moment.attached?, same, Ne.symm same]
    | detachFunctor other =>
      by_cases same : other = id
      · subst same
        simp [after, Moment.detaches]
      · simp [after, Moment.detaches, Moment.attached?, same, Ne.symm same]
    | createLayer | pushLayerUpdate | destroyLayer =>
      simp only [of_cons, after, Moment.detaches, Moment.attached?]
      split <;> simp
    | destroy full => cases full <;> simp [after, empty, Moment.detaches, Moment.attached?]
    | _ => simp [after, Moment.detaches, Moment.attached?]

theorem sizes_of (handle : LayerHandle) : (of told).sizes handle = sizeOf? told handle := by
  induction told with
  | nil => rfl
  | cons act past ih =>
    rw [sizeOf?_cons, ← ih]
    obtain ⟨command, reply⟩ := act
    cases command with
    | createLayer size =>
      cases made : Reply.made reply with
      | none => simp [after, Moment.destroys, Moment.made?, made]
      | some name =>
        by_cases same : name = handle
        · subst same
          simp [after, Moment.destroys, Moment.made?, made]
        · simp [after, Moment.destroys, Moment.made?, made, same, Ne.symm same]
    | destroyLayer other =>
      by_cases same : other = handle
      · subst same
        cases there : (of past).sizes other <;> simp [after, Moment.destroys, there]
      · cases there : (of past).sizes other <;>
          simp [after, Moment.destroys, Moment.made?, there, same, Ne.symm same]
    | pushLayerUpdate =>
      simp only [of_cons, after, Moment.destroys, Moment.made?]
      split <;> simp
    | destroy full => cases full <;> simp [after, empty, Moment.destroys, Moment.made?]
    | _ => simp [after, Moment.destroys, Moment.made?]

theorem last_of : (of told).last = listToRepeat told := by
  induction told with
  | nil => rfl
  | cons act past ih =>
    rw [listToRepeat_cons, ← ih]
    obtain ⟨command, reply⟩ := act
    cases command with
    | createLayer | pushLayerUpdate | destroyLayer =>
      simp only [of_cons, after, Moment.forgets, Moment.drawn?]
      split <;> simp
    | destroy full => cases full <;> simp [after, empty, Moment.forgets, Moment.drawn?]
    | _ => simp [after, Moment.forgets, Moment.drawn?]

end Inventory

/-! ### What waits -/

theorem enqueue_eq_put (handle : LayerHandle) (list : DisplayList) (queue : List LayerUpdate) :
    Registry.enqueue handle list queue = Table.put handle list queue := by
  induction queue with
  | nil => rfl
  | cons update rest ih => rw [Registry.enqueue, Table.put, ih]

/-- What waits after a push is the list that was pushed, and for other layers what waited before. -/
theorem mem_enqueue_iff {queue : List LayerUpdate} (nodup : (updated queue).Nodup)
    {handle other : LayerHandle} {list list' : DisplayList} :
    (other, list') ∈ Registry.enqueue handle list queue ↔
      if handle = other then list = list' else (other, list') ∈ queue := by
  let table : Table LayerHandle DisplayList := ⟨queue, nodup⟩
  have mem_iff {t : Table LayerHandle DisplayList} :
      (other, list') ∈ t.entries ↔ t.get? other = some list' :=
    ⟨Table.get?_of_mem, Table.mem_of_get?⟩
  have inserted : Registry.enqueue handle list queue = (table.insert handle list).entries :=
    enqueue_eq_put handle list queue
  rw [inserted, mem_iff, Table.get?_insert]
  split
  · exact Option.some_inj
  · exact mem_iff.symm

/-- A queue is what a chronicle tells of waiting updates. -/
structure Queued (told : List (Act σ φ)) (queue : List LayerUpdate) : Prop where
  nodup : (updated queue).Nodup
  mem_iff : ∀ handle list, (handle, list) ∈ queue ↔ waitingFor told handle = some list
  order : (updated queue).Pairwise fun first second => ∃ n m,
    waitingSince told first = some n ∧ waitingSince told second = some m ∧ n < m
  there : ∀ handle, (waitingFor told handle).isSome → (sizeOf? told handle).isSome

namespace Queued

variable {act : Act σ φ} {past : List (Act σ φ)} {queue : List LayerUpdate}

theorem mem_updated_iff (queued : Queued past queue) {handle : LayerHandle} :
    handle ∈ updated queue ↔ (waitingFor past handle).isSome := by
  rw [Option.isSome_iff_exists]
  simp only [List.mem_map, Prod.exists, exists_and_right, exists_eq_right, queued.mem_iff]

theorem keep (queued : Queued past queue)
    (settles : ∀ handle, Moment.settles ⟨act, past⟩ handle = false)
    (pushed : ∀ handle, Moment.pushed? ⟨act, past⟩ handle = none)
    (sizes : ∀ handle, (sizeOf? past handle).isSome → (sizeOf? (act :: past) handle).isSome) :
    Queued (act :: past) queue := by
  have waits (handle : LayerHandle) :
      waitingFor (act :: past) handle = waitingFor past handle := by
    simp [waitingFor_cons, settles, pushed]
  have began (handle : LayerHandle) :
      waitingSince (act :: past) handle = waitingSince past handle := by
    simp [waitingSince_cons, settles, pushed, Moment.pushedAt?]
  exact {
    nodup := queued.nodup
    mem_iff := fun handle list => by rw [waits, queued.mem_iff]
    order := by simpa only [began] using queued.order
    there := fun handle waiting => sizes handle (queued.there handle (by rwa [waits] at waiting)) }

theorem drain (settles : ∀ handle, Moment.settles ⟨act, past⟩ handle = true) :
    Queued (act :: past) [] where
  nodup := .nil
  mem_iff handle list := by simp [waitingFor_cons, settles]
  order := .nil
  there handle waits := by simp [waitingFor_cons, settles] at waits

section Push

variable {handle : LayerHandle} {list : DisplayList} {reply : Option Reply}

theorem waitingFor_push (there : (sizeOf? past handle).isSome) (other : LayerHandle) :
    waitingFor ((.pushLayerUpdate handle list, reply) :: past) other =
      if handle = other then some list else waitingFor past other := by
  rw [waitingFor_cons]
  by_cases same : handle = other
  · subst same
    simp [Moment.settles, Moment.drains, Moment.destroys, Moment.pushed?, there]
  · simp [Moment.settles, Moment.drains, Moment.destroys, Moment.pushed?, same]

theorem waitingSince_push (there : (sizeOf? past handle).isSome) (other : LayerHandle) :
    waitingSince ((.pushLayerUpdate handle list, reply) :: past) other =
      (waitingSince past other).or (if handle = other then some past.length else none) := by
  rw [waitingSince_cons]
  by_cases same : handle = other
  · subst same
    simp [Moment.settles, Moment.drains, Moment.destroys, Moment.pushedAt?, Moment.pushed?, there]
  · simp [Moment.settles, Moment.drains, Moment.destroys, Moment.pushedAt?, Moment.pushed?, same]

theorem push (queued : Queued past queue) (there : (sizeOf? past handle).isSome) :
    Queued ((.pushLayerUpdate handle list, reply) :: past)
      (Registry.enqueue handle list queue) := by
  have older {other : LayerHandle} {n : Nat} (since : waitingSince past other = some n) :
      waitingSince ((.pushLayerUpdate handle list, reply) :: past) other = some n := by
    rw [waitingSince_push there, since, Option.some_or]
  have kept : (updated queue).Pairwise fun first second => ∃ n m,
      waitingSince ((.pushLayerUpdate handle list, reply) :: past) first = some n ∧
      waitingSince ((.pushLayerUpdate handle list, reply) :: past) second = some m ∧ n < m :=
    queued.order.imp fun ⟨n, m, first, second, before⟩ => ⟨n, m, older first, older second, before⟩
  refine {
    nodup := nodup_enqueue queued.nodup
    mem_iff := fun other list' => ?_
    order := ?_
    there := fun other waiting => ?_ }
  · rw [mem_enqueue_iff queued.nodup, waitingFor_push there]
    split
    · exact Option.some_inj.symm
    · exact queued.mem_iff other list'
  · rw [updated_enqueue]
    split
    case isTrue => exact kept
    case isFalse new =>
      -- the layer begins to wait after all others
      refine List.pairwise_append.2 ⟨kept, List.pairwise_singleton _ _, ?_⟩
      intro other waited last here
      rw [List.mem_singleton.1 here]
      have nothing : waitingSince past handle = none := by
        rw [← Option.not_isSome_iff_eq_none, isSome_waitingSince, ← queued.mem_updated_iff]
        exact new
      obtain ⟨n, since⟩ : ∃ n, waitingSince past other = some n := by
        rw [← Option.isSome_iff_exists, isSome_waitingSince, ← queued.mem_updated_iff]
        exact waited
      exact ⟨n, past.length, older since, by simp [waitingSince_push there, nothing],
        waitingSince_lt since⟩
  · have same :
        sizeOf? ((.pushLayerUpdate handle list, reply) :: past) other = sizeOf? past other := by
      simp [sizeOf?_cons, Moment.destroys, Moment.made?]
    rw [same]
    rw [waitingFor_push there] at waiting
    split at waiting
    case isTrue here => exact here ▸ there
    case isFalse => exact queued.there other waiting

end Push

theorem remove (queued : Queued past queue) {handle : LayerHandle} {reply : Option Reply} :
    Queued ((.destroyLayer handle, reply) :: past)
      (queue.filter fun update => update.1 ≠ handle) := by
  have waits (other : LayerHandle) :
      waitingFor ((.destroyLayer handle, reply) :: past) other =
        if handle = other then none else waitingFor past other := by
    simp [waitingFor_cons, Moment.settles, Moment.drains, Moment.destroys, Moment.pushed?]
  have began {other : LayerHandle} (different : other ≠ handle) :
      waitingSince ((.destroyLayer handle, reply) :: past) other = waitingSince past other := by
    simp [waitingSince_cons, Moment.settles, Moment.drains, Moment.destroys, Moment.pushedAt?,
      Moment.pushed?, different.symm]
  have fewer : (updated (queue.filter fun update => update.1 ≠ handle)).Sublist (updated queue) :=
    List.filter_sublist.map _
  have apart {other : LayerHandle}
      (waits : other ∈ updated (queue.filter fun update => update.1 ≠ handle)) :
      other ≠ handle := by
    obtain ⟨update, mem, rfl⟩ := List.mem_map.1 waits
    simpa using (List.mem_filter.1 mem).2
  refine {
    nodup := queued.nodup.sublist fewer
    mem_iff := fun other list => ?_
    order := ?_
    there := fun other waiting => ?_ }
  · rw [List.mem_filter, queued.mem_iff, waits]
    by_cases same : handle = other
    · simp [same]
    · simp [same, Ne.symm same]
  · refine (queued.order.sublist fewer).imp_of_mem ?_
    rintro first second first_waits second_waits ⟨n, m, since, since', before⟩
    refine ⟨n, m, ?_, ?_, before⟩
    · rwa [began (apart first_waits)]
    · rwa [began (apart second_waits)]
  · rw [waits] at waiting
    split at waiting
    case isTrue => simp at waiting
    case isFalse different =>
      simpa [sizeOf?_cons, Moment.destroys, Moment.made?, different]
        using queued.there other waiting

end Queued

/-- What a context has is what its chronicle tells of each thing by itself. -/
structure Recounts (told : List (Act σ φ)) (i : Inventory φ) : Prop where
  callbacks : ∀ id, i.callbacks id = callbackOf told id
  sizes : ∀ handle, i.sizes handle = sizeOf? told handle
  last : i.last = listToRepeat told
  queued : Queued told i.waiting

theorem queued_of (told : List (Act σ φ)) : Queued told (Inventory.of told).waiting := by
  induction told with
  | nil => exact ⟨.nil, by simp [Inventory.of, Inventory.empty, waitingFor, latest, since, moments],
      .nil, by simp [waitingFor, latest, since, moments]⟩
  | cons act past ih =>
    obtain ⟨command, reply⟩ := act
    rw [Inventory.of_cons]
    -- most commands leave the queue and the layers alone
    have keep (settles : ∀ handle, Moment.settles ⟨(command, reply), past⟩ handle = false)
        (pushed : ∀ handle, Moment.pushed? ⟨(command, reply), past⟩ handle = none) :
        Queued ((command, reply) :: past) (Inventory.of past).waiting := by
      refine ih.keep settles pushed fun handle size => ?_
      have settled := settles handle
      rw [Moment.settles, Bool.or_eq_false_iff] at settled
      rw [sizeOf?_cons, settled.2, if_neg Bool.false_ne_true, Option.isSome_or, size, Bool.or_true]
    cases command with
    | pushLayerUpdate handle list =>
      simp only [Inventory.after, Inventory.sizes_of]
      split
      case isTrue there => exact ih.push there
      case isFalse unknown =>
        refine keep (fun _ => rfl) fun other => if_neg ?_
        rintro ⟨rfl, there⟩
        exact unknown there
    | destroyLayer handle =>
      simp only [Inventory.after, Inventory.sizes_of]
      split
      case isTrue there => exact ih.remove
      case isFalse unknown =>
        -- nothing waits for a layer that is not there
        have same : (Inventory.of past).waiting.filter (fun update => update.1 ≠ handle) =
            (Inventory.of past).waiting := by
          refine List.filter_eq_self.2 fun update waits => decide_eq_true ?_
          rintro rfl
          exact unknown (ih.there _ (ih.mem_updated_iff.1 (List.mem_map_of_mem waits)))
        exact same ▸ ih.remove
    | draw | flushLayerUpdates | copyLayer => exact Queued.drain fun _ => rfl
    | repeatLastDraw =>
      simp only [Inventory.after, Inventory.last_of]
      split
      case isTrue found =>
        exact Queued.drain fun handle => by simp [Moment.settles, Moment.drains, found]
      case isFalse missing =>
        refine keep (fun handle => ?_) fun handle => rfl
        simpa [Moment.settles, Moment.drains, Moment.destroys] using missing
    | destroy full =>
      cases full with
      | true => exact Queued.drain fun _ => rfl
      | false => exact keep (fun _ => rfl) fun _ => rfl
    | createLayer =>
      simp only [Inventory.after]
      split <;> exact keep (fun _ => rfl) fun _ => rfl
    | _ => exact keep (fun _ => rfl) fun _ => rfl

/-- **The fold of a chronicle is what the chronicle tells of each thing by itself.** -/
theorem recounts_of (told : List (Act σ φ)) : Recounts told (.of told) :=
  ⟨Inventory.callbacks_of told, Inventory.sizes_of told, Inventory.last_of told, queued_of told⟩

end RenderRelay

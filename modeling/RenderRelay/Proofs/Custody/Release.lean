import RenderRelay.Proofs.Custody.Accounts
import RenderRelay.Proofs.Custody.Erasure

/-!
What the engine makes it releases, once. Every command leaves the accounts in order for the context
that carries it out (`dispatch_accounts`), so does every envelope for the thread, and a thread that
stops holds nothing any more.
-/

namespace RenderRelay

open DeviceOp Ledgered

variable {σ φ τ : Type} {B : Backend σ} {H : Host B φ τ}

namespace Context

variable {c : Context B.ledgered φ} {others : List Object} {d : Ledgered B.Device}

/-! ### Commands that make and release nothing -/

def HasCanvas (c : Context B.ledgered φ) (canvas : Numbered B.Canvas) : Prop :=
  c.canvas.map (·.number) = some canvas.number

def HasLayer (c : Context B.ledgered φ) (handle : LayerHandle) (layer : Numbered B.Layer) : Prop :=
  (c.registry.layers.get? handle).map (·.layer.number) = some layer.number

theorem HasCanvas.mem {canvas : Numbered B.Canvas} (has : c.HasCanvas canvas) :
    .canvas canvas.number ∈ c.holdings ++ others := by
  obtain ⟨held, there, same⟩ := Option.map_eq_some_iff.1 has
  refine List.mem_append_left _ (List.mem_append_left _ ?_)
  simp [there, canvasObject, same]

theorem HasLayer.mem {handle : LayerHandle} {layer : Numbered B.Layer}
    (has : c.HasLayer handle layer) : .layer layer.number ∈ c.holdings ++ others := by
  obtain ⟨entry, there, same⟩ := Option.map_eq_some_iff.1 has
  refine List.mem_append_left _ (List.mem_append_right _ ?_)
  exact List.mem_map.2 ⟨_, Table.mem_of_get? there, by simp [layerObject, same]⟩

theorem ensures_use {α : Type} {held : List Object} {o : Object} (mem : o ∈ held)
    {op : DeviceOp B.Device α} (accounts : Accounts d held) {P : α → Prop} (holds : ∀ a, P a) :
    (doing o .used op).Ensures d fun a d' => P a ∧ Accounts d' held :=
  ensures_doing fun a inner => ⟨holds a, (accounts.used mem).inside inner⟩

theorem ensures_use_map {α β : Type} {held : List Object} {o : Object} (mem : o ∈ held)
    {op : DeviceOp B.Device α} {f : α → β} (accounts : Accounts d held) {P : β → Prop}
    (holds : ∀ a, P (f a)) :
    (doing o .used op >>= fun a => pure (f a)).Ensures d fun b d' => P b ∧ Accounts d' held := by
  refine ensures_bind.2 ((ensures_use mem accounts holds).mono fun a d' used => ?_)
  exact ensures_pure.2 used

variable (H c others)

/-- What the operations keep while a context uses what it holds. -/
def custody : Constraint H.ledgered where
  device d := Accounts d (c.holdings ++ others)
  canvas := c.HasCanvas
  layer := c.HasLayer
  surface _ := True
  callback _ _ := True
  report _ _ accounts := accounts.inside _
  invoke _ _ _ _ _ _ accounts := accounts.inside _
  bindSurface _ _ _ has _ _ accounts := ensures_use_map has.mem accounts fun _ => has
  unbindSurface _ has _ accounts := ensures_use_map has.mem accounts fun _ => has
  resize _ _ has _ accounts := ensures_use_map has.mem accounts fun _ => has
  beginFrame _ _ has _ accounts := ensures_use_map has.mem accounts fun _ => has
  drawOp _ _ _ accounts := ensures_within.2 (.of_forall fun _ inner => accounts.inside inner)
  flush _ _ accounts := ensures_within.2 (.of_forall fun _ inner => accounts.inside inner)
  endFrame _ _ has _ accounts := ensures_use_map has.mem accounts fun _ => has
  beginLayerFrame _ _ has _ accounts := ensures_use_map has.mem accounts fun _ => has
  endLayerFrame _ _ _ has _ accounts := ensures_use_map has.mem accounts fun _ => has
  drawLayer _ _ _ _ _ has _ accounts := (ensures_use has.mem accounts fun _ => trivial).mono
    fun _ _ used => used.2
  copyLayer _ _ has _ accounts := (ensures_use has.mem accounts fun _ => trivial).mono
    fun _ _ used => used.2
  trimCaches _ has _ accounts := ensures_use_map has.mem accounts fun _ => has

variable {H c others}

theorem fits_custody (c : Context B.ledgered φ) (others : List Object) :
    (custody H c others).Fits c where
  canvas canvas there := by simp [custody, HasCanvas, there]
  layers e mem := by simp [custody, HasLayer, Table.get?_of_mem mem]
  callbacks _ _ _ := trivial

/-- A context that kept its canvas and its layers holds what it held. -/
theorem holdings_perm {c' : Context B.ledgered φ} (fits : (custody H c others).Fits c')
    (stays : c.Stays c') : c.holdings.Perm c'.holdings := by
  have canvas : c'.canvas.toList.map canvasObject = c.canvas.toList.map canvasObject := by
    have same := stays.canvas
    cases there' : c'.canvas with
    | none =>
      have gone : c.canvas = none := by simpa [there'] using same.symm
      rw [gone]
    | some canvas' =>
      obtain ⟨canvas, there, number⟩ := Option.map_eq_some_iff.1 (fits.canvas canvas' there')
      simp [there, canvasObject, number]
  -- what a layer is follows from its name
  let object (handle : LayerHandle) : Object :=
    .layer ((c.registry.layers.get? handle).elim 0 (·.layer.number))
  have layers (c₁ : Context B.ledgered φ) (fits : (custody H c others).Fits c₁) :
      c₁.registry.layers.entries.map layerObject = c₁.registry.layers.keys.map object := by
    rw [Table.keys, List.map_map]
    refine List.map_congr_left fun e mem => ?_
    obtain ⟨entry, there, number⟩ := Option.map_eq_some_iff.1 (fits.layers e mem)
    simp [object, there, layerObject, number]
  unfold holdings
  rw [canvas, layers c (fits_custody c others), layers c' fits]
  exact .append_left _ (stays.layers.symm.map object)

theorem supports_of_plain {K : Constraint H.ledgered} (surfaces : ∀ s, K.surface s)
    (callbacks : ∀ id f, K.callback id f) {command : Command σ φ}
    (plain : command.isResourceful = false) (fresh : LayerHandle) :
    K.correspondence.Supports fresh fresh command := by
  cases command with
  | bindSurface s => exact surfaces s
  | updateSurface s => exact fun t _ => surfaces t
  | attachFunctor functor => exact callbacks _ _
  | createLayer size => simp [Command.isResourceful] at plain
  | destroyLayer layer => simp [Command.isResourceful] at plain
  | destroy full => exact fun isFull => by simp [Command.isResourceful, isFull] at plain
  | _ => trivial

theorem plain_accounts (accounts : Accounts d (c.holdings ++ others)) {command : Command σ φ}
    (plain : command.isResourceful = false) (fresh : LayerHandle) :
    (c.dispatch H.ledgered fresh command).Ensures d fun r d' =>
      Accounts d' (r.2.holdings ++ others) := by
  have supports := supports_of_plain (K := custody H c others) (fun _ => trivial)
    (fun _ _ => trivial) plain fresh
  intro r d' run
  have kept := Constraint.dispatch_fits (fits_custody c others) supports accounts r d' run
  have stays := dispatch_stays H.ledgered c fresh plain d r d' run
  have named := (dispatch_evolves H.ledgered c fresh command d r d' run).2
  exact kept.2.perm ((holdings_perm (kept.1 named) stays).append_right others)

/-! ### Commands that make or release -/

theorem ensures_make {α : Type} {held : List Object} {kind : Nat → Object}
    (number : ∀ n, (kind n).number = n) (accounts : Accounts d held)
    (op : DeviceOp B.Device (Except RenderError α)) :
    (within op >>= fun made => numbered kind made).Ensures d fun r d' =>
      (∀ e, r = .error e → Accounts d' held) ∧
        ∀ made, r = .ok made → Accounts d' (kind made.number :: held) := by
  refine ensures_bind.2 (ensures_within.2 (.of_forall fun result inner => ?_))
  have accounts := accounts.inside inner
  cases result with
  | error e => exact ensures_pure.2 ⟨fun _ _ => accounts, by simp⟩
  | ok value =>
    refine ensures_bind.2 (ensures_register.2 (ensures_pure.2 ⟨by simp, ?_⟩))
    rintro made ⟨⟩
    exact accounts.registered number

theorem createLayer_accounts (accounts : Accounts d (c.holdings ++ others)) {fresh : LayerHandle}
    (unused : c.registry.layers.get? fresh = none) (size : Viewport) :
    (c.createLayer H.ledgered fresh size).Ensures d fun r d' =>
      Accounts d' (r.2.holdings ++ others) := by
  unfold createLayer
  split
  case h_1 => exact ensures_pure.2 accounts
  case h_2 canvas there =>
    refine ensures_bind.2 ((ensures_make (fun _ => rfl) accounts _).mono fun r d₁ made => ?_)
    cases r with
    | error e => exact ensures_pure.2 (made.1 e rfl)
    | ok layer =>
      refine ensures_bind.2 ((ensures_note H.ledgered).2 (ensures_pure.2 ?_))
      refine ((made.2 layer rfl).inside _).perm ?_
      have entries := (Table.insert_entries (v := (⟨layer, size⟩ : LayerEntry _)) unused).map
        layerObject
      have middle : (.layer layer.number :: c.holdings).Perm
          (c.canvas.toList.map canvasObject ++
            .layer layer.number :: c.registry.layers.entries.map layerObject) :=
        List.perm_middle.symm
      exact (middle.trans (entries.symm.append_left _)).append_right others

theorem destroyLayer_accounts {layer : LayerHandle} {entry : LayerEntry (Numbered B.Layer)}
    (accounts : Accounts d (c.holdings ++ others))
    (there : c.registry.layers.get? layer = some entry) :
    (B.ledgered.destroyLayer entry.layer).Ensures d fun _ d' =>
      Accounts d'
        ({ c with registry := c.registry.removeLayer layer : Context B.ledgered φ }.holdings ++
          others) := by
  refine ensures_doing fun _ inner => ?_
  have entries := (Table.entries_perm there).map layerObject
  have holdings := ((entries.append_left (c.canvas.toList.map canvasObject)).trans
    List.perm_middle).append_right others
  exact (Accounts.released (accounts.perm holdings)).inside inner

theorem destroyLayers_accounts {layers : List (LayerHandle × LayerEntry (Numbered B.Layer))}
    (accounts : Accounts d (layers.map layerObject ++ others)) :
    (destroyLayers (B := B.ledgered) layers).Ensures d fun _ d' => Accounts d' others := by
  induction layers generalizing d with
  | nil => exact ensures_pure.2 accounts
  | cons e rest ih =>
    refine ensures_bind.2 (ensures_doing fun _ inner => ih ?_)
    exact (Accounts.released accounts).inside inner

/-- Whatever a context holds is released, and it holds nothing any more. -/
theorem releaseAll_accounts (accounts : Accounts d (c.holdings ++ others)) :
    c.releaseAll.Ensures d fun c' d' => Accounts d' others ∧ c'.holdings = [] := by
  have layers : (c.holdings ++ others).Perm (c.registry.layers.entries.map layerObject ++
      (c.canvas.toList.map canvasObject ++ others)) := by
    unfold holdings
    rw [← List.append_assoc]
    exact List.perm_append_comm.append_right others
  refine ensures_bind.2 ((destroyLayers_accounts (accounts.perm layers)).mono ?_)
  intro _ d₁ accounts
  split
  case h_1 there =>
    refine ensures_pure.2 ⟨by simpa [there] using accounts, ?_⟩
    simp [holdings, there, Registry.empty, Table.empty]
  case h_2 canvas there =>
    rw [there] at accounts
    refine ensures_bind.2 (ensures_doing fun _ inner => ensures_pure.2 ⟨?_, ?_⟩)
    · exact (Accounts.released accounts).inside inner
    · simp [holdings, Registry.empty, Table.empty]

theorem teardown_accounts (accounts : Accounts d (c.holdings ++ others)) :
    (c.teardown H.ledgered).Ensures d fun _ d' => Accounts d' others := by
  refine ensures_bind.2 ((releaseAll_accounts accounts).mono fun c' d' released => ?_)
  exact (ensures_note H.ledgered).2 (released.1.inside _)

theorem release_accounts (accounts : Accounts d (c.holdings ++ others)) :
    (c.release H.ledgered true).Ensures d fun c' d' => Accounts d' (c'.holdings ++ others) := by
  refine ensures_bind.2 ((releaseAll_accounts accounts).mono fun c' d' released => ?_)
  refine ensures_bind.2 ((ensures_note H.ledgered).2 (ensures_pure.2 ?_))
  rw [released.2]
  exact released.1.inside _

theorem destroy_accounts (accounts : Accounts d (c.holdings ++ others)) :
    (c.destroy H.ledgered true).Ensures d fun c' d' => Accounts d' (c'.holdings ++ others) := by
  rw [destroy_eq]
  split
  case h_1 there => exact release_accounts accounts
  case h_2 canvas there =>
    have has : c.HasCanvas canvas := by simp [HasCanvas, there]
    refine ensures_bind.2 (((custody H c others).unbindSurface canvas has d accounts).mono ?_)
    rintro canvas' d₁ ⟨has', used⟩
    have same : canvas'.number = canvas.number := by
      simpa [custody, HasCanvas, there] using has'.symm
    have accounts : Accounts d₁ (c.holdings ++ others) := used
    refine release_accounts ?_
    simpa [holdings, there, canvasObject, same] using accounts

/-- **A command leaves the accounts in order.** -/
theorem dispatch_accounts (accounts : Accounts d (c.holdings ++ others)) {fresh : LayerHandle}
    (unused : c.registry.layers.get? fresh = none) (command : Command σ φ) :
    (c.dispatch H.ledgered fresh command).Ensures d fun r d' =>
      Accounts d' (r.2.holdings ++ others) := by
  have reported := accounts.inside
    (H.report ⟨.trace, .context, s!"[{c.name}] {command.name}"⟩ d.inner)
  cases resourceful : command.isResourceful with
  | false => exact plain_accounts accounts resourceful fresh
  | true =>
    refine ensures_bind.2 ((ensures_note H.ledgered).2 ?_)
    cases command with
    | createLayer size =>
      refine ensures_bind.2 ((createLayer_accounts reported unused size).mono fun r d' made => ?_)
      exact ensures_pure.2 made
    | destroyLayer layer =>
      simp only [execute]
      split
      case h_1 entry there =>
        refine ensures_bind.2 ((destroyLayer_accounts reported there).mono fun _ d' gone => ?_)
        exact ensures_pure.2 gone
      case h_2 =>
        refine ensures_bind.2 ((ensures_note H.ledgered).2 (ensures_pure.2 ?_))
        exact reported.inside _
    | destroy full =>
      obtain rfl : full = true := resourceful
      refine ensures_bind.2 ((destroy_accounts reported).mono fun c' d' released => ?_)
      exact ensures_pure.2 released
    | _ => simp [Command.isResourceful] at resourceful

end Context

/-! ### The thread -/

namespace RenderLoop

variable {loop : RenderLoop B.ledgered φ} {d : Ledgered B.Device}

def otherHoldings (loop : RenderLoop B.ledgered φ) (h : ProxyHandle) : List Object :=
  (loop.contexts.erase h).entries.flatMap fun e => e.2.holdings

theorem holdings_perm {h : ProxyHandle} {c : Context B.ledgered φ}
    (there : loop.contexts.get? h = some c) :
    loop.holdings.Perm (c.holdings ++ loop.otherHoldings h) :=
  (Table.entries_perm there).flatMap_right _

theorem insert_holdings (loop : RenderLoop B.ledgered φ) (h : ProxyHandle)
    (c : Context B.ledgered φ) (nextLayer : LayerHandle) :
    (c.holdings ++ loop.otherHoldings h).Perm
      (⟨loop.contexts.insert h c, nextLayer⟩ : RenderLoop B.ledgered φ).holdings :=
  ((Table.insert_perm loop.contexts h c).flatMap_right
    fun e : ProxyHandle × Context B.ledgered φ => e.2.holdings).symm

theorem create_accounts (accounts : Accounts d loop.holdings) {h : ProxyHandle}
    (unknown : loop.contexts.get? h = none) (translucent : Bool) :
    (create H.ledgered loop h translucent).Ensures d fun r d' => Accounts d' r.2.holdings := by
  refine ensures_bind.2
    ((Context.ensures_make (fun _ => rfl) accounts (B.createCanvas translucent)).mono ?_)
  intro made d₁ kept
  cases made with
  | error e =>
    refine ensures_bind.2 (H.ledgered.ensures_note.2 (ensures_pure.2 ?_))
    exact (kept.1 e rfl).inside _
  | ok canvas =>
    refine ensures_bind.2 (H.ledgered.ensures_note.2 (ensures_pure.2 ?_))
    refine ((kept.2 canvas rfl).inside _).perm ?_
    have others : loop.otherHoldings h = loop.holdings := by
      unfold otherHoldings
      rw [Table.erase_entries unknown]
      rfl
    have inserted := insert_holdings loop h (.ofCanvas h canvas) loop.nextLayer
    rwa [others] at inserted

theorem run_accounts (accounts : Accounts d loop.holdings) (named : loop.Named) (h : ProxyHandle)
    (command : Command σ φ) :
    (run H.ledgered loop h command).Ensures d fun r d' => Accounts d' r.2.holdings := by
  unfold run
  split
  case h_1 =>
    refine ensures_bind.2 (H.ledgered.ensures_note.2 (ensures_pure.2 ?_))
    exact accounts.inside _
  case h_2 c there =>
    have kept := Context.dispatch_accounts (H := H) (accounts.perm (holdings_perm there))
      (named.unused there) command
    refine ensures_bind.2 (kept.mono fun r d' accounts => ensures_pure.2 ?_)
    exact accounts.perm (insert_holdings loop h r.2 _)

theorem dispose_accounts (accounts : Accounts d loop.holdings) (h : ProxyHandle) :
    (dispose H.ledgered loop h).Ensures d fun loop' d' => Accounts d' loop'.holdings := by
  unfold dispose
  split
  case h_1 =>
    refine ensures_bind.2 (H.ledgered.ensures_note.2 (ensures_pure.2 ?_))
    exact accounts.inside _
  case h_2 c there =>
    have kept := Context.teardown_accounts (H := H) (accounts.perm (holdings_perm there))
    exact ensures_bind.2 (kept.mono fun _ d' accounts => ensures_pure.2 accounts)

theorem teardownAll_accounts {contexts : List (ProxyHandle × Context B.ledgered φ)}
    (accounts : Accounts d (contexts.flatMap fun e => e.2.holdings)) :
    (teardownAll H.ledgered contexts).Ensures d fun _ d' => Accounts d' [] := by
  induction contexts generalizing d with
  | nil => exact ensures_pure.2 accounts
  | cons e rest ih =>
    refine ensures_bind.2 (H.ledgered.ensures_note.2 (ensures_bind.2 ?_))
    exact (Context.teardown_accounts (accounts.inside _)).mono fun _ d' accounts => ih accounts

/-- **An envelope leaves the accounts in order**, and the last one leaves nothing held. -/
theorem serve_accounts (accounts : Accounts d loop.holdings) (named : loop.Named)
    (envelope : Envelope σ φ τ)
    (unknown : ∀ h, envelope.created? = some h → loop.contexts.get? h = none) :
    (serve H.ledgered loop envelope).Ensures d fun served d' =>
      (∀ loop' ack, served = .next loop' ack → Accounts d' loop'.holdings) ∧
        (served = .stopped → Accounts d' []) := by
  refine serve_ensures (P := fun loop d => Accounts d loop.holdings) (Q := fun d => Accounts d [])
    envelope ?_ (run_accounts accounts named) (dispose_accounts accounts)
    (fun task => accounts.inside _) (fun record d' accounts => accounts.inside _) ?_
  · rintro h translucent rfl
    exact create_accounts accounts (unknown h rfl) translucent
  · refine ensures_bind.2 ((teardownAll_accounts accounts).mono fun _ d' accounts => ?_)
    exact H.ledgered.ensures_note.2 (accounts.inside _)

/-- **So does a list of envelopes.** -/
theorem serveAll_accounts {turns : List (Turn σ φ τ)} (fresh : Fresh turns loop)
    (named : loop.Named) (accounts : Accounts d loop.holdings) :
    (serveAll H.ledgered turns loop).Ensures d fun r d' =>
      (∀ loop', r.2 = some loop' → Accounts d' loop'.holdings) ∧
        (r.2 = none → Accounts d' []) := by
  have kept := serveAll_ensures (H := H.ledgered) turns
    (P := fun turns loop d => Fresh turns loop ∧ loop.Named ∧ Accounts d loop.holdings)
    (Q := fun d => Accounts d [])
    (fun turn rest loop d holds => ?_) ⟨fresh, named, accounts⟩
  · exact kept.mono fun r d' kept => ⟨fun loop' same => (kept.1 loop' same).2.2, kept.2⟩
  · obtain ⟨fresh, named, accounts⟩ := holds
    intro served d' run
    have serves := serve_serves _ _ _ _ _ _ run
    have accounts : Accounts d (loop.later turn.others).holdings := accounts
    have kept := serve_accounts (H := H) accounts (named.later turn.others) turn.envelope
      fresh.asked served d' run
    refine ⟨?_, kept.2⟩
    rintro loop' ack rfl
    exact ⟨fresh.next serves, (named.later turn.others).serves serves, kept.1 loop' ack rfl⟩

end RenderLoop

end RenderRelay

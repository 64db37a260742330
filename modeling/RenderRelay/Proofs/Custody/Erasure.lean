import RenderRelay.Proofs.Correspondence.Thread
import RenderRelay.Proofs.Custody.Ledger

/-!
A ledger changes nothing. A backend and the same one with a ledger correspond in everything, so that
whatever a render thread is sent, it does the same on both (`serveAll_ledgered`).
-/

namespace RenderRelay

open DeviceOp Ledgered

variable {σ φ τ : Type} {B : Backend σ}

namespace Ledgered

variable {δ α β : Type}

/-- What the second device has inside is the first one. -/
def Inside (d : δ) (d' : Ledgered δ) : Prop := d'.inner = d

theorem within_simulates (op : DeviceOp δ α) :
    Simulates Inside (fun a a' => a' = a) op (within op) := by
  rintro _ d rfl a inner run
  exact ⟨a, { d with inner }, by rw [runOn_within, run], rfl, rfl⟩

theorem doing_simulates (object : Object) (deed : Deed) (op : DeviceOp δ α) :
    Simulates Inside (fun a a' => a' = a) op (doing object deed op) := by
  rintro _ d rfl a inner run
  refine ⟨a, { d.enter object deed with inner }, ?_, rfl, rfl⟩
  unfold doing
  rw [runOn_bind, runOn_modify]
  simp only [runOn_within]
  rw [show (enter object deed d).inner = d.inner from rfl, run]

theorem doing_map_simulates {R : α → β → Prop} (object : Object) (deed : Deed)
    (op : DeviceOp δ α) (f : α → β) (rel : ∀ a, R a (f a)) :
    Simulates Inside R op (doing object deed op >>= fun a => pure (f a)) := by
  have sim : Simulates Inside R (op >>= pure) (doing object deed op >>= fun a => pure (f a)) := by
    refine (doing_simulates object deed op).bind ?_
    rintro _ a rfl
    exact simulates_pure (rel a)
  rwa [bind_pure] at sim

theorem numbered_simulates (kind : Nat → Object) (op : DeviceOp δ (Except RenderError α)) :
    Simulates Inside (Outcome fun a a' => a'.value = a) op
      (within op >>= fun made => numbered kind made) := by
  have sim : Simulates Inside (Outcome fun a a' => a'.value = a) (op >>= pure)
      (within op >>= fun made => numbered kind made) := by
    refine (within_simulates op).bind ?_
    rintro _ made rfl _ d rfl
    refine ensures_pure.2 ?_
    cases made with
    | error e => exact ⟨_, d, rfl, .error e, rfl⟩
    | ok value => exact ⟨_, _, rfl, .ok rfl, rfl⟩
  rwa [bind_pure] at sim

end Ledgered

namespace Backend

/-- What a canvas or a layer is on the side without numbers. -/
def Unnumbered {α : Type} (a : α) (a' : Numbered α) : Prop := a'.value = a

variable (H : Host B φ τ)

def erasure : Correspondence H H.ledgered where
  rename h := h
  injective _ _ same := same
  device := Inside
  canvas := Unnumbered
  layer _ := Unnumbered
  frame f f' := f' = f
  surface _ := True
  callback _ _ := True
  backend := rfl
  capabilities := by
    rintro _ d rfl
    rfl
  report := by
    rintro level reporter text handle _ d rfl
    rfl
  invoke := by
    rintro id f _ frame info - rfl
    refine simulates_lift ?_
    rintro _ d rfl
    exact ⟨⟨rfl, rfl⟩, rfl⟩
  bindSurface := by
    rintro _ canvas s viewport rfl -
    exact doing_map_simulates _ _ _ _ fun r => ⟨rfl, rfl⟩
  unbindSurface := by
    rintro _ canvas rfl
    exact doing_map_simulates _ _ _ _ fun r => rfl
  resize := by
    rintro _ canvas viewport rfl
    exact doing_map_simulates _ _ _ _ fun r => ⟨rfl, rfl⟩
  beginFrame := by
    rintro _ canvas damage rfl
    refine doing_map_simulates _ _ _ _ fun r => ⟨?_, rfl⟩
    rcases r with ⟨e | _ | frame, value⟩
    · exact .error e
    · exact .ok .none
    · exact .ok (.some rfl)
  drawOp := by
    rintro _ frame item rfl
    exact within_simulates _
  flush := by
    rintro _ frame rfl
    exact within_simulates _
  endFrame := by
    rintro _ canvas _ frame rfl rfl
    exact doing_map_simulates _ _ _ _ fun r => ⟨rfl, rfl⟩
  beginLayerFrame := by
    rintro handle _ layer rfl
    refine doing_map_simulates _ _ _ _ fun r => ⟨?_, rfl⟩
    rcases r with ⟨e | frame, value⟩
    · exact .error e
    · exact .ok rfl
  endLayerFrame := by
    rintro handle _ layer _ frame rfl rfl
    exact doing_map_simulates _ _ _ _ fun r => rfl
  drawLayer := by
    rintro handle _ frame _ layer dst clip rfl rfl
    exact doing_simulates _ _ _
  copyLayer := by
    rintro handle _ layer rfl
    exact doing_simulates _ _ _
  trimCaches := by
    rintro _ canvas rfl
    exact doing_map_simulates _ _ _ _ fun r => rfl

theorem erasure_complete : (erasure H).Complete where
  rename := rfl
  surfaces _ := trivial
  callbacks _ _ := trivial
  createsLayers fresh := by
    refine ⟨fun size => numbered_simulates .layer (B.createLayer size), ?_⟩
    rintro level reporter text _ d rfl
    rfl
  destroysLayers := by
    rintro handle _ layer rfl
    exact (doing_simulates _ _ _).mono fun _ _ _ => trivial
  createsCanvases translucent := numbered_simulates .canvas (B.createCanvas translucent)
  destroysCanvases := by
    rintro _ canvas rfl
    exact (doing_simulates _ _ _).mono fun _ _ _ => trivial
  performs task := by
    refine simulates_lift ?_
    rintro _ d rfl
    exact ⟨rfl, rfl⟩

end Backend

/-- **A thread on a backend with a ledger does what it does without.** -/
theorem RenderLoop.serveAll_ledgered {H : Host B φ τ} {turns : List (Turn σ φ τ)}
    {nextLayer : LayerHandle} {d d' : B.Device} {acks : List Acknowledgement}
    {final : Option (RenderLoop B φ)}
    (run : (serveAll H turns (.start nextLayer)).runOn d = (.ok (acks, final), d')) :
    ∃ final' d'',
      (serveAll H.ledgered turns (.start nextLayer)).runOn (Ledgered.start d) =
        (.ok (acks, final'), d'') ∧
      final'.isSome = final.isSome ∧ d''.inner = d' := by
  have started : (Backend.erasure H).Loops (.start nextLayer) (.start nextLayer) :=
    ⟨.empty, rfl⟩
  obtain ⟨⟨_, final'⟩, d'', run', ⟨rfl, finals⟩, inside⟩ :=
    (Backend.erasure_complete H).serveAll_simulates turns started d (Ledgered.start d) rfl _ _ run
  exact ⟨final', d'', run', isSome_of_rel finals, inside⟩

end RenderRelay

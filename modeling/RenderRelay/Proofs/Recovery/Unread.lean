import RenderRelay.Proofs.Correspondence.Thread
import RenderRelay.Proofs.Isolation.Apart

/-!
Devices that differ in what nothing on them reads. Where reports go is no part of what callbacks and
tasks work with (`Unread`), and nothing reads what surfaces show; so a context does the same on two
such devices whatever it is told (`Unread.fellows`).
-/

namespace RenderRelay

open DeviceOp

/-- Devices that are related are put in the place of those before. -/
theorem DeviceOp.simulates_set {δ₁ δ₂ : Type} {D : δ₁ → δ₂ → Prop} {d₁ : δ₁} {d₂ : δ₂}
    (devices : D d₁ d₂) : Simulates D (fun _ _ => True) (set d₁) (set d₂) :=
  fun _ _ _ => ensures_set.2 ⟨⟨⟩, d₂, rfl, trivial, devices⟩

namespace Headless

variable {ω π φ τ : Type} {report : LogRecord → ω → ω}
  {invoke : φ → Frame → FunctorInfo → StateM ω (Frame × Completion)}
  {perform : τ → StateM ω Completion} {part : ω → π}

/-! ### Pairings that leave nothing out -/

namespace Pairing

variable {P : Pairing report invoke}

/-- Everything may be bound and attached, and layers keep their names. -/
structure Open (P : Pairing report invoke) : Prop where
  rename : P.rename = fun h => h
  surfaces : ∀ s, P.surface s
  callbacks : ∀ f, P.callback f

variable (perform)

theorem Open.registries_iff (opened : P.Open) {r r' : Registry Layer φ} :
    (P.correspondence perform).Registries r r' ↔ r' = r := by
  have rename : (P.correspondence perform).rename = fun h => h := opened.rename
  constructor
  · intro registries
    have layers : r'.layers = r.layers := by
      have entries : r.layers.entries = r'.layers.entries := by
        refine List.forall₂_eq_eq_eq ▸ List.Forall₂.imp ?_ registries.layers
        rintro ⟨h, ⟨layer, size⟩⟩ ⟨h', ⟨layer', size'⟩⟩ ⟨name, same, sized⟩
        obtain rfl : h' = h := by simpa [rename] using name
        obtain rfl : layer = layer' := same
        obtain rfl : size' = size := sized
        rfl
      generalize r.layers = t, r'.layers = t' at entries
      cases t
      cases t'
      simpa using entries.symm
    have pending : r'.pending = r.pending := by simpa [rename] using registries.pending
    have last : r'.lastDrawn = r.lastDrawn := by simpa [rename] using registries.lastDrawn
    exact congr (congr (congr (congrArg Registry.mk registries.functors) layers) pending) last
  · rintro rfl
    refine ⟨rfl, fun _ _ _ => opened.callbacks _, ?_, by simp [rename], by simp [rename]⟩
    exact List.forall₂_same.2 fun e _ => ⟨by rw [rename], rfl, rfl⟩

theorem Open.contexts_iff (opened : P.Open) {c c' : Context (backend report) φ} :
    (P.correspondence perform).Contexts c c' ↔ c' = c := by
  constructor
  · rintro ⟨canvas, registry⟩
    rw [opened.registries_iff] at registry
    subst registry
    cases canvas with
    | none => rfl
    | some canvases => rw [canvases.1]
  · rintro rfl
    obtain ⟨h, name, canvas, registry, size, bound, redraw, stats⟩ := c'
    refine .of_parts ?_ ((opened.registries_iff perform).2 rfl)
    cases canvas with
    | none => exact .none
    | some canvas => exact .some ⟨rfl, fun s _ => opened.surfaces s⟩

end Pairing

/-! ### Unread reports -/

/-- Callbacks and tasks work in a part of the world that is not reported to. -/
structure Unread (report : LogRecord → ω → ω)
    (invoke : φ → Frame → FunctorInfo → StateM ω (Frame × Completion))
    (perform : τ → StateM ω Completion) (part : ω → π) : Prop where
  reports : ∀ record world, part (report record world) = part world
  callbacks : ∀ f, Confined invoke part f
  tasks : ∀ task world world', part world' = part world →
    (perform task world').1 = (perform task world).1 ∧
      part (perform task world').2 = part (perform task world).2

/-- Devices of one setup with the same in that part, and with galleries that `G` relates. -/
structure Device.Beside (config : Config) (G : Gallery → Gallery → Prop) (part : ω → π)
    (d d' : Device ω) : Prop where
  first : d.config = config
  second : d'.config = config
  live : d'.live = d.live
  gallery : G d.gallery d'.gallery
  part : part d'.outside = part d.outside

/-- The same frame on the same surface is shown in both galleries or in none, and keeps them
related. -/
structure Presentable (G : Gallery → Gallery → Prop) : Prop where
  busy : ∀ s g g', G g g' → g'.isRead s = g.isRead s
  present : ∀ s frame g g', G g g' → G (g.present s frame) (g'.present s frame)

namespace Unread

variable (unread : Unread report invoke perform part) {config : Config}
  {G : Gallery → Gallery → Prop}

include unread

theorem reported {d d' : Device ω} (beside : Device.Beside config G part d d')
    (record record' : LogRecord) :
    Device.Beside config G part { d with outside := report record d.outside }
      { d' with outside := report record' d'.outside } :=
  ⟨beside.first, beside.second, beside.live, beside.gallery, by simp [unread.reports, beside.part]⟩

def pairing (config : Config) (presentable : Presentable G) : Pairing report invoke where
  rename h := h
  injective _ _ same := same
  device := Device.Beside config G part
  surface _ := True
  callback _ := True
  config _ _ beside := beside.second.trans beside.first.symm
  report _ _ _ _ _ _ beside := unread.reported beside _ _
  busy s _ _ _ beside := presentable.busy s _ _ beside.gallery
  present s frame _ _ _ beside :=
    ⟨beside.first, beside.second, beside.live, presentable.present s frame _ _ beside.gallery,
      beside.part⟩
  invoke f frame info d d' _ beside := by
    obtain ⟨same, part⟩ := unread.callbacks f frame info d.outside d'.outside beside.part
    exact ⟨same, beside.first, beside.second, beside.live, beside.gallery, part⟩

theorem pairing_open (config : Config) (presentable : Presentable G) :
    (unread.pairing config presentable).Open :=
  ⟨rfl, fun _ => trivial, fun _ => trivial⟩

theorem note_simulates (text : String) :
    Simulates (Device.Beside config G part) (fun _ _ => True) (note report text)
      (note report text) :=
  simulates_modify fun _ _ beside => unread.reported beside _ _

theorem createCanvas_simulates (presentable : Presentable G) (translucent : Bool) :
    Simulates (Device.Beside config G part) (Outcome (unread.pairing config presentable).Canvases)
      (createCanvas report translucent) (createCanvas report translucent) := by
  unfold createCanvas
  refine simulates_get.bind fun d d' beside => ?_
  obtain ⟨_, _, gallery, world⟩ := d
  obtain ⟨configured, live, gallery', world'⟩ := d'
  obtain ⟨rfl, rfl, rfl, shown, same⟩ := beside
  simp only
  cases configured.maxCanvases.filter (· ≤ live) with
  | some limit => exact simulates_pure (.error _)
  | none =>
    refine (simulates_set ⟨rfl, rfl, rfl, shown, same⟩).bind fun _ _ _ => ?_
    exact (unread.note_simulates _).bind fun _ _ _ => simulates_pure (.ok (.unbound rfl))

theorem uncount_simulates :
    Simulates (Device.Beside config G part) (fun _ _ => True)
      (do
        let d ← get
        set { d with live := d.live - 1 }
        note report s!"headless canvas destroyed (live={d.live - 1})")
      (do
        let d ← get
        set { d with live := d.live - 1 }
        note report s!"headless canvas destroyed (live={d.live - 1})") := by
  refine simulates_get.bind fun d d' beside => ?_
  rw [beside.live]
  have counted : Device.Beside config G part { d with live := d.live - 1 }
      { d' with live := d.live - 1 } :=
    ⟨beside.first, beside.second, rfl, beside.gallery, beside.part⟩
  exact (simulates_set counted).bind fun _ _ _ => unread.note_simulates _

/-- **A context does the same on both devices.** -/
theorem fellows (presentable : Presentable G) :
    Fellows (host report invoke perform) (host report invoke perform) (Device.Beside config G part)
      fun c c' => c' = c := by
  have complete : ((unread.pairing config presentable).correspondence perform).Complete := {
    rename := rfl
    surfaces := fun _ => trivial
    callbacks := fun _ _ => trivial
    createsLayers := fun fresh =>
      Pairing.createsLayers _ fun _ _ _ _ _ beside => unread.reported beside _ _
    destroysLayers := Pairing.destroysLayers _
    createsCanvases := unread.createCanvas_simulates presentable
    destroysCanvases := by
      rintro canvas _ ⟨rfl, -⟩
      exact ((unread.pairing config presentable).unbindSurface_simulates canvas).bind fun _ _ _ =>
        unread.uncount_simulates
    performs := by
      intro task
      refine simulates_lift fun d d' beside => ?_
      obtain ⟨same, part⟩ := unread.tasks task d.outside d'.outside beside.part
      exact ⟨same, beside.first, beside.second, beside.live, beside.gallery, part⟩ }
  have same : ((unread.pairing config presentable).correspondence perform).Contexts =
      fun c c' : Context (backend report) φ => c' = c := by
    funext c c'
    exact propext ((unread.pairing_open config presentable).contexts_iff perform)
  exact same ▸ complete.fellows

end Unread

end Headless

end RenderRelay

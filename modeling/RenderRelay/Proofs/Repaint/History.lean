import RenderRelay.Proofs.Repaint.Frames

/-!
What was done to a context, as far as it bears on what is seen. A `History` is made from the
commands and their replies alone: the surface that is bound, the size that is set, and the frames
that count, which are those drawn since the last binding and the last change of size. `OnSurface`
says what should come to a surface after it.
-/

namespace RenderRelay

namespace Headless

/-! ### Histories -/

structure History where
  surface : Option Surface
  size : Option Viewport
  last : Option DisplayList
  frames : List FrameRecord

namespace History

def start : History := ⟨none, none, none, []⟩

/-- The frame of a draw that does not skip it. The first frame that counts repaints everything. -/
def frame? (h : History) (capabilities : Capabilities) (layers : LayerHandle → Option Bitmap)
    (list : DisplayList) (damage : Damage) : Option FrameRecord := do
  let size ← h.size
  let box ← Context.frameDamage capabilities h.frames.isEmpty size damage
  return ⟨box, list.items, layers⟩

def bind (h : History) (surface : Surface) : Except RenderError Unit → History
  | .ok () => { h with surface := some surface, frames := [] }
  | .error _ => { h with surface := none }

/-- A size, which may be the one that was set. -/
def resize (h : History) (size : Viewport) : History :=
  { h with size := some size, frames := if h.size = some size then h.frames else [] }

def draw (h : History) (capabilities : Capabilities) (layers : LayerHandle → Option Bitmap)
    (list : DisplayList) (damage : Damage) : DrawStatus → History
  | .drawn => { h with
      last := some list
      frames := (h.frame? capabilities layers list damage).toList ++ h.frames }
  | .skipped => { h with last := some list }

theorem draw_drawn {h : History} {capabilities : Capabilities} {damage : Damage}
    {size : Viewport} {box : PixelBox} (layers : LayerHandle → Option Bitmap) (list : DisplayList)
    (sized : h.size = some size)
    (reached : Context.frameDamage capabilities h.frames.isEmpty size damage = some box) :
    h.draw capabilities layers list damage .drawn =
      { h with last := some list, frames := ⟨box, list.items, layers⟩ :: h.frames } := by
  have frame : h.frame? capabilities layers list damage = some ⟨box, list.items, layers⟩ := by
    simp [frame?, sized, reached]
  simp only [draw, frame, Option.toList_some, List.singleton_append]

/-- The history after a command, with the layers as the command leaves them. A frame is drawn when
the updates that waited are done, and changes no layer. -/
def after (h : History) (capabilities : Capabilities) (layers : LayerHandle → Option Bitmap)
    {φ : Type} (command : Command Surface φ) (reply : Option Reply) : History :=
  match command, reply with
  | .bindSurface surface, some (.surface result) => h.bind surface result
  | .updateSurface (some surface), some (.surface result) => h.bind surface result
  | .updateSurface none, _ => { h with surface := none }
  | .setup size, _ => h.resize size
  | .draw list record, some (.drawn status) =>
    h.draw capabilities layers list (.decode record) status
  | .repeatLastDraw, some (.drawn status) =>
    match h.last with
    | some list => h.draw capabilities layers list .whole status
    | none => h
  | .destroy full, _ => { h with surface := none, last := if full then none else h.last }
  | .flushCaches, _ => { h with last := none }
  | _, _ => h

end History

section Lived

variable {ω φ τ : Type} {report : LogRecord → ω → ω}

/-- A context on its device and its history, after any commands but those that attach functors.
Between them the device may change in any way: others draw, and tasks run. -/
inductive Lived (H : Host (backend report) φ τ) (config : Config) (translucent : Bool) :
    History → Context (backend report) φ → Device ω → Prop
  | made {handle : ProxyHandle} {canvas : Canvas} {d d' : Device ω} (configured : d.config = config)
      (run : (createCanvas report translucent).runOn d = (.ok (.ok canvas), d')) :
      Lived H config translucent .start (.ofCanvas handle canvas) d'
  | elsewhere {h : History} {c : Context (backend report) φ} {d d' : Device ω}
      (lived : Lived H config translucent h c d) (configured : d'.config = config) :
      Lived H config translucent h c d'
  | obeyed {h : History} {c c' : Context (backend report) φ} {d d' : Device ω}
      {reply : Option Reply} (lived : Lived H config translucent h c d)
      (fresh : LayerHandle) (command : Command Surface φ)
      (plain : ∀ functor, command ≠ .attachFunctor functor)
      (run : (c.dispatch H fresh command).runOn d = (.ok (reply, c'), d')) :
      Lived H config translucent
        (h.after config.capabilities (layerPixels c'.registry) command reply) c' d'

end Lived

/-! ### What should be seen -/

/-- The buffer has the size, and each of its pixels is what the last of the frames that repainted it
made of it; there is such a frame for each. -/
structure Shows (m : Bitmap) (size : Viewport) (clear : Color) (frames : List FrameRecord) :
    Prop where
  fits : HasSize m size
  pixel : ∀ x y, x < size.width → y < size.height →
    ∃ record, frames.find? (·.damage.contains x y) = some record ∧
      m.pixel? x y = some (record.pixel size clear x y)

/-- A surface is bound and a size is set, and a frame of that size has come to the surface that
shows the frames that count. -/
def History.OnSurface (h : History) (clear : Color) (g g' : Gallery) : Prop :=
  ∃ surface size frame, h.surface = some surface ∧ h.size = some size ∧
    Shows frame size clear h.frames ∧ Presented surface frame g g'

theorem frameDamage_full {capabilities : Capabilities} {size : Viewport} {damage : Damage}
    {box : PixelBox} (reached : Context.frameDamage capabilities true size damage = some box)
    {x y : Nat} (hx : x < size.width) (hy : y < size.height) : box.contains x y = true := by
  have inside : (PixelBox.ofSize size.width size.height).contains x y = true := by
    simp [PixelBox.ofSize, PixelBox.contains, hx, hy]
  rw [← PixelBox.any_contains_nonempty?] at inside
  unfold Context.frameDamage at reached
  cases clipped : Damage.clipTo (if capabilities.partialRedraw then damage else .whole) size with
  | none => simp [clipped] at reached
  | some part =>
    cases full : (PixelBox.ofSize size.width size.height).nonempty? with
    | none => simp [full] at inside
    | some all =>
      rw [full] at inside
      have whole : Damage.clipTo .whole size = some all := full
      simp only [clipped, whole, if_true, Option.getD_some, Option.some.injEq] at reached
      rw [← reached]
      exact inside

/-- **A frame on a buffer that shows the frames before it, or a frame of everything.** -/
theorem Painted.shows {before back : Bitmap} {size : Viewport} {clear : Color}
    {record : FrameRecord} {frames : List FrameRecord}
    (painted : Painted before size clear record back)
    (held : (∀ x y, x < size.width → y < size.height → record.damage.contains x y = true) ∨
      Shows before size clear frames) :
    Shows back size clear (record :: frames) := by
  refine ⟨painted.fits, fun x y hx hy => ?_⟩
  by_cases inside : record.damage.contains x y = true
  · refine ⟨record, ?_, painted.damaged x y hx hy inside⟩
    exact List.find?_cons_of_pos inside
  · rcases held with everything | shows
    · exact absurd (everything x y hx hy) inside
    · obtain ⟨last, found, same⟩ := shows.pixel x y hx hy
      have kept := painted.kept shows.fits x y (by simpa using inside)
      refine ⟨last, ?_, kept.trans same⟩
      simpa [inside] using found

end Headless

end RenderRelay

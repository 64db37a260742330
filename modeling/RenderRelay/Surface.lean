import RenderRelay.Bitmap
import RenderRelay.Table

/-!
Surfaces that frames are presented to, and the gallery of what they show.
-/

namespace RenderRelay

/-- A surface as its owner hands it over. -/
structure Surface where
  number : Nat
  label : String
  /-- Buffers for it can never be had. -/
  unallocatable : Bool
  deriving DecidableEq, Inhabited

/-- What a surface shows: the frame presented last, how many were presented, and how many were
dropped because the owner was reading just then. -/
structure Presentation where
  front : Option Bitmap
  presents : Nat
  dropped : Nat
  deriving DecidableEq, Inhabited

namespace Presentation

def attempts (p : Presentation) : Nat := p.presents + p.dropped

/-- One more frame comes to the surface. The owner is never waited for: while it is reading, the
frame is dropped. -/
def next (p : Presentation) (busy : Bool) (frame : Bitmap) : Presentation :=
  if busy then { p with dropped := p.dropped + 1 }
  else { p with front := some frame, presents := p.presents + 1 }

end Presentation

/-- What every surface shows, by the surface's number, and when the owners read it. -/
structure Gallery where
  shown : Table Nat Presentation
  /-- Whether the owner of a surface holds its lock when a frame comes to it after so many. -/
  reading : Nat → Nat → Bool
  deriving Inhabited

namespace Gallery

def unshown (reading : Nat → Nat → Bool) : Gallery := ⟨.empty, reading⟩

/-- One where no owner ever reads while a frame comes. -/
def empty : Gallery := .unshown fun _ _ => false

/-- What a surface shows; nothing before the first frame. -/
def look (g : Gallery) (s : Surface) : Presentation :=
  (g.shown.get? s.number).getD ⟨none, 0, 0⟩

/-- The owner is reading just when the next frame comes. -/
def isRead (g : Gallery) (s : Surface) : Bool := g.reading s.number (g.look s).attempts

/-- A frame comes to a surface, and is shown there or dropped. -/
def present (g : Gallery) (s : Surface) (frame : Bitmap) : Gallery :=
  { g with shown := g.shown.insert s.number ((g.look s).next (g.isRead s) frame) }

theorem look_unshown (reading : Nat → Nat → Bool) (s : Surface) :
    (unshown reading).look s = ⟨none, 0, 0⟩ :=
  rfl

theorem isRead_congr {g g' : Gallery} {s : Surface} (reading : g'.reading = g.reading)
    (attempts : (g'.look s).attempts = (g.look s).attempts) : g'.isRead s = g.isRead s := by
  unfold isRead
  rw [reading, attempts]

theorem look_present (g : Gallery) (s t : Surface) (frame : Bitmap) :
    (g.present s frame).look t
      = if s.number = t.number then (g.look s).next (g.isRead s) frame else g.look t := by
  unfold look present
  rw [Table.get?_insert]
  split <;> rfl

theorem look_present_self (g : Gallery) (s : Surface) (frame : Bitmap) :
    (g.present s frame).look s = (g.look s).next (g.isRead s) frame := by
  rw [look_present, if_pos rfl]

/-- A surface shows the frame that came last or what it showed before. -/
theorem front_present {g : Gallery} {s t : Surface} {frame front : Bitmap}
    (shown : ((g.present s frame).look t).front = some front) :
    front = frame ∨ (g.look t).front = some front := by
  rw [look_present] at shown
  split at shown
  case isTrue same =>
    have looks : g.look s = g.look t := by
      unfold look
      rw [same]
    unfold Presentation.next at shown
    split at shown
    · exact .inr (looks ▸ shown)
    · exact .inl (Option.some.inj shown).symm
  case isFalse => exact .inr shown

theorem look_present_of_ne (g : Gallery) {s t : Surface} (frame : Bitmap)
    (other : t.number ≠ s.number) : (g.present s frame).look t = g.look t := by
  rw [look_present, if_neg (Ne.symm other)]

end Gallery

end RenderRelay

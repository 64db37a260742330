import RenderRelay.Bench.BitmapBench
import RenderRelay.Proofs.Accesses.Painting

/-!
Runs of operations on bitmaps. The operations are carried out once more on nothing but the memory of
the bitmaps, where a place out of range is a fault (`runRaw`). They never come to one, however the
bitmaps and the areas lie, and bitmaps keep their sizes from operation to operation
(`bitmaps_stay_well_formed`).
-/

namespace RenderRelay.Bench.BitmapStep

/-! ### Operations in memory -/

def fetch (n : Nat) (rs : Array RawBitmap) : Except Fault RawBitmap :=
  match rs[n]? with
  | none => .error (.indexOutOfBounds rs.size n)
  | some r => .ok r

def changeRaw (n : Nat) (work : RawBitmap → Except Fault RawBitmap) (rs : Array RawBitmap) :
    Except Fault (Array RawBitmap) := do
  let r ← fetch n rs
  let r ← work r
  return rs.setIfInBounds n r

def runRaw (step : BitmapStep) (rs : Array RawBitmap) : Except Fault (Array RawBitmap) :=
  match step with
  | new width height => do
    let r ← RawBitmap.ofSize width height
    return rs.push r
  | empty => return rs.push ⟨0, 0, #[]⟩
  | clone n => do
    let r ← fetch n rs
    return rs.push r
  | fill n area color => changeRaw n (·.fill area color) rs
  | blend n area color => changeRaw n (·.blend area color) rs
  | blit n source left top area => do
    let source ← fetch source rs
    changeRaw n (·.blit source left top area) rs
  | dump n | bounds n => do
    let _ ← fetch n rs
    return rs
  | pixel n x y => do
    let r ← fetch n rs
    let _ ← r.pixel x y
    return rs
  | same a b => do
    let _ ← fetch a rs
    let _ ← fetch b rs
    return rs

def runAllRaw (steps : List BitmapStep) (rs : Array RawBitmap) : Except Fault (Array RawBitmap) :=
  steps.foldlM (fun rs step => step.runRaw rs) rs

/-! ### Runs -/

/-- The operation is one on bitmaps that there are, a new bitmap has sides of thirty-two bits, and
copying reaches no pixel that is too far from the source's corner. -/
def Permitted (ms : Array Bitmap) : BitmapStep → Prop
  | new width height => width ≤ 0xffffffff ∧ height ≤ 0xffffffff
  | empty => True
  | clone n | fill n _ _ | blend n _ _ | dump n | pixel n _ _ | bounds n => ∃ m, ms[n]? = some m
  | blit n source left top area => ∃ m s, ms[n]? = some m ∧ ms[source]? = some s ∧
      ∀ x y, area.contains x y = true → m.bounds.contains x y = true → ¬s.Strays left top x y
  | same a b => ∃ m m', ms[a]? = some m ∧ ms[b]? = some m'

inductive Ran : Array Bitmap → List BitmapStep → Array Bitmap → Prop
  | stop (ms : Array Bitmap) : Ran ms [] ms
  | next {first : BitmapStep} {rest : List BitmapStep} {ms ms' : Array Bitmap}
      (permitted : first.Permitted ms) (ran : Ran (first.run ms).2 rest ms') :
      Ran ms (first :: rest) ms'

def SizesKept (ms ms' : Array Bitmap) : Prop :=
  ∀ (n : Nat) (m : Bitmap), ms[n]? = some m →
    ∃ m' : Bitmap, ms'[n]? = some m' ∧ m'.extent = m.extent

def AllAddressable (ms : Array Bitmap) : Prop :=
  ∀ (n : Nat) (m : Bitmap), ms[n]? = some m → m.Addressable

/-- One bitmap was repainted in an area, and nothing else changed. -/
structure Repaints (n : Nat) (area : PixelBox) (f : Pixel → Pixel) (ms ms' : Array Bitmap) :
    Prop where
  count : ms'.size = ms.size
  others : ∀ k : Nat, k ≠ n → ms'[k]? = ms[k]?
  pixels : ∃ m m' : Bitmap, ms[n]? = some m ∧ ms'[n]? = some m' ∧ m'.extent = m.extent ∧
    ∀ x y, m'.pixel? x y = (m.pixel? x y).map fun p => if area.contains x y then f p else p

/-- What laying a colour over a pixel makes of it. -/
def blended (c : Color) (p : Pixel) : Pixel := if c.isOpaque then c.quantize else c.overPixel p

variable {ms ms' : Array Bitmap} {m : Bitmap} {n : Nat} {steps : List BitmapStep}
  {step : BitmapStep}

/-- Copying is permitted with a corner from which all of the area is near enough. -/
theorem permitted_blit {source : Nat} {left top : Int} {area : PixelBox}
    (there : ms[n]?.isSome = true) (there' : ms[source]?.isSome = true)
    (columns : area.x1 - left ≤ Bitmap.offsetLimit) (rows : area.y1 - top ≤ Bitmap.offsetLimit) :
    (blit n source left top area).Permitted ms := by
  obtain ⟨m, there⟩ := Option.isSome_iff_exists.1 there
  obtain ⟨s, there'⟩ := Option.isSome_iff_exists.1 there'
  refine ⟨m, s, there, there', fun x y inside _ strays => ?_⟩
  simp only [PixelBox.contains, Bool.and_eq_true, decide_eq_true_eq] at inside
  rcases strays with far | ⟨-, far⟩ <;> omega

/-! ### One operation -/

theorem fetch_raw (there : ms[n]? = some m) : fetch n (ms.map Bitmap.raw) = .ok m.raw := by
  rw [fetch, Array.getElem?_map, there]
  rfl

theorem changeRaw_raw {work : RawBitmap → Except Fault RawBitmap} {m' : Bitmap}
    (there : ms[n]? = some m) (works : work m.raw = .ok m'.raw) :
    changeRaw n work (ms.map Bitmap.raw) = .ok ((ms.setIfInBounds n m').map Bitmap.raw) := by
  rw [changeRaw, fetch_raw there]
  change (work m.raw >>= _) = _
  rw [works, Array.map_setIfInBounds]
  rfl

theorem change_eq (f : Bitmap → Bitmap) (there : ms[n]? = some m) :
    change n f ms = (.bitmap (f m), ms.setIfInBounds n (f m)) := by
  rw [change, there]

theorem getElem?_set (there : ms[n]? = some m) (m' : Bitmap) (k : Nat) :
    (ms.setIfInBounds n m')[k]? = if k = n then some m' else ms[k]? := by
  obtain ⟨below, -⟩ := Array.getElem?_eq_some_iff.1 there
  rw [Array.getElem?_setIfInBounds, if_pos below]
  simp only [eq_comm]

theorem run_blit {s m' : Bitmap} {source : Nat} {left top : Int} {area : PixelBox}
    (there : ms[n]? = some m) (there' : ms[source]? = some s)
    (copied : m.blit s left top area = .ok m') :
    (blit n source left top area).run ms = (.bitmap m', ms.setIfInBounds n m') := by
  simp only [run, there, there', copied]

/-- **A permitted operation comes to no fault in memory**, and does there what it does on bitmaps. -/
theorem runRaw_eq (all : AllAddressable ms) (permitted : step.Permitted ms) :
    step.runRaw (ms.map Bitmap.raw) = .ok ((step.run ms).2.map Bitmap.raw) := by
  cases step with
  | new width height =>
    obtain ⟨wide, high⟩ := permitted
    rw [runRaw, RawBitmap.ofSize_eq wide high]
    simp only [run, add, Array.map_push]
    rfl
  | empty =>
    simp only [runRaw, run, add, Array.map_push]
    rfl
  | clone n =>
    obtain ⟨m, there⟩ := permitted
    simp only [runRaw, run, fetch_raw there, there, Array.map_push]
    rfl
  | fill n area color =>
    obtain ⟨m, there⟩ := permitted
    rw [run, change_eq _ there]
    exact changeRaw_raw there (RawBitmap.raw_fill (all n m there) area color)
  | blend n area color =>
    obtain ⟨m, there⟩ := permitted
    rw [run, change_eq _ there]
    exact changeRaw_raw there (RawBitmap.raw_blend (all n m there) area color)
  | blit n source left top area =>
    obtain ⟨m, s, there, there', near⟩ := permitted
    obtain ⟨m', copied⟩ := Bitmap.blit_isOk_iff.2 near
    have works := RawBitmap.raw_blit (all n m there) (all source s there') left top area
    rw [copied] at works
    rw [run_blit there there' copied, runRaw, fetch_raw there']
    exact changeRaw_raw there works
  | dump n | bounds n =>
    obtain ⟨m, there⟩ := permitted
    rw [runRaw, fetch_raw there]
    rfl
  | pixel n x y =>
    obtain ⟨m, there⟩ := permitted
    rw [runRaw, fetch_raw there]
    change (m.raw.pixel x y >>= _) = _
    rw [RawBitmap.raw_pixel (all n m there)]
    rfl
  | same a b =>
    obtain ⟨m, m', there, there'⟩ := permitted
    rw [runRaw, fetch_raw there, fetch_raw there']
    rfl

/-- What an operation can do to the bitmaps. -/
inductive Outcome (ms : Array Bitmap) : Array Bitmap → Prop
  | kept : Outcome ms ms
  | made {m : Bitmap} (addressable : m.Addressable) : Outcome ms (ms.push m)
  | changed {n : Nat} {m m' : Bitmap} (there : ms[n]? = some m) (size : m'.extent = m.extent) :
      Outcome ms (ms.setIfInBounds n m')

theorem run_outcome (all : AllAddressable ms) (permitted : step.Permitted ms) :
    Outcome ms (step.run ms).2 := by
  cases step with
  | new width height => exact .made ⟨permitted.1, permitted.2⟩
  | empty => exact .made ⟨Nat.zero_le _, Nat.zero_le _⟩
  | clone n =>
    obtain ⟨m, there⟩ := permitted
    simp only [run, there]
    exact .made (all n m there)
  | fill n area color =>
    obtain ⟨m, there⟩ := permitted
    rw [run, change_eq _ there]
    exact .changed there (Bitmap.extent_fill m area color)
  | blend n area color =>
    obtain ⟨m, there⟩ := permitted
    rw [run, change_eq _ there]
    exact .changed there (by rw [Headless.Frame.blend_eq_paint, Bitmap.extent_paint])
  | blit n source left top area =>
    obtain ⟨m, s, there, there', near⟩ := permitted
    obtain ⟨m', copied⟩ := Bitmap.blit_isOk_iff.2 near
    obtain ⟨width, height⟩ := Bitmap.size_blit copied
    rw [run_blit there there' copied]
    exact .changed there (by rw [Bitmap.extent, width, height]; rfl)
  | dump n | pixel n x y | bounds n | same a b => exact .kept

theorem Outcome.sizesKept (outcome : Outcome ms ms') : SizesKept ms ms' := by
  intro n m there
  obtain ⟨below, -⟩ := Array.getElem?_eq_some_iff.1 there
  cases outcome with
  | kept => exact ⟨m, there, rfl⟩
  | made _ => exact ⟨m, by rw [Array.getElem?_push, if_neg (Nat.ne_of_lt below), there], rfl⟩
  | @changed k old new before size =>
    rw [getElem?_set before]
    by_cases here : n = k
    · subst here
      obtain rfl := Option.some.inj (there.symm.trans before)
      exact ⟨new, if_pos rfl, size⟩
    · exact ⟨m, by rw [if_neg here, there], rfl⟩

theorem Outcome.allAddressable (outcome : Outcome ms ms') (all : AllAddressable ms) :
    AllAddressable ms' := by
  intro n m there
  cases outcome with
  | kept => exact all n m there
  | made addressable =>
    rw [Array.getElem?_push] at there
    split at there
    · obtain rfl := Option.some.inj there
      exact addressable
    · exact all n m there
  | @changed k old new before size =>
    rw [getElem?_set before] at there
    split at there
    · obtain rfl : new = m := Option.some.inj there
      have sides : new.width = old.width ∧ new.height = old.height := by
        simpa [Bitmap.extent] using size
      obtain ⟨width, height⟩ := all k old before
      exact ⟨sides.1 ▸ width, sides.2 ▸ height⟩
    · exact all n m there

theorem repaints (there : ms[n]? = some m) (area : PixelBox) (f : Pixel → Pixel) :
    Repaints n area f ms (change n (·.paint area fun _ _ => f) ms).2 := by
  rw [change_eq _ there]
  refine ⟨Array.size_setIfInBounds, fun k other => ?_, m, m.paint area fun _ _ => f, there, ?_,
    m.extent_paint area _, m.pixel?_paint area _⟩
  · rw [getElem?_set there, if_neg other]
  · rw [getElem?_set there, if_pos rfl]

/-! ### Many operations -/

theorem SizesKept.trans {ms'' : Array Bitmap} (first : SizesKept ms ms')
    (second : SizesKept ms' ms'') : SizesKept ms ms'' := by
  intro n m there
  obtain ⟨m', there', size⟩ := first n m there
  obtain ⟨m'', there'', size'⟩ := second n m' there'
  exact ⟨m'', there'', size'.trans size⟩

theorem Ran.allAddressable (ran : Ran ms steps ms') (all : AllAddressable ms) :
    AllAddressable ms' := by
  induction ran with
  | stop => exact all
  | next permitted _ ih => exact ih ((run_outcome all permitted).allAddressable all)

theorem Ran.sizesKept (ran : Ran ms steps ms') (all : AllAddressable ms) : SizesKept ms ms' := by
  induction ran with
  | stop => exact fun n m there => ⟨m, there, rfl⟩
  | next permitted _ ih =>
    have outcome := run_outcome all permitted
    exact outcome.sizesKept.trans (ih (outcome.allAddressable all))

/-- **A run comes to no fault in memory.** -/
theorem Ran.runAllRaw_eq (ran : Ran ms steps ms') (all : AllAddressable ms) :
    runAllRaw steps (ms.map Bitmap.raw) = .ok (ms'.map Bitmap.raw) := by
  induction ran with
  | stop => rfl
  | @next first rest ms ms' permitted _ ih =>
    have later := ih ((run_outcome all permitted).allAddressable all)
    rw [runAllRaw, List.foldlM_cons, runRaw_eq all permitted]
    exact later

/-- **Bitmaps stay well formed, and no place out of range is reached.** Permitted operations, however
many and on whatever bitmaps, come to no fault in memory, where each buffer has as many pixels as its
sides promise. No bitmap changes its size from then on. Filling and blending change just the pixels
of the area that the bitmap has, and there is a pixel at a place just if it lies inside. What a
rectangle covers of a target, whatever its edges are, is a box inside it. -/
theorem bitmaps_stay_well_formed (ran : Ran #[] steps ms) :
    (∃ rs : Array RawBitmap, runAllRaw steps #[] = .ok rs ∧ rs = ms.map Bitmap.raw ∧
      ∀ r ∈ rs, r.pixels.size = r.width * r.height) ∧
    (∀ later ms', Ran ms later ms' → SizesKept ms ms') ∧
    (∀ (n : Nat) (m : Bitmap), ms[n]? = some m →
      (∀ area color, Repaints n area (fun _ => color.quantize) ms
        ((fill n area color).run ms).2) ∧
      (∀ area color, Repaints n area (blended color) ms ((blend n area color).run ms).2) ∧
      ∀ x y, ∃ p, ((pixel n x y).run ms).1 = .pixel p ∧ m.raw.pixel x y = .ok p ∧
        (p.isSome = true ↔ x < m.width ∧ y < m.height)) ∧
    ∀ (rect : Rect) (size : Viewport) (box : PixelBox),
      rect.coverage size.width size.height = some box → box.Within size := by
  have none : AllAddressable #[] := fun n m there => by simp at there
  have all := ran.allAddressable none
  have made := ran.runAllRaw_eq none
  rw [Array.map_empty] at made
  refine ⟨⟨_, made, rfl, fun r held => ?_⟩, fun later ms' ran' => ran'.sizesKept all,
    fun n m there => ⟨fun area color => ?_, fun area color => ?_, fun x y => ?_⟩,
    fun rect size box => Rect.coverage_within⟩
  · obtain ⟨m, -, rfl⟩ := Array.mem_map.1 held
    exact m.size_eq
  · exact repaints there area _
  · have painting : (fun m : Bitmap => m.blend area color) =
        fun m => m.paint area fun _ _ => blended color :=
      funext fun m => Headless.Frame.blend_eq_paint m area color
    rw [run, painting]
    exact repaints there area _
  · refine ⟨m.pixel? x y, ?_, RawBitmap.raw_pixel (all n m there) x y, ?_⟩
    · rw [run, ask, there]
    · rw [Bitmap.pixel?]
      split <;> simp [*]

/-- Empty bitmaps, an area that is inside out, areas beyond the bitmap and corners outside it. -/
def edges : List BitmapStep :=
  let grey := Color.ofBytes 128 128 128 128
  [new 0 3, new 3 2, fill 1 ⟨2, 0, 1, 2⟩ .white, blend 1 ⟨1, 1, 0xffffffff, 0xffffffff⟩ grey,
    clone 1, blit 1 0 (-2) 0 ⟨0, 0, 3, 2⟩, blit 0 1 1 1 ⟨0, 0, 9, 9⟩, blit 2 1 2 (-1) ⟨1, 0, 9, 9⟩,
    pixel 2 3 0]

/-- The empty bitmap stays empty and the two others keep their six pixels. -/
theorem bitmaps_stay_well_formed_edges :
    ∃ ms, Ran #[] edges ms ∧ ms.map Bitmap.extent = #[⟨0, 3⟩, ⟨3, 2⟩, ⟨3, 2⟩] ∧
      ∃ rs, runAllRaw edges #[] = .ok rs ∧ rs.map (·.pixels.size) = #[0, 6, 6] := by
  have ran : Ran #[] edges (edges.foldl (fun ms step => (step.run ms).2) #[]) := by
    refine .next ⟨by decide, by decide⟩ <| .next ⟨by decide, by decide⟩ <| .next ?fill <|
      .next ?blend <| .next ?clone <| .next ?first <| .next ?second <| .next ?third <|
      .next ?pixel <| .stop _
    case fill | blend | clone | pixel => exact Option.isSome_iff_exists.1 (by decide +kernel)
    case first | second | third =>
      exact permitted_blit (by decide +kernel) (by decide +kernel) (by decide) (by decide)
  obtain ⟨⟨rs, made, rfl, -⟩, -⟩ := bitmaps_stay_well_formed ran
  exact ⟨_, ran, by decide +kernel, _, made, by decide +kernel⟩

end RenderRelay.Bench.BitmapStep

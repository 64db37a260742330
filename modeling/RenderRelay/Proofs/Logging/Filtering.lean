import Mathlib.Data.List.Nodup
import Mathlib.Data.List.Induction
import RenderRelay.Logging.Setup

/-!
What a log lets through. A record obeys the closest of the directives that are for its target, the
last one of several (`directiveFor_eq_some_iff`); of what is written for one target the last
counts (`mem_settle`); what passes a filter passes its most talkative limit, which is asked first
(`passes_maxLimit`). What is written holds nothing that a terminal would obey (`write_plain`).
-/

namespace RenderRelay.Logging

namespace Filter

variable {ds : List Directive} {d e : Directive}

/-! ### The directive of a target -/

def Closest (ds : List Directive) (d : Directive) : Prop :=
  ∃ before after, ds = before ++ d :: after ∧
    (∀ e ∈ before, e.closeness ≤ d.closeness) ∧ ∀ e ∈ after, e.closeness < d.closeness

theorem Closest.bound (closest : Closest ds d) (mem : e ∈ ds) : e.closeness ≤ d.closeness := by
  obtain ⟨before, after, rfl, most, more⟩ := closest
  rcases List.mem_append.1 mem with mem | mem
  · exact most e mem
  · rcases List.mem_cons.1 mem with rfl | mem
    · exact Nat.le_refl _
    · exact Nat.le_of_lt (more e mem)

theorem Closest.concat (closest : Closest ds d) (far : e.closeness < d.closeness) :
    Closest (ds ++ [e]) d := by
  obtain ⟨before, after, rfl, most, more⟩ := closest
  refine ⟨before, after ++ [e], by simp, most, ?_⟩
  intro a mem
  rcases List.mem_append.1 mem with mem | mem
  · exact more a mem
  · rwa [List.mem_singleton.1 mem]

theorem foldl_closer (ds : List Directive) :
    match ds.foldl closer none with
    | none => ds = []
    | some d => Closest ds d := by
  induction ds using List.reverseRecOn with
  | nil => rfl
  | append_singleton ds e ih =>
    rw [List.foldl_concat]
    cases best : ds.foldl closer none with
    | none =>
      rw [best] at ih
      subst ih
      exact ⟨[], [], rfl, nofun, nofun⟩
    | some d =>
      rw [best] at ih
      unfold closer
      dsimp only
      by_cases near : d.closeness ≤ e.closeness
      · rw [if_pos near]
        exact ⟨ds, [], rfl, fun a mem => Nat.le_trans (ih.bound mem) near, nofun⟩
      · rw [if_neg near]
        exact ih.concat (Nat.lt_of_not_le near)

theorem foldl_closer_some {after : List Directive}
    (far : ∀ e ∈ after, e.closeness < d.closeness) : after.foldl closer (some d) = some d := by
  induction after with
  | nil => rfl
  | cons e after ih =>
    have beaten : ¬ d.closeness ≤ e.closeness := Nat.not_le.2 (far e (List.mem_cons_self ..))
    rw [List.foldl_cons, closer, if_neg beaten]
    exact ih fun a mem => far a (List.mem_cons_of_mem _ mem)

theorem foldl_closer_eq_some_iff : ds.foldl closer none = some d ↔ Closest ds d := by
  constructor
  · intro best
    have closest := foldl_closer ds
    rwa [best] at closest
  · rintro ⟨before, after, rfl, most, more⟩
    have taken : closer (before.foldl closer none) d = some d := by
      have closest := foldl_closer before
      cases best : before.foldl closer none with
      | none => rfl
      | some b =>
        rw [best] at closest
        obtain ⟨_, _, rfl, -, -⟩ := closest
        exact if_pos (most b (by simp))
    rw [List.foldl_append, List.foldl_cons, taken]
    exact foldl_closer_some more

/-- **A target obeys the closest of the directives that are for it, the last one of several.** -/
theorem directiveFor_eq_some_iff {f : Filter} {target : String} :
    f.directiveFor target = some d ↔ Closest (f.directives.filter (·.covers target)) d :=
  foldl_closer_eq_some_iff

/-! ### The most talkative limit -/

theorem passes_mono {a b : Limit} {level : Level} (more : a.rank ≤ b.rank)
    (passes : a.passes level = true) : b.passes level = true := by
  unfold Limit.passes at *
  exact decide_eq_true (Nat.le_trans (of_decide_eq_true passes) more)

theorem rank_max (a b : Limit) : (a.max b).rank = max a.rank b.rank := by
  unfold Limit.max
  split <;> omega

theorem rank_le_foldl (start : Limit) (ds : List Directive) :
    start.rank ≤ (ds.foldl (fun limit d => limit.max d.limit) start).rank ∧
      ∀ d ∈ ds, d.limit.rank ≤ (ds.foldl (fun limit d => limit.max d.limit) start).rank := by
  induction ds generalizing start with
  | nil => exact ⟨Nat.le_refl _, nofun⟩
  | cons e ds ih =>
    obtain ⟨least, all⟩ := ih (start.max e.limit)
    rw [rank_max] at least
    refine ⟨by simp only [List.foldl_cons]; omega, ?_⟩
    intro d mem
    rcases List.mem_cons.1 mem with rfl | mem
    · simp only [List.foldl_cons]
      omega
    · exact all d mem

/-- **What passes a filter passes its most talkative limit.** -/
theorem passes_maxLimit {f : Filter} {level : Level} {target message : String}
    (passes : f.passes level target message = true) : f.maxLimit.passes level = true := by
  unfold Filter.passes at passes
  rw [Bool.and_eq_true, Option.any_eq_true] at passes
  obtain ⟨⟨d, obeyed, passes⟩, -⟩ := passes
  obtain ⟨before, after, split, -, -⟩ := directiveFor_eq_some_iff.1 obeyed
  have mem : d ∈ f.directives.filter (·.covers target) := by simp [split]
  exact passes_mono ((rank_le_foldl none f.directives).2 d (List.mem_of_mem_filter mem)) passes

/-! ### Directives that take effect -/

def LastFor (ds : List Directive) (d : Directive) : Prop :=
  ∃ before after, ds = before ++ d :: after ∧ ∀ e ∈ after, e.target ≠ d.target

theorem lastFor_concat :
    LastFor (ds ++ [d]) e ↔ e = d ∨ LastFor ds e ∧ e.target ≠ d.target := by
  constructor
  · rintro ⟨before, after, split, last⟩
    rcases List.eq_nil_or_concat after with rfl | ⟨after, a, rfl⟩
    · have heads := (List.append_inj' split rfl).2
      exact .inl (List.cons.inj heads).1.symm
    · rw [List.concat_eq_append, ← List.cons_append, ← List.append_assoc] at split
      obtain ⟨rfl, heads⟩ := List.append_inj' split rfl
      obtain rfl : d = a := (List.cons.inj heads).1
      refine .inr ⟨⟨before, after, rfl, fun b mem => last b (by simp [mem])⟩, ?_⟩
      exact (last d (by simp)).symm
  · rintro (rfl | ⟨⟨before, after, rfl, last⟩, other⟩)
    · exact ⟨ds, [], rfl, nofun⟩
    · refine ⟨before, after ++ [d], by simp, ?_⟩
      intro a mem
      rcases List.mem_append.1 mem with mem | mem
      · exact last a mem
      · rw [List.mem_singleton.1 mem]
        exact other.symm

theorem target_put (d : Directive) (ds : List Directive) :
    (put d ds).map (·.target) =
      if d.target ∈ ds.map (·.target) then ds.map (·.target)
      else ds.map (·.target) ++ [d.target] := by
  induction ds with
  | nil => rfl
  | cons a ds ih =>
    unfold put
    by_cases same : a.target = d.target
    · simp [same]
    · simp only [if_neg same, List.map_cons, ih, List.mem_cons]
      by_cases there : d.target ∈ ds.map (·.target) <;> simp [there, Ne.symm same]

theorem nodup_put (single : (ds.map (·.target)).Nodup) :
    ((put d ds).map (·.target)).Nodup := by
  rw [target_put]
  split
  case isTrue => exact single
  case isFalse fresh => exact List.nodup_append.2 ⟨single, by simp, by simpa using fresh⟩

theorem mem_put (single : (ds.map (·.target)).Nodup) :
    e ∈ put d ds ↔ e = d ∨ e ∈ ds ∧ e.target ≠ d.target := by
  induction ds with
  | nil => simp [put]
  | cons a ds ih =>
    obtain ⟨fresh, single⟩ := List.nodup_cons.1 single
    unfold put
    by_cases same : a.target = d.target
    · -- behind the one that is replaced there is none for its target
      have others : e ∈ ds → e.target ≠ d.target := by
        intro mem equal
        exact fresh (List.mem_map.2 ⟨e, mem, equal.trans same.symm⟩)
      rw [if_pos same, List.mem_cons, List.mem_cons]
      constructor
      · rintro (rfl | mem)
        · exact .inl rfl
        · exact .inr ⟨.inr mem, others mem⟩
      · rintro (rfl | ⟨rfl | mem, other⟩)
        · exact .inl rfl
        · exact absurd same other
        · exact .inr mem
    · rw [if_neg same, List.mem_cons, List.mem_cons, ih single]
      constructor
      · rintro (rfl | rfl | ⟨mem, other⟩)
        · exact .inr ⟨.inl rfl, same⟩
        · exact .inl rfl
        · exact .inr ⟨.inr mem, other⟩
      · rintro (rfl | ⟨rfl | mem, other⟩)
        · exact .inr (.inl rfl)
        · exact .inl rfl
        · exact .inr (.inr ⟨mem, other⟩)

theorem foldl_put (ds : List Directive) :
    ((ds.foldl (fun ds d => put d ds) []).map (·.target)).Nodup ∧
      ∀ e, e ∈ ds.foldl (fun ds d => put d ds) [] ↔ LastFor ds e := by
  induction ds using List.reverseRecOn with
  | nil => exact ⟨List.nodup_nil, by simp [LastFor]⟩
  | append_singleton ds d ih =>
    obtain ⟨single, mem⟩ := ih
    rw [List.foldl_concat]
    refine ⟨nodup_put single, fun e => ?_⟩
    rw [mem_put single, mem e, lastFor_concat]

/-- **Of what is written for one target the last takes effect.** -/
theorem mem_settle (written : ds ≠ []) : e ∈ settle ds ↔ LastFor ds e := by
  rw [← (foldl_put ds).2 e]
  unfold settle
  cases settled : ds.foldl (fun ds d => put d ds) [] with
  | nil =>
    obtain ⟨before, d, rfl⟩ := (List.eq_nil_or_concat ds).resolve_left written
    have last : LastFor (before.concat d) d := ⟨before, [], by simp, nofun⟩
    rw [← (foldl_put _).2 d, settled] at last
    cases last
  | cons => rfl

theorem nodup_settle (ds : List Directive) : ((settle ds).map (·.target)).Nodup := by
  unfold settle
  split
  · exact List.nodup_singleton _
  · exact (foldl_put ds).1

/-- **Each target is written of once in a filter that was read.** -/
theorem nodup_read (text : String) : ((read text).1.directives.map (·.target)).Nodup := by
  unfold read
  split
  · exact nodup_settle (readParts _).1
  · exact nodup_settle (readParts _).1
  · exact nodup_settle []

end Filter

/-! ### Plain text -/

namespace PlainText

theorem shows_ground {p : Place} {c : Char} (shows : p.shows c = true) :
    Place.ground.shows c = true := by
  unfold Place.shows at *
  dsimp only at *
  split
  · rfl
  · simp_all

/-- **Only what a terminal shows is left.** -/
theorem shows_of_mem_strip {text : List Char} {shown : Bool} {p : Place} {c : Char}
    (mem : c ∈ strip shown p text) : Place.ground.shows c = true := by
  induction text generalizing shown p with
  | nil => cases mem
  | cons a text ih =>
    unfold strip at mem
    split at mem
    case isTrue text =>
      rcases List.mem_cons.1 mem with rfl | mem
      · exact (Bool.and_eq_true_iff.1 text).2
      · exact ih mem
    case isFalse =>
      split at mem
      case isTrue shows =>
        rcases List.mem_cons.1 mem with rfl | mem
        · exact shows_ground shows
        · exact ih mem
      case isFalse => exact ih mem

theorem after_ground {c : Char} (shows : Place.ground.shows c = true) :
    Place.ground.after c = .ground := by
  unfold Place.shows at shows
  unfold Place.after Place.afterPrintable
  dsimp only at *
  split
  case isTrue escapes => simp [escapes, within] at shows
  case isFalse => simp

theorem strip_eq_self {text : List Char} (shows : ∀ c ∈ text, Place.ground.shows c = true)
    (shown : Bool) : strip shown .ground text = text := by
  induction text generalizing shown with
  | nil => rfl
  | cons c rest ih =>
    have first := shows c (List.mem_cons_self ..)
    have others (shown : Bool) : strip shown .ground rest = rest :=
      ih (fun d mem => shows d (List.mem_cons_of_mem _ mem)) shown
    simp only [strip, first, after_ground first, Bool.and_true, ite_self, others, if_true]

/-- **Plain text is left as it is.** -/
theorem ofText_ofText (text : String) : ofText (ofText text) = ofText text := by
  unfold ofText
  rw [String.toList_ofList, strip_eq_self fun c => shows_of_mem_strip]

end PlainText

/-- **A log holds nothing that a terminal would obey.** -/
theorem Log.write_plain {log : Log} {m : Message} {c : Char} (mem : c ∈ (log.write m).toList) :
    PlainText.Place.ground.shows c = true := by
  unfold Log.write at mem
  split at mem
  case isTrue =>
    rw [PlainText.ofText, String.toList_ofList] at mem
    exact PlainText.shows_of_mem_strip mem
  case isFalse => cases mem

end RenderRelay.Logging

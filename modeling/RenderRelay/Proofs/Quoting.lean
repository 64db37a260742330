import RenderRelay.RenderError

/-!
Quoted texts can be read back. No character is written as the beginning of another one
(`encodeChar_append_inj`), so texts that are quoted alike are the same (`encode_injective`), and what
an error is written as with its fields tells what it says (`message_of_debugText`).
-/

namespace RenderRelay.Text.Quoted

/-! ### Codes -/

def digitValue (c : Char) : Nat :=
  if c.isDigit then c.toNat - '0'.toNat else c.toNat - 'a'.toNat + 10

def hexValue (digits : List Char) : Nat := digits.foldl (fun n c => 16 * n + digitValue c) 0

theorem digitChar_spec : ∀ d < 16, digitValue d.digitChar = d ∧ d.digitChar ≠ '\x7d' := by decide

theorem hexValue_toDigits (n : Nat) : hexValue (Nat.toDigits 16 n) = n := by
  induction n using Nat.strongRecOn with
  | ind n ih =>
    by_cases single : n < 16
    · rw [Nat.toDigits_of_lt_base single]
      simpa [hexValue] using (digitChar_spec n single).1
    · have last := (digitChar_spec (n % 16) (Nat.mod_lt n (by decide))).1
      have front : hexValue (Nat.toDigits 16 (n / 16)) = n / 16 := ih (n / 16) (by omega)
      rw [Nat.toDigits_of_base_le (by decide) (Nat.not_lt.1 single)]
      unfold hexValue at *
      rw [List.foldl_append, front, List.foldl_cons, List.foldl_nil, last]
      omega

theorem brace_not_mem_toDigits (n : Nat) : '\x7d' ∉ Nat.toDigits 16 n := by
  induction n using Nat.strongRecOn with
  | ind n ih =>
    intro mem
    by_cases single : n < 16
    · rw [Nat.toDigits_of_lt_base single, List.mem_singleton] at mem
      exact (digitChar_spec n single).2 mem.symm
    · rw [Nat.toDigits_of_base_le (by decide) (Nat.not_lt.1 single), List.mem_append,
        List.mem_singleton] at mem
      rcases mem with mem | last
      · exact ih (n / 16) (by omega) mem
      · exact (digitChar_spec (n % 16) (Nat.mod_lt n (by decide))).2 last.symm

theorem append_mark_inj {α : Type} {mark : α} {xs ys s t : List α} (hx : mark ∉ xs) (hy : mark ∉ ys)
    (same : xs ++ mark :: s = ys ++ mark :: t) : xs = ys ∧ s = t := by
  induction xs generalizing ys with
  | nil =>
    cases ys with
    | nil => exact ⟨rfl, (List.cons.inj same).2⟩
    | cons y ys =>
      obtain rfl : mark = y := (List.cons.inj same).1
      exact absurd (List.mem_cons_self ..) hy
  | cons x xs ih =>
    cases ys with
    | nil =>
      obtain rfl : x = mark := (List.cons.inj same).1
      exact absurd (List.mem_cons_self ..) hx
    | cons y ys =>
      obtain ⟨rfl, rest⟩ := List.cons.inj same
      obtain ⟨rfl, tails⟩ := ih (fun mem => hx (List.mem_cons_of_mem _ mem))
        (fun mem => hy (List.mem_cons_of_mem _ mem)) rest
      exact ⟨rfl, tails⟩

theorem byCode_append_inj {c d : Char} {s t : List Char} (same : byCode c ++ s = byCode d ++ t) :
    c = d ∧ s = t := by
  unfold byCode at same
  simp only [List.append_assoc, List.singleton_append] at same
  obtain ⟨digits, rest⟩ := append_mark_inj (brace_not_mem_toDigits _) (brace_not_mem_toDigits _)
    (List.append_cancel_left same)
  have codes : c.toNat = d.toNat := by
    rw [← hexValue_toDigits c.toNat, digits, hexValue_toDigits]
  exact ⟨Char.toNat_inj.1 codes, rest⟩

/-! ### Characters -/

/-- The character that a letter behind a backslash stands for. -/
def meant : Char → Char
  | 'n' => '\n'
  | 't' => '\t'
  | 'r' => '\r'
  | '0' => '\x00'
  | letter => letter

theorem letter?_spec {c letter : Char} (written : letter? c = some letter) :
    meant letter = c ∧ letter ≠ 'u' := by
  unfold letter? at written
  split at written
  case h_6 =>
    split at written
    case isTrue zero =>
      obtain rfl : '0' = letter := Option.some.inj written
      exact ⟨(Char.toNat_inj.1 zero).symm, by decide⟩
    case isFalse => cases written
  all_goals
    cases written
    decide

/-- How a character is written: by a letter behind a backslash, as it is, or by its code. -/
theorem encodeChar_cases (c : Char) :
    (∃ letter, letter? c = some letter ∧ encodeChar c = ['\\', letter]) ∨
    (c ≠ '\\' ∧ encodeChar c = [c]) ∨ encodeChar c = byCode c := by
  unfold encodeChar
  cases h : letter? c with
  | some letter => exact .inl ⟨letter, rfl, rfl⟩
  | none =>
    refine .inr ?_
    dsimp only
    split
    · refine .inl ⟨?_, rfl⟩
      rintro rfl
      cases h
    · exact .inr rfl

/-- **No character is written as the beginning of another one.** -/
theorem encodeChar_append_inj {c d : Char} {s t : List Char}
    (same : encodeChar c ++ s = encodeChar d ++ t) : c = d ∧ s = t := by
  rcases encodeChar_cases c with ⟨l, hl, hc⟩ | ⟨plain, hc⟩ | hc <;>
    rcases encodeChar_cases d with ⟨m, hm, hd⟩ | ⟨plain', hd⟩ | hd <;>
    rw [hc, hd] at same
  · obtain ⟨letters, tails⟩ := List.cons.inj (List.cons.inj same).2
    exact ⟨(letter?_spec hl).1.symm.trans (letters ▸ (letter?_spec hm).1), tails⟩
  · exact absurd (List.cons.inj same).1.symm plain'
  · exact absurd (List.cons.inj (List.cons.inj same).2).1 (letter?_spec hl).2
  · exact absurd (List.cons.inj same).1 plain
  · exact List.cons.inj same
  · exact absurd (List.cons.inj same).1 plain
  · exact absurd (List.cons.inj (List.cons.inj same).2).1.symm (letter?_spec hm).2
  · exact absurd (List.cons.inj same).1.symm plain'
  · exact byCode_append_inj same

/-! ### Texts -/

theorem encodeChar_ne_nil (c : Char) : encodeChar c ≠ [] := by
  rcases encodeChar_cases c with ⟨_, _, written⟩ | ⟨_, written⟩ | written <;>
    simp [written, byCode]

theorem flatMap_encodeChar_inj {cs ds : List Char}
    (same : cs.flatMap encodeChar = ds.flatMap encodeChar) : cs = ds := by
  induction cs generalizing ds with
  | nil =>
    cases ds with
    | nil => rfl
    | cons d ds =>
      rw [List.flatMap_cons] at same
      exact absurd (List.append_eq_nil_iff.1 same.symm).1 (encodeChar_ne_nil d)
  | cons c cs ih =>
    cases ds with
    | nil =>
      rw [List.flatMap_cons] at same
      exact absurd (List.append_eq_nil_iff.1 same).1 (encodeChar_ne_nil c)
    | cons d ds =>
      rw [List.flatMap_cons, List.flatMap_cons] at same
      obtain ⟨rfl, rest⟩ := encodeChar_append_inj same
      rw [ih rest]

/-- **Texts that are quoted alike are the same.** -/
theorem encode_injective {a b : String} (same : encode a = encode b) : a = b := by
  have chars := (List.cons.inj (String.ofList_injective same)).2
  exact String.toList_injective (flatMap_encodeChar_inj (List.append_cancel_right chars))

end RenderRelay.Text.Quoted

namespace RenderRelay.RenderError

theorem head?_debugText (e : RenderError) :
    e.debugText.toList.head? =
      match e with
      | allocationFailure _ => some 'A'
      | invalidHandle => some 'I'
      | unsupported _ => some 'U' := by
  unfold debugText
  cases e <;> simp only [String.toList_append, List.head?_append] <;> rfl

theorem encloses_inj {start stop a b : String} (same : start ++ a ++ stop = start ++ b ++ stop) :
    a = b := by
  have chars := congrArg String.toList same
  simp only [String.toList_append] at chars
  exact String.toList_injective (List.append_cancel_left (List.append_cancel_right chars))

/-- **What an error is written as with its fields tells what it says.** -/
theorem message_of_debugText {e f : RenderError} (same : e.debugText = f.debugText) :
    e.message = f.message := by
  have initials := congrArg (fun text : String => text.toList.head?) same
  simp only [head?_debugText] at initials
  cases e with
  | allocationFailure what =>
    cases f with
    | allocationFailure other =>
      have texts : what.text = other.text := Text.Quoted.encode_injective (encloses_inj same)
      unfold message
      dsimp only
      rw [texts]
    | invalidHandle => simp at initials
    | unsupported missing => simp at initials
  | invalidHandle =>
    cases f with
    | invalidHandle => rfl
    | allocationFailure other => simp at initials
    | unsupported other => simp at initials
  | unsupported missing =>
    cases f with
    | unsupported other =>
      have texts : missing.text = other.text := encloses_inj same
      unfold message
      dsimp only
      rw [texts]
    | allocationFailure what => simp at initials
    | invalidHandle => simp at initials

end RenderRelay.RenderError

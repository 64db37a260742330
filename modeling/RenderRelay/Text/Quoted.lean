import RenderRelay.Unicode.Property

/-!
Texts between double quotes, written so that each character can be told: what would end the text or
break it, and what shows as nothing of its own, is escaped.
-/

namespace RenderRelay.Text.Quoted

/-- The letter that stands for a character behind a backslash. -/
def letter? : Char → Option Char
  | '"' => some '"'
  | '\\' => some '\\'
  | '\n' => some 'n'
  | '\t' => some 't'
  | '\r' => some 'r'
  | c => if c.toNat = 0 then some '0' else none

def byCode (c : Char) : List Char :=
  "\\u\x7b".toList ++ Nat.toDigits 16 c.toNat ++ ['\x7d']

def encodeChar (c : Char) : List Char :=
  match letter? c with
  | some letter => ['\\', letter]
  | none => if Unicode.isVisible c then [c] else byCode c

def encode (text : String) : String :=
  .ofList ('"' :: text.toList.flatMap encodeChar ++ ['"'])

end RenderRelay.Text.Quoted

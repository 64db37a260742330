import RenderRelay.Pattern.Expr
import RenderRelay.Pattern.Matcher

/-!
Sets of characters and their names. Sets with names go as far as ASCII: there are no tables that say
which characters beyond it are digits, or letters, or the same letter in another case.
-/

namespace RenderRelay

namespace CharSet

/-! ### Operations -/

def single (c : Char) : CharSet := fun a => a = c

def between (first last : Char) : CharSet := fun c => first ≤ c && c ≤ last

def union (s t : CharSet) : CharSet := fun c => s c || t c

def inter (s t : CharSet) : CharSet := fun c => s c && t c

/-- The characters of the first set that are not in the second. -/
def diff (s t : CharSet) : CharSet := fun c => s c && !t c

def symmDiff (s t : CharSet) : CharSet := fun c => s c != t c

def compl (s : CharSet) : CharSet := fun c => !s c

def swapAsciiCase (c : Char) : Char := if c.isUpper then c.toLower else c.toUpper

def asciiCaseless (s : CharSet) : CharSet := fun c => s c || s (swapAsciiCase c)

/-- Whether the set, taken as one of bytes, holds bytes of ASCII alone. -/
def isAsciiBytes (s : CharSet) : Bool :=
  (List.range 0x80).all fun n => !s (Char.ofNat (0x80 + n))

/-- The characters of the set that are in ASCII. -/
def asciiPart (s : CharSet) : CharSet := fun c => c.toNat < 0x80 && s c

end CharSet

namespace Pattern

/-! ### Names within ASCII -/

def AsciiClass.chars : AsciiClass → CharSet
  | alnum => Char.isAlphanum
  | alpha => Char.isAlpha
  | ascii => fun c => c.toNat < 0x80
  | blank => fun c => c = '\t' || c = ' '
  | cntrl => fun c => c.toNat < 0x20 || c.toNat = 0x7f
  | digit => Char.isDigit
  | graph => .between '!' '~'
  | lower => Char.isLower
  | print => .between ' ' '~'
  | punct => fun c => CharSet.between '!' '~' c && !c.isAlphanum
  | space => fun c => (0x9 ≤ c.toNat && c.toNat ≤ 0xd) || c = ' '
  | upper => Char.isUpper
  | word => fun c => c.isAlphanum || c = '_'
  | xdigit => fun c => c.isDigit || CharSet.between 'a' 'f' c || CharSet.between 'A' 'F' c

/-! ### Other names -/

/-- A name as names are compared: small letters of ASCII, without blanks, hyphens and underscores,
and without a leading "is". -/
def normalName (name : String) : String :=
  let chars := name.toList
  let bare := if (chars.take 2).map Char.toLower = ['i', 's'] then chars.drop 2 else chars
  let kept := bare.filter fun c => c.toNat < 0x80 && c ≠ ' ' && c ≠ '_' && c ≠ '-'
  .ofList (kept.map Char.toLower)

/-- The set of a name, if it is one of ASCII. -/
def ClassName.bytes? : ClassName → Option CharSet
  | digits => some (AsciiClass.chars .digit)
  | blanks => some (AsciiClass.chars .space)
  | wordChars => some (AsciiClass.chars .word)
  | _ => none

/-- Why there is no set of the name where characters are taken as such: that takes tables of all
characters, and none are kept. Three names are looked for among the values of a property. -/
def ClassName.lack : ClassName → Flaw
  | property name =>
    if ["cf", "lc", "sc"].contains (normalName name) then .propertyValueNotFound
    else .propertyNotFound
  | propertyValue .. => .propertyNotFound
  | _ => .classTableMissing

end Pattern

end RenderRelay

/-!
Plain text: what is left of a text when the control sequences that terminals obey are taken out.
Sequences begin with an escape character. Blanks that are control characters are no part of a
sequence and stay, also those inside one; all other control characters go.
-/

namespace RenderRelay.Logging.PlainText

/-- Where a sequence stands. Those of the three long kinds run up to a terminator of their own. -/
inductive Place where
  /-- Outside all sequences. -/
  | ground
  | escape
  | escapeIntermediate
  | controlEntry
  | controlParameter
  | controlIntermediate
  | controlIgnored
  | deviceEntry
  | deviceParameter
  | deviceIntermediate
  | deviceIgnored
  | devicePassthrough
  | systemCommand
  | otherString
  deriving DecidableEq

def within (code first last : Nat) : Bool := first ≤ code && code ≤ last

/-- Whether the encoded character holds the byte that ends a string in the eight-bit codes. -/
def holdsTerminator (code : Nat) : Bool :=
  0x80 ≤ code &&
    (code % 0x40 = 0x1c || (0x800 ≤ code && code / 0x40 % 0x40 = 0x1c) ||
      (0x10000 ≤ code && code / 0x1000 % 0x40 = 0x1c))

namespace Place

def afterPrintable (p : Place) (code : Nat) : Place :=
  let upTo (intermediate parameter marked final : Place) : Place :=
    if code ≤ 0x2f then intermediate
    else if code ≤ 0x3b then parameter
    else if code ≤ 0x3f then marked
    else final
  match p with
  | ground => ground
  | escape =>
    if code ≤ 0x2f then escapeIntermediate
    else if code = 0x5b then controlEntry
    else if code = 0x5d then systemCommand
    else if code = 0x50 then deviceEntry
    else if code = 0x58 || code = 0x5e || code = 0x5f then otherString
    else ground
  | escapeIntermediate => if code ≤ 0x2f then escapeIntermediate else ground
  | controlEntry => upTo controlIntermediate controlParameter controlParameter ground
  | controlParameter => upTo controlIntermediate controlParameter controlIgnored ground
  | controlIntermediate => upTo controlIntermediate controlIgnored controlIgnored ground
  | controlIgnored => upTo controlIgnored controlIgnored controlIgnored ground
  | deviceEntry => upTo deviceIntermediate deviceParameter deviceParameter devicePassthrough
  | deviceParameter => upTo deviceIntermediate deviceParameter deviceIgnored devicePassthrough
  | deviceIntermediate => upTo deviceIntermediate deviceIgnored deviceIgnored devicePassthrough
  | p => p

def after (p : Place) (c : Char) : Place :=
  let code := c.toNat
  if code = 0x1b then escape
  else if code = 0x18 || code = 0x1a then ground
  else if within code 0x20 0x7e then p.afterPrintable code
  else
    match p with
    | systemCommand => if code = 0x07 then ground else p
    | deviceIgnored => if holdsTerminator code then ground else p
    | devicePassthrough => if holdsTerminator code then ground else p
    | otherString => if holdsTerminator code then ground else p
    | p => p

/-- Whether control characters take effect at the place, and are not part of a string. -/
def obeysControls : Place → Bool
  | ground => true
  | escape => true
  | escapeIntermediate => true
  | controlEntry => true
  | controlParameter => true
  | controlIntermediate => true
  | controlIgnored => true
  | _ => false

/-- Whether a character at the place belongs to the plain text. -/
def shows (p : Place) (c : Char) : Bool :=
  let code := c.toNat
  if code = 0x09 || code = 0x0a || code = 0x0c || code = 0x0d then p.obeysControls
  else p = ground && (within code 0x20 0x7e || 0x80 ≤ code)

end Place

/-- What belongs to the plain text of what follows. While text is `shown` it is read as text; a
character that does not belong to it goes on with the sequence that a blank had broken into. -/
def strip (shown : Bool) (p : Place) : List Char → List Char
  | [] => []
  | c :: rest =>
    if shown && Place.ground.shows c then
      c :: strip true (if 0x80 ≤ c.toNat then .ground else p) rest
    else if p.shows c then c :: strip true (p.after c) rest
    else strip false (p.after c) rest

def ofText (text : String) : String := .ofList (strip false .ground text.toList)

end RenderRelay.Logging.PlainText

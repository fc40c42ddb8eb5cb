import TenantApps.Idna.Mapping
import TenantApps.Idna.Punycode
import TenantApps.Unicode.Normalization
import TenantApps.Unicode.Script

/-!
# `TenantApps.Idna.Domain` — domain to ASCII

`toAscii?` maps and normalizes a domain name, validates its labels and encodes the labels beyond
ASCII in Punycode. An `xn--` label must be the Punycode of a valid label that is not ASCII.

## Contents
- `mapChars`, mapping and NFC of a whole name.
- `joinersFit` (ContextJ) and `Bidi.fits` (the Bidi rule), the contextual rules for labels.
- `label?`, a validated label, and `toAscii?`.
-/

namespace TenantApps.Idna

open Unicode

/-! ## Mapping -/

/-- Applies `fate` to each character; `none` if one is disallowed. -/
def mapEach : List Char → Option (List Char)
  | [] => some []
  | c :: rest =>
    match fate c with
    | .valid => (mapEach rest).map (c :: ·)
    | .mapped cs => (mapEach rest).map (cs ++ ·)
    | .disallowed => none

/-- Mapping followed by NFC. -/
def mapChars (cs : List Char) : Option (List Char) := (mapEach cs).map nfc

/-- Fixed points of mapping and normalization. -/
def isStable (cs : List Char) : Bool := cs.all (fate · = .valid) && nfc cs = cs

/-- Forbidden domain code points: controls, space and URL delimiters. -/
def isForbidden (c : Char) : Bool :=
  c.toNat ≤ 0x20 || c.toNat == 0x7f || "#/:<>?@[\\]^|%".toList.contains c

/-! ## Joiners -/

/-- The combining class `Virama`, after which joiners are valid. -/
def viramaClass : Nat := 9

/-- The rule for ZERO WIDTH NON-JOINER: between two letters that would join. -/
def breaksJoin (before after : List Char) : Bool :=
  (match before.dropWhile isTransparent with
    | c :: _ => joinsNext c
    | [] => false) &&
  (match after.dropWhile isTransparent with
    | c :: _ => joinsPrevious c
    | [] => false)

/-- The ContextJ rules; `before` holds the preceding characters, nearest first. -/
def joinersFit (before : List Char) : List Char → Bool
  | [] => true
  | c :: rest =>
    (match c.toNat with
      | 0x200c => (before.head?.map combiningClass) == some viramaClass || breaksJoin before rest
      | 0x200d => (before.head?.map combiningClass) == some viramaClass
      | _ => true) &&
    joinersFit (c :: before) rest

/-! ## Writing direction -/

namespace Bidi

/-- Characters that make a name bidirectional. -/
def counts (c : Char) : Bool :=
  match direction c with
  | .rightToLeft | .arabicNumber => true
  | _ => false

/-- Directions allowed in a left-to-right label. -/
def inLeftToRight : Direction → Bool
  | .leftToRight | .europeanNumber | .neutral | .nonspacingMark => true
  | _ => false

/-- Directions allowed in a right-to-left label. -/
def inRightToLeft : Direction → Bool
  | .rightToLeft | .arabicNumber | .europeanNumber | .neutral | .nonspacingMark => true
  | _ => false

/-- The Bidi rule: the first character sets the direction, every character is allowed in it, the
last one that is not a nonspacing mark is a letter or digit, and a right-to-left label has digits of
one kind. -/
def fits (label : List Char) : Bool :=
  let ds := label.map direction
  let last := (ds.reverse.dropWhile (· = .nonspacingMark)).head?
  match ds with
  | [] => true
  | .leftToRight :: _ =>
    ds.all inLeftToRight &&
      (last == some .leftToRight || last == some .europeanNumber)
  | .rightToLeft :: _ =>
    ds.all inRightToLeft &&
      (last == some .rightToLeft || last == some .europeanNumber || last == some .arabicNumber) &&
      !(ds.contains .europeanNumber && ds.contains .arabicNumber)
  | _ => false

end Bidi

/-! ## Labels and names -/

/-- The prefix of Punycode labels. -/
def punycodeMark : List Char := ['x', 'n', '-', '-']

/-- The length up to which Punycode labels are decoded. -/
def decodeLimit : Nat := 2000

/-- The length up to which labels are encoded. -/
def encodeLimit : Nat := 1000

/-- No leading mark, and valid joiners. -/
def labelFits (cs : List Char) : Bool := !(cs.head?.any isMark) && joinersFit [] cs

/-- The validated label, decoded if it is in Punycode. -/
def label? (cs : List Char) : Option (List Char) :=
  if cs.any isForbidden then none
  else if punycodeMark.isPrefixOf cs then
    let written := cs.drop punycodeMark.length
    if written.any (128 ≤ ·.toNat) ∨ decodeLimit < written.length then none
    else
      match Punycode.decode? written with
      | none => none
      | some decoded =>
        if decoded.all (·.toNat < 128) ∨ punycodeMark.isPrefixOf decoded then none
        else if isStable decoded && labelFits decoded then some decoded
        else none
  else if labelFits cs then some cs
  else none

/-- The ASCII form of a validated label. -/
def asciiLabel? (cs : List Char) : Option (List Char) :=
  if cs.all (·.toNat < 128) then some cs
  else if encodeLimit < cs.length then none
  else some (punycodeMark ++ Punycode.encode cs)

/-- The ASCII form of a domain name; `none` if it is invalid. -/
def toAscii? (domain : List Char) : Option (List Char) := do
  let labels := Text.split '.' (← mapChars domain)
  let meant ← labels.mapM label?
  if meant.any (·.any Bidi.counts) && !meant.all Bidi.fits then none
  else (labels.mapM asciiLabel?).map (Text.join '.')

end TenantApps.Idna

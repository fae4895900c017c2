import Walkthrough.Text.CharName.Coding
import Walkthrough.Text.CharName.Listed
import Walkthrough.Text.CharName.Other

/-!
# Characters by name

Most names are listed.  Those of ideographs hold the code of the character, and those of Korean
syllables are made of the names of their sounds.
-/

namespace Walkthrough.Text

/-! ## Names that hold a code -/

/-- The code at the end of a name: four or five digits in base sixteen, with capitals. -/
def trailingCode? (digits : List Char) : Option Nat :=
  let isDigit (c : Char) : Bool := c.isDigit || ('A' ≤ c && c ≤ 'F')
  let value (c : Char) : Nat := if c.isDigit then c.toNat - '0'.toNat else c.toNat - 'A'.toNat + 10
  if (digits.length == 4 || digits.length == 5) && digits.all isDigit then
    some (digits.foldl (fun code c => 16 * code + value c) 0)
  else none

/-- What follows a text. -/
def afterText? (start : String) (text : List Char) : Option (List Char) :=
  if start.toList.isPrefixOf text then some (text.drop start.length) else none

/-- A family of characters named by their codes. -/
structure CodedNames where
  stem : String
  /-- Whether a code may be filled up with a zero. -/
  padded : Bool
  ranges : List (Nat × Nat)

/-- The character that a name of the family stands for. -/
def CodedNames.code? (family : CodedNames) (name : List Char) : Option Nat := do
  let digits ← afterText? family.stem name
  guard (family.padded || digits.head? != some '0')
  let code ← trailingCode? digits
  if family.ranges.any fun (low, high) => low ≤ code && code ≤ high then some code else none

def unifiedIdeographs : CodedNames where
  stem := "CJK UNIFIED IDEOGRAPH-"
  padded := true
  ranges := [(0x3400, 0x4dbf), (0x4e00, 0x9fff), (0x20000, 0x2a6df), (0x2a700, 0x2b738),
    (0x2b740, 0x2b81d), (0x2b820, 0x2cea1), (0x2ceb0, 0x2ebe0), (0x30000, 0x3134a)]

/-- The families whose names are found like listed ones. -/
def listedFamilies : List CodedNames := [
  ⟨"CJK COMPATIBILITY IDEOGRAPH-", false,
    [(0xf900, 0xfa6d), (0xfa70, 0xfad9), (0x2f800, 0x2fa1d)]⟩,
  ⟨"KHITAN SMALL SCRIPT CHARACTER-", false, [(0x18b00, 0x18cd5)]⟩,
  ⟨"NUSHU CHARACTER-", false, [(0x1b170, 0x1b2fb)]⟩]

/-! ## Korean syllables -/

def firstSounds : List String :=
  ["G", "GG", "N", "D", "DD", "R", "M", "B", "BB", "S", "SS", "", "J", "JJ", "C", "K", "T", "P", "H"]

def middleSounds : List String :=
  ["A", "AE", "YA", "YAE", "EO", "E", "YEO", "YE", "O", "WA", "WAE", "OE", "YO", "U", "WEO", "WE",
    "WI", "YU", "EU", "YI", "I"]

def lastSounds : List String :=
  ["", "G", "GG", "GS", "N", "NJ", "NH", "D", "L", "LG", "LM", "LB", "LS", "LT", "LP", "LH", "M",
    "B", "BS", "S", "SS", "NG", "J", "C", "K", "T", "P", "H"]

/-- The longest sound that a text begins with: its place in the list, and the rest of the text. -/
def leadingSound? (sounds : List String) (text : List Char) : Option (Nat × List Char) :=
  let fitting := sounds.zipIdx.filter fun (sound, _) => sound.toList.isPrefixOf text
  let longest := fitting.foldl (fun best (sound, place) =>
    match best with
    | some (length, _) => if sound.length > length then some (sound.length, place) else best
    | none => some (sound.length, place)) (none : Option (Nat × Nat))
  longest.map fun (length, place) => (place, text.drop length)

def syllableCode? (name : List Char) : Option Nat := do
  let text ← afterText? "HANGUL SYLLABLE " name
  let (first, text) ← leadingSound? firstSounds text
  let (middle, text) ← leadingSound? middleSounds text
  let (last, text) ← leadingSound? lastSounds text
  guard text.isEmpty
  return 0xac00 + (first * 21 + middle) * 28 + last

/-! ## All names -/

/-- The number in a name such as `VS12`. -/
def variationCode? (name : List Char) : Option Nat := do
  let digits ← afterText? "VS" name
  guard (digits.all Char.isDigit && digits.head? != some '0')
  let number ← (String.ofList digits).toNat?
  if number == 0 || number > 256 then none
  else if number ≤ 16 then some (0xfe00 + number - 1)
  else some (0xe0100 + number - 17)

/-- The code that a name in the list stands for. -/
def codeInList? (name : List Char) : Option Nat :=
  ((findCode? name listedNameCount ⟨0, [], 0, 0⟩).run (.start (digitsOf nameDigits))).1

/-- The code that a listed name stands for. -/
def listedCode? (name : List Char) : Option Nat :=
  otherCode? (String.ofList name) <|> variationCode? name <|>
    listedFamilies.findSome? (·.code? name) <|> codeInList? name

/-- The character with the given name.  Case does not matter where names are listed. -/
def charNamed? (name : String) : Option Char :=
  let exact := name.toList
  let code :=
    if "HANGUL SYLLABLE ".toList.isPrefixOf exact then syllableCode? exact
    else if unifiedIdeographs.stem.toList.isPrefixOf exact then unifiedIdeographs.code? exact
    else listedCode? (exact.map Char.toUpper)
  code.map Char.ofNat

end Walkthrough.Text

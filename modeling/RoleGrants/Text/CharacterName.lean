import RoleGrants.Text.CharacterName.Aliases
import RoleGrants.Text.CharacterName.Alphabets
import RoleGrants.Text.CharacterName.AncientScripts
import RoleGrants.Text.CharacterName.EastAsian
import RoleGrants.Text.CharacterName.Hieroglyphs
import RoleGrants.Text.CharacterName.LaterScripts
import RoleGrants.Text.CharacterName.Notations
import RoleGrants.Text.CharacterName.Pictures
import RoleGrants.Text.CharacterName.Signs
import RoleGrants.Text.CharacterName.Syllabaries
import RoleGrants.Text.CharacterName.Symbols
import RoleGrants.Text.Ranges

/-! The characters that a pattern can give by name, which are all that have one in Unicode 14. Most
names are listed, and some follow rules. Names are matched in letters of either case, but for those
of unified ideographs and of Hangul syllables, which are matched in capitals only. The names of
sequences of characters are left out, as a pattern cannot give them. -/

namespace RoleGrants.Text

def ideographRanges : Ranges :=
  [(0x3400, 0x4dbf), (0x4e00, 0x9fff), (0x20000, 0x2a6df), (0x2a700, 0x2b738),
   (0x2b740, 0x2b81d), (0x2b820, 0x2cea1), (0x2ceb0, 0x2ebe0), (0x30000, 0x3134a)]

/-- The characters other than unified ideographs that are named for their code points. -/
def codedRanges : List (String × Ranges) :=
  [("CJK COMPATIBILITY IDEOGRAPH-", [(0xf900, 0xfa6d), (0xfa70, 0xfad9), (0x2f800, 0x2fa1d)]),
   ("KHITAN SMALL SCRIPT CHARACTER-", [(0x18b00, 0x18cd5)]),
   ("NUSHU CHARACTER-", [(0x1b170, 0x1b2fb)])]

/-- Characters that are named for their numbers: from `first` to `last`, in at least `width` digits,
with the code point of the first. -/
structure NumberedRun where
  stem : String
  width : Nat
  first : Nat
  last : Nat
  code : Nat

def numberedRuns : List NumberedRun :=
  [⟨"TANGUT COMPONENT-", 3, 1, 768, 0x18800⟩, ⟨"VARIATION SELECTOR-", 1, 1, 16, 0xfe00⟩,
   ⟨"VARIATION SELECTOR-", 1, 17, 256, 0xe0100⟩, ⟨"VS", 1, 1, 16, 0xfe00⟩,
   ⟨"VS", 1, 17, 256, 0xe0100⟩]

/-- The value of a hexadecimal digit that is no small letter. -/
def capitalHexValue? (c : Char) : Option Nat :=
  if '0' ≤ c && c ≤ '9' then some (c.toNat - '0'.toNat)
  else if 'A' ≤ c && c ≤ 'F' then some (c.toNat - 'A'.toNat + 10)
  else none

/-- The character of some ranges whose code point is written in four or five digits. -/
def coded? (ranges : Ranges) (digits : List Char) : Option Nat := do
  let values ← digits.mapM capitalHexValue?
  let code := values.foldl (fun n value => 16 * n + value) 0
  if (digits.length == 4 || digits.length == 5) && ranges.holds code then some code else none

/-- The character of some ranges whose code point is written without a zero in front. -/
def plainlyCoded? (ranges : Ranges) (digits : List Char) : Option Nat :=
  if digits.head? == some '0' then none else coded? ranges digits

/-- The character of a run whose number is written as it is in names of the run. -/
def NumberedRun.find? (run : NumberedRun) (name : List Char) : Option Nat :=
  ((List.range (run.last - run.first + 1)).find? fun index =>
    let digits := Nat.toDigits 10 (run.first + index)
    run.stem.toList ++ List.replicate (run.width - digits.length) '0' ++ digits == name).map
      (run.code + ·)

def initials : List String :=
  ["G", "GG", "N", "D", "DD", "R", "M", "B", "BB", "S", "SS", "", "J", "JJ", "C", "K", "T", "P",
   "H"]

def vowels : List String :=
  ["A", "AE", "YA", "YAE", "EO", "E", "YEO", "YE", "O", "WA", "WAE", "OE", "YO", "U", "WEO", "WE",
   "WI", "YU", "EU", "YI", "I"]

/-- The names of the final consonants of Hangul, the first of which is none. -/
def finals : List String :=
  ["", "G", "GG", "GS", "N", "NJ", "NH", "D", "L", "LG", "LM", "LB", "LS", "LT", "LP", "LH", "M",
   "B", "BS", "S", "SS", "NG", "J", "C", "K", "T", "P", "H"]

/-- The longest of some parts that begins a name: its index, and the name without it. -/
def longestPart? (parts : List String) (name : List Char) : Option (Nat × List Char) :=
  let fitting := parts.zipIdx.filter fun (part, _) => part.toList.isPrefixOf name
  let best := fitting.foldl (fun best (part, index) =>
    match best with
    | some (length, _) => if length < part.length then some (part.length, index) else best
    | none => some (part.length, index)) none
  best.map fun (length, index) => (index, name.drop length)

/-- The Hangul syllable whose parts make up a name. -/
def syllable? (name : List Char) : Option Nat := do
  let (first, rest) ← longestPart? initials name
  let (second, rest) ← longestPart? vowels rest
  let (third, rest) ← longestPart? finals rest
  if rest.isEmpty then some (0xac00 + (first * vowels.length + second) * finals.length + third)
  else none

/-- The character with a name that is listed. -/
def listed? (name : String) : Option Nat :=
  [alphabetNames, syllabaryNames, symbolNames, signNames, eastAsianNames, laterNames, ancientNames,
    hieroglyphNames, notationNames, pictureNames].findSome? (·.find? name) <|>
    otherNames.lookup name

/-- The character with a name in capitals that is listed, or that is made of a code point or of a
number. -/
def capitalNamed? (name : List Char) : Option Nat :=
  match codedRanges.find? fun (stem, _) => stem.toList.isPrefixOf name with
  | some (stem, ranges) => plainlyCoded? ranges (name.drop stem.length)
  | none => numberedRuns.findSome? (·.find? name) <|> listed? (String.ofList name)

def characterNamed? (name : List Char) : Option Nat :=
  let ideograph := "CJK UNIFIED IDEOGRAPH-".toList
  let syllable := "HANGUL SYLLABLE ".toList
  if ideograph.isPrefixOf name then coded? ideographRanges (name.drop ideograph.length)
  else if syllable.isPrefixOf name then syllable? (name.drop syllable.length)
  else capitalNamed? (name.map Char.toUpper)

example : characterNamed? "CJK UNIFIED IDEOGRAPH-4E2D".toList = some 0x4e2d ∧
    characterNamed? "tangut component-012".toList = some 0x1880b := by
  decide +kernel

end RoleGrants.Text

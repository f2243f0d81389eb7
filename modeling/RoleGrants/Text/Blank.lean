import RoleGrants.Text.Ranges

/-! The characters that separate words: the blanks and line ends of Unicode 14. -/

namespace RoleGrants.Text

def blankRanges : Ranges :=
  [(0x9, 0xd), (0x1c, 0x20), (0x85, 0x85), (0xa0, 0xa0), (0x1680, 0x1680), (0x2000, 0x200a),
   (0x2028, 0x2029), (0x202f, 0x202f), (0x205f, 0x205f), (0x3000, 0x3000)]

/-- Whether the character with code point `code` is a blank or a line end. -/
def isBlank (code : Nat) : Bool :=
  blankRanges.holds code

def isBlankText (text : String) : Bool :=
  text.toList.all fun c => isBlank c.toNat

/-- Whether the character with code point `code` is white space. The four separators of information
are blanks without being white space. -/
def isSpace (code : Nat) : Bool :=
  isBlank code && !(0x1c ≤ code && code ≤ 0x1f)

/-- The characters of `text` without those at its two ends for which `test` holds. -/
def trim (test : Nat → Bool) (text : List Char) : List Char :=
  let drop : List Char → List Char := List.dropWhile fun c => test c.toNat
  (drop (drop text).reverse).reverse

end RoleGrants.Text

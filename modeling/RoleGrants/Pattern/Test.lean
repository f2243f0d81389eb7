import RoleGrants.Pattern.Error
import RoleGrants.Text.Digit
import RoleGrants.Text.Blank
import RoleGrants.Text.Case

/-! Tests on single characters. A test is what a part that takes one character becomes once the
flags in force are known: whether case counts, and whether the classes are those of ASCII or of all
scripts. When case does not count, the character is compared by its small letter, and the members
of a set are replaced by theirs. -/

namespace RoleGrants.Pattern

/-- How a character is folded before it is compared. -/
inductive Folding where
  | none
  | ascii
  | unicode
  deriving DecidableEq, Inhabited

namespace Folding

def fold : Folding → Nat → Nat
  | .none, code => code
  | .ascii, code => Text.lowerAscii code
  | .unicode, code => Text.lower code

def ofFlags (flags : Flags) : Folding :=
  if !flags.ignoreCase then .none else if flags.unicode then .unicode else .ascii

def isCased : Folding → Nat → Bool
  | .none, _ => false
  | .ascii, code => Text.isCasedAscii code
  | .unicode, code => Text.isCased code

def isCasedRange : Folding → Nat → Nat → Bool
  | .none, _, _ => false
  | .ascii, low, high => (low ≤ 90 && 65 ≤ high) || (low ≤ 122 && 97 ≤ high)
  | .unicode, low, high => Text.casedRanges.any fun (first, last) => low ≤ last && first ≤ high

/-- The small letters that count as the same as a small letter. -/
def alike : Folding → Nat → List Nat
  | .unicode, code => code :: Text.sameCapital code
  | _, code => [code]

end Folding

inductive Accepted where
  | single (code : Nat)
  | range (low high : Nat)
  | category (kind : Category) (ascii negated : Bool)
  /-- A range that holds the character or its capital. -/
  | rangeOrCapital (low high : Nat)
  deriving DecidableEq, Inhabited

/-- The capital of a small letter, and any other character itself. -/
def capitalOf (code : Nat) : Nat :=
  ((Text.capitals.find? fun (_, small) => small == code).map (·.1)).getD code

/-- Whether a class of characters holds a character. In ASCII the classes are shorter. -/
def Category.holds (kind : Category) (ascii : Bool) (code : Nat) : Bool :=
  (!ascii || code < 128) &&
    match kind with
    | .digit => Text.isDigit code
    | .blank => Text.isBlank code && (!ascii || code < 28 || code == 32)
    | .word => Text.isWord code

def Accepted.holds (code : Nat) : Accepted → Bool
  | .single c => c == code
  | .range low high => low ≤ code && code ≤ high
  | .category kind ascii negated => kind.holds ascii code != negated
  | .rangeOrCapital low high =>
    (low ≤ code && code ≤ high) || (low ≤ capitalOf code && capitalOf code ≤ high)

inductive Test where
  | any
  | notNewline
  | set (folding : Folding) (negated : Bool) (accepted : List Accepted)
  deriving DecidableEq, Inhabited

def Test.passes (code : Nat) : Test → Bool
  | .any => true
  | .notNewline => code != 10
  | .set folding negated accepted =>
    let folded := folding.fold code
    (accepted.any fun member => member.holds folded) != negated

/-- The test for one character, or for any but it. -/
def Test.ofSingle (folding : Folding) (negated : Bool) (code : Nat) : Test :=
  if folding.isCased code then
    .set folding negated ((folding.alike (folding.fold code)).map .single)
  else .set .none negated [.single code]

/-- The greatest character that a folded set looks at one by one. -/
def lastFolded : Nat := 0xffff

/-- The small letters of the capitals in a range and those that count as the same, and those that
count as the same as a small letter of the range. -/
def foldedExtras (folding : Folding) (low high : Nat) : List Nat :=
  let inside (code : Nat) : Bool := low ≤ code && code ≤ high
  match folding with
  | .none => []
  | .ascii => ((List.range 26).map (· + 65)).filter inside |>.map (· + 32)
  | .unicode =>
    let smalls := (Text.capitals.filter fun (capital, _) => inside capital).map (·.2)
    smalls.flatMap folding.alike ++
      (Text.sharedCapitals.filter fun (small, _) => inside small).flatMap (·.2)

/-- What a member of a set accepts under a folding. A character beyond the basic plane is kept as it
is, and a range beyond it accepts capitals as well. -/
def Member.accepted (folding : Folding) (ascii : Bool) : Member → List Accepted
  | .category kind negated => [.category kind ascii negated]
  | .single code =>
    if folding == .none then [.single code]
    else
      let small := folding.fold code
      if small > lastFolded then [.single code] else (folding.alike small).map .single
  | .range low high =>
    if folding == .none then [.range low high]
    else
      let basic :=
        if low ≤ lastFolded then
          .range low (min high lastFolded) ::
            (foldedExtras folding low (min high lastFolded)).map .single
        else []
      if high > lastFolded then basic ++ [.rangeOrCapital low high] else basic

/-- Whether a member of a set makes case count for the whole set. -/
def Member.folds (folding : Folding) : Member → Bool
  | .category _ _ => false
  | .single code => folding.isCased code || (folding != .none && folding.fold code > lastFolded)
  | .range low high => folding.isCasedRange low high || (folding != .none && high > lastFolded)

/-- The test for a set of characters under flags. The character is folded only if some member takes
part in case. -/
def Test.ofSet (flags : Flags) (negated : Bool) (members : List Member) : Test :=
  let folding := Folding.ofFlags flags
  let accepted := members.flatMap (Member.accepted folding (!flags.unicode))
  .set (if members.any (Member.folds folding) then folding else .none) negated accepted

end RoleGrants.Pattern

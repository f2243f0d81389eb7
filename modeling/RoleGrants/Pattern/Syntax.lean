/-! The syntax trees of patterns. Characters are code points, since a pattern may name surrogates,
which no text holds. -/

namespace RoleGrants.Pattern

/-- The switches that change how a pattern is read or what it matches. -/
structure Flags where
  ignoreCase : Bool := false
  multiline : Bool := false
  dotAll : Bool := false
  verbose : Bool := false
  ascii : Bool := false
  unicode : Bool := false
  template : Bool := false
  deriving DecidableEq, Inhabited

namespace Flags

def union (a b : Flags) : Flags where
  ignoreCase := a.ignoreCase || b.ignoreCase
  multiline := a.multiline || b.multiline
  dotAll := a.dotAll || b.dotAll
  verbose := a.verbose || b.verbose
  ascii := a.ascii || b.ascii
  unicode := a.unicode || b.unicode
  template := a.template || b.template

def minus (a b : Flags) : Flags where
  ignoreCase := a.ignoreCase && !b.ignoreCase
  multiline := a.multiline && !b.multiline
  dotAll := a.dotAll && !b.dotAll
  verbose := a.verbose && !b.verbose
  ascii := a.ascii && !b.ascii
  unicode := a.unicode && !b.unicode
  template := a.template && !b.template

def overlaps (a b : Flags) : Bool :=
  a.minus b != a

def isEmpty (flags : Flags) : Bool :=
  flags == {}

def choosesAlphabet (flags : Flags) : Bool :=
  flags.ascii || flags.unicode

/-- The switch named by a letter. The letter `L` names one too, which no pattern may use. -/
def ofLetter? : Char → Option Flags
  | 'i' => some { ignoreCase := true }
  | 'm' => some { multiline := true }
  | 's' => some { dotAll := true }
  | 'x' => some { verbose := true }
  | 'a' => some { ascii := true }
  | 'u' => some { unicode := true }
  | 't' => some { template := true }
  | 'L' => some {}
  | _ => none

/-- The flags in force inside a group that turns some on and some off. A group that chooses an
alphabet drops the one chosen outside. -/
def within (outer on off : Flags) : Flags :=
  let kept := if on.choosesAlphabet then { outer with ascii := false, unicode := false } else outer
  (kept.union on).minus off

end Flags

/-- The classes of characters that have an escape of their own. -/
inductive Category where
  | digit
  | blank
  | word
  deriving DecidableEq, Inhabited

inductive Member where
  | single (code : Nat)
  | range (low high : Nat)
  | category (kind : Category) (negated : Bool)
  deriving DecidableEq, Inhabited

/-- The places that a pattern can ask for without taking a character. -/
inductive Anchor where
  /-- Written `^`. -/
  | lineStart
  /-- Written `$`. -/
  | lineEnd
  /-- Written `\A`. -/
  | textStart
  /-- Written `\Z`. -/
  | textEnd
  /-- Written `\b`. -/
  | wordBoundary
  /-- Written `\B`. -/
  | insideWord
  deriving DecidableEq, Inhabited

/-- How a repetition chooses its count: the most that lets the rest match, the least, or the most
without going back. -/
inductive Greed where
  | greedy
  | lazy
  | possessive
  deriving DecidableEq, Inhabited

/-- A part of a pattern. A repetition without a greatest count has none. -/
inductive Node where
  | single (code : Nat)
  | notSingle (code : Nat)
  | any
  | set (negated : Bool) (members : List Member)
  | anchor (place : Anchor)
  | branch (alternatives : List (List Node))
  | group (index : Option Nat) (on off : Flags) (body : List Node)
  | repetition (greed : Greed) (least : Nat) (greatest : Option Nat) (body : List Node)
  | atomic (body : List Node)
  | look (behind negated : Bool) (body : List Node)
  | backreference (index : Nat)
  | conditional (index : Nat) (yes : List Node) (no : Option (List Node))
  deriving Inhabited

namespace Node

/-- Whether two parts without parts of their own are the same. -/
def sameLeaf : Node → Node → Bool
  | .single a, .single b => a == b
  | .notSingle a, .notSingle b => a == b
  | .any, .any => true
  | .set m xs, .set n ys => m == n && xs == ys
  | .anchor a, .anchor b => a == b
  | .backreference a, .backreference b => a == b
  | _, _ => false

/-- The body of a group that neither captures nor changes flags. -/
def plainGroup? : Node → Option (List Node)
  | .group none on off body => if on.isEmpty && off.isEmpty then some body else none
  | _ => none

end Node

mutual

def Node.refersTo (index : Nat) : Node → Bool
  | .branch alternatives => someBranchRefersTo index alternatives
  | .group _ _ _ body => someRefersTo index body
  | .repetition _ _ _ body => someRefersTo index body
  | .atomic body => someRefersTo index body
  | .look _ _ body => someRefersTo index body
  | .backreference other => other == index
  | .conditional other yes no =>
    other == index || someRefersTo index yes ||
      (match no with
        | some no => someRefersTo index no
        | none => false)
  | _ => false

def someRefersTo (index : Nat) : List Node → Bool
  | [] => false
  | node :: rest => node.refersTo index || someRefersTo index rest

def someBranchRefersTo (index : Nat) : List (List Node) → Bool
  | [] => false
  | nodes :: rest => someRefersTo index nodes || someBranchRefersTo index rest

end

end RoleGrants.Pattern

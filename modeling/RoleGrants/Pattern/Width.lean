import RoleGrants.Pattern.Syntax

/-! The least and the greatest count of characters that a part of a pattern can take. A look-behind
needs both to be the same. -/

namespace RoleGrants.Pattern

/-- The least and the greatest count of characters. -/
structure Width where
  least : Nat
  greatest : Nat
  deriving DecidableEq, Inhabited

namespace Width

/-- Counts are not told apart from here on. -/
def limit : Nat := Nat.pow 2 64

/-- The count that stands for no bound in a repetition. -/
def unbounded : Nat := Nat.pow 2 32 - 1

def zero : Width := ⟨0, 0⟩

def one : Width := ⟨1, 1⟩

def add (a b : Width) : Width :=
  ⟨a.least + b.least, a.greatest + b.greatest⟩

def either (a b : Width) : Width :=
  ⟨min a.least b.least, max a.greatest b.greatest⟩

/-- A width with its counts cut off at the limit. -/
def cut (a : Width) : Width :=
  ⟨min a.least limit, min a.greatest limit⟩

def times (a : Width) (least : Nat) (greatest : Option Nat) : Width where
  least := a.least * least
  greatest :=
    match greatest with
    | none => if a.greatest = 0 then 0 else limit
    | some count => a.greatest * count

end Width

mutual

/-- The width of a part, given those of the groups. -/
def Node.width (groups : Nat → Width) : Node → Width
  | .single _ => .one
  | .notSingle _ => .one
  | .any => .one
  | .set _ _ => .one
  | .anchor _ => .zero
  | .branch alternatives => branchWidth groups alternatives
  | .group _ _ _ body => (sequenceWidth groups body).cut
  | .repetition _ least greatest body => (sequenceWidth groups body).cut.times least greatest
  | .atomic body => (sequenceWidth groups body).cut
  | .look _ _ _ => .zero
  | .backreference index => groups index
  | .conditional _ yes no =>
    match no with
    | none => ⟨0, (sequenceWidth groups yes).cut.greatest⟩
    | some no => (sequenceWidth groups yes).cut.either (sequenceWidth groups no).cut

def sequenceWidth (groups : Nat → Width) : List Node → Width
  | [] => .zero
  | node :: rest => (node.width groups).add (sequenceWidth groups rest)

def branchWidth (groups : Nat → Width) : List (List Node) → Width
  | [] => ⟨Width.limit, 0⟩
  | nodes :: rest => (sequenceWidth groups nodes).cut.either (branchWidth groups rest)

end

end RoleGrants.Pattern

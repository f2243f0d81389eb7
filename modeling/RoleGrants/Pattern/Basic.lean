import RoleGrants.Pattern.Reader
import RoleGrants.Pattern.Matcher

/-! Patterns: compiling one from its text, and searching a text for a match. A search is not
anchored at either end; a pattern that is to match the whole of a text says so itself.

A pattern is refused for a rule of the syntax, for the size of a number or for two alphabets. The
limits of a machine are left out: groups may be nested to any depth, though a machine that reads
them by recursion runs out of stack at some five hundred, and a count in braces may have any number
of digits, though a machine may read no more than 4300. -/

namespace RoleGrants

structure Pattern where
  source : String
  steps : List Pattern.Step
  groups : Nat

namespace Pattern

/-- Compiles a pattern, or says what is wrong with it. The alphabet is that of all scripts unless
the pattern asks for ASCII. -/
def compile (source : String) : Except Error Pattern := do
  let (nodes, scanner) ← readPattern source
  let flags := { scanner.flags with unicode := !scanner.flags.ascii }
  let count := scanner.groups.size
  let referenced := (List.range count).filter fun index => someRefersTo index nodes
  let groups : Groups := ⟨scanner.widths, referenced.contains⟩
  match sequenceSteps groups flags nodes with
  | .ok steps => return { source, steps, groups := if referenced.isEmpty then 0 else count }
  | .error fault => throw (.malformed fault none)

def matchesAt (pattern : Pattern) (text : Array Char) (index : Nat) : Bool :=
  let start : State := ⟨index, Array.replicate (2 * pattern.groups) none⟩
  (runSteps text pattern.steps start some).isSome

def search (pattern : Pattern) (text : String) : Bool :=
  let chars := text.toList.toArray
  (List.range (chars.size + 1)).any (pattern.matchesAt chars)

end Pattern

end RoleGrants

/-! How the names of characters are listed. Characters that follow one another make up a run, and
many names differ from the one before only in their last words. So a name is given by the number of
words that it shares with the name before, in one digit, and by the words behind these. -/

namespace RoleGrants.Text

/-- Runs of characters: each has the code point of its first character, and the names on lines, with
semicolons between them. A character without a name in the list has nothing between two. -/
abbrev NameRuns := List (Nat × List String)

/-- The words of a name that is given after another. -/
def wordsAfter (before : List String) : List Char → List String
  | [] => []
  | shared :: rest => before.take (shared.toNat - '0'.toNat) ++ (String.ofList rest).splitOn " "

/-- The place of the name with some words among names that are given one after another. -/
def placeOf? (words before : List String) : List String → Option Nat
  | [] => none
  | entry :: rest =>
    if entry.isEmpty then (placeOf? words before rest).map (· + 1)
    else
      let found := wordsAfter before entry.toList
      if found == words then some 0 else (placeOf? words found rest).map (· + 1)

/-- The character that has a name in some runs. -/
def NameRuns.find? (runs : NameRuns) (name : String) : Option Nat :=
  runs.findSome? fun (first, lines) =>
    (placeOf? (name.splitOn " ") [] (lines.flatMap (·.splitOn ";"))).map (first + ·)

example : wordsAfter ["EM", "DASH"] "1QUAD".toList = ["EM", "QUAD"] := by cbv

end RoleGrants.Text

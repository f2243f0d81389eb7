import RoleGrants.Text.Quoted
import RoleGrants.Pattern.Syntax

/-! What can be wrong with a pattern. Most faults are found at a position of the pattern; those of a
look-behind and of a repetition under the template flag are found when the whole pattern has been
read, and have none. A few patterns pass every rule of the syntax and are refused for the size of a
number or for two alphabets. -/

namespace RoleGrants.Pattern

inductive Fault where
  | escapeAtEnd
  | badEscape (escape : String)
  | incompleteEscape (escape : String)
  | octalTooLarge (escape : String)
  | missingBrace
  | missingName (what : String)
  | unterminatedName (terminator : Char)
  | unknownCharacterName (name : String)
  | openGroup
  | groupOfSameLookBehind
  | unknownGroupNumber (index : Nat)
  | unknownGroupName (name : String)
  | badGroupName (name : String)
  | redefinedGroup (name : String) (index earlier : Nat)
  | groupZero
  | unterminatedSet
  | badRange (low high : String)
  | leastAboveGreatest
  | nothingToRepeat
  | multipleRepeat
  | unexpectedEnd
  | unknownExtension (extension : String)
  | unterminatedComment
  | unterminatedGroup
  | unbalanced
  | tooManyBranches
  | flagsNotAtStart
  | localeFlag
  | clashingAlphabets
  | flagsNotClosed
  | missingFlag
  | missingColon
  | unknownFlag
  | globalFlagOn
  | globalFlagOff
  | alphabetOff
  | flagOnAndOff
  | lookBehindWidth
  | lookBehindTooFar
  | templateRepetition (greed : Greed)
  | tooDeep
  deriving DecidableEq, Inhabited

namespace Fault

def repetitionName : Greed → String
  | .greedy => "MAX_REPEAT"
  | .lazy => "MIN_REPEAT"
  | .possessive => "POSSESSIVE_REPEAT"

/-- What a fault is, without its position. -/
def message : Fault → String
  | .escapeAtEnd => "bad escape (end of pattern)"
  | .badEscape escape => s!"bad escape {escape}"
  | .incompleteEscape escape => s!"incomplete escape {escape}"
  | .octalTooLarge escape => s!"octal escape value {escape} outside of range 0-0o377"
  | .missingBrace => "missing \x7b"
  | .missingName what => s!"missing {what}"
  | .unterminatedName terminator => s!"missing {terminator}, unterminated name"
  | .unknownCharacterName name => s!"undefined character name {Text.quoted name}"
  | .openGroup => "cannot refer to an open group"
  | .groupOfSameLookBehind =>
    "cannot refer to group defined in the same lookbehind subpattern"
  | .unknownGroupNumber index => s!"invalid group reference {index}"
  | .unknownGroupName name => s!"unknown group name {Text.quoted name}"
  | .badGroupName name => s!"bad character in group name {Text.quoted name}"
  | .redefinedGroup name index earlier =>
    s!"redefinition of group name {Text.quoted name} as group {index}; was group {earlier}"
  | .groupZero => "bad group number"
  | .unterminatedSet => "unterminated character set"
  | .badRange low high => s!"bad character range {low}-{high}"
  | .leastAboveGreatest => "min repeat greater than max repeat"
  | .nothingToRepeat => "nothing to repeat"
  | .multipleRepeat => "multiple repeat"
  | .unexpectedEnd => "unexpected end of pattern"
  | .unknownExtension extension => s!"unknown extension ?{extension}"
  | .unterminatedComment => "missing ), unterminated comment"
  | .unterminatedGroup => "missing ), unterminated subpattern"
  | .unbalanced => "unbalanced parenthesis"
  | .tooManyBranches => "conditional backref with more than two branches"
  | .flagsNotAtStart => "global flags not at the start of the expression"
  | .localeFlag => "bad inline flags: cannot use 'L' flag with a str pattern"
  | .clashingAlphabets => "bad inline flags: flags 'a', 'u' and 'L' are incompatible"
  | .flagsNotClosed => "missing -, : or )"
  | .missingFlag => "missing flag"
  | .missingColon => "missing :"
  | .unknownFlag => "unknown flag"
  | .globalFlagOn => "bad inline flags: cannot turn on global flag"
  | .globalFlagOff => "bad inline flags: cannot turn off global flag"
  | .alphabetOff => "bad inline flags: cannot turn off flags 'a', 'u' and 'L'"
  | .flagOnAndOff => "bad inline flags: flag turned on and off"
  | .lookBehindWidth => "look-behind requires fixed-width pattern"
  | .lookBehindTooFar => "looks too much behind"
  | .templateRepetition greed =>
    s!"internal: unsupported template operator {repetitionName greed}"
  | .tooDeep => "pattern nested too deeply"

end Fault

inductive Error where
  /-- The pattern breaks a rule of the syntax, at a position if the rule has one. -/
  | malformed (fault : Fault) (position : Option Nat)
  | countTooLarge
  | codeTooLarge
  | twoAlphabets
  deriving DecidableEq, Inhabited

/-- A position in a text, with the line and the column as well when the text has several lines. -/
def placeText (source : String) (position : Nat) : String :=
  let chars := source.toList
  if chars.contains '\n' then
    let before := chars.take position
    let line := before.count '\n' + 1
    let column := (before.reverse.takeWhile (· != '\n')).length + 1
    s!" at position {position} (line {line}, column {column})"
  else s!" at position {position}"

def Error.message (source : String) : Error → String
  | .malformed fault none => fault.message
  | .malformed fault (some position) => fault.message ++ placeText source position
  | .countTooLarge => "the repetition number is too large"
  | .codeTooLarge => "Python int too large to convert to C int"
  | .twoAlphabets => "ASCII and UNICODE flags are incompatible"

end RoleGrants.Pattern

/-! What can be wrong with the value of a setting. -/

namespace RoleGrants.Settings

/-- What is wrong with the value of a setting. -/
inductive Fault where
  | notText
  | notInteger
  | unreadableInteger
  | fractional
  | infinite
  | below (least : Int)
  | notTruth
  | unreadableTruth
  | notOneOf (words : List String)
  | unknownSetting
  deriving DecidableEq, Inhabited

/-- Words in quotes, with commas between them and "or" before the last. -/
def alternatives : List String → String
  | [] => ""
  | [word] => s!"'{word}'"
  | [word, last] => s!"'{word}' or '{last}'"
  | word :: rest => s!"'{word}', " ++ alternatives rest

namespace Fault

def kind : Fault → String
  | .notText => "string_type"
  | .notInteger => "int_type"
  | .unreadableInteger => "int_parsing"
  | .fractional => "int_from_float"
  | .infinite => "finite_number"
  | .below _ => "greater_than_equal"
  | .notTruth => "bool_type"
  | .unreadableTruth => "bool_parsing"
  | .notOneOf _ => "enum"
  | .unknownSetting => "extra_forbidden"

/-- What a value should have been. -/
def message : Fault → String
  | .notText => "Input should be a valid string"
  | .notInteger => "Input should be a valid integer"
  | .unreadableInteger =>
    "Input should be a valid integer, unable to parse string as an integer"
  | .fractional => "Input should be a valid integer, got a number with a fractional part"
  | .infinite => "Input should be a finite number"
  | .below least => s!"Input should be greater than or equal to {least}"
  | .notTruth => "Input should be a valid boolean"
  | .unreadableTruth => "Input should be a valid boolean, unable to interpret input"
  | .notOneOf words => "Input should be " ++ alternatives words
  | .unknownSetting => "Extra inputs are not permitted"

end Fault

/-- A setting and what is wrong with its value. -/
structure Breach where
  setting : String
  fault : Fault
  deriving DecidableEq, Inhabited

end RoleGrants.Settings

import FindQuery.Issue
import FindQuery.Report

namespace FindQuery

/-- Why a token is refused. -/
inductive Reason where
  | emptyToken
  | maxDepth
  | emptyValue
  | invalidOperand
  | emptyOr
  | noOperators
  | invalidExists
  | invalidType
  deriving DecidableEq

def Reason.label : Reason → Text
  | .emptyToken => "empty_token".toList
  | .maxDepth => "max_depth".toList
  | .emptyValue => "empty_value".toList
  | .invalidOperand => "invalid_operand".toList
  | .emptyOr => "empty_or".toList
  | .noOperators => "no_operators".toList
  | .invalidExists => "invalid_exists".toList
  | .invalidType => "invalid_type".toList

inductive BoundedOption where
  | defaultLimit
  | defaultSkip
  | maxDepth
  deriving DecidableEq

def BoundedOption.label : BoundedOption → Text
  | .defaultLimit => "default_limit".toList
  | .defaultSkip => "default_skip".toList
  | .maxDepth => "max_depth".toList

/-- The condition on an option, as messages word it. -/
def BoundedOption.expected : BoundedOption → Text
  | .defaultLimit | .maxDepth => ">0".toList
  | .defaultSkip => ">=0".toList

/-- Why there is no answer. -/
inductive Fault where
  /-- A token that strict compilation refuses. -/
  | rejected (token : Text) (reason : Reason)
  /-- A value in place of a token that is not a string. -/
  | notToken (kind : Value.Kind)
  /-- A value in place of the query to compile that is not a map. -/
  | notQuery (kind : Value.Kind)
  | outOfRange (option : BoundedOption) (value : Int)
  | tooManyDigits (count : Nat)
  /-- A value in which nothing can be looked up by name. -/
  | noLookup (kind : Value.Kind)
  /-- A value that has no items. -/
  | notIterable (kind : Value.Kind)
  | noClosingBrace
  /-- A list that should be split at an empty text. -/
  | emptySeparator
  /-- A handler without the parameter that is to receive the query. -/
  | noParameter (handler name : Text)
  | missingArgument (name : Text)
  | tooManyArguments
  | repeatedArgument (name : Text)
  | unknownArgument (name : Text)
  | invalid (issues : List Issue)

namespace Fault

/-- The report of a fault that is given as a report. -/
def report? : Fault → Option Report
  | .rejected token reason =>
    some ⟨.filter, "Invalid filter value".toList,
      [("token".toList, .str token), ("reason".toList, .str reason.label)]⟩
  | .notToken kind =>
    some ⟨.token, "Filter token must be a string".toList,
      [("received".toList, .str kind.label)]⟩
  | .notQuery kind =>
    some ⟨.token, "Raw query must be a mapping".toList,
      [("received".toList, .str kind.label)]⟩
  | .outOfRange option value =>
    some ⟨.option, "Invalid config value".toList,
      [("config_key".toList, .str option.label), ("value".toList, .int value),
        ("expected".toList, .str option.expected)]⟩
  | _ => none

def message (fault : Fault) : Text :=
  match fault with
  | .tooManyDigits count =>
    "Exceeds the limit (4300 digits) for integer string conversion: value has ".toList ++
      Text.ofNat count ++
      " digits; use sys.set_int_max_str_digits() to increase the limit".toList
  | .noLookup kind =>
    '\x27' :: kind.label ++ "' object has no attribute 'get'".toList
  | .notIterable kind => '\x27' :: kind.label ++ "' object is not iterable".toList
  | .noClosingBrace => "substring not found".toList
  | .emptySeparator => "empty separator".toList
  | .noParameter handler name => handler ++ "() has no parameter named ".toList ++ name.quoted
  | .missingArgument name => "missing a required argument: ".toList ++ name.quoted
  | .tooManyArguments => "too many positional arguments".toList
  | .repeatedArgument name => "multiple values for argument ".toList ++ name.quoted
  | .unknownArgument name => "got an unexpected keyword argument ".toList ++ name.quoted
  | .invalid issues => [';', ' '].intercalate (issues.map (·.kind.message))
  | .rejected .. | .notToken _ | .notQuery _ | .outOfRange .. =>
    match fault.report? with
    | some report => report.text
    | none => []

end Fault

end FindQuery

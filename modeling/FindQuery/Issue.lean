import FindQuery.Text.Basic

namespace FindQuery

inductive IssueKind where
  | notPositive
  | notNonNegative
  | notInteger
  | notMap
  | notList
  | notText
  | notReference
  | missing
  | below (least : Nat)
  /-- An issue that only the library of models knows, as it words it. -/
  | other (label message : Text)
  deriving DecidableEq

namespace IssueKind

def label : IssueKind → Text
  | .notPositive => "greater_than".toList
  | .notNonNegative => "greater_than_equal".toList
  | .notInteger => "int_type".toList
  | .notMap => "dict_type".toList
  | .notList => "list_type".toList
  | .notText => "string_type".toList
  | .notReference => "model_type".toList
  | .missing => "missing".toList
  | .below _ => "value_error".toList
  | .other label _ => label

def message : IssueKind → Text
  | .notPositive => "Input should be greater than 0".toList
  | .notNonNegative => "Input should be greater than or equal to 0".toList
  | .notInteger => "Input should be a valid integer".toList
  | .notMap => "Input should be a valid dictionary".toList
  | .notList => "Input should be a valid list".toList
  | .notText => "Input should be a valid string".toList
  | .notReference => "Input should be a valid dictionary or instance of PopulateSpec".toList
  | .missing => "Field required".toList
  | .below least => "Value error, must be >= ".toList ++ Nat.toDigits 10 least
  | .other _ message => message

end IssueKind

/-- An issue and its place, from the field inwards. -/
structure Issue where
  kind : IssueKind
  place : List Text
  deriving DecidableEq

/-- The outcome of a check: a value, or all issues in order. -/
abbrev Checked (α : Type) := Except (List Issue) α

namespace Checked

variable {α β : Type}

def of (a : α) : Checked α := .ok a

def issue (kind : IssueKind) : Checked α := .error [⟨kind, []⟩]

/-- Puts the issues of a check inside a named field. -/
def within (field : Text) : Checked α → Checked α
  | .ok a => .ok a
  | .error issues => .error (issues.map fun i => { i with place := field :: i.place })

def issues : Checked α → List Issue
  | .ok _ => []
  | .error found => found

/-- Applies a checked function, keeping the issues of both sides. -/
def apply (f : Checked (α → β)) (a : Checked α) : Checked β :=
  match f, a with
  | .ok f, .ok a => .ok (f a)
  | f, a => .error (f.issues ++ a.issues)

def all (check : α → Checked β) : List α → Checked (List β)
  | [] => .ok []
  | x :: xs => of List.cons |>.apply (check x) |>.apply (all check xs)

end Checked

end FindQuery

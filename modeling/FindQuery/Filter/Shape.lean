import FindQuery.Filter.Alternatives
import FindQuery.Filter.Groups
import FindQuery.Filter.Pattern
import FindQuery.Filter.Tag
import FindQuery.Json
import FindQuery.Time.Instant

namespace FindQuery

/-- A token, read by a rule. -/
inductive Shape where
  | container (v : Value)
  /-- A query on the elements of an array, in form encoding. -/
  | elemMatch (body : Text)
  | logical (tag operand : Text)
  | alternatives (segments : List Text)
  | conjunction (parts : List Text)
  | comparison (tag operand : Text)
  | existence (answer : Text)
  | fieldType (name : Text)
  | date (x : Instant)
  | number (n : Numeral)
  | boolean (b : Bool)
  | plain (t : Text)
  | pattern (t : Text)

/-- The rules, each named for the shape it reads. -/
inductive Rule where
  | json | elemMatch | logical | or | and | comparison | element | date | number | boolean | text
  deriving DecidableEq

namespace Rule

/-- All rules in the order in which they are tried. -/
def table : List Rule :=
  [.json, .elemMatch, .logical, .or, .and, .comparison, .element, .date, .number, .boolean, .text]

def label : Rule → Text
  | .json => "json".toList
  | .elemMatch => "elem_match".toList
  | .logical => "logical".toList
  | .or => "or".toList
  | .and => "and".toList
  | .comparison => "comparison".toList
  | .element => "element".toList
  | .date => "date".toList
  | .number => "number".toList
  | .boolean => "boolean".toList
  | .text => "text".toList

def ofLabel? (name : Text) : Option Rule := table.find? (·.label = name)

/-- Reads the answer or the type name after an element tag. -/
def elementShape (tagged : Text × Text) : Shape :=
  if tagged.1 = Tag.existence then .existence tagged.2 else .fieldType tagged.2

def readBoolean? (t : Text) : Option Bool :=
  if t = "true".toList then some true else if t = "false".toList then some false else none

def read? (rule : Rule) (t : Text) : Option Shape :=
  match rule with
  | .json => (Json.readContainer? t).map .container
  | .elemMatch => (Tag.read? [Tag.elemMatch] t).map fun tagged => .elemMatch tagged.2
  | .logical => (Tag.read? Tag.logical t).map fun tagged => .logical tagged.1 tagged.2
  | .or => (Alternatives.read? t).map .alternatives
  | .and => (Groups.read? t).map .conjunction
  | .comparison => (Tag.read? Tag.comparison t).map fun tagged => .comparison tagged.1 tagged.2
  | .element => (Tag.read? Tag.element t).map elementShape
  | .date => (Instant.ofText? t).map .date
  | .number => (Numeral.ofText? t).map .number
  | .boolean => (readBoolean? t).map .boolean
  | .text => some (if Pattern.isMarked t then .pattern (Pattern.unmarked t) else .plain t)

def accepts (rule : Rule) (t : Text) : Bool := (rule.read? t).isSome

theorem accepts_of_read? {rule : Rule} {t : Text} {shape : Shape}
    (h : rule.read? t = some shape) : rule.accepts t = true := by
  rw [accepts, h]
  rfl

/-- The rules of the table that read a token, in order. -/
def matching (t : Text) : List Rule := table.filter (·.accepts t)

end Rule

def Shape.ofToken? (rules : List Rule) (t : Text) : Option Shape :=
  rules.findSome? fun rule => rule.read? t

end FindQuery

import FindQuery.Journal
import FindQuery.Value.Display

namespace FindQuery

inductive Level where
  | debug | info | warning | error | critical
  deriving DecidableEq

namespace Level

def all : List Level := [.debug, .info, .warning, .error, .critical]

/-- The weight of a level; heavier messages are more urgent. -/
def weight : Level → Nat
  | .debug => 10
  | .info => 20
  | .warning => 30
  | .error => 40
  | .critical => 50

def label : Level → Text
  | .debug => "DEBUG".toList
  | .info => "INFO".toList
  | .warning => "WARNING".toList
  | .error => "ERROR".toList
  | .critical => "CRITICAL".toList

/-- A letter in upper case; the dotless i belongs to the plain capital. -/
def upper (c : Char) : Char := if c = '\u0131' then 'I' else c.toUpper

/-- The level with a name in any letter case; unknown names stand for `info`. -/
def ofName (t : Text) : Level := (all.find? (·.label = t.map upper)).getD .info

/-- The weight that a logger gets by the name of a level. `NOTSET` has none, and `WARN` and `FATAL`
are other names of `WARNING` and `CRITICAL`. -/
def weightOfName (t : Text) : Nat :=
  if t = "NOTSET".toList then 0
  else if t = "WARN".toList then Level.warning.weight
  else if t = "FATAL".toList then Level.critical.weight
  else (ofName t).weight

end Level

/-- The level of a record; compilations write notes for debugging only. -/
def Record.level : Record → Level
  | .rejected .. | .dropped _ | .compiled .. => .debug

/-- Whether a root of the given weight shows a record. -/
def Record.isShown (r : Record) (rootWeight : Nat) : Bool := rootWeight ≤ r.level.weight

/-- Loggers, named by dotted paths. The root is configured once, by a call or for the first
logger. -/
structure Logging where
  rootWeight : Nat := Level.warning.weight
  configured : Bool := false
  /-- The level that is used if a logger is made before the root is configured. -/
  defaultLevel : Text := "INFO".toList
  weights : Fields Nat := []

namespace Logging

/-- Configures the root; later calls have no effect. -/
def setUp (s : Logging) (level : Text) : Logging :=
  if s.configured then s
  else { s with rootWeight := (Level.ofName level).weight, configured := true }

def prepared (s : Logging) : Logging := s.setUp s.defaultLevel

/-- The name of a logger; without a name it is that of this part of the program. -/
def resolve (name : Option Text) : Text :=
  match name with
  | some (c :: r) => c :: r
  | _ => "mongoquery.logger".toList

def rootName : Text := "root".toList

def isRoot (name : Text) : Bool := name = [] || name = rootName

/-- The proper ancestors of the logger with a reversed name, the nearest first. -/
def ancestors : Text → List Text
  | [] => []
  | c :: r => if c = '.' ∧ r ≠ [] then r.reverse :: ancestors r else ancestors r

/-- Sets the own level of a logger; weight zero takes it away. -/
def setWeight (s : Logging) (name : Text) (weight : Nat) : Logging :=
  if isRoot name then { s with rootWeight := weight }
  else { s with weights := s.weights.insert name weight }

/-- The weight from which on a logger gives messages out. -/
def effectiveWeight (s : Logging) (name : Text) : Nat :=
  if isRoot name then s.rootWeight
  else
    (((name :: ancestors name.reverse).filterMap (s.weights.find? ·)).find? (· ≠ 0)).getD
      s.rootWeight

/-- Whether a logger gives messages of a level out. -/
def isEnabled (s : Logging) (name : Text) (level : Level) : Bool :=
  s.effectiveWeight name ≤ level.weight

/-- Puts arguments in the places of a text. The text and the arguments must match. -/
def substitute? : Text → List Value → Option Text
  | [], [] => some []
  | [], _ :: _ => none
  | '%' :: 's' :: r, v :: vs => (substitute? r vs).map (v.plainText ++ ·)
  | '%' :: '%' :: r, vs => (substitute? r vs).map ('%' :: ·)
  | c :: r, vs => if c = '%' then none else (substitute? r vs).map (c :: ·)

/-- The text of a message. Without arguments nothing is substituted, and a single map with entries
need not have a place in the text. -/
def messageText? (message : Text) (args : List Value) : Option Text :=
  match args with
  | [] => some message
  | [.map (_ :: _)] => (substitute? message args).or (substitute? message [])
  | _ => substitute? message args

/-- The line that a logger writes for a message, or nothing. -/
def line (s : Logging) (name : Text) (level : Level) (message : Text) (args : List Value) : Text :=
  if s.isEnabled name level then
    match messageText? message args with
    | some t => level.label ++ ' ' :: '[' :: name ++ ']' :: ' ' :: t ++ ['\n']
    | none => []
  else []

end Logging

end FindQuery

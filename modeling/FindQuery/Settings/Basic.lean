import FindQuery.Defaults
import FindQuery.Fault

namespace FindQuery

/-- What is used where a caller gives no option. -/
structure Settings where
  logLevel : Text := "INFO".toList
  defaultLimit : Int := Default.limit
  defaultSkip : Int := Default.skip
  maxDepth : Int := 16
  strict : Bool := false
  lenientKeys : Bool := false
  enablePopulate : Bool := false
  deriving DecidableEq

inductive SettingName where
  | logLevel | defaultLimit | defaultSkip | maxDepth | strict | lenientKeys | enablePopulate
  deriving DecidableEq

namespace SettingName

def all : List SettingName :=
  [.logLevel, .defaultLimit, .defaultSkip, .maxDepth, .strict, .lenientKeys, .enablePopulate]

def label : SettingName → Text
  | .logLevel => "LOG_LEVEL".toList
  | .defaultLimit => "MONGOQUERY_DEFAULT_LIMIT".toList
  | .defaultSkip => "MONGOQUERY_DEFAULT_SKIP".toList
  | .maxDepth => "MONGOQUERY_MAX_DEPTH".toList
  | .strict => "MONGOQUERY_STRICT".toList
  | .lenientKeys => "MONGOQUERY_LENIENT_KEYS".toList
  | .enablePopulate => "MONGOQUERY_ENABLE_POPULATE".toList

def ofLabel? (t : Text) : Option SettingName := all.find? (·.label = t)

/-- The least value of a setting that is bounded. -/
def least? : SettingName → Option Nat
  | .defaultLimit | .maxDepth => some 1
  | .defaultSkip => some 0
  | .logLevel | .strict | .lenientKeys | .enablePopulate => none

/-- Checks an integer for a setting. -/
def check (name : SettingName) (n : Int) : Checked Int :=
  match name.least? with
  | some least => if least ≤ n then .ok n else .issue (.below least)
  | none => .ok n

end SettingName

namespace Settings

def get (s : Settings) : SettingName → Value
  | .logLevel => .str s.logLevel
  | .defaultLimit => .int s.defaultLimit
  | .defaultSkip => .int s.defaultSkip
  | .maxDepth => .int s.maxDepth
  | .strict => .bool s.strict
  | .lenientKeys => .bool s.lenientKeys
  | .enablePopulate => .bool s.enablePopulate

/-- Changes a setting; a value of another kind than the setting has changes nothing. No range is
checked. -/
def set (s : Settings) (name : SettingName) (v : Value) : Settings :=
  match name, v with
  | .logLevel, .str t => { s with logLevel := t }
  | .defaultLimit, .int n => { s with defaultLimit := n }
  | .defaultSkip, .int n => { s with defaultSkip := n }
  | .maxDepth, .int n => { s with maxDepth := n }
  | .strict, .bool b => { s with strict := b }
  | .lenientKeys, .bool b => { s with lenientKeys := b }
  | .enablePopulate, .bool b => { s with enablePopulate := b }
  | _, _ => s

def toMap (s : Settings) : Fields Value := SettingName.all.map fun name => (name.label, s.get name)

end Settings

end FindQuery

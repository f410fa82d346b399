import FindQuery.Fields
import FindQuery.Value.Display

namespace FindQuery

inductive ReportKind where
  | general
  | filter
  /-- A value of the wrong kind in place of a token or a query. -/
  | token
  | configuration
  | option
  deriving DecidableEq

namespace ReportKind

def label : ReportKind → Text
  | .general => "MongoQueryError".toList
  | .filter => "FilterParseError".toList
  | .token => "InvalidTokenError".toList
  | .configuration => "ConfigurationError".toList
  | .option => "InvalidConfigError".toList

/-- The kinds that a kind belongs to, itself among them, from the general one on. -/
def ancestors : ReportKind → List ReportKind
  | .general => [.general]
  | .filter => [.general, .filter]
  | .token => [.general, .token]
  | .configuration => [.general, .configuration]
  | .option => [.general, .configuration, .option]

/-- Whether reports of a kind also count as errors about the type of a value. -/
def isTypeError (kind : ReportKind) : Bool := kind = .token

end ReportKind

structure Report where
  kind : ReportKind
  message : Text
  details : Fields Value

namespace Report

def detailText (detail : Text × Value) : Text := detail.1 ++ '=' :: detail.2.display

def text (r : Report) : Text :=
  let details := [',', ' '].intercalate (r.details.map detailText)
  if r.details.isEmpty then r.message
  else if r.message.isEmpty then details
  else r.message ++ ' ' :: '(' :: details ++ [')']

def display (r : Report) : Text :=
  r.kind.label ++ "(message=".toList ++ r.message.quoted ++ ", details=".toList ++
    (Value.map r.details).display ++ [')']

end Report

end FindQuery

import FindQuery.Fields
import FindQuery.Form.Pairs
import FindQuery.Value.Basic

namespace FindQuery.QueryString

/-- The pairs of a query string with or without a question mark in front. -/
def pairs : Text → List (Text × Text)
  | '?' :: r => Form.decodePairs r
  | t => Form.decodePairs t

/-- A name without one pair of brackets at its end, and whether it had one. -/
def baseName (k : Text) : Text × Bool :=
  match Text.after? [']', '['] k.reverse with
  | some r => (r.reverse, true)
  | none => (k, false)

/-- The value of a name after one more occurrence of it. -/
def withValue (old : Option Value) (bracketed : Bool) (v : Text) : Value :=
  match old with
  | none => if bracketed then .list [.str v] else .str v
  | some (.list vs) => .list (vs ++ [.str v])
  | some w => .list [w, .str v]

def addPair (fs : Fields Value) (pair : Text × Text) : Fields Value :=
  let name := baseName pair.1
  fs.insert name.1 (withValue (fs.find? name.1) name.2 pair.2)

def group (ps : List (Text × Text)) : Fields Value := ps.foldl addPair []

/-- A name that occurs several times, or that ends in a pair of brackets, has the list of its
values. -/
def readGrouped (t : Text) : Fields Value := group (pairs t)

def readFlat (t : Text) : Fields Value :=
  (Fields.ofList (pairs t)).map fun e => (e.1, .str e.2)

end FindQuery.QueryString

import FindQuery.Fault
import FindQuery.Filter.Key
import FindQuery.Text.Blank

namespace FindQuery.Names

/-- The texts of a value that may hold several: the strings of a list, the names of a map. -/
def chunks (v : Value) : Except Fault (List Text) :=
  if v.isTruthy then
    match v with
    | .str t => .ok [t]
    | .list items => .ok (items.filterMap Value.text?)
    | .map entries => .ok (entries.map Prod.fst)
    | v => .error (.notIterable v.kind)
  else .ok []

/-- The trimmed entries of texts, without the empty ones. -/
def entriesOf (sep : Text) (texts : List Text) : List Text :=
  ((texts.flatMap (Text.piecesBy sep)).map Text.trim).filter (· ≠ [])

/-- The entries of a value, separated by a text. -/
def entries (sep : Text) (v : Value) : Except Fault (List Text) := do
  let texts ← chunks v
  if sep = [] ∧ texts ≠ [] then .error .emptySeparator else return entriesOf sep texts

def isMarked (entry : Text) : Bool := entry.head? = some '-'

def nameOf (lenientKeys : Bool) (entry : Text) : Text :=
  Key.clean lenientKeys (entry.dropWhile (· = '-'))

/-- The map of a list of entries; entries without a name are passed over. -/
def mapOf (lenientKeys : Bool) (plain marked : Int) (list : List Text) : Fields Int :=
  Fields.ofList ((list.filter (nameOf lenientKeys · ≠ [])).map fun entry =>
    (nameOf lenientKeys entry, if isMarked entry then marked else plain))

/-- The map that a value stands for. -/
def read (lenientKeys : Bool) (plain marked : Int) (v : Value) : Except Fault (Fields Int) :=
  return mapOf lenientKeys plain marked (← entries [','] v)

/-- Writes a map as a list of names, with a dash before those that have the marked number. -/
def write (marked : Int) (fs : Fields Int) : Text :=
  Text.joined ',' (fs.map fun e => if e.2 = marked then '-' :: e.1 else e.1)

end FindQuery.Names

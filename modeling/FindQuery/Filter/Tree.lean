import FindQuery.Filter.Key
import FindQuery.Journal

namespace FindQuery.Filter

def mergeNodes (nodes : List (Fields Value)) : Fields Value := nodes.foldl Fields.merge []

theorem mergeNodes_eq_ofList (nodes : List (Fields Value)) :
    mergeNodes nodes = Fields.ofList nodes.flatten :=
  List.foldl_flatten.symm

/-- The node for the compiled values of one field: nothing, one map, or the list of values. -/
def nodeOfValues (nodes : List Value) : Option Value :=
  if nodes.isEmpty then none
  else if nodes.all (·.entries?.isSome) then
    some (.map (mergeNodes (nodes.filterMap Value.entries?)))
  else some (.list nodes)

variable (inner : Text → Journal (Option Value))

def compileToken : Value → Journal (Option Value)
  | .str t => inner t
  | v => Journal.fault (.notToken v.kind)

/-- Compiles one of several values of a field; a missing value gives nothing. -/
def compileItem : Value → Journal (Option Value)
  | .null => pure none
  | v => compileToken inner v

/-- Compiles the value of a field. A map is taken as it is. -/
def compileValue : Value → Journal (Option Value)
  | .map entries => pure (some (.map entries))
  | .list items => return nodeOfValues (← Journal.collect (compileItem inner) items)
  | v => compileToken inner v

/-- Compiles a field to its path and node. Parts of the query are not fields, and a missing value
gives nothing; a value that compiles to nothing is noted. -/
def compileField (lenientKeys : Bool) (field : Text × Value) : Journal (Option (Text × Value)) :=
  let path := Key.clean lenientKeys field.1
  if path ∈ Key.reserved ∨ field.2 = .null then pure none
  else do
    match ← compileValue inner field.2 with
    | some node => return some (path, node)
    | none =>
      Journal.write (.dropped field.1)
      return none

/-- Compiles all fields. Of fields with one path the last one that gives a node counts. -/
def compileFields (lenientKeys : Bool) (fields : Fields Value) : Journal (Fields Value) :=
  return Fields.ofList (← Journal.collect (compileField inner lenientKeys) fields)

end FindQuery.Filter

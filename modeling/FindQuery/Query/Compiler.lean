import FindQuery.Filter.Node
import FindQuery.Query.Descriptor
import FindQuery.Query.Names
import FindQuery.Query.Pagination

namespace FindQuery

/-- What a caller says about a query compiler; what is left out is taken from the settings. -/
structure QueryChoice where
  defaultLimit : Option Int := none
  defaultSkip : Option Int := none
  populate : Option Bool := none
  filter : FilterChoice := {}

structure QueryCompiler where
  /-- The limit of a query that gives no usable one. -/
  defaultLimit : Int
  /-- What a query skips that does not say. -/
  defaultSkip : Int
  one_le_defaultLimit : 1 ≤ defaultLimit
  zero_le_defaultSkip : 0 ≤ defaultSkip
  /-- Whether references are compiled. -/
  populate : Bool
  filterOptions : FilterOptions

namespace QueryCompiler

def make (settings : Settings) (choice : QueryChoice) : Except Fault QueryCompiler :=
  let limit := choice.defaultLimit.getD settings.defaultLimit
  let skip := choice.defaultSkip.getD settings.defaultSkip
  if hl : 1 ≤ limit then
    if hs : 0 ≤ skip then do
      let filterOptions ← FilterOptions.settle settings choice.filter
      return ⟨limit, skip, hl, hs, choice.populate.getD settings.enablePopulate, filterOptions⟩
    else .error (.outOfRange .defaultSkip skip)
  else .error (.outOfRange .defaultLimit limit)

variable (c : QueryCompiler)

def pagination (fields : Fields Value) : Except Fault (Int × Int) :=
  Pagination.read fields c.defaultLimit c.defaultSkip

/-- The projection of a raw query: 0 for the names with a dash, 1 for the others. -/
def select (fields : Fields Value) : Except Fault (Fields Int) :=
  Names.read c.filterOptions.lenientKeys 1 0 ((fields.find? Key.select).getD .null)

/-- The order of a raw query: -1 for the names with a dash, 1 for the others. -/
def sort (fields : Fields Value) : Except Fault (Fields Int) :=
  Names.read c.filterOptions.lenientKeys 1 (-1) ((fields.find? Key.sort).getD .null)

def filter (fields : Fields Value) : Journal (Fields Value) :=
  Filter.compile c.filterOptions fields 0

/-- The projection of a reference; an empty one and the word `all` ask for everything. -/
def referenceSelect (t : Text) : Except Fault (Option (Fields Int)) :=
  if t = [] ∨ t = "all".toList then .ok none
  else some <$> c.select [(Key.select, .str t)]

/-- The filter of a reference, in form encoding. -/
def referenceFilter (t : Text) : Journal (Option (Fields Value)) :=
  if t = [] then pure none else some <$> c.filter (QueryString.readGrouped t)

/-- A reference from its text, `path;projection;filter`. Each part has the declared type of its
field, and none of these has a bound, so nothing is left to check. -/
def readReference (t : Text) : Journal Reference := do
  let parts := t.pieces ';'
  let path := Key.clean c.filterOptions.lenientKeys (parts[0]?.getD [])
  let select ← c.referenceSelect (parts[1]?.getD [])
  let filter ← c.referenceFilter (parts[2]?.getD [])
  return ⟨path, select, filter⟩

/-- The references from several texts; empty ones are passed over. -/
def readReferences (texts : List Text) : Journal (List Reference) :=
  (texts.filter (· ≠ [])).mapM c.readReference

/-- The references of a raw query, whether or not the compiler was made to compile them. -/
def references (fields : Fields Value) : Journal (Option References) :=
  let raw := (fields.find? Key.populate).getD .null
  if raw.isTruthy then
    match raw with
    | .str t => return some (.one (← c.readReference t))
    | .list items => return some (.many (← c.readReferences (items.filterMap Value.text?)))
    | .map entries => return some (.many (← c.readReferences (entries.map Prod.fst)))
    | v => Journal.fault (.notIterable v.kind)
  else pure none

def compileFields (fields : Fields Value) : Journal Descriptor := do
  let (limit, skip) ← c.pagination fields
  let select ← c.select fields
  let sort ← c.sort fields
  let filter ← c.filter fields
  let populate ← if c.populate then c.references fields else pure none
  match Descriptor.checked { limit, skip, select, sort, filter, populate } with
  | .ok d =>
    Journal.write (.compiled d.limit d.skip d.filter.keys)
    return d
  | .error issues => Journal.fault (.invalid issues)

/-- The fields of a value in which parts of a query are looked up by name. -/
def lookupFields : Value → Except Fault (Fields Value)
  | .map fields => .ok fields
  | v => .error (.noLookup v.kind)

/-- Compiles a query: a map, a query string, or nothing. -/
def compile (query : Value) : Journal Descriptor :=
  match query with
  | .null => c.compileFields []
  | .str t => c.compileFields (QueryString.readGrouped t)
  | v => do c.compileFields (← lookupFields v)

end QueryCompiler

end FindQuery

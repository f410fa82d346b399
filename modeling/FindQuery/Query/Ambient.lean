import FindQuery.Query.Compiler

namespace FindQuery

/-- A compiler for the fields of raw queries, with the options for the tokens in them. -/
structure FieldCompiler where
  lenientKeys : Bool
  tokens : FilterOptions

namespace Ambient

variable (now : Settings)

/-- Whether field paths are lenient. It is asked again for each path and each compiler that is made
on the way, so without an own option the settings of that moment decide. -/
def lenience (given : Option Bool) : Bool := given.getD now.lenientKeys

def cleanPath (given : Option Bool) (t : Text) : Text := Key.clean (lenience now given) t

/-- Makes a compiler for fields. Tokens are compiled with given options, or with options settled
now. -/
def fieldCompiler (choice : FilterChoice) (tokens : Option FilterOptions) :
    Except Fault FieldCompiler :=
  let lenientKeys := lenience now choice.lenientKeys
  match tokens with
  | some o => .ok ⟨lenientKeys, o⟩
  | none => do
    let o ← FilterOptions.settle now { choice with lenientKeys := some lenientKeys }
    return ⟨lenientKeys, o⟩

section

variable (o : FilterOptions)

/-- Compiles a token by its shape. The compiler for a query on elements is made when it is needed,
with the options of the token. -/
def compileShape (inner : Text → Journal (Option Value)) (token : Text) :
    Shape → Journal (Option Value)
  | .elemMatch body =>
    if body = [] then Filter.reject o token .emptyValue
    else do
      let c ← fieldCompiler now ⟨some o.strict, some o.maxDepth, some o.lenientKeys⟩ (some o)
      let tree ← Filter.compileFields inner (lenience now (some c.lenientKeys))
        (Filter.subquery body)
      return some (Filter.operatorNode Tag.elemMatch (.map tree))
  | shape => Filter.compileShape o inner token shape

def nodeAt : Nat → Text → Journal (Option Value)
  | _, [] => Filter.reject o [] .emptyToken
  | 0, token => Filter.reject o token .maxDepth
  | levels + 1, token =>
    match Shape.ofToken? o.rules token with
    | some shape => compileShape now o (nodeAt levels) token shape
    | none => pure none

def tokenNode (token : Text) (depth : Int) : Journal (Option Value) :=
  nodeAt now o (o.levelsAt depth) token

def valueNode (v : Value) (depth : Int) : Journal (Option Value) :=
  Filter.compileToken (tokenNode now o · depth) v

end

def compile (c : FieldCompiler) (fields : Fields Value) (depth : Int) : Journal (Fields Value) :=
  Filter.compileFields (tokenNode now c.tokens · depth) (lenience now (some c.lenientKeys)) fields

def compileQuery (c : FieldCompiler) (v : Value) (depth : Int) : Journal (Fields Value) :=
  match v with
  | .map fields => compile now c fields depth
  | v => Journal.fault (.notQuery v.kind)

section

variable (c : QueryCompiler)

def names (plain marked : Int) (v : Value) : Except Fault (Fields Int) :=
  Names.read (lenience now (some c.filterOptions.lenientKeys)) plain marked v

def select (fields : Fields Value) : Except Fault (Fields Int) :=
  names now c 1 0 ((fields.find? Key.select).getD .null)

def sort (fields : Fields Value) : Except Fault (Fields Int) :=
  names now c 1 (-1) ((fields.find? Key.sort).getD .null)

def filterQuery (v : Value) : Journal (Fields Value) :=
  compileQuery now ⟨c.filterOptions.lenientKeys, c.filterOptions⟩ v 0

def referenceSelect (t : Text) : Except Fault (Option (Fields Int)) :=
  if t = [] ∨ t = "all".toList then .ok none
  else some <$> select now c [(Key.select, .str t)]

def referenceFilter (t : Text) : Journal (Option (Fields Value)) :=
  if t = [] then pure none else some <$> filterQuery now c (.map (QueryString.readGrouped t))

def readReference (t : Text) : Journal Reference := do
  let parts := t.pieces ';'
  let path := cleanPath now (some c.filterOptions.lenientKeys) (parts[0]?.getD [])
  let select ← referenceSelect now c (parts[1]?.getD [])
  let filter ← referenceFilter now c (parts[2]?.getD [])
  return ⟨path, select, filter⟩

def readReferences (texts : List Text) : Journal (List Reference) :=
  (texts.filter (· ≠ [])).mapM (readReference now c)

def references (fields : Fields Value) : Journal (Option References) :=
  let raw := (fields.find? Key.populate).getD .null
  if raw.isTruthy then
    match raw with
    | .str t => return some (.one (← readReference now c t))
    | .list items => return some (.many (← readReferences now c (items.filterMap Value.text?)))
    | .map entries => return some (.many (← readReferences now c (entries.map Prod.fst)))
    | v => Journal.fault (.notIterable v.kind)
  else pure none

def describeFields (fields : Fields Value) : Journal Descriptor := do
  let (limit, skip) ← c.pagination fields
  let select ← select now c fields
  let sort ← sort now c fields
  let filter ← filterQuery now c (.map fields)
  let populate ← if c.populate then references now c fields else pure none
  match Descriptor.checked { limit, skip, select, sort, filter, populate } with
  | .ok d =>
    Journal.write (.compiled d.limit d.skip d.filter.keys)
    return d
  | .error issues => Journal.fault (.invalid issues)

def describe (query : Value) : Journal Descriptor :=
  match query with
  | .null => describeFields now c []
  | .str t => describeFields now c (QueryString.readGrouped t)
  | v => do describeFields now c (← QueryCompiler.lookupFields v)

end

end Ambient

end FindQuery

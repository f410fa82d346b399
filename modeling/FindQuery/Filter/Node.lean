import FindQuery.Filter.Options
import FindQuery.Filter.Tree
import FindQuery.Form.QueryString

namespace FindQuery.Filter

def reject (o : FilterOptions) (token : Text) (reason : Reason) : Journal (Option Value) :=
  if o.strict then Journal.fault (.rejected token reason)
  else do
    Journal.write (.rejected token reason)
    return none

def operatorNode (tag : Text) (v : Value) : Value := .map [(Tag.operator tag, v)]

def numberValue (n : Numeral) : Except Fault Value :=
  if n.isInteger then
    match n.toInt? with
    | .ok k => .ok (.int k)
    | .error count => .error (.tooManyDigits count)
  else .ok (.float n.toBinary64)

/-- The node of a search pattern; letters match in either case. -/
def patternNode (t : Text) : Value :=
  .map [(Tag.operator Tag.regex, .str (Pattern.anchored t)),
    (Tag.operator "options".toList, .str ['i'])]

/-- The raw query inside an array query; its pairs are separated by `#` or `&`. -/
def subquery (body : Text) : Fields Value := QueryString.readFlat (body.replace '#' '&')

section

variable (o : FilterOptions) (inner : Text → Journal (Option Value)) (token : Text)

def compileOperand (tag operand : Text) : Journal (Option Value) := do
  match ← inner operand with
  | some v => return some (operatorNode tag v)
  | none => reject o token .invalidOperand

/-- Compiles a token by its shape, with `inner` for the tokens inside it. -/
def compileShape : Shape → Journal (Option Value)
  | .container v => pure (some v)
  | .elemMatch body =>
    if body = [] then reject o token .emptyValue
    else do
      let tree ← compileFields inner o.lenientKeys (subquery body)
      return some (operatorNode Tag.elemMatch (.map tree))
  | .logical tag operand => compileOperand o inner token tag operand
  | .alternatives segments => do
    let nodes ← Journal.collect inner segments
    if nodes.isEmpty then reject o token .emptyOr
    else return some (operatorNode "or".toList (.list nodes))
  | .conjunction parts => do
    let nodes ← Journal.collect inner parts
    let maps := nodes.filterMap Value.entries?
    if maps.isEmpty then reject o token .noOperators
    else return some (.map (mergeNodes maps))
  | .comparison tag operand =>
    if operand = [] then reject o token .emptyValue
    else compileOperand o inner token tag operand
  | .existence answer =>
    match Rule.readBoolean? answer with
    | some b => pure (some (operatorNode Tag.existence (.bool b)))
    | none => reject o token .invalidExists
  | .fieldType name =>
    if name ∈ Tag.fieldTypes then pure (some (operatorNode Tag.fieldType (.str name)))
    else reject o token .invalidType
  | .date x => pure (some (.str x.toText))
  | .number n => return some (← numberValue n)
  | .boolean b => pure (some (.bool b))
  | .plain t => pure (some (.str t))
  | .pattern t => pure (some (patternNode t))

end

/-- Compiles a token on which so many levels of nesting are left. -/
def nodeAt (o : FilterOptions) : Nat → Text → Journal (Option Value)
  | _, [] => reject o [] .emptyToken
  | 0, token => reject o token .maxDepth
  | levels + 1, token =>
    match Shape.ofToken? o.rules token with
    | some shape => compileShape o (nodeAt o levels) token shape
    | none => pure none

theorem nodeAt_of_shape {o : FilterOptions} {levels : Nat} {token : Text} {shape : Shape}
    (hne : token ≠ []) (h : Shape.ofToken? o.rules token = some shape) :
    nodeAt o (levels + 1) token = compileShape o (nodeAt o levels) token shape := by
  cases token with
  | nil => exact absurd rfl hne
  | cons c r => simp only [nodeAt, h]

def tokenNode (o : FilterOptions) (token : Text) (depth : Int) : Journal (Option Value) :=
  nodeAt o (o.levelsAt depth) token

theorem tokenNode_of_shape {o : FilterOptions} {token : Text} {shape : Shape} {depth : Int}
    (hdepth : depth ≤ o.maxDepth) (hne : token ≠ [])
    (h : Shape.ofToken? o.rules token = some shape) :
    tokenNode o token depth = compileShape o (tokenNode o · (depth + 1)) token shape := by
  rw [tokenNode, FilterOptions.levelsAt_eq_succ hdepth]
  exact nodeAt_of_shape hne h

def valueNode (o : FilterOptions) (v : Value) (depth : Int) : Journal (Option Value) :=
  compileToken (tokenNode o · depth) v

/-- Compiles the fields of a raw query that stands at a depth. -/
def compile (o : FilterOptions) (fields : Fields Value) (depth : Int) : Journal (Fields Value) :=
  compileFields (tokenNode o · depth) o.lenientKeys fields

def compileQuery (o : FilterOptions) (v : Value) (depth : Int) : Journal (Fields Value) :=
  match v with
  | .map fields => compile o fields depth
  | v => Journal.fault (.notQuery v.kind)

end FindQuery.Filter

import FindQuery.Fields
import FindQuery.Issue
import FindQuery.Value.Basic

namespace FindQuery

def Value.ofIntegers (fs : Fields Int) : Value := .map (fs.map fun e => (e.1, .int e.2))

/-- The declared types whose values are plain. Each has the type that holds its values as an
index. -/
inductive PlainType : Type → Type where
  | text : PlainType Text
  /-- Integers above zero. -/
  | positive : PlainType Int
  /-- Integers from zero on. -/
  | nonNegative : PlainType Int
  /-- Maps of integers. -/
  | integers : PlainType (Fields Int)
  /-- Maps of values of every kind. -/
  | values : PlainType (Fields Value)

namespace PlainType

def toValue : {α : Type} → PlainType α → α → Value
  | _, .text, t => .str t
  | _, .positive, n | _, .nonNegative, n => .int n
  | _, .integers, fs => .ofIntegers fs
  | _, .values, fs => .map fs

/-- Whether a value keeps to the bound of its type. -/
def Admits : {α : Type} → PlainType α → α → Prop
  | _, .positive, n => 0 < n
  | _, .nonNegative, n => 0 ≤ n
  | _, .text, _ | _, .integers, _ | _, .values, _ => True

end PlainType

mutual

/-- The declared type of a field. -/
inductive FieldType : Type → Type 1 where
  | plain {α : Type} (type : PlainType α) : FieldType α
  | optional {α : Type} (type : FieldType α) : FieldType (Option α)
  | list {α : Type} (type : FieldType α) : FieldType (List α)
  | either {α β : Type} (first : FieldType α) (second : FieldType β) : FieldType (α ⊕ β)
  /-- A model, with its way from the values of its fields and back. -/
  | model {α β : Type} (fields : FieldList β) (build : β → α) (attributes : α → β) : FieldType α

/-- The declared fields of a model, in order. A field without a default is required. -/
inductive FieldList : Type → Type 1 where
  | nil : FieldList Unit
  | cons {α β : Type} (name : Text) (type : FieldType α) (default : Option α)
    (rest : FieldList β) : FieldList (α × β)

end

def FieldList.names : {β : Type} → FieldList β → List Text
  | _, .nil => []
  | _, .cons name _ _ rest => name :: rest.names

/-- What is used of a library of models: it writes the values of declared types, with or without
the fields of models that are null, and reads them again. -/
structure ModelLibrary where
  write (omitNull : Bool) {α : Type} : FieldType α → α → Value
  read {α : Type} : FieldType α → Value → Checked α

namespace ModelLibrary

variable (lib : ModelLibrary)

/-- A model as a map of its fields. -/
def toMap (omitNull : Bool) {α : Type} (type : FieldType α) (a : α) : Fields Value :=
  (lib.write omitNull type a).entries?.getD []

/-- A model from named arguments. -/
def ofArguments {α : Type} (type : FieldType α) (args : Fields Value) : Checked α :=
  lib.read type (.map args)

/-- The fields of a model by their names, as they are written. -/
def entries (omitNull : Bool) : {β : Type} → FieldList β → β → Fields Value
  | _, .nil, _ => []
  | _, .cons name type _ rest, (a, b) =>
    (name, lib.write omitNull type a) :: entries omitNull rest b

/-- Whether a field has this value: it is read from the argument of its name, or it is the default
if there is none. -/
def GivesField (args : Fields Value) (name : Text) {α : Type} (type : FieldType α)
    (default : Option α) (a : α) : Prop :=
  match args.find? name with
  | some v => lib.read type v = .ok a
  | none => default = some a

/-- Whether named arguments give the fields of a model these values. -/
def Gives (args : Fields Value) : {β : Type} → FieldList β → β → Prop
  | _, .nil, _ => True
  | _, .cons name type default rest, (a, b) =>
    lib.GivesField args name type default a ∧ Gives args rest b

/-- Whether a value is not of a type. -/
def Refuses {α : Type} (type : FieldType α) (v : Value) : Prop := ∀ a, lib.read type v ≠ .ok a

/-- What a library of models is documented to do with declared types. -/
structure Lawful : Prop where
  /-- Plain values are written as they are, with all nulls inside. -/
  write_plain (omitNull : Bool) {α : Type} (type : PlainType α) (a : α) :
    lib.write omitNull (.plain type) a = type.toValue a
  /-- Plain values of the declared type are read as they are, if they keep to its bound. -/
  read_plain {α : Type} (type : PlainType α) (a : α) :
    lib.read (.plain type) (type.toValue a) = .ok a ↔ type.Admits a
  write_optional (omitNull : Bool) {α : Type} (type : FieldType α) (a : Option α) :
    lib.write omitNull (.optional type) a = (a.map (lib.write omitNull type)).getD .null
  read_present {α : Type} {type : FieldType α} {v : Value} {a : α} :
    v ≠ .null → lib.read type v = .ok a → lib.read (.optional type) v = .ok (some a)
  write_list (omitNull : Bool) {α : Type} (type : FieldType α) (as : List α) :
    lib.write omitNull (.list type) as = .list (as.map (lib.write omitNull type))
  read_nil {α : Type} (type : FieldType α) : lib.read (.list type) (.list []) = .ok []
  read_cons {α : Type} {type : FieldType α} {v : Value} {items : List Value} {a : α} {as : List α} :
    lib.read type v = .ok a → lib.read (.list type) (.list items) = .ok as →
      lib.read (.list type) (.list (v :: items)) = .ok (a :: as)
  list_refuses_map {α : Type} (type : FieldType α) (args : Fields Value) :
    lib.Refuses (.list type) (.map args)
  write_first (omitNull : Bool) {α β : Type} (first : FieldType α) (second : FieldType β) (a : α) :
    lib.write omitNull (.either first second) (.inl a) = lib.write omitNull first a
  write_second (omitNull : Bool) {α β : Type} (first : FieldType α) (second : FieldType β) (b : β) :
    lib.write omitNull (.either first second) (.inr b) = lib.write omitNull second b
  /-- The only alternative that a value is of is taken. -/
  read_first {α β : Type} {first : FieldType α} {second : FieldType β} {v : Value} {a : α} :
    lib.read first v = .ok a → lib.Refuses second v →
      lib.read (.either first second) v = .ok (.inl a)
  read_second {α β : Type} {first : FieldType α} {second : FieldType β} {v : Value} {b : β} :
    lib.Refuses first v → lib.read second v = .ok b →
      lib.read (.either first second) v = .ok (.inr b)
  /-- Null fields are omitted from models and from nothing else. -/
  write_model (omitNull : Bool) {α β : Type} (fields : FieldList β) (build : β → α)
    (attributes : α → β) (a : α) :
    lib.write omitNull (.model fields build attributes) a =
      .map ((lib.entries omitNull fields (attributes a)).filter fun e => !omitNull || e.2 ≠ .null)
  read_model {α β : Type} (fields : FieldList β) (build : β → α) (attributes : α → β)
    (args : Fields Value) (a : α) :
    lib.read (.model fields build attributes) (.map args) = .ok a ↔
      ∃ b, build b = a ∧ lib.Gives args fields b
  model_refuses_list {α β : Type} (fields : FieldList β) (build : β → α) (attributes : α → β)
    (items : List Value) : lib.Refuses (.model fields build attributes) (.list items)

end ModelLibrary

end FindQuery

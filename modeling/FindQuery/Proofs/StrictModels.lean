import FindQuery.Query.Schema

namespace FindQuery

namespace Checked

variable {α β : Type}

theorem apply_eq_ok_iff {f : Checked (α → β)} {x : Checked α} {b : β} :
    f.apply x = .ok b ↔ ∃ g a, f = .ok g ∧ x = .ok a ∧ g a = b := by
  constructor
  · intro h
    cases f with
    | error => cases x <;> cases h
    | ok g =>
      cases x with
      | error => cases h
      | ok a =>
        cases h
        exact ⟨g, a, rfl, rfl, rfl⟩
  · rintro ⟨g, a, rfl, rfl, rfl⟩
    rfl

theorem within_eq_ok_iff {k : Text} {x : Checked α} {a : α} : x.within k = .ok a ↔ x = .ok a := by
  cases x with
  | ok => exact Iff.rfl
  | error => exact iff_of_false nofun nofun

end Checked

namespace ModelLibrary

mutual

def writeValue (omitNull : Bool) : {α : Type} → FieldType α → α → Value
  | _, .plain type, a => type.toValue a
  | _, .optional type, o => (o.map (writeValue omitNull type)).getD .null
  | _, .list type, as => .list (as.map (writeValue omitNull type))
  | _, .either first _, .inl a => writeValue omitNull first a
  | _, .either _ second, .inr b => writeValue omitNull second b
  | _, .model fields _ attributes, a =>
    .map ((writeFields omitNull fields (attributes a)).filter fun e => !omitNull || e.2 ≠ .null)

def writeFields (omitNull : Bool) : {β : Type} → FieldList β → β → Fields Value
  | _, .nil, _ => []
  | _, .cons name type _ rest, (a, b) =>
    (name, writeValue omitNull type a) :: writeFields omitNull rest b

end

/-- Reads a plain value of the declared type. Nothing is coerced. -/
def readPlain : {α : Type} → PlainType α → Value → Checked α
  | _, .text, .str t => .ok t
  | _, .positive, .int n => if 0 < n then .ok n else .issue .notPositive
  | _, .nonNegative, .int n => if 0 ≤ n then .ok n else .issue .notNonNegative
  | _, .integers, .map entries => Checked.all readEntry entries
  | _, .values, .map entries => .ok entries
  | _, .text, _ => .issue .notText
  | _, .positive, _ | _, .nonNegative, _ => .issue .notInteger
  | _, .integers, _ | _, .values, _ => .issue .notMap
where
  readEntry : Text × Value → Checked (Text × Int)
    | (k, .int n) => .ok (k, n)
    | (k, _) => (Checked.issue .notInteger).within k

/-- Reads a field from the argument of its name, or takes its default. -/
def readField {α : Type} (args : Fields Value) (name : Text) (default : Option α)
    (read : Value → Checked α) : Checked α :=
  match args.find? name with
  | some v => (read v).within name
  | none =>
    match default with
    | some a => .ok a
    | none => (Checked.issue .missing).within name

mutual

def readValue : {α : Type} → FieldType α → Value → Checked α
  | _, .plain type, v => readPlain type v
  | _, .optional type, v =>
    if v = .null then .ok none else (Checked.of some).apply (readValue type v)
  | _, .list type, .list items => Checked.all (readValue type) items
  | _, .list _, _ => .issue .notList
  | _, .either first second, v =>
    match readValue first v, readValue second v with
    | .ok a, _ => .ok (.inl a)
    | .error _, .ok b => .ok (.inr b)
    | .error single, .error several => .error (single ++ several)
  | _, .model fields build _, .map args => (Checked.of build).apply (readFields args fields)
  | _, .model .., _ => .issue .notReference

def readFields (args : Fields Value) : {β : Type} → FieldList β → Checked β
  | _, .nil => .ok ()
  | _, .cons name type default rest =>
    Checked.of Prod.mk
      |>.apply (readField args name default (readValue type))
      |>.apply (readFields args rest)

end

/-- A library of models that coerces nothing. -/
def strict : ModelLibrary := ⟨writeValue, readValue⟩

theorem entries_strict (omitNull : Bool) : ∀ {β : Type} (fields : FieldList β) (b : β),
    strict.entries omitNull fields b = writeFields omitNull fields b
  | _, .nil, _ => rfl
  | _, .cons name type _ rest, (a, b) => by
    rw [entries, entries_strict omitNull rest b, writeFields]
    rfl

theorem givesField_strict_iff (args : Fields Value) (name : Text) {α : Type} (type : FieldType α)
    (default : Option α) (a : α) :
    strict.GivesField args name type default a ↔
      readField args name default (readValue type) = .ok a := by
  unfold GivesField readField
  cases args.find? name with
  | some v => exact Checked.within_eq_ok_iff.symm
  | none =>
    cases default with
    | none => exact iff_of_false nofun nofun
    | some d => simp

theorem gives_strict_iff (args : Fields Value) : ∀ {β : Type} (fields : FieldList β) (b : β),
    strict.Gives args fields b ↔ readFields args fields = .ok b
  | _, .nil, () => ⟨fun _ => rfl, fun _ => trivial⟩
  | _, .cons name type default rest, (a, b) => by
    rw [Gives, givesField_strict_iff, gives_strict_iff args rest b, readFields,
      Checked.apply_eq_ok_iff]
    constructor
    · intro h
      obtain ⟨ha, hb⟩ := h
      exact ⟨_, b, Checked.apply_eq_ok_iff.2 ⟨_, a, rfl, ha, rfl⟩, hb, rfl⟩
    · rintro ⟨g, b', hg, hb, hab⟩
      obtain ⟨_, a', hpair, ha, rfl⟩ := Checked.apply_eq_ok_iff.1 hg
      cases hpair
      cases hab
      exact ⟨ha, hb⟩

theorem readPlain_toValue_iff {α : Type} (type : PlainType α) (a : α) :
    readPlain type (type.toValue a) = .ok a ↔ type.Admits a := by
  cases type with
  | text | values => exact iff_of_true rfl trivial
  | positive | nonNegative =>
    rw [PlainType.toValue, readPlain, PlainType.Admits]
    split
    · next h => exact iff_of_true rfl h
    · next h => exact iff_of_false nofun h
  | integers =>
    refine iff_of_true ?_ trivial
    rw [PlainType.toValue, Value.ofIntegers, readPlain]
    induction a with
    | nil => rfl
    | cons e fs ih =>
      rw [List.map_cons, Checked.all, ih]
      rfl

theorem strict_lawful : strict.Lawful where
  write_plain _ _ _ _ := rfl
  read_plain := readPlain_toValue_iff
  write_optional _ _ _ _ := rfl
  read_present {α type v a} hnull hread := by
    change (if v = .null then _ else _) = _
    rw [if_neg hnull]
    exact Checked.apply_eq_ok_iff.2 ⟨_, a, rfl, hread, rfl⟩
  write_list _ _ _ _ := rfl
  read_nil _ := rfl
  read_cons {α type v items a as} hread hrest :=
    Checked.apply_eq_ok_iff.2 ⟨_, as, Checked.apply_eq_ok_iff.2 ⟨_, a, rfl, hread, rfl⟩, hrest, rfl⟩
  list_refuses_map _ _ _ := nofun
  write_first _ _ _ _ _ _ := rfl
  write_second _ _ _ _ _ _ := rfl
  read_first {α β first second v a} hread hrefuse := by
    change readValue (.either first second) v = _
    have hfirst : readValue first v = .ok a := hread
    rw [readValue, hfirst]
  read_second {α β first second v b} hrefuse hread := by
    change readValue (.either first second) v = _
    have hsecond : readValue second v = .ok b := hread
    rw [readValue, hsecond]
    cases hfirst : readValue first v with
    | ok a => exact absurd hfirst (hrefuse a)
    | error => rfl
  write_model omitNull α β fields build attributes a := by
    rw [entries_strict]
    rfl
  read_model fields build attributes args a := by
    change (Checked.of build).apply (readFields args fields) = _ ↔ _
    rw [Checked.apply_eq_ok_iff]
    constructor
    · rintro ⟨g, b, hg, hb, rfl⟩
      cases hg
      exact ⟨b, rfl, (gives_strict_iff args fields b).2 hb⟩
    · rintro ⟨b, rfl, hb⟩
      exact ⟨_, b, rfl, (gives_strict_iff args fields b).1 hb, rfl⟩
  model_refuses_list _ _ _ _ _ := nofun

end ModelLibrary

end FindQuery

import FindQuery.Defaults
import FindQuery.Query.Schema

namespace FindQuery

/-- A reference to follow, with an own projection and filter. -/
structure Reference where
  path : Text
  select : Option (Fields Int)
  filter : Option (Fields Value)
  deriving DecidableEq

/-- The references of one query: a single one, or a list. -/
inductive References where
  | one (reference : Reference)
  | many (references : List Reference)
  deriving DecidableEq

/-- A compiled query: what a find call needs, and the references to follow afterwards. -/
structure Descriptor where
  limit : Int := Default.limit
  skip : Int := Default.skip
  select : Fields Int := []
  sort : Fields Int := []
  filter : Fields Value := []
  populate : Option References := none
  deriving DecidableEq

namespace Reference

/-- The declared fields of a reference: a path, and two parts that may be absent. -/
def type : FieldType Reference :=
  .model
    (.cons "path".toList (.plain .text) none <|
      .cons "select".toList (.optional (.plain .integers)) (some none) <|
      .cons "match".toList (.optional (.plain .values)) (some none) .nil)
    (fun ⟨path, select, filter, _⟩ => ⟨path, select, filter⟩)
    (fun r => (r.path, r.select, r.filter, ()))

/-- A reference as a map, without the parts that are absent. -/
def toMap (lib : ModelLibrary) (r : Reference) : Fields Value := lib.toMap true type r

def ofArguments (lib : ModelLibrary) (args : Fields Value) : Checked Reference :=
  lib.ofArguments type args

end Reference

namespace References

def ofSum : Reference ⊕ List Reference → References
  | .inl r => .one r
  | .inr rs => .many rs

def toSum : References → Reference ⊕ List Reference
  | .one r => .inl r
  | .many rs => .inr rs

end References

namespace Descriptor

/-- The declared fields of a descriptor, each with a default. -/
def type : FieldType Descriptor :=
  .model
    (.cons "limit".toList (.plain .positive) (some Default.limit) <|
      .cons "skip".toList (.plain .nonNegative) (some Default.skip) <|
      .cons "select".toList (.plain .integers) (some []) <|
      .cons "sort".toList (.plain .integers) (some []) <|
      .cons "filter".toList (.plain .values) (some []) <|
      .cons "populate".toList (.optional (.either Reference.type (.list Reference.type)))
        (some none) .nil)
    (fun ⟨limit, skip, select, sort, filter, populate, _⟩ =>
      ⟨limit, skip, select, sort, filter, populate.map References.ofSum⟩)
    (fun d => (d.limit, d.skip, d.select, d.sort, d.filter, d.populate.map References.toSum, ()))

/-- A descriptor as a map, without references if they are absent. -/
def toMap (lib : ModelLibrary) (d : Descriptor) : Fields Value := lib.toMap true type d

def ofArguments (lib : ModelLibrary) (args : Fields Value) : Checked Descriptor :=
  lib.ofArguments type args

/-- The arguments of a find call. An empty projection or order is left out; the order is a list of
pairs. -/
def findArguments (d : Descriptor) : Fields Value :=
  [("filter".toList, .map d.filter), ("skip".toList, .int d.skip),
    ("limit".toList, .int d.limit)] ++
    (if d.select.isEmpty then [] else [("projection".toList, .ofIntegers d.select)]) ++
    (if d.sort.isEmpty then []
    else [("sort".toList, .list (d.sort.map fun e => .list [.str e.1, .int e.2]))])

def checkLimit (n : Int) : Checked Int := if 0 < n then .ok n else .issue .notPositive

def checkSkip (n : Int) : Checked Int := if 0 ≤ n then .ok n else .issue .notNonNegative

/-- A descriptor whose limit is positive and whose skip is not negative. -/
def checked (d : Descriptor) : Checked Descriptor :=
  Checked.of (fun _ _ => d)
    |>.apply ((checkLimit d.limit).within "limit".toList)
    |>.apply ((checkSkip d.skip).within "skip".toList)

theorem checked_eq_ok_iff {d : Descriptor} : d.checked = .ok d ↔ 1 ≤ d.limit ∧ 0 ≤ d.skip := by
  rw [checked, checkLimit, checkSkip]
  split
  · next hl =>
    split
    · next hs => exact iff_of_true rfl ⟨hl, hs⟩
    · next hs => exact iff_of_false nofun fun h => hs h.2
  · next hl => split <;> exact iff_of_false nofun fun h => hl h.1

end Descriptor

end FindQuery

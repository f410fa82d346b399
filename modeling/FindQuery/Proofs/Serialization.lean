import FindQuery.Proofs.StrictModels
import FindQuery.Query.Descriptor

namespace FindQuery

namespace ModelLibrary

variable {lib : ModelLibrary} {α β : Type}

/-- A value is read back from what is written of it without null fields. -/
def Restores (lib : ModelLibrary) (type : FieldType α) (a : α) : Prop :=
  lib.read type (lib.write true type a) = .ok a

/-- The value of a field is read back. A null is not written, so it must be the default. -/
def RestoresField (lib : ModelLibrary) (type : FieldType α) (default : Option α) (a : α) : Prop :=
  if lib.write true type a = .null then default = some a else lib.Restores type a

def RestoresFields (lib : ModelLibrary) : {β : Type} → FieldList β → β → Prop
  | _, .nil, _ => True
  | _, .cons _ type default rest, (a, b) =>
    lib.RestoresField type default a ∧ RestoresFields lib rest b

theorem keys_entries (omitNull : Bool) : ∀ {β : Type} (fields : FieldList β) (b : β),
    (lib.entries omitNull fields b).keys = fields.names
  | _, .nil, _ => rfl
  | _, .cons name _ _ rest, (_, b) => congrArg (name :: ·) (keys_entries omitNull rest b)

/-- Arguments that hold what is written of fields, without the nulls, give the same values to the
fields exactly if each is read back. -/
theorem gives_iff_restoresFields {args : Fields Value} :
    ∀ {β : Type} {fields : FieldList β} {b : β}, fields.names.Nodup →
    (∀ k ∈ fields.names,
      args.find? k = ((lib.entries true fields b).find? k).filter fun v => v ≠ .null) →
    (lib.Gives args fields b ↔ lib.RestoresFields fields b)
  | _, .nil, _ => fun _ _ => Iff.rfl
  | _, .cons name type default rest, (a, b) => by
    intro hnames hargs
    obtain ⟨hname, hrest⟩ := List.nodup_cons.1 hnames
    have hhead : args.find? name = (some (lib.write true type a)).filter fun v => v ≠ .null := by
      rw [hargs name (.head _), entries, Fields.find?, if_pos rfl]
    have htail : ∀ k ∈ rest.names,
        args.find? k = ((lib.entries true rest b).find? k).filter fun v => v ≠ .null := by
      intro k hk
      have hne : name ≠ k := by
        rintro rfl
        exact hname hk
      rw [hargs k (.tail _ hk), entries, Fields.find?, if_neg hne]
    refine and_congr ?_ (gives_iff_restoresFields hrest htail)
    rw [RestoresField, GivesField, hhead]
    by_cases hnull : lib.write true type a = .null
    · rw [if_pos hnull, hnull]
      rfl
    · rw [if_neg hnull, Option.filter_some, if_pos (decide_eq_true hnull)]
      rfl

namespace Lawful

variable {type : FieldType α} {plain : PlainType α} {fields : FieldList β} {build : β → α}
  {attributes : α → β} (h : lib.Lawful)

include h

theorem restores_plain_iff {a : α} : lib.Restores (.plain plain) a ↔ plain.Admits a := by
  rw [Restores, h.write_plain]
  exact h.read_plain plain a

theorem write_plain_ne_null (a : α) : lib.write true (.plain plain) a ≠ .null := by
  rw [h.write_plain]
  cases plain <;> exact nofun

theorem restoresField_plain_iff {default : Option α} {a : α} :
    lib.RestoresField (.plain plain) default a ↔ plain.Admits a := by
  rw [RestoresField, if_neg (h.write_plain_ne_null a), h.restores_plain_iff]

theorem restoresField_optional {o : Option α}
    (ho : ∀ a ∈ o, lib.write true type a ≠ .null ∧ lib.Restores type a) :
    lib.RestoresField (.optional type) (some none) o := by
  rw [RestoresField, Restores, h.write_optional]
  cases o with
  | none => rw [Option.map_none, Option.getD_none, if_pos rfl]
  | some a =>
    obtain ⟨hnull, ha⟩ := ho a rfl
    rw [Option.map_some, Option.getD_some, if_neg hnull]
    exact h.read_present hnull ha

theorem restoresField_optional_plain (plain : PlainType α) (hplain : ∀ a, plain.Admits a)
    (o : Option α) :
    lib.RestoresField (.optional (.plain plain)) (some none) o :=
  h.restoresField_optional fun a _ => ⟨h.write_plain_ne_null a, h.restores_plain_iff.2 (hplain a)⟩

theorem restores_list {as : List α} (has : ∀ a ∈ as, lib.Restores type a) :
    lib.Restores (.list type) as := by
  rw [Restores, h.write_list]
  induction as with
  | nil => exact h.read_nil type
  | cons a as ih => exact h.read_cons (has a (.head _)) (ih fun b hb => has b (.tail _ hb))

theorem restores_model_iff (hnames : fields.names.Nodup) (hleft : ∀ a, build (attributes a) = a)
    (hright : ∀ b, attributes (build b) = b) {a : α} :
    lib.Restores (.model fields build attributes) a ↔ lib.RestoresFields fields (attributes a) := by
  have hkeys : (lib.entries true fields (attributes a)).keys.Nodup := by
    rw [keys_entries]
    exact hnames
  have hgives : lib.Gives
      ((lib.entries true fields (attributes a)).filter fun e => !true || e.2 ≠ .null) fields
      (attributes a) ↔ lib.RestoresFields fields (attributes a) :=
    gives_iff_restoresFields hnames fun k _ => Fields.find?_filter hkeys _ k
  rw [Restores, h.write_model, h.read_model, ← hgives]
  constructor
  · rintro ⟨b, rfl, hb⟩
    rw [hright] at hb ⊢
    exact hb
  · intro hb
    exact ⟨_, hleft a, hb⟩

/-- A model is written as a map and a list of models as a list, so they are told apart. -/
theorem restores_model_or_list (hmodel : ∀ a, lib.Restores (.model fields build attributes) a)
    (x : α ⊕ List α) :
    lib.Restores (.either (.model fields build attributes)
      (.list (.model fields build attributes))) x := by
  cases x with
  | inl a =>
    have ha := hmodel a
    rw [Restores] at ha ⊢
    rw [h.write_first]
    refine h.read_first ha ?_
    rw [h.write_model]
    exact h.list_refuses_map _ _
  | inr as =>
    have has : lib.Restores (.list (.model fields build attributes)) as :=
      h.restores_list fun a _ => hmodel a
    rw [Restores] at has ⊢
    rw [h.write_second]
    refine h.read_second ?_ has
    rw [h.write_list]
    exact h.model_refuses_list _ _ _ _

theorem write_model_or_list_ne_null (x : α ⊕ List α) :
    lib.write true (.either (.model fields build attributes)
      (.list (.model fields build attributes))) x ≠ .null := by
  cases x with
  | inl a =>
    rw [h.write_first, h.write_model]
    exact nofun
  | inr as =>
    rw [h.write_second, h.write_list]
    exact nofun

theorem ofArguments_toMap_iff {a : α} :
    lib.ofArguments (.model fields build attributes)
        (lib.toMap true (.model fields build attributes) a) = .ok a ↔
      lib.Restores (.model fields build attributes) a := by
  rw [ofArguments, toMap, Restores, h.write_model]
  rfl

end Lawful

end ModelLibrary

section

variable {lib : ModelLibrary} (h : lib.Lawful)

include h

theorem Reference.restores (r : Reference) : lib.Restores Reference.type r := by
  have hpath : lib.RestoresField (.plain .text) none r.path := h.restoresField_plain_iff.2 trivial
  have hselect : lib.RestoresField (.optional (.plain .integers)) (some none) r.select :=
    h.restoresField_optional_plain .integers (fun _ => trivial) _
  have hfilter : lib.RestoresField (.optional (.plain .values)) (some none) r.filter :=
    h.restoresField_optional_plain .values (fun _ => trivial) _
  exact (h.restores_model_iff (by decide) (fun _ => rfl) fun _ => rfl).2
    ⟨hpath, hselect, hfilter, trivial⟩

/-- A descriptor is read back exactly if it passes the check of its numbers. -/
theorem Descriptor.restores_iff (d : Descriptor) :
    lib.Restores Descriptor.type d ↔ d.checked = .ok d := by
  have hpopulate : lib.RestoresField (.optional (.either Reference.type (.list Reference.type)))
      (some none) (d.populate.map References.toSum) :=
    h.restoresField_optional fun x _ =>
      ⟨h.write_model_or_list_ne_null x, h.restores_model_or_list (Reference.restores h) x⟩
  rw [checked_eq_ok_iff]
  refine (h.restores_model_iff (by decide) ?_ ?_).trans ⟨?_, ?_⟩
  · intro d
    obtain ⟨limit, skip, select, sort, filter, populate⟩ := d
    cases populate with
    | none => rfl
    | some p => cases p <;> rfl
  · intro b
    obtain ⟨limit, skip, select, sort, filter, populate, _⟩ := b
    cases populate with
    | none => rfl
    | some x => cases x <;> rfl
  · intro hfields
    obtain ⟨hlimit, hskip, -⟩ := hfields
    exact ⟨h.restoresField_plain_iff.1 hlimit, h.restoresField_plain_iff.1 hskip⟩
  · intro hbounds
    obtain ⟨hlimit, hskip⟩ := hbounds
    refine ⟨h.restoresField_plain_iff.2 hlimit, h.restoresField_plain_iff.2 hskip, ?_, ?_, ?_,
      hpopulate, trivial⟩
    · exact h.restoresField_plain_iff.2 trivial
    · exact h.restoresField_plain_iff.2 trivial
    · exact h.restoresField_plain_iff.2 trivial

end

/-- A descriptor is built again from its map exactly if its numbers are in range: absent references
and absent parts of references stay absent, a single reference stays apart from a list of one, and
the trees of filters are kept with their nulls. The same holds of every single reference. -/
theorem descriptors_survive_serialization {lib : ModelLibrary} (h : lib.Lawful) :
    (∀ d : Descriptor, Descriptor.ofArguments lib (d.toMap lib) = .ok d ↔
      1 ≤ d.limit ∧ 0 ≤ d.skip) ∧
    ∀ r : Reference, Reference.ofArguments lib (r.toMap lib) = .ok r := by
  constructor
  · intro d
    rw [← Descriptor.checked_eq_ok_iff, ← d.restores_iff h]
    exact h.ofArguments_toMap_iff
  · intro r
    exact h.ofArguments_toMap_iff.2 (r.restores h)

/-- A descriptor of one listed reference, with nulls in both filters. -/
def Descriptor.nested : Descriptor where
  limit := 5
  sort := [("b".toList, -1), ("a".toList, 1)]
  filter := [("c".toList, .null)]
  populate := some (.many [⟨"d".toList, none, some [("e".toList, .list [.null])]⟩])

theorem descriptors_survive_serialization_nested :
    ModelLibrary.strict.Lawful ∧
    Descriptor.nested.toMap .strict =
      [("limit".toList, .int 5), ("skip".toList, .int 0), ("select".toList, .map []),
        ("sort".toList, .map [("b".toList, .int (-1)), ("a".toList, .int 1)]),
        ("filter".toList, .map [("c".toList, .null)]),
        ("populate".toList, .list [.map [("path".toList, .str "d".toList),
          ("match".toList, .map [("e".toList, .list [.null])])]])] ∧
    Descriptor.ofArguments .strict (Descriptor.nested.toMap .strict) = .ok .nested ∧
    Reference.ofArguments .strict (Reference.toMap .strict ⟨"d".toList, some [], none⟩) =
      .ok ⟨"d".toList, some [], none⟩ := by
  have h := descriptors_survive_serialization ModelLibrary.strict_lawful
  refine ⟨ModelLibrary.strict_lawful, rfl, (h.1 _).2 ?_, h.2 _⟩
  decide

end FindQuery

import FindQuery.Proofs.DescriptorLaw

namespace FindQuery

/-- A written integer with too many digits, but no more than a bound. -/
def Fault.IsLongInteger (bound : Nat) (e : Fault) : Prop :=
  ∃ count, e = .tooManyDigits count ∧ Numeral.maxIntegerDigits < count ∧ count ≤ bound

theorem Fault.isLongInteger_of_numeral {bound count : Nat} {t : Text} {n : Numeral}
    (ht : t.length ≤ bound) (hn : Numeral.ofText? t = some n) (hc : n.toInt? = .error count) :
    IsLongInteger bound (.tooManyDigits count) := by
  obtain ⟨hlong, hwhole⟩ := Numeral.lt_of_toInt?_error hc
  have hlength := Numeral.length_whole_le hn
  exact ⟨count, rfl, hlong, by omega⟩

/-- The fields of a query whose values are texts of at most `bound` characters. -/
def Fields.AreTexts (bound : Nat) (fields : Fields Value) : Prop :=
  ∀ e ∈ fields, e.2.IsTextual (·.length ≤ bound)

theorem Fields.AreTexts.find? {bound : Nat} {fields : Fields Value} (h : fields.AreTexts bound)
    (k : Text) : ((fields.find? k).getD .null).IsTextual (·.length ≤ bound) := by
  cases hf : Fields.find? k fields with
  | none => trivial
  | some v => exact h _ (Fields.mem_of_find? hf)

theorem Pagination.readInteger_fault {bound : Nat} {fields : Fields Value} {name : Text}
    {default : Int} {e : Fault} (hfields : fields.AreTexts bound)
    (h : readInteger fields name default = .error e) : e.IsLongInteger bound := by
  rw [readInteger] at h
  split at h
  · cases h
  · next t hfind =>
    have ht : t.length ≤ bound := hfields _ (Fields.mem_of_find? hfind)
    split at h
    · next n hn =>
      rw [integerNumeral?, Option.filter_eq_some_iff] at hn
      split at h
      · cases h
      · next count hc =>
        cases h
        exact Fault.isLongInteger_of_numeral ht hn.1 hc
    · cases h
  · cases h

theorem Names.chunks_of_textual {T : Text → Prop} {v : Value} (h : v.IsTextual T) :
    ∃ texts, chunks v = .ok texts ∧ ∀ t ∈ texts, T t := by
  unfold chunks
  split
  · cases v with
    | str t =>
      refine ⟨[t], rfl, ?_⟩
      intro s hs
      rw [List.mem_singleton.1 hs]
      exact h
    | list items =>
      refine ⟨_, rfl, ?_⟩
      intro t ht
      obtain ⟨v, hv, hvt⟩ := List.mem_filterMap.1 ht
      rcases h v hv with rfl | ⟨s, rfl, hs⟩
      · cases hvt
      · cases hvt
        exact hs
    | null => next htrue => cases htrue
    | bool | int | float | map => exact h.elim
  · refine ⟨[], rfl, ?_⟩
    intro t ht
    cases ht

section

variable {c : QueryCompiler} (hc : c.filterOptions.strict = false) {bound : Nat}

include hc

theorem QueryCompiler.filter_fault {fields : Fields Value} (hfields : fields.AreTexts bound) :
    (c.filter fields).Ends (fun tree => ∀ e ∈ tree, Key.IsPath c.filterOptions.lenientKeys e.1)
      (·.IsLongInteger bound) := by
  have hclosed : Filter.Closed c.filterOptions.lenientKeys (·.length ≤ bound) (fun _ => True)
      fun _ => True := by
    constructor <;> intros <;> trivial
  have hnode (t : Text) (ht : t.length ≤ bound) :
      (Filter.tokenNode c.filterOptions t 0).Ends (fun node => ∀ v ∈ node, True)
        (·.IsLongInteger bound) :=
    Filter.nodeAt_ends (P := fun _ _ => True) (Text.inherited_length_le bound)
      (fun _ => hclosed) (fun hs => absurd hs (by rw [hc]; decide))
      (fun _ _ _ ht hn hcount => Fault.isLongInteger_of_numeral ht hn hcount) _ ht
  have h : (c.filter fields).Ends
      (fun tree => ∀ e ∈ tree, Key.IsPath c.filterOptions.lenientKeys e.1 ∧ True)
      (·.IsLongInteger bound) :=
    Filter.compileFields_ends (P := fun _ => True) fun e he _ hne =>
      Filter.compileValue_ends (hfields e he) hne hnode fun _ _ _ _ => trivial
  exact h.mono fun tree htree e he => (htree e he).1

theorem QueryCompiler.readReference_fault {t : Text} (ht : t.length ≤ bound) :
    (c.readReference t).Ends (·.WellFormed c.filterOptions.lenientKeys)
      (·.IsLongInteger bound) := by
  apply c.readReference_ends
  intro u hu
  apply filter_fault hc
  exact (Text.inherited_length_le bound).readGrouped (Nat.le_trans hu.length_le ht)

theorem QueryCompiler.compileFields_fault {fields : Fields Value}
    (hfields : fields.AreTexts bound) :
    (c.compileFields fields).Ends (·.WellFormed c.filterOptions.lenientKeys)
      (·.IsLongInteger bound) := by
  have htexts (name : Text) := Names.chunks_of_textual (hfields.find? name)
  apply c.compileFields_ends
  · intro name default e he
    exact Pagination.readInteger_fault hfields he
  · intro name e he
    obtain ⟨texts, hok, -⟩ := htexts name
    rw [hok] at he
    cases he
  · exact filter_fault hc hfields
  · intro name texts hok t ht
    obtain ⟨_, hok', hlength⟩ := htexts name
    rw [hok] at hok'
    cases hok'
    exact readReference_fault hc (hlength t ht)

end

/-- A lenient compiler answers every query string, unless the string holds an integer of more than
4300 digits. A tag at the start of a token always ends at the first closing brace, so taking tags
apart cannot fail on the way. -/
theorem lenient_query_string_compiles (c : QueryCompiler) (hc : c.filterOptions.strict = false)
    (t : Text) :
    ((∃ d, (c.compile (.str t)).outcome = .ok d) ∨
      ∃ count, (c.compile (.str t)).outcome = .error (.tooManyDigits count) ∧
        4300 < count ∧ count ≤ t.length) ∧
    ∀ tags ∈ [[Tag.elemMatch], Tag.logical, Tag.comparison, Tag.element], ∀ token tag body,
      Tag.read? tags token = some (tag, body) → Tag.split? token = some (tag, body) := by
  constructor
  · have hfields : Fields.AreTexts t.length (QueryString.readGrouped t) :=
      (Text.inherited_length_le t.length).readGrouped (Nat.le_refl _)
    have hends := QueryCompiler.compileFields_fault hc hfields
    cases ho : (c.compile (.str t)).outcome with
    | ok d => exact .inl ⟨d, rfl⟩
    | error e =>
      obtain ⟨count, rfl, hlong, hbound⟩ := hends.fault e ho
      exact .inr ⟨count, rfl, hlong, hbound⟩
  · intro tags htags token tag body h
    have hbraces : ∀ tags ∈ [[Tag.elemMatch], Tag.logical, Tag.comparison, Tag.element],
        ∀ x ∈ tags, '}' ∉ x := by
      decide +kernel
    exact Tag.split?_of_read? (hbraces tags htags) h

theorem lenient_query_string_compiles_malformed :
    ∃ d, (QueryCompiler.populating.compile
      (.str "limit=0x&a={gt}&b={exists}?&[c]={}|&populate=;;d={type}".toList)).outcome =
        .ok d := by
  obtain ⟨⟨d, hd⟩ | ⟨count, -, hlong, hbound⟩, -⟩ :=
    lenient_query_string_compiles QueryCompiler.populating rfl
      "limit=0x&a={gt}&b={exists}?&[c]={}|&populate=;;d={type}".toList
  · exact ⟨d, hd⟩
  · have hlength :
        "limit=0x&a={gt}&b={exists}?&[c]={}|&populate=;;d={type}".toList.length = 55 := by
      decide
    omega

end FindQuery

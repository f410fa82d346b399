import FindQuery.Proofs.EntryLaws

namespace FindQuery

/-- The operators that filter tokens can bring into a filter. -/
def Filter.operatorKeys : List Text :=
  ["$eq", "$gt", "$gte", "$in", "$lt", "$lte", "$ne", "$nin", "$and", "$or", "$not", "$nor",
    "$exists", "$type", "$elemMatch", "$regex", "$options"].map String.toList

/-- A key that cleaning leaves as it is, that names no operator and no part of the query. -/
structure Key.IsField (lenientKeys : Bool) (k : Text) : Prop where
  clean : Key.clean lenientKeys k = k
  noOperator : '$' ∉ k
  notReserved : k ∉ Key.reserved

theorem Key.IsPath.isField {lenientKeys : Bool} {k : Text} (h : IsPath lenientKeys k) :
    IsField lenientKeys k := by
  refine ⟨List.filter_eq_self.2 h.1, ?_, h.2⟩
  intro hm
  have hkey := h.1 '$' hm
  cases lenientKeys <;> exact absurd hkey (by decide)

/-- The keys of an object are operators or, in the query on array elements, field paths. -/
def Filter.KeyLaw (lenientKeys : Bool) (key : Option Text) (entries : Fields Value) : Prop :=
  ∀ e ∈ entries, e.1 ∈ operatorKeys ∨
    key = some "$elemMatch".toList ∧ Key.IsField lenientKeys e.1

/-- Every object inside a value obeys the law of keys, wherever the value stands. -/
def Value.IsLawful (lenientKeys : Bool) (v : Value) : Prop :=
  ∀ key, v.AllObjects (Filter.KeyLaw lenientKeys) key

namespace Filter

variable {lenientKeys : Bool}

/-- The builders write operators from the vocabulary, and field paths in the query on array
elements. -/
theorem entryLaw_keys : EntryLaw lenientKeys fun key e =>
    e.1 ∈ operatorKeys ∨ key = some "$elemMatch".toList ∧ Key.IsField lenientKeys e.1 where
  operator tag htag key v := by
    have htags : ∀ x ∈ operandTags, Tag.operator x ∈ operatorKeys := by decide
    exact .inl (htags tag htag)
  pattern key t := by
    have hregex : Tag.operator Tag.regex ∈ operatorKeys := by decide
    exact .inl hregex
  options key v := by
    have hoptions : Tag.operator "options".toList ∈ operatorKeys := by decide
    exact .inl hoptions
  field e he := .inr ⟨rfl, he.isField⟩

variable (o : FilterOptions) (depth : Int)

theorem tokenNode_isLawful {token : Text} (htoken : '"' ∉ token ∧ '%' ∉ token) :
    (tokenNode o token depth).Ends (fun node => ∀ v ∈ node, v.IsLawful o.lenientKeys)
      fun _ => True :=
  tokenNode_allEntries entryLaw_keys depth htoken

theorem compile_isLawful {fields : Fields Value}
    (hfields : ∀ e ∈ fields, e.2.IsTextual fun t => '"' ∉ t ∧ '%' ∉ t) :
    (compile o fields depth).Ends
      (fun tree => ∀ e ∈ tree, Key.IsPath o.lenientKeys e.1 ∧ e.2.IsLawful o.lenientKeys)
      fun _ => True :=
  compile_allEntries entryLaw_keys depth hfields

end Filter

/-- Text without double quotes and percent signs brings no keys into a filter but the known
operators and, in the queries on array elements, field paths. -/
theorem compiled_keys_are_known (o : FilterOptions) (depth : Int) :
    (∀ token node, '"' ∉ token → '%' ∉ token →
      (Filter.tokenNode o token depth).outcome = .ok (some node) → node.IsLawful o.lenientKeys) ∧
    ∀ fields tree, (∀ e ∈ fields, e.2.IsTextual fun t => '"' ∉ t ∧ '%' ∉ t) →
      (Filter.compile o fields depth).outcome = .ok tree →
      ∀ e ∈ tree, Key.IsField o.lenientKeys e.1 ∧ e.2.IsLawful o.lenientKeys := by
  constructor
  · intro token node hquote hpercent hnode
    exact (Filter.tokenNode_isLawful o depth ⟨hquote, hpercent⟩).value _ hnode node rfl
  · intro fields tree hfields htree e he
    obtain ⟨hpath, hlawful⟩ := (Filter.compile_isLawful o depth hfields).value tree htree e he
    exact ⟨hpath.isField, hlawful⟩

theorem compiled_keys_are_known_nested :
    ∃ a b, (Filter.tokenNode {} "{elemMatch}a$={gt}5#b=x|y#limit=3".toList 0).outcome =
        .ok (some a) ∧
      (Filter.compile {} [("$a.b".toList, .list [.null, .str "{gte}1{lt}9".toList])] 0).outcome =
        .ok [("a.b".toList, b)] ∧
      a.IsLawful false ∧ Key.IsField false "a.b".toList ∧ b.IsLawful false := by
  have ha := Journal.outcome_of_toOption
    (x := Filter.tokenNode {} "{elemMatch}a$={gt}5#b=x|y#limit=3".toList 0)
    (a := some (.map [("$elemMatch".toList, .map [("a".toList, .map [("$gt".toList, .int 5)]),
      ("b".toList, .map [("$or".toList, .list [.str ['x'], .str ['y']])])])])) (by decide +kernel)
  have hb := Journal.outcome_of_toOption
    (x := Filter.compile {} [("$a.b".toList, .list [.null, .str "{gte}1{lt}9".toList])] 0)
    (a := [("a.b".toList, .map [("$gte".toList, .int 1), ("$lt".toList, .int 9)])])
    (by decide +kernel)
  have hvalue : (Value.list [.null, .str "{gte}1{lt}9".toList]).IsTextual
      fun t => '"' ∉ t ∧ '%' ∉ t := by
    intro v hv
    rcases List.mem_cons.1 hv with rfl | hv
    · exact .inl rfl
    · exact .inr ⟨_, List.mem_singleton.1 hv, by decide, by decide⟩
  obtain ⟨htoken, hcompile⟩ := compiled_keys_are_known {} 0
  obtain ⟨hkey, hlawful⟩ := hcompile _ _ (List.forall_mem_singleton.2 hvalue) hb _ (.head _)
  exact ⟨_, _, ha, hb, htoken _ _ (by decide) (by decide) ha, hkey, hlawful⟩

end FindQuery

import FindQuery.Proofs.FieldByField

namespace FindQuery

namespace Value

/-- A map of operators: it has names, and each of them starts with `$`. -/
def isOperatorMap : Value → Bool
  | .map entries => !entries.isEmpty && (Fields.keys entries).all (·.head? = some '$')
  | _ => false

/-- The value of a field that is given several times. Values may be missing. -/
def ofTexts (texts : List (Option Text)) : Value := .list (texts.map (·.elim .null .str))

theorem isSome_entries?_iff {v : Value} : v.entries?.isSome = true ↔ v.kind = .map := by
  cases v <;> simp [entries?, kind]

theorem kind_of_isOperatorMap {v : Value} (h : v.isOperatorMap = true) : v.kind = .map := by
  cases v with
  | map => rfl
  | null | bool | int | float | str | list => cases h

end Value

namespace Filter

/-- The node for the values of one field, if only maps of operators are merged. -/
def operatorNodeOfValues (nodes : List Value) : Option Value :=
  if nodes.isEmpty then none
  else if nodes.all Value.isOperatorMap then
    some (.map (mergeNodes (nodes.filterMap Value.entries?)))
  else some (.list nodes)

theorem nodeOfValues_of_kinds {nodes : List Value} (hne : nodes ≠ [])
    (h : ∀ v ∈ nodes, v.kind = .map) :
    nodeOfValues nodes = some (.map (mergeNodes (nodes.filterMap Value.entries?))) :=
  nodeOfValues_of_maps hne fun v hv => Value.isSome_entries?_iff.2 (h v hv)

theorem nodeOfValues_of_literal {nodes : List Value} (h : ∃ v ∈ nodes, v.kind ≠ .map) :
    nodeOfValues nodes = some (.list nodes) := by
  obtain ⟨v, hv, hkind⟩ := h
  have hempty : ¬ nodes.isEmpty = true := fun he => List.ne_nil_of_mem hv (List.isEmpty_iff.1 he)
  have hall : ¬ nodes.all (·.entries?.isSome) = true :=
    fun h => hkind (Value.isSome_entries?_iff.1 (List.all_eq_true.1 h v hv))
  rw [nodeOfValues, if_neg hempty, if_neg hall]

/-- Merging maps of operators only makes a difference exactly if all values are maps, and some of
them have other names. -/
theorem nodeOfValues_eq_operatorNodeOfValues {nodes : List Value} :
    nodeOfValues nodes = operatorNodeOfValues nodes ↔
      (∃ v ∈ nodes, v.kind ≠ .map) ∨ ∀ v ∈ nodes, v.isOperatorMap = true := by
  by_cases hne : nodes = []
  · subst hne
    exact ⟨fun _ => .inr nofun, fun _ => rfl⟩
  have hempty : ¬ nodes.isEmpty = true := fun he => hne (List.isEmpty_iff.1 he)
  rw [operatorNodeOfValues, if_neg hempty]
  by_cases hoperators : ∀ v ∈ nodes, v.isOperatorMap = true
  · rw [if_pos (List.all_eq_true.2 hoperators)]
    have hmaps : ∀ v ∈ nodes, v.kind = .map :=
      fun v hv => Value.kind_of_isOperatorMap (hoperators v hv)
    exact ⟨fun _ => .inr hoperators, fun _ => nodeOfValues_of_kinds hne hmaps⟩
  · rw [if_neg fun h => hoperators (List.all_eq_true.1 h)]
    by_cases hliteral : ∃ v ∈ nodes, v.kind ≠ .map
    · exact ⟨fun _ => .inl hliteral, fun _ => nodeOfValues_of_literal hliteral⟩
    · have hmaps : ∀ v ∈ nodes, v.kind = .map := by
        intro v hv
        exact Decidable.of_not_not fun h => hliteral ⟨v, hv, h⟩
      rw [nodeOfValues_of_kinds hne hmaps]
      constructor
      · intro h
        cases h
      · exact fun h => absurd h (not_or.2 ⟨hliteral, hoperators⟩)

theorem collect_compileItem (inner : Text → Journal (Option Value)) (texts : List (Option Text)) :
    Journal.collect (compileItem inner) (texts.map (·.elim .null .str)) =
      Journal.collect inner texts.reduceOption := by
  induction texts with
  | nil => rfl
  | cons t texts ih =>
    cases t with
    | none =>
      rw [List.map_cons, Journal.collect, ih, List.reduceOption_cons_of_none]
      exact bind_pure _
    | some t =>
      rw [List.map_cons, Journal.collect, ih, List.reduceOption_cons_of_some, Journal.collect]
      rfl

theorem compileValue_ofTexts (inner : Text → Journal (Option Value)) (texts : List (Option Text)) :
    compileValue inner (Value.ofTexts texts) =
      nodeOfValues <$> Journal.collect inner texts.reduceOption := by
  rw [Value.ofTexts, compileValue, collect_compileItem, map_eq_pure_bind]

section

variable {o : FilterOptions} {depth : Int}

theorem outcome_compile_append {before after treeBefore treeAfter : Fields Value}
    (hbefore : (compile o before depth).outcome = .ok treeBefore)
    (hafter : (compile o after depth).outcome = .ok treeAfter) :
    (compile o (before ++ after) depth).outcome = .ok (treeBefore.merge treeAfter) := by
  rw [compile_append]
  exact Journal.outcome_bind_eq_ok.2
    ⟨_, hbefore, Journal.outcome_bind_eq_ok.2 ⟨_, hafter, rfl⟩⟩

theorem outcome_compile_field {key : Text} {v : Value} {node : Option Value}
    (hkey : Key.clean o.lenientKeys key ∉ Key.reserved) (hv : v ≠ .null)
    (h : (compileValue (tokenNode o · depth) v).outcome = .ok node) :
    (compile o [(key, v)] depth).outcome =
      .ok (node.map fun w => (Key.clean o.lenientKeys key, w)).toList := by
  rw [outcome_compile_singleton, nodeRun, if_pos ⟨hkey, hv⟩, h]
  rfl

end

end Filter

/-- A field with repeated values is left out if no value gives a node. It gets the merge of the
nodes if all of them are maps, and the list of the nodes if one of them is not. This is the rule
that merges maps of operators only, unless all nodes are maps and one of them has other names. -/
theorem repeated_values_are_merged_if_maps (o : FilterOptions) (depth : Int) (key : Text)
    (hkey : Key.clean o.lenientKeys key ∉ Key.reserved) (texts : List (Option Text))
    (nodes : List Value)
    (hnodes : (Journal.collect (Filter.tokenNode o · depth) texts.reduceOption).outcome = .ok nodes)
    (before after treeBefore treeAfter : Fields Value)
    (hbefore : (Filter.compile o before depth).outcome = .ok treeBefore)
    (hafter : (Filter.compile o after depth).outcome = .ok treeAfter) :
    (nodes = [] →
      (Filter.compile o (before ++ (key, Value.ofTexts texts) :: after) depth).outcome =
        .ok (treeBefore.merge treeAfter)) ∧
    (nodes ≠ [] → (∀ v ∈ nodes, v.kind = .map) →
      (Filter.compile o (before ++ (key, Value.ofTexts texts) :: after) depth).outcome =
        .ok ((treeBefore.insert (Key.clean o.lenientKeys key)
          (.map (Filter.mergeNodes (nodes.filterMap Value.entries?)))).merge treeAfter)) ∧
    ((∃ v ∈ nodes, v.kind ≠ .map) →
      (Filter.compile o (before ++ (key, Value.ofTexts texts) :: after) depth).outcome =
        .ok ((treeBefore.insert (Key.clean o.lenientKeys key) (.list nodes)).merge treeAfter)) ∧
    (Filter.nodeOfValues nodes = Filter.operatorNodeOfValues nodes ↔
      (∃ v ∈ nodes, v.kind ≠ .map) ∨ ∀ v ∈ nodes, v.isOperatorMap = true) := by
  have hvalue : (Filter.compileValue (Filter.tokenNode o · depth) (Value.ofTexts texts)).outcome =
      .ok (Filter.nodeOfValues nodes) := by
    rw [Filter.compileValue_ofTexts, map_eq_pure_bind]
    exact Journal.outcome_bind_eq_ok.2 ⟨nodes, hnodes, rfl⟩
  have hgiven : Value.ofTexts texts ≠ .null := by
    intro hnull
    cases hnull
  have hfield := Filter.outcome_compile_field hkey hgiven hvalue
  have htree := Filter.outcome_compile_append (Filter.outcome_compile_append hbefore hfield) hafter
  rw [List.append_assoc, List.singleton_append] at htree
  refine ⟨?_, ?_, ?_, Filter.nodeOfValues_eq_operatorNodeOfValues⟩
  · rintro rfl
    exact htree
  · intro hne hmaps
    rw [htree, Filter.nodeOfValues_of_kinds hne hmaps]
    rfl
  · intro hliteral
    rw [htree, Filter.nodeOfValues_of_literal hliteral]
    rfl

theorem repeated_values_are_merged_if_maps_mixed :
    (Filter.compile {} [("a".toList, .str "1".toList),
        ("b!".toList, Value.ofTexts [some "{gt}5".toList, none, some "x".toList]),
        ("c".toList, .str "2".toList)] 0).outcome =
      .ok [("a".toList, .int 1),
        ("b".toList, .list [.map [("$gt".toList, .int 5)], .str "x".toList]),
        ("c".toList, .int 2)] := by
  have hnodes : (Journal.collect (Filter.tokenNode {} · 0)
      ["{gt}5".toList, "x".toList]).outcome =
        .ok [.map [("$gt".toList, .int 5)], .str "x".toList] :=
    Journal.outcome_of_toOption (by decide +kernel)
  have hbefore : (Filter.compile {} [("a".toList, .str "1".toList)] 0).outcome =
      .ok [("a".toList, .int 1)] :=
    Journal.outcome_of_toOption (by decide +kernel)
  have hafter : (Filter.compile {} [("c".toList, .str "2".toList)] 0).outcome =
      .ok [("c".toList, .int 2)] :=
    Journal.outcome_of_toOption (by decide +kernel)
  obtain ⟨-, -, hlist, -⟩ := repeated_values_are_merged_if_maps {} 0 "b!".toList (by decide)
    [some "{gt}5".toList, none, some "x".toList] _ hnodes _ _ _ _ hbefore hafter
  exact hlist ⟨.str "x".toList, .tail _ (.head _), nofun⟩

/-- Two objects without operators are merged, and the values of the first are lost. -/
theorem repeated_objects_are_merged :
    (Journal.collect (Filter.tokenNode {} · 0)
        ["\x7b\"x\": 1\x7d".toList, "\x7b\"x\": 2, \"y\": 3\x7d".toList]).outcome =
      .ok [.map [("x".toList, .int 1)], .map [("x".toList, .int 2), ("y".toList, .int 3)]] ∧
    (Filter.compile {} [("a".toList, Value.ofTexts
        [some "\x7b\"x\": 1\x7d".toList, some "\x7b\"x\": 2, \"y\": 3\x7d".toList])] 0).outcome =
      .ok [("a".toList, .map [("x".toList, .int 2), ("y".toList, .int 3)])] ∧
    Filter.operatorNodeOfValues
        [.map [("x".toList, .int 1)], .map [("x".toList, .int 2), ("y".toList, .int 3)]] =
      some (.list [.map [("x".toList, .int 1)],
        .map [("x".toList, .int 2), ("y".toList, .int 3)]]) :=
  ⟨Journal.outcome_of_toOption (by decide +kernel),
    Journal.outcome_of_toOption (by decide +kernel), by decide⟩

end FindQuery

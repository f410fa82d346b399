import FindQuery.Proofs.Repetition

namespace FindQuery

namespace Tag

variable {tag : Text} (htag : tag ∈ logical)

include htag

theorem isWord_of_logical : tag ≠ [] ∧ ∀ c ∈ tag, Text.isWord c = true := by
  have hrule : Rule.logical ∈ Rule.tagged := by decide
  exact Rule.isWord_of_mem_tags hrule htag

theorem isGroup_of_logical : Groups.IsGroup (marker tag) := by
  obtain ⟨hne, hword⟩ := isWord_of_logical htag
  exact ⟨tag, [], (List.append_nil _).symm, hne, hword, List.not_mem_nil⟩

end Tag

theorem Shape.ofToken?_logical {tag : Text} (htag : tag ∈ Tag.logical) (body : Text) :
    ofToken? Rule.table (Tag.marker tag ++ body) = some (.logical tag body) := by
  have hother : ∀ tag ∈ Tag.logical, tag ∉ Rule.elemMatch.tags := by decide
  obtain ⟨hne, hword⟩ := Tag.isWord_of_logical htag
  have hclosed : '}' ∉ tag := Rule.close_not_mem hword
  have hjson := Rule.not_json_of_opens (Rule.opens_marker hne hword body)
  have helemMatch : Rule.elemMatch.read? (Tag.marker tag ++ body) = none :=
    Rule.read?_eq_none (.head _) hclosed (hother tag htag) body
  have hread := Tag.read?_marker (fun x hx => Rule.close_not_mem (Tag.isWord_of_logical hx).2)
    htag body
  rw [ofToken?, Rule.table, List.findSome?_cons, Option.not_isSome_iff_eq_none.1 hjson,
    List.findSome?_cons, helemMatch, List.findSome?_cons, Rule.read?, hread]
  rfl

namespace Filter

variable {o : FilterOptions} (hrules : o.rules = Rule.table) {tag : Text}
  (htag : tag ∈ Tag.logical)

include hrules htag

theorem nodeAt_logical (levels : Nat) (body : Text) :
    nodeAt o (levels + 1) (Tag.marker tag ++ body) =
      compileOperand o (nodeAt o levels) (Tag.marker tag ++ body) tag body := by
  have hshape := Shape.ofToken?_logical htag body
  rw [← hrules] at hshape
  exact nodeAt_of_shape (Tag.marker_append_ne_nil tag body) hshape

theorem outcome_logical_alone (levels : Nat) :
    (nodeAt o (levels + 1) (Tag.marker tag)).outcome =
      if o.strict then .error (.rejected [] .emptyToken) else .ok none := by
  have hnode := nodeAt_logical hrules htag levels []
  have hoperand : nodeAt o levels [] = reject o [] .emptyToken := by
    cases levels <;> rfl
  rw [List.append_nil] at hnode
  rw [hnode, compileOperand, hoperand, reject, reject]
  cases o.strict <;> rfl

end Filter

namespace Condition

variable {tag : Text} (htag : tag ∈ Tag.logical)

include htag

theorem ofToken?_logical (c : Condition) (cs ds : List Condition) :
    Shape.ofToken? Rule.table (token (c :: cs) ++ Tag.marker tag ++ token ds) =
      some (.conjunction ((c :: cs).map text ++ Tag.marker tag :: ds.map text)) := by
  have htoken : token (c :: cs) ++ Tag.marker tag ++ token ds =
      c.text ++ (cs.map text ++ Tag.marker tag :: ds.map text).flatten := by
    simp only [token, List.map_cons, List.flatten_cons, List.flatten_append, List.append_assoc]
  rw [htoken]
  apply c.ofToken?_several
  · exact List.append_ne_nil_of_right_ne_nil _ (List.cons_ne_nil _ _)
  · rw [List.forall_mem_append, List.forall_mem_cons]
    exact ⟨isGroup_of_mem cs, Tag.isGroup_of_logical htag, isGroup_of_mem ds⟩
  · have hbars : ∀ tag ∈ Tag.logical, '|' ∉ Tag.marker tag := by decide
    rw [List.flatten_append, List.flatten_cons, List.mem_append, List.mem_append, not_or, not_or]
    exact ⟨bar_not_mem_token cs, hbars tag htag, bar_not_mem_token ds⟩

variable {o : FilterOptions} (hrules : o.rules = Rule.table)

include hrules

/-- Lenient options compile a token as if a logical tag after a condition were not there. -/
theorem outcome_token_logical (hlenient : o.strict = false) (c : Condition) (cs ds : List Condition)
    (levels : Nat) :
    (Filter.nodeAt o (levels + 3) (token (c :: cs) ++ Tag.marker tag ++ token ds)).outcome =
      (Filter.nodeAt o (levels + 3) (token (c :: (cs ++ ds)))).outcome := by
  have hne : token (c :: cs) ++ Tag.marker tag ++ token ds ≠ [] := by
    rw [List.append_assoc]
    exact List.append_ne_nil_of_left_ne_nil (token_ne_nil c cs) _
  have hfirst := outcome_nodes hrules (c :: cs) levels
  have hrest : (Journal.collect (Filter.nodeAt o (levels + 2))
      (Tag.marker tag :: ds.map text)).outcome = (Journal.collect (node o) ds).outcome := by
    have halone := Filter.outcome_logical_alone hrules htag (levels + 1)
    rw [hlenient] at halone
    have hnodes := congrArg Journal.outcome (bind_pure (Journal.collect (node o) ds))
    rw [Journal.collect, Journal.bind_of_ok halone, outcome_nodes hrules]
    exact hnodes
  rw [outcome_token hrules (List.cons_ne_nil c _)]
  apply outcome_several hrules hne (ofToken?_logical htag c cs ds) c
  -- both sides collect the first conditions alike, and the tag adds nothing to the others
  rw [← List.cons_append, Journal.collect_append, Journal.collect_append, hfirst]
  apply Journal.lockstep_outcome.bind rfl
  intro nodes
  exact Journal.lockstep_outcome.bind hrest fun _ => rfl

/-- Strict options refuse the empty token after the tag. -/
theorem outcome_token_logical_strict (hstrict : o.strict = true) (c : Condition)
    {node : Option Value} (hc : (c.node o).outcome = .ok node) (ds : List Condition)
    (levels : Nat) :
    (Filter.nodeAt o (levels + 3) (token [c] ++ Tag.marker tag ++ token ds)).outcome =
      .error (.rejected [] .emptyToken) := by
  have hne : token [c] ++ Tag.marker tag ++ token ds ≠ [] := by
    rw [List.append_assoc]
    exact List.append_ne_nil_of_left_ne_nil (token_ne_nil c []) _
  have hshape := ofToken?_logical htag c [] ds
  have halone := Filter.outcome_logical_alone hrules htag (levels + 1)
  rw [← hrules] at hshape
  rw [hstrict] at halone
  rw [← c.nodeAt_text hrules levels] at hc
  rw [Filter.nodeAt_of_shape hne hshape, Filter.compileShape, List.map_singleton,
    List.singleton_append, Journal.collect, Journal.bind_of_ok hc, Journal.collect,
    Journal.bind_of_error halone]
  rfl

theorem logical_not_mem_keys (c : Condition) {fs : Fields Value}
    (h : (c.node o).outcome = .ok (some (.map fs))) : Tag.operator tag ∉ fs.keys := by
  have hoperators : ∀ l ∈ Tag.logical, ∀ t ∈ Tag.comparison ++ Tag.element,
      Tag.operator l ∉ [Tag.operator t] := by
    decide
  have hpattern : ∀ l ∈ Tag.logical,
      Tag.operator l ∉ [Tag.operator Tag.regex, Tag.operator "options".toList] := by
    decide
  have hends : (c.node o).Ends (fun node => ∀ v ∈ node, ∀ fs : Fields Value, v = .map fs →
      Tag.operator tag ∉ fs.keys) fun _ => True := by
    rw [node, c.nodeAt_succ_text hrules]
    apply Filter.compileShape_condition
    · rintro t ht v _ ⟨⟩ fs ⟨⟩
      exact hoperators tag htag t ht
    · rintro t _ ⟨⟩ fs ⟨⟩
      exact hpattern tag htag
    · exact fun reason => Filter.reject_ends reason fun _ => trivial
  exact hends.value _ h _ rfl fs rfl

omit htag

theorem nodup_keys (c : Condition) {fs : Fields Value}
    (h : (c.node o).outcome = .ok (some (.map fs))) : fs.keys.Nodup := by
  obtain ⟨gs, he, hgs⟩ := ((c.node_isMapNode hrules).value _ h).2 _ rfl
  cases he
  exact hgs

theorem outcome_token_pair {c d : Condition} {fs gs : Fields Value}
    (hc : (c.node o).outcome = .ok (some (.map fs)))
    (hd : (d.node o).outcome = .ok (some (.map gs))) (levels : Nat) :
    (Filter.nodeAt o (levels + 3) (token [c, d])).outcome =
      .ok (some (.map (Filter.mergeNodes [fs, gs]))) := by
  have hnodes := Journal.outcome_collect_pair hc hd
  rw [outcome_token hrules (List.cons_ne_nil c [d]), map_eq_pure_bind, Journal.bind_of_ok hnodes]
  rfl

include htag

theorem outcome_values_logical {c d : Condition} {fs gs : Fields Value}
    (hc : (c.node o).outcome = .ok (some (.map fs)))
    (hd : (d.node o).outcome = .ok (some (.map gs))) (levels : Nat) :
    (Filter.compileValue (Filter.nodeAt o (levels + 3))
        (.list [.str c.text, .str (Tag.marker tag ++ d.text)])).outcome =
      .ok (some (.map (Filter.mergeNodes [fs, [(Tag.operator tag, .map gs)]]))) := by
  rw [← c.nodeAt_text hrules (levels + 1)] at hc
  rw [← d.nodeAt_text hrules levels] at hd
  have hoperand : (Filter.nodeAt o (levels + 3) (Tag.marker tag ++ d.text)).outcome =
      .ok (some (.map [(Tag.operator tag, .map gs)])) := by
    rw [Filter.nodeAt_logical hrules htag, Filter.compileOperand, Journal.bind_of_ok hd]
    rfl
  have hvalues := Journal.outcome_collect_pair (f := Filter.compileItem (Filter.nodeAt o (levels + 3)))
    (x := .str c.text) (y := .str (Tag.marker tag ++ d.text)) hc hoperand
  rw [Filter.compileValue, Journal.bind_of_ok hvalues]
  rfl

end Condition

/-- A logical tag between two conditions has no effect in lenient filters, in which the second
condition stands as it is, and makes a token a fault if the options are strict. Given as a value of
its own, the tag with the second condition compiles to its operator. -/
theorem logical_tag_between_conditions_has_no_operand (o : FilterOptions)
    (hrules : o.rules = Rule.table) (tag : Text) (htag : tag ∈ Tag.logical) (c d : Condition)
    (fs gs : Fields Value) (depth : Int) (hdepth : depth + 2 ≤ o.maxDepth)
    (hc : (Filter.tokenNode o c.text depth).outcome = .ok (some (.map fs)))
    (hd : (Filter.tokenNode o d.text depth).outcome = .ok (some (.map gs))) :
    (o.strict = false →
      (Filter.tokenNode o (c.text ++ Tag.marker tag ++ d.text) depth).outcome =
        .ok (some (.map (Filter.mergeNodes [fs, gs])))) ∧
    (o.strict = true →
      (Filter.tokenNode o (c.text ++ Tag.marker tag ++ d.text) depth).outcome =
        .error (.rejected [] .emptyToken)) ∧
    (∀ k v, gs.find? k = some v → (Filter.mergeNodes [fs, gs]).find? k = some v) ∧
    Tag.operator tag ∉ (Filter.mergeNodes [fs, gs]).keys ∧
    (Filter.compileValue (Filter.tokenNode o · depth)
        (.list [.str c.text, .str (Tag.marker tag ++ d.text)])).outcome =
      .ok (some (.map (Filter.mergeNodes [fs, [(Tag.operator tag, .map gs)]]))) := by
  obtain ⟨levels, hlevels⟩ : ∃ levels, o.levelsAt depth = levels + 3 :=
    FilterOptions.exists_levelsAt (by omega)
  have htext (e : Condition) : Condition.token [e] = e.text := List.append_nil e.text
  simp only [Filter.tokenNode, hlevels] at hc hd ⊢
  rw [c.nodeAt_text hrules] at hc
  rw [d.nodeAt_text hrules] at hd
  constructor
  · intro hlenient
    have htoken := Condition.outcome_token_logical htag hrules hlenient c [] [d] levels
    rw [htext, htext] at htoken
    exact htoken.trans (Condition.outcome_token_pair hrules hc hd levels)
  constructor
  · intro hstrict
    have htoken := Condition.outcome_token_logical_strict htag hrules hstrict c hc [d] levels
    rw [htext, htext] at htoken
    exact htoken
  constructor
  · intro k v hv
    change (Fields.merge _ gs).find? k = some v
    rw [Fields.find?_merge_of_nodup (d.nodup_keys hrules hd), hv]
    rfl
  constructor
  · intro hmem
    obtain ⟨hs, hhs, hkeys⟩ := Filter.mem_keys_mergeNodes.1 hmem
    rcases List.mem_pair.1 hhs with rfl | rfl
    · exact c.logical_not_mem_keys htag hrules hc hkeys
    · exact d.logical_not_mem_keys htag hrules hd hkeys
  · exact Condition.outcome_values_logical htag hrules hc hd levels

theorem logical_tag_between_conditions_has_no_operand_not :
    (Filter.tokenNode {} "{gt}5{not}{lt}3".toList 0).outcome =
        .ok (some (.map [("$gt".toList, .int 5), ("$lt".toList, .int 3)])) ∧
    (Filter.compileValue (Filter.tokenNode {} · 0)
        (.list [.str "{gt}5".toList, .str "{not}{lt}3".toList])).outcome =
      .ok (some (.map [("$gt".toList, .int 5),
        ("$not".toList, .map [("$lt".toList, .int 3)])])) := by
  have hc : (Filter.tokenNode {} "{gt}5".toList 0).outcome =
      .ok (some (.map [("$gt".toList, .int 5)])) :=
    Journal.outcome_of_toOption (by decide +kernel)
  have hd : (Filter.tokenNode {} "{lt}3".toList 0).outcome =
      .ok (some (.map [("$lt".toList, .int 3)])) :=
    Journal.outcome_of_toOption (by decide +kernel)
  obtain ⟨hlenient, -, -, -, hvalues⟩ := logical_tag_between_conditions_has_no_operand {} rfl
    "not".toList (by decide) ⟨"gt".toList, ['5'], by decide, by decide, by decide⟩
    ⟨"lt".toList, ['3'], by decide, by decide, by decide⟩ _ _ 0 (by decide) hc hd
  exact ⟨hlenient rfl, hvalues⟩

end FindQuery

import FindQuery.Proofs.NodeInduction
import FindQuery.Proofs.RuleOrder

namespace FindQuery

theorem Shape.ofToken?_alternatives {t : Text} (h : Rule.or.accepts t = true)
    (htag : ∀ tag ∈ Tag.elemMatch :: Tag.logical, ¬ Tag.marker tag <+: t) :
    ofToken? Rule.table t = some (.alternatives (t.pieces '|')) := by
  have hjson := Option.not_isSome_iff_eq_none.1 (Rule.not_json_of_or h)
  have htagged : ∀ rule ∈ [Rule.elemMatch, .logical], rule.read? t = none := by
    intro rule hrule
    have htags : ∀ r ∈ [Rule.elemMatch, .logical],
        r ∈ Rule.tagged ∧ r.tags ⊆ Tag.elemMatch :: Tag.logical := by
      decide
    rw [← Option.not_isSome_iff_eq_none]
    intro haccepts
    obtain ⟨tag, hmem, body, rfl⟩ := Rule.exists_tag (htags rule hrule).1 haccepts
    exact htag tag ((htags rule hrule).2 hmem) (List.prefix_append _ body)
  simp only [ofToken?, Rule.table, List.findSome?_cons, hjson, htagged .elemMatch (.head _),
    htagged .logical (.tail _ (.head _)), Rule.read?_or h]

open FindQuery.Filter in
/-- The alternatives in a token are recognised by their grammar, and none of them is empty. In
lenient mode the token gives the nodes of its segments, and nothing exactly if no segment has a
node. -/
theorem alternatives_are_nonempty_segments (t : Text) :
    (Rule.or.accepts t = true ↔
      ∃ s, (t = s ∨ t = s ++ ['\n']) ∧ Alternatives.IsWritten s) ∧
    (Rule.or.accepts t = true → [] ∉ t.pieces '|' ∧
      ∀ (o : FilterOptions) (depth : Int), o.strict = false → o.rules = Rule.table →
        depth ≤ o.maxDepth → (∀ tag ∈ Tag.elemMatch :: Tag.logical, ¬ Tag.marker tag <+: t) →
        (∀ s ∈ t.pieces '|', ∃ node, (tokenNode o s (depth + 1)).outcome = .ok node) →
        ∃ nodes, List.Forall₂ (fun s node => (tokenNode o s (depth + 1)).outcome = .ok node)
            (t.pieces '|') nodes ∧
          (tokenNode o t depth).outcome = .ok (if nodes.reduceOption = [] then none
            else some (.map [("$or".toList, .list nodes.reduceOption)])) ∧
          ((tokenNode o t depth).outcome = .ok none ↔
            ∀ s ∈ t.pieces '|', (tokenNode o s (depth + 1)).outcome = .ok none)) := by
  rw [Rule.accepts_or]
  refine ⟨Alternatives.accepts_iff, fun h => ⟨Alternatives.nil_not_mem_pieces h, ?_⟩⟩
  intro o depth hlenient hrules hdepth htag hsegments
  rw [← Rule.accepts_or] at h
  obtain ⟨nodes, hnodes⟩ := Journal.exists_outcomes hsegments
  have hshape : Shape.ofToken? o.rules t = some (.alternatives (t.pieces '|')) := by
    rw [hrules, Shape.ofToken?_alternatives h htag]
  have hne : t ≠ [] := List.ne_nil_of_mem (Rule.mem_of_or h).1
  have houtcome : (tokenNode o t depth).outcome = .ok (if nodes.reduceOption = [] then none
      else some (.map [("$or".toList, .list nodes.reduceOption)])) := by
    rw [tokenNode_of_shape hdepth hne hshape, compileShape, Journal.outcome_bind_eq_ok]
    refine ⟨nodes.reduceOption, Journal.outcome_collect_eq_ok.2 ⟨nodes, hnodes, rfl⟩, ?_⟩
    simp only [List.isEmpty_iff]
    split
    · rw [reject, hlenient]
      rfl
    · rfl
  refine ⟨nodes, hnodes, houtcome, ?_⟩
  rw [houtcome, ← Journal.reduceOption_outcomes_eq_nil hnodes]
  split
  · next hnone => exact iff_of_true rfl hnone
  · next hsome =>
    refine iff_of_false ?_ hsome
    intro h
    cases h

theorem alternatives_are_nonempty_segments_refused :
    (∃ s, ("a|{gt}|b c\n".toList = s ∨ "a|{gt}|b c\n".toList = s ++ ['\n']) ∧
      Alternatives.IsWritten s) ∧
    [] ∉ Text.pieces '|' "a|{gt}|b c\n".toList ∧
    ∃ nodes, List.Forall₂
        (fun s node => (Filter.tokenNode { strict := false } s 1).outcome = .ok node)
        (Text.pieces '|' "a|{gt}|b c\n".toList) nodes ∧
      (Filter.tokenNode { strict := false } "a|{gt}|b c\n".toList 0).outcome =
        .ok (if nodes.reduceOption = [] then none
          else some (.map [("$or".toList, .list nodes.reduceOption)])) := by
  have haccepts : Rule.or.accepts "a|{gt}|b c\n".toList = true := by decide +kernel
  have hsegments : ∀ s ∈ Text.pieces '|' "a|{gt}|b c\n".toList,
      ∃ node, (Filter.tokenNode { strict := false } s (0 + 1)).outcome = .ok node := by
    have hpieces : Text.pieces '|' "a|{gt}|b c\n".toList =
        ["a".toList, "{gt}".toList, "b c\n".toList] := by
      decide +kernel
    have hoption : ∀ s ∈ ["a".toList, "{gt}".toList, "b c\n".toList],
        (Filter.tokenNode { strict := false } s (0 + 1)).outcome.toOption.isSome = true := by
      decide +kernel
    intro s hs
    obtain ⟨node, hnode⟩ := Option.isSome_iff_exists.1 (hoption s (hpieces ▸ hs))
    exact ⟨node, Journal.outcome_of_toOption hnode⟩
  obtain ⟨hgrammar, hnodes⟩ := alternatives_are_nonempty_segments "a|{gt}|b c\n".toList
  obtain ⟨hnonempty, hlenient⟩ := hnodes haccepts
  obtain ⟨nodes, hall, houtcome, -⟩ :=
    hlenient { strict := false } 0 rfl rfl (by decide) (by decide +kernel) hsegments
  exact ⟨hgrammar.1 haccepts, hnonempty, nodes, hall, houtcome⟩

end FindQuery

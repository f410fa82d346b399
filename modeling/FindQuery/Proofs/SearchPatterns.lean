import FindQuery.Proofs.OperatorKeys
import FindQuery.Proofs.RuleOrder

namespace FindQuery

namespace Pattern

/-- A character that the body of a pattern may have. -/
def IsBodyChar (c : Char) : Prop :=
  Text.isWord c = true ∨ Text.isBlank c = true ∨ c ∈ ['@', '.', '-', '}']

instance (c : Char) : Decidable (IsBodyChar c) := inferInstanceAs (Decidable (_ ∨ _ ∨ _))

/-- A body without anchor, after a leading one or before a trailing one. -/
inductive IsAnchored : Text → Prop
  | free {body : Text} (h : ∀ c ∈ body, IsBodyChar c) : IsAnchored body
  | leading {body : Text} (h : ∀ c ∈ body, IsBodyChar c) : IsAnchored ('^' :: body)
  | trailing {body : Text} (h : ∀ c ∈ body, IsBodyChar c) : IsAnchored (body ++ ['$'])

theorem isPatternChar_iff {c : Char} : isPatternChar c = true ↔ IsBodyChar c := by
  simp only [isPatternChar, IsBodyChar, Bool.or_eq_true, decide_eq_true_eq, or_assoc, List.mem_cons,
    List.not_mem_nil, or_false]

theorem clean_eq_filter (t : Text) : clean t = t.filter (IsBodyChar ·) := by
  apply List.filter_congr
  intro c _
  rw [Bool.eq_iff_iff, isPatternChar_iff, decide_eq_true_eq]

theorem isBodyChar_of_mem_clean {t : Text} {c : Char} (h : c ∈ clean t) : IsBodyChar c :=
  isPatternChar_iff.1 (List.mem_filter.1 h).2

theorem anchored_isAnchored (t : Text) : IsAnchored (anchored t) := by
  have hbody : ∀ c ∈ clean t, IsBodyChar c := fun _ => isBodyChar_of_mem_clean
  simp only [anchored]
  split
  · split
    · exact .free hbody
    · exact .leading hbody
  · split
    · exact .trailing hbody
    · exact .free hbody

theorem anchored_eq (t : Text) :
    anchored t = (if t.head? = some '*' ∧ t.getLast? ≠ some '*' then ['^'] else []) ++
      t.filter (IsBodyChar ·) ++
        if t.getLast? = some '*' ∧ t.head? ≠ some '*' then ['$'] else [] := by
  simp only [anchored, clean_eq_filter]
  by_cases hhead : t.head? = some '*' <;> by_cases hlast : t.getLast? = some '*' <;>
    simp [hhead, hlast]

/-- `Writes t u`: the text `t` writes a pattern, and `u` is `t` after one tag, if it has one. -/
inductive Writes : Text → Text → Prop
  | tagged (u : Text) : Writes (Tag.marker Tag.regex ++ u) u
  | untagged {t : Text} (hstar : '*' ∈ t) (htag : ∀ u, t ≠ Tag.marker Tag.regex ++ u) :
      Writes t t

theorem exists_writes {t : Text} (h : '*' ∈ t ∨ Tag.marker Tag.regex <+: t) :
    ∃ u, Writes t u := by
  by_cases htag : Tag.marker Tag.regex <+: t
  · obtain ⟨u, rfl⟩ := htag
    exact ⟨u, .tagged u⟩
  · exact ⟨t, .untagged (h.resolve_right htag) fun u hu => htag ⟨u, hu.symm⟩⟩

theorem Writes.read?_text {t u : Text} (h : Writes t u) :
    Rule.text.read? t = some (.pattern u) := by
  cases h with
  | tagged =>
    rw [Rule.read?, if_pos (isMarked_iff.2 (.inr ⟨u, rfl⟩)), unmarked_marker]
  | untagged hstar htag =>
    rw [Rule.read?, if_pos (isMarked_iff.2 (.inl hstar)), unmarked_of_no_tag htag]

theorem Writes.eq_of_tagged {u w : Text} (h : Writes (Tag.marker Tag.regex ++ u) w) : w = u := by
  generalize ht : Tag.marker Tag.regex ++ u = t at h
  cases h with
  | tagged => exact (List.append_cancel_left ht).symm
  | untagged _ htag => exact absurd ht.symm (htag u)

end Pattern

/-- All search patterns inside a value are texts with a safe body and at most one anchor. -/
def Value.HasSafePatterns (v : Value) : Prop :=
  v.AllEntries fun _ e => e.1 = "$regex".toList → ∃ p, e.2 = .str p ∧ Pattern.IsAnchored p

namespace Filter

/-- The builders write no search pattern but the anchored ones. -/
theorem entryLaw_patterns (lenientKeys : Bool) : EntryLaw lenientKeys fun _ e =>
    e.1 = "$regex".toList → ∃ p, e.2 = .str p ∧ Pattern.IsAnchored p where
  operator tag htag _ v hregex := by
    have htags : ∀ x ∈ operandTags, Tag.operator x ≠ "$regex".toList := by decide
    exact absurd hregex (htags tag htag)
  pattern _ t _ := ⟨_, rfl, Pattern.anchored_isAnchored t⟩
  options _ v hregex := by
    have hoptions : Tag.operator "options".toList ≠ "$regex".toList := by decide
    exact absurd hregex hoptions
  field e he hregex := by
    have hdollar : '$' ∈ e.1 := hregex ▸ .head _
    exact absurd hdollar he.isField.noOperator

end Filter

open FindQuery.Filter in
/-- Text without double quotes and percent signs brings no search pattern into a filter but safe
ones. A token that is read as a pattern keeps the safe characters of what it writes, and is tied to
the beginning or to the end if it has an asterisk at that side alone. -/
theorem search_patterns_are_safe (o : FilterOptions) (depth : Int) :
    (∀ token node, '"' ∉ token → '%' ∉ token →
      (tokenNode o token depth).outcome = .ok (some node) → node.HasSafePatterns) ∧
    (∀ fields tree, (∀ e ∈ fields, e.2.IsTextual fun t => '"' ∉ t ∧ '%' ∉ t) →
      (compile o fields depth).outcome = .ok tree → (Value.map tree).HasSafePatterns) ∧
    (o.rules = Rule.table → depth ≤ o.maxDepth → ∀ token, Rule.matching token = [.text] →
      '*' ∈ token ∨ Tag.marker Tag.regex <+: token →
      ∃ u, Pattern.Writes token u ∧
        tokenNode o token depth = pure (some (.map
          [("$regex".toList,
            .str ((if u.head? = some '*' ∧ u.getLast? ≠ some '*' then ['^'] else []) ++
              u.filter (Pattern.IsBodyChar ·) ++
                if u.getLast? = some '*' ∧ u.head? ≠ some '*' then ['$'] else [])),
            ("$options".toList, .str ['i'])]))) := by
  have hlaw := entryLaw_patterns o.lenientKeys
  refine ⟨?_, ?_, ?_⟩
  · intro token node hquote hpercent hnode
    exact (tokenNode_allEntries hlaw depth ⟨hquote, hpercent⟩).value _ hnode node rfl
  · intro fields tree hfields htree
    have hentries := (compile_allEntries hlaw depth hfields).value tree htree
    apply Value.allEntries_map
    · intro key e he hregex
      have hdollar : '$' ∈ e.1 := hregex ▸ .head _
      exact absurd hdollar (hentries e he).1.isField.noOperator
    · exact fun e he => (hentries e he).2 _
  · intro hrules hdepth token hmatching hmarked
    obtain ⟨u, hu⟩ := Pattern.exists_writes hmarked
    have hne : token ≠ [] := by
      rintro rfl
      exact absurd hmarked (by decide)
    refine ⟨u, hu, ?_⟩
    rw [tokenNode_of_matching hrules hu.read?_text hdepth hmatching hne, ← Pattern.anchored_eq]
    rfl

theorem search_patterns_are_safe_nested :
    (∃ node, (Filter.tokenNode {} "{elemMatch}a={not}*b(c#d=x*|y".toList 0).outcome =
        .ok (some node) ∧ node.HasSafePatterns) ∧
    (∃ tree, (Filter.compile {} [("a".toList, .list [.null, .str "{not}*.^b*".toList])] 0).outcome =
        .ok tree ∧ (Value.map tree).HasSafePatterns) ∧
    Filter.tokenNode {} (Tag.marker Tag.regex ++ "*a$b".toList) 0 = pure (some (.map
      [("$regex".toList, .str "^ab".toList), ("$options".toList, .str ['i'])])) := by
  have hnode := Journal.outcome_of_toOption
    (x := Filter.tokenNode {} "{elemMatch}a={not}*b(c#d=x*|y".toList 0)
    (a := some (.map [("$elemMatch".toList, .map [
      ("a".toList, .map [("$not".toList, .map
        [("$regex".toList, .str "^bc".toList), ("$options".toList, .str ['i'])])]),
      ("d".toList, .map [("$regex".toList, .str "xy".toList), ("$options".toList, .str ['i'])])])]))
    (by decide +kernel)
  have htree := Journal.outcome_of_toOption
    (x := Filter.compile {} [("a".toList, .list [.null, .str "{not}*.^b*".toList])] 0)
    (a := [("a".toList, .map [("$not".toList, .map
      [("$regex".toList, .str ".b".toList), ("$options".toList, .str ['i'])])])])
    (by decide +kernel)
  have hvalue : (Value.list [.null, .str "{not}*.^b*".toList]).IsTextual
      fun t => '"' ∉ t ∧ '%' ∉ t :=
    List.forall_mem_cons.2
      ⟨.inl rfl, List.forall_mem_singleton.2 (.inr ⟨_, rfl, by decide, by decide⟩)⟩
  obtain ⟨htoken, hcompile, hpattern⟩ := search_patterns_are_safe {} 0
  obtain ⟨u, hu, htext⟩ := hpattern rfl (by decide) (Tag.marker Tag.regex ++ "*a$b".toList)
    (by decide +kernel) (by decide)
  cases hu.eq_of_tagged
  exact ⟨⟨_, hnode, htoken _ _ (by decide) (by decide) hnode⟩,
    ⟨_, htree, hcompile _ _ (List.forall_mem_singleton.2 hvalue) htree⟩, htext⟩

end FindQuery

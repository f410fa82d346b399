import FindQuery.Proofs.BraceGroups
import FindQuery.Proofs.ElementQueries
import FindQuery.Proofs.Endings

namespace FindQuery

namespace Json

variable {t : Text} {v : Value}

theorem kind_of_readValue? {n : Nat} {s r : Text} (h : readValue? n ('[' :: s) = some (v, r)) :
    v.kind = .list := by
  cases n with
  | zero => cases h
  | succ n =>
    simp only [readValue?] at h
    split at h
    · cases h
      rfl
    · obtain ⟨_, -, he⟩ := Option.map_eq_some_iff.1 h
      cases he
      rfl

theorem kind_of_readContainer? {s : Text} (hs : skipSpace t = '[' :: s)
    (h : readContainer? t = some v) : v.kind = .list := by
  obtain ⟨hread, -⟩ := read?_of_readContainer? h
  unfold read? at hread
  rw [hs] at hread
  split at hread
  · next w r hw =>
    have hlist := kind_of_readValue? hw
    split at hread
    · cases hread
      exact hlist
    · cases hread
  · cases hread

/-- The opening brace of an object opens no tag. -/
theorem not_isCut_of_map (h : readContainer? t = some v) (hkind : v.kind = .map) :
    ¬ Groups.IsCut t := by
  rcases readContainer?_opens h with ⟨s, hs⟩ | ⟨s, hs, hopen⟩
  · rw [kind_of_readContainer? hs h] at hkind
    cases hkind
  · intro hcut
    -- a member name or a closing brace follows, and neither starts with a word character
    have hsuffix : '{' :: s <:+ t := hs ▸ List.dropWhile_suffix isSpace
    obtain ⟨c, r, he, hc⟩ := Rule.opens_of_startsWithTag (hcut.2 s hsuffix) []
    rw [List.append_nil] at he
    cases he
    rcases hopen with ⟨u, hu⟩ | ⟨u, hu, -⟩
    · exact skipSpace_ne_of_word hc (by decide) _ _ hu
    · exact skipSpace_ne_of_word hc (by decide) _ _ hu

end Json

namespace Shape

variable {t : Text} {v : Value}

theorem ofToken?_container (hv : Json.readContainer? t = some v) :
    ofToken? Rule.table t = some (.container v) := by
  rw [ofToken?, Rule.table, List.findSome?_cons, Rule.read?, hv]
  rfl

theorem ofToken?_comparison {tag : Text} (htag : tag ∈ Tag.comparison)
    (hv : Json.readContainer? t = some v) :
    ofToken? Rule.table (Tag.marker tag ++ t) =
      some (if Groups.IsCut t then .conjunction (Groups.cut tag t) else .comparison tag t) := by
  have hothers : ∀ r ∈ [Rule.elemMatch, .logical], ∀ tag ∈ Tag.comparison, tag ∉ r.tags := by decide
  have hbars : ∀ tag ∈ Tag.comparison, '|' ∉ Tag.marker tag := by decide
  have hrule : Rule.comparison ∈ Rule.tagged := by decide
  obtain ⟨hne, hword⟩ := Rule.isWord_of_mem_tags hrule htag
  have hread := Tag.read?_marker (by decide) htag t
  rw [ofToken?_marker hne hword (fun r hr => hothers r hr tag htag)
    (Rule.not_or_of_container (hbars tag htag) hv)]
  simp only [ofToken?, List.findSome?_cons, Rule.read?, hread, Groups.read?_marker hne hword]
  by_cases hcut : Groups.IsCut t
  · rw [if_pos hcut, if_pos hcut]
    rfl
  · rw [if_neg hcut, if_neg hcut]
    rfl

end Shape

/-- A container after the tag of a comparison is its operand, whole and unchanged, unless it is cut,
which objects never are. If it is cut, its pieces are compiled one by one, at the next depth, and
merged. -/
theorem container_operand_is_kept_unless_cut (o : FilterOptions) (hrules : o.rules = Rule.table)
    (tag : Text) (htag : tag ∈ Tag.comparison) (operand : Text) (v : Value)
    (hv : Json.readContainer? operand = some v) (depth : Int) (hdepth : depth < o.maxDepth) :
    (¬ Groups.IsCut operand → Filter.tokenNode o (Tag.marker tag ++ operand) depth =
      pure (some (Filter.operatorNode tag v))) ∧
    (v.kind = .map → ¬ Groups.IsCut operand) ∧
    (Groups.IsCut operand → Filter.tokenNode o (Tag.marker tag ++ operand) depth = do
      let nodes ← Journal.collect (Filter.tokenNode o · (depth + 1)) (Groups.cut tag operand)
      let maps := nodes.filterMap Value.entries?
      if maps.isEmpty then Filter.reject o (Tag.marker tag ++ operand) .noOperators
      else return some (.map (Filter.mergeNodes maps))) := by
  have hne : operand ≠ [] := by
    rintro rfl
    cases hv
  have hshape := Shape.ofToken?_comparison htag hv
  have hoperand := Shape.ofToken?_container hv
  rw [← hrules] at hshape hoperand
  have htoken := Filter.tokenNode_of_shape (Int.le_of_lt hdepth)
    (Tag.marker_append_ne_nil tag operand) hshape
  have hinner := Filter.tokenNode_of_shape (Int.add_one_le_of_lt hdepth) hne hoperand
  constructor
  · intro hcut
    rw [htoken, if_neg hcut, Filter.compileShape, if_neg hne, Filter.compileOperand, hinner]
    rfl
  · constructor
    · exact Json.not_isCut_of_map hv
    · intro hcut
      rw [htoken, if_pos hcut]
      rfl

theorem container_operand_is_kept_unless_cut_braces :
    Filter.tokenNode {} "{in}[\"\x7ba\", \x7b\"{lt}\": 5\x7d]".toList 0 =
      pure (some (Filter.operatorNode "in".toList
        (.list [.str ['{', 'a'], .map [(Tag.marker "lt".toList, .int 5)]]))) := by
  have hoperand : Json.readContainer? "[\"\x7ba\", \x7b\"{lt}\": 5\x7d]".toList =
      some (.list [.str ['{', 'a'], .map [(Tag.marker "lt".toList, .int 5)]]) := by
    decide +kernel
  obtain ⟨hkept, -⟩ := container_operand_is_kept_unless_cut {} rfl "in".toList (by decide) _ _
    hoperand 0 (by decide)
  exact hkept (by decide +kernel)

/-- A tag in a string of an array becomes an operator of the node, and the array a text. -/
theorem container_operand_cut_in_string :
    Json.readContainer? "[\"{lt}5\"]".toList = some (.list [.str "{lt}5".toList]) ∧
    (Filter.tokenNode {} "{in}[\"{lt}5\"]".toList 0).outcome =
      .ok (some (.map [(Tag.operator "in".toList, .str "[\"".toList),
        (Tag.operator "lt".toList, .str "5\"]".toList)])) := by
  constructor
  · decide +kernel
  · exact Journal.outcome_of_toOption (by decide +kernel)

end FindQuery

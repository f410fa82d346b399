import FindQuery.Proofs.DepthBound
import FindQuery.Proofs.Repetition
import FindQuery.Proofs.Strictness

namespace FindQuery

/-- A shape that compiles to operators. -/
def Shape.IsOperator : Shape → Prop
  | .elemMatch _ | .logical .. | .alternatives _ | .conjunction _ | .comparison .. | .existence _
  | .fieldType _ | .pattern _ => True
  | .container _ | .date _ | .number _ | .boolean _ | .plain _ => False

namespace FilterOptions

variable {o : FilterOptions} {depth : Int}

theorem levelsAt_le {d : Int} (h : d ≤ depth) : o.levelsAt depth ≤ o.levelsAt d := by
  unfold levelsAt
  omega

theorem levelsAt_succ_of_eq {below : Nat} (h : o.levelsAt depth = below + 1) :
    o.levelsAt (depth + 1) = below := by
  unfold levelsAt at h ⊢
  omega

end FilterOptions

theorem Journal.refusal?_of_mem_untilRefusal {α : Type} {x : Journal α} {r : Record}
    (h : r ∈ x.untilRefusal.records) : r.refusal? = none := by
  cases hx : x.firstRefusal? with
  | some refusal =>
    rw [untilRefusal_of_some hx] at h
    have hall : (x.records.takeWhile (·.refusal?.isNone)).all (·.refusal?.isNone) :=
      List.all_takeWhile
    exact Option.isNone_iff_eq_none.1 (List.all_eq_true.1 hall r h)
  | none =>
    rw [untilRefusal_of_none hx] at h
    exact Option.isNone_iff_eq_none.1 (firstRefusal?_eq_none.1 hx r h)

namespace Rule

/-- All tags that mean something at the start of a token. -/
def vocabulary : List Text := Tag.regex :: tagged.flatMap tags

theorem accepts_marker {rule : Rule} (hrule : rule ∈ tagged) {tag : Text} (htag : tag ∈ rule.tags)
    (body : Text) : rule.accepts (Tag.marker tag ++ body) = true := by
  have hclosed : ∀ x ∈ rule.tags, '}' ∉ x :=
    fun x hx => close_not_mem (isWord_of_mem_tags hrule hx).2
  have hread := Tag.read?_marker hclosed htag body
  cases rule with
  | elemMatch | logical | comparison | element =>
    rw [accepts, read?, Option.isSome_map]
    exact Option.isSome_iff_exists.2 ⟨_, hread⟩
  | json | or | and | date | number | boolean | text => exact absurd hrule (by decide)

theorem isOperator_of_opens {rule : Rule} {t : Text} {shape : Shape} (ht : Opens t)
    (hrule : rule ≠ .text) (h : rule.read? t = some shape) : shape.IsOperator := by
  have haccepts := accepts_of_read? h
  cases rule with
  | json => exact absurd haccepts (not_json_of_opens ht)
  | date | number | boolean => exact absurd haccepts (not_atom_of_opens ht (by decide))
  | text => exact absurd rfl hrule
  | element =>
    obtain ⟨tagged, -, rfl⟩ := Option.map_eq_some_iff.1 h
    unfold elementShape
    split <;> trivial
  | elemMatch | logical | or | and | comparison =>
    obtain ⟨_, -, rfl⟩ := Option.map_eq_some_iff.1 h
    trivial

end Rule

namespace Groups

/-- Whether a group stands for its own text: its tag is in no list of tags, and it is neither a
search pattern nor several alternatives. -/
def isLiteral (p : Text) : Bool :=
  match Tag.split? p with
  | some (tag, body) => tag ∉ Rule.vocabulary && '*' ∉ body && !Alternatives.accepts p
  | none => false

theorem isLiteral_marker {tag : Text} (h : '}' ∉ tag) (body : Text) :
    isLiteral (Tag.marker tag ++ body) = true ↔
      tag ∉ Rule.vocabulary ∧ '*' ∉ body ∧ ¬ Rule.or.accepts (Tag.marker tag ++ body) = true := by
  have hsplit : Tag.split? (Tag.marker tag ++ body) = some (tag, body) := by
    rw [Tag.split?, Tag.cut_marker h]
    rfl
  simp only [isLiteral, hsplit, Rule.accepts_or, Bool.and_eq_true, decide_eq_true_eq, Bool.not_eq_true',
    Bool.not_eq_true, and_assoc]

theorem isMarked_marker {tag : Text} (hword : ∀ c ∈ tag, Text.isWord c = true) (body : Text) :
    Pattern.isMarked (Tag.marker tag ++ body) = true ↔ '*' ∈ body ∨ tag = Tag.regex := by
  have hstar : '*' ∈ Tag.marker tag ++ body ↔ '*' ∈ body := by
    rw [List.mem_append, or_iff_right]
    intro h
    rcases Tag.mem_marker h with h | h | h
    · cases h
    · exact absurd (hword '*' h) (by decide)
    · cases h
  have hregex : (∃ u, Tag.marker tag ++ body = Tag.marker Tag.regex ++ u) ↔ tag = Tag.regex := by
    constructor
    · rintro ⟨r, hr⟩
      have hcut := Tag.cut_marker (Rule.close_not_mem hword) body
      rw [hr, Tag.cut_marker (by decide)] at hcut
      exact (List.cons.inj (Prod.ext_iff.1 hcut).1).2.symm
    · rintro rfl
      exact ⟨body, rfl⟩
  rw [Pattern.isMarked_iff, hstar, hregex]

end Groups

/-- A group stands for its own text exactly if the last rule is the only one that reads it, and
reads it as plain text. -/
theorem Groups.isLiteral_iff {p : Text} (h : IsGroup p) :
    isLiteral p = true ↔
      (∀ r ∈ Rule.table.dropLast, ¬ r.accepts p = true) ∧ ¬ Pattern.isMarked p = true := by
  obtain ⟨tag, body, rfl, hne, hword, hbrace⟩ := h
  have hclosed := Rule.close_not_mem hword
  have hopens := Rule.opens_marker hne hword body
  have hand : ¬ Rule.and.accepts (Tag.marker tag ++ body) = true := by
    have hcut : ¬ IsCut body := fun h => hbrace h.1
    rw [Rule.accepts, Rule.read?, read?_marker hne hword, if_neg hcut]
    decide
  have hknown (r : Rule) (hr : r ∈ Rule.tagged) :
      r.accepts (Tag.marker tag ++ body) = true ↔ tag ∈ r.tags :=
    ⟨Rule.mem_tags hr hclosed, fun htag => Rule.accepts_marker hr htag body⟩
  have hkinds : ∀ r ∈ Rule.table.dropLast,
      r ∈ Rule.tagged ∨ r = .or ∨ r = .and ∨ r = .json ∨ r ∈ Rule.atoms := by
    decide
  have htagged : ∀ r ∈ Rule.tagged, r ∈ Rule.table.dropLast := by decide
  rw [isLiteral_marker hclosed, isMarked_marker hword, Rule.vocabulary]
  constructor
  · rintro ⟨hunknown, hstar, hor⟩
    rw [List.mem_cons, not_or] at hunknown
    refine ⟨fun r hr haccepts => ?_, not_or.2 ⟨hstar, hunknown.1⟩⟩
    rcases hkinds r hr with hr | rfl | rfl | rfl | hr
    · exact hunknown.2 (List.mem_flatMap.2 ⟨r, hr, (hknown r hr).1 haccepts⟩)
    · exact hor haccepts
    · exact hand haccepts
    · exact Rule.not_json_of_opens hopens haccepts
    · exact Rule.not_atom_of_opens hopens hr haccepts
  · rintro ⟨hnone, hplain⟩
    rw [not_or] at hplain
    refine ⟨fun hmem => ?_, hplain.1, hnone .or (by decide)⟩
    rcases List.mem_cons.1 hmem with hregex | hmem
    · exact hplain.2 hregex
    · obtain ⟨r, hr, htag⟩ := List.mem_flatMap.1 hmem
      exact hnone r (htagged r hr) ((hknown r hr).2 htag)

namespace Shape

variable {p : Text}

theorem ofToken?_table (p : Text) :
    ofToken? Rule.table p = (ofToken? Rule.table.dropLast p).or (Rule.text.read? p) := by
  have htext : ofToken? [.text] p = Rule.text.read? p := List.findSome?_singleton
  have htable : Rule.table = Rule.table.dropLast ++ [.text] := rfl
  calc ofToken? Rule.table p
    _ = ofToken? (Rule.table.dropLast ++ [.text]) p := congrArg (ofToken? · p) htable
    _ = (ofToken? Rule.table.dropLast p).or (Rule.text.read? p) := by rw [ofToken?_append, htext]

theorem ofToken?_literal (h : Groups.IsGroup p) (hl : Groups.isLiteral p = true) :
    ofToken? Rule.table p = some (.plain p) := by
  obtain ⟨hnone, hplain⟩ := (Groups.isLiteral_iff h).1 hl
  have hinit : ofToken? Rule.table.dropLast p = none :=
    List.findSome?_eq_none_iff.2 fun r hr => Option.not_isSome_iff_eq_none.1 (hnone r hr)
  rw [ofToken?_table, hinit, Option.none_or, Rule.read?, if_neg hplain]

theorem ofToken?_operator (h : Groups.IsGroup p) (hl : ¬ Groups.isLiteral p = true) :
    ∃ shape, ofToken? Rule.table p = some shape ∧ shape.IsOperator := by
  rw [ofToken?_table]
  cases hinit : ofToken? Rule.table.dropLast p with
  | some shape =>
    obtain ⟨tag, body, rfl, hne, hword, -⟩ := h
    obtain ⟨rule, hrule, hread⟩ := List.exists_of_findSome?_eq_some hinit
    have htext : ∀ r ∈ Rule.table.dropLast, r ≠ .text := by decide
    exact ⟨shape, rfl, Rule.isOperator_of_opens (Rule.opens_marker hne hword body)
      (htext rule hrule) hread⟩
  | none =>
    have hnone : ∀ r ∈ Rule.table.dropLast, ¬ r.accepts p = true :=
      fun r hr => Option.not_isSome_iff_eq_none.2 (List.findSome?_eq_none_iff.1 hinit r hr)
    have hmarked : Pattern.isMarked p = true :=
      Decidable.of_not_not fun hm => hl ((Groups.isLiteral_iff h).2 ⟨hnone, hm⟩)
    have hpattern : Rule.text.read? p = some (.pattern (Pattern.unmarked p)) := by
      rw [Rule.read?, if_pos hmarked]
    exact ⟨_, hpattern, trivial⟩

end Shape

namespace Filter

variable {o : FilterOptions} {inner : Text → Journal (Option Value)} {token : Text}

theorem compileOperand_isMapNode (tag operand : Text) :
    (compileOperand o inner token tag operand).Ends (IsMapNode o) fun _ => True := by
  refine (Journal.ends_true _).bind fun node _ => ?_
  cases node with
  | some v => exact Journal.ends_pure (isMapNode_operatorNode tag v)
  | none => exact reject_isMapNode _

theorem compileShape_isMapNode {shape : Shape} (h : shape.IsOperator) :
    (compileShape o inner token shape).Ends (IsMapNode o) fun _ => True := by
  cases shape with
  | elemMatch body =>
    simp only [compileShape]
    split
    · exact reject_isMapNode _
    · exact (Journal.ends_true _).bind fun _ _ => Journal.ends_pure (isMapNode_operatorNode _ _)
  | logical tag operand => exact compileOperand_isMapNode tag operand
  | alternatives segments =>
    refine (Journal.ends_true _).bind fun nodes _ => ?_
    split
    · exact reject_isMapNode _
    · exact Journal.ends_pure (isMapNode_operatorNode _ _)
  | conjunction parts =>
    refine (Journal.ends_true _).bind fun nodes _ => ?_
    simp only
    split
    · exact reject_isMapNode _
    · exact Journal.ends_pure (isMapNode_some (nodup_keys_mergeNodes _))
  | comparison tag operand =>
    simp only [compileShape]
    split
    · exact reject_isMapNode _
    · exact compileOperand_isMapNode tag operand
  | existence answer =>
    simp only [compileShape]
    split
    · exact Journal.ends_pure (isMapNode_operatorNode _ _)
    · exact reject_isMapNode _
  | fieldType name =>
    simp only [compileShape]
    split
    · exact Journal.ends_pure (isMapNode_operatorNode _ _)
    · exact reject_isMapNode _
  | pattern t => exact Journal.ends_pure (isMapNode_patternNode t)
  | container | date | number | boolean | plain => exact h.elim

theorem fault_of_node {levels : Nat} {token : Text} {e : Fault}
    (h : (nodeAt o levels token).outcome = .error e) :
    (∃ t reason, e = .rejected t reason) ∨
      ∃ count, e = .tooManyDigits count ∧ Numeral.maxIntegerDigits < count := by
  have hT : Text.Inherited fun _ => True := ⟨fun _ _ => trivial, fun _ => trivial, fun _ => trivial⟩
  have hclosed : Closed o.lenientKeys (fun _ => True) (fun _ => True) fun _ => True := by
    constructor <;> intros <;> trivial
  have hends : (nodeAt o levels token).Ends (fun node => ∀ v ∈ node, True) fun e =>
      (∃ t reason, e = .rejected t reason) ∨
        ∃ count, e = .tooManyDigits count ∧ Numeral.maxIntegerDigits < count := by
    refine nodeAt_ends (P := fun _ _ => True) hT (fun _ => hclosed) ?_ ?_ levels trivial
    · exact fun _ t reason => .inl ⟨t, reason, rfl⟩
    · exact fun _ n count _ _ hcount => .inr ⟨count, rfl, (Numeral.lt_of_toInt?_error hcount).1⟩
  exact hends.fault e h

section

variable {o : FilterOptions} (hstrict : o.strict = true)

include hstrict

/-- More levels make no difference to a strict run that gives a node. -/
theorem nodeAt_of_strict {levels levels' : Nat} (h : levels ≤ levels') {token : Text}
    {node : Option Value} (hok : (nodeAt o levels token).outcome = .ok node) :
    nodeAt o levels' token = nodeAt o levels token := by
  have hsame : o = { o with strict := true } := by rw [← hstrict]
  refine ((nodeAt_refuses_or_eq h token).resolve_left ?_).symm
  rintro ⟨t, hnoted | hended⟩
  · rw [hsame, ← untilRefusal_nodeAt] at hnoted
    cases Journal.refusal?_of_mem_untilRefusal hnoted
  · rw [hok] at hended
    cases hended

theorem exists_shape_of_strict {levels : Nat} {p : Text} {node : Option Value} {shape : Shape}
    (hrules : o.rules = Rule.table) (hp : p ≠ [])
    (hshape : Shape.ofToken? Rule.table p = some shape)
    (hok : (nodeAt o levels p).outcome = .ok node) :
    ∃ below, levels = below + 1 ∧ (compileShape o (nodeAt o below) p shape).outcome = .ok node := by
  cases levels with
  | zero =>
    obtain ⟨c, r, rfl⟩ := List.exists_cons_of_ne_nil hp
    have hreject : nodeAt o 0 (c :: r) = Journal.fault (.rejected (c :: r) .maxDepth) :=
      if_pos hstrict
    rw [hreject] at hok
    cases hok
  | succ levels =>
    rw [← hrules] at hshape
    rw [nodeAt_of_shape hp hshape] at hok
    exact ⟨levels, rfl, hok⟩

/-- A group compiles to its own text, or to a map of operators. -/
theorem node_of_group {levels : Nat} {p : Text} {node : Option Value}
    (hrules : o.rules = Rule.table) (hp : Groups.IsGroup p)
    (hok : (nodeAt o levels p).outcome = .ok node) :
    (Groups.isLiteral p = true ∧ node = some (.str p)) ∨
    (Groups.isLiteral p = false ∧ ∃ fs : Fields Value, node = some (.map fs) ∧ fs.keys.Nodup) := by
  by_cases hl : Groups.isLiteral p = true
  · have hshape := Shape.ofToken?_literal hp hl
    obtain ⟨_, -, h⟩ := exists_shape_of_strict hstrict hrules hp.ne_nil hshape hok
    cases h
    exact .inl ⟨hl, rfl⟩
  · obtain ⟨shape, hshape, hoperator⟩ := Shape.ofToken?_operator hp hl
    obtain ⟨_, -, h⟩ := exists_shape_of_strict hstrict hrules hp.ne_nil hshape hok
    obtain ⟨hnone, hmap⟩ := (compileShape_isMapNode hoperator).value node h
    cases node with
    | none =>
      rw [hnone rfl] at hstrict
      cases hstrict
    | some v =>
      obtain ⟨fs, rfl, hfs⟩ := hmap v rfl
      exact .inr ⟨Bool.eq_false_iff.2 hl, fs, rfl, hfs⟩

theorem maps_of_groups {levels : Nat} {parts : List Text} {results : List (Option Value)}
    (hrules : o.rules = Rule.table) (hparts : ∀ p ∈ parts, Groups.IsGroup p)
    (h : List.Forall₂ (fun p node => (nodeAt o levels p).outcome = .ok node) parts results) :
    List.Forall₂ (fun p fs => (nodeAt o levels p).outcome = .ok (some (.map fs)))
      (parts.filter (!Groups.isLiteral ·)) (results.reduceOption.filterMap Value.entries?) ∧
    ∀ fs ∈ results.reduceOption.filterMap Value.entries?, (Fields.keys fs).Nodup := by
  induction h with
  | nil => exact ⟨.nil, nofun⟩
  | @cons p node parts results hp _ ih =>
    obtain ⟨hmaps, hkeys⟩ := ih fun q hq => hparts q (.tail _ hq)
    rcases node_of_group hstrict hrules (hparts p (.head _)) hp with ⟨hl, rfl⟩ | ⟨hl, fs, rfl, hfs⟩
    · rw [List.filter_cons_of_neg (by rw [hl]; decide)]
      exact ⟨hmaps, hkeys⟩
    · rw [List.filter_cons_of_pos (by rw [hl]; rfl)]
      exact ⟨.cons hp hmaps, List.forall_mem_cons.2 ⟨hfs, hkeys⟩⟩

/-- The node of several parts is the merge of the maps that the parts compile to. -/
theorem node_of_conjunction {parts : List Text} {node : Option Value} {depth : Int}
    (hrules : o.rules = Rule.table) (hne : token ≠ [])
    (hshape : Shape.ofToken? Rule.table token = some (.conjunction parts))
    (hparts : ∀ p ∈ parts, Groups.IsGroup p)
    (hok : (tokenNode o token depth).outcome = .ok node) :
    (∀ p ∈ parts, ∃ result, (tokenNode o p (depth + 1)).outcome = .ok result) ∧
    ∃ nodes : List (Fields Value),
      List.Forall₂ (fun p fs => (tokenNode o p (depth + 1)).outcome = .ok (some (.map fs)))
        (parts.filter (!Groups.isLiteral ·)) nodes ∧
      (∀ fs ∈ nodes, fs.keys.Nodup) ∧ node = some (.map (mergeNodes nodes)) := by
  obtain ⟨below, hlevels, hok⟩ := exists_shape_of_strict hstrict hrules hne hshape hok
  rw [← FilterOptions.levelsAt_succ_of_eq hlevels, compileShape, Journal.outcome_bind_eq_ok] at hok
  obtain ⟨values, hvalues, hok⟩ := hok
  refine ⟨Journal.exists_of_outcome_collect hvalues, ?_⟩
  obtain ⟨results, hresults, rfl⟩ := Journal.outcome_collect_eq_ok.1 hvalues
  obtain ⟨hmaps, hkeys⟩ := maps_of_groups hstrict hrules hparts hresults
  refine ⟨_, hmaps, hkeys, ?_⟩
  simp only at hok
  split at hok
  · rw [reject, if_pos hstrict] at hok
    cases hok
  · cases hok
    rfl

end

section

variable {o : FilterOptions} (hrules : o.rules = Rule.table)

include hrules

theorem nodeAt_of_literal {levels : Nat} {p : Text} (hp : Groups.IsGroup p)
    (hl : Groups.isLiteral p = true) : nodeAt o (levels + 1) p = pure (some (.str p)) := by
  have hshape := Shape.ofToken?_literal hp hl
  rw [← hrules] at hshape
  rw [nodeAt_of_shape hp.ne_nil hshape]
  rfl

theorem collect_of_literals {levels : Nat} {parts : List Text}
    (hparts : ∀ p ∈ parts, Groups.IsGroup p) (hl : ∀ p ∈ parts, Groups.isLiteral p = true) :
    Journal.collect (nodeAt o (levels + 1)) parts = pure (parts.map .str) := by
  induction parts with
  | nil => rfl
  | cons p parts ih =>
    rw [Journal.collect, nodeAt_of_literal hrules (hparts p (.head _)) (hl p (.head _)),
      ih (fun q hq => hparts q (.tail _ hq)) fun q hq => hl q (.tail _ hq)]
    rfl

theorem conjunction_of_literals {levels : Nat} {token : Text} {parts : List Text}
    (hparts : ∀ p ∈ parts, Groups.IsGroup p) (hl : ∀ p ∈ parts, Groups.isLiteral p = true) :
    compileShape o (nodeAt o (levels + 1)) token (.conjunction parts) =
      reject o token .noOperators := by
  have hmaps : (parts.map Value.str).filterMap Value.entries? = [] := by
    rw [List.filterMap_map, List.filterMap_eq_nil_iff]
    exact fun _ _ => rfl
  rw [compileShape, collect_of_literals hrules hparts hl, pure_bind]
  simp only [hmaps, List.isEmpty_nil, ↓reduceIte]

end

end Filter

theorem Shape.ofToken?_conjunction {token : Text} {parts : List Text}
    (hread : Groups.read? token = some parts)
    (hfirst : ∀ r ∈ [Rule.json, .elemMatch, .logical, .or], r.accepts token = false) :
    ofToken? Rule.table token = some (.conjunction parts) := by
  have hinit : ofToken? [Rule.json, .elemMatch, .logical, .or] token = none :=
    List.findSome?_eq_none_iff.2 fun r hr =>
      Option.not_isSome_iff_eq_none.1 (Bool.eq_false_iff.1 (hfirst r hr))
  rw [show Rule.table = [.json, .elemMatch, .logical, .or] ++ .and :: Rule.table.drop 5 from rfl,
    ofToken?_append, hinit, Option.none_or, ofToken?, List.findSome?_cons, Rule.read?, hread]
  rfl

/-- Strict compilation of several conditions in one token leaves out the groups that stand for their
own text, and no others. Every other group compiles to a map, alone as in the token; the node has
the names of all these maps, and of each the last value. A group that faults makes the token fault,
and so do groups of which none compiles to a map. -/
theorem strict_conjunction_leaves_out_literal_groups (o : FilterOptions)
    (hrules : o.rules = Rule.table) (hstrict : o.strict = true) (token : Text)
    (hand : Rule.and.accepts token = true)
    (hfirst : ∀ r ∈ [Rule.json, .elemMatch, .logical, .or], r.accepts token = false)
    (depth : Int) :
    (∀ node, (Filter.tokenNode o token depth).outcome = .ok node →
      ∃ nodes : List (Fields Value),
        List.Forall₂ (fun p fs => ∀ d ≤ depth + 1,
            (Filter.tokenNode o p d).outcome = .ok (some (.map fs)))
          ((Groups.split token).filter (!Groups.isLiteral ·)) nodes ∧
        ∃ merged : Fields Value, node = some (.map merged) ∧
          (∀ k, k ∈ merged.keys ↔ ∃ fs ∈ nodes, k ∈ fs.keys) ∧
          ∀ k, merged.find? k = nodes.reverse.findSome? (·.find? k)) ∧
    (∀ p ∈ Groups.split token, ∀ e, (Filter.tokenNode o p (depth + 1)).outcome = .error e →
      ∃ e, (Filter.tokenNode o token depth).outcome = .error e) ∧
    (∀ e, (Filter.tokenNode o token depth).outcome = .error e →
      (∃ t reason, e = .rejected t reason) ∨
        ∃ count, e = .tooManyDigits count ∧ Numeral.maxIntegerDigits < count) ∧
    (∀ p ∈ Groups.split token, Groups.isLiteral p = true → ∀ d ≤ o.maxDepth,
      (Filter.tokenNode o p d).outcome = .ok (some (.str p))) ∧
    (depth < o.maxDepth → (∀ p ∈ Groups.split token, Groups.isLiteral p = true) →
      (Filter.tokenNode o token depth).outcome = .error (.rejected token .noOperators)) := by
  obtain ⟨parts, hread⟩ := Rule.exists_of_isSome_map hand
  have hshape := Shape.ofToken?_conjunction hread hfirst
  obtain ⟨rfl, hne, hparts⟩ := Groups.isGroup_of_read? hread
  have htoken : token ≠ [] := by
    rintro rfl
    exact hne rfl
  have hrun {node : Option Value} (h : (Filter.tokenNode o token depth).outcome = .ok node) :=
    Filter.node_of_conjunction hstrict hrules htoken hshape hparts h
  refine ⟨?_, ?_, fun e => Filter.fault_of_node, ?_, ?_⟩
  · intro node h
    obtain ⟨-, nodes, hnodes, hkeys, rfl⟩ := hrun h
    refine ⟨nodes, hnodes.imp ?_, _, rfl, fun k => Filter.mem_keys_mergeNodes,
      Filter.find?_mergeNodes hkeys⟩
    intro p fs hp d hd
    rw [Filter.tokenNode, Filter.nodeAt_of_strict hstrict (FilterOptions.levelsAt_le hd) hp]
    exact hp
  · intro p hp e he
    cases h : (Filter.tokenNode o token depth).outcome with
    | error e => exact ⟨e, rfl⟩
    | ok node =>
      obtain ⟨result, hok⟩ := (hrun h).1 p hp
      rw [hok] at he
      cases he
  · intro p hp hl d hd
    rw [Filter.tokenNode, FilterOptions.levelsAt_eq_succ hd,
      Filter.nodeAt_of_literal hrules (hparts p hp) hl]
    rfl
  · intro hdepth hl
    have hlevels := FilterOptions.levelsAt_eq_succ (Int.add_one_le_of_lt hdepth)
    rw [← hrules] at hshape
    rw [Filter.tokenNode_of_shape (Int.le_of_lt hdepth) htoken hshape]
    simp only [Filter.tokenNode, hlevels, Filter.conjunction_of_literals hrules hparts hl,
      Filter.reject, if_pos hstrict]
    rfl

theorem strict_conjunction_leaves_out_literal_groups_repeated :
    ∃ nodes : List (Fields Value),
      List.Forall₂ (fun p fs => ∀ d ≤ (1 : Int),
          (Filter.tokenNode { strict := true } p d).outcome = .ok (some (.map fs)))
        ["{gt}5".toList, "{regex}a*".toList, "{gt}9".toList] nodes ∧
      ∀ k, Fields.find? k [("$gt".toList, Value.int 9), ("$regex".toList, .str ['a', '$']),
        ("$options".toList, .str ['i'])] = nodes.reverse.findSome? (·.find? k) := by
  have hnode : (Filter.tokenNode { strict := true } "{gt}5{size}3{regex}a*{gt}9".toList 0).outcome =
      .ok (some (.map [("$gt".toList, .int 9), ("$regex".toList, .str ['a', '$']),
        ("$options".toList, .str ['i'])])) :=
    Journal.outcome_of_toOption (by decide +kernel)
  obtain ⟨hok, -⟩ := strict_conjunction_leaves_out_literal_groups { strict := true } rfl rfl
    "{gt}5{size}3{regex}a*{gt}9".toList (by decide +kernel) (by decide +kernel) 0
  obtain ⟨nodes, hnodes, merged, he, -, hfind⟩ := hok _ hnode
  cases he
  have hgroups : (Groups.split "{gt}5{size}3{regex}a*{gt}9".toList).filter (!Groups.isLiteral ·) =
      ["{gt}5".toList, "{regex}a*".toList, "{gt}9".toList] := by
    decide +kernel
  rw [hgroups] at hnodes
  exact ⟨nodes, hnodes, hfind⟩

/-- A group with an unknown tag is left out without a fault. -/
theorem strict_conjunction_loses_unknown_tag :
    Groups.split "{gt}5{size}3".toList = ["{gt}5".toList, "{size}3".toList] ∧
    Rule.and.accepts "{gt}5{size}3".toList = true ∧
    (∀ r ∈ [Rule.json, .elemMatch, .logical, .or], r.accepts "{gt}5{size}3".toList = false) ∧
    (Filter.tokenNode { strict := true } "{size}3".toList 0).outcome =
      .ok (some (.str "{size}3".toList)) ∧
    (Filter.tokenNode { strict := true } "{gt}5{size}3".toList 0).outcome =
      .ok (some (.map [("$gt".toList, .int 5)])) :=
  ⟨by decide +kernel, by decide +kernel, by decide +kernel,
    Journal.outcome_of_toOption (by decide +kernel),
    Journal.outcome_of_toOption (by decide +kernel)⟩

end FindQuery

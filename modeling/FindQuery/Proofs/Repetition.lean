import FindQuery.Proofs.BraceGroups
import FindQuery.Proofs.FieldByField
import FindQuery.Proofs.NodeInduction

namespace FindQuery

/-- The tags of conditions that stand for themselves. -/
def Condition.tags : List Text := Tag.regex :: (Tag.comparison ++ Tag.element)

/-- A condition on a field: a tag, and a body without opening braces and bars. -/
structure Condition where
  tag : Text
  body : Text
  tag_mem : tag ∈ Condition.tags
  brace_not_mem : '{' ∉ body
  bar_not_mem : '|' ∉ body
  deriving DecidableEq

/-- A map in which no name is repeated. -/
def Value.IsMap (v : Value) : Prop := ∃ fs : Fields Value, v = .map fs ∧ fs.keys.Nodup

theorem Value.IsMap.isSome_entries? {v : Value} (h : v.IsMap) : v.entries?.isSome = true := by
  obtain ⟨fs, rfl, -⟩ := h
  rfl

namespace Condition

def text (c : Condition) : Text := Tag.marker c.tag ++ c.body

def token (cs : List Condition) : Text := (cs.map text).flatten

/-- The shape that the table of rules reads a condition as. -/
def shape (c : Condition) : Shape :=
  if c.tag ∈ Tag.comparison then .comparison c.tag c.body
  else if c.tag ∈ Tag.element then Rule.elementShape (c.tag, c.body)
  else .pattern c.body

theorem tag_isWord (c : Condition) : c.tag ≠ [] ∧ ∀ d ∈ c.tag, Text.isWord d = true := by
  have hwords : ∀ tag ∈ tags, tag ≠ [] ∧ tag.all Text.isWord = true := by decide
  obtain ⟨hne, hall⟩ := hwords c.tag c.tag_mem
  exact ⟨hne, List.all_eq_true.1 hall⟩

theorem text_ne_nil (c : Condition) : c.text ≠ [] := Tag.marker_append_ne_nil c.tag c.body

theorem token_ne_nil (c : Condition) (cs : List Condition) : token (c :: cs) ≠ [] :=
  List.append_ne_nil_of_left_ne_nil c.text_ne_nil _

theorem not_mem_tag (c : Condition) {d : Char} (h : Text.isWord d = false) : d ∉ c.tag := by
  intro hd
  rw [c.tag_isWord.2 d hd] at h
  cases h

theorem bar_not_mem_text (c : Condition) : '|' ∉ c.text := by
  intro h
  rcases List.mem_append.1 h with h | h
  · rcases Tag.mem_marker h with h | h | h
    · cases h
    · exact c.not_mem_tag (by decide) h
    · cases h
  · exact c.bar_not_mem h

theorem bar_not_mem_token (cs : List Condition) : '|' ∉ token cs := by
  intro h
  obtain ⟨t, ht, hbar⟩ := List.mem_flatten.1 h
  obtain ⟨c, -, rfl⟩ := List.mem_map.1 ht
  exact c.bar_not_mem_text hbar

theorem isGroup_text (c : Condition) : Groups.IsGroup c.text :=
  ⟨c.tag, c.body, rfl, c.tag_isWord.1, c.tag_isWord.2, c.brace_not_mem⟩

theorem isGroup_of_mem (cs : List Condition) : ∀ p ∈ cs.map text, Groups.IsGroup p := by
  intro p hp
  obtain ⟨c, -, rfl⟩ := List.mem_map.1 hp
  exact c.isGroup_text

theorem ofToken?_append (c : Condition) {rest : Text} (hrest : '|' ∉ rest) :
    Shape.ofToken? Rule.table (c.text ++ rest) =
      Shape.ofToken? [.and, .comparison, .element, .text] (c.text ++ rest) := by
  have htags : ∀ r ∈ [Rule.elemMatch, .logical], ∀ tag ∈ tags, tag ∉ r.tags := by decide
  have hbar : '|' ∉ c.text ++ rest := by
    rw [List.mem_append, not_or]
    exact ⟨c.bar_not_mem_text, hrest⟩
  rw [text, List.append_assoc] at hbar ⊢
  apply Shape.ofToken?_marker c.tag_isWord.1 c.tag_isWord.2
  · exact fun r hr => htags r hr c.tag c.tag_mem
  · exact fun h => hbar (Rule.mem_of_or h).1

theorem ofToken?_several (c : Condition) {parts : List Text} (hne : parts ≠ [])
    (hparts : ∀ p ∈ parts, Groups.IsGroup p) (hbar : '|' ∉ parts.flatten) :
    Shape.ofToken? Rule.table (c.text ++ parts.flatten) =
      some (.conjunction (c.text :: parts)) := by
  have hread : Groups.read? (c.text ++ parts.flatten) = some (c.text :: parts) := by
    rw [← List.flatten_cons]
    apply Groups.read?_flatten
    · exact List.forall_mem_cons.2 ⟨c.isGroup_text, hparts⟩
    · exact Nat.succ_lt_succ (List.length_pos_iff.2 hne)
  rw [c.ofToken?_append hbar, Shape.ofToken?, List.findSome?_cons, Rule.read?, hread]
  rfl

theorem read?_eq_none (c : Condition) {rule : Rule} (hrule : rule ∈ Rule.tagged)
    (h : c.tag ∉ rule.tags) : rule.read? c.text = none :=
  Rule.read?_eq_none hrule (c.not_mem_tag (by decide)) h c.body

theorem read?_text (c : Condition) (h : c.tag = Tag.regex) :
    Rule.text.read? c.text = some (.pattern c.body) := by
  have hmarked : Pattern.isMarked c.text = true :=
    Pattern.isMarked_iff.2 (.inr ⟨c.body, by rw [text, h]⟩)
  rw [Rule.read?, if_pos hmarked, text, h, Pattern.unmarked_marker]

theorem ofToken?_text (c : Condition) : Shape.ofToken? Rule.table c.text = some c.shape := by
  have hfirst := c.ofToken?_append List.not_mem_nil
  rw [List.append_nil] at hfirst
  have hand : Rule.and.read? c.text = none := by
    have hcut : ¬ Groups.IsCut c.body := fun h => c.brace_not_mem h.1
    rw [Rule.read?, text, Groups.read?_marker c.tag_isWord.1 c.tag_isWord.2, if_neg hcut]
    rfl
  rw [hfirst, shape]
  by_cases hcomparison : c.tag ∈ Tag.comparison
  · have htags : ∀ tag ∈ Tag.comparison, '}' ∉ tag := by decide
    have hread : Rule.comparison.read? c.text = some (.comparison c.tag c.body) := by
      rw [Rule.read?, text, Tag.read?_marker htags hcomparison]
      rfl
    rw [if_pos hcomparison]
    simp only [Shape.ofToken?, List.findSome?_cons, hand, hread]
  · have hno : Rule.comparison.read? c.text = none := c.read?_eq_none (by decide) hcomparison
    rw [if_neg hcomparison]
    by_cases helement : c.tag ∈ Tag.element
    · have htags : ∀ tag ∈ Tag.element, '}' ∉ tag := by decide
      have hread : Rule.element.read? c.text = some (Rule.elementShape (c.tag, c.body)) := by
        rw [Rule.read?, text, Tag.read?_marker htags helement]
        rfl
      rw [if_pos helement]
      simp only [Shape.ofToken?, List.findSome?_cons, hand, hno, hread]
    · have hnone : Rule.element.read? c.text = none := c.read?_eq_none (by decide) helement
      have hregex : c.tag = Tag.regex := by
        have htag := c.tag_mem
        simp only [tags, List.mem_cons, List.mem_append] at htag
        exact htag.resolve_right (not_or.2 ⟨hcomparison, helement⟩)
      rw [if_neg helement]
      simp only [Shape.ofToken?, List.findSome?_cons, hand, hno, hnone, c.read?_text hregex]

theorem tokens_body (c : Condition) {rule : Rule} {shape : Shape}
    (h : rule.read? c.body = some shape) : shape.tokens = [] := by
  have haccepts := Rule.accepts_of_read? h
  have hopens : ¬ Rule.Opens c.body := by
    rintro ⟨d, r, hbody, -⟩
    exact c.brace_not_mem (hbody ▸ List.mem_cons_self)
  cases rule with
  | elemMatch | logical | comparison | element =>
    exact absurd (Rule.opens_of_tagged (by decide) haccepts) hopens
  | and => exact absurd (Rule.opens_of_and haccepts) hopens
  | or => exact absurd (Rule.mem_of_or haccepts).1 c.bar_not_mem
  | text =>
    cases h
    split <;> rfl
  | json | date | number | boolean =>
    obtain ⟨_, -, rfl⟩ := Option.map_eq_some_iff.1 h
    rfl

theorem mem_tokens {c : Condition} {t : Text} (h : t ∈ c.shape.tokens) : t = c.body := by
  unfold shape at h
  split at h
  · exact List.mem_singleton.1 h
  · split at h
    · unfold Rule.elementShape at h
      split at h <;> cases h
    · cases h

end Condition

namespace Filter

variable {o : FilterOptions} {inner : Text → Journal (Option Value)} {token : Text}

/-- What a condition compiles to: a map, or nothing if the options are lenient. -/
def IsMapNode (o : FilterOptions) (node : Option Value) : Prop :=
  (node = none → o.strict = false) ∧ ∀ v ∈ node, v.IsMap

theorem isMapNode_some {fs : Fields Value} (h : fs.keys.Nodup) : IsMapNode o (some (.map fs)) := by
  refine ⟨nofun, ?_⟩
  intro v hv
  cases hv
  exact ⟨fs, rfl, h⟩

theorem isMapNode_operatorNode (tag : Text) (v : Value) : IsMapNode o (some (operatorNode tag v)) :=
  isMapNode_some (List.nodup_singleton (Tag.operator tag))

theorem isMapNode_patternNode (t : Text) : IsMapNode o (some (patternNode t)) := by
  have hkeys : [Tag.operator Tag.regex, Tag.operator "options".toList].Nodup := by decide
  exact isMapNode_some hkeys

theorem reject_isMapNode (reason : Reason) :
    (reject o token reason).Ends (IsMapNode o) fun _ => True := by
  unfold reject
  split
  · exact Journal.ends_fault trivial
  · next hstrict =>
    refine (Journal.ends_write _).bind fun _ _ => Journal.ends_pure ?_
    exact ⟨fun _ => Bool.eq_false_iff.2 hstrict, nofun⟩

theorem compileShape_condition {P : Option Value → Prop} (c : Condition)
    (hoperator : ∀ tag ∈ Tag.comparison ++ Tag.element, ∀ v, P (some (operatorNode tag v)))
    (hpattern : ∀ t, P (some (patternNode t)))
    (hreject : ∀ reason, (reject o token reason).Ends P fun _ => True) :
    (compileShape o inner token c.shape).Ends P fun _ => True := by
  have helement : ∀ tag ∈ Tag.element, ∀ v, P (some (operatorNode tag v)) :=
    fun tag htag => hoperator tag (List.mem_append_right _ htag)
  unfold Condition.shape
  split
  · next htag =>
    simp only [compileShape]
    split
    · exact hreject _
    · refine (Journal.ends_true _).bind fun node _ => ?_
      cases node with
      | some v => exact Journal.ends_pure (hoperator c.tag (List.mem_append_left _ htag) v)
      | none => exact hreject _
  · split
    · unfold Rule.elementShape
      split
      · simp only [compileShape]
        split
        · exact Journal.ends_pure (helement Tag.existence (.head _) _)
        · exact hreject _
      · simp only [compileShape]
        split
        · exact Journal.ends_pure (helement Tag.fieldType (.tail _ (.head _)) _)
        · exact hreject _
    · exact Journal.ends_pure (hpattern c.body)

theorem outcome_conjunction {nodes : List Value} (hmaps : ∀ v ∈ nodes, v.IsMap)
    (hlenient : nodes = [] → o.strict = false) :
    (if (nodes.filterMap Value.entries?).isEmpty then reject o token .noOperators
      else pure (some (.map (mergeNodes (nodes.filterMap Value.entries?))))).outcome =
      (pure (nodeOfValues nodes) : Journal (Option Value)).outcome := by
  cases nodes with
  | nil =>
    rw [reject, hlenient rfl]
    rfl
  | cons v nodes =>
    rw [nodeOfValues_of_maps (List.cons_ne_nil v nodes) fun w hw => (hmaps w hw).isSome_entries?]
    obtain ⟨fs, rfl, -⟩ := hmaps v (.head _)
    rfl

end Filter

namespace Condition

variable {o : FilterOptions}

/-- Compiles a condition with the two levels that it needs. -/
def node (o : FilterOptions) (c : Condition) : Journal (Option Value) := Filter.nodeAt o 2 c.text

theorem outcome_nodes_of_none {cs : List Condition}
    (h : ∀ c ∈ cs, (c.node o).outcome = .ok none) :
    (Journal.collect (node o) cs).outcome = .ok [] := by
  induction cs with
  | nil => rfl
  | cons c cs ih =>
    have hnode := h c (.head _)
    have hnodes := ih fun d hd => h d (.tail _ hd)
    rw [Journal.collect, Journal.bind_of_ok hnode, Journal.bind_of_ok hnodes]
    rfl

section

variable (hrules : o.rules = Rule.table)

include hrules

theorem nodeAt_succ_text (c : Condition) (levels : Nat) :
    Filter.nodeAt o (levels + 1) c.text =
      Filter.compileShape o (Filter.nodeAt o levels) c.text c.shape := by
  have hshape := c.ofToken?_text
  rw [← hrules] at hshape
  exact Filter.nodeAt_of_shape c.text_ne_nil hshape

theorem nodeAt_text (c : Condition) (levels : Nat) :
    Filter.nodeAt o (levels + 2) c.text = c.node o := by
  rw [node, c.nodeAt_succ_text hrules, c.nodeAt_succ_text hrules]
  apply Filter.lockstep_compileShape Journal.lockstep_eq (fun _ _ => rfl) rfl
  intro t ht
  rw [mem_tokens ht]
  apply Filter.lockstep_nodeAt_succ Journal.lockstep_eq (fun _ _ => rfl) rfl rfl
  intro rule shape hread t ht
  rw [c.tokens_body hread] at ht
  cases ht

theorem node_isMapNode (c : Condition) : (c.node o).Ends (Filter.IsMapNode o) fun _ => True := by
  rw [node, c.nodeAt_succ_text hrules]
  apply Filter.compileShape_condition
  · exact fun tag _ v => Filter.isMapNode_operatorNode tag v
  · exact Filter.isMapNode_patternNode
  · exact Filter.reject_isMapNode

theorem nodes_areMaps (cs : List Condition) :
    (Journal.collect (node o) cs).Ends (fun nodes => ∀ v ∈ nodes, v.IsMap) fun _ => True :=
  Journal.ends_collect fun c _ => (c.node_isMapNode hrules).mono fun _ h => h.2

theorem nodes_ne_nil (c : Condition) (cs : List Condition) :
    (Journal.collect (node o) (c :: cs)).Ends (fun nodes => nodes = [] → o.strict = false)
      fun _ => True := by
  refine (c.node_isMapNode hrules).bind fun v hv => (Journal.ends_true _).bind fun nodes _ => ?_
  apply Journal.ends_pure
  intro hnil
  apply hv.1
  exact Option.toList_eq_nil_iff.1 (List.append_eq_nil_iff.1 hnil).1

theorem outcome_nodes (cs : List Condition) (levels : Nat) :
    Journal.collect (Filter.nodeAt o (levels + 2)) (cs.map text) = Journal.collect (node o) cs := by
  rw [Journal.collect_map]
  exact congrArg (Journal.collect · cs) (funext fun c => c.nodeAt_text hrules levels)

/-- Several parts of which the first is a condition compile to the merge of what they give, if this
is what conditions give. -/
theorem outcome_several {t : Text} {parts : List Text} (ht : t ≠ [])
    (hshape : Shape.ofToken? Rule.table t = some (.conjunction parts)) (c : Condition)
    {cs : List Condition} {levels : Nat}
    (hnodes : (Journal.collect (Filter.nodeAt o (levels + 2)) parts).outcome =
      (Journal.collect (node o) (c :: cs)).outcome) :
    (Filter.nodeAt o (levels + 3) t).outcome =
      (Filter.nodeOfValues <$> Journal.collect (node o) (c :: cs)).outcome := by
  rw [← hrules] at hshape
  rw [Filter.nodeAt_of_shape ht hshape, Filter.compileShape, map_eq_pure_bind]
  refine (Journal.lockstep_outcome.bind hnodes fun _ => rfl).trans ?_
  apply ((nodes_areMaps hrules _).and (nodes_ne_nil hrules c _)).outcome_bind
  intro nodes hmaps
  exact Filter.outcome_conjunction hmaps.1 hmaps.2

/-- Conditions in one token compile to the merge of their nodes. -/
theorem outcome_token {cs : List Condition} (hne : cs ≠ []) (levels : Nat) :
    (Filter.nodeAt o (levels + 3) (token cs)).outcome =
      (Filter.nodeOfValues <$> Journal.collect (node o) cs).outcome := by
  match cs with
  | [] => exact absurd rfl hne
  | [c] =>
    have htoken : token [c] = c.text := List.append_nil c.text
    have hnodes : Filter.nodeOfValues <$> Journal.collect (node o) [c] =
        c.node o >>= fun v => pure (Filter.nodeOfValues v.toList) := by
      simp only [Journal.collect, map_eq_pure_bind, bind_assoc, pure_bind, List.append_nil]
    have hnode := (bind_pure (c.node o)).symm
    rw [htoken, c.nodeAt_text hrules, hnodes]
    refine (congrArg Journal.outcome hnode).trans ((c.node_isMapNode hrules).outcome_bind ?_)
    intro v hv
    cases v with
    | none => rfl
    | some v =>
      obtain ⟨fs, rfl, hfs⟩ := hv.2 v rfl
      exact congrArg Except.ok (Filter.nodeOfValues_map hfs).symm
  | c :: d :: cs =>
    have hshape := c.ofToken?_several (List.cons_ne_nil d.text (cs.map text))
      (isGroup_of_mem (d :: cs)) (bar_not_mem_token (d :: cs))
    apply outcome_several hrules (token_ne_nil c (d :: cs)) hshape c
    exact congrArg Journal.outcome (outcome_nodes hrules (c :: d :: cs) levels)

/-- Repeated values of conditions compile to the merge of all conditions. -/
theorem outcome_rounds {rounds : List (List Condition)} (h : [] ∉ rounds) (levels : Nat) :
    (Filter.compileValue (Filter.nodeAt o (levels + 3))
        (.list (rounds.map fun cs => .str (token cs)))).outcome =
      (Filter.nodeOfValues <$> Journal.collect (node o) rounds.flatten).outcome := by
  have hvalues : (Journal.collect (Filter.compileItem (Filter.nodeAt o (levels + 3)))
      (rounds.map fun cs => .str (token cs))).outcome =
        (Journal.collect (fun cs => Filter.nodeOfValues <$> Journal.collect (node o) cs)
          rounds).outcome := by
    rw [Journal.collect_map]
    apply Journal.lockstep_outcome.collect
    intro cs hcs
    exact outcome_token hrules (fun hnil => h (hnil ▸ hcs)) levels
  refine (Journal.lockstep_outcome.bind hvalues fun _ => rfl).trans ?_
  rw [Journal.collect_filterMap, Journal.collect_flatten]
  simp only [map_eq_pure_bind, bind_assoc, pure_bind]
  apply (Journal.ends_mapM fun cs _ => nodes_areMaps hrules cs).outcome_bind
  intro nodes hmaps
  have hrounds := Filter.nodeOfValues_rounds fun ns hns v hv => (hmaps ns hns v hv).isSome_entries?
  exact congrArg Except.ok hrounds

end

theorem token_flatten (rounds : List (List Condition)) :
    token rounds.flatten = (rounds.map token).flatten := by
  rw [token, List.map_flatten, List.flatten_flatten, List.map_map]
  rfl

end Condition

theorem Filter.outcome_compile {o : FilterOptions} {v w : Value} {depth : Int}
    (hv : v ≠ .null) (hw : w ≠ .null)
    (h : (compileValue (tokenNode o · depth) v).outcome =
      (compileValue (tokenNode o · depth) w).outcome) (k : Text) :
    (compile o [(k, v)] depth).outcome = (compile o [(k, w)] depth).outcome := by
  have hrun : (nodeRun o depth (k, v)).outcome = (nodeRun o depth (k, w)).outcome := by
    by_cases hk : Key.clean o.lenientKeys k ∈ Key.reserved
    · rw [nodeRun, nodeRun, if_neg fun hc => hc.1 hk, if_neg fun hc => hc.1 hk]
    · rw [nodeRun, nodeRun, if_pos ⟨hk, hv⟩, if_pos ⟨hk, hw⟩, h]
  rw [outcome_compile_singleton, outcome_compile_singleton, hrun]

theorem Filter.outcome_compile_dropped {o : FilterOptions} {v : Value} {depth : Int}
    (hv : v ≠ .null) (h : (compileValue (tokenNode o · depth) v).outcome = .ok none) (k : Text) :
    (compile o [(k, v)] depth).outcome = .ok [] := by
  rw [outcome_compile hv (w := .list []) nofun h k, outcome_compile_singleton, nodeRun]
  split <;> rfl

/-- Conditions on a field give the same tree, or the same fault, as repeated values and as one
token. If every condition alone gives nothing, the field is left out. -/
theorem repeated_conditions_compile_as_one_token (o : FilterOptions) (hrules : o.rules = Rule.table)
    (rounds : List (List Condition)) (hrounds : rounds ≠ []) (hround : [] ∉ rounds) (k : Text)
    (depth : Int) (hdepth : depth + 2 ≤ o.maxDepth) :
    (Filter.compile o [(k, .list (rounds.map fun cs => .str (Condition.token cs)))] depth).outcome =
      (Filter.compile o [(k, .str (rounds.map Condition.token).flatten)] depth).outcome ∧
    ((∀ cs ∈ rounds, ∀ c ∈ cs, (Filter.tokenNode o c.text depth).outcome = .ok none) →
      (Filter.compile o [(k, .str (rounds.map Condition.token).flatten)] depth).outcome =
        .ok []) := by
  obtain ⟨levels, hlevels⟩ : ∃ levels, o.levelsAt depth = levels + 3 :=
    FilterOptions.exists_levelsAt (by omega)
  have hflatten : rounds.flatten ≠ [] := by
    cases rounds with
    | nil => exact absurd rfl hrounds
    | cons cs rounds =>
      exact List.append_ne_nil_of_left_ne_nil (List.ne_of_not_mem_cons hround).symm _
  have htoken : (Filter.compileValue (Filter.tokenNode o · depth)
      (.str (rounds.map Condition.token).flatten)).outcome =
        (Filter.nodeOfValues <$> Journal.collect (Condition.node o) rounds.flatten).outcome := by
    simp only [Filter.compileValue, Filter.compileToken, Filter.tokenNode, hlevels]
    rw [← Condition.token_flatten]
    exact Condition.outcome_token hrules hflatten levels
  have hvalues : (Filter.compileValue (Filter.tokenNode o · depth)
      (.list (rounds.map fun cs => .str (Condition.token cs)))).outcome =
        (Filter.nodeOfValues <$> Journal.collect (Condition.node o) rounds.flatten).outcome := by
    simp only [Filter.tokenNode, hlevels]
    exact Condition.outcome_rounds hrules hround levels
  constructor
  · refine Filter.outcome_compile ?_ ?_ (hvalues.trans htoken.symm) k
    · intro hnull
      cases hnull
    · intro hnull
      cases hnull
  · intro hnone
    have hnodes : (Journal.collect (Condition.node o) rounds.flatten).outcome = .ok [] := by
      apply Condition.outcome_nodes_of_none
      intro c hc
      obtain ⟨cs, hcs, hc⟩ := List.mem_flatten.1 hc
      rw [← c.nodeAt_text hrules (levels + 1), ← hlevels]
      exact hnone cs hcs c hc
    refine Filter.outcome_compile_dropped ?_ ?_ k
    · intro hnull
      cases hnull
    · rw [htoken, map_eq_pure_bind, Journal.bind_of_ok hnodes]
      rfl

theorem repeated_conditions_compile_as_one_token_bounds :
    (Filter.compile {} [("age".toList, .list [.str "{gt}5{lt}".toList, .str "{gt}7".toList])]
      0).outcome =
        (Filter.compile {} [("age".toList, .str "{gt}5{lt}{gt}7".toList)] 0).outcome ∧
    (Filter.compile {} [("age".toList, .str "{lt}{type}age".toList)] 0).outcome = .ok [] := by
  constructor
  · exact (repeated_conditions_compile_as_one_token {} rfl
      [[⟨"gt".toList, "5".toList, by decide, by decide, by decide⟩,
        ⟨"lt".toList, [], by decide, by decide, by decide⟩],
        [⟨"gt".toList, "7".toList, by decide, by decide, by decide⟩]]
      (by decide) (by decide) "age".toList 0 (by decide)).1
  · apply (repeated_conditions_compile_as_one_token {} rfl
      [[⟨"lt".toList, [], by decide, by decide, by decide⟩],
        [⟨"type".toList, "age".toList, by decide, by decide, by decide⟩]]
      (by decide) (by decide) "age".toList 0 (by decide)).2
    intro cs hcs c hc
    rcases List.mem_pair.1 hcs with rfl | rfl
    · rw [List.mem_singleton.1 hc]
      rfl
    · rw [List.mem_singleton.1 hc]
      rfl

end FindQuery

import FindQuery.Proofs.LogicalOperands
import FindQuery.Proofs.OperatorKeys

namespace FindQuery

/-- A way from a value down to one of its leaves, by the keys on it. An item of a list stands under
no key. -/
inductive Value.Branch : Value → List Text → Prop
  | atom {v : Value} (hmap : v.kind ≠ .map) (hlist : v.kind ≠ .list) : Branch v []
  | emptyMap : Branch (.map []) []
  | emptyList : Branch (.list []) []
  | entry {entries : Fields Value} {e : Text × Value} {keys : List Text} (he : e ∈ entries)
      (h : Branch e.2 keys) : Branch (.map entries) (e.1 :: keys)
  | item {items : List Value} {v : Value} {keys : List Text} (hv : v ∈ items)
      (h : Branch v keys) : Branch (.list items) keys

/-- The number of keys that start with a dollar sign. -/
def Key.operatorCount (keys : List Text) : Nat := keys.countP (·.head? = some '$')

/-- No branch of a value has more than `n` operators. -/
def Value.NestsAtMost (n : Nat) (v : Value) : Prop :=
  ∀ keys, v.Branch keys → Key.operatorCount keys ≤ n

namespace Key

theorem operatorCount_cons_le (k : Text) (keys : List Text) :
    operatorCount (k :: keys) ≤ operatorCount keys + 1 := by
  rw [operatorCount, List.countP_cons]
  split
  · exact Nat.le_refl _
  · exact Nat.le_succ _

theorem operatorCount_cons_operator (tag : Text) (keys : List Text) :
    operatorCount (Tag.operator tag :: keys) = operatorCount keys + 1 :=
  List.countP_cons_of_pos (decide_eq_true rfl)

theorem operatorCount_cons_of_isField {lenientKeys : Bool} {k : Text} (h : IsField lenientKeys k)
    (keys : List Text) : operatorCount (k :: keys) = operatorCount keys := by
  apply List.countP_cons_of_neg
  intro hk
  exact h.noOperator (List.mem_of_head? (of_decide_eq_true hk))

end Key

namespace Value

variable {n : Nat}

theorem Branch.eq_nil_of_isKeyless {v : Value} {keys : List Text} (hb : v.Branch keys)
    (h : v.IsKeyless) : keys = [] := by
  induction hb with
  | atom | emptyMap | emptyList => rfl
  | entry he =>
    have hnone := (h none).self
    rw [hnone] at he
    cases he
  | item hv _ ih =>
    apply ih
    intro key k entries hw
    cases hw with
    | self => exact h none none _ (.item hv (.self none _))
    | entry he hw => exact h none k entries (.item hv (.entry he hw))
    | item hi hw => exact h none k entries (.item hv (.item hi hw))

theorem nestsAtMost_of_isKeyless {v : Value} (h : v.IsKeyless) : v.NestsAtMost n := by
  intro keys hb
  rw [hb.eq_nil_of_isKeyless h]
  exact Nat.zero_le n

theorem nestsAtMost_atom {v : Value} (hmap : v.kind ≠ .map) (hlist : v.kind ≠ .list) :
    v.NestsAtMost n := by
  apply nestsAtMost_of_isKeyless
  exact fun _ => .atom hmap hlist

theorem NestsAtMost.mono {m : Nat} {v : Value} (h : v.NestsAtMost m) (hle : m ≤ n) :
    v.NestsAtMost n :=
  fun keys hb => Nat.le_trans (h keys hb) hle

theorem NestsAtMost.entry {entries : Fields Value} (h : (Value.map entries).NestsAtMost n)
    {e : Text × Value} (he : e ∈ entries) {keys : List Text} (hb : e.2.Branch keys) :
    Key.operatorCount (e.1 :: keys) ≤ n :=
  h _ (.entry he hb)

theorem nestsAtMost_entries {entries : Fields Value}
    (h : ∀ e ∈ entries, ∀ keys, e.2.Branch keys → Key.operatorCount (e.1 :: keys) ≤ n) :
    (Value.map entries).NestsAtMost n := by
  intro keys hb
  cases hb with
  | atom hmap => exact absurd rfl hmap
  | emptyMap => exact Nat.zero_le n
  | entry he hb => exact h _ he _ hb

theorem nestsAtMost_list {items : List Value} (h : ∀ v ∈ items, v.NestsAtMost n) :
    (Value.list items).NestsAtMost n := by
  intro keys hb
  cases hb with
  | atom _ hlist => exact absurd rfl hlist
  | emptyList => exact Nat.zero_le n
  | item hv hb => exact h _ hv keys hb

theorem nestsAtMost_map {entries : Fields Value} (h : ∀ e ∈ entries, e.2.NestsAtMost n) :
    (Value.map entries).NestsAtMost (n + 1) := by
  apply nestsAtMost_entries
  intro e he keys hb
  exact Nat.le_trans (Key.operatorCount_cons_le e.1 keys) (Nat.succ_le_succ (h e he keys hb))

theorem nestsAtMost_fields {lenientKeys : Bool} {entries : Fields Value}
    (h : ∀ e ∈ entries, Key.IsField lenientKeys e.1 ∧ e.2.NestsAtMost n) :
    (Value.map entries).NestsAtMost n := by
  apply nestsAtMost_entries
  intro e he keys hb
  rw [Key.operatorCount_cons_of_isField (h e he).1]
  exact (h e he).2 keys hb

end Value

namespace Filter

variable {n : Nat}

theorem nestsAtMost_operatorNode {v : Value} (h : v.NestsAtMost n) (tag : Text) :
    (operatorNode tag v).NestsAtMost (n + 1) := by
  apply Value.nestsAtMost_map
  exact List.forall_mem_singleton.2 h

theorem nestsAtMost_mergeNodes {nodes : List Value} (h : ∀ v ∈ nodes, v.NestsAtMost n) :
    (Value.map (mergeNodes (nodes.filterMap Value.entries?))).NestsAtMost n := by
  apply Value.nestsAtMost_entries
  intro e he keys hb
  obtain ⟨entries, hentries, he⟩ := exists_map_of_mem_mergeNodes he
  exact (h _ hentries).entry he hb

/-- One level more is one operator more. -/
theorem closed_nestsAtMost (lenientKeys : Bool) (n : Nat) :
    Closed lenientKeys (fun t => '"' ∉ t ∧ '%' ∉ t) (·.NestsAtMost n)
      (·.NestsAtMost (n + 1)) where
  container _ _ ht hv := Value.nestsAtMost_of_isKeyless (Json.readContainer?_keyless ht.1 hv)
  elemMatch _ htree := by
    apply nestsAtMost_operatorNode
    apply Value.nestsAtMost_fields
    exact fun e he => ⟨(htree e he).1.isField, (htree e he).2⟩
  operand tag _ _ hv := nestsAtMost_operatorNode hv tag
  alternatives _ hnodes := nestsAtMost_operatorNode (Value.nestsAtMost_list hnodes) _
  conjunction _ hnodes := (nestsAtMost_mergeNodes hnodes).mono (Nat.le_succ n)
  existence b := nestsAtMost_operatorNode (Value.nestsAtMost_atom (v := .bool b) nofun nofun) _
  fieldType t _ := nestsAtMost_operatorNode (Value.nestsAtMost_atom (v := .str t) nofun nofun) _
  date _ := Value.nestsAtMost_atom nofun nofun
  int _ := Value.nestsAtMost_atom nofun nofun
  float _ := Value.nestsAtMost_atom nofun nofun
  bool _ := Value.nestsAtMost_atom nofun nofun
  plain _ _ := Value.nestsAtMost_atom nofun nofun
  pattern _ _ := by
    apply Value.nestsAtMost_map
    have hatom (t : Text) : (Value.str t).NestsAtMost n := Value.nestsAtMost_atom nofun nofun
    exact List.forall_mem_cons.2 ⟨hatom _, List.forall_mem_singleton.2 (hatom _)⟩

variable (o : FilterOptions)

theorem tokenNode_nestsAtMost {token : Text} (htoken : '"' ∉ token ∧ '%' ∉ token) (depth : Int) :
    (tokenNode o token depth).Ends (fun node => ∀ v ∈ node, v.NestsAtMost (o.levelsAt depth))
      fun _ => True :=
  nodeAt_ends (P := fun levels v => v.NestsAtMost levels)
    (Text.inherited_not_mem (by decide) (by decide)) (closed_nestsAtMost o.lenientKeys)
    (fun _ _ _ => trivial) (fun _ _ _ _ _ _ => trivial) _ htoken

theorem compile_nestsAtMost {fields : Fields Value}
    (hfields : ∀ e ∈ fields, e.2.IsTextual fun t => '"' ∉ t ∧ '%' ∉ t) (depth : Int) :
    (compile o fields depth).Ends
      (fun tree => ∀ e ∈ tree,
        Key.IsPath o.lenientKeys e.1 ∧ e.2.NestsAtMost (o.levelsAt depth))
      fun _ => True :=
  compileFields_ends fun e he _ hne =>
    compileValue_ends (hfields e he) hne (fun _ ht => tokenNode_nestsAtMost o ht depth)
      fun _ hnodes => forall_mem_nodeOfValues (nestsAtMost_mergeNodes hnodes)
        (Value.nestsAtMost_list hnodes)

/-- Below the last level no token has a node. -/
theorem le_maxDepth_of_node {o : FilterOptions} {token : Text} {depth : Int} {node : Value}
    (h : (tokenNode o token depth).outcome = .ok (some node)) : depth ≤ o.maxDepth := by
  have hzero : (nodeAt o 0 token).Ends (fun node => ∀ v ∈ node, False) fun _ => True := by
    cases token <;> exact reject_ends _ fun _ => trivial
  refine Int.not_lt.1 fun hdepth => ?_
  have hlevels : o.levelsAt depth = 0 := by
    unfold FilterOptions.levelsAt
    omega
  rw [tokenNode, hlevels] at h
  exact hzero.value _ h node rfl

/-- The condition that a field exists. -/
def existing : Condition := ⟨Tag.existence, "true".toList, by decide, by decide, by decide⟩

/-- The condition that a field exists, negated so many times. -/
def negations : Nat → Text
  | 0 => existing.text
  | n + 1 => Tag.marker "not".toList ++ negations n

def negationsNode : Nat → Value
  | 0 => operatorNode Tag.existence (.bool true)
  | n + 1 => operatorNode "not".toList (negationsNode n)

theorem not_mem_negations {c : Char} (hc : c ∉ existing.text)
    (hnot : c ∉ Tag.marker "not".toList) (n : Nat) : c ∉ negations n := by
  induction n with
  | zero => exact hc
  | succ n ih =>
    intro h
    rcases List.mem_append.1 h with h | h
    · exact hnot h
    · exact ih h

theorem exists_branch_negationsNode (n : Nat) :
    ∃ keys, (negationsNode n).Branch keys ∧ Key.operatorCount keys = n + 1 := by
  induction n with
  | zero => exact ⟨[_], .entry (.head _) (.atom nofun nofun), rfl⟩
  | succ n ih =>
    obtain ⟨keys, hb, hcount⟩ := ih
    refine ⟨_ :: keys, .entry (.head _) hb, ?_⟩
    rw [Key.operatorCount_cons_operator, hcount]

variable {o}

theorem nodeAt_negations (hrules : o.rules = Rule.table) (n : Nat) :
    (nodeAt o (n + 1) (negations n)).outcome = .ok (some (negationsNode n)) := by
  induction n with
  | zero =>
    rw [negations, existing.nodeAt_succ_text hrules]
    rfl
  | succ n ih =>
    rw [negations, nodeAt_logical hrules (by decide), compileOperand, Journal.bind_of_ok ih]
    rfl

end Filter

open FindQuery.Filter in
/-- Text without double quotes and percent signs brings no more operators into a branch of a filter
than there are levels of nesting, and on each depth some such token uses up the levels. -/
theorem operators_are_nested_up_to_the_bound (o : FilterOptions) :
    (∀ token depth node, '"' ∉ token → '%' ∉ token →
      (tokenNode o token depth).outcome = .ok (some node) →
      ∀ keys, node.Branch keys → (Key.operatorCount keys : Int) ≤ o.maxDepth + 1 - depth) ∧
    (∀ fields tree, (∀ e ∈ fields, e.2.IsTextual fun t => '"' ∉ t ∧ '%' ∉ t) →
      (compile o fields 0).outcome = .ok tree →
      ∀ e ∈ tree, ∀ keys, e.2.Branch keys → (Key.operatorCount keys : Int) ≤ o.maxDepth + 1) ∧
    (o.rules = Rule.table → ∀ depth ≤ o.maxDepth, ∃ token node keys,
      '"' ∉ token ∧ '%' ∉ token ∧ (tokenNode o token depth).outcome = .ok (some node) ∧
      node.Branch keys ∧ (Key.operatorCount keys : Int) = o.maxDepth + 1 - depth) := by
  refine ⟨?_, ?_, ?_⟩
  · intro token depth node hquote hpercent hnode keys hb
    have hcount := (tokenNode_nestsAtMost o ⟨hquote, hpercent⟩ depth).value _ hnode node rfl keys hb
    have hdepth := le_maxDepth_of_node hnode
    unfold FilterOptions.levelsAt at hcount
    omega
  · intro fields tree hfields htree e he keys hb
    have hcount := ((compile_nestsAtMost o hfields 0).value tree htree e he).2 keys hb
    have hmaxDepth := o.one_le_maxDepth
    unfold FilterOptions.levelsAt at hcount
    omega
  · intro hrules depth hdepth
    have hlevels := FilterOptions.levelsAt_eq_succ hdepth
    have hnode := nodeAt_negations hrules (o.levelsAt (depth + 1))
    obtain ⟨keys, hb, hcount⟩ := exists_branch_negationsNode (o.levelsAt (depth + 1))
    rw [← hlevels] at hnode hcount
    refine ⟨_, _, keys, not_mem_negations (by decide) (by decide) _,
      not_mem_negations (by decide) (by decide) _, hnode, hb, ?_⟩
    rw [hcount]
    unfold FilterOptions.levelsAt
    omega

theorem operators_are_nested_up_to_the_bound_elements :
    (∃ node, (Filter.tokenNode { maxDepth := 2 } "{not}{elemMatch}a=*b".toList 0).outcome =
        .ok (some node) ∧
      ∃ keys, node.Branch keys ∧ Key.operatorCount keys = 3 ∧
        (Key.operatorCount keys : Int) ≤ 2 + 1 - 0) ∧
    (∃ node, (Filter.compile { maxDepth := 2 }
        [("x".toList, .list [.null, .str "{not}*b".toList])] 0).outcome =
          .ok [("x".toList, node)] ∧
      ∃ keys, node.Branch keys ∧ Key.operatorCount keys = 2 ∧
        (Key.operatorCount keys : Int) ≤ 2 + 1) ∧
    ∃ token node keys, '"' ∉ token ∧ '%' ∉ token ∧
      (Filter.tokenNode { maxDepth := 2 } token 0).outcome = .ok (some node) ∧
      Value.Branch node keys ∧ (Key.operatorCount keys : Int) = 2 + 1 - 0 := by
  have hnode := Journal.outcome_of_toOption
    (x := Filter.tokenNode { maxDepth := 2 } "{not}{elemMatch}a=*b".toList 0)
    (a := some (.map [("$not".toList, .map [("$elemMatch".toList, .map [("a".toList,
      .map [("$regex".toList, .str "^b".toList), ("$options".toList, .str ['i'])])])])]))
    (by decide +kernel)
  have htree := Journal.outcome_of_toOption
    (x := Filter.compile { maxDepth := 2 }
      [("x".toList, .list [.null, .str "{not}*b".toList])] 0)
    (a := [("x".toList, .map [("$not".toList,
      .map [("$regex".toList, .str "^b".toList), ("$options".toList, .str ['i'])])])])
    (by decide +kernel)
  have hvalue : (Value.list [.null, .str "{not}*b".toList]).IsTextual
      fun t => '"' ∉ t ∧ '%' ∉ t :=
    List.forall_mem_cons.2
      ⟨.inl rfl, List.forall_mem_singleton.2 (.inr ⟨_, rfl, by decide, by decide⟩)⟩
  have hpattern : (Filter.patternNode "*b".toList).Branch ["$regex".toList] :=
    .entry (.head _) (.atom nofun nofun)
  have helements : (Value.map [("$not".toList, .map [("$elemMatch".toList,
      .map [("a".toList, Filter.patternNode "*b".toList)])])]).Branch
        ["$not".toList, "$elemMatch".toList, "a".toList, "$regex".toList] :=
    .entry (.head _) (.entry (.head _) (.entry (.head _) hpattern))
  have hnegated : (Value.map [("$not".toList, Filter.patternNode "*b".toList)]).Branch
      ["$not".toList, "$regex".toList] :=
    .entry (.head _) hpattern
  obtain ⟨htoken, hcompile, hexact⟩ := operators_are_nested_up_to_the_bound { maxDepth := 2 }
  have htokenBound := htoken _ 0 _ (by decide) (by decide) hnode _ helements
  have htreeBound := hcompile _ _ (List.forall_mem_singleton.2 hvalue) htree _ (.head _) _ hnegated
  exact ⟨⟨_, hnode, _, helements, rfl, htokenBound⟩, ⟨_, htree, _, hnegated, rfl, htreeBound⟩,
    hexact rfl 0 (by decide)⟩

end FindQuery

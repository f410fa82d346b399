import FindQuery.Proofs.Alphabets
import FindQuery.Proofs.NodeInduction
import FindQuery.Proofs.Strictness

namespace FindQuery

/-- The reasons for which a token is refused by itself, and not for the tokens inside it. -/
def Reason.own : List Reason :=
  [.emptyToken, .maxDepth, .emptyValue, .noOperators, .invalidExists, .invalidType]

/-- A refusal for a reason of the refused token's own, or an integer with too many digits. -/
def Fault.IsOwnRefusal (e : Fault) : Prop :=
  (∃ token, ∃ reason ∈ Reason.own, e = .rejected token reason) ∨
    ∃ count, e = .tooManyDigits count ∧ Numeral.maxIntegerDigits < count

namespace Journal

variable {α β : Type} {F : Fault → Prop} {token : Text}

/-- A computation that gives nothing ends with a record that refuses the token. -/
def IsNoted (token : Text) (x : Journal (Option β)) : Prop :=
  x.outcome = .ok none → ∃ earlier reason, x.records = earlier ++ [.rejected token reason]

theorem isNoted_some (v : β) : (pure (some v) : Journal (Option β)).IsNoted token := nofun

theorem IsNoted.bind {x : Journal α} {f : α → Journal (Option β)}
    (hf : ∀ a, (f a).IsNoted token) : (x >>= f).IsNoted token := by
  intro h
  obtain ⟨a, ha, hnone⟩ := outcome_bind_eq_ok.1 h
  obtain ⟨earlier, reason, hrecords⟩ := hf a hnone
  refine ⟨x.records ++ earlier, reason, ?_⟩
  rw [bind_of_ok ha, hrecords, List.append_assoc]

theorem exists_firstRefusal {x : Journal α} {reason : Reason}
    (h : .rejected token reason ∈ x.records) :
    ∃ refused r, x.firstRefusal? = some (refused, r) := by
  cases hx : x.firstRefusal? with
  | some refusal => exact ⟨refusal.1, refusal.2, rfl⟩
  | none => exact absurd (firstRefusal?_eq_none.1 hx _ h) nofun

theorem ends_collect_ne_nil {f : α → Journal (Option β)} {xs : List α} (hne : xs ≠ [])
    (h : ∀ x ∈ xs, (f x).Ends (· ≠ none) F) : (collect f xs).Ends (· ≠ []) F := by
  cases xs with
  | nil => exact absurd rfl hne
  | cons x xs =>
    have hxs : (collect f xs).Ends (fun ys => ∀ y ∈ ys, True) F :=
      ends_collect fun z hz => (h z (.tail _ hz)).mono fun _ _ _ _ => trivial
    refine (h x (.head _)).bind fun y hy => hxs.bind fun ys _ => ends_pure ?_
    cases y with
    | none => exact absurd rfl hy
    | some y => exact List.cons_ne_nil y ys

end Journal

theorem Shape.exists_ofToken? {rules : List Rule} (h : .text ∈ rules) (token : Text) :
    ∃ shape, ofToken? rules token = some shape :=
  Option.isSome_iff_exists.1 (List.findSome?_isSome_iff.2 ⟨.text, h, rfl⟩)

theorem Rule.segments_ne_nil {rule : Rule} {token : Text} {segments : List Text}
    (h : rule.read? token = some (.alternatives segments)) : segments ≠ [] := by
  cases Shape.rule_of_read? h
  obtain ⟨found, hfound, he⟩ := Option.map_eq_some_iff.1 h
  obtain ⟨rfl, -⟩ := Alternatives.read?_eq_some_iff.1 hfound
  cases he
  exact Text.pieces_ne_nil '|' token

namespace Filter

variable {o : FilterOptions} {inner : Text → Journal (Option Value)} {token : Text}

theorem reject_isNoted (reason : Reason) : (reject o token reason).IsNoted token := by
  unfold reject
  split
  · exact nofun
  · exact fun _ => ⟨[], reason, rfl⟩

theorem compileOperand_isNoted (tag operand : Text) :
    (compileOperand o inner token tag operand).IsNoted token := by
  apply Journal.IsNoted.bind
  intro node
  cases node with
  | some v => exact Journal.isNoted_some _
  | none => exact reject_isNoted _

/-- Whatever the tokens inside a token give, the token is refused if it has no node. -/
theorem compileShape_isNoted (shape : Shape) :
    (compileShape o inner token shape).IsNoted token := by
  cases shape with
  | elemMatch body =>
    simp only [compileShape]
    split
    · exact reject_isNoted _
    · exact Journal.IsNoted.bind fun _ => Journal.isNoted_some _
  | logical tag operand => exact compileOperand_isNoted tag operand
  | alternatives segments =>
    apply Journal.IsNoted.bind
    intro nodes
    split
    · exact reject_isNoted _
    · exact Journal.isNoted_some _
  | conjunction parts =>
    apply Journal.IsNoted.bind
    intro nodes
    simp only
    split
    · exact reject_isNoted _
    · exact Journal.isNoted_some _
  | comparison tag operand =>
    simp only [compileShape]
    split
    · exact reject_isNoted _
    · exact compileOperand_isNoted tag operand
  | existence answer =>
    simp only [compileShape]
    split
    · exact Journal.isNoted_some _
    · exact reject_isNoted _
  | fieldType name =>
    simp only [compileShape]
    split
    · exact Journal.isNoted_some _
    · exact reject_isNoted _
  | number n => exact Journal.IsNoted.bind fun _ => Journal.isNoted_some _
  | container | date | boolean | plain | pattern => exact Journal.isNoted_some _

theorem nodeAt_isNoted (hrules : .text ∈ o.rules) (levels : Nat) (token : Text) :
    (nodeAt o levels token).IsNoted token := by
  cases levels with
  | zero => cases token <;> exact reject_isNoted _
  | succ levels =>
    cases token with
    | nil => exact reject_isNoted _
    | cons c r =>
      obtain ⟨shape, hshape⟩ := Shape.exists_ofToken? hrules (c :: r)
      rw [nodeAt_of_shape (List.cons_ne_nil c r) hshape]
      exact compileShape_isNoted shape

theorem closed_ne_null (lenientKeys : Bool) (P : Value → Prop) :
    Closed lenientKeys (fun _ => True) P (· ≠ .null) where
  container token v _ hv hnull := by
    rw [hnull] at hv
    exact absurd (Json.read?_of_readContainer? hv).2 (by decide)
  elemMatch _ _ := nofun
  operand _ _ _ _ := nofun
  alternatives _ _ := nofun
  conjunction _ _ := nofun
  existence _ := nofun
  fieldType _ _ := nofun
  date _ := nofun
  int _ := nofun
  float _ := nofun
  bool _ := nofun
  plain _ _ := nofun
  pattern _ _ := nofun

theorem tokenNode_ne_null (o : FilterOptions) (token : Text) (depth : Int) :
    (tokenNode o token depth).Ends (fun node => ∀ v ∈ node, v ≠ .null) fun _ => True :=
  nodeAt_ends (T := fun _ => True) (P := fun _ v => v ≠ .null)
    ⟨fun _ _ => trivial, fun _ => trivial, fun _ => trivial⟩
    (fun _ => closed_ne_null o.lenientKeys _) (fun _ _ _ => trivial) (fun _ _ _ _ _ _ => trivial)
    _ trivial

section

variable (hstrict : o.strict = true)

include hstrict

theorem reject_isOwnRefusal {reason : Reason} (h : reason ∈ Reason.own) :
    (reject o token reason).Ends (· ≠ none) Fault.IsOwnRefusal := by
  rw [reject, if_pos hstrict]
  exact Journal.ends_fault (.inl ⟨token, reason, h, rfl⟩)

omit hstrict in
theorem ends_some_ne_none (v : Value) :
    (pure (some v) : Journal (Option Value)).Ends (· ≠ none) Fault.IsOwnRefusal :=
  Journal.ends_pure (Option.some_ne_none v)

omit hstrict in
theorem compileOperand_ne_none (tag : Text) {operand : Text}
    (hinner : (inner operand).Ends (· ≠ none) Fault.IsOwnRefusal) :
    (compileOperand o inner token tag operand).Ends (· ≠ none) Fault.IsOwnRefusal := by
  refine hinner.bind fun node hnode => ?_
  cases node with
  | some v => exact ends_some_ne_none _
  | none => exact absurd rfl hnode

/-- One step: if no token inside a token is without node, nor is the token. -/
theorem compileShape_ne_none {rule : Rule} {shape : Shape} (hread : rule.read? token = some shape)
    (hinner : ∀ t ∈ shape.tokens, (inner t).Ends (· ≠ none) Fault.IsOwnRefusal) :
    (compileShape o inner token shape).Ends (· ≠ none) Fault.IsOwnRefusal := by
  cases shape with
  | elemMatch body =>
    simp only [compileShape]
    split
    · exact reject_isOwnRefusal hstrict (by decide)
    · have htree : (compileFields inner o.lenientKeys (subquery body)).Ends
          (fun tree => ∀ e ∈ tree, Key.IsPath o.lenientKeys e.1 ∧ True) Fault.IsOwnRefusal := by
        refine compileFields_ends (P := fun _ => True) fun e he _ _ => ?_
        obtain ⟨d, -, rfl⟩ := List.mem_map.1 he
        exact (hinner d.2 (List.mem_filterMap.2 ⟨_, he, rfl⟩)).mono fun _ _ _ _ => trivial
      exact htree.bind fun _ _ => ends_some_ne_none _
  | logical tag operand => exact compileOperand_ne_none tag (hinner operand (.head _))
  | alternatives segments =>
    refine (Journal.ends_collect_ne_nil (Rule.segments_ne_nil hread) hinner).bind
      fun nodes hnodes => ?_
    rw [if_neg fun h => hnodes (List.isEmpty_iff.1 h)]
    exact ends_some_ne_none _
  | conjunction parts =>
    have hnodes : (Journal.collect inner parts).Ends (fun nodes => ∀ v ∈ nodes, True)
        Fault.IsOwnRefusal :=
      Journal.ends_collect fun t ht => (hinner t ht).mono fun _ _ _ _ => trivial
    refine hnodes.bind fun nodes _ => ?_
    simp only
    split
    · exact reject_isOwnRefusal hstrict (by decide)
    · exact ends_some_ne_none _
  | comparison tag operand =>
    simp only [compileShape]
    split
    · exact reject_isOwnRefusal hstrict (by decide)
    · exact compileOperand_ne_none tag (hinner operand (.head _))
  | existence answer =>
    simp only [compileShape]
    split
    · exact ends_some_ne_none _
    · exact reject_isOwnRefusal hstrict (by decide)
  | fieldType name =>
    simp only [compileShape]
    split
    · exact ends_some_ne_none _
    · exact reject_isOwnRefusal hstrict (by decide)
  | number n =>
    have hvalue : (Journal.ofExcept (numberValue n)).Ends (fun _ => True) Fault.IsOwnRefusal :=
      numberValue_ends (fun _ => trivial) (fun _ => trivial) fun count hcount =>
        .inr ⟨count, rfl, (Numeral.lt_of_toInt?_error hcount).1⟩
    exact hvalue.bind fun _ _ => ends_some_ne_none _
  | container | date | boolean | plain | pattern => exact ends_some_ne_none _

/-- The run: strict options give a node, or refuse a token for a reason of its own. -/
theorem nodeAt_ne_none (hrules : .text ∈ o.rules) (levels : Nat) (token : Text) :
    (nodeAt o levels token).Ends (· ≠ none) Fault.IsOwnRefusal := by
  induction levels generalizing token with
  | zero => cases token <;> exact reject_isOwnRefusal hstrict (by decide)
  | succ levels ih =>
    cases token with
    | nil => exact reject_isOwnRefusal hstrict (by decide)
    | cons c r =>
      obtain ⟨shape, hshape⟩ := Shape.exists_ofToken? hrules (c :: r)
      obtain ⟨rule, -, hread⟩ := List.exists_of_findSome?_eq_some hshape
      rw [nodeAt_of_shape (List.cons_ne_nil c r) hshape]
      exact compileShape_ne_none hstrict hread fun t _ => ih t

end

end Filter

open FindQuery.Filter in
/-- With strict options every token has a node, or is refused for a reason of its own or of a token
inside it, or holds an integer with too many digits. With lenient options a token without node is
the last one that the journal refuses, and strict options refuse it or a token inside it. -/
theorem refusals_are_never_silent (o : FilterOptions) (hrules : .text ∈ o.rules) (token : Text)
    (depth : Int) :
    ((∃ v, v ≠ .null ∧
        (tokenNode { o with strict := true } token depth).outcome = .ok (some v)) ∨
      (∃ refused, ∃ reason ∈ [Reason.emptyToken, .maxDepth, .emptyValue, .noOperators,
          .invalidExists, .invalidType],
        (tokenNode { o with strict := true } token depth).outcome =
          .error (.rejected refused reason)) ∨
      ∃ count, 4300 < count ∧
        (tokenNode { o with strict := true } token depth).outcome =
          .error (.tooManyDigits count)) ∧
    (tokenNode { o with strict := false } token depth).outcome ≠ .ok (some .null) ∧
    ((tokenNode { o with strict := false } token depth).outcome = .ok none →
      (∃ earlier reason, (tokenNode { o with strict := false } token depth).records =
        earlier ++ [.rejected token reason]) ∧
      ∃ refused reason, (tokenNode { o with strict := true } token depth).outcome =
        .error (.rejected refused reason)) := by
  refine ⟨?_, ?_, ?_⟩
  · have hnode : (tokenNode { o with strict := true } token depth).Ends (· ≠ none)
        Fault.IsOwnRefusal :=
      nodeAt_ne_none (o := { o with strict := true }) rfl hrules _ token
    cases ho : (tokenNode { o with strict := true } token depth).outcome with
    | ok node =>
      cases node with
      | none => exact absurd rfl (hnode.value none ho)
      | some v => exact .inl ⟨v, (tokenNode_ne_null _ token depth).value _ ho v rfl, rfl⟩
    | error e =>
      rcases hnode.fault e ho with ⟨refused, reason, hreason, rfl⟩ | ⟨count, rfl, hcount⟩
      · exact .inr (.inl ⟨refused, reason, hreason, rfl⟩)
      · exact .inr (.inr ⟨count, hcount, rfl⟩)
  · intro hnull
    exact (tokenNode_ne_null _ token depth).value _ hnull .null rfl rfl
  · intro hnone
    have hnoted : (tokenNode { o with strict := false } token depth).IsNoted token :=
      nodeAt_isNoted (o := { o with strict := false }) hrules _ token
    have hstrict : (tokenNode { o with strict := false } token depth).untilRefusal =
        tokenNode { o with strict := true } token depth :=
      untilRefusal_nodeAt o _ token
    obtain ⟨earlier, reason, hrecords⟩ := hnoted hnone
    have hlast : .rejected token reason ∈
        (tokenNode { o with strict := false } token depth).records := by
      rw [hrecords]
      exact List.mem_append_right _ (.head _)
    obtain ⟨refused, r, hfirst⟩ := Journal.exists_firstRefusal hlast
    refine ⟨⟨earlier, reason, hrecords⟩, refused, r, ?_⟩
    rw [← hstrict]
    exact (Journal.stopsAtRefusal_untilRefusal _).refused refused r hfirst

theorem refusals_are_never_silent_operand :
    (Filter.tokenNode { strict := false } "{not}{gt}".toList 0).outcome = .ok none ∧
    (∃ earlier reason, (Filter.tokenNode { strict := false } "{not}{gt}".toList 0).records =
      earlier ++ [.rejected "{not}{gt}".toList reason]) ∧
    ∃ refused reason, (Filter.tokenNode { strict := true } "{not}{gt}".toList 0).outcome =
      .error (.rejected refused reason) := by
  have hnone := Journal.outcome_of_toOption
    (x := Filter.tokenNode { strict := false } "{not}{gt}".toList 0) (a := none)
    (by decide +kernel)
  obtain ⟨-, -, hnoted⟩ := refusals_are_never_silent {} (by decide) "{not}{gt}".toList 0
  exact ⟨hnone, hnoted hnone⟩

end FindQuery

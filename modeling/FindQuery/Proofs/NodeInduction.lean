import FindQuery.Proofs.Endings
import FindQuery.Proofs.Inheritance

namespace FindQuery

/-- A key made of the characters of field paths that is not a part of the query. -/
def Key.IsPath (lenientKeys : Bool) (k : Text) : Prop :=
  (∀ c ∈ k, isKeyChar lenientKeys c = true) ∧ k ∉ reserved

namespace Filter

/-- If a token has `T` and the nodes of the tokens inside it have `P`, its node has `R`. -/
structure Closed (lenientKeys : Bool) (T : Text → Prop) (P R : Value → Prop) : Prop where
  container : ∀ token v, T token → Json.readContainer? token = some v → R v
  elemMatch : ∀ tree : Fields Value, (∀ e ∈ tree, Key.IsPath lenientKeys e.1 ∧ P e.2) →
    R (operatorNode Tag.elemMatch (.map tree))
  operand : ∀ tag v, tag ∈ Tag.logical ++ Tag.comparison → P v → R (operatorNode tag v)
  alternatives : ∀ nodes, (∀ v ∈ nodes, P v) → R (operatorNode "or".toList (.list nodes))
  conjunction : ∀ nodes : List Value, (∀ v ∈ nodes, P v) →
    R (.map (mergeNodes (nodes.filterMap Value.entries?)))
  existence : ∀ b, R (operatorNode Tag.existence (.bool b))
  fieldType : ∀ name ∈ Tag.fieldTypes, R (operatorNode Tag.fieldType (.str name))
  date : ∀ x : Instant, R (.str x.toText)
  int : ∀ n, R (.int n)
  float : ∀ x, R (.float x)
  bool : ∀ b, R (.bool b)
  plain : ∀ token, T token → R (.str token)
  pattern : ∀ token, T token → R (patternNode (Pattern.unmarked token))

section

variable {o : FilterOptions} {inner : Text → Journal (Option Value)} {token : Text}
  {T : Text → Prop} {P R : Value → Prop} {F : Fault → Prop}

theorem reject_ends (reason : Reason) (h : o.strict = true → F (.rejected token reason)) :
    (reject o token reason).Ends (fun node => ∀ v ∈ node, R v) F := by
  unfold reject
  split
  · next hs => exact Journal.ends_fault (h hs)
  · refine (Journal.ends_write _).bind fun _ _ => Journal.ends_pure ?_
    intro v hv
    cases hv

theorem ends_some {v : Value} (h : R v) :
    (pure (some v) : Journal (Option Value)).Ends (fun node => ∀ v ∈ node, R v) F := by
  apply Journal.ends_pure
  intro w hw
  cases hw
  exact h

theorem compileOperand_ends {tag operand : Text}
    (hreject : o.strict = true → ∀ reason, F (.rejected token reason))
    (hinner : (inner operand).Ends (fun node => ∀ v ∈ node, P v) F)
    (hR : ∀ v, P v → R (operatorNode tag v)) :
    (compileOperand o inner token tag operand).Ends (fun node => ∀ v ∈ node, R v) F := by
  refine hinner.bind fun node hnode => ?_
  cases node with
  | some v => exact ends_some (hR v (hnode v rfl))
  | none => exact reject_ends _ fun hs => hreject hs _

theorem compileField_ends {lenientKeys : Bool} {field : Text × Value}
    (h : Key.clean lenientKeys field.1 ∉ Key.reserved → field.2 ≠ .null →
      (compileValue inner field.2).Ends (fun node => ∀ v ∈ node, P v) F) :
    (compileField inner lenientKeys field).Ends
      (fun entry => ∀ e ∈ entry, Key.IsPath lenientKeys e.1 ∧ P e.2) F := by
  simp only [compileField]
  split
  · apply Journal.ends_pure
    intro e he
    cases he
  · next hfield =>
    rw [not_or] at hfield
    refine (h hfield.1 hfield.2).bind fun node hnode => ?_
    cases node with
    | some v =>
      apply Journal.ends_pure
      intro e he
      cases he
      exact ⟨⟨fun c hc => (Key.mem_clean.1 hc).2, hfield.1⟩, hnode v rfl⟩
    | none =>
      refine (Journal.ends_write _).bind fun _ _ => Journal.ends_pure ?_
      intro e he
      cases he

theorem compileFields_ends {lenientKeys : Bool} {fields : Fields Value}
    (h : ∀ e ∈ fields, Key.clean lenientKeys e.1 ∉ Key.reserved → e.2 ≠ .null →
      (compileValue inner e.2).Ends (fun node => ∀ v ∈ node, P v) F) :
    (compileFields inner lenientKeys fields).Ends
      (fun tree => ∀ e ∈ tree, Key.IsPath lenientKeys e.1 ∧ P e.2) F := by
  refine (Journal.ends_collect fun e he => compileField_ends (h e he)).bind fun entries hentries =>
    Journal.ends_pure ?_
  intro e he
  exact hentries e (Fields.mem_ofList he)

theorem compileValue_ends {v : Value} (hv : v.IsTextual T) (hne : v ≠ .null)
    (hinner : ∀ t, T t → (inner t).Ends (fun node => ∀ v ∈ node, P v) F)
    (hnodes : ∀ nodes, (∀ n ∈ nodes, P n) → ∀ n ∈ nodeOfValues nodes, P n) :
    (compileValue inner v).Ends (fun node => ∀ v ∈ node, P v) F := by
  cases v with
  | null => exact (hne rfl).elim
  | str t => exact hinner t hv
  | list items =>
    have hitems : ∀ v ∈ items, (compileItem inner v).Ends (fun node => ∀ v ∈ node, P v) F := by
      intro v hmem
      rcases hv v hmem with rfl | ⟨t, rfl, ht⟩
      · apply Journal.ends_pure
        intro w hw
        cases hw
      · exact hinner t ht
    exact (Journal.ends_collect hitems).bind fun nodes hn => Journal.ends_pure (hnodes nodes hn)
  | bool | int | float | map => exact hv.elim

theorem forall_mem_nodeOfValues {nodes : List Value}
    (hmerge : P (.map (mergeNodes (nodes.filterMap Value.entries?)))) (hlist : P (.list nodes)) :
    ∀ v ∈ nodeOfValues nodes, P v := by
  intro v hv
  rw [nodeOfValues] at hv
  split at hv
  · cases hv
  · split at hv
    · cases hv
      exact hmerge
    · cases hv
      exact hlist

theorem numberValue_ends {n : Numeral} (hint : ∀ k, R (.int k)) (hfloat : ∀ x, R (.float x))
    (hfault : ∀ count, n.toInt? = .error count → F (.tooManyDigits count)) :
    (Journal.ofExcept (numberValue n)).Ends R F := by
  unfold numberValue
  split
  · cases hk : n.toInt? with
    | ok k => exact Journal.ends_pure (hint k)
    | error count => exact Journal.ends_fault (hfault count hk)
  · exact Journal.ends_pure (hfloat _)

/-- One step: a token is compiled as the rule that read it says. -/
theorem compileShape_ends {rule : Rule} {shape : Shape} (hread : rule.read? token = some shape)
    (htoken : T token) (hclosed : Closed o.lenientKeys T P R)
    (hinner : ∀ t ∈ shape.tokens, (inner t).Ends (fun node => ∀ v ∈ node, P v) F)
    (hreject : o.strict = true → ∀ reason, F (.rejected token reason))
    (hnumber : ∀ n count, Numeral.ofText? token = some n → n.toInt? = .error count →
      F (.tooManyDigits count)) :
    (compileShape o inner token shape).Ends (fun node => ∀ v ∈ node, R v) F := by
  have hrefuse (reason : Reason) :
      (reject o token reason).Ends (fun node => ∀ v ∈ node, R v) F :=
    reject_ends reason fun hs => hreject hs reason
  cases rule with
  | json =>
    obtain ⟨v, hv, rfl⟩ := Option.map_eq_some_iff.1 hread
    exact ends_some (hclosed.container token v htoken hv)
  | elemMatch =>
    obtain ⟨tagged, -, rfl⟩ := Option.map_eq_some_iff.1 hread
    simp only [compileShape]
    split
    · exact hrefuse _
    · refine Journal.Ends.bind (compileFields_ends ?_) fun tree htree =>
        ends_some (hclosed.elemMatch tree htree)
      intro e he _ _
      obtain ⟨d, -, rfl⟩ := List.mem_map.1 he
      exact hinner d.2 (List.mem_filterMap.2 ⟨_, he, rfl⟩)
  | logical =>
    obtain ⟨tagged, hr, rfl⟩ := Option.map_eq_some_iff.1 hread
    have htag := (Tag.eq_of_read? hr).1
    exact compileOperand_ends hreject (hinner _ (.head _)) fun v hv =>
      hclosed.operand _ v (List.mem_append.2 (.inl htag)) hv
  | or =>
    obtain ⟨segments, -, rfl⟩ := Option.map_eq_some_iff.1 hread
    refine (Journal.ends_collect hinner).bind fun nodes hnodes => ?_
    split
    · exact hrefuse _
    · exact ends_some (hclosed.alternatives nodes hnodes)
  | and =>
    obtain ⟨parts, -, rfl⟩ := Option.map_eq_some_iff.1 hread
    refine (Journal.ends_collect hinner).bind fun nodes hnodes => ?_
    simp only
    split
    · exact hrefuse _
    · exact ends_some (hclosed.conjunction nodes hnodes)
  | comparison =>
    obtain ⟨tagged, hr, rfl⟩ := Option.map_eq_some_iff.1 hread
    have htag := (Tag.eq_of_read? hr).1
    simp only [compileShape]
    split
    · exact hrefuse _
    · exact compileOperand_ends hreject (hinner _ (.head _)) fun v hv =>
        hclosed.operand _ v (List.mem_append.2 (.inr htag)) hv
  | element =>
    obtain ⟨tagged, -, rfl⟩ := Option.map_eq_some_iff.1 hread
    simp only [Rule.elementShape]
    split
    · simp only [compileShape]
      split
      · exact ends_some (hclosed.existence _)
      · exact hrefuse _
    · simp only [compileShape]
      split
      · next hname => exact ends_some (hclosed.fieldType _ hname)
      · exact hrefuse _
  | date =>
    obtain ⟨x, -, rfl⟩ := Option.map_eq_some_iff.1 hread
    exact ends_some (hclosed.date x)
  | number =>
    obtain ⟨n, hn, rfl⟩ := Option.map_eq_some_iff.1 hread
    have hvalue : (Journal.ofExcept (numberValue n)).Ends R F :=
      numberValue_ends hclosed.int hclosed.float fun count hc => hnumber n count hn hc
    exact hvalue.bind fun v hv => ends_some hv
  | boolean =>
    obtain ⟨b, -, rfl⟩ := Option.map_eq_some_iff.1 hread
    exact ends_some (hclosed.bool b)
  | text =>
    cases hread
    split
    · exact ends_some (hclosed.pattern token htoken)
    · exact ends_some (hclosed.plain token htoken)

/-- The run: `P` may depend on the number of levels that are left. -/
theorem nodeAt_ends {P : Nat → Value → Prop} (hT : Text.Inherited T)
    (hclosed : ∀ levels, Closed o.lenientKeys T (P levels) (P (levels + 1)))
    (hreject : o.strict = true → ∀ token reason, F (.rejected token reason))
    (hnumber : ∀ token n count, T token → Numeral.ofText? token = some n →
      n.toInt? = .error count → F (.tooManyDigits count)) (levels : Nat) (htoken : T token) :
    (nodeAt o levels token).Ends (fun node => ∀ v ∈ node, P levels v) F := by
  induction levels generalizing token with
  | zero => cases token <;> exact reject_ends _ fun hs => hreject hs _ _
  | succ levels ih =>
    cases token with
    | nil => exact reject_ends _ fun hs => hreject hs _ _
    | cons c r =>
      simp only [nodeAt]
      split
      · next shape hshape =>
        obtain ⟨rule, -, hread⟩ := List.exists_of_findSome?_eq_some hshape
        exact compileShape_ends hread htoken (hclosed levels)
          (fun t ht => ih (hT.tokens hread htoken t ht)) (fun hs => hreject hs _)
          fun n count => hnumber _ n count htoken
      · apply Journal.ends_pure
        intro v hv
        cases hv

end

end Filter

end FindQuery

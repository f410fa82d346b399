import FindQuery.Filter.Node
import FindQuery.Proofs.Endings
import FindQuery.Proofs.Merging

namespace FindQuery

namespace Journal

variable {α β : Type} {f : α → Journal (Option β)} {records : α → List Record}
  {result : α → Option β} {xs : List α}

theorem collect_of_ok (h : ∀ x ∈ xs, f x = ⟨records x, .ok (result x)⟩) :
    collect f xs = ⟨xs.flatMap records, .ok (xs.filterMap result)⟩ := by
  induction xs with
  | nil => rfl
  | cons x xs ih =>
    rw [collect, h x (.head _), ih fun y hy => h y (.tail _ hy), List.flatMap_cons,
      List.filterMap_cons]
    cases result x <;> simp [Bind.bind, Pure.pure, Journal.bind, Journal.pure]

theorem collect_of_error {x : α} {fault : Fault} (ys : List α)
    (h : ∀ y ∈ xs, f y = ⟨records y, .ok (result y)⟩) (hx : (f x).outcome = .error fault) :
    collect f (xs ++ x :: ys) = ⟨xs.flatMap records ++ (f x).records, .error fault⟩ := by
  have hrest : collect f (x :: ys) = ⟨(f x).records, .error fault⟩ := by
    rw [collect, bind_of_error hx]
  rw [collect_append, collect_of_ok h, hrest]
  rfl

/-- Either all items end well, or one of them is the first to end in a fault. -/
theorem all_ok_or_first_error (g : α → Journal β) (xs : List α) :
    (∀ x ∈ xs, ∃ y, (g x).outcome = .ok y) ∨
      ∃ before x after fault, xs = before ++ x :: after ∧
        (∀ y ∈ before, ∃ z, (g y).outcome = .ok z) ∧ (g x).outcome = .error fault := by
  induction xs with
  | nil => exact .inl nofun
  | cons x xs ih =>
    cases hx : (g x).outcome with
    | error fault => exact .inr ⟨[], x, xs, fault, rfl, nofun, hx⟩
    | ok y =>
      rcases ih with ih | ⟨before, z, after, fault, rfl, hbefore, hz⟩
      · exact .inl (List.forall_mem_cons.2 ⟨⟨y, hx⟩, ih⟩)
      · exact .inr ⟨x :: before, z, after, fault, rfl,
          List.forall_mem_cons.2 ⟨⟨y, hx⟩, hbefore⟩, hz⟩

end Journal

namespace Fields

variable {α β : Type} (path : β → Text) (value : β → Option α) (xs : List β)

theorem keys_ofList_filterMap :
    (ofList (xs.filterMap fun x => (value x).map fun v => (path x, v))).keys =
      ((xs.filter fun x => (value x).isSome).map path).eraseDups := by
  rw [keys_ofList]
  congr 1
  induction xs with
  | nil => rfl
  | cons x xs ih =>
    cases h : value x with
    | none => simpa [h] using ih
    | some v => simpa [h] using ih

theorem find?_ofList_filterMap (k : Text) :
    (ofList (xs.filterMap fun x => (value x).map fun v => (path x, v))).find? k =
      (xs.reverse.filter fun x => path x = k).findSome? value := by
  -- in the reversed list, the last pair with a name is the first one
  rw [find?_ofList, ← List.filterMap_reverse]
  induction xs.reverse with
  | nil => rfl
  | cons x xs ih =>
    by_cases hk : path x = k <;> cases h : value x <;> simp [h, hk, ← ih]

end Fields

namespace Filter

variable (o : FilterOptions) (depth : Int) (e : Text × Value)

/-- A field is compiled if it is no part of the query and has a value. -/
def IsCompiled : Prop := Key.clean o.lenientKeys e.1 ∉ Key.reserved ∧ e.2 ≠ .null

instance : Decidable (IsCompiled o e) := inferInstanceAs (Decidable (_ ∧ _))

/-- The compilation of a field on its own. -/
def nodeRun : Journal (Option Value) :=
  if IsCompiled o e then compileValue (tokenNode o · depth) e.2 else pure none

/-- The node that a field gives, if there is one. -/
def node? : Option Value := (nodeRun o depth e).outcome.toOption.join

/-- A field is dropped if it is compiled and gives no node. -/
def IsDropped : Prop := IsCompiled o e ∧ (nodeRun o depth e).outcome.toOption = some none

instance : Decidable (IsDropped o depth e) := inferInstanceAs (Decidable (_ ∧ _))

/-- What is noted for a field: the records of its value, and one that names a dropped field. -/
def recordsOf : List Record :=
  (nodeRun o depth e).records ++ if IsDropped o depth e then [.dropped e.1] else []

variable {o depth e}

theorem compileField_of_isCompiled (h : IsCompiled o e) :
    compileField (tokenNode o · depth) o.lenientKeys e = do
      match ← nodeRun o depth e with
      | some node => return some (Key.clean o.lenientKeys e.1, node)
      | none =>
        Journal.write (.dropped e.1)
        return none := by
  rw [nodeRun, if_pos h]
  exact if_neg (not_or.2 h)

theorem compileField_of_not_isCompiled (h : ¬ IsCompiled o e) :
    compileField (tokenNode o · depth) o.lenientKeys e = pure none := by
  have hskip : Key.clean o.lenientKeys e.1 ∈ Key.reserved ∨ e.2 = .null := by
    simpa only [IsCompiled, Decidable.not_and_iff_or_not, Decidable.not_not] using h
  exact if_pos hskip

theorem node?_of_ok {node : Option Value} (h : (nodeRun o depth e).outcome = .ok node) :
    node? o depth e = node := by
  rw [node?, h]
  cases node <;> rfl

theorem isDropped_iff_of_ok {node : Option Value} (h : (nodeRun o depth e).outcome = .ok node) :
    IsDropped o depth e ↔ IsCompiled o e ∧ node = none := by
  rw [IsDropped, h]
  exact and_congr_right fun _ => Option.some_inj

theorem compileField_of_ok {node : Option Value} (h : (nodeRun o depth e).outcome = .ok node) :
    compileField (tokenNode o · depth) o.lenientKeys e =
      ⟨recordsOf o depth e, .ok (node.map fun v => (Key.clean o.lenientKeys e.1, v))⟩ := by
  by_cases hc : IsCompiled o e
  · rw [compileField_of_isCompiled hc, Journal.bind_of_ok h, recordsOf]
    cases node with
    | none =>
      rw [if_pos ((isDropped_iff_of_ok h).2 ⟨hc, rfl⟩)]
      rfl
    | some v =>
      rw [if_neg fun hd => nomatch ((isDropped_iff_of_ok h).1 hd).2]
      rfl
  · -- a field that is not compiled gives nothing, and that is not noted
    have hrun : nodeRun o depth e = pure none := if_neg hc
    rw [hrun] at h
    cases h
    rw [compileField_of_not_isCompiled hc, recordsOf, hrun, if_neg fun hd => hc hd.1]
    rfl

theorem compileField_of_error {fault : Fault} (h : (nodeRun o depth e).outcome = .error fault) :
    compileField (tokenNode o · depth) o.lenientKeys e =
      ⟨(nodeRun o depth e).records, .error fault⟩ := by
  have hc : IsCompiled o e := by
    by_contra hc
    rw [nodeRun, if_neg hc] at h
    cases h
  rw [compileField_of_isCompiled hc, Journal.bind_of_error h]

variable {raw : Fields Value}

theorem compileField_of_exists (h : ∃ node, (nodeRun o depth e).outcome = .ok node) :
    compileField (tokenNode o · depth) o.lenientKeys e =
      ⟨recordsOf o depth e,
        .ok ((node? o depth e).map fun v => (Key.clean o.lenientKeys e.1, v))⟩ := by
  obtain ⟨node, hnode⟩ := h
  rw [compileField_of_ok hnode, node?_of_ok hnode]

theorem compile_of_ok (h : ∀ e ∈ raw, ∃ node, (nodeRun o depth e).outcome = .ok node) :
    compile o raw depth =
      ⟨raw.flatMap (recordsOf o depth),
        .ok (Fields.ofList (raw.filterMap fun e =>
          (node? o depth e).map fun v => (Key.clean o.lenientKeys e.1, v)))⟩ := by
  have hfields := Journal.collect_of_ok fun e he => compileField_of_exists (h e he)
  rw [compile, compileFields, hfields]
  simp [Bind.bind, Pure.pure, Journal.bind, Journal.pure]

theorem compile_of_error {fault : Fault} (after : Fields Value)
    (h : ∀ d ∈ raw, ∃ node, (nodeRun o depth d).outcome = .ok node)
    (he : (nodeRun o depth e).outcome = .error fault) :
    compile o (raw ++ e :: after) depth =
      ⟨raw.flatMap (recordsOf o depth) ++ (nodeRun o depth e).records, .error fault⟩ := by
  have hfield := compileField_of_error he
  have hfault := congrArg Journal.outcome hfield
  have hfields :=
    Journal.collect_of_error after (fun d hd => compileField_of_exists (h d hd)) hfault
  rw [compile, compileFields, hfields, hfield]
  rfl

theorem outcome_compile_singleton (o : FilterOptions) (depth : Int) (e : Text × Value) :
    (compile o [e] depth).outcome = (nodeRun o depth e).outcome.map fun node =>
      (node.map fun v => (Key.clean o.lenientKeys e.1, v)).toList := by
  cases h : (nodeRun o depth e).outcome with
  | error fault =>
    rw [← List.nil_append [e], compile_of_error [] (List.forall_mem_nil _) h]
    rfl
  | ok node =>
    rw [compile_of_ok (List.forall_mem_singleton.2 ⟨node, h⟩), List.filterMap_cons,
      node?_of_ok h]
    cases node <;> rfl

/-- Fields are compiled one after the other, and each may replace what was there before. -/
theorem compile_append (before after : Fields Value) :
    compile o (before ++ after) depth = do
      let tree ← compile o before depth
      let next ← compile o after depth
      return tree.merge next := by
  simp only [compile, compileFields, Journal.collect_append, bind_assoc, pure_bind,
    Fields.ofList_append]

theorem outcome_compile_cons_of_none (h : (nodeRun o depth e).outcome = .ok none)
    (rest : Fields Value) :
    (compile o (e :: rest) depth).outcome = (compile o rest depth).outcome := by
  have hfield : (compileField (tokenNode o · depth) o.lenientKeys e).outcome = .ok none :=
    congrArg Journal.outcome (compileField_of_ok h)
  rw [compile, compileFields, Journal.collect, bind_assoc, Journal.bind_of_ok hfield]
  simp only [bind_assoc, pure_bind, Option.toList_none, List.nil_append]
  rfl

theorem outcome_compile_of_none (h : (nodeRun o depth e).outcome = .ok none)
    (before after : Fields Value) :
    (compile o (before ++ e :: after) depth).outcome =
      (compile o (before ++ after) depth).outcome := by
  simp only [compile_append, Journal.outcome_bind, outcome_compile_cons_of_none h]

/-- A filter is compiled field by field. If every field ends well, the tree has the paths of the
fields that give nodes in the order in which they occur first, each with the node of the last of
them, and the records are those of the fields, with one more for each field that is dropped.
Otherwise the first field that ends in a fault is the end. A field that gives no node may be left
out, and the tree of two filters, one after the other, is the merge of their trees. -/
theorem filters_are_compiled_field_by_field (o : FilterOptions) (depth : Int)
    (raw : Fields Value) :
    (((∀ e ∈ raw, ∃ node, (nodeRun o depth e).outcome = .ok node) ∧
        ∃ tree, compile o raw depth =
            ⟨raw.flatMap fun e => (nodeRun o depth e).records ++
              if IsDropped o depth e then [.dropped e.1] else [], .ok tree⟩ ∧
          tree.keys = ((raw.filter fun e => (node? o depth e).isSome).map
            fun e => Key.clean o.lenientKeys e.1).eraseDups ∧
          ∀ path, tree.find? path =
            (raw.reverse.filter fun e => Key.clean o.lenientKeys e.1 = path).findSome?
              (node? o depth)) ∨
      ∃ before e after fault, raw = before ++ e :: after ∧
        (∀ d ∈ before, ∃ node, (nodeRun o depth d).outcome = .ok node) ∧
        (nodeRun o depth e).outcome = .error fault ∧
        compile o raw depth =
          ⟨(before.flatMap fun d => (nodeRun o depth d).records ++
            if IsDropped o depth d then [.dropped d.1] else []) ++ (nodeRun o depth e).records,
            .error fault⟩) ∧
    (∀ before e after, raw = before ++ e :: after → (nodeRun o depth e).outcome = .ok none →
      (compile o raw depth).outcome = (compile o (before ++ after) depth).outcome) ∧
    ∀ before after, raw = before ++ after →
      compile o raw depth = do
        let tree ← compile o before depth
        let next ← compile o after depth
        return tree.merge next := by
  refine ⟨?_, ?_, ?_⟩
  · rcases Journal.all_ok_or_first_error (nodeRun o depth) raw with
      hok | ⟨before, e, after, fault, rfl, hbefore, he⟩
    · exact .inl ⟨hok, _, compile_of_ok hok, Fields.keys_ofList_filterMap _ _ raw,
        Fields.find?_ofList_filterMap _ _ raw⟩
    · exact .inr ⟨before, e, after, fault, rfl, hbefore, he, compile_of_error after hbefore he⟩
  · rintro before e after rfl hnone
    exact outcome_compile_of_none hnone before after
  · rintro before after rfl
    exact compile_append before after

theorem filters_are_compiled_field_by_field_dropped :
    (compile {} [("a!".toList, .str "{gt}5".toList), ("limit!".toList, .str "9".toList),
        ("a".toList, .str []), ("b".toList, .str "x".toList)] 0).outcome =
      .ok [("a".toList, .map [("$gt".toList, .int 5)]), ("b".toList, .str "x".toList)] ∧
    (compile {} [("a!".toList, .str "{gt}5".toList), ("limit!".toList, .str "9".toList),
        ("a".toList, .str []), ("b".toList, .str "x".toList)] 0).records =
      [.rejected [] .emptyToken, .dropped "a".toList] := by
  obtain ⟨-, hnone, happend⟩ := filters_are_compiled_field_by_field {} 0
    [("a!".toList, .str "{gt}5".toList), ("limit!".toList, .str "9".toList),
      ("a".toList, .str []), ("b".toList, .str "x".toList)]
  have hdropped : (nodeRun {} 0 ("a".toList, .str [])).outcome = .ok none :=
    Journal.outcome_of_toOption (by decide +kernel)
  constructor
  · rw [hnone [_, _] _ [_] rfl hdropped]
    exact Journal.outcome_of_toOption (by decide +kernel)
  · rw [happend [_, _] [_, _] rfl]
    decide +kernel

end Filter

end FindQuery

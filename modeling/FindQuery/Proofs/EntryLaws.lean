import FindQuery.Proofs.KeylessJson
import FindQuery.Proofs.NodeInduction

namespace FindQuery

/-- All entries of the objects inside a value satisfy `E`, wherever the value stands. -/
def Value.AllEntries (E : Option Text → Text × Value → Prop) (v : Value) : Prop :=
  ∀ key, v.AllObjects (fun k entries => ∀ e ∈ entries, E k e) key

namespace Value

variable {E : Option Text → Text × Value → Prop}

theorem allEntries_atom {v : Value} (hmap : v.kind ≠ .map) (hlist : v.kind ≠ .list) :
    v.AllEntries E :=
  fun _ => .atom hmap hlist

theorem allEntries_list {items : List Value} (h : ∀ v ∈ items, v.AllEntries E) :
    (Value.list items).AllEntries E :=
  fun _ => .list fun v hv => h v hv none

theorem allEntries_map {entries : Fields Value} (hentries : ∀ key, ∀ e ∈ entries, E key e)
    (hvalues : ∀ e ∈ entries,
      e.2.AllObjects (fun k entries => ∀ e ∈ entries, E k e) (some e.1)) :
    (Value.map entries).AllEntries E :=
  fun key => .map (hentries key) hvalues

theorem allEntries_of_isKeyless {v : Value} (h : v.IsKeyless) : v.AllEntries E := by
  intro key
  refine (h key).mono fun k entries hentries e he => ?_
  rw [hentries] at he
  cases he

theorem allEntries_mergeNodes {nodes : List Value} (h : ∀ v ∈ nodes, v.AllEntries E) :
    (Value.map (Filter.mergeNodes (nodes.filterMap entries?))).AllEntries E := by
  apply allEntries_map
  · intro key e he
    obtain ⟨entries, hentries, he⟩ := Filter.exists_map_of_mem_mergeNodes he
    exact (h _ hentries key).self e he
  · intro e he
    obtain ⟨entries, hentries, he⟩ := Filter.exists_map_of_mem_mergeNodes he
    exact (h _ hentries none).entry he

end Value

namespace Filter

/-- The tags whose operators take what their tokens hold. -/
def operandTags : List Text := Tag.elemMatch :: (Tag.logical ++ Tag.comparison ++ Tag.element)

/-- The entries that the builders write obey a law: operators with any operand, the two entries of
a search pattern, and field paths in the query on array elements. -/
structure EntryLaw (lenientKeys : Bool) (E : Option Text → Text × Value → Prop) : Prop where
  operator : ∀ tag ∈ operandTags, ∀ key v, E key (Tag.operator tag, v)
  pattern : ∀ key t, E key (Tag.operator Tag.regex, .str (Pattern.anchored t))
  options : ∀ key v, E key (Tag.operator "options".toList, v)
  field : ∀ e, Key.IsPath lenientKeys e.1 → E (some (Tag.operator Tag.elemMatch)) e

namespace EntryLaw

variable {lenientKeys : Bool} {E : Option Text → Text × Value → Prop} (h : EntryLaw lenientKeys E)

include h

theorem operatorNode {tag : Text} {v : Value} (htag : tag ∈ operandTags)
    (hv : v.AllObjects (fun k entries => ∀ e ∈ entries, E k e) (some (Tag.operator tag))) :
    (operatorNode tag v).AllEntries E := by
  apply Value.allEntries_map
  · exact fun key => List.forall_mem_singleton.2 (h.operator tag htag key v)
  · exact List.forall_mem_singleton.2 hv

/-- One step: the builders keep a law of entries. -/
theorem closed : Closed lenientKeys (fun t => '"' ∉ t ∧ '%' ∉ t) (·.AllEntries E)
    (·.AllEntries E) where
  container token v ht hv := Value.allEntries_of_isKeyless (Json.readContainer?_keyless ht.1 hv)
  elemMatch tree htree := by
    apply h.operatorNode (by decide)
    apply Value.AllObjects.map
    · exact fun e he => h.field e (htree e he).1
    · exact fun e he => (htree e he).2 _
  operand tag v htag hv := by
    have htags : ∀ x ∈ Tag.logical ++ Tag.comparison, x ∈ operandTags := by decide
    exact h.operatorNode (htags tag htag) (hv _)
  alternatives nodes hnodes := h.operatorNode (by decide) (Value.allEntries_list hnodes _)
  conjunction nodes hnodes := Value.allEntries_mergeNodes hnodes
  existence b := h.operatorNode (by decide) (Value.allEntries_atom (v := .bool b) nofun nofun _)
  fieldType t _ := h.operatorNode (by decide) (Value.allEntries_atom (v := .str t) nofun nofun _)
  date _ := Value.allEntries_atom nofun nofun
  int _ := Value.allEntries_atom nofun nofun
  float _ := Value.allEntries_atom nofun nofun
  bool _ := Value.allEntries_atom nofun nofun
  plain _ _ := Value.allEntries_atom nofun nofun
  pattern token _ := by
    have hstr (t : Text) : (Value.str t).AllEntries E := Value.allEntries_atom nofun nofun
    apply Value.allEntries_map
    · intro key
      exact List.forall_mem_cons.2
        ⟨h.pattern key _, List.forall_mem_singleton.2 (h.options key _)⟩
    · exact List.forall_mem_cons.2 ⟨hstr _ _, List.forall_mem_singleton.2 (hstr _ _)⟩

end EntryLaw

section

variable {o : FilterOptions} {E : Option Text → Text × Value → Prop}
  (h : EntryLaw o.lenientKeys E) (depth : Int)

include h

/-- The run: a law of entries holds of the node of every token. -/
theorem tokenNode_allEntries {token : Text} (htoken : '"' ∉ token ∧ '%' ∉ token) :
    (tokenNode o token depth).Ends (fun node => ∀ v ∈ node, v.AllEntries E) fun _ => True :=
  nodeAt_ends (P := fun _ v => v.AllEntries E) (Text.inherited_not_mem (by decide) (by decide))
    (fun _ => h.closed) (fun _ _ _ => trivial) (fun _ _ _ _ _ _ => trivial) _ htoken

theorem compile_allEntries {fields : Fields Value}
    (hfields : ∀ e ∈ fields, e.2.IsTextual fun t => '"' ∉ t ∧ '%' ∉ t) :
    (compile o fields depth).Ends
      (fun tree => ∀ e ∈ tree, Key.IsPath o.lenientKeys e.1 ∧ e.2.AllEntries E)
      fun _ => True :=
  compileFields_ends fun e he _ hne =>
    compileValue_ends (hfields e he) hne (fun _ ht => tokenNode_allEntries h depth ht)
      fun _ hnodes => forall_mem_nodeOfValues (Value.allEntries_mergeNodes hnodes)
        (Value.allEntries_list hnodes)

end

end Filter

end FindQuery

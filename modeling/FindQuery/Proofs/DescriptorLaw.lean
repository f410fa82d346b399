import FindQuery.Proofs.NodeInduction
import FindQuery.Query.Compiler

namespace FindQuery

/-- A map from clean, non-empty names to 1 or to the number of marked names. -/
def Names.IsSigned (lenientKeys : Bool) (marked : Int) (fs : Fields Int) : Prop :=
  ∀ e ∈ fs, e.1 ≠ [] ∧ (∀ c ∈ e.1, Key.isKeyChar lenientKeys c = true) ∧
    (e.2 = 1 ∨ e.2 = marked)

def References.toList : References → List Reference
  | .one r => [r]
  | .many rs => rs

structure Reference.WellFormed (lenientKeys : Bool) (r : Reference) : Prop where
  path : ∀ c ∈ r.path, Key.isKeyChar lenientKeys c = true
  select : ∀ fs ∈ r.select, Names.IsSigned lenientKeys 0 fs
  filter : ∀ fs ∈ r.filter, ∀ e ∈ fs, Key.IsPath lenientKeys e.1

structure Descriptor.WellFormed (lenientKeys : Bool) (d : Descriptor) : Prop where
  limit : 1 ≤ d.limit
  skip : 0 ≤ d.skip
  select : Names.IsSigned lenientKeys 0 d.select
  sort : Names.IsSigned lenientKeys (-1) d.sort
  filter : ∀ e ∈ d.filter, Key.IsPath lenientKeys e.1
  populate : ∀ rs ∈ d.populate, ∀ r ∈ rs.toList, r.WellFormed lenientKeys

section

variable {F : Fault → Prop}

theorem Pagination.readInteger_ends {fields : Fields Value} (name : Text) (default : Int)
    (h : ∀ name default e, readInteger fields name default = .error e → F e) :
    (Journal.ofExcept (readInteger fields name default)).Ends (fun _ => True) F :=
  Journal.ends_ofExcept (fun _ _ => trivial) fun e he => h name default e he

theorem Pagination.read_ends {fields : Fields Value} {defaultLimit defaultSkip : Int}
    (hl : 1 ≤ defaultLimit) (hs : 0 ≤ defaultSkip)
    (h : ∀ name default e, readInteger fields name default = .error e → F e) :
    (Journal.ofExcept (read fields defaultLimit defaultSkip)).Ends
      (fun p => 1 ≤ p.1 ∧ 0 ≤ p.2) F := by
  rw [read, Journal.ofExcept_bind]
  refine (readInteger_ends _ _ h).bind fun given _ => ?_
  have hlimit : 1 ≤ if given < 1 then defaultLimit else given := by
    split <;> omega
  simp only
  generalize (if given < 1 then defaultLimit else given) = limit at hlimit ⊢
  split
  · rw [Journal.ofExcept_bind]
    refine (readInteger_ends _ _ h).bind fun page _ => Journal.ends_pure ⟨hlimit, ?_⟩
    simp only
    split
    · exact Int.mul_nonneg (by omega) (by omega)
    · exact Int.le_refl 0
  · rw [Journal.ofExcept_bind]
    refine (readInteger_ends _ _ h).bind fun skip _ => Journal.ends_pure ⟨hlimit, ?_⟩
    simp only
    split <;> omega

theorem Names.mapOf_isSigned (lenientKeys : Bool) (marked : Int) (list : List Text) :
    IsSigned lenientKeys marked (mapOf lenientKeys 1 marked list) := by
  intro e he
  obtain ⟨entry, hentry, rfl⟩ := List.mem_map.1 (Fields.mem_ofList he)
  refine ⟨?_, ?_, ?_⟩
  · exact of_decide_eq_true (List.mem_filter.1 hentry).2
  · intro c hc
    exact (Key.mem_clean.1 hc).2
  · cases isMarked entry with
    | true => exact .inr rfl
    | false => exact .inl rfl

theorem Names.read_ends {lenientKeys : Bool} {marked : Int} {v : Value}
    (h : ∀ e, chunks v = .error e → F e) :
    (Journal.ofExcept (read lenientKeys 1 marked v)).Ends (IsSigned lenientKeys marked) F := by
  have hchunks : (Journal.ofExcept (chunks v)).Ends (fun _ => True) F :=
    Journal.ends_ofExcept (fun _ _ => trivial) h
  have hentries : (Journal.ofExcept (entries [','] v)).Ends (fun _ => True) F := by
    rw [entries, Journal.ofExcept_bind]
    exact hchunks.bind fun texts _ => Journal.ends_pure trivial
  rw [read, Journal.ofExcept_bind]
  exact hentries.bind fun list _ => Journal.ends_pure (mapOf_isSigned lenientKeys marked list)

end

theorem Descriptor.checked_eq_ok {d : Descriptor} (hl : 1 ≤ d.limit) (hs : 0 ≤ d.skip) :
    d.checked = .ok d :=
  checked_eq_ok_iff.2 ⟨hl, hs⟩

namespace QueryCompiler

variable (c : QueryCompiler) {F : Fault → Prop}

theorem filter_ends (fields : Fields Value) :
    (c.filter fields).Ends (fun tree => ∀ e ∈ tree, Key.IsPath c.filterOptions.lenientKeys e.1)
      fun _ => True := by
  have h : (c.filter fields).Ends
      (fun tree => ∀ e ∈ tree, Key.IsPath c.filterOptions.lenientKeys e.1 ∧ True) fun _ => True :=
    Filter.compileFields_ends (P := fun _ => True) fun e _ _ _ =>
      ⟨fun _ _ _ _ => trivial, fun _ _ => trivial⟩
  exact h.mono fun tree htree e he => (htree e he).1

theorem referenceSelect_ends (t : Text) :
    (Journal.ofExcept (c.referenceSelect t)).Ends
      (fun select => ∀ fs ∈ select, Names.IsSigned c.filterOptions.lenientKeys 0 fs) F := by
  rw [referenceSelect]
  split
  · apply Journal.ends_pure
    intro fs hfs
    cases hfs
  · have hread : (Journal.ofExcept (c.select [(Key.select, .str t)])).Ends
        (Names.IsSigned c.filterOptions.lenientKeys 0) F := by
      apply Names.read_ends
      intro e he
      cases t <;> cases he
    rw [map_eq_pure_bind, Journal.ofExcept_bind]
    refine hread.bind fun select hselect => Journal.ends_pure ?_
    intro fs hfs
    cases hfs
    exact hselect

theorem readReference_ends {t : Text}
    (h : ∀ u : Text, u.Sublist t → (c.filter (QueryString.readGrouped u)).Ends
      (fun tree => ∀ e ∈ tree, Key.IsPath c.filterOptions.lenientKeys e.1) F) :
    (c.readReference t).Ends (·.WellFormed c.filterOptions.lenientKeys) F := by
  have hfilter : (c.referenceFilter ((t.pieces ';')[2]?.getD [])).Ends (fun filter =>
      ∀ fs ∈ filter, ∀ e ∈ fs, Key.IsPath c.filterOptions.lenientKeys e.1) F := by
    rw [referenceFilter]
    split
    · apply Journal.ends_pure
      intro fs hfs
      cases hfs
    · refine (h _ (Text.sublist_getD_pieces ';' t 2)).map fun tree htree => ?_
      intro fs hfs
      cases hfs
      exact htree
  refine (c.referenceSelect_ends _).bind fun select hselect => hfilter.bind fun filter hf =>
    Journal.ends_pure ?_
  exact ⟨fun ch hch => (Key.mem_clean.1 hch).2, hselect, hf⟩

theorem readReferences_ends {texts : List Text}
    (h : ∀ t ∈ texts, (c.readReference t).Ends (·.WellFormed c.filterOptions.lenientKeys) F) :
    (c.readReferences texts).Ends
      (fun rs => ∀ r ∈ rs, r.WellFormed c.filterOptions.lenientKeys) F :=
  Journal.ends_mapM fun t ht => h t (List.mem_filter.1 ht).1

variable {fields : Fields Value}

theorem references_ends
    (hchunks : ∀ name e, Names.chunks ((fields.find? name).getD .null) = .error e → F e)
    (hread : ∀ name texts, Names.chunks ((fields.find? name).getD .null) = .ok texts →
      ∀ t ∈ texts, (c.readReference t).Ends (·.WellFormed c.filterOptions.lenientKeys) F) :
    (c.references fields).Ends
      (fun references => ∀ rs ∈ references, ∀ r ∈ rs.toList,
        r.WellFormed c.filterOptions.lenientKeys) F := by
  replace hchunks := hchunks Key.populate
  replace hread := hread Key.populate
  rw [references]
  generalize (fields.find? Key.populate).getD .null = raw at hchunks hread ⊢
  split
  · next htrue =>
    cases raw with
    | str t =>
      refine (hread [t] (if_pos htrue) t (.head _)).bind fun r hr => Journal.ends_pure ?_
      intro rs hrs
      cases hrs
      intro s hs
      rw [List.mem_singleton.1 hs]
      exact hr
    | list | map =>
      refine (c.readReferences_ends (hread _ (if_pos htrue))).bind fun rs hrs =>
        Journal.ends_pure ?_
      intro x hx
      cases hx
      exact hrs
    | null | bool | int | float => exact Journal.ends_fault (hchunks _ (if_pos htrue))
  · apply Journal.ends_pure
    intro rs hrs
    cases hrs

/-- A descriptor is built as soon as its parts are read: its check cannot fail. -/
theorem compileFields_ends
    (hinteger : ∀ name default e,
      Pagination.readInteger fields name default = .error e → F e)
    (hchunks : ∀ name e, Names.chunks ((fields.find? name).getD .null) = .error e → F e)
    (hfilter : (c.filter fields).Ends
      (fun tree => ∀ e ∈ tree, Key.IsPath c.filterOptions.lenientKeys e.1) F)
    (hread : ∀ name texts, Names.chunks ((fields.find? name).getD .null) = .ok texts →
      ∀ t ∈ texts, (c.readReference t).Ends (·.WellFormed c.filterOptions.lenientKeys) F) :
    (c.compileFields fields).Ends (·.WellFormed c.filterOptions.lenientKeys) F := by
  have hbounds : (Journal.ofExcept (c.pagination fields)).Ends (fun p => 1 ≤ p.1 ∧ 0 ≤ p.2) F :=
    Pagination.read_ends c.one_le_defaultLimit c.zero_le_defaultSkip hinteger
  have hselect : (Journal.ofExcept (c.select fields)).Ends
      (Names.IsSigned c.filterOptions.lenientKeys 0) F :=
    Names.read_ends (hchunks Key.select)
  have hsort : (Journal.ofExcept (c.sort fields)).Ends
      (Names.IsSigned c.filterOptions.lenientKeys (-1)) F :=
    Names.read_ends (hchunks Key.sort)
  have hreferences := c.references_ends hchunks hread
  rw [compileFields]
  refine hbounds.bind fun p hp => hselect.bind fun select hs => hsort.bind fun sort ho =>
    hfilter.bind fun filter hf => ?_
  simp only
  split
  · refine hreferences.bind fun populate hr => ?_
    rw [Descriptor.checked_eq_ok hp.1 hp.2]
    exact (Journal.ends_write _).bind fun _ _ => Journal.ends_pure ⟨hp.1, hp.2, hs, ho, hf, hr⟩
  · simp only [pure_bind]
    rw [Descriptor.checked_eq_ok hp.1 hp.2]
    exact (Journal.ends_write _).bind fun _ _ =>
      Journal.ends_pure ⟨hp.1, hp.2, hs, ho, hf, nofun⟩

end QueryCompiler

/-- Whatever is compiled, with whatever options, obeys the law of compiled queries. -/
theorem compiled_descriptor_wellFormed (c : QueryCompiler) (query : Value) (d : Descriptor)
    (h : (c.compile query).outcome = .ok d) : d.WellFormed c.filterOptions.lenientKeys := by
  have hread (t : Text) : (c.readReference t).Ends
      (·.WellFormed c.filterOptions.lenientKeys) fun _ => True :=
    c.readReference_ends fun u _ => c.filter_ends _
  have hfields (fields : Fields Value) : (c.compileFields fields).Ends
      (·.WellFormed c.filterOptions.lenientKeys) fun _ => True :=
    c.compileFields_ends (fun _ _ _ _ => trivial) (fun _ _ _ => trivial) (c.filter_ends fields)
      fun _ _ _ t _ => hread t
  cases query with
  | null => exact (hfields []).value d h
  | str t => exact (hfields _).value d h
  | map fields => exact (hfields fields).value d h
  | bool | int | float | list => cases h

/-- The compiler of default options that also compiles references. -/
def QueryCompiler.populating : QueryCompiler := ⟨100, 0, by decide, by decide, true, {}⟩

theorem compiled_descriptor_wellFormed_populated :
    ∃ d, (QueryCompiler.populating.compile
        (.str "page=3&limit=5&sort=-a!&$skip=1&x={gt}1&populate=b$;c;d=1".toList)).outcome = .ok d ∧
      d.sort ≠ [] ∧ d.filter ≠ [] ∧ d.populate.isSome ∧ d.WellFormed false := by
  have h := Journal.outcome_of_toOption (x := QueryCompiler.populating.compile
    (.str "page=3&limit=5&sort=-a!&$skip=1&x={gt}1&populate=b$;c;d=1".toList))
    (a := { limit := 5, skip := 10, sort := [("a".toList, -1)]
            filter := [("x".toList, .map [("$gt".toList, .int 1)])]
            populate := some (.one ⟨"b".toList, some [("c".toList, 1)],
              some [("d".toList, .int 1)]⟩) }) (by decide +kernel)
  exact ⟨_, h, by simp, by simp, rfl, compiled_descriptor_wellFormed _ _ _ h⟩

end FindQuery

import FindQuery.Proofs.FormEncoding
import FindQuery.Proofs.NameLists

namespace FindQuery

theorem Form.decodePairs_plain {name t : Text} (hand : '&' ∉ name ++ '=' :: t)
    (hequals : '=' ∉ name) (hpercent : '%' ∉ name ++ '=' :: t) (hplus : '+' ∉ name ++ '=' :: t) :
    decodePairs (name ++ '=' :: t) = [(name, t)] := by
  have hkept : [name ++ '=' :: t].filter (· ≠ []) = [name ++ '=' :: t] := by
    cases name <;> rfl
  have hpart {s : Text} (hs : ∀ c ∈ s, c ∈ name ++ '=' :: t) : decodePart s = s := by
    rw [decodePart_of_not_mem fun h => hpercent (hs '%' h),
      Text.replace_of_not_mem fun h => hplus (hs '+' h)]
  have hname : decodePart name = name := hpart fun c hc => List.mem_append_left _ hc
  have hvalue : decodePart t = t := hpart fun c hc => List.mem_append_right _ (.tail _ hc)
  rw [decodePairs, Text.pieces_of_not_mem hand, hkept, List.map_singleton, decodePair,
    Text.cut_append_cons hequals]
  exact congrArg₂ (fun n v => [(n, v)]) hname hvalue

namespace Names

variable {lenientKeys : Bool} {marked : Int} {fs : Fields Int}

theorem isSigned_of_read {v : Value} (h : read lenientKeys 1 marked v = .ok fs) :
    IsSigned lenientKeys marked fs ∧ fs.keys.Nodup := by
  rw [read] at h
  cases hentries : entries [','] v with
  | error e =>
    rw [hentries] at h
    cases h
  | ok list =>
    rw [hentries] at h
    cases h
    exact ⟨mapOf_isSigned _ _ list, Fields.nodup_keys_merge Fields.nodup_keys_nil _⟩

/-- What is read is read again from its written form. -/
theorem read_write_of_read {v : Value} (h : read lenientKeys 1 marked v = .ok fs) :
    read lenientKeys 1 marked (.str (write marked fs)) = .ok fs := by
  obtain ⟨hsigned, hkeys⟩ := isSigned_of_read h
  exact read_write hsigned hkeys

theorem pairs_plain (h : IsSigned lenientKeys marked fs) :
    QueryString.pairs (Key.sort ++ '=' :: write marked fs) = [(Key.sort, write marked fs)] := by
  have hwrite {c : Char} (hkey : ∀ lenient, Key.isKeyChar lenient c = false) (hdash : c ≠ '-')
      (hcomma : c ≠ ',') (hname : c ∉ Key.sort ++ ['=']) :
      c ∉ Key.sort ++ '=' :: write marked fs := by
    rw [List.append_cons, List.mem_append, not_or]
    exact ⟨hname, not_mem_write hkey hdash hcomma h⟩
  exact Form.decodePairs_plain (hwrite (by decide) (by decide) (by decide) (by decide)) (by decide)
    (hwrite (by decide) (by decide) (by decide) (by decide))
    (hwrite (by decide) (by decide) (by decide) (by decide))

end Names

/-- An order as the list of its pairs. -/
def Value.ofOrder (order : Fields Int) : Value :=
  .list (order.map fun e => .list [.str e.1, .int e.2])

namespace QueryCompiler

variable (c : QueryCompiler) {order : Fields Int} {v : Value}

theorem pagination_sort (v : Value) :
    c.pagination [(Key.sort, v)] = .ok (c.defaultLimit, c.defaultSkip) := by
  have hlimit : ¬ c.defaultLimit < 1 := Int.not_lt.2 c.one_le_defaultLimit
  have hskip : ¬ c.defaultSkip < 0 := Int.not_lt.2 c.zero_le_defaultSkip
  have hread : c.pagination [(Key.sort, v)] =
      .ok (if c.defaultLimit < 1 then c.defaultLimit else c.defaultLimit,
        if c.defaultSkip < 0 then c.defaultSkip else c.defaultSkip) :=
    rfl
  rw [hread, if_neg hlimit, if_neg hskip]

theorem filter_sort (v : Value) : c.filter [(Key.sort, v)] = pure [] := by
  have hreserved : Key.clean c.filterOptions.lenientKeys Key.sort ∈ Key.reserved := by
    cases c.filterOptions.lenientKeys <;> decide
  have hfield : Filter.compileField (Filter.tokenNode c.filterOptions · 0)
      c.filterOptions.lenientKeys (Key.sort, v) = pure none := by
    rw [Filter.compileField]
    exact if_pos (.inl hreserved)
  rw [filter, Filter.compile, Filter.compileFields, Journal.collect, hfield]
  rfl

/-- A query that holds nothing but an order has everything else by default. -/
theorem compileFields_sort (h : c.sort [(Key.sort, v)] = .ok order) :
    c.compileFields [(Key.sort, v)] =
      ⟨[.compiled c.defaultLimit c.defaultSkip []],
        .ok { limit := c.defaultLimit, skip := c.defaultSkip, sort := order }⟩ := by
  have hselect : c.select [(Key.sort, v)] = .ok [] := rfl
  have hreferences : c.references [(Key.sort, v)] = pure none := rfl
  have hchecked := Descriptor.checked_eq_ok
    (d := { limit := c.defaultLimit, skip := c.defaultSkip, sort := order })
    c.one_le_defaultLimit c.zero_le_defaultSkip
  rw [compileFields, pagination_sort, hselect, h, filter_sort, hreferences]
  simp only [Journal.lift_ok_bind, ite_self, pure_bind, hchecked]
  rfl

theorem compile_sort {q : Text} (hq : QueryString.pairs q = [(Key.sort, Names.write (-1) order)])
    (horder : Names.IsSigned c.filterOptions.lenientKeys (-1) order) (hkeys : order.keys.Nodup) :
    c.compile (.str q) =
      ⟨[.compiled c.defaultLimit c.defaultSkip []],
        .ok { limit := c.defaultLimit, skip := c.defaultSkip, sort := order }⟩ := by
  have hfields : QueryString.readGrouped q = [(Key.sort, .str (Names.write (-1) order))] := by
    rw [QueryString.readGrouped, hq]
    rfl
  have hread : c.sort [(Key.sort, .str (Names.write (-1) order))] = .ok order :=
    Names.read_write horder hkeys
  rw [compile, hfields, c.compileFields_sort hread]

/-- Orders and projections are read back from the lists of names that they are written as, and so is
every order and projection that is read from a query. In a query string, form encoded or as it is,
a written order is the order of the descriptor, and of the find call unless it is empty. -/
theorem orders_are_read_back (c : QueryCompiler) :
    (∀ order, Names.IsSigned c.filterOptions.lenientKeys (-1) order → order.keys.Nodup →
      c.sort [(Key.sort, .str (Names.write (-1) order))] = .ok order ∧
      ∀ q ∈ [Form.encodePairs '&' [(Key.sort, Names.write (-1) order)],
          Key.sort ++ '=' :: Names.write (-1) order],
        ∃ d, (c.compile (.str q)).outcome = .ok d ∧ d.sort = order ∧
          d.findArguments.find? Key.sort = if order = [] then none else some (.ofOrder order)) ∧
    (∀ projection, Names.IsSigned c.filterOptions.lenientKeys 0 projection →
      projection.keys.Nodup →
      c.select [(Key.select, .str (Names.write 0 projection))] = .ok projection) ∧
    (∀ fields order, c.sort fields = .ok order →
      c.sort [(Key.sort, .str (Names.write (-1) order))] = .ok order) ∧
    ∀ fields projection, c.select fields = .ok projection →
      c.select [(Key.select, .str (Names.write 0 projection))] = .ok projection := by
  refine ⟨?_, ?_, ?_, ?_⟩
  · intro order horder hkeys
    refine ⟨Names.read_write horder hkeys, fun q hmem => ?_⟩
    have hq : QueryString.pairs q = [(Key.sort, Names.write (-1) order)] := by
      rcases List.mem_pair.1 hmem with rfl | rfl
      · exact QueryString.pairs_encodePairs (List.cons_ne_nil _ _)
      · exact Names.pairs_plain horder
    rw [c.compile_sort hq horder hkeys]
    refine ⟨_, rfl, rfl, ?_⟩
    cases order <;> rfl
  · exact fun projection hprojection hkeys => Names.read_write hprojection hkeys
  · exact fun fields order h => Names.read_write_of_read h
  · exact fun fields projection h => Names.read_write_of_read h

/-- A compiler with lenient field paths. -/
def lenient : QueryCompiler :=
  { populating with filterOptions := { populating.filterOptions with lenientKeys := true } }

theorem orders_are_read_back_lenient :
    lenient.sort [(Key.sort, .str "-b[0],a^_c".toList)] =
      .ok [("b[0]".toList, -1), ("a^_c".toList, 1)] ∧
    (∃ d, (lenient.compile (.str "sort=-b%5B0%5D%2Ca%5E_c".toList)).outcome = .ok d ∧
      d.sort = [("b[0]".toList, -1), ("a^_c".toList, 1)] ∧
      d.findArguments.find? Key.sort =
        some (.list [.list [.str "b[0]".toList, .int (-1)], .list [.str "a^_c".toList, .int 1]])) ∧
    lenient.select [(Key.select, .str "-b,a".toList)] = .ok [("b".toList, 0), ("a".toList, 1)] ∧
    (lenient.sort [(Key.sort, .list [.str "b, --".toList, .str "a?,-b".toList])] =
        .ok [("b".toList, -1), ("a".toList, 1)] ∧
      lenient.sort [(Key.sort, .str "-b,a".toList)] = .ok [("b".toList, -1), ("a".toList, 1)]) ∧
    lenient.select [(Key.select, .str " -a".toList)] = .ok [("a".toList, 0)] ∧
    lenient.select [(Key.select, .str "-a".toList)] = .ok [("a".toList, 0)] := by
  have hsigned : Names.IsSigned true (-1) [("b[0]".toList, -1), ("a^_c".toList, 1)] := by
    intro e he
    rcases List.mem_pair.1 he with rfl | rfl
    · exact ⟨by decide, Key.isKeyChar_of_clean_eq_self (by decide), by decide⟩
    · exact ⟨by decide, Key.isKeyChar_of_clean_eq_self (by decide), by decide⟩
  have hprojected : Names.IsSigned true 0 [("b".toList, 0), ("a".toList, 1)] := by
    intro e he
    rcases List.mem_pair.1 he with rfl | rfl
    · exact ⟨by decide, Key.isKeyChar_of_clean_eq_self (by decide), by decide⟩
    · exact ⟨by decide, Key.isKeyChar_of_clean_eq_self (by decide), by decide⟩
  have hform : Form.encodePairs '&' [(Key.sort,
      Names.write (-1) [("b[0]".toList, -1), ("a^_c".toList, 1)])] =
        "sort=-b%5B0%5D%2Ca%5E_c".toList := by
    decide +kernel
  obtain ⟨horder, hprojection, hsort, hselect⟩ := orders_are_read_back lenient
  obtain ⟨hread, hquery⟩ := horder _ hsigned (by decide)
  have hcompile := hquery _ (.head _)
  rw [hform] at hcompile
  exact ⟨hread, hcompile, hprojection _ hprojected (by decide),
    ⟨rfl, hsort [(Key.sort, .list [.str "b, --".toList, .str "a?,-b".toList])] _ rfl⟩,
    rfl, hselect [(Key.select, .str " -a".toList)] _ rfl⟩

end QueryCompiler

end FindQuery

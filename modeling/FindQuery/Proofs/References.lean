import FindQuery.Proofs.FormEncoding
import FindQuery.Proofs.NameLists

namespace FindQuery

namespace QueryCompiler

variable (c : QueryCompiler) {path : Text} {select : Fields Int} {pairs : List (Text × Text)}

theorem referenceSelect_write
    (h : Names.IsSigned c.filterOptions.lenientKeys 0 select) (hkeys : select.keys.Nodup)
    (hne : select ≠ []) (hall : select ≠ [("all".toList, 1)]) :
    c.referenceSelect (Names.write 0 select) = .ok (some select) := by
  have hread := Names.read_write h hkeys
  -- a text that asks for everything is read as another projection
  have hasks : ¬ (Names.write 0 select = [] ∨ Names.write 0 select = "all".toList) := by
    rintro (hwrite | hwrite)
    · rw [hwrite] at hread
      cases hread
      exact hne rfl
    · have hword : Names.read c.filterOptions.lenientKeys 1 0 (.str "all".toList) =
          .ok [("all".toList, 1)] := by
        cases c.filterOptions.lenientKeys <;> rfl
      rw [hwrite, hword] at hread
      cases hread
      exact hall rfl
  have hselect : c.select [(Key.select, .str (Names.write 0 select))] = .ok select := hread
  rw [referenceSelect, if_neg hasks, hselect]
  rfl

theorem referenceFilter_encodePairs (hpairs : pairs ≠ []) :
    c.referenceFilter (Form.encodePairs '&' pairs) =
      some <$> c.filter (QueryString.group pairs) := by
  rw [referenceFilter, if_neg (Form.encodePairs_ne_nil '&' hpairs), QueryString.readGrouped,
    QueryString.pairs_encodePairs hpairs]

theorem pieces_reference (hpath : ∀ ch ∈ path, Key.isKeyChar c.filterOptions.lenientKeys ch = true)
    (h : Names.IsSigned c.filterOptions.lenientKeys 0 select) (pairs : List (Text × Text)) :
    (Text.joined ';' [path, Names.write 0 select, Form.encodePairs '&' pairs]).pieces ';' =
      [path, Names.write 0 select, Form.encodePairs '&' pairs] := by
  apply Text.pieces_joined (List.cons_ne_nil _ _)
  intro p hp
  rcases List.mem_cons.1 hp with rfl | hp
  · exact Key.not_mem_of_isKeyChar (by decide) hpath
  · rcases List.mem_pair.1 hp with rfl | rfl
    · exact Names.not_mem_write (by decide) (by decide) (by decide) h
    · exact Form.not_mem_encodePairs (by decide) (by decide) (by decide) (by decide) pairs

end QueryCompiler

/-- A reference that is written as its path, the list of its projection and the encoded pairs of its
filter is read as this path, this projection and the filter of these pairs. -/
theorem written_reference_is_read_back (c : QueryCompiler) (path : Text)
    (hpath : Key.clean c.filterOptions.lenientKeys path = path) (select : Fields Int)
    (hselect : Names.IsSigned c.filterOptions.lenientKeys 0 select) (hkeys : select.keys.Nodup)
    (hne : select ≠ []) (hall : select ≠ [("all".toList, 1)]) (pairs : List (Text × Text))
    (hpairs : pairs ≠ []) :
    c.references [(Key.populate,
        .str (Text.joined ';' [path, Names.write 0 select, Form.encodePairs '&' pairs]))] =
      (do
        let filter ← c.filter (QueryString.group pairs)
        return some (.one ⟨path, some select, some filter⟩)) := by
  have hpieces := c.pieces_reference (Key.isKeyChar_of_clean_eq_self hpath) hselect pairs
  generalize ht : Text.joined ';' [path, Names.write 0 select, Form.encodePairs '&' pairs] = t
    at hpieces ⊢
  have htruthy : (Value.str t).isTruthy = true := by
    cases path <;> subst ht <;> rfl
  have hread : c.readReference t = (do
      let filter ← c.filter (QueryString.group pairs)
      return ⟨path, some select, some filter⟩) := by
    simp only [QueryCompiler.readReference, hpieces, List.getElem?_cons_zero,
      List.getElem?_cons_succ, Option.getD_some, hpath,
      c.referenceSelect_write hselect hkeys hne hall, c.referenceFilter_encodePairs hpairs,
      map_eq_pure_bind, bind_assoc, pure_bind]
    rfl
  have hfind : ((Fields.find? Key.populate [(Key.populate, Value.str t)]).getD .null) = .str t := rfl
  simp only [QueryCompiler.references, hfind, htruthy, ↓reduceIte, hread, bind_assoc, pure_bind]

theorem written_reference_is_read_back_marks :
    "author;name,-e.mail;age=%7Bgt%7D3&a%3Bb=x%2C%26&age=9".toList =
      Text.joined ';' ["author".toList, Names.write 0 [("name".toList, 1), ("e.mail".toList, 0)],
        Form.encodePairs '&' [("age".toList, "{gt}3".toList), ("a;b".toList, "x,&".toList),
          ("age".toList, "9".toList)]] ∧
    QueryCompiler.populating.references
        [(Key.populate, .str "author;name,-e.mail;age=%7Bgt%7D3&a%3Bb=x%2C%26&age=9".toList)] =
      (do
        let filter ← QueryCompiler.populating.filter
          [("age".toList, .list [.str "{gt}3".toList, .str "9".toList]),
            ("a;b".toList, .str "x,&".toList)]
        return some (.one ⟨"author".toList, some [("name".toList, 1), ("e.mail".toList, 0)],
          some filter⟩)) := by
  have hsigned : Names.IsSigned false 0 [("name".toList, 1), ("e.mail".toList, 0)] := by
    intro e he
    rcases List.mem_pair.1 he with rfl | rfl
    · exact ⟨by decide, Key.isKeyChar_of_clean_eq_self (by decide), by decide⟩
    · exact ⟨by decide, Key.isKeyChar_of_clean_eq_self (by decide), by decide⟩
  have htext : "author;name,-e.mail;age=%7Bgt%7D3&a%3Bb=x%2C%26&age=9".toList =
      Text.joined ';' ["author".toList, Names.write 0 [("name".toList, 1), ("e.mail".toList, 0)],
        Form.encodePairs '&' [("age".toList, "{gt}3".toList), ("a;b".toList, "x,&".toList),
          ("age".toList, "9".toList)]] := by
    decide +kernel
  have hgroup : QueryString.group [("age".toList, "{gt}3".toList), ("a;b".toList, "x,&".toList),
      ("age".toList, "9".toList)] =
        [("age".toList, .list [.str "{gt}3".toList, .str "9".toList]),
          ("a;b".toList, .str "x,&".toList)] := by
    decide
  refine ⟨htext, ?_⟩
  rw [htext, ← hgroup]
  exact written_reference_is_read_back QueryCompiler.populating "author".toList (by decide)
    [("name".toList, 1), ("e.mail".toList, 0)] hsigned (by decide) (by decide) (by decide)
    [("age".toList, "{gt}3".toList), ("a;b".toList, "x,&".toList), ("age".toList, "9".toList)]
    (by decide)

end FindQuery

import FindQuery.Proofs.FormEncoding
import FindQuery.Proofs.Merging
import FindQuery.Proofs.RuleOrder

namespace FindQuery

theorem Shape.ofToken?_elemMatch (body : Text) :
    ofToken? Rule.table (Tag.marker Tag.elemMatch ++ body) = some (.elemMatch body) := by
  have hopens : Rule.Opens (Tag.marker Tag.elemMatch ++ body) := ⟨'e', _, rfl, by decide⟩
  have hjson := Option.not_isSome_iff_eq_none.1 (Rule.not_json_of_opens hopens)
  have hread := Tag.read?_marker (by decide) (List.mem_singleton_self Tag.elemMatch) body
  rw [ofToken?, Rule.table, List.findSome?_cons, hjson]
  simp only [List.findSome?_cons, Rule.read?, hread, Option.map_some]

theorem Filter.subquery_encodePairs {pairs : List (Text × Text)} (h : pairs ≠ []) :
    subquery (Form.encodePairs '#' pairs) =
      (Fields.ofList pairs).map fun e => (e.1, .str e.2) := by
  have hreplace : (Form.encodePairs '#' pairs).replace '#' '&' = Form.encodePairs '&' pairs :=
    Form.replace_encodePairs (by decide) (by decide) (by decide) pairs
  rw [subquery, hreplace, QueryString.readFlat, QueryString.pairs_encodePairs h]

/-- A query on the elements of an array, written in form encoding, is the query of its pairs one
level further down, whatever the names and values hold. Of a repeated name the last value counts, at
the place of the first. -/
theorem encoded_pairs_reach_element_query (o : FilterOptions) (hrules : o.rules = Rule.table)
    (pairs : List (Text × Text)) (hpairs : pairs ≠ []) (depth : Int) (hdepth : depth ≤ o.maxDepth) :
    Filter.tokenNode o (Tag.marker Tag.elemMatch ++ Form.encodePairs '#' pairs) depth =
      (do
        let tree ← Filter.compile o ((Fields.ofList pairs).map fun e => (e.1, .str e.2)) (depth + 1)
        return some (Filter.operatorNode Tag.elemMatch (.map tree))) ∧
    (Fields.ofList pairs).keys = (pairs.map Prod.fst).eraseDups ∧
    ∀ k, (Fields.ofList pairs).find? k =
      (pairs.reverse.find? fun e => e.1 = k).map Prod.snd := by
  refine ⟨?_, Fields.keys_ofList pairs, Fields.find?_ofList pairs⟩
  have hshape := Shape.ofToken?_elemMatch (Form.encodePairs '#' pairs)
  rw [← hrules] at hshape
  rw [Filter.tokenNode, FilterOptions.levelsAt_eq_succ hdepth,
    Filter.nodeAt_of_shape (Tag.marker_append_ne_nil _ _) hshape, Filter.compileShape,
    if_neg (Form.encodePairs_ne_nil '#' hpairs), Filter.subquery_encodePairs hpairs]
  rfl

theorem encoded_pairs_reach_element_query_marks :
    Filter.tokenNode {} (Tag.marker Tag.elemMatch ++ Form.encodePairs '#'
        [("a".toList, "x#y&z=?+%41".toList), ("?b".toList, "{gt}5".toList),
          ("a".toList, "é|".toList)]) 0 =
      (do
        let tree ← Filter.compile {}
          ((Fields.ofList [("a".toList, "x#y&z=?+%41".toList),
            ("?b".toList, "{gt}5".toList), ("a".toList, "é|".toList)]).map
              fun e => (e.1, .str e.2)) 1
        return some (Filter.operatorNode Tag.elemMatch (.map tree))) ∧
    (Fields.ofList [("a".toList, "x#y&z=?+%41".toList), ("?b".toList, "{gt}5".toList),
      ("a".toList, "é|".toList)]).keys = ["a".toList, "?b".toList] := by
  obtain ⟨htoken, hkeys, -⟩ := encoded_pairs_reach_element_query {} rfl
    [("a".toList, "x#y&z=?+%41".toList), ("?b".toList, "{gt}5".toList),
      ("a".toList, "é|".toList)] nofun 0 (by decide)
  exact ⟨htoken, hkeys.trans (by decide)⟩

end FindQuery

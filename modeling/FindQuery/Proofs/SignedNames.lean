import FindQuery.Proofs.NameLists
import FindQuery.Proofs.QueryStrings

namespace FindQuery

namespace Names

/-- The map of texts: the names of their pieces in the order in which they occur first, each with
the number for its last piece. -/
structure IsReadFrom (lenientKeys : Bool) (marked : Int) (texts : List Text) (fs : Fields Int) :
    Prop where
  keys : fs.keys = (((trimmedPieces texts).map (nameOf lenientKeys)).filter (· ≠ [])).eraseDups
  number : ∀ name, name ≠ [] → fs.find? name =
    ((trimmedPieces texts).filter (nameOf lenientKeys · = name)).getLast?.map fun piece =>
      if piece.head? = some '-' then marked else 1

variable {lenientKeys : Bool} {marked : Int}

theorem filter_entriesOf {p : Text → Bool} (hp : p [] = false) (texts : List Text) :
    (entriesOf [','] texts).filter p = (trimmedPieces texts).filter p := by
  rw [entriesOf_eq, List.filter_filter]
  apply List.filter_congr
  intro piece _
  cases piece with
  | nil => rw [hp, Bool.false_and]
  | cons c r => rw [decide_eq_true (List.cons_ne_nil c r), Bool.and_true]

theorem nameOf_nil : nameOf lenientKeys [] = [] := rfl

theorem keys_mapOf (plain : Int) (texts : List Text) :
    (mapOf lenientKeys plain marked (entriesOf [','] texts)).keys =
      (((trimmedPieces texts).map (nameOf lenientKeys)).filter (· ≠ [])).eraseDups := by
  have hnamed : (entriesOf [','] texts).filter (nameOf lenientKeys · ≠ []) =
      (trimmedPieces texts).filter (nameOf lenientKeys · ≠ []) :=
    filter_entriesOf (by rw [nameOf_nil]; rfl) texts
  rw [mapOf, Fields.keys_ofList, List.map_map, hnamed, List.filter_map]
  rfl

theorem find?_mapOf {name : Text} (hname : name ≠ []) (plain : Int) (texts : List Text) :
    (mapOf lenientKeys plain marked (entriesOf [','] texts)).find? name =
      ((trimmedPieces texts).filter (nameOf lenientKeys · = name)).getLast?.map fun piece =>
        if piece.head? = some '-' then marked else plain := by
  have hnil : decide (nameOf lenientKeys [] = name) = false :=
    decide_eq_false fun h => hname (h ▸ nameOf_nil)
  -- neither the empty entries nor those without a name can have this name
  have hnamed : ((entriesOf [','] texts).filter (nameOf lenientKeys · ≠ [])).filter
      (nameOf lenientKeys · = name) =
        (trimmedPieces texts).filter (nameOf lenientKeys · = name) := by
    rw [← filter_entriesOf hnil, List.filter_filter]
    apply List.filter_congr
    intro piece _
    by_cases h : nameOf lenientKeys piece = name <;> simp [h, hname]
  rw [mapOf, Fields.find?_ofList_eq_getLast?, List.filter_map, List.getLast?_map, Option.map_map,
    ← hnamed]
  simp only [Function.comp_def, isMarked, decide_eq_true_eq]

theorem mapOf_isReadFrom (texts : List Text) :
    IsReadFrom lenientKeys marked texts (mapOf lenientKeys 1 marked (entriesOf [','] texts)) :=
  ⟨keys_mapOf 1 texts, fun _ hname => find?_mapOf hname 1 texts⟩

theorem entriesOf_joined (texts : List Text) :
    entriesOf [','] [Text.joined ',' texts] = entriesOf [','] texts := by
  cases texts with
  | nil => rfl
  | cons t texts =>
    have hpieces := Text.pieces_joined_eq_flatMap ',' (List.cons_ne_nil t texts)
    rw [entriesOf_eq, entriesOf_eq, trimmedPieces, List.flatMap_singleton, hpieces]
    rfl

theorem read_tokens (plain : Int) {raw : Value} (h : raw.kind = .str ∨ raw.kind = .list) :
    read lenientKeys plain marked raw =
      .ok (mapOf lenientKeys plain marked (entriesOf [','] raw.tokens)) := by
  cases raw with
  | str t => exact read_str plain t
  | list items => cases items <;> rfl
  | null | bool | int | float | map => rcases h with h | h <;> cases h

theorem read_texts (plain : Int) (texts : List Text) :
    read lenientKeys plain marked (.list (texts.map .str)) =
      read lenientKeys plain marked (.str (Text.joined ',' texts)) := by
  have htokens : (Value.list (texts.map .str)).tokens = texts :=
    (Value.tokens_texts id texts).trans (List.map_id texts)
  rw [read_tokens plain (.inr rfl), htokens, read_str, entriesOf_joined]

/-- The values of a query string are read as if they were joined. -/
theorem read_valueOf (plain : Int) (ps : List (Text × Text)) :
    read lenientKeys plain marked ((QueryString.valueOf ps).getD .null) =
      read lenientKeys plain marked (.str (Text.joined ',' (ps.map Prod.snd))) := by
  by_cases hps : ps = []
  · subst hps
    rfl
  · obtain ⟨v, hv, htokens, -, hlist⟩ := QueryString.valueOf_of_ne_nil hps
    have hkind : v.kind = .str ∨ v.kind = .list := by
      by_cases hstr : v.kind = .str
      · exact .inl hstr
      · rw [hlist hstr]
        exact .inr rfl
    rw [hv, Option.getD_some, read_tokens plain hkind, htokens, read_str, entriesOf_joined]

end Names

namespace QueryCompiler

open QueryString (readGrouped pairs givenBy)

/-- An order, and a projection, has the names of the pieces between commas, trimmed and without
dashes in front, in the order in which the names occur first; the last piece of a name decides about
its number. Texts are read like the text that joins them, whether they are given as a list or as the
values of a query string. -/
theorem signed_maps_are_decided_by_last_entries (c : QueryCompiler) :
    (∀ raw : Value, raw.kind = .str ∨ raw.kind = .list →
      ∃ order projection, c.sort [(Key.sort, raw)] = .ok order ∧
        c.select [(Key.select, raw)] = .ok projection ∧
        Names.IsReadFrom c.filterOptions.lenientKeys (-1) raw.tokens order ∧
        Names.IsReadFrom c.filterOptions.lenientKeys 0 raw.tokens projection ∧
        projection.keys = order.keys) ∧
    (∀ texts : List Text,
      c.sort [(Key.sort, .list (texts.map .str))] =
        c.sort [(Key.sort, .str (Text.joined ',' texts))] ∧
      c.select [(Key.select, .list (texts.map .str))] =
        c.select [(Key.select, .str (Text.joined ',' texts))]) ∧
    ∀ t : Text,
      c.sort (readGrouped t) =
        c.sort [(Key.sort, .str (Text.joined ',' ((givenBy (pairs t) Key.sort).map Prod.snd)))] ∧
      c.select (readGrouped t) =
        c.select
          [(Key.select, .str (Text.joined ',' ((givenBy (pairs t) Key.select).map Prod.snd)))] := by
  refine ⟨?_, ?_, ?_⟩
  · intro raw hraw
    exact ⟨_, _, Names.read_tokens 1 hraw, Names.read_tokens 1 hraw,
      Names.mapOf_isReadFrom raw.tokens, Names.mapOf_isReadFrom raw.tokens,
      (Names.keys_mapOf 1 raw.tokens).trans (Names.keys_mapOf 1 raw.tokens).symm⟩
  · intro texts
    exact ⟨Names.read_texts 1 texts, Names.read_texts 1 texts⟩
  · intro t
    have hholds := QueryString.holds_group (pairs t)
    rw [sort, select, readGrouped, hholds.value, hholds.value]
    exact ⟨Names.read_valueOf 1 _, Names.read_valueOf 1 _⟩

theorem signed_maps_are_decided_by_last_entries_repeated :
    (∃ order, populating.sort
        [(Key.sort, .list [.str "b!,-a".toList, .str " ,-".toList, .str "--b,a?".toList])] =
          .ok order ∧
      order.keys = ["b".toList, "a".toList] ∧
      order.find? "b".toList = some (-1) ∧ order.find? "a".toList = some 1) ∧
    populating.select (readGrouped "select=b!,-a&select[]=+,-&x=1&select=--b,a?".toList) =
      .ok [("b".toList, 0), ("a".toList, 1)] := by
  obtain ⟨hread, -, hstring⟩ := signed_maps_are_decided_by_last_entries populating
  constructor
  · obtain ⟨order, -, horder, -, hfrom, -⟩ := hread
      (.list [.str "b!,-a".toList, .str " ,-".toList, .str "--b,a?".toList]) (.inr rfl)
    refine ⟨order, horder, ?_, ?_, ?_⟩
    · rw [hfrom.keys]
      decide +kernel
    · rw [hfrom.number _ (by decide)]
      decide +kernel
    · rw [hfrom.number _ (by decide)]
      decide +kernel
  · rw [(hstring _).2]
    rfl

end QueryCompiler

end FindQuery

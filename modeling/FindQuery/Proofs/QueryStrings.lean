import FindQuery.Proofs.Lockstep
import FindQuery.Proofs.Merging

namespace FindQuery

namespace Fields

variable {α β : Type}

theorem keys_map (f : α → β) (fs : Fields α) :
    keys (fs.map fun e => (e.1, f e.2)) = fs.keys :=
  List.map_map

theorem find?_map (f : α → β) (fs : Fields α) (k : Text) :
    find? k (fs.map fun e => (e.1, f e.2)) = (fs.find? k).map f := by
  induction fs with
  | nil => rfl
  | cons e fs ih =>
    by_cases hk : e.1 = k
    · simp only [List.map_cons, find?, if_pos hk, Option.map_some]
    · simp only [List.map_cons, find?, if_neg hk, ih]

theorem find?_ofList_eq_getLast? (pairs : List (Text × α)) (k : Text) :
    (ofList pairs).find? k = (pairs.filter (·.1 = k)).getLast?.map Prod.snd := by
  rw [find?_ofList, ← List.head?_filter, List.filter_reverse, List.head?_reverse]

end Fields

namespace QueryString

/-- Whether a name ends in a pair of brackets. -/
def isBracketed (k : Text) : Bool := ['[', ']'].isSuffixOf k

/-- A name without one pair of brackets at its end. -/
def base (k : Text) : Text := if isBracketed k then k.dropLast.dropLast else k

theorem baseName_eq (k : Text) : baseName k = (base k, isBracketed k) := by
  unfold baseName base
  cases h : Text.after? [']', '['] k.reverse with
  | some r =>
    have hk : k = r.reverse ++ ['[', ']'] := by
      rw [← List.reverse_reverse k, Text.after?_eq_some_iff.1 h, List.reverse_append]
      rfl
    have hbracketed : isBracketed k = true :=
      List.isSuffixOf_iff_suffix.2 ⟨r.reverse, hk.symm⟩
    have hbase : k.dropLast.dropLast = r.reverse := by
      rw [hk, List.dropLast_append_cons]
      exact List.dropLast_concat
    rw [hbracketed, if_pos rfl, hbase]
  | none =>
    have hplain : ¬ isBracketed k = true := by
      intro hsuffix
      obtain ⟨s, rfl⟩ := List.isSuffixOf_iff_suffix.1 hsuffix
      have hsome := Text.after?_eq_some_iff.2 (List.reverse_append : (s ++ ['[', ']']).reverse = _)
      rw [show ['[', ']'].reverse = [']', '['] from rfl, h] at hsome
      cases hsome
    rw [Bool.eq_false_iff.2 hplain, if_neg Bool.false_ne_true]

theorem eraseDups_append_singleton (ks : List Text) (k : Text) :
    (ks ++ [k]).eraseDups = if k ∈ ks then ks.eraseDups else ks.eraseDups ++ [k] := by
  rw [List.eraseDups_append, List.removeAll, List.filter_singleton]
  by_cases hk : k ∈ ks <;> simp [hk, List.eraseDups_cons]

/-- The pairs that give values to a name. -/
def givenBy (ps : List (Text × Text)) (b : Text) : List (Text × Text) :=
  ps.filter (base ·.1 = b)

theorem givenBy_append_singleton (ps : List (Text × Text)) (p : Text × Text) (b : Text) :
    givenBy (ps ++ [p]) b = if base p.1 = b then givenBy ps b ++ [p] else givenBy ps b := by
  rw [givenBy, List.filter_append, List.filter_singleton]
  by_cases hb : base p.1 = b
  · simp only [hb, decide_true, cond_true, ↓reduceIte, givenBy]
  · simp only [hb, decide_false, cond_false, ↓reduceIte, List.append_nil, givenBy]

/-- The value that pairs of one name give to it: a text if there is only one pair and its name has
no brackets, and else the list of all texts. -/
def valueOf : List (Text × Text) → Option Value
  | [] => none
  | [p] => some (if isBracketed p.1 then .list [.str p.2] else .str p.2)
  | ps => some (.list (ps.map (.str ·.2)))

theorem valueOf_append_singleton (ps : List (Text × Text)) (p : Text × Text) :
    valueOf (ps ++ [p]) = some (withValue (valueOf ps) (isBracketed p.1) p.2) := by
  match ps with
  | [] => rfl
  | [q] => cases hq : isBracketed q.1 <;> simp [valueOf, withValue, hq]
  | q :: q' :: ps => simp [valueOf, withValue]

theorem valueOf_of_ne_nil {ps : List (Text × Text)} (h : ps ≠ []) :
    ∃ v, valueOf ps = some v ∧ v.tokens = ps.map Prod.snd ∧
      (v.kind = .str ↔ ∃ p, ps = [p] ∧ isBracketed p.1 = false) ∧
      (v.kind ≠ .str → v = .list (ps.map (.str ·.2))) := by
  match ps with
  | [] => exact absurd rfl h
  | [p] =>
    cases hp : isBracketed p.1 <;> simp [valueOf, hp, Value.tokens, Value.kind, Value.text?]
  | p :: q :: ps =>
    exact ⟨_, rfl, Value.tokens_texts Prod.snd (p :: q :: ps), by simp [Value.kind], fun _ => rfl⟩

/-- Fields hold what pairs give: the names in the order in which they occur first, each with the
value that its pairs give to it. -/
structure Holds (fs : Fields Value) (ps : List (Text × Text)) : Prop where
  keys : fs.keys = (ps.map (base ·.1)).eraseDups
  value : ∀ b, fs.find? b = valueOf (givenBy ps b)

theorem Holds.addPair {fs : Fields Value} {ps : List (Text × Text)} (h : Holds fs ps)
    (p : Text × Text) : Holds (addPair fs p) (ps ++ [p]) := by
  unfold QueryString.addPair
  rw [baseName_eq]
  constructor
  · rw [Fields.keys_insert, h.keys, List.map_append, List.map_singleton,
      eraseDups_append_singleton]
    simp only [List.mem_eraseDups]
  · intro b
    rw [Fields.find?_insert, h.value, h.value, givenBy_append_singleton]
    split
    · next hb => rw [← hb, valueOf_append_singleton]
    · rfl

/-- The loop over the pairs holds, after each of them, what the pairs so far give. -/
theorem Holds.foldl {fs : Fields Value} {seen : List (Text × Text)} (h : Holds fs seen)
    (ps : List (Text × Text)) : Holds (ps.foldl QueryString.addPair fs) (seen ++ ps) := by
  induction ps generalizing fs seen with
  | nil => rwa [List.append_nil]
  | cons p ps ih =>
    rw [List.append_cons]
    exact ih (h.addPair p)

theorem holds_group (ps : List (Text × Text)) : Holds (group ps) ps := by
  have hnil : Holds [] [] := ⟨rfl, fun _ => rfl⟩
  exact hnil.foldl ps

theorem pairs_eq (t : Text) : pairs t = Form.decodePairs ((Text.after? ['?'] t).getD t) := by
  unfold pairs
  split
  · rfl
  · next hmark =>
    cases t with
    | nil => rfl
    | cons c r =>
      have hc : ¬ '?' = c := fun h => hmark r (h ▸ rfl)
      rw [Text.after?, if_neg hc]
      rfl

/-- A query string keeps all its values. Grouped, it has the names of its pairs without the brackets
at their ends, in the order in which they occur first; each has the values of its pairs in their
order, and is a text only if it has one pair, without brackets. Flat, it has the names with their
brackets, and of each the last value. -/
theorem values_are_kept_in_order (t : Text) :
    pairs t = Form.decodePairs ((Text.after? ['?'] t).getD t) ∧
    (readGrouped t).keys = ((pairs t).map (base ·.1)).eraseDups ∧
    (∀ b ∈ (readGrouped t).keys, ∃ v, (readGrouped t).find? b = some v ∧
      v.tokens = (givenBy (pairs t) b).map Prod.snd ∧
      (v.kind = .str ↔ ∃ p, givenBy (pairs t) b = [p] ∧ isBracketed p.1 = false) ∧
      (v.kind ≠ .str → v = .list ((givenBy (pairs t) b).map (.str ·.2)))) ∧
    (readFlat t).keys = ((pairs t).map Prod.fst).eraseDups ∧
    ∀ k, (readFlat t).find? k =
      ((pairs t).filter (·.1 = k)).getLast?.map fun p => .str p.2 := by
  have hholds := holds_group (pairs t)
  refine ⟨pairs_eq t, hholds.keys, ?_, ?_, ?_⟩
  · intro b hb
    rw [readGrouped, hholds.keys, List.mem_eraseDups] at hb
    obtain ⟨p, hp, hbase⟩ := List.mem_map.1 hb
    have hgiven : givenBy (pairs t) b ≠ [] :=
      List.ne_nil_of_mem (List.mem_filter.2 ⟨hp, decide_eq_true hbase⟩)
    rw [readGrouped, hholds.value]
    exact valueOf_of_ne_nil hgiven
  · rw [readFlat, Fields.keys_map, Fields.keys_ofList]
  · intro k
    rw [readFlat, Fields.find?_map, Fields.find?_ofList_eq_getLast?, Option.map_map]
    rfl

end QueryString

end FindQuery

import FindQuery.Filter.Node
import FindQuery.Proofs.Decoding

namespace FindQuery

/-- A property of texts that parts and decoded parts have with the whole. -/
structure Text.Inherited (T : Text → Prop) : Prop where
  sublist : ∀ {s t : Text}, s.Sublist t → T t → T s
  decoded : ∀ {t : Text}, T t → T (Form.decodePart t)
  separated : ∀ {t : Text}, T t → T (t.replace '#' '&')

/-- Nothing, a string with a property, or a list of nothing but these. -/
def Value.IsTextual (T : Text → Prop) : Value → Prop
  | .null => True
  | .str t => T t
  | .list items => ∀ v ∈ items, v = .null ∨ ∃ t, v = .str t ∧ T t
  | .bool _ | .int _ | .float _ | .map _ => False

/-- The tokens inside a token of a shape. -/
def Shape.tokens : Shape → List Text
  | .elemMatch body => (Filter.subquery body).filterMap (·.2.text?)
  | .logical _ operand => [operand]
  | .alternatives segments => segments
  | .conjunction parts => parts
  | .comparison _ operand => [operand]
  | .container _ | .existence _ | .fieldType _ | .date _ | .number _ | .boolean _ | .plain _
  | .pattern _ => []

/-- The rule that reads the tokens of a shape. -/
def Shape.rule : Shape → Rule
  | .container _ => .json
  | .elemMatch _ => .elemMatch
  | .logical _ _ => .logical
  | .alternatives _ => .or
  | .conjunction _ => .and
  | .comparison _ _ => .comparison
  | .existence _ | .fieldType _ => .element
  | .date _ => .date
  | .number _ => .number
  | .boolean _ => .boolean
  | .plain _ | .pattern _ => .text

theorem Shape.rule_of_read? {rule : Rule} {t : Text} {shape : Shape}
    (h : rule.read? t = some shape) : shape.rule = rule := by
  cases rule with
  | element =>
    obtain ⟨tagged, -, rfl⟩ := Option.map_eq_some_iff.1 h
    unfold Rule.elementShape
    split <;> rfl
  | text =>
    cases h
    split <;> rfl
  | json | elemMatch | logical | or | and | comparison | date | number | boolean =>
    obtain ⟨_, -, rfl⟩ := Option.map_eq_some_iff.1 h
    rfl

namespace Text

theorem inherited_length_le (n : Nat) : Inherited (·.length ≤ n) := by
  constructor
  · intro s t hs ht
    exact Nat.le_trans hs.length_le ht
  · intro t ht
    exact Nat.le_trans (Form.length_decodePart_le t) ht
  · intro t ht
    rw [Text.replace, List.length_map]
    exact ht

theorem not_mem_replace {c old new : Char} {t : Text} (h : c ∉ t) (hn : c ≠ new) :
    c ∉ t.replace old new := by
  intro hm
  obtain ⟨x, hx, he⟩ := List.mem_map.1 hm
  split at he
  · exact hn he.symm
  · exact h (he ▸ hx)

/-- Without percent signs, decoding brings in no character but the space. -/
theorem inherited_not_mem {c : Char} (hs : c ≠ ' ') (ha : c ≠ '&') :
    Inherited fun t => c ∉ t ∧ '%' ∉ t := by
  constructor
  · intro s t hst ht
    exact ⟨fun h => ht.1 (hst.subset h), fun h => ht.2 (hst.subset h)⟩
  · intro t ht
    rw [Form.decodePart_of_not_mem ht.2]
    exact ⟨not_mem_replace ht.1 hs, not_mem_replace ht.2 (by decide)⟩
  · intro t ht
    exact ⟨not_mem_replace ht.1 ha, not_mem_replace ht.2 (by decide)⟩

namespace Inherited

variable {T : Text → Prop} (hT : Inherited T)

include hT

theorem decodePairs {t : Text} (ht : T t) {e : Text × Text} (h : e ∈ Form.decodePairs t) :
    T e.2 := by
  obtain ⟨p, hp, rfl⟩ := List.mem_map.1 h
  have hpt := hT.sublist (sublist_of_mem_pieces (List.mem_filter.1 hp).1) ht
  apply hT.decoded
  cases hc : (p.cut '=').2 with
  | none => exact hT.sublist (List.nil_sublist p) hpt
  | some r => exact hT.sublist ((cut_sublist '=' p).2 r hc) hpt

theorem pairs {t : Text} (ht : T t) {e : Text × Text} (h : e ∈ QueryString.pairs t) : T e.2 := by
  unfold QueryString.pairs at h
  split at h
  · exact hT.decodePairs (hT.sublist (List.sublist_cons_self _ _) ht) h
  · exact hT.decodePairs ht h

theorem readFlat {t : Text} (ht : T t) {e : Text × Value} (h : e ∈ QueryString.readFlat t) :
    ∃ v, e.2 = .str v ∧ T v := by
  obtain ⟨d, hd, rfl⟩ := List.mem_map.1 h
  exact ⟨d.2, rfl, hT.pairs ht (Fields.mem_ofList hd)⟩

omit hT in
theorem addPair {fs : Fields Value} {pair : Text × Text} (hfs : ∀ e ∈ fs, e.2.IsTextual T)
    (hp : T pair.2) : ∀ e ∈ QueryString.addPair fs pair, e.2.IsTextual T := by
  intro e he
  rcases Fields.mem_insert he with rfl | he
  · have hnew : Value.str pair.2 = .null ∨ ∃ t, Value.str pair.2 = .str t ∧ T t :=
      .inr ⟨_, rfl, hp⟩
    unfold QueryString.withValue
    split
    · split
      · intro v hv
        rw [List.mem_singleton.1 hv]
        exact hnew
      · exact hp
    · next vs hold =>
      have hvs := hfs _ (Fields.mem_of_find? hold)
      intro v hv
      rcases List.mem_append.1 hv with hv | hv
      · exact hvs v hv
      · rw [List.mem_singleton.1 hv]
        exact hnew
    · next w hnot hold =>
      have hw := hfs _ (Fields.mem_of_find? hold)
      intro v hv
      rcases List.mem_cons.1 hv with rfl | hv
      · cases v with
        | null => exact .inl rfl
        | str t => exact .inr ⟨t, rfl, hw⟩
        | list vs => exact (hnot vs rfl).elim
        | bool | int | float | map => exact hw.elim
      · rw [List.mem_singleton.1 hv]
        exact hnew
  · exact hfs e he

omit hT in
theorem foldl_addPair {pairs : List (Text × Text)} {fs : Fields Value}
    (hp : ∀ p ∈ pairs, T p.2) (hfs : ∀ e ∈ fs, e.2.IsTextual T) :
    ∀ e ∈ pairs.foldl QueryString.addPair fs, e.2.IsTextual T := by
  induction pairs generalizing fs with
  | nil => exact hfs
  | cons p pairs ih =>
    exact ih (fun q hq => hp q (.tail _ hq)) (addPair hfs (hp p (.head _)))

theorem readGrouped {t : Text} (ht : T t) :
    ∀ e ∈ QueryString.readGrouped t, e.2.IsTextual T :=
  foldl_addPair (fun _ hp => hT.pairs ht hp) nofun

theorem tagged {tags : List Text} {t : Text} {tag : Text × Text} (ht : T t)
    (h : Tag.read? tags t = some tag) : T tag.2 := by
  obtain ⟨-, he⟩ := Tag.eq_of_read? h
  exact hT.sublist (he ▸ List.sublist_append_right _ _) ht

theorem tokens {rule : Rule} {token : Text} {shape : Shape} (h : rule.read? token = some shape)
    (ht : T token) : ∀ t ∈ shape.tokens, T t := by
  intro t hmem
  cases rule with
  | elemMatch =>
    obtain ⟨tagged, hr, rfl⟩ := Option.map_eq_some_iff.1 h
    obtain ⟨e, he, hv⟩ := List.mem_filterMap.1 hmem
    obtain ⟨v, hs, hTv⟩ := hT.readFlat (hT.separated (hT.tagged ht hr)) he
    rw [hs] at hv
    cases hv
    exact hTv
  | logical =>
    obtain ⟨tagged, hr, rfl⟩ := Option.map_eq_some_iff.1 h
    rw [List.mem_singleton.1 hmem]
    exact hT.tagged ht hr
  | comparison =>
    obtain ⟨tagged, hr, rfl⟩ := Option.map_eq_some_iff.1 h
    rw [List.mem_singleton.1 hmem]
    exact hT.tagged ht hr
  | or =>
    obtain ⟨segments, hr, rfl⟩ := Option.map_eq_some_iff.1 h
    obtain ⟨rfl, -⟩ := Alternatives.read?_eq_some_iff.1 hr
    exact hT.sublist (sublist_of_mem_pieces hmem) ht
  | and =>
    obtain ⟨parts, hr, rfl⟩ := Option.map_eq_some_iff.1 h
    obtain ⟨rfl, -⟩ := Groups.read?_eq_some_iff.1 hr
    exact hT.sublist (Groups.sublist_of_mem_split hmem) ht
  | element =>
    obtain ⟨tagged, -, rfl⟩ := Option.map_eq_some_iff.1 h
    unfold Rule.elementShape at hmem
    split at hmem <;> cases hmem
  | text =>
    cases h
    split at hmem <;> cases hmem
  | json | date | number | boolean =>
    obtain ⟨_, -, rfl⟩ := Option.map_eq_some_iff.1 h
    cases hmem

end Inherited

end Text

end FindQuery

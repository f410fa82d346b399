import FindQuery.Proofs.RuleOrder

namespace FindQuery

namespace Groups

theorem brace_not_mem_takeWhile (r : Text) : '{' ∉ r.takeWhile (· ≠ '{') := by
  intro h
  have hall : (r.takeWhile (· ≠ '{')).all (· ≠ '{') = true := List.all_takeWhile
  exact of_decide_eq_true (List.all_eq_true.1 hall '{' h) rfl

theorem split_cons (c : Char) (r : Text) :
    split (c :: r) = (c :: r.takeWhile (· ≠ '{')) :: split (r.dropWhile (· ≠ '{')) := by
  have hafter : ∀ d ∈ (r.dropWhile (· ≠ '{')).head?, d = '{' := by
    intro d hd
    have h := List.head?_dropWhile_not (· ≠ '{') r
    rw [Option.mem_def.1 hd] at h
    exact Decidable.of_not_not (of_decide_eq_false h)
  have h := split_append (brace_not_mem_takeWhile r) hafter c
  rwa [List.cons_append, List.takeWhile_append_dropWhile] at h

/-- Past the first part, there is one part for each opening brace. It goes on up to the next one. -/
theorem mem_split_dropWhile {r p : Text} : p ∈ split (r.dropWhile (· ≠ '{')) ↔
    ∃ s, '{' :: s <:+ r ∧ p = '{' :: s.takeWhile (· ≠ '{') := by
  induction r with
  | nil =>
    refine iff_of_false List.not_mem_nil ?_
    rintro ⟨s, hs, -⟩
    exact absurd (List.suffix_nil.1 hs) (List.cons_ne_nil _ _)
  | cons c r ih =>
    rw [List.dropWhile_cons]
    by_cases hc : c = '{'
    · subst hc
      rw [if_neg (by decide), split_cons, List.mem_cons, ih]
      constructor
      · rintro (rfl | ⟨s, hs, rfl⟩)
        · exact ⟨r, List.suffix_refl _, rfl⟩
        · exact ⟨s, hs.trans (List.suffix_cons _ r), rfl⟩
      · rintro ⟨s, hs, rfl⟩
        rcases List.suffix_cons_iff.1 hs with he | hs
        · cases he
          exact .inl rfl
        · exact .inr ⟨s, hs, rfl⟩
    · rw [if_pos (decide_eq_true hc), ih]
      constructor
      · rintro ⟨s, hs, rfl⟩
        exact ⟨s, hs.trans (List.suffix_cons c r), rfl⟩
      · rintro ⟨s, hs, rfl⟩
        rcases List.suffix_cons_iff.1 hs with he | hs
        · exact absurd (List.cons.inj he).1.symm hc
        · exact ⟨s, hs, rfl⟩

theorem one_lt_length_split (c : Char) (r : Text) : 1 < (split (c :: r)).length ↔ '{' ∈ r := by
  rw [split_cons, List.length_cons, Nat.succ_lt_succ_iff, List.length_pos_iff_exists_mem]
  simp only [mem_split_dropWhile]
  constructor
  · rintro ⟨_, s, hs, -⟩
    exact hs.subset (.head _)
  · intro h
    obtain ⟨before, after, rfl⟩ := List.append_of_mem h
    exact ⟨_, after, List.suffix_append before _, rfl⟩

theorem ne_brace_of_tag {tag : Text} (htag : ∀ c ∈ tag, Text.isWord c = true) :
    ∀ c ∈ tag ++ ['}'], decide (c ≠ '{') = true := by
  intro c hc
  apply decide_eq_true
  rintro rfl
  rcases List.mem_append.1 hc with hc | hc
  · exact absurd (htag '{' hc) (by decide)
  · exact absurd hc (by decide)

theorem startsWithTag_takeWhile (r : Text) :
    startsWithTag ('{' :: r.takeWhile (· ≠ '{')) = startsWithTag ('{' :: r) := by
  rw [Bool.eq_iff_iff, startsWithTag_iff, startsWithTag_iff]
  constructor
  · rintro ⟨tag, body, hr, hne, hword⟩
    have hsplit := List.takeWhile_append_dropWhile (p := (· ≠ '{')) (l := r)
    rw [(List.cons.inj hr).2] at hsplit
    have hrest := hsplit.symm.trans (List.append_assoc tag ('}' :: body) _)
    exact ⟨tag, body ++ r.dropWhile (· ≠ '{'), congrArg ('{' :: ·) hrest, hne, hword⟩
  · rintro ⟨tag, body, hr, hne, hword⟩
    refine ⟨tag, body.takeWhile (· ≠ '{'), ?_, hne, hword⟩
    rw [(List.cons.inj hr).2, List.append_cons, List.takeWhile_append_of_pos (ne_brace_of_tag hword),
      ← List.append_cons]

def AllTags (t : Text) : Prop := ∀ r, '{' :: r <:+ t → startsWithTag ('{' :: r) = true

theorem all_split_dropWhile (r : Text) :
    (split (r.dropWhile (· ≠ '{'))).all startsWithTag = true ↔ AllTags r := by
  rw [List.all_eq_true]
  constructor
  · intro h s hs
    rw [← startsWithTag_takeWhile]
    exact h _ (mem_split_dropWhile.2 ⟨s, hs, rfl⟩)
  · intro h p hp
    obtain ⟨s, hs, rfl⟩ := mem_split_dropWhile.1 hp
    rw [startsWithTag_takeWhile]
    exact h s hs

instance (t : Text) : Decidable (AllTags t) := decidable_of_iff _ (all_split_dropWhile t)

/-- Whether what follows a tag is cut: it has an opening brace, and all of them open tags. -/
def IsCut (body : Text) : Prop := '{' ∈ body ∧ AllTags body

instance (body : Text) : Decidable (IsCut body) := inferInstanceAs (Decidable (_ ∧ _))

/-- The parts of a token that has a tag before a body that is cut. -/
def cut (tag body : Text) : List Text :=
  (Tag.marker tag ++ body.takeWhile (· ≠ '{')) :: split (body.dropWhile (· ≠ '{'))

theorem read?_marker {tag : Text} (hne : tag ≠ []) (htag : ∀ c ∈ tag, Text.isWord c = true)
    (body : Text) :
    read? (Tag.marker tag ++ body) = if IsCut body then some (cut tag body) else none := by
  have htext : Tag.marker tag ++ body = '{' :: (tag ++ ['}'] ++ body) := rfl
  have hkeep := ne_brace_of_tag htag
  have hsplit : split (Tag.marker tag ++ body) = cut tag body := by
    rw [htext, split_cons, List.takeWhile_append_of_pos hkeep, List.dropWhile_append_of_pos hkeep]
    rfl
  have hlength : 1 < (cut tag body).length ↔ '{' ∈ body := by
    rw [← hsplit, htext, one_lt_length_split, List.mem_append]
    exact or_iff_right fun h => of_decide_eq_true (hkeep '{' h) rfl
  have hstart : (cut tag body).all startsWithTag = true ↔ AllTags body := by
    rw [cut, List.all_cons, Bool.and_eq_true, all_split_dropWhile, Tag.marker_append]
    exact and_iff_right (startsWithTag_of_isWord hne htag _)
  simp only [read?, hsplit, Bool.and_eq_true, decide_eq_true_eq]
  exact ite_congr (propext (and_congr hlength hstart)) (fun _ => rfl) fun _ => rfl

/-- A part of a token: a tag, and a body without opening braces. -/
def IsGroup (p : Text) : Prop :=
  ∃ tag body, p = Tag.marker tag ++ body ∧ tag ≠ [] ∧ (∀ c ∈ tag, Text.isWord c = true) ∧
    '{' ∉ body

theorem IsGroup.ne_nil {p : Text} (h : IsGroup p) : p ≠ [] := by
  obtain ⟨tag, body, rfl, -⟩ := h
  exact Tag.marker_append_ne_nil tag body

theorem read?_flatten {parts : List Text} (h : ∀ p ∈ parts, IsGroup p)
    (hlength : 1 < parts.length) : read? parts.flatten = some parts := by
  have hsplit : split parts.flatten = parts := by
    apply split_flatten
    intro p hp
    obtain ⟨tag, body, rfl, -, hword, hbody⟩ := h p hp
    refine ⟨tag ++ ['}'] ++ body, rfl, ?_⟩
    rw [List.mem_append, not_or]
    exact ⟨fun h => of_decide_eq_true (ne_brace_of_tag hword '{' h) rfl, hbody⟩
  refine read?_eq_some_iff.2 ⟨hsplit.symm, hlength, ?_⟩
  intro p hp
  obtain ⟨tag, body, rfl, hne, hword, -⟩ := h p hp
  rw [Tag.marker_append]
  exact startsWithTag_of_isWord hne hword body

theorem brace_not_mem_tail {t p : Text} (h : p ∈ split t) : '{' ∉ p.tail := by
  cases t with
  | nil => cases h
  | cons c r =>
    rw [split_cons] at h
    rcases List.mem_cons.1 h with rfl | h
    · exact brace_not_mem_takeWhile r
    · obtain ⟨s, -, rfl⟩ := mem_split_dropWhile.1 h
      exact brace_not_mem_takeWhile s

theorem isGroup_of_mem_split {t p : Text} (h : p ∈ split t) (hstart : startsWithTag p = true) :
    IsGroup p := by
  obtain ⟨tag, body, rfl, hne, hword⟩ := startsWithTag_iff.1 hstart
  refine ⟨tag, body, (Tag.marker_append tag body).symm, hne, hword, ?_⟩
  intro hbrace
  exact brace_not_mem_tail h (List.mem_append_right tag (.tail _ hbrace))

theorem isGroup_of_read? {t : Text} {parts : List Text} (h : read? t = some parts) :
    parts = split t ∧ parts ≠ [] ∧ ∀ p ∈ parts, IsGroup p := by
  obtain ⟨rfl, hlength, hall⟩ := read?_eq_some_iff.1 h
  have hne := List.ne_nil_of_length_pos (Nat.zero_lt_of_lt hlength)
  exact ⟨rfl, hne, fun p hp => isGroup_of_mem_split hp (hall p hp)⟩

/-- Parts that make up a text. None of them is empty, all but the first one start with an opening
brace, and none of them has one after its first character. -/
structure IsPartition (t : Text) (parts : List Text) : Prop where
  flatten : parts.flatten = t
  nil_not_mem : [] ∉ parts
  opens : ∀ p ∈ parts.tail, p.head? = some '{'
  brace_not_mem : ∀ p ∈ parts, '{' ∉ p.tail

theorem split_isPartition (t : Text) : IsPartition t (split t) where
  flatten := flatten_split t
  nil_not_mem := nil_not_mem_split t
  opens := by
    intro p hp
    cases t with
    | nil => cases hp
    | cons c r =>
      rw [split_cons] at hp
      obtain ⟨s, -, rfl⟩ := mem_split_dropWhile.1 hp
      rfl
  brace_not_mem _ hp := brace_not_mem_tail hp

theorem IsPartition.eq_split {t : Text} {parts : List Text} (h : IsPartition t parts) :
    parts = split t := by
  obtain ⟨rfl, hnil, hopens, hbrace⟩ := h
  cases parts with
  | nil => rfl
  | cons p parts =>
    have hparts : ∀ q ∈ parts, ∃ r, q = '{' :: r ∧ '{' ∉ r := by
      intro q hq
      obtain ⟨r, rfl⟩ := List.head?_eq_some_iff.1 (hopens q hq)
      exact ⟨r, rfl, hbrace _ (.tail _ hq)⟩
    obtain ⟨c, r, rfl⟩ := List.exists_cons_of_ne_nil (List.ne_of_not_mem_cons hnil).symm
    have hr : '{' ∉ r := hbrace _ (.head _)
    rw [List.flatten_cons, split_append hr (opens_flatten hparts), split_flatten hparts]

theorem allTags_iff {t : Text} : AllTags t ↔ ∀ before after, t = before ++ '{' :: after →
    ∃ tag body, after = tag ++ '}' :: body ∧ tag ≠ [] ∧ ∀ c ∈ tag, Text.isWord c = true := by
  constructor
  · intro h before after ht
    obtain ⟨tag, body, hafter, htag⟩ := startsWithTag_iff.1 (h after ⟨before, ht.symm⟩)
    exact ⟨tag, body, (List.cons.inj hafter).2, htag⟩
  · rintro h after ⟨before, ht⟩
    obtain ⟨tag, body, hafter, htag⟩ := h before after ht.symm
    exact startsWithTag_iff.2 ⟨tag, body, congrArg ('{' :: ·) hafter, htag⟩

theorem isSome_read?_iff {t : Text} :
    (read? t).isSome = true ↔ 2 ≤ t.count '{' ∧ t.head? = some '{' ∧ AllTags t := by
  have hread : (read? t).isSome = true ↔
      1 < (split t).length ∧ ∀ p ∈ split t, startsWithTag p = true := by
    simp only [Option.isSome_iff_exists, read?_eq_some_iff, exists_eq_left]
  rw [hread]
  cases t with
  | nil => exact iff_of_false (fun h => nomatch h.1) fun h => nomatch h.2.1
  | cons c r =>
    by_cases hc : c = '{'
    · subst hc
      have hall := all_split_dropWhile ('{' :: r)
      rw [List.dropWhile_cons_of_neg (by decide), List.all_eq_true] at hall
      have hcount : 2 ≤ ('{' :: r).count '{' ↔ '{' ∈ r := by
        rw [List.count_cons_self, Nat.succ_le_succ_iff]
        exact List.one_le_count_iff
      rw [one_lt_length_split, hall, hcount, List.head?_cons]
      exact and_congr_right fun _ => (and_iff_right rfl).symm
    · -- the first part starts as the token does, so it has no tag
      refine iff_of_false ?_ fun h => hc (Option.some.inj h.2.1)
      rintro ⟨-, hall⟩
      obtain ⟨p, parts, hsplit⟩ := exists_split_cons c r
      obtain ⟨tag, body, hp, -⟩ := startsWithTag_iff.1 (hall (c :: p) (hsplit ▸ .head _))
      exact hc (List.cons.inj hp).1

end Groups

/-- A token is split in the only way into non-empty parts of which all but the first start with an
opening brace, and none has one after its first character. So the parts are taken as conditions
exactly if the token starts with the first of several opening braces and each of them opens a tag,
and then all parts are shorter than the token. -/
theorem tokens_are_partitioned_before_opening_braces (t : Text) :
    (∀ parts, Groups.IsPartition t parts ↔ parts = Groups.split t) ∧
    (Rule.and.accepts t = true ↔ 2 ≤ t.count '{' ∧ t.head? = some '{' ∧
      ∀ before after, t = before ++ '{' :: after →
        ∃ tag body, after = tag ++ '}' :: body ∧ tag ≠ [] ∧ ∀ c ∈ tag, Text.isWord c = true) ∧
    (Rule.and.accepts t = true → Rule.and.read? t = some (.conjunction (Groups.split t)) ∧
      ∀ p ∈ Groups.split t, p.length < t.length) := by
  refine ⟨?_, ?_, ?_⟩
  · intro parts
    constructor
    · exact Groups.IsPartition.eq_split
    · rintro rfl
      exact Groups.split_isPartition t
  · rw [Rule.accepts, Rule.read?, Option.isSome_map, Groups.isSome_read?_iff, Groups.allTags_iff]
  · intro haccepts
    obtain ⟨parts, hread⟩ := Rule.exists_of_isSome_map haccepts
    rw [Rule.read?, hread]
    obtain ⟨rfl, hlength, -⟩ := Groups.read?_eq_some_iff.1 hread
    exact ⟨rfl, fun p hp => Groups.length_lt_of_mem_split hlength hp⟩

theorem tokens_are_partitioned_before_opening_braces_adjacent :
    Groups.IsPartition "{gt}{x_1}2,{lt}".toList
      ["{gt}".toList, "{x_1}2,".toList, "{lt}".toList] ∧
    Rule.and.accepts "{gt}{x_1}2,{lt}".toList = true ∧
    Rule.and.read? "{gt}{x_1}2,{lt}".toList =
      some (.conjunction ["{gt}".toList, "{x_1}2,".toList, "{lt}".toList]) ∧
    (∀ p ∈ ["{gt}".toList, "{x_1}2,".toList, "{lt}".toList], p.length < 15) ∧
    ¬ Rule.and.accepts "x{gt}5{lt}9".toList = true := by
  have hsplit : Groups.split "{gt}{x_1}2,{lt}".toList =
      ["{gt}".toList, "{x_1}2,".toList, "{lt}".toList] := by
    decide
  have haccepts : Rule.and.accepts "{gt}{x_1}2,{lt}".toList = true := by decide +kernel
  obtain ⟨hunique, -, hparts⟩ :=
    tokens_are_partitioned_before_opening_braces "{gt}{x_1}2,{lt}".toList
  obtain ⟨hread, hshorter⟩ := hparts haccepts
  rw [hsplit] at hread hshorter
  refine ⟨(hunique _).2 hsplit.symm, haccepts, hread, hshorter, ?_⟩
  intro hliteral
  have hstart := ((tokens_are_partitioned_before_opening_braces _).2.1.1 hliteral).2.1
  exact absurd hstart (by decide)

end FindQuery

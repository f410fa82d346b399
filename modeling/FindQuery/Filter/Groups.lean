import FindQuery.Text.Word
import FindQuery.Text.Basic

namespace FindQuery.Groups

/-- Puts a character in front of split parts; before an opening brace a new part starts. -/
def extend (c : Char) : List Text → List Text
  | [] => [[c]]
  | p :: ps => if p.head? = some '{' then [c] :: p :: ps else (c :: p) :: ps

/-- Splits a token before every opening brace. -/
def split : Text → List Text
  | [] => []
  | c :: r => extend c (split r)

/-- Whether a part starts with a tag: word characters in braces. -/
def startsWithTag : Text → Bool
  | '{' :: r => (r.takeWhile Text.isWord) ≠ [] && (r.dropWhile Text.isWord).head? = some '}'
  | _ => false

/-- The parts of a token that has several and in which each starts with a tag. -/
def read? (t : Text) : Option (List Text) :=
  let parts := split t
  if 1 < parts.length && parts.all startsWithTag then some parts else none

theorem startsWithTag_of_isWord {tag : Text} (hne : tag ≠ [])
    (h : ∀ c ∈ tag, Text.isWord c = true) (r : Text) :
    startsWithTag ('{' :: (tag ++ '}' :: r)) = true := by
  have hclose : ¬ Text.isWord '}' = true := by decide
  have htake : (tag ++ '}' :: r).takeWhile Text.isWord = tag := by
    rw [List.takeWhile_append_of_pos h, List.takeWhile_cons_of_neg hclose, List.append_nil]
  have hdrop : (tag ++ '}' :: r).dropWhile Text.isWord = '}' :: r := by
    rw [List.dropWhile_append_of_pos h, List.dropWhile_cons_of_neg hclose]
  rw [startsWithTag, htake, hdrop, decide_eq_true hne]
  rfl

theorem startsWithTag_iff {p : Text} : startsWithTag p = true ↔
    ∃ tag body, p = '{' :: (tag ++ '}' :: body) ∧ tag ≠ [] ∧ ∀ c ∈ tag, Text.isWord c = true := by
  constructor
  · intro h
    unfold startsWithTag at h
    split at h
    · next r =>
      simp only [Bool.and_eq_true, decide_eq_true_eq] at h
      obtain ⟨hne, hclose⟩ := h
      obtain ⟨body, hbody⟩ := List.head?_eq_some_iff.1 hclose
      have hall : (r.takeWhile Text.isWord).all Text.isWord = true := List.all_takeWhile
      refine ⟨r.takeWhile Text.isWord, body, ?_, hne, List.all_eq_true.1 hall⟩
      rw [← hbody, List.takeWhile_append_dropWhile]
    · cases h
  · rintro ⟨tag, body, rfl, hne, hword⟩
    exact startsWithTag_of_isWord hne hword body

theorem flatten_extend (c : Char) (ps : List Text) : (extend c ps).flatten = c :: ps.flatten := by
  cases ps with
  | nil => rfl
  | cons p ps =>
    rw [extend]
    split <;> rfl

theorem flatten_split (t : Text) : (split t).flatten = t := by
  induction t with
  | nil => rfl
  | cons c r ih => rw [split, flatten_extend, ih]

theorem sublist_of_mem_split {t p : Text} (h : p ∈ split t) : p.Sublist t := by
  have hp := List.sublist_flatten_of_mem h
  rw [flatten_split] at hp
  exact hp

theorem nil_not_mem_extend (c : Char) {ps : List Text} (h : [] ∉ ps) : [] ∉ extend c ps := by
  cases ps with
  | nil => exact List.not_mem_cons_of_ne_of_not_mem nofun List.not_mem_nil
  | cons p ps =>
    rw [extend]
    split
    · exact List.not_mem_cons_of_ne_of_not_mem nofun h
    · exact List.not_mem_cons_of_ne_of_not_mem nofun (List.not_mem_of_not_mem_cons h)

theorem nil_not_mem_split (t : Text) : [] ∉ split t := by
  induction t with
  | nil => exact List.not_mem_nil
  | cons c r ih => exact nil_not_mem_extend c ih

theorem exists_split_cons (c : Char) (r : Text) : ∃ p ps, split (c :: r) = (c :: p) :: ps := by
  rw [split]
  cases split r with
  | nil => exact ⟨[], [], rfl⟩
  | cons p ps =>
    rw [extend]
    split
    · exact ⟨[], p :: ps, rfl⟩
    · exact ⟨p, ps, rfl⟩

theorem split_append {r s : Text} (hr : '{' ∉ r) (hs : ∀ d ∈ s.head?, d = '{') (c : Char) :
    split (c :: r ++ s) = (c :: r) :: split s := by
  induction r generalizing c with
  | nil =>
    cases s with
    | nil => rfl
    | cons d s =>
      obtain ⟨p, ps, hsplit⟩ := exists_split_cons d s
      have hd : d = '{' := hs d rfl
      rw [List.cons_append, List.nil_append, split, hsplit, hd]
      rfl
  | cons d r ih =>
    have hd : d ≠ '{' := (List.ne_of_not_mem_cons hr).symm
    have hrest := ih (List.not_mem_of_not_mem_cons hr) d
    rw [List.cons_append, split, hrest, extend, if_neg]
    exact fun h => hd (Option.some.inj h)

theorem opens_flatten {parts : List Text} (h : ∀ p ∈ parts, ∃ r, p = '{' :: r ∧ '{' ∉ r) :
    ∀ d ∈ parts.flatten.head?, d = '{' := by
  intro d hd
  cases parts with
  | nil => cases hd
  | cons p parts =>
    obtain ⟨r, rfl, -⟩ := h p (.head _)
    cases hd
    rfl

theorem split_flatten {parts : List Text} (h : ∀ p ∈ parts, ∃ r, p = '{' :: r ∧ '{' ∉ r) :
    split parts.flatten = parts := by
  induction parts with
  | nil => rfl
  | cons p parts ih =>
    obtain ⟨r, rfl, hr⟩ := h p (.head _)
    have hparts := fun q hq => h q (.tail _ hq)
    rw [List.flatten_cons, split_append hr (opens_flatten hparts), ih hparts]

theorem length_lt_of_mem_split {t p : Text} (hparts : 1 < (split t).length) (h : p ∈ split t) :
    p.length < t.length := by
  obtain ⟨before, after, he⟩ := List.append_of_mem h
  have hnil := nil_not_mem_split t
  have ht := congrArg List.length (flatten_split t)
  rw [he] at hnil hparts ht
  have hothers : 0 < (before ++ after).length := by
    simp only [List.length_append, List.length_cons] at hparts ⊢
    omega
  obtain ⟨q, hq⟩ := List.exists_mem_of_length_pos hothers
  have hne : q ≠ [] := by
    rintro rfl
    apply hnil
    rcases List.mem_append.1 hq with hq | hq
    · exact List.mem_append_left _ hq
    · exact List.mem_append_right _ (.tail _ hq)
  have hrest := List.length_pos_iff.2 (List.flatten_ne_nil_iff.2 ⟨q, hq, hne⟩)
  simp only [List.flatten_append, List.flatten_cons, List.length_append] at ht hrest
  omega

theorem read?_eq_some_iff {t : Text} {parts : List Text} : read? t = some parts ↔
    parts = split t ∧ 1 < parts.length ∧ ∀ p ∈ parts, startsWithTag p = true := by
  simp only [read?, Option.ite_none_right_eq_some, Option.some.injEq, Bool.and_eq_true,
    decide_eq_true_eq, List.all_eq_true]
  constructor
  · rintro ⟨haccepts, rfl⟩
    exact ⟨rfl, haccepts⟩
  · rintro ⟨rfl, haccepts⟩
    exact ⟨haccepts, rfl⟩

end FindQuery.Groups

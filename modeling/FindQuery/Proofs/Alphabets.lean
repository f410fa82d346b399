import FindQuery.Filter.Shape
import FindQuery.Proofs.KeylessJson
import FindQuery.Proofs.NumeralGrammar
import FindQuery.Proofs.SegmentGrammar

namespace FindQuery

/-- A character that occurs in no number and in no instant. -/
structure Text.IsForeign (c : Char) : Prop where
  noDigit : digitValue? c = none
  noMark : c ∉ "+-.,:eETZ\n".toList

namespace Text.IsForeign

variable {c : Char} (hc : IsForeign c)

include hc

theorem ne {x : Char} (hx : x ∈ "+-.,:eETZ\n".toList) : c ≠ x := by
  rintro rfl
  exact hc.noMark hx

theorem ne_digit {x : Char} {d : Nat} (hx : digitValue? x = some d) : c ≠ x := by
  rintro rfl
  rw [hc.noDigit] at hx
  cases hx

theorem numeral_eq_none {t : Text} (h : c ∈ t) : Numeral.ofText? t = none := by
  have hmarks : "+-.eE".toList ⊆ "+-.,:eETZ\n".toList := by decide
  rw [Option.eq_none_iff_forall_ne_some]
  intro n hn
  have hwritten := Numeral.ofExactText?_eq_some.1 hn
  refine hwritten.forall_mem (P := (c ≠ ·)) ?_ ?_ c (mem_dropFinalNewline (hc.ne (by decide)) h) rfl
  · exact fun x d hd => hc.ne_digit hd
  · exact fun x hx => hc.ne (hmarks hx)

theorem readWritten?_eq_none {t : Text} (h : c ∈ t) : Instant.readWritten? t = none := by
  have hmarks : "-T:.,Z+".toList ⊆ "+-.,:eETZ\n".toList := by decide
  rw [Option.eq_none_iff_forall_ne_some]
  intro w hw
  have hwritten := Instant.readWritten?_eq_some.1 hw
  refine hwritten.forall_mem (P := (c ≠ ·)) ?_ ?_ c h rfl
  · exact fun x d hd => hc.ne_digit hd
  · exact fun x hx => hc.ne (hmarks hx)

theorem instant_eq_none {t : Text} (h : c ∈ t) : Instant.ofText? t = none := by
  rw [Instant.ofText?, hc.readWritten?_eq_none (mem_dropFinalNewline (hc.ne (by decide)) h)]
  rfl

end Text.IsForeign

theorem Json.mem_skipSpace {c : Char} {t : Text} (hc : isSpace c = false) (h : c ∈ t) :
    c ∈ skipSpace t := by
  induction t with
  | nil => exact h
  | cons x r ih =>
    rw [skipSpace, List.dropWhile_cons]
    split
    · next hx =>
      have hne : c ≠ x := by
        rintro rfl
        rw [hx] at hc
        cases hc
      exact ih (List.mem_of_ne_of_mem hne h)
    · exact h

theorem Json.read?_of_readContainer? {t : Text} {v : Value} (h : readContainer? t = some v) :
    read? t = some v ∧ (v.kind = .map ∨ v.kind = .list) := by
  unfold readContainer? at h
  split at h
  · next hr =>
    cases h
    exact ⟨hr, .inr rfl⟩
  · next hr =>
    cases h
    exact ⟨hr, .inl rfl⟩
  · cases h

/-- A value that is a container opens with a bracket, or with a brace before a member name or the
closing brace. -/
theorem Json.readValue?_opens {n : Nat} {t r : Text} {v : Value}
    (h : readValue? n t = some (v, r)) (hkind : v.kind = .map ∨ v.kind = .list) :
    (∃ s, t = '[' :: s) ∨ ∃ s, t = '{' :: s ∧
      ((∃ u, skipSpace s = '"' :: u) ∨ skipSpace s = '}' :: r) := by
  cases n with
  | zero => cases h
  | succ n =>
    unfold readValue? at h
    split at h
    · obtain ⟨_, -, he⟩ := Option.map_eq_some_iff.1 h
      cases he
      rcases hkind with hkind | hkind <;> cases hkind
    · exact .inl ⟨_, rfl⟩
    · refine .inr ⟨_, rfl, ?_⟩
      split at h
      · next hrest =>
        cases h
        exact .inr hrest
      · obtain ⟨_, hmembers, -⟩ := Option.map_eq_some_iff.1 h
        cases n with
        | zero => cases hmembers
        | succ n =>
          unfold readMembers? at hmembers
          split at hmembers
          · next hquote => exact .inl ⟨_, hquote⟩
          · cases hmembers
    · obtain ⟨⟨hmap, hlist⟩, -⟩ := readAtom?_kind h
      exact absurd hkind (not_or.2 ⟨hmap, hlist⟩)

theorem Json.readContainer?_opens {t : Text} {v : Value} (h : readContainer? t = some v) :
    (∃ s, skipSpace t = '[' :: s) ∨ ∃ s, skipSpace t = '{' :: s ∧
      ((∃ u, skipSpace s = '"' :: u) ∨ ∃ r, skipSpace s = '}' :: r ∧ skipSpace r = []) := by
  obtain ⟨hread, hkind⟩ := read?_of_readContainer? h
  unfold read? at hread
  split at hread
  · next w r hw =>
    split at hread
    · next hend =>
      cases hread
      refine (readValue?_opens hw hkind).imp_right ?_
      rintro ⟨s, hs, hopen⟩
      exact ⟨s, hs, hopen.imp_right fun hclose => ⟨r, hclose, hend⟩⟩
    · cases hread
  · cases hread

theorem Json.mem_of_readContainer? {t : Text} {v : Value} (h : readContainer? t = some v) :
    '[' ∈ t ∨ '{' ∈ t := by
  have hsub := skipSpace_sublist t
  rcases readContainer?_opens h with ⟨s, hs⟩ | ⟨s, hs, -⟩
  · exact .inl (hsub.subset (hs ▸ List.mem_cons_self))
  · exact .inr (hsub.subset (hs ▸ List.mem_cons_self))

theorem Json.mem_of_bar_mem {t : Text} {v : Value} (h : readContainer? t = some v)
    (hbar : '|' ∈ t) : '[' ∈ t ∨ '"' ∈ t := by
  have hspace : isSpace '|' = false := by decide
  have hsub := skipSpace_sublist t
  rcases readContainer?_opens h with ⟨s, hs⟩ | ⟨s, hs, ⟨u, hu⟩ | ⟨r, hr, hend⟩⟩
  · exact .inl (hsub.subset (hs ▸ List.mem_cons_self))
  · rw [hs] at hsub
    have hquote : '"' ∈ s := (skipSpace_sublist s).subset (hu ▸ List.mem_cons_self)
    exact .inr (hsub.subset (.tail _ hquote))
  · -- an empty map with blanks around it has no bar
    have hopen := mem_skipSpace hspace hbar
    rw [hs] at hopen
    have hclose := mem_skipSpace hspace (List.mem_of_ne_of_mem (by decide) hopen)
    rw [hr] at hclose
    have hlast := mem_skipSpace hspace (List.mem_of_ne_of_mem (by decide) hclose)
    rw [hend] at hlast
    cases hlast

theorem Json.skipSpace_ne_of_word {c d : Char} (hc : Text.isWord c = true) (hd : d ∈ ['"', '}'])
    (r u : Text) : skipSpace (c :: r) ≠ d :: u := by
  have hne (x : Char) (hx : Text.isWord x = false) : c ≠ x := by
    rintro rfl
    rw [hc] at hx
    cases hx
  have hspace : isSpace c = false := by
    simp only [isSpace, Bool.or_eq_false_iff, decide_eq_false_iff_not]
    exact ⟨⟨⟨hne _ (by decide), hne _ (by decide)⟩, hne _ (by decide)⟩, hne _ (by decide)⟩
  have hskip : skipSpace (c :: r) = c :: r := List.dropWhile_cons_of_neg (by rw [hspace]; decide)
  rw [hskip]
  intro h
  have hc' : c = d := (List.cons.inj h).1
  rcases List.mem_cons.1 hd with rfl | hd
  · exact hne '"' (by decide) hc'
  · exact hne '}' (by decide) (hc'.trans (List.mem_singleton.1 hd))

theorem Json.readContainer?_eq_none_of_word {c : Char} (hc : Text.isWord c = true) (r : Text) :
    readContainer? ('{' :: c :: r) = none := by
  rw [Option.eq_none_iff_forall_ne_some]
  intro v h
  rcases readContainer?_opens h with ⟨s, hs⟩ | ⟨s, hs, hopen⟩
  · cases hs
  · cases hs
    rcases hopen with ⟨u, hu⟩ | ⟨u, hu, -⟩
    · exact skipSpace_ne_of_word hc (by decide) _ _ hu
    · exact skipSpace_ne_of_word hc (by decide) _ _ hu

theorem Instant.numeral_eq_none {t : Text} {x : Instant} (h : ofText? t = some x) :
    Numeral.ofText? t = none := by
  obtain ⟨w, hw, -⟩ := Option.bind_eq_some_iff.1 h
  obtain ⟨y, rest, ds, ht, hds, hne⟩ := (readWritten?_eq_some.1 hw).exists_year
  have hdash : NoDigit ('-' :: rest) := by
    rintro _ ⟨⟩
    rfl
  have hsign := Numeral.readSign_complete .none 
    (Numeral.unsigned_of_isDigits hds hne ('-' :: rest))
  have hfraction : Numeral.readFraction ('-' :: rest) = (none, '-' :: rest) := rfl
  have hexponent : Numeral.readExponent? ('-' :: rest) = none := rfl
  rw [List.nil_append] at hsign
  simp only [Numeral.ofText?, ht, Numeral.ofExactText?, hsign, readDigits_complete hds hdash,
    hfraction, hexponent, Option.map_none, ite_self]

end FindQuery

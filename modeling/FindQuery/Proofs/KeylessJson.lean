import FindQuery.Json
import FindQuery.Proofs.Occurrences

namespace FindQuery

namespace Json

theorem readDigits_sublist (t : Text) : (readDigits t).2.Sublist t :=
  List.dropWhile_sublist _

theorem readWhole?_sublist {t r : Text} {ds : List Nat} (h : readWhole? t = some (ds, r)) :
    r.Sublist t := by
  unfold readWhole? at h
  split at h
  · cases h
    exact List.sublist_cons_self _ _
  · have hs := readDigits_sublist t
    split at h
    · cases h
    · next hd =>
      cases h
      rw [hd] at hs
      exact hs

theorem readFraction_sublist (t : Text) : (readFraction t).2.Sublist t := by
  unfold readFraction
  split
  · next r =>
    have hs := readDigits_sublist r
    split
    · exact List.Sublist.refl _
    · next hd =>
      rw [hd] at hs
      exact hs.cons _
  · exact List.Sublist.refl _

theorem readSign_sublist (t : Text) : (Numeral.readSign t).2.Sublist t := by
  unfold Numeral.readSign
  split
  · exact List.sublist_cons_self _ _
  · exact List.sublist_cons_self _ _
  · exact List.Sublist.refl _

theorem readExponent_sublist (t : Text) : (readExponent t).2.Sublist t := by
  unfold readExponent
  split
  · exact List.Sublist.refl _
  · next c r =>
    split
    · have hs := (readDigits_sublist _).trans (readSign_sublist r)
      simp only
      split
      · exact List.Sublist.refl _
      · next hd =>
        rw [hd] at hs
        exact hs.cons c
    · exact List.Sublist.refl _

theorem readNumeral?_sublist {t r : Text} {n : Numeral} (h : readNumeral? t = some (n, r)) :
    r.Sublist t := by
  obtain ⟨whole, hw, he⟩ := Option.map_eq_some_iff.1 h
  cases he
  have hwhole := readWhole?_sublist hw
  have hfraction := readFraction_sublist whole.2
  have hexponent := readExponent_sublist (readFraction whole.2).2
  refine (hexponent.trans (hfraction.trans hwhole)).trans ?_
  split
  · exact List.sublist_cons_self _ _
  · exact List.Sublist.refl _

theorem readAtom?_kind {t r : Text} {v : Value} (h : readAtom? t = some (v, r)) :
    (v.kind ≠ .map ∧ v.kind ≠ .list) ∧ r.Sublist t := by
  unfold readAtom? at h
  split at h
  · next found hfound =>
    cases h
    obtain ⟨word, hword, hafter⟩ := List.exists_of_findSome?_eq_some hfound
    obtain ⟨rest, hrest, he⟩ := Option.map_eq_some_iff.1 hafter
    cases he
    have hkind : ∀ w ∈ words, w.2.kind ≠ .map ∧ w.2.kind ≠ .list := by decide
    refine ⟨hkind word hword, ?_⟩
    rw [Text.after?_eq_some_iff.1 hrest]
    exact List.sublist_append_right _ _
  · split at h
    · next n rest hn =>
      obtain ⟨w, hw, he⟩ := Option.map_eq_some_iff.1 h
      cases he
      refine ⟨?_, readNumeral?_sublist hn⟩
      unfold numeralValue? at hw
      split at hw
      · obtain ⟨k, -, rfl⟩ := Option.map_eq_some_iff.1 hw
        exact ⟨nofun, nofun⟩
      · cases hw
        exact ⟨nofun, nofun⟩
    · cases h

theorem readAtom?_keyless {t r : Text} {v : Value} (h : readAtom? t = some (v, r)) :
    v.IsKeyless ∧ r.Sublist t := by
  obtain ⟨⟨hmap, hlist⟩, hrest⟩ := readAtom?_kind h
  exact ⟨fun _ => .atom hmap hlist, hrest⟩

theorem skipSpace_sublist (t : Text) : (skipSpace t).Sublist t :=
  List.dropWhile_sublist _

theorem readMembers?_eq_none {t : Text} (h : '"' ∉ t) (n : Nat) : readMembers? n t = none := by
  cases n with
  | zero => rfl
  | succ n =>
    unfold readMembers?
    split
    · exact (h List.mem_cons_self).elim
    · rfl

/-- With so much fuel, what is read without double quotes has no keys, and the rest is part of the
text. -/
structure ReadsKeyless (n : Nat) : Prop where
  value : ∀ {t v r}, '"' ∉ t → readValue? n t = some (v, r) → v.IsKeyless ∧ r.Sublist t
  items : ∀ {t vs r}, '"' ∉ t → readItems? n t = some (vs, r) →
    (∀ v ∈ vs, v.IsKeyless) ∧ r.Sublist t

theorem ReadsKeyless.readValue? {n : Nat} (hn : ReadsKeyless n) {t r : Text} {v : Value}
    (ht : '"' ∉ t) (h : readValue? (n + 1) t = some (v, r)) : v.IsKeyless ∧ r.Sublist t := by
  unfold Json.readValue? at h
  split at h
  · exact (ht List.mem_cons_self).elim
  · next s =>
    have hs : (skipSpace s).Sublist ('[' :: s) := (skipSpace_sublist s).cons _
    split at h
    · next rest hrest =>
      cases h
      rw [hrest] at hs
      have hnone : ∀ v ∈ ([] : List Value), v.IsKeyless := nofun
      exact ⟨Value.isKeyless_list hnone, (List.sublist_cons_self _ _).trans hs⟩
    · obtain ⟨vs, hvs, he⟩ := Option.map_eq_some_iff.1 h
      cases he
      obtain ⟨hkeyless, hrest⟩ := hn.items (fun hm => ht (hs.subset hm)) hvs
      exact ⟨Value.isKeyless_list hkeyless, hrest.trans hs⟩
  · next s =>
    have hs : (skipSpace s).Sublist ('{' :: s) := (skipSpace_sublist s).cons _
    split at h
    · next rest hrest =>
      cases h
      rw [hrest] at hs
      exact ⟨Value.isKeyless_nil, (List.sublist_cons_self _ _).trans hs⟩
    · rw [readMembers?_eq_none fun hm => ht (hs.subset hm)] at h
      cases h
  · exact readAtom?_keyless h

theorem ReadsKeyless.readItems? {n : Nat} (hn : ReadsKeyless n) {t r : Text} {vs : List Value}
    (ht : '"' ∉ t) (h : readItems? (n + 1) t = some (vs, r)) :
    (∀ v ∈ vs, v.IsKeyless) ∧ r.Sublist t := by
  unfold Json.readItems? at h
  split at h
  · cases h
  · next v rest hv =>
    obtain ⟨hkeyless, hrest⟩ := hn.value ht hv
    have hs := (skipSpace_sublist rest).trans hrest
    split at h
    · next tail htail =>
      cases h
      rw [htail] at hs
      exact ⟨List.forall_mem_singleton.2 hkeyless, (List.sublist_cons_self _ _).trans hs⟩
    · next tail htail =>
      rw [htail] at hs
      have hstart : (skipSpace tail).Sublist t :=
        (skipSpace_sublist tail).trans ((List.sublist_cons_self _ _).trans hs)
      obtain ⟨ws, hws, he⟩ := Option.map_eq_some_iff.1 h
      cases he
      obtain ⟨hkeys, hlast⟩ := hn.items (fun hm => ht (hstart.subset hm)) hws
      exact ⟨List.forall_mem_cons.2 ⟨hkeyless, hkeys⟩, hlast.trans hstart⟩
    · cases h

theorem readsKeyless (n : Nat) : ReadsKeyless n := by
  induction n with
  | zero => exact ⟨nofun, nofun⟩
  | succ n ih => exact ⟨ih.readValue?, ih.readItems?⟩

theorem read?_keyless {t : Text} {v : Value} (ht : '"' ∉ t) (h : read? t = some v) :
    v.IsKeyless := by
  unfold read? at h
  split at h
  · next w r hw =>
    split at h
    · cases h
      exact ((readsKeyless _).value (fun hm => ht ((skipSpace_sublist t).subset hm)) hw).1
    · cases h
  · cases h

theorem readContainer?_keyless {t : Text} {v : Value} (ht : '"' ∉ t)
    (h : readContainer? t = some v) : v.IsKeyless := by
  unfold readContainer? at h
  split at h
  · next hr =>
    cases h
    exact read?_keyless ht hr
  · next hr =>
    cases h
    exact read?_keyless ht hr
  · cases h

end Json

end FindQuery

import FindQuery.Form.QueryString

namespace FindQuery

namespace Utf8

theorem decodeFrom_last {low high value b : Nat} (h : low ≤ b ∧ b ≤ high) (ps : List Piece) :
    decodeFrom (some ⟨1, low, high, value⟩) (.octet b :: ps) =
      Char.ofNat (value * 0x40 + (b - 0x80)) :: decodeFrom none ps := by
  simp only [decodeFrom, step, h, Pending.continued, ↓reduceIte, and_self, List.cons_append,
    List.nil_append]

theorem decodeFrom_more {owed low high value b : Nat} (h : low ≤ b ∧ b ≤ high)
    (ps : List Piece) :
    decodeFrom (some ⟨owed + 2, low, high, value⟩) (.octet b :: ps) =
      decodeFrom (some ⟨owed + 1, 0x80, 0xBF, value * 0x40 + (b - 0x80)⟩) ps := by
  have howed : owed + 2 ≠ 1 := by omega
  simp only [decodeFrom, step, h, Pending.continued, howed, ↓reduceIte, and_self, List.nil_append]
  rfl

theorem decodeFrom_start {b : Nat} {p : Pending} (h : start b = ([], some p)) (ps : List Piece) :
    decodeFrom none (.octet b :: ps) = decodeFrom (some p) ps := by
  simp only [decodeFrom, step, h, List.nil_append]

theorem start_two {q : Nat} (hlow : 2 ≤ q) (hhigh : q < 0x20) :
    start (0xC0 + q) = ([], some ⟨1, 0x80, 0xBF, q⟩) := by
  have hascii : ¬ 0xC0 + q < 0x80 := by omega
  have hlead : 0xC2 ≤ 0xC0 + q ∧ 0xC0 + q ≤ 0xDF := by omega
  rw [start, if_neg hascii, if_pos hlead, Nat.add_sub_cancel_left]

theorem start_three {n : Nat} (hlow : 0x800 ≤ n) (hhigh : n < 0x10000)
    (hhalf : n < 0xD800 ∨ 0xDFFF < n) :
    ∃ low high, start (0xE0 + n / 0x1000) = ([], some ⟨2, low, high, n / 0x1000⟩) ∧
      low ≤ 0x80 + n / 0x40 % 0x40 ∧ 0x80 + n / 0x40 % 0x40 ≤ high := by
  have hascii : ¬ 0xE0 + n / 0x1000 < 0x80 := by omega
  have htwo : ¬ (0xC2 ≤ 0xE0 + n / 0x1000 ∧ 0xE0 + n / 0x1000 ≤ 0xDF) := by omega
  rw [start, if_neg hascii, if_neg htwo]
  by_cases hfirst : 0xE0 + n / 0x1000 = 0xE0
  · rw [if_pos hfirst]
    have hq : n / 0x1000 = 0 := by omega
    exact ⟨0xA0, 0xBF, by rw [hq], by omega, by omega⟩
  · rw [if_neg hfirst]
    by_cases hd : 0xE0 + n / 0x1000 = 0xED
    · rw [if_pos hd]
      have hq : n / 0x1000 = 0xD := by omega
      exact ⟨0x80, 0x9F, by rw [hq], by omega, by omega⟩
    · have hlead : 0xE1 ≤ 0xE0 + n / 0x1000 ∧ 0xE0 + n / 0x1000 ≤ 0xEF := by omega
      rw [if_neg hd, if_pos hlead, Nat.add_sub_cancel_left]
      exact ⟨0x80, 0xBF, rfl, by omega, by omega⟩

theorem start_four {n : Nat} (hlow : 0x10000 ≤ n) (hhigh : n < 0x110000) :
    ∃ low high, start (0xF0 + n / 0x40000) = ([], some ⟨3, low, high, n / 0x40000⟩) ∧
      low ≤ 0x80 + n / 0x1000 % 0x40 ∧ 0x80 + n / 0x1000 % 0x40 ≤ high := by
  have hascii : ¬ 0xF0 + n / 0x40000 < 0x80 := by omega
  have htwo : ¬ (0xC2 ≤ 0xF0 + n / 0x40000 ∧ 0xF0 + n / 0x40000 ≤ 0xDF) := by omega
  have hthree : 0xF0 + n / 0x40000 ≠ 0xE0 ∧ 0xF0 + n / 0x40000 ≠ 0xED := by omega
  have hmore : ¬ (0xE1 ≤ 0xF0 + n / 0x40000 ∧ 0xF0 + n / 0x40000 ≤ 0xEF) := by omega
  rw [start, if_neg hascii, if_neg htwo, if_neg hthree.1, if_neg hthree.2, if_neg hmore]
  by_cases hfirst : 0xF0 + n / 0x40000 = 0xF0
  · rw [if_pos hfirst]
    have hq : n / 0x40000 = 0 := by omega
    exact ⟨0x90, 0xBF, by rw [hq], by omega, by omega⟩
  · rw [if_neg hfirst]
    by_cases hlead : 0xF1 ≤ 0xF0 + n / 0x40000 ∧ 0xF0 + n / 0x40000 ≤ 0xF3
    · rw [if_pos hlead, Nat.add_sub_cancel_left]
      exact ⟨0x80, 0xBF, rfl, by omega, by omega⟩
    · have hlast : 0xF0 + n / 0x40000 = 0xF4 := by omega
      have hq : n / 0x40000 = 4 := by omega
      rw [if_neg hlead, if_pos hlast]
      exact ⟨0x80, 0x8F, by rw [hq], by omega, by omega⟩

theorem decodeFrom_encodeChar (c : Char) (ps : List Piece) :
    decodeFrom none ((encodeChar c).map .octet ++ ps) = c :: decodeFrom none ps := by
  have hvalid : c.toNat < 0xD800 ∨ 0xDFFF < c.toNat ∧ c.toNat < 0x110000 := c.valid
  have hc : Char.ofNat c.toNat = c := Char.ofNat_toNat c
  generalize hn : c.toNat = n at hvalid hc
  simp only [encodeChar, hn]
  split
  · next hone =>
    simp only [List.map_cons, List.map_nil, List.cons_append, List.nil_append, decodeFrom, step,
      start, hone, ↓reduceIte, hc]
  · split
    · next htwo =>
      have hlead := start_two (q := n / 0x40) (by omega) (by omega)
      have hvalue : n / 0x40 * 0x40 + (0x80 + n % 0x40 - 0x80) = n := by omega
      simp only [List.map_cons, List.map_nil, List.cons_append, List.nil_append]
      rw [decodeFrom_start hlead, decodeFrom_last (by omega), hvalue, hc]
    · split
      · next hthree =>
        obtain ⟨low, high, hlead, hrange⟩ := start_three (n := n) (by omega) hthree (by omega)
        have hvalue : (n / 0x1000 * 0x40 + (0x80 + n / 0x40 % 0x40 - 0x80)) * 0x40 +
            (0x80 + n % 0x40 - 0x80) = n := by omega
        simp only [List.map_cons, List.map_nil, List.cons_append, List.nil_append]
        rw [decodeFrom_start hlead, decodeFrom_more hrange, decodeFrom_last (by omega), hvalue, hc]
      · obtain ⟨low, high, hlead, hrange⟩ := start_four (n := n) (by omega) (by omega)
        have hvalue : ((n / 0x40000 * 0x40 + (0x80 + n / 0x1000 % 0x40 - 0x80)) * 0x40 +
            (0x80 + n / 0x40 % 0x40 - 0x80)) * 0x40 + (0x80 + n % 0x40 - 0x80) = n := by omega
        simp only [List.map_cons, List.map_nil, List.cons_append, List.nil_append]
        rw [decodeFrom_start hlead, decodeFrom_more hrange, decodeFrom_more (by omega),
          decodeFrom_last (by omega), hvalue, hc]

theorem decode_encodeChars (t : Text) : decode ((t.flatMap encodeChar).map .octet) = t := by
  unfold decode
  induction t with
  | nil => rfl
  | cons c r ih => rw [List.flatMap_cons, List.map_append, decodeFrom_encodeChar, ih]

theorem lt_of_mem_encodeChar {c : Char} {b : Nat} (h : b ∈ encodeChar c) : b < 0x100 := by
  have hvalid : c.toNat < 0xD800 ∨ 0xDFFF < c.toNat ∧ c.toNat < 0x110000 := c.valid
  simp only [encodeChar] at h
  split at h
  · simp only [List.mem_singleton] at h
    omega
  · split at h
    · simp only [List.mem_cons, List.not_mem_nil, or_false] at h
      omega
    · split at h <;>
      · simp only [List.mem_cons, List.not_mem_nil, or_false] at h
        omega

end Utf8

namespace Percent

theorem hexValue?_hexDigit : ∀ n < 16, Json.hexValue? (hexDigit n) = some n := by
  decide

theorem pieces_encodeOctet {b : Nat} (h : b < 0x100) (t : Text) :
    pieces (encodeOctet b ++ t) = .octet b :: pieces t := by
  have hhigh := hexValue?_hexDigit (b / 16) (by omega)
  have hlow := hexValue?_hexDigit (b % 16) (by omega)
  have hvalue : b / 16 * 16 + b % 16 = b := Nat.div_add_mod' b 16
  simp only [encodeOctet, List.cons_append, List.nil_append, pieces, hhigh, hlow, hvalue]

theorem pieces_encodeOctets {bs : List Nat} (h : ∀ b ∈ bs, b < 0x100) (t : Text) :
    pieces (bs.flatMap encodeOctet ++ t) = bs.map .octet ++ pieces t := by
  induction bs with
  | nil => rfl
  | cons b bs ih =>
    rw [List.flatMap_cons, List.append_assoc, pieces_encodeOctet (h b (.head _)),
      ih fun d hd => h d (.tail _ hd)]
    rfl

theorem toNat_lt_of_unreserved {c : Char} (h : isUnreserved c = true) : c.toNat < 0x80 := by
  simp only [isUnreserved, Bool.or_eq_true, decide_eq_true_eq] at h
  rcases h with (((h | rfl) | rfl) | rfl) | rfl
  · have hc := Text.toNat_of_isAlphanum h
    omega
  · decide
  · decide
  · decide
  · decide

theorem pieces_of_unreserved {c : Char} (h : isUnreserved c = true) (t : Text) :
    pieces (c :: t) = .octet c.toNat :: pieces t ∧ Utf8.encodeChar c = [c.toNat] := by
  have hascii := toNat_lt_of_unreserved h
  have hpercent : c ≠ '%' := by
    rintro rfl
    cases h
  constructor
  · rw [pieces]
    · rw [if_pos hascii]
    · intro a b r he
      exact absurd he hpercent
  · rw [Utf8.encodeChar]
    exact if_pos hascii

theorem pieces_encode (t : Text) : pieces (encode t) = (t.flatMap Utf8.encodeChar).map .octet := by
  induction t with
  | nil => rfl
  | cons c r ih =>
    have hcons : encode (c :: r) =
        (if isUnreserved c then [c] else (Utf8.encodeChar c).flatMap encodeOctet) ++ encode r :=
      List.flatMap_cons
    rw [hcons, List.flatMap_cons, List.map_append, ← ih]
    split
    · next h =>
      obtain ⟨hpieces, hchar⟩ := pieces_of_unreserved h (encode r)
      rw [hchar]
      exact hpieces
    · exact pieces_encodeOctets (fun _ => Utf8.lt_of_mem_encodeChar) (encode r)

theorem decode_encode (t : Text) : decode (encode t) = t := by
  rw [decode, pieces_encode, Utf8.decode_encodeChars]

theorem mem_encode {c : Char} {t : Text} (h : c ∈ encode t) :
    isUnreserved c = true ∨ c = '%' := by
  have hdigit : ∀ n < 16, isUnreserved (hexDigit n) = true := by decide
  obtain ⟨d, -, hc⟩ := List.mem_flatMap.1 h
  split at hc
  · next hd =>
    rw [List.mem_singleton.1 hc]
    exact .inl hd
  · obtain ⟨b, hb, hc⟩ := List.mem_flatMap.1 hc
    have hlt := Utf8.lt_of_mem_encodeChar hb
    rcases List.mem_cons.1 hc with rfl | hc
    · exact .inr rfl
    · rcases List.mem_cons.1 hc with rfl | hc
      · exact .inl (hdigit _ (by omega))
      · rw [List.mem_singleton.1 hc]
        exact .inl (hdigit _ (by omega))

theorem not_mem_encode {c : Char} (hc : isUnreserved c = false) (hpercent : c ≠ '%') (t : Text) :
    c ∉ encode t := by
  intro h
  rcases mem_encode h with h | h
  · rw [hc] at h
    cases h
  · exact hpercent h

end Percent

namespace Form

theorem decodePart_encode (t : Text) : decodePart (Percent.encode t) = t := by
  have hplus : '+' ∉ Percent.encode t := Percent.not_mem_encode (by decide) (by decide) t
  rw [decodePart, Text.replace_of_not_mem hplus, Percent.decode_encode]

theorem decodePair_encodePair (pair : Text × Text) : decodePair (encodePair pair) = pair := by
  have hequals : '=' ∉ Percent.encode pair.1 := Percent.not_mem_encode (by decide) (by decide) _
  rw [decodePair, encodePair, Text.cut_append_cons hequals]
  exact Prod.ext (decodePart_encode pair.1) (decodePart_encode pair.2)

theorem not_mem_encodePair {c : Char} (hc : Percent.isUnreserved c = false) (hpercent : c ≠ '%')
    (hequals : c ≠ '=') (pair : Text × Text) : c ∉ encodePair pair := by
  intro h
  rcases List.mem_append.1 h with h | h
  · exact Percent.not_mem_encode hc hpercent _ h
  · rcases List.mem_cons.1 h with h | h
    · exact hequals h
    · exact Percent.not_mem_encode hc hpercent _ h

theorem encodePair_ne_nil (pair : Text × Text) : encodePair pair ≠ [] := by
  intro h
  have hequals : '=' ∈ encodePair pair := List.mem_append_right _ (.head _)
  rw [h] at hequals
  cases hequals

theorem encodePairs_ne_nil (sep : Char) {pairs : List (Text × Text)} (h : pairs ≠ []) :
    encodePairs sep pairs ≠ [] := by
  cases pairs with
  | nil => exact absurd rfl h
  | cons pair pairs =>
    have hpair := encodePair_ne_nil pair
    cases pairs with
    | nil => exact hpair
    | cons next pairs => exact List.append_ne_nil_of_left_ne_nil hpair _

theorem decodePairs_encodePairs {pairs : List (Text × Text)} (h : pairs ≠ []) :
    decodePairs (encodePairs '&' pairs) = pairs := by
  have hne : pairs.map encodePair ≠ [] := fun hnil => h (List.map_eq_nil_iff.1 hnil)
  have hand : ∀ p ∈ pairs.map encodePair, '&' ∉ p := by
    intro p hp
    obtain ⟨pair, -, rfl⟩ := List.mem_map.1 hp
    exact not_mem_encodePair (by decide) (by decide) (by decide) pair
  have hkept : (pairs.map encodePair).filter (· ≠ []) = pairs.map encodePair := by
    rw [List.filter_eq_self]
    intro p hp
    obtain ⟨pair, -, rfl⟩ := List.mem_map.1 hp
    exact decide_eq_true (encodePair_ne_nil pair)
  rw [decodePairs, encodePairs, Text.pieces_joined hne hand, hkept, List.map_map]
  exact List.map_id'' decodePair_encodePair pairs

/-- Encoded pairs between other separators are the same with ampersands in their place. -/
theorem replace_encodePairs {sep : Char} (hsep : Percent.isUnreserved sep = false)
    (hpercent : sep ≠ '%') (hequals : sep ≠ '=') (pairs : List (Text × Text)) :
    (encodePairs sep pairs).replace sep '&' = encodePairs '&' pairs := by
  apply Text.replace_joined
  intro p hp
  obtain ⟨pair, -, rfl⟩ := List.mem_map.1 hp
  exact not_mem_encodePair hsep hpercent hequals pair

theorem not_mem_encodePairs {c sep : Char} (hc : Percent.isUnreserved c = false)
    (hpercent : c ≠ '%') (hequals : c ≠ '=') (hsep : c ≠ sep) (pairs : List (Text × Text)) :
    c ∉ encodePairs sep pairs := by
  intro h
  rcases Text.mem_joined h with h | ⟨p, hp, h⟩
  · exact hsep h
  · obtain ⟨pair, -, rfl⟩ := List.mem_map.1 hp
    exact not_mem_encodePair hc hpercent hequals pair h

end Form

theorem QueryString.pairs_encodePairs {ps : List (Text × Text)} (h : ps ≠ []) :
    pairs (Form.encodePairs '&' ps) = ps := by
  unfold pairs
  split
  · next r he =>
    have hmark : '?' ∉ Form.encodePairs '&' ps :=
      Form.not_mem_encodePairs (by decide) (by decide) (by decide) (by decide) ps
    exact absurd (he ▸ List.mem_cons_self) hmark
  · exact Form.decodePairs_encodePairs h

end FindQuery

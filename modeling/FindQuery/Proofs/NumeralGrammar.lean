import FindQuery.Proofs.DateGrammar

namespace FindQuery.Numeral

open Instant (IsDigits NoDigit readDigits_sound readDigits_complete)

inductive IsSign : Text → Bool → Prop
  | none : IsSign [] false
  | plus : IsSign ['+'] false
  | minus : IsSign ['-'] true

/-- A point with digits after it or without, or no point. -/
inductive IsFraction : Text → Option (List Nat) → Prop
  | none : IsFraction [] none
  | point {t : Text} {ds : List Nat} (ht : IsDigits t ds) : IsFraction ('.' :: t) (some ds)

/-- An exponent with digits, or no exponent. -/
inductive IsExponent : Text → Option (Bool × List Nat) → Prop
  | none : IsExponent [] none
  | power {mark : Char} {s t : Text} {negative : Bool} {ds : List Nat}
      (hmark : mark = 'e' ∨ mark = 'E') (hs : IsSign s negative) (ht : IsDigits t ds)
      (hne : ds ≠ []) : IsExponent (mark :: (s ++ t)) (some (negative, ds))

/-- A number with a digit before the point or after it. -/
inductive IsWritten : Text → Numeral → Prop
  | mk {s w f e : Text} {negative : Bool} {whole : List Nat} {fraction : Option (List Nat)}
      {exponent : Option (Bool × List Nat)} (hs : IsSign s negative) (hw : IsDigits w whole)
      (hf : IsFraction f fraction) (he : IsExponent e exponent)
      (hne : whole ≠ [] ∨ fraction.getD [] ≠ []) :
      IsWritten (s ++ (w ++ (f ++ e))) ⟨negative, whole, fraction, exponent⟩

section readers

variable {s t r : Text}

theorem readSign_sound (t : Text) :
    ∃ s, t = s ++ (readSign t).2 ∧ IsSign s (readSign t).1 := by
  unfold readSign
  split
  · exact ⟨['-'], rfl, .minus⟩
  · exact ⟨['+'], rfl, .plus⟩
  · exact ⟨[], rfl, .none⟩

theorem readSign_complete {negative : Bool} (h : IsSign s negative)
    (hr : ∀ c ∈ r.head?, c ≠ '-' ∧ c ≠ '+') : readSign (s ++ r) = (negative, r) := by
  cases h with
  | none =>
    rw [List.nil_append]
    unfold readSign
    split
    · exact absurd rfl (hr '-' rfl).1
    · exact absurd rfl (hr '+' rfl).2
    · rfl
  | plus => rfl
  | minus => rfl

theorem readFraction_sound (t : Text) :
    ∃ s, t = s ++ (readFraction t).2 ∧ IsFraction s (readFraction t).1 := by
  unfold readFraction
  split
  · next r =>
    obtain ⟨s, hs, hds⟩ := readDigits_sound r
    exact ⟨'.' :: s, congrArg ('.' :: ·) hs, .point hds⟩
  · exact ⟨[], rfl, .none⟩

theorem IsExponent.noDigit {exponent : Option (Bool × List Nat)} (h : IsExponent t exponent) :
    NoDigit t := by
  cases h with
  | none => exact nofun
  | power hmark =>
    rintro _ ⟨⟩
    rcases hmark with rfl | rfl <;> rfl

theorem IsFraction.noDigit {fraction : Option (List Nat)} (h : IsFraction t fraction)
    (hr : NoDigit r) : NoDigit (t ++ r) := by
  cases h with
  | none => exact hr
  | point =>
    rintro _ ⟨⟩
    rfl

theorem readFraction_complete {fraction : Option (List Nat)}
    {exponent : Option (Bool × List Nat)} (h : IsFraction s fraction) (hr : IsExponent r exponent) :
    readFraction (s ++ r) = (fraction, r) := by
  cases h with
  | none =>
    cases hr with
    | none => rfl
    | power hmark => rcases hmark with rfl | rfl <;> rfl
  | point ht => simp only [List.cons_append, readFraction, readDigits_complete ht hr.noDigit]

theorem unsigned_of_isDigits {ds : List Nat} (h : IsDigits t ds) (hne : ds ≠ []) (r : Text) :
    ∀ c ∈ (t ++ r).head?, c ≠ '-' ∧ c ≠ '+' := by
  cases h with
  | nil => exact absurd rfl hne
  | cons hd _ =>
    rintro _ ⟨⟩
    constructor
    · rintro rfl
      cases hd
    · rintro rfl
      cases hd

theorem unsigned_of_isWritten {whole : List Nat} {fraction : Option (List Nat)}
    (hw : IsDigits t whole) (hf : IsFraction s fraction)
    (hne : whole ≠ [] ∨ fraction.getD [] ≠ []) (r : Text) :
    ∀ c ∈ (t ++ (s ++ r)).head?, c ≠ '-' ∧ c ≠ '+' := by
  by_cases hwhole : whole = []
  · subst hwhole
    cases hw
    cases hf with
    | none => exact absurd rfl (hne.resolve_left fun h => h rfl)
    | point =>
      rintro _ ⟨⟩
      decide
  · exact unsigned_of_isDigits hw hwhole _

theorem readExponent?_eq_some {exponent : Option (Bool × List Nat)} :
    readExponent? t = some exponent ↔ IsExponent t exponent := by
  constructor
  · intro h
    unfold readExponent? at h
    split at h
    · cases h
      exact .none
    · next c r =>
      split at h
      · next hmark =>
        obtain ⟨s, hs, hsign⟩ := readSign_sound r
        obtain ⟨u, hu, hdigits⟩ := readDigits_sound (readSign r).2
        simp only at h
        generalize readDigits (readSign r).2 = digits at h hu hdigits
        generalize readSign r = sign at h hs hsign hu
        rw [hs, hu]
        split at h
        · next d ds =>
          cases h
          rw [List.append_nil]
          exact .power hmark hsign hdigits (List.cons_ne_nil d ds)
        · cases h
      · cases h
  · intro h
    cases h with
    | none => rfl
    | @power mark s u negative ds hmark hs hu hne =>
      have hsign := readSign_complete hs (unsigned_of_isDigits hu hne [])
      have hdigits := readDigits_complete (r := []) hu nofun
      rw [List.append_nil] at hsign hdigits
      rw [readExponent?, if_pos hmark]
      simp only [hsign, hdigits]
      cases ds with
      | nil => exact absurd rfl hne
      | cons d ds => rfl

/-- What is read is exactly what is written. -/
theorem ofExactText?_eq_some {n : Numeral} : ofExactText? t = some n ↔ IsWritten t n := by
  constructor
  · intro h
    obtain ⟨s, hs, hsign⟩ := readSign_sound t
    obtain ⟨w, hw, hwhole⟩ := readDigits_sound (readSign t).2
    obtain ⟨f, hf, hfraction⟩ := readFraction_sound (readDigits (readSign t).2).2
    simp only [ofExactText?] at h
    generalize readFraction (readDigits (readSign t).2).2 = fraction at h hf hfraction
    generalize readDigits (readSign t).2 = whole at h hw hwhole hf
    generalize readSign t = sign at h hs hsign hw
    split at h
    · cases h
    · next hne =>
      obtain ⟨exponent, he, rfl⟩ := Option.map_eq_some_iff.1 h
      rw [hs, hw, hf]
      exact .mk hsign hwhole hfraction (readExponent?_eq_some.1 he)
        (Decidable.not_and_iff_not_or_not.1 hne)
  · rintro @⟨s, w, f, e, _, _, _, _, hs, hw, hf, he, hne⟩
    have hsign := readSign_complete hs (unsigned_of_isWritten hw hf hne e)
    have hwhole := readDigits_complete hw (hf.noDigit he.noDigit)
    have hfraction := readFraction_complete hf he
    simp only [ofExactText?, hsign, hwhole, hfraction, readExponent?_eq_some.2 he, Option.map_some]
    rw [if_neg]
    exact Decidable.not_and_iff_not_or_not.2 hne

theorem isWritten_integer {negative : Bool} {ds : List Nat} (hs : IsSign s negative)
    (ht : IsDigits t ds) (hne : ds ≠ []) : IsWritten (s ++ t) ⟨negative, ds, none, none⟩ := by
  have h := IsWritten.mk hs ht .none .none (.inl hne)
  rwa [List.append_nil, List.append_nil] at h

end readers

section characters

variable {P : Char → Prop} (hdigit : ∀ c d, Text.digitValue? c = some d → P c)
  (hmark : ∀ c ∈ "+-.eE".toList, P c) {t : Text}

include hmark

theorem IsSign.forall_mem {negative : Bool} (h : IsSign t negative) : ∀ c ∈ t, P c := by
  cases h with
  | none => exact nofun
  | plus | minus => exact List.forall_mem_singleton.2 (hmark _ (by decide))

include hdigit

theorem IsFraction.forall_mem {fraction : Option (List Nat)} (h : IsFraction t fraction) :
    ∀ c ∈ t, P c := by
  cases h with
  | none => exact nofun
  | point ht => exact List.forall_mem_cons.2 ⟨hmark _ (by decide), ht.forall_mem hdigit⟩

theorem IsExponent.forall_mem {exponent : Option (Bool × List Nat)} (h : IsExponent t exponent) :
    ∀ c ∈ t, P c := by
  cases h with
  | none => exact nofun
  | power hm hs ht _ =>
    refine List.forall_mem_cons.2 ⟨?_, List.forall_mem_append.2
      ⟨hs.forall_mem hmark, ht.forall_mem hdigit⟩⟩
    rcases hm with rfl | rfl
    · exact hmark _ (by decide)
    · exact hmark _ (by decide)

theorem IsWritten.forall_mem {n : Numeral} (h : IsWritten t n) : ∀ c ∈ t, P c := by
  obtain ⟨hs, hw, hf, he, -⟩ := h
  simp only [List.forall_mem_append]
  exact ⟨hs.forall_mem hmark, hw.forall_mem hdigit, hf.forall_mem hdigit hmark,
    he.forall_mem hdigit hmark⟩

end characters

theorem newline_not_mem_of_isWritten {t : Text} {n : Numeral} (h : IsWritten t n) : '\n' ∉ t := by
  intro hmem
  refine h.forall_mem (P := (· ≠ '\n')) ?_ ?_ _ hmem rfl
  · rintro _ d hd rfl
    cases hd
  · rintro _ hmem rfl
    exact absurd hmem (by decide)

theorem ofText?_eq_some {t : Text} {n : Numeral} : ofText? t = some n ↔
    ∃ s, (t = s ∨ t = s ++ ['\n']) ∧ IsWritten s n := by
  rw [ofText?, ofExactText?_eq_some]
  apply Text.holds_dropFinalNewline_iff (P := fun s => IsWritten s n)
  intro s hs hlast
  exact newline_not_mem_of_isWritten hs (List.mem_of_getLast? hlast)

end FindQuery.Numeral

import FindQuery.Proofs.Alphabets
import Mathlib.Data.List.Lex

namespace FindQuery

/-- The order of texts by code points; a text stands before every longer text that begins with
it. -/
def Text.Precedes : Text → Text → Prop := List.Lex fun c d => c.toNat < d.toNat

theorem lex_append {α : Type} {r : α → α → Prop} {s t : List α} (h : List.Lex r s t)
    (hlength : s.length = t.length) (u v : List α) : List.Lex r (s ++ u) (t ++ v) := by
  induction h with
  | nil => cases hlength
  | cons _ ih => exact .cons (ih (Nat.succ.inj hlength))
  | rel h => exact .rel h

namespace Numeral

theorem ofDigits_cons (d : Nat) (ds : List Nat) :
    ofDigits (d :: ds) = d * 10 ^ ds.length + ofDigits ds := by
  have h := ofDigits_append [d] ds
  rwa [show ofDigits [d] = d from Nat.zero_add d] at h

theorem ofDigits_zeros (count : Nat) (ds : List Nat) :
    ofDigits (List.replicate count 0 ++ ds) = ofDigits ds := by
  induction count with
  | zero => rfl
  | succ count ih => rw [List.replicate_succ, List.cons_append, ofDigits_cons, ih, Nat.zero_mul,
      Nat.zero_add]

theorem lt_or_eq_of_place {base m n d e : Nat} (he : e < base)
    (h : m * base + d < n * base + e) : m < n ∨ m = n ∧ d < e := by
  rcases Nat.lt_trichotomy m n with hlt | rfl | hlt
  · exact .inl hlt
  · exact .inr ⟨rfl, Nat.lt_of_add_lt_add_left h⟩
  · have hmul := Nat.mul_le_mul_right base (show n + 1 ≤ m from hlt)
    rw [Nat.add_mul] at hmul
    omega

/-- The first digit that differs decides which of two numbers with equally many digits is the
smaller one. -/
theorem lex_of_ofDigits_lt {ds es : List Nat} (hlength : ds.length = es.length)
    (hes : ∀ e ∈ es, e < 10) (h : ofDigits ds < ofDigits es) : List.Lex (· < ·) ds es := by
  induction ds generalizing es with
  | nil =>
    rw [List.eq_nil_of_length_eq_zero hlength.symm] at h
    exact absurd h (Nat.lt_irrefl _)
  | cons d ds ih =>
    cases es with
    | nil => cases hlength
    | cons e es =>
      have hrest : ds.length = es.length := Nat.succ.inj hlength
      have hdigits : ∀ e ∈ es, e < 10 := fun e he => hes e (.tail _ he)
      rw [ofDigits_cons, ofDigits_cons, hrest] at h
      rcases lt_or_eq_of_place (ofDigits_lt hdigits) h with hlt | ⟨rfl, hlt⟩
      · exact .rel hlt
      · exact .cons (ih hrest hdigits hlt)

end Numeral

namespace Text

theorem not_precedes_self (t : Text) : ¬ Precedes t t :=
  List.lex_irrefl (fun c => Nat.lt_irrefl c.toNat) t

theorem Precedes.trans {s t u : Text} (hst : Precedes s t) (htu : Precedes t u) : Precedes s u :=
  List.lex_trans (fun h h' => Nat.lt_trans h h') hst htu

/-- A text of ASCII digits, by their values. -/
structure IsDecimal (t : Text) (ds : List Nat) : Prop where
  eq_map : t = ds.map Nat.digitChar
  lt_ten : ∀ d ∈ ds, d < 10

variable {s t : Text} {ds es : List Nat}

theorem IsDecimal.append (hs : IsDecimal s ds) (ht : IsDecimal t es) :
    IsDecimal (s ++ t) (ds ++ es) := by
  obtain ⟨rfl, hds⟩ := hs
  obtain ⟨rfl, hes⟩ := ht
  exact ⟨List.map_append.symm, List.forall_mem_append.2 ⟨hds, hes⟩⟩

theorem isDecimal_singleton {d : Nat} (h : d < 10) : IsDecimal [Nat.digitChar d] [d] :=
  ⟨rfl, List.forall_mem_singleton.2 h⟩

theorem isDecimal_replicate (count : Nat) {d : Nat} (h : d < 10) :
    IsDecimal (List.replicate count (Nat.digitChar d)) (List.replicate count d) := by
  constructor
  · exact List.map_replicate.symm
  · intro e he
    rw [List.eq_of_mem_replicate he]
    exact h

theorem IsDecimal.isDigits (h : IsDecimal t ds) : Instant.IsDigits t ds := by
  have hdigit : ∀ d < 10, digitValue? (Nat.digitChar d) = some d := by decide
  obtain ⟨rfl, hds⟩ := h
  induction ds with
  | nil => exact .nil
  | cons d ds ih => exact .cons (hdigit d (hds d (.head _))) (ih fun e he => hds e (.tail _ he))

theorem IsDecimal.length_eq (h : IsDecimal t ds) : t.length = ds.length := by
  rw [h.eq_map, List.length_map]

theorem IsDecimal.ne_nil (h : IsDecimal t ds) (ht : t ≠ []) : ds ≠ [] := by
  rintro rfl
  exact ht h.eq_map

theorem exists_isDecimal_ofNat (n : Nat) :
    ∃ ds, IsDecimal (ofNat n) ds ∧ Numeral.ofDigits ds = n := by
  induction n using Nat.strongRecOn with
  | ind n ih =>
    by_cases hn : n < 10
    · refine ⟨[n], ?_, Nat.zero_add n⟩
      rw [ofNat, Nat.toDigits_of_lt_base hn]
      exact isDecimal_singleton hn
    · obtain ⟨ds, hds, hvalue⟩ := ih (n / 10) (by omega)
      refine ⟨ds ++ [n % 10], ?_, ?_⟩
      · rw [ofNat, Nat.toDigits_of_base_le (by decide) (Nat.le_of_not_lt hn)]
        exact hds.append (isDecimal_singleton (Nat.mod_lt n (by decide)))
      · have hlast : Numeral.ofDigits [n % 10] = n % 10 := Nat.zero_add _
        rw [Numeral.ofDigits_append, hvalue, hlast]
        exact Nat.div_add_mod' n 10

theorem IsDecimal.precedes (hs : IsDecimal s ds) (ht : IsDecimal t es)
    (hlength : ds.length = es.length) (h : Numeral.ofDigits ds < Numeral.ofDigits es) :
    Precedes s t := by
  have hlex := Numeral.lex_of_ofDigits_lt hlength ht.lt_ten h
  obtain ⟨rfl, hds⟩ := hs
  obtain ⟨rfl, hes⟩ := ht
  clear hlength h
  induction hlex with
  | nil => exact .nil
  | cons _ ih =>
    exact .cons (ih (fun d hd => hds d (.tail _ hd)) fun e he => hes e (.tail _ he))
  | @rel d _ e _ hlt =>
    apply List.Lex.rel
    rw [Nat.toNat_digitChar_of_lt_ten (hds d (.head _)),
      Nat.toNat_digitChar_of_lt_ten (hes e (.head _))]
    exact Nat.add_lt_add_left hlt 48

end Text

namespace Numeral

variable {t : Text} {ds : List Nat}

theorem ofText?_digits (ht : Text.IsDecimal t ds) (hne : ds ≠ []) :
    ofText? t = some ⟨false, ds, none, none⟩ :=
  ofText?_eq_some.2 ⟨t, .inl rfl, isWritten_integer .none ht.isDigits hne⟩

theorem ofText?_minus_digits (ht : Text.IsDecimal t ds) (hne : ds ≠ []) :
    ofText? ('-' :: t) = some ⟨true, ds, none, none⟩ :=
  ofText?_eq_some.2 ⟨'-' :: t, .inl rfl, isWritten_integer .minus ht.isDigits hne⟩

theorem ofText?_ofInt (k : Int) : ∃ m, ofText? (Text.ofInt k) = some m ∧ m.isInteger = true ∧
    m.toInt = k ∧ m.whole.length = (Text.ofNat k.natAbs).length := by
  cases k with
  | ofNat n =>
    obtain ⟨ds, hds, hvalue⟩ := Text.exists_isDecimal_ofNat n
    refine ⟨_, ofText?_digits hds (hds.ne_nil Nat.toDigits_ne_nil), rfl, ?_, ?_⟩
    · exact congrArg Int.ofNat hvalue
    · exact hds.length_eq.symm
  | negSucc n =>
    obtain ⟨ds, hds, hvalue⟩ := Text.exists_isDecimal_ofNat (n + 1)
    refine ⟨_, ofText?_minus_digits hds (hds.ne_nil Nat.toDigits_ne_nil), rfl, ?_, ?_⟩
    · exact congrArg (fun m : Nat => -(m : Int)) hvalue
    · exact hds.length_eq.symm

end Numeral

namespace Instant

variable {width m n : Nat}

theorem exists_isDecimal_padded (hwidth : 0 < width) (h : n < 10 ^ width) :
    ∃ ds, Text.IsDecimal (padded width n) ds ∧ ds.length = width ∧ Numeral.ofDigits ds = n := by
  obtain ⟨ds, hds, hvalue⟩ := Text.exists_isDecimal_ofNat n
  have hlength : (Text.ofNat n).length ≤ width :=
    (Nat.length_toDigits_le_iff (by decide) hwidth).2 h
  refine ⟨List.replicate (width - (Text.ofNat n).length) 0 ++ ds,
    (Text.isDecimal_replicate _ (Nat.zero_lt_succ 9)).append hds, ?_, ?_⟩
  · rw [List.length_append, List.length_replicate, ← hds.length_eq]
    exact Nat.sub_add_cancel hlength
  · rw [Numeral.ofDigits_zeros, hvalue]

theorem isNumber_padded (hwidth : 0 < width) (h : n < 10 ^ width) :
    IsNumber width (padded width n) n := by
  obtain ⟨ds, hds, hlength, hvalue⟩ := exists_isDecimal_padded hwidth h
  exact ⟨ds, hds.isDigits, hlength, hvalue⟩

theorem length_padded (hwidth : 0 < width) (h : n < 10 ^ width) :
    (padded width n).length = width := by
  obtain ⟨ds, hds, hlength, -⟩ := exists_isDecimal_padded hwidth h
  exact hds.length_eq.trans hlength

/-- Numbers that are padded to one width are in the order of their texts. -/
theorem padded_precedes (hwidth : 0 < width) (hn : n < 10 ^ width) (h : m < n) :
    Text.Precedes (padded width m) (padded width n) := by
  obtain ⟨ds, hds, hm, rfl⟩ := exists_isDecimal_padded hwidth (h.trans hn)
  obtain ⟨es, hes, hlength, rfl⟩ := exists_isDecimal_padded hwidth hn
  exact hds.precedes hes (hm.trans hlength.symm) h

end Instant

end FindQuery

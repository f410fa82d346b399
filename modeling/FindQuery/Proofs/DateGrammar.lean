import FindQuery.Time.Instant
import Mathlib.Data.List.Forall2
import Mathlib.Data.Nat.Digits.Defs

namespace FindQuery

namespace Numeral

theorem ofDigits_eq (ds : List Nat) : ofDigits ds = Nat.ofDigits 10 ds.reverse := by
  rw [Nat.ofDigits_eq_foldr, List.foldr_reverse]
  simp only [ofDigits, Nat.cast_id, Nat.add_comm]

theorem ofDigits_append (ds es : List Nat) :
    ofDigits (ds ++ es) = ofDigits ds * 10 ^ es.length + ofDigits es := by
  rw [ofDigits_eq, ofDigits_eq, ofDigits_eq, List.reverse_append, Nat.ofDigits_append,
    List.length_reverse, Nat.add_comm, Nat.mul_comm]

theorem ofDigits_lt {ds : List Nat} (h : ∀ d ∈ ds, d < 10) : ofDigits ds < 10 ^ ds.length := by
  rw [ofDigits_eq, ← List.length_reverse]
  exact Nat.ofDigits_lt_base_pow_length (by decide) fun d hd => h d (List.mem_reverse.1 hd)

end Numeral

namespace Instant

/-- Digits of any script, by their values. -/
def IsDigits (t : Text) (ds : List Nat) : Prop :=
  List.Forall₂ (fun c d => Text.digitValue? c = some d) t ds

/-- A number that is written with a fixed count of digits. -/
def IsNumber (width : Nat) (t : Text) (n : Nat) : Prop :=
  ∃ ds, IsDigits t ds ∧ ds.length = width ∧ Numeral.ofDigits ds = n

inductive IsDate : Text → Calendar.Date → Prop
  | mk {y m d : Text} {year month day : Nat} (hy : IsNumber 4 y year) (hm : IsNumber 2 m month)
      (hd : IsNumber 2 d day) : IsDate (y ++ '-' :: m ++ '-' :: d) ⟨year, month, day⟩

/-- A fraction of a second, cut off after the milliseconds, or no fraction. -/
inductive IsFraction : Text → Nat → Prop
  | none : IsFraction [] 0
  | digits {mark : Char} {t : Text} {ds : List Nat} (hmark : mark = '.' ∨ mark = ',')
      (ht : IsDigits t ds) (hne : ds ≠ []) :
      IsFraction (mark :: t) (Numeral.ofDigits ds * 1000 / 10 ^ ds.length)

/-- Seconds and milliseconds, or neither. -/
inductive IsSeconds : Text → Nat → Nat → Prop
  | none : IsSeconds [] 0 0
  | seconds {s f : Text} {second milli : Nat} (hs : IsNumber 2 s second)
      (hf : IsFraction f milli) : IsSeconds (':' :: s ++ f) second milli

/-- The minutes of an offset, with or without a colon, or no minutes. -/
inductive IsOffsetMinutes : Text → Nat → Prop
  | none : IsOffsetMinutes [] 0
  | plain {t : Text} {minutes : Nat} (ht : IsNumber 2 t minutes) : IsOffsetMinutes t minutes
  | colon {t : Text} {minutes : Nat} (ht : IsNumber 2 t minutes) :
      IsOffsetMinutes (':' :: t) minutes

/-- An offset from UTC in minutes. -/
inductive IsOffset : Text → Int → Prop
  | none : IsOffset [] 0
  | utc : IsOffset ['Z'] 0
  | ahead {h m : Text} {hours minutes : Nat} (hh : IsNumber 2 h hours)
      (hm : IsOffsetMinutes m minutes) : IsOffset ('+' :: h ++ m) (hours * 60 + minutes)
  | behind {h m : Text} {hours minutes : Nat} (hh : IsNumber 2 h hours)
      (hm : IsOffsetMinutes m minutes) : IsOffset ('-' :: h ++ m) (-(hours * 60 + minutes))

/-- A date, or a date and a time of day. -/
inductive IsWritten : Text → Written → Prop
  | date {t : Text} {d : Calendar.Date} (ht : IsDate t d) : IsWritten t ⟨d, 0, 0, 0, 0, 0⟩
  | time {t h m s o : Text} {d : Calendar.Date} {hour minute second milli : Nat} {offset : Int}
      (ht : IsDate t d) (hh : IsNumber 2 h hour) (hm : IsNumber 2 m minute)
      (hs : IsSeconds s second milli) (ho : IsOffset o offset) :
      IsWritten (t ++ 'T' :: h ++ ':' :: m ++ s ++ o) ⟨d, hour, minute, second, milli, offset⟩

theorem IsDigits.lt {t : Text} {ds : List Nat} (h : IsDigits t ds) : ∀ d ∈ ds, d < 10 := by
  induction h with
  | nil => exact nofun
  | cons hd _ ih => exact List.forall_mem_cons.2 ⟨Text.digitValue?_lt hd, ih⟩

theorem IsDigits.forall_mem {P : Char → Prop} (hP : ∀ c d, Text.digitValue? c = some d → P c)
    {t : Text} {ds : List Nat} (h : IsDigits t ds) : ∀ c ∈ t, P c := by
  induction h with
  | nil => exact nofun
  | cons hd _ ih => exact List.forall_mem_cons.2 ⟨hP _ _ hd, ih⟩

theorem millisOf_eq {t : Text} {ds : List Nat} (h : IsDigits t ds) :
    millisOf ds = Numeral.ofDigits ds * 1000 / 10 ^ ds.length := by
  have hdigits : ∀ d ∈ (ds ++ [0, 0, 0]).drop 3, d < 10 := by
    intro d hd
    rcases List.mem_append.1 (List.mem_of_mem_drop hd) with hd | hd
    · exact h.lt d hd
    · rw [List.eq_of_mem_replicate (show d ∈ List.replicate 3 0 from hd)]
      decide
  have hlength : ((ds ++ [0, 0, 0]).drop 3).length = ds.length := by
    simp
  have hlt := Numeral.ofDigits_lt hdigits
  have hsplit := Numeral.ofDigits_append ((ds ++ [0, 0, 0]).take 3) ((ds ++ [0, 0, 0]).drop 3)
  rw [List.take_append_drop, Numeral.ofDigits_append, hlength] at hsplit
  rw [hlength] at hlt
  rw [show Numeral.ofDigits [0, 0, 0] = 0 from rfl, show 10 ^ [0, 0, 0].length = 1000 from rfl,
    Nat.add_zero] at hsplit
  rw [hsplit, millisOf, Nat.mul_comm, Nat.mul_add_div (Nat.pow_pos (by decide)),
    Nat.div_eq_of_lt hlt, Nat.add_zero]

section readers

variable {width n : Nat} {t r : Text} {ds : List Nat}

theorem readDigits?_eq_some :
    readDigits? width t = some (ds, r) ↔ ∃ s, t = s ++ r ∧ IsDigits s ds ∧ ds.length = width := by
  induction width generalizing t ds with
  | zero =>
    constructor
    · rintro ⟨⟩
      exact ⟨[], rfl, .nil, rfl⟩
    · rintro ⟨s, rfl, hs, hlength⟩
      rw [List.length_eq_zero_iff] at hlength
      subst hlength
      cases hs
      rfl
  | succ width ih =>
    cases t with
    | nil =>
      constructor
      · rintro ⟨⟩
      · rintro ⟨s, hs, hds, hlength⟩
        rw [(List.append_eq_nil_iff.1 hs.symm).1] at hds
        cases hds
        cases hlength
    | cons c t =>
      rw [readDigits?]
      constructor
      · intro h
        split at h
        · next d hd =>
          obtain ⟨⟨es, r'⟩, hes, heq⟩ := Option.map_eq_some_iff.1 h
          cases heq
          obtain ⟨s, rfl, hs, hlength⟩ := ih.1 hes
          exact ⟨c :: s, rfl, .cons hd hs, congrArg Nat.succ hlength⟩
        · cases h
      · rintro ⟨s, hs, hds, hlength⟩
        cases hds with
        | nil => cases hlength
        | cons hd hds =>
          cases hs
          have hrest := ih.2 ⟨_, rfl, hds, Nat.succ.inj hlength⟩
          simp only [hd]
          exact Option.map_eq_some_iff.2 ⟨_, hrest, rfl⟩

theorem readNumber?_eq_some :
    readNumber? width t = some (n, r) ↔ ∃ s, t = s ++ r ∧ IsNumber width s n := by
  rw [readNumber?, Option.map_eq_some_iff]
  constructor
  · rintro ⟨⟨ds, r'⟩, h, heq⟩
    cases heq
    obtain ⟨s, rfl, hs, hlength⟩ := readDigits?_eq_some.1 h
    exact ⟨s, rfl, ds, hs, hlength, rfl⟩
  · rintro ⟨s, rfl, ds, hs, hlength, rfl⟩
    exact ⟨(ds, r), readDigits?_eq_some.2 ⟨s, rfl, hs, hlength⟩, rfl⟩

theorem readAfter?_eq_some {mark : Char} :
    readAfter? mark width t = some (n, r) ↔ ∃ s, t = mark :: s ++ r ∧ IsNumber width s n := by
  cases t with
  | nil =>
    constructor
    · rintro ⟨⟩
    · rintro ⟨s, ⟨⟩, -⟩
  | cons c t =>
    rw [readAfter?]
    split
    · next hc =>
      subst hc
      rw [readNumber?_eq_some]
      simp only [List.cons_append, List.cons.injEq, true_and]
    · next hc =>
      constructor
      · rintro ⟨⟩
      · rintro ⟨s, hs, -⟩
        exact absurd (List.cons.inj hs).1 hc

theorem readDate?_eq_some {d : Calendar.Date} :
    readDate? t = some (d, r) ↔ ∃ s, t = s ++ r ∧ IsDate s d := by
  simp only [readDate?, bind, Option.bind_eq_some_iff, Prod.exists, readNumber?_eq_some,
    readAfter?_eq_some, pure, Option.some.injEq, Prod.mk.injEq]
  constructor
  · rintro ⟨year, _, ⟨y, rfl, hy⟩, month, _, ⟨m, rfl, hm⟩, day, _, ⟨d, rfl, hd⟩, rfl, rfl⟩
    exact ⟨y ++ '-' :: m ++ '-' :: d, by simp, .mk hy hm hd⟩
  · rintro ⟨_, rfl, hy, hm, hd⟩
    refine ⟨_, _, ⟨_, ?_, hy⟩, _, _, ⟨_, rfl, hm⟩, _, _, ⟨_, rfl, hd⟩, rfl, rfl⟩
    simp

theorem IsNumber.readNumber? {s : Text} (h : IsNumber width s n) (r : Text) :
    readNumber? width (s ++ r) = some (n, r) :=
  readNumber?_eq_some.2 ⟨s, rfl, h⟩

theorem IsNumber.readAfter? {s : Text} (h : IsNumber width s n) (mark : Char) (r : Text) :
    readAfter? mark width (mark :: s ++ r) = some (n, r) :=
  readAfter?_eq_some.2 ⟨s, rfl, h⟩

theorem IsDate.readDate? {s : Text} {d : Calendar.Date} (h : IsDate s d) (r : Text) :
    readDate? (s ++ r) = some (d, r) :=
  readDate?_eq_some.2 ⟨s, rfl, h⟩

theorem readDigits_sound (t : Text) :
    ∃ s, t = s ++ (Numeral.readDigits t).2 ∧ IsDigits s (Numeral.readDigits t).1 := by
  induction t with
  | nil => exact ⟨[], rfl, .nil⟩
  | cons c t ih =>
    obtain ⟨s, hs, hds⟩ := ih
    rw [Numeral.readDigits]
    split
    · next hd => exact ⟨c :: s, congrArg (c :: ·) hs, .cons hd hds⟩
    · exact ⟨[], rfl, .nil⟩

/-- A text with no digit in front. -/
def NoDigit (r : Text) : Prop := ∀ c ∈ r.head?, Text.digitValue? c = none

theorem readDigits_complete {s : Text} (h : IsDigits s ds) (hr : NoDigit r) :
    Numeral.readDigits (s ++ r) = (ds, r) := by
  induction h with
  | nil =>
    cases r with
    | nil => rfl
    | cons c r => rw [List.nil_append, Numeral.readDigits, hr c rfl]
  | cons hd _ ih => simp only [List.cons_append, Numeral.readDigits, hd, ih]

/-- Nothing that may follow a time of day continues it. -/
def Follows (r : Text) : Prop := ∀ c ∈ r.head?, c = 'Z' ∨ c = '+' ∨ c = '-'

theorem Follows.noDigit (h : Follows r) : NoDigit r := by
  intro c hc
  rcases h c hc with rfl | rfl | rfl <;> rfl

theorem readFraction?_sound (h : readFraction? t = some (n, r)) :
    ∃ s, t = s ++ r ∧ IsFraction s n := by
  cases t with
  | nil =>
    cases h
    exact ⟨[], rfl, .none⟩
  | cons c t =>
    rw [readFraction?] at h
    split at h
    · next hmark =>
      obtain ⟨s, hs, hds⟩ := readDigits_sound t
      split at h
      · cases h
      · next ds r' hne heq =>
        cases h
        rw [heq] at hs hds
        rw [millisOf_eq hds]
        exact ⟨c :: s, congrArg (c :: ·) hs, .digits hmark hds hne⟩
    · cases h
      exact ⟨[], rfl, .none⟩

theorem readFraction?_complete {s : Text} (h : IsFraction s n) (hr : Follows r) :
    readFraction? (s ++ r) = some (n, r) := by
  cases h with
  | none =>
    cases r with
    | nil => rfl
    | cons c r =>
      have hno : ¬ (c = '.' ∨ c = ',') := by
        rcases hr c rfl with rfl | rfl | rfl <;> decide
      rw [List.nil_append, readFraction?, if_neg hno]
  | @digits mark t ds hmark ht hne =>
    rw [List.cons_append, readFraction?, if_pos hmark, readDigits_complete ht hr.noDigit, ← millisOf_eq ht]
    cases ds with
    | nil => exact absurd rfl hne
    | cons d ds => rfl

theorem readSeconds?_sound {second milli : Nat} (h : readSeconds? t = some ((second, milli), r)) :
    ∃ s, t = s ++ r ∧ IsSeconds s second milli := by
  rw [readSeconds?] at h
  split at h
  · simp only [bind, Option.bind_eq_some_iff, Prod.exists, readAfter?_eq_some, pure,
      Option.some.injEq, Prod.mk.injEq] at h
    obtain ⟨second, _, ⟨s, rfl, hs⟩, milli, _, hfraction, ⟨rfl, rfl⟩, rfl⟩ := h
    obtain ⟨f, rfl, hf⟩ := readFraction?_sound hfraction
    exact ⟨':' :: s ++ f, (List.append_assoc _ _ _).symm, .seconds hs hf⟩
  · cases h
    exact ⟨[], rfl, .none⟩

theorem readSeconds?_complete {s : Text} {second milli : Nat} (h : IsSeconds s second milli)
    (hr : Follows r) : readSeconds? (s ++ r) = some ((second, milli), r) := by
  cases h with
  | none =>
    have hno : ¬ r.head? = some ':' := fun h => absurd (hr ':' h) (by decide)
    rw [List.nil_append, readSeconds?, if_neg hno]
  | @seconds s f _ _ hs hf =>
    have hcolon : (':' :: s ++ (f ++ r)).head? = some ':' := rfl
    rw [List.append_assoc, readSeconds?, if_pos hcolon, hs.readAfter?]
    simp only [bind, Option.bind_some, readFraction?_complete hf hr, pure]

theorem readOffsetMinutes?_eq_some : readOffsetMinutes? t = some n ↔ IsOffsetMinutes t n := by
  have hwhole {t : Text} : readNumber? 2 t = some (n, []) ↔ IsNumber 2 t n := by
    simp only [readNumber?_eq_some, List.append_nil, exists_eq_left']
  constructor
  · intro h
    cases t with
    | nil =>
      cases h
      exact .none
    | cons c t =>
      rw [readOffsetMinutes?] at h
      split at h
      · next hread =>
        cases h
        have hnumber := hwhole.1 hread
        split at hnumber
        · next hc => exact hc ▸ .colon hnumber
        · exact .plain hnumber
      · cases h
  · intro h
    cases h with
    | none => rfl
    | plain ht =>
      obtain ⟨ds, hds, hlength, -⟩ := id ht
      cases hds with
      | nil => cases hlength
      | @cons c _ _ _ hd _ =>
        have hc : ¬ c = ':' := by
          rintro rfl
          cases hd
        rw [readOffsetMinutes?, if_neg hc, hwhole.2 ht]
    | colon ht => rw [readOffsetMinutes?, if_pos rfl, hwhole.2 ht]

theorem follows_of_isOffset {offset : Int} (h : IsOffset t offset) : Follows t := by
  cases h with
  | none => exact nofun
  | utc =>
    rintro _ ⟨⟩
    exact .inl rfl
  | ahead =>
    rintro _ ⟨⟩
    exact .inr (.inl rfl)
  | behind =>
    rintro _ ⟨⟩
    exact .inr (.inr rfl)

theorem readOffset?_signed {sign : Char} (hsign : sign = '+' ∨ sign = '-') {h m : Text}
    {hours minutes : Nat} (hh : IsNumber 2 h hours) (hm : IsOffsetMinutes m minutes) :
    readOffset? (sign :: h ++ m) = some (Numeral.signed (sign = '-') (hours * 60 + minutes)) := by
  have hutc : sign = 'Z' → h ++ m = [] → False := by
    rintro rfl
    exact absurd hsign (by decide)
  rw [List.cons_append, readOffset?.eq_3 _ _ hutc, if_pos hsign, hh.readNumber?]
  simp only [bind, Option.bind_some, readOffsetMinutes?_eq_some.2 hm, pure]

theorem readOffset?_eq_some {offset : Int} : readOffset? t = some offset ↔ IsOffset t offset := by
  constructor
  · intro h
    unfold readOffset? at h
    split at h
    · cases h
      exact .none
    · cases h
      exact .utc
    · next c r _ =>
      split at h
      · next hsign =>
        simp only [bind, Option.bind_eq_some_iff, Prod.exists, readNumber?_eq_some,
          readOffsetMinutes?_eq_some, pure, Option.some.injEq] at h
        obtain ⟨hours, _, ⟨s, rfl, hs⟩, minutes, hm, rfl⟩ := h
        rcases hsign with rfl | rfl
        · exact .ahead hs hm
        · exact .behind hs hm
      · cases h
  · intro h
    cases h with
    | none => rfl
    | utc => rfl
    | ahead hh hm => exact readOffset?_signed (.inl rfl) hh hm
    | behind hh hm => exact readOffset?_signed (.inr rfl) hh hm

theorem time_append (d h m s o : Text) :
    d ++ 'T' :: h ++ ':' :: m ++ s ++ o = d ++ ('T' :: h ++ (':' :: m ++ (s ++ o))) := by
  simp only [List.append_assoc, List.cons_append]

/-- What is read is exactly what is written. -/
theorem readWritten?_eq_some {w : Written} : readWritten? t = some w ↔ IsWritten t w := by
  constructor
  · intro h
    simp only [readWritten?, bind, Option.bind_eq_some_iff, Prod.exists, readDate?_eq_some] at h
    obtain ⟨date, rest, ⟨d, rfl, hd⟩, h⟩ := h
    split at h
    · next hrest =>
      cases h
      rw [hrest, List.append_nil]
      exact .date hd
    · simp only [Option.bind_eq_some_iff, Prod.exists, readAfter?_eq_some, readOffset?_eq_some,
        pure, Option.some.injEq] at h
      obtain ⟨hour, _, ⟨s, rfl, hs⟩, minute, _, ⟨m, rfl, hm⟩, second, milli, o, hseconds, h⟩ := h
      obtain ⟨offset, ho, rfl⟩ := h
      obtain ⟨f, rfl, hf⟩ := readSeconds?_sound hseconds
      rw [← time_append]
      exact .time hd hs hm hf ho
  · intro h
    cases h with
    | date ht =>
      have hdate := ht.readDate? []
      rw [List.append_nil] at hdate
      simp only [readWritten?, hdate, bind, Option.bind_some, ↓reduceIte, pure]
    | @time d h m s o date hour minute second milli offset hd hh hm hs ho =>
      have hrest : ¬ 'T' :: h ++ (':' :: m ++ (s ++ o)) = [] := List.cons_ne_nil _ _
      have hseconds := readSeconds?_complete hs (follows_of_isOffset ho)
      rw [time_append]
      simp only [readWritten?, hd.readDate?, hrest, hh.readAfter?, hm.readAfter?, hseconds,
        readOffset?_eq_some.2 ho, bind, Option.bind_some, ↓reduceIte, pure]

end readers

theorem IsWritten.exists_year {t : Text} {w : Written} (h : IsWritten t w) :
    ∃ y rest ds, t = y ++ '-' :: rest ∧ IsDigits y ds ∧ ds ≠ [] := by
  have hdate {t : Text} {d : Calendar.Date} (h : IsDate t d) (r : Text) :
      ∃ y rest ds, t ++ r = y ++ '-' :: rest ∧ IsDigits y ds ∧ ds ≠ [] := by
    obtain @⟨y, m, d, _, _, _, ⟨ds, hds, hlength, -⟩, -, -⟩ := h
    refine ⟨y, m ++ '-' :: d ++ r, ds, ?_, hds, ?_⟩
    · simp only [List.append_assoc, List.cons_append]
    · rintro rfl
      cases hlength
  cases h with
  | date ht =>
    rw [← List.append_nil t]
    exact hdate ht []
  | time ht =>
    rw [time_append]
    exact hdate ht _

section characters

variable {P : Char → Prop} (hdigit : ∀ c d, Text.digitValue? c = some d → P c)

include hdigit

theorem IsNumber.forall_mem {t : Text} {width n : Nat} (h : IsNumber width t n) : ∀ c ∈ t, P c := by
  obtain ⟨ds, hds, -⟩ := h
  exact hds.forall_mem hdigit

variable (hmark : ∀ c ∈ "-T:.,Z+".toList, P c)

include hmark

theorem IsDate.forall_mem {t : Text} {d : Calendar.Date} (h : IsDate t d) : ∀ c ∈ t, P c := by
  obtain ⟨hy, hm, hd⟩ := h
  simp only [List.forall_mem_append, List.forall_mem_cons]
  exact ⟨⟨hy.forall_mem hdigit, hmark _ (by decide), hm.forall_mem hdigit⟩, hmark _ (by decide),
    hd.forall_mem hdigit⟩

theorem IsFraction.forall_mem {t : Text} {milli : Nat} (h : IsFraction t milli) :
    ∀ c ∈ t, P c := by
  cases h with
  | none => exact nofun
  | digits hm ht _ =>
    refine List.forall_mem_cons.2 ⟨?_, ht.forall_mem hdigit⟩
    rcases hm with rfl | rfl
    · exact hmark _ (by decide)
    · exact hmark _ (by decide)

theorem IsSeconds.forall_mem {t : Text} {second milli : Nat} (h : IsSeconds t second milli) :
    ∀ c ∈ t, P c := by
  cases h with
  | none => exact nofun
  | seconds hs hf =>
    simp only [List.forall_mem_append, List.forall_mem_cons]
    exact ⟨⟨hmark _ (by decide), hs.forall_mem hdigit⟩, hf.forall_mem hdigit hmark⟩

theorem IsOffsetMinutes.forall_mem {t : Text} {minutes : Nat} (h : IsOffsetMinutes t minutes) :
    ∀ c ∈ t, P c := by
  cases h with
  | none => exact nofun
  | plain ht => exact ht.forall_mem hdigit
  | colon ht => exact List.forall_mem_cons.2 ⟨hmark _ (by decide), ht.forall_mem hdigit⟩

theorem IsOffset.forall_mem {t : Text} {offset : Int} (h : IsOffset t offset) : ∀ c ∈ t, P c := by
  cases h with
  | none => exact nofun
  | utc => exact List.forall_mem_singleton.2 (hmark _ (by decide))
  | ahead hh hm | behind hh hm =>
    simp only [List.forall_mem_append, List.forall_mem_cons]
    exact ⟨⟨hmark _ (by decide), hh.forall_mem hdigit⟩, hm.forall_mem hdigit hmark⟩

theorem IsWritten.forall_mem {t : Text} {w : Written} (h : IsWritten t w) : ∀ c ∈ t, P c := by
  cases h with
  | date ht => exact ht.forall_mem hdigit hmark
  | time ht hh hm hs ho =>
    simp only [List.forall_mem_append, List.forall_mem_cons]
    exact ⟨⟨⟨⟨ht.forall_mem hdigit hmark, hmark _ (by decide), hh.forall_mem hdigit⟩,
      hmark _ (by decide), hm.forall_mem hdigit⟩, hs.forall_mem hdigit hmark⟩,
      ho.forall_mem hdigit hmark⟩

end characters

theorem newline_not_mem_of_isWritten {t : Text} {w : Written} (h : IsWritten t w) : '\n' ∉ t := by
  intro hmem
  refine h.forall_mem (P := (· ≠ '\n')) ?_ ?_ _ hmem rfl
  · rintro _ d hd rfl
    cases hd
  · rintro _ hmem rfl
    exact absurd hmem (by decide)

end Instant

end FindQuery

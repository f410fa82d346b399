import FindQuery.Time.Calendar
import Mathlib.Order.Monotone.Basic

namespace FindQuery.Calendar

def daysInYear (year : Nat) : Nat := if isLeap year then 366 else 365

theorem daysBeforeYear_of_parts (a : Nat) {b c d : Nat} (hb : b ≤ 3) (hc : c ≤ 24) (hd : d ≤ 3) :
    daysBeforeYear (a * 400 + b * 100 + c * 4 + d + 1) =
      a * 146097 + b * 36524 + c * 1461 + d * 365 := by
  have hfour : (a * 400 + b * 100 + c * 4 + d) / 4 = a * 100 + b * 25 + c := by omega
  have hhundred : (a * 400 + b * 100 + c * 4 + d) / 100 = a * 4 + b := by omega
  have hfourhundred : (a * 400 + b * 100 + c * 4 + d) / 400 = a := by omega
  simp only [daysBeforeYear, Nat.add_sub_cancel, hfour, hhundred, hfourhundred]
  omega

theorem isLeap_of_parts (a : Nat) {b c d : Nat} (hb : b ≤ 3) (hc : c ≤ 24) (hd : d ≤ 3) :
    isLeap (a * 400 + b * 100 + c * 4 + d + 1) = true ↔ d = 3 ∧ (c < 24 ∨ b = 3) := by
  simp only [isLeap, Bool.and_eq_true, Bool.or_eq_true, decide_eq_true_eq]
  omega

theorem exists_parts {year : Nat} (h : 1 ≤ year) :
    ∃ a b c d, b ≤ 3 ∧ c ≤ 24 ∧ d ≤ 3 ∧ year = a * 400 + b * 100 + c * 4 + d + 1 := by
  obtain ⟨y, rfl⟩ := Nat.exists_eq_add_of_le' h
  exact ⟨y / 400, y % 400 / 100, y % 100 / 4, y % 4, by omega, by omega, by omega, by omega⟩

theorem daysBeforeYear_succ {year : Nat} (h : 1 ≤ year) :
    daysBeforeYear (year + 1) = daysBeforeYear year + daysInYear year := by
  obtain ⟨a, b, c, d, hb, hc, hd, rfl⟩ := exists_parts h
  simp only [daysInYear, isLeap_of_parts a hb hc hd, daysBeforeYear_of_parts a hb hc hd]
  -- The next year is the next one of its four years, or the first of the next four, of the next
  -- hundred, or of the next four hundred.
  by_cases hlast : d < 3
  · have hnext := daysBeforeYear_of_parts a hb hc (show d + 1 ≤ 3 from hlast)
    rw [if_neg fun h => absurd h.1 (Nat.ne_of_lt hlast)]
    exact (congrArg daysBeforeYear (by omega)).trans (hnext.trans (by omega))
  obtain rfl : d = 3 := Nat.le_antisymm hd (Nat.le_of_not_lt hlast)
  by_cases hfour : c < 24
  · have hnext := daysBeforeYear_of_parts a hb (show c + 1 ≤ 24 from hfour) (Nat.zero_le 3)
    rw [if_pos ⟨rfl, .inl hfour⟩]
    exact (congrArg daysBeforeYear (by omega)).trans (hnext.trans (by omega))
  obtain rfl : c = 24 := Nat.le_antisymm hc (Nat.le_of_not_lt hfour)
  by_cases hhundred : b < 3
  · have hnext := daysBeforeYear_of_parts a (show b + 1 ≤ 3 from hhundred) (Nat.zero_le 24)
      (Nat.zero_le 3)
    rw [if_neg (by omega)]
    exact (congrArg daysBeforeYear (by omega)).trans (hnext.trans (by omega))
  obtain rfl : b = 3 := Nat.le_antisymm hb (Nat.le_of_not_lt hhundred)
  have hnext := daysBeforeYear_of_parts (a + 1) (Nat.zero_le 3) (Nat.zero_le 24) (Nat.zero_le 3)
  rw [if_pos ⟨rfl, .inr rfl⟩]
  exact (congrArg daysBeforeYear (by omega)).trans (hnext.trans (by omega))

/-- Every day number has a place in its four hundred, hundred and four years, and in its year; only
the last year of four may have a day more, if it is not the last of a hundred, or is that of four
hundred. -/
theorem yearOfDay_parts (n : Nat) : ∃ a b c d rest, b ≤ 3 ∧ c ≤ 24 ∧ d ≤ 3 ∧
    (rest < 365 ∨ rest = 365 ∧ d = 3 ∧ (c < 24 ∨ b = 3)) ∧
    yearOfDay n = (a * 400 + b * 100 + c * 4 + d + 1, rest) ∧
    n = a * 146097 + b * 36524 + c * 1461 + d * 365 + rest := by
  refine ⟨_, _, _, _, _, ?_, ?_, ?_, ?_, rfl, ?_⟩
  · exact Nat.min_le_right _ _
  · omega
  · exact Nat.min_le_right _ _
  · have hera : n % 146097 < 146097 := Nat.mod_lt _ (by decide)
    generalize n % 146097 = era at *
    generalize hcentury : min (era / 36524) 3 = century
    omega
  · omega

theorem yearOfDay_spec (n : Nat) :
    1 ≤ (yearOfDay n).1 ∧ daysBeforeYear (yearOfDay n).1 + (yearOfDay n).2 = n ∧
      (yearOfDay n).2 < daysInYear (yearOfDay n).1 := by
  obtain ⟨a, b, c, d, rest, hb, hc, hd, hrest, hyear, hn⟩ := yearOfDay_parts n
  rw [hyear]
  refine ⟨Nat.le_add_left _ _, ?_, ?_⟩
  · rw [daysBeforeYear_of_parts a hb hc hd]
    exact hn.symm
  · rcases hrest with hrest | ⟨rfl, hleap⟩
    · unfold daysInYear
      split <;> omega
    · rw [daysInYear, if_pos ((isLeap_of_parts a hb hc hd).2 hleap)]
      exact Nat.lt_succ_self 365

theorem daysBeforeYear_mono : Monotone daysBeforeYear := by
  refine monotone_nat_of_le_succ fun year => ?_
  cases year with
  | zero => exact Nat.le_refl _
  | succ year =>
    rw [daysBeforeYear_succ (Nat.le_add_left 1 year)]
    exact Nat.le_add_right _ _

theorem daysBeforeMonth_mono (year : Nat) : Monotone (daysBeforeMonth year) :=
  monotone_nat_of_le_succ fun _ => Nat.le_add_right _ _

theorem daysBeforeMonth_thirteen (year : Nat) : daysBeforeMonth year 13 = daysInYear year := by
  simp only [daysBeforeMonth, daysInMonth, daysInYear]
  split <;> rfl

theorem month_le_of_daysInMonth {year month : Nat} (h : 1 ≤ daysInMonth year month) :
    month ≤ 12 := by
  unfold daysInMonth at h
  split at h <;> omega

/-- The search finds the month that holds the day, if the months that are searched do. -/
theorem monthOfDay_spec (year : Nat) {count month day : Nat}
    (h : daysBeforeMonth year month + day < daysBeforeMonth year (month + count + 1)) :
    1 ≤ (monthOfDay year count month day).2 ∧
      (monthOfDay year count month day).2 ≤ daysInMonth year (monthOfDay year count month day).1 ∧
      daysBeforeMonth year (monthOfDay year count month day).1 +
        ((monthOfDay year count month day).2 - 1) = daysBeforeMonth year month + day := by
  induction count generalizing month day with
  | zero =>
    rw [Nat.add_zero, daysBeforeMonth] at h
    exact ⟨Nat.le_add_left _ _, Nat.lt_of_add_lt_add_left h, rfl⟩
  | succ count ih =>
    rw [monthOfDay]
    split
    · next hday => exact ⟨Nat.le_add_left _ _, hday, rfl⟩
    · next hday =>
      have hmove : daysBeforeMonth year (month + 1) + (day - daysInMonth year month) =
          daysBeforeMonth year month + day := by
        rw [daysBeforeMonth]
        omega
      rw [← hmove] at h ⊢
      apply ih
      rwa [Nat.add_right_comm month 1 count]

namespace Date

/-- The place of a date in its year, from 0 on. -/
def dayOfYear (d : Date) : Nat := daysBeforeMonth d.year d.month + (d.day - 1)

theorem toDayNumber_eq (d : Date) : d.toDayNumber = daysBeforeYear d.year + d.dayOfYear :=
  Nat.add_assoc _ _ _

theorem ofDayNumber_spec (n : Nat) :
    1 ≤ (ofDayNumber n).year ∧ 1 ≤ (ofDayNumber n).day ∧
      (ofDayNumber n).day ≤ daysInMonth (ofDayNumber n).year (ofDayNumber n).month ∧
      (ofDayNumber n).toDayNumber = n := by
  obtain ⟨hyear, hn, hday⟩ := yearOfDay_spec n
  have hmonths : daysBeforeMonth (yearOfDay n).1 1 + (yearOfDay n).2 <
      daysBeforeMonth (yearOfDay n).1 (1 + 11 + 1) := by
    rw [daysBeforeMonth_thirteen, show daysBeforeMonth (yearOfDay n).1 1 = 0 from rfl]
    omega
  obtain ⟨hfirst, hlast, hmonth⟩ := monthOfDay_spec (yearOfDay n).1 hmonths
  refine ⟨hyear, hfirst, hlast, ?_⟩
  rw [toDayNumber_eq]
  simp only [ofDayNumber, dayOfYear, hmonth]
  rw [show daysBeforeMonth (yearOfDay n).1 1 = 0 from rfl, Nat.zero_add, hn]

variable {d e : Date}

theorem dayOfYear_lt_of_month (hd : d.IsValid) (hy : d.year = e.year) (h : d.month < e.month) :
    d.dayOfYear < e.dayOfYear := by
  obtain ⟨-, -, hfirst, hlast⟩ := hd
  have hmono := daysBeforeMonth_mono d.year (show d.month + 1 ≤ e.month from h)
  rw [daysBeforeMonth] at hmono
  unfold dayOfYear
  rw [← hy]
  omega

theorem dayOfYear_lt_daysInYear (hd : d.IsValid) : d.dayOfYear < daysInYear d.year := by
  obtain ⟨-, -, hfirst, hlast⟩ := hd
  have hmonth := month_le_of_daysInMonth (hfirst.trans hlast)
  have hmono := daysBeforeMonth_mono d.year (show d.month + 1 ≤ 13 from Nat.succ_le_succ hmonth)
  rw [daysBeforeMonth, daysBeforeMonth_thirteen] at hmono
  unfold dayOfYear
  omega

theorem toDayNumber_lt_of_year (hd : d.IsValid) (h : d.year < e.year) :
    d.toDayNumber < e.toDayNumber := by
  have hday := dayOfYear_lt_daysInYear hd
  have hmono := daysBeforeYear_mono (show d.year + 1 ≤ e.year from h)
  rw [daysBeforeYear_succ hd.1] at hmono
  rw [toDayNumber_eq, toDayNumber_eq]
  omega

theorem year_eq_of_toDayNumber (hd : d.IsValid) (he : e.IsValid)
    (h : d.toDayNumber = e.toDayNumber) : d.year = e.year := by
  rcases Nat.lt_trichotomy d.year e.year with hlt | heq | hlt
  · exact absurd h (Nat.ne_of_lt (toDayNumber_lt_of_year hd hlt))
  · exact heq
  · exact absurd h (Nat.ne_of_gt (toDayNumber_lt_of_year he hlt))

theorem eq_of_toDayNumber (hd : d.IsValid) (he : e.IsValid) (h : d.toDayNumber = e.toDayNumber) :
    d = e := by
  have hyear := year_eq_of_toDayNumber hd he h
  have hday : d.dayOfYear = e.dayOfYear := by
    rw [toDayNumber_eq, toDayNumber_eq, hyear] at h
    exact Nat.add_left_cancel h
  have hmonth : d.month = e.month := by
    rcases Nat.lt_trichotomy d.month e.month with hlt | heq | hlt
    · exact absurd hday (Nat.ne_of_lt (dayOfYear_lt_of_month hd hyear hlt))
    · exact heq
    · exact absurd hday (Nat.ne_of_gt (dayOfYear_lt_of_month he hyear.symm hlt))
  obtain ⟨-, -, hdfirst, -⟩ := hd
  obtain ⟨-, -, hefirst, -⟩ := he
  have hdays : d.day = e.day := by
    rw [dayOfYear, dayOfYear, hyear, hmonth] at hday
    omega
  cases d
  cases e
  cases hyear
  cases hmonth
  cases hdays
  rfl

theorem toDayNumber_lt_dayCount (hd : d.IsValid) :
    d.toDayNumber < daysBeforeYear (maxYear + 1) := by
  have hday := dayOfYear_lt_daysInYear hd
  have hmono := daysBeforeYear_mono (Nat.succ_le_succ hd.2.1)
  rw [daysBeforeYear_succ hd.1] at hmono
  rw [toDayNumber_eq]
  exact Nat.lt_of_lt_of_le (Nat.add_lt_add_left hday _) hmono

theorem isValid_ofDayNumber {n : Nat} (h : n < daysBeforeYear (maxYear + 1)) :
    (ofDayNumber n).IsValid := by
  obtain ⟨hyear, hfirst, hlast, hn⟩ := ofDayNumber_spec n
  refine ⟨hyear, ?_, hfirst, hlast⟩
  rw [toDayNumber_eq] at hn
  by_contra hlate
  have hmono := daysBeforeYear_mono (show maxYear + 1 ≤ (ofDayNumber n).year by omega)
  omega

end Date

end FindQuery.Calendar

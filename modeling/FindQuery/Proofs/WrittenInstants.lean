import FindQuery.Proofs.DateGrammar
import FindQuery.Proofs.DayNumbers

namespace FindQuery

namespace Instant

section

variable {w u v : Written} {x : Instant}

/-- Date and time of day of a moment, in UTC and to the millisecond. -/
structure Written.IsUtc (w : Written) : Prop where
  isValid : w.IsValid
  offset : w.offset = 0
  milli : w.milli ≤ 999

/-- The milliseconds of a time of day, without its offset. -/
def Written.milliOfDay (w : Written) : Nat :=
  ((w.hour * 60 + w.minute) * 60 + w.second) * 1000 + w.milli

theorem Written.IsUtc.milliOfDay_lt (h : u.IsUtc) : u.milliOfDay < Calendar.millisPerDay := by
  obtain ⟨⟨-, hhour, hminute, hsecond, -⟩, -, hmilli⟩ := h
  unfold milliOfDay Calendar.millisPerDay
  omega

theorem Written.IsUtc.toMillis_eq (h : u.IsUtc) :
    u.toMillis = (u.date.toDayNumber * Calendar.millisPerDay + u.milliOfDay : Nat) := by
  unfold toMillis milliOfDay
  rw [h.offset]
  omega

theorem Written.IsUtc.toMillis_bounds (h : u.IsUtc) :
    0 ≤ u.toMillis ∧ u.toMillis < (Calendar.dayCount * Calendar.millisPerDay : Nat) := by
  have hday : u.date.toDayNumber < Calendar.dayCount :=
    Calendar.Date.toDayNumber_lt_dayCount h.isValid.1
  have hmilli := h.milliOfDay_lt
  rw [h.toMillis_eq]
  unfold Calendar.millisPerDay at hmilli ⊢
  omega

theorem Written.IsUtc.eq_of_toMillis (hu : u.IsUtc) (hv : v.IsUtc)
    (h : u.toMillis = v.toMillis) : u = v := by
  have hinu := hu.milliOfDay_lt
  have hinv := hv.milliOfDay_lt
  rw [hu.toMillis_eq, hv.toMillis_eq] at h
  have hday : u.date.toDayNumber = v.date.toDayNumber ∧ u.milliOfDay = v.milliOfDay := by
    unfold Calendar.millisPerDay at *
    omega
  have hdate := Calendar.Date.eq_of_toDayNumber hu.isValid.1 hv.isValid.1 hday.1
  obtain ⟨⟨-, hhour, hminute, hsecond, -⟩, hoffset, hmilli⟩ := hu
  obtain ⟨⟨-, hhour', hminute', hsecond', -⟩, hoffset', hmilli'⟩ := hv
  have htime : u.hour = v.hour ∧ u.minute = v.minute ∧ u.second = v.second ∧ u.milli = v.milli := by
    unfold milliOfDay at hday
    omega
  obtain ⟨hh, hm, hs, hf⟩ := htime
  cases u
  cases v
  simp only [mk.injEq]
  exact ⟨hdate, hh, hm, hs, hf, hoffset.trans hoffset'.symm⟩

theorem isUtc_toWritten (x : Instant) : x.toWritten.IsUtc := by
  have hday : x.millis / Calendar.millisPerDay < Calendar.dayCount :=
    Nat.div_lt_of_lt_mul (Nat.mul_comm _ _ ▸ x.lt_end)
  have htime : x.millis % Calendar.millisPerDay < Calendar.millisPerDay :=
    Nat.mod_lt _ (by decide)
  have hoffset : (0 : Int).natAbs < 24 * 60 := by decide
  refine ⟨⟨Calendar.Date.isValid_ofDayNumber hday, ?_, ?_, ?_, hoffset⟩, rfl, ?_⟩
  · unfold Calendar.millisPerDay at htime
    simp only [toWritten, Calendar.millisPerDay]
    omega
  · simp only [toWritten]
    omega
  · simp only [toWritten]
    omega
  · simp only [toWritten]
    omega

theorem toMillis_toWritten (x : Instant) : x.toWritten.toMillis = x.millis := by
  have hdate : x.toWritten.date.toDayNumber = x.millis / Calendar.millisPerDay :=
    (Calendar.Date.ofDayNumber_spec _).2.2.2
  have htime : x.toWritten.milliOfDay = x.millis % Calendar.millisPerDay := by
    simp only [Written.milliOfDay, toWritten]
    omega
  rw [(isUtc_toWritten x).toMillis_eq, hdate, htime]
  exact congrArg _ (Nat.div_add_mod' _ _)

/-- The moments of years 1 to 9999 are the milliseconds from the start of year 1 to its end. -/
theorem exists_millis_eq {n : Int} : (∃ x : Instant, n = x.millis) ↔
    0 ≤ n ∧ n < (Calendar.dayCount * Calendar.millisPerDay : Nat) := by
  constructor
  · rintro ⟨x, rfl⟩
    exact ⟨Int.natCast_nonneg _, Int.ofNat_lt.2 x.lt_end⟩
  · rintro ⟨hnonneg, hlt⟩
    obtain ⟨m, rfl⟩ := Int.eq_ofNat_of_zero_le hnonneg
    exact ⟨⟨m, Int.ofNat_lt.1 hlt⟩, rfl⟩

theorem ofMillis?_eq_some {n : Int} : ofMillis? n = some x ↔ n = x.millis := by
  unfold ofMillis?
  constructor
  · intro h
    split at h
    · next hn =>
      cases h
      exact (Int.toNat_of_nonneg hn.1).symm
    · cases h
  · intro h
    subst h
    rw [dif_pos (exists_millis_eq.1 ⟨x, rfl⟩)]
    rfl

theorem Written.toInstant?_eq_some : w.toInstant? = some x ↔ w.IsValid ∧ w.toMillis = x.millis := by
  rw [toInstant?]
  split
  · next hw => simp only [ofMillis?_eq_some, hw, true_and]
  · next hw => simp only [hw, false_and, reduceCtorEq]

theorem isWritten_dropFinalNewline {t : Text} :
    IsWritten t.dropFinalNewline w ↔ ∃ s, (t = s ∨ t = s ++ ['\n']) ∧ IsWritten s w := by
  apply Text.holds_dropFinalNewline_iff (P := fun s => IsWritten s w)
  intro s hw hlast
  exact newline_not_mem_of_isWritten hw (List.mem_of_getLast? hlast)

theorem ofText?_eq_some {t : Text} : ofText? t = some x ↔
    ∃ s w, (t = s ∨ t = s ++ ['\n']) ∧ IsWritten s w ∧ w.IsValid ∧ w.toMillis = x.millis := by
  simp only [ofText?, Option.bind_eq_some_iff, readWritten?_eq_some, isWritten_dropFinalNewline,
    Written.toInstant?_eq_some]
  constructor
  · rintro ⟨w, ⟨s, ht, hw⟩, hvalid⟩
    exact ⟨s, w, ht, hw, hvalid⟩
  · rintro ⟨s, w, ht, hw, hvalid⟩
    exact ⟨w, ⟨s, ht, hw⟩, hvalid⟩

end

theorem toMillis_end : (Written.mk ⟨Calendar.maxYear + 1, 1, 1⟩ 0 0 0 0 0).toMillis =
    (Calendar.dayCount * Calendar.millisPerDay : Nat) := by
  have hday : Calendar.Date.toDayNumber ⟨Calendar.maxYear + 1, 1, 1⟩ = Calendar.dayCount := rfl
  simp only [Written.toMillis, hday]
  omega

/-- A text is read exactly if it is, perhaps with a final newline, a written form of a date and a
time that exist, and the moment that it names lies in years 1 to 9999 of UTC. What is given is then
the one date and time of UTC at this moment. -/
theorem written_instants_are_read_exactly (t : Text) :
    (∀ u, (ofText? t).map toWritten = some u ↔
      u.IsUtc ∧ ∃ s w, (t = s ∨ t = s ++ ['\n']) ∧ IsWritten s w ∧ w.IsValid ∧
        u.toMillis = w.toMillis) ∧
    ((ofText? t).isSome ↔
      ∃ s w, (t = s ∨ t = s ++ ['\n']) ∧ IsWritten s w ∧ w.IsValid ∧ 0 ≤ w.toMillis ∧
        w.toMillis < (Written.mk ⟨Calendar.maxYear + 1, 1, 1⟩ 0 0 0 0 0).toMillis) := by
  constructor
  · intro u
    rw [Option.map_eq_some_iff]
    constructor
    · rintro ⟨x, hx, rfl⟩
      obtain ⟨s, w, ht, hw, hvalid, hmillis⟩ := ofText?_eq_some.1 hx
      exact ⟨isUtc_toWritten x, s, w, ht, hw, hvalid, (toMillis_toWritten x).trans hmillis.symm⟩
    · rintro ⟨hu, s, w, ht, hw, hvalid, hmillis⟩
      obtain ⟨x, hx⟩ := exists_millis_eq.2 hu.toMillis_bounds
      refine ⟨x, ofText?_eq_some.2 ⟨s, w, ht, hw, hvalid, hmillis ▸ hx⟩, ?_⟩
      exact (isUtc_toWritten x).eq_of_toMillis hu ((toMillis_toWritten x).trans hx.symm)
  · rw [toMillis_end, Option.isSome_iff_exists]
    constructor
    · rintro ⟨x, hx⟩
      obtain ⟨s, w, ht, hw, hvalid, hmillis⟩ := ofText?_eq_some.1 hx
      exact ⟨s, w, ht, hw, hvalid, exists_millis_eq.1 ⟨x, hmillis⟩⟩
    · rintro ⟨s, w, ht, hw, hvalid, hbounds⟩
      obtain ⟨x, hx⟩ := exists_millis_eq.2 hbounds
      exact ⟨x, ofText?_eq_some.2 ⟨s, w, ht, hw, hvalid, hx⟩⟩

end Instant

end FindQuery

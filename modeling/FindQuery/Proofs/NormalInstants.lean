import FindQuery.Proofs.DecimalText
import FindQuery.Proofs.RuleOrder
import FindQuery.Proofs.WrittenInstants

namespace FindQuery

namespace Calendar

theorem daysInMonth_le (year month : Nat) : daysInMonth year month ≤ 31 := by
  have hfebruary : (if isLeap year then 29 else 28) ≤ 31 := by split <;> decide
  unfold daysInMonth
  split <;> omega

theorem Date.lex_of_toDayNumber_lt {d e : Date} (he : e.IsValid)
    (h : d.toDayNumber < e.toDayNumber) :
    List.Lex (· < ·) [d.year, d.month, d.day] [e.year, e.month, e.day] := by
  rcases Nat.lt_trichotomy d.year e.year with hlt | hyear | hlt
  · exact .rel hlt
  · rw [toDayNumber_eq, toDayNumber_eq, hyear] at h
    have hday := Nat.lt_of_add_lt_add_left h
    rw [hyear]
    apply List.Lex.cons
    rcases Nat.lt_trichotomy d.month e.month with hlt | hmonth | hlt
    · exact .rel hlt
    · rw [dayOfYear, dayOfYear, hyear, hmonth] at hday
      rw [hmonth]
      exact .cons (.rel (by omega))
    · exact absurd hday (Nat.lt_asymm (dayOfYear_lt_of_month he hyear.symm hlt))
  · exact absurd h (Nat.lt_asymm (toDayNumber_lt_of_year he hlt))

end Calendar

namespace Instant

/-- Numbers in fields of fixed widths, with a mark after each field. -/
def stamp : List (Nat × Char) → List Nat → Text
  | (width, mark) :: layout, n :: ns => padded width n ++ mark :: stamp layout ns
  | _, _ => []

/-- The numbers fit into the fields of a layout. -/
def Fits : List (Nat × Char) → List Nat → Prop :=
  List.Forall₂ fun field n => 0 < field.1 ∧ n < 10 ^ field.1

/-- The layout of a normal form: the widths of its fields, and the marks after them. -/
def normalLayout : List (Nat × Char) :=
  [(4, '-'), (2, '-'), (2, 'T'), (2, ':'), (2, ':'), (2, '.'), (3, 'Z')]

/-- The fields of a date and a time of day, in the order of their weight. -/
def Written.fields (w : Written) : List Nat :=
  [w.date.year, w.date.month, w.date.day, w.hour, w.minute, w.second, w.milli]

theorem stamp_precedes {layout : List (Nat × Char)} {ms ns : List Nat} (hms : Fits layout ms)
    (hns : Fits layout ns) (h : List.Lex (· < ·) ms ns) :
    Text.Precedes (stamp layout ms) (stamp layout ns) := by
  induction hms generalizing ns with
  | nil =>
    cases hns
    cases h
  | @cons field m layout ms hm hms ih =>
    cases hns with
    | @cons _ n _ ns hn hns =>
      cases h with
      | cons h => exact List.Lex.append_left _ (.cons (ih hns h)) _
      | rel h =>
        have hlength := (length_padded hm.1 hm.2).trans (length_padded hn.1 hn.2).symm
        exact lex_append (padded_precedes hn.1 hn.2 h) hlength _ _

variable {u v : Written}

theorem Written.IsUtc.fits (h : u.IsUtc) : Fits normalLayout u.fields := by
  obtain ⟨⟨⟨-, hyear, hfirst, hlast⟩, hhour, hminute, hsecond, -⟩, -, hmilli⟩ := h
  have hmonth := Calendar.month_le_of_daysInMonth (hfirst.trans hlast)
  have hday := hlast.trans (Calendar.daysInMonth_le _ _)
  unfold Calendar.maxYear at hyear
  simp only [Fits, normalLayout, Written.fields, List.forall₂_cons, List.Forall₂.nil, and_true]
  omega

theorem Written.IsUtc.lex_of_toMillis_lt (hu : u.IsUtc) (hv : v.IsUtc)
    (h : u.toMillis < v.toMillis) : List.Lex (· < ·) u.fields v.fields := by
  rw [hu.toMillis_eq, hv.toMillis_eq] at h
  rcases Numeral.lt_or_eq_of_place hv.milliOfDay_lt (Int.ofNat_lt.1 h) with hday | ⟨hday, htime⟩
  · have hdate := Calendar.Date.lex_of_toDayNumber_lt hv.isValid.1 hday
    exact lex_append hdate rfl _ _
  · have hdate := Calendar.Date.eq_of_toDayNumber hu.isValid.1 hv.isValid.1 hday
    obtain ⟨⟨-, hhour, hminute, hsecond, -⟩, -, hmilli⟩ := hu
    obtain ⟨⟨-, hhour', hminute', hsecond', -⟩, -, hmilli'⟩ := hv
    have hfirst : u.hour < v.hour ∨ u.hour = v.hour ∧ (u.minute < v.minute ∨
        u.minute = v.minute ∧ (u.second < v.second ∨ u.second = v.second ∧ u.milli < v.milli)) := by
      unfold milliOfDay at htime
      omega
    rw [fields, fields, hdate]
    simpa [List.cons_lex_cons_iff] using hfirst

section

variable {x y : Instant}

theorem eq_of_millis (h : x.millis = y.millis) : x = y := by
  cases x
  cases y
  cases h
  rfl

theorem toText_eq_stamp (x : Instant) : x.toText = stamp normalLayout x.toWritten.fields := by
  simp only [toText, stamp, normalLayout, Written.fields, List.append_assoc, List.cons_append]

theorem toText_precedes (h : x.millis < y.millis) : Text.Precedes x.toText y.toText := by
  have hmillis : x.toWritten.toMillis < y.toWritten.toMillis := by
    rw [toMillis_toWritten, toMillis_toWritten]
    exact Int.ofNat_lt.2 h
  rw [toText_eq_stamp, toText_eq_stamp]
  exact stamp_precedes (isUtc_toWritten x).fits (isUtc_toWritten y).fits
    ((isUtc_toWritten x).lex_of_toMillis_lt (isUtc_toWritten y) hmillis)

/-- Normal forms are in the order of time. -/
theorem toText_precedes_iff : Text.Precedes x.toText y.toText ↔ x.millis < y.millis := by
  constructor
  · intro h
    rcases Nat.lt_trichotomy x.millis y.millis with hlt | heq | hlt
    · exact hlt
    · rw [eq_of_millis heq] at h
      exact absurd h (Text.not_precedes_self _)
    · exact absurd (h.trans (toText_precedes hlt)) (Text.not_precedes_self _)
  · exact toText_precedes

theorem isFraction_padded {mark : Char} (hmark : mark = '.' ∨ mark = ',') {milli : Nat}
    (h : milli < 10 ^ 3) : IsFraction (mark :: padded 3 milli) milli := by
  obtain ⟨ds, hds, hlength, hvalue⟩ := exists_isDecimal_padded (by decide) h
  have hne : ds ≠ [] := by
    rintro rfl
    cases hlength
  have hfraction := IsFraction.digits hmark hds.isDigits hne
  have hthousand : 0 < 10 ^ 3 := by decide
  rwa [hvalue, hlength, show 1000 = 10 ^ 3 from rfl, Nat.mul_div_cancel milli hthousand]
    at hfraction

theorem isWritten_toText (x : Instant) : IsWritten x.toText x.toWritten := by
  have hfits := (isUtc_toWritten x).fits
  simp only [Fits, normalLayout, Written.fields, List.forall₂_cons] at hfits
  obtain ⟨⟨-, hyear⟩, ⟨-, hmonth⟩, ⟨-, hday⟩, ⟨-, hhour⟩, ⟨-, hminute⟩, ⟨-, hsecond⟩,
    ⟨-, hmilli⟩, -⟩ := hfits
  have hdate := IsDate.mk (isNumber_padded (by decide) hyear) (isNumber_padded (by decide) hmonth)
    (isNumber_padded (by decide) hday)
  have hseconds := IsSeconds.seconds (isNumber_padded (by decide) hsecond)
    (isFraction_padded (.inl rfl) hmilli)
  have hwritten := IsWritten.time hdate (isNumber_padded (by decide) hhour)
    (isNumber_padded (by decide) hminute) hseconds .utc
  simp only [toText, List.append_assoc, List.cons_append] at hwritten ⊢
  exact hwritten

/-- The normal form of an instant is read back. -/
theorem ofText?_toText (x : Instant) : ofText? x.toText = some x :=
  ofText?_eq_some.2 ⟨x.toText, x.toWritten, .inl rfl, isWritten_toText x,
    (isUtc_toWritten x).isValid, toMillis_toWritten x⟩

theorem tokenNode_of_instant {o : FilterOptions} (hrules : o.rules = Rule.table) {t : Text}
    (h : ofText? t = some x) {depth : Int} (hdepth : depth ≤ o.maxDepth) :
    Filter.tokenNode o t depth = pure (some (.str x.toText)) := by
  have hread : Rule.date.read? t = some (.date x) := congrArg (Option.map Shape.date) h
  rw [Filter.tokenNode_of_free hrules hread hdepth (by decide), Filter.compileShape]

/-- A text is, perhaps with a final newline, a written form of a date and a time that exist, at a
moment given in milliseconds of UTC since the start of year 1. -/
def Denotes (t : Text) (n : Int) : Prop :=
  ∃ s w, (t = s ∨ t = s ++ ['\n']) ∧ IsWritten s w ∧ w.IsValid ∧ w.toMillis = n

theorem denotes_iff {t : Text} (h : ofText? t = some x) {n : Int} :
    Denotes t n ↔ n = x.millis := by
  constructor
  · rintro ⟨s, w, ht, hw, -, rfl⟩
    obtain ⟨w', hw', hinstant⟩ := Option.bind_eq_some_iff.1 h
    have hread := readWritten?_eq_some.2 (isWritten_dropFinalNewline.2 ⟨s, ht, hw⟩)
    cases hread.symm.trans hw'
    exact (Written.toInstant?_eq_some.1 hinstant).2
  · rintro rfl
    exact ofText?_eq_some.1 h

theorem toText_inj : x.toText = y.toText ↔ x.millis = y.millis := by
  constructor
  · intro h
    have hx := ofText?_toText x
    rw [h, ofText?_toText] at hx
    exact congrArg millis (Option.some.inj hx).symm
  · intro h
    rw [eq_of_millis h]

end

/-- Normal forms are stable and in the order of time. The normal form of a text that is read as an
instant is read as the same instant, and both texts compile to it. Two normal forms are the same
exactly if the texts denote one moment, and one stands before the other exactly if the moment of its
text is the earlier one. -/
theorem normal_forms_are_in_order_of_time {a b : Text} {x y : Instant} (ha : ofText? a = some x)
    (hb : ofText? b = some y) :
    ofText? x.toText = ofText? a ∧
    (∀ (o : FilterOptions) (depth : Int), o.rules = Rule.table → depth ≤ o.maxDepth →
      Filter.tokenNode o a depth = pure (some (.str x.toText)) ∧
      Filter.tokenNode o x.toText depth = pure (some (.str x.toText))) ∧
    (x.toText = y.toText ↔ ∃ n, Denotes a n ∧ Denotes b n) ∧
    (Text.Precedes x.toText y.toText ↔ ∃ m n, Denotes a m ∧ Denotes b n ∧ m < n) := by
  refine ⟨(ofText?_toText x).trans ha.symm, ?_, ?_, ?_⟩
  · intro o depth hrules hdepth
    exact ⟨tokenNode_of_instant hrules ha hdepth,
      tokenNode_of_instant hrules (ofText?_toText x) hdepth⟩
  · simp only [denotes_iff ha, denotes_iff hb, exists_eq_left, Int.ofNat_inj]
    exact toText_inj
  · simp only [denotes_iff ha, denotes_iff hb, ↓existsAndEq, true_and, Int.ofNat_lt]
    exact toText_precedes_iff

theorem normal_forms_are_in_order_of_time_offsets :
    Filter.tokenNode {} "2024-03-01T01:30+02".toList 0 =
      pure (some (.str "2024-02-29T23:30:00.000Z".toList)) ∧
    Filter.tokenNode {} "2024-02-29T23:30:00,5009Z\n".toList 0 =
      pure (some (.str "2024-02-29T23:30:00.500Z".toList)) ∧
    ∃ m n, Denotes "2024-03-01T01:30+02".toList m ∧
      Denotes "2024-02-29T23:30:00,5009Z\n".toList n ∧ m < n := by
  have ha : ofText? "2024-03-01T01:30+02".toList = some ⟨63844846200000, by decide⟩ := by
    decide +kernel
  have hb : ofText? "2024-02-29T23:30:00,5009Z\n".toList = some ⟨63844846200500, by decide⟩ := by
    decide +kernel
  have hx : toText ⟨63844846200000, by decide⟩ = "2024-02-29T23:30:00.000Z".toList := by
    decide +kernel
  have hy : toText ⟨63844846200500, by decide⟩ = "2024-02-29T23:30:00.500Z".toList := by
    decide +kernel
  obtain ⟨-, hnode, -, hbefore⟩ := normal_forms_are_in_order_of_time ha hb
  obtain ⟨-, hnode', -, -⟩ := normal_forms_are_in_order_of_time hb ha
  rw [← hx, ← hy]
  exact ⟨(hnode {} 0 rfl (by decide)).1, (hnode' {} 0 rfl (by decide)).1,
    hbefore.1 (toText_precedes (by decide))⟩

end Instant

end FindQuery

import FindQuery.Filter.Alternatives
import Mathlib.Data.List.Infix

namespace FindQuery

namespace Alternatives

/-- A character of segments or a bar. -/
abbrev IsChar (c : Char) : Prop :=
  Text.isWord c = true ∨ Text.isBlank c = true ∨ c ∈ ['@', '.', '-', '{', '}', '|']

/-- A text that is written as alternatives: single bars inside a text of the characters that
segments may have, with no blank at the end. -/
structure IsWritten (s : Text) : Prop where
  bar : '|' ∈ s
  chars : ∀ c ∈ s, IsChar c
  start : s.head? ≠ some '|'
  single : ¬ ['|', '|'] <:+: s
  stop : ∀ c ∈ s.getLast?, c ≠ '|' ∧ Text.isBlank c = false

theorem isSegmentChar_iff {c : Char} : isSegmentChar c = true ↔ c ≠ '|' ∧ IsChar c := by
  have hbar : isSegmentChar '|' = false := by decide
  by_cases hc : c = '|'
  · subst hc
    simp [hbar]
  · simp [isSegmentChar, IsChar, hc, or_assoc]

theorem double_bar_cons_iff {c : Char} (hc : c ≠ '|') (r : Text) :
    ['|', '|'] <:+: c :: r ↔ ['|', '|'] <:+: r := by
  rw [List.infix_cons_iff, List.cons_prefix_cons]
  simp [hc.symm]

theorem double_bar_bar_iff {c : Char} (hc : c ≠ '|') (r : Text) :
    ['|', '|'] <:+: '|' :: c :: r ↔ ['|', '|'] <:+: r := by
  rw [List.infix_cons_iff, List.cons_prefix_cons, List.cons_prefix_cons, double_bar_cons_iff hc]
  simp [hc.symm]

/-- What may follow a character of a segment, by induction over the bars. -/
theorem follows_iff {last : Char} (hlast : last ≠ '|') {r : Text} :
    follows last r = true ↔ (∀ c ∈ r, IsChar c) ∧ ¬ ['|', '|'] <:+: r ∧
      ∀ c ∈ (last :: r).getLast?, c ≠ '|' ∧ Text.isBlank c = false := by
  fun_induction follows last r with
  | case1 last => simp [hlast]
  | case2 last => simp
  | case3 last c r ih =>
    by_cases hc : c = '|'
    · subst hc
      have hdouble : ['|', '|'] <:+: '|' :: '|' :: r := List.infix_append' [] _ r
      have hnot : isSegmentChar '|' = false := by decide
      rw [hnot, Bool.false_and]
      exact ⟨nofun, fun h => absurd hdouble h.2.1⟩
    · rw [Bool.and_eq_true, isSegmentChar_iff, ih hc, double_bar_bar_iff hc, List.forall_mem_cons,
        List.forall_mem_cons, List.getLast?_cons_cons, List.getLast?_cons_cons]
      have hbar : IsChar '|' := by decide
      simp only [hc, hbar, ne_eq, not_false_eq_true, true_and, and_assoc]
  | case4 last c r h1 h2 ih =>
    have hc : c ≠ '|' := by
      rintro rfl
      cases r with
      | nil => exact h1 rfl rfl
      | cons x r => exact h2 x r rfl rfl
    rw [Bool.and_eq_true, isSegmentChar_iff, ih hc, double_bar_cons_iff hc, List.forall_mem_cons,
      List.getLast?_cons_cons]
    simp only [hc, ne_eq, not_false_eq_true, true_and, and_assoc]

theorem isWritten_iff {s : Text} : IsWritten s ↔ '|' ∈ s ∧ isSegmented s = true := by
  cases s with
  | nil =>
    constructor
    · exact fun h => absurd h.bar List.not_mem_nil
    · exact fun h => absurd h.1 List.not_mem_nil
  | cons c r =>
    rw [isSegmented, Bool.and_eq_true, isSegmentChar_iff]
    constructor
    · intro h
      have hc : c ≠ '|' := fun he => h.start (congrArg some he)
      have hchars := List.forall_mem_cons.1 h.chars
      refine ⟨h.bar, ⟨hc, hchars.1⟩, (follows_iff hc).2 ⟨hchars.2, ?_, h.stop⟩⟩
      exact fun hdouble => h.single ((double_bar_cons_iff hc r).2 hdouble)
    · rintro ⟨hbar, ⟨hc, hchar⟩, hr⟩
      obtain ⟨hchars, hsingle, hstop⟩ := (follows_iff hc).1 hr
      refine ⟨hbar, List.forall_mem_cons.2 ⟨hchar, hchars⟩, ?_, ?_, hstop⟩
      · exact fun he => hc (Option.some.inj he)
      · exact fun hdouble => hsingle ((double_bar_cons_iff hc r).1 hdouble)

theorem IsWritten.getLast?_ne {s : Text} (h : IsWritten s) : s.getLast? ≠ some '\n' := by
  intro hlast
  exact absurd (h.stop '\n' hlast).2 (by decide)

theorem accepts_iff {t : Text} :
    accepts t = true ↔ ∃ s, (t = s ∨ t = s ++ ['\n']) ∧ IsWritten s := by
  have hbar : '|' ∈ t ↔ '|' ∈ t.dropFinalNewline :=
    ⟨Text.mem_dropFinalNewline (by decide), fun h => t.dropFinalNewline_sublist.subset h⟩
  rw [← Text.holds_dropFinalNewline_iff (P := IsWritten) fun _ => IsWritten.getLast?_ne,
    isWritten_iff, accepts, Bool.and_eq_true, List.contains_iff_mem, hbar]

theorem mem_of_accepts {t : Text} (h : accepts t = true) :
    '|' ∈ t ∧ ∀ c ∈ t, c ≠ '\n' → isSegmentChar c = true ∨ c = '|' := by
  obtain ⟨s, ht, hs⟩ := accepts_iff.1 h
  have hchars (c : Char) (hc : c ∈ s) : isSegmentChar c = true ∨ c = '|' := by
    by_cases hbar : c = '|'
    · exact .inr hbar
    · exact .inl (isSegmentChar_iff.2 ⟨hbar, hs.chars c hc⟩)
  rcases ht with rfl | rfl
  · exact ⟨hs.bar, fun c hc _ => hchars c hc⟩
  · refine ⟨List.mem_append_left _ hs.bar, fun c hc hnewline => ?_⟩
    rcases List.mem_append.1 hc with hc | hc
    · exact hchars c hc
    · exact absurd (List.mem_singleton.1 hc) hnewline

theorem nil_not_mem_pieces {t : Text} (h : accepts t = true) : [] ∉ t.pieces '|' := by
  obtain ⟨s, ht, hs⟩ := accepts_iff.1 h
  have hne : s ≠ [] := List.ne_nil_of_mem hs.bar
  rcases ht with rfl | rfl
  · refine Text.nil_not_mem_pieces hne hs.start hs.single fun hlast => ?_
    exact (hs.stop '|' hlast).1 rfl
  · refine Text.nil_not_mem_pieces (List.concat_ne_nil _ _) ?_ ?_ ?_
    · rw [List.head?_append_of_ne_nil s hne]
      exact hs.start
    · intro hdouble
      rcases List.infix_concat_iff.1 hdouble with hsuffix | hinfix
      · obtain ⟨p, hp⟩ := hsuffix
        have hlast := congrArg List.getLast? hp
        rw [List.getLast?_concat, List.getLast?_append_of_ne_nil p (List.cons_ne_nil _ _)] at hlast
        exact absurd hlast (by decide)
      · exact hs.single hinfix
    · rw [List.getLast?_concat]
      decide

end Alternatives

end FindQuery

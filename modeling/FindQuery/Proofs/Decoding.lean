import FindQuery.Form.Pairs

namespace FindQuery

namespace Utf8

theorem length_start (b : Nat) : (start b).1.length + (start b).2.toList.length = 1 := by
  unfold start
  repeat' split
  all_goals rfl

/-- A character that is pending counts as one character of output to come. -/
theorem length_step_le (state : Option Pending) (p : Piece) :
    (step state p).1.length + (step state p).2.toList.length ≤ 1 + state.toList.length := by
  cases state with
  | none =>
    cases p with
    | octet b => exact Nat.le_of_eq (length_start b)
    | plain c => exact Nat.le_refl 1
  | some pending =>
    cases p with
    | plain c => exact Nat.le_refl 2
    | octet b =>
      simp only [step]
      split
      · simp only [Pending.continued]
        split <;> simp
      · have h := length_start b
        simp only [List.length_cons, Option.toList_some, List.length_nil]
        omega

theorem length_decodeFrom_le (state : Option Pending) (ps : List Piece) :
    (decodeFrom state ps).length ≤ ps.length + state.toList.length := by
  induction ps generalizing state with
  | nil => cases state <;> simp [decodeFrom]
  | cons p ps ih =>
    have hs := length_step_le state p
    have hd := ih (step state p).2
    simp only [decodeFrom, List.length_append, List.length_cons]
    omega

end Utf8

namespace Percent

theorem length_pieces_le (t : Text) : (pieces t).length ≤ t.length := by
  fun_induction pieces t with
  | case1 => exact Nat.le_refl 0
  | case2 a b r x hx y hy ih =>
    simp only [List.length_cons]
    omega
  | case3 a b r _ ih =>
    simp only [List.length_cons] at ih ⊢
    omega
  | case4 c r _ ih =>
    simp only [List.length_cons]
    omega

theorem length_decode_le (t : Text) : (decode t).length ≤ t.length := by
  have h := Utf8.length_decodeFrom_le none (pieces t)
  exact Nat.le_trans h (length_pieces_le t)

theorem decode_of_not_mem {t : Text} (h : '%' ∉ t) : decode t = t := by
  induction t with
  | nil => rfl
  | cons c r ih =>
    have hc : c ≠ '%' := fun hc => h (hc ▸ List.mem_cons_self)
    have hr := ih fun hr => h (.tail _ hr)
    rw [decode, Utf8.decode] at hr ⊢
    have hp : pieces (c :: r) =
        (if c.toNat < 0x80 then .octet c.toNat else .plain c) :: pieces r := by
      rw [pieces]
      intro a b s he
      exact (hc he).elim
    rw [hp]
    split
    · next hascii =>
      simp only [Utf8.decodeFrom, Utf8.step, Utf8.start, hascii, ↓reduceIte, Char.ofNat_toNat,
        List.cons_append, List.nil_append, hr]
    · simp only [Utf8.decodeFrom, Utf8.step, List.cons_append, List.nil_append, hr]

end Percent

namespace Form

theorem length_decodePart_le (t : Text) : (decodePart t).length ≤ t.length := by
  have h := Percent.length_decode_le (t.replace '+' ' ')
  rwa [Text.replace, List.length_map] at h

theorem decodePart_of_not_mem {t : Text} (h : '%' ∉ t) : decodePart t = t.replace '+' ' ' := by
  apply Percent.decode_of_not_mem
  intro hm
  obtain ⟨c, hc, he⟩ := List.mem_map.1 hm
  split at he
  · cases he
  · exact h (he ▸ hc)

end Form

end FindQuery

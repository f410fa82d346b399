namespace FindQuery

/-- A text is the list of its characters. Half of a surrogate pair that stands alone is no
character, so no text holds one. -/
abbrev Text := List Char

instance : LawfulBEq Text := inferInstanceAs (LawfulBEq (List Char))

namespace Text

/-- Puts a character in front of the first of several pieces. -/
def consHead (c : Char) : List Text → List Text
  | [] => [[c]]
  | p :: ps => (c :: p) :: ps

/-- The pieces between the occurrences of `sep`. A text without `sep` is its only piece. -/
def pieces (sep : Char) : Text → List Text
  | [] => [[]]
  | c :: r => if c = sep then [] :: pieces sep r else consHead c (pieces sep r)

def joined (sep : Char) : List Text → Text
  | [] => []
  | [p] => p
  | p :: q :: ps => p ++ sep :: joined sep (q :: ps)

/-- The pieces between the occurrences of a separating text, found from the left without overlap.
The first argument counts the characters of the current separator that are still to be passed. -/
def piecesByFrom (sep : Text) : Nat → Text → List Text
  | _, [] => [[]]
  | n + 1, _ :: r => piecesByFrom sep n r
  | 0, c :: r =>
    if sep.isPrefixOf (c :: r) then [] :: piecesByFrom sep (sep.length - 1) r
    else consHead c (piecesByFrom sep 0 r)

/-- The pieces between the occurrences of a non-empty separating text. -/
def piecesBy (sep t : Text) : List Text := piecesByFrom sep 0 t

/-- What stands before the first `stop`, and what follows it if there is one. -/
def cut (stop : Char) : Text → Text × Option Text
  | [] => ([], none)
  | c :: r =>
    if c = stop then ([], some r)
    else
      let rest := cut stop r
      (c :: rest.1, rest.2)

/-- What follows a fixed beginning. -/
def after? : Text → Text → Option Text
  | [], t => some t
  | _ :: _, [] => none
  | p :: ps, c :: r => if p = c then after? ps r else none

def dropFinalNewline : Text → Text
  | [] => []
  | ['\n'] => []
  | c :: r => c :: dropFinalNewline r

def replace (old new : Char) (t : Text) : Text := t.map fun c => if c = old then new else c

theorem consHead_ne_nil (c : Char) (ps : List Text) : consHead c ps ≠ [] := by
  cases ps <;> simp [consHead]

theorem pieces_ne_nil (sep : Char) (t : Text) : pieces sep t ≠ [] := by
  cases t with
  | nil => simp [pieces]
  | cons c r =>
    rw [pieces]
    split
    · simp
    · exact consHead_ne_nil _ _

theorem joined_cons_consHead (sep c : Char) {ps : List Text} (h : ps ≠ []) :
    joined sep (consHead c ps) = c :: joined sep ps := by
  match ps with
  | [] => exact absurd rfl h
  | [_] => rfl
  | _ :: _ :: _ => rfl

theorem joined_pieces (sep : Char) (t : Text) : joined sep (pieces sep t) = t := by
  induction t with
  | nil => rfl
  | cons c r ih =>
    rw [pieces]
    split
    · next h =>
      obtain ⟨p, ps, hp⟩ := List.exists_cons_of_ne_nil (pieces_ne_nil sep r)
      rw [hp] at ih ⊢
      rw [joined, ih, h, List.nil_append]
    · rw [joined_cons_consHead _ _ (pieces_ne_nil sep r), ih]

theorem pieces_of_not_mem {sep : Char} {t : Text} (h : sep ∉ t) : pieces sep t = [t] := by
  induction t with
  | nil => rfl
  | cons c r ih =>
    have hc : c ≠ sep := (List.ne_of_not_mem_cons h).symm
    rw [pieces, if_neg hc, ih (List.not_mem_of_not_mem_cons h)]
    rfl

theorem consHead_append (c : Char) {ps : List Text} (h : ps ≠ []) (qs : List Text) :
    consHead c (ps ++ qs) = consHead c ps ++ qs := by
  cases ps with
  | nil => exact absurd rfl h
  | cons p ps => rfl

theorem pieces_append_sep (sep : Char) (s t : Text) :
    pieces sep (s ++ sep :: t) = pieces sep s ++ pieces sep t := by
  induction s with
  | nil => exact if_pos rfl
  | cons c s ih =>
    rw [List.cons_append, pieces, pieces, ih]
    split
    · rfl
    · exact consHead_append c (pieces_ne_nil sep s) _

theorem pieces_joined_eq_flatMap (sep : Char) {ps : List Text} (hne : ps ≠ []) :
    pieces sep (joined sep ps) = ps.flatMap (pieces sep) := by
  induction ps with
  | nil => exact absurd rfl hne
  | cons p ps ih =>
    cases ps with
    | nil => exact (List.append_nil _).symm
    | cons q ps =>
      rw [joined, pieces_append_sep, ih nofun]
      rfl

theorem pieces_joined {sep : Char} {ps : List Text} (hne : ps ≠ []) (h : ∀ p ∈ ps, sep ∉ p) :
    pieces sep (joined sep ps) = ps := by
  rw [pieces_joined_eq_flatMap sep hne]
  clear hne
  induction ps with
  | nil => rfl
  | cons p ps ih =>
    rw [List.flatMap_cons, pieces_of_not_mem (h p (.head _)), ih fun q hq => h q (.tail _ hq)]
    rfl

theorem joined_append (sep : Char) {ps qs : List Text} (hp : ps ≠ []) (hq : qs ≠ []) :
    joined sep (ps ++ qs) = joined sep ps ++ sep :: joined sep qs := by
  induction ps with
  | nil => exact absurd rfl hp
  | cons p ps ih =>
    cases ps with
    | nil =>
      obtain ⟨q, qs, rfl⟩ := List.exists_cons_of_ne_nil hq
      rfl
    | cons r ps =>
      have hrest := ih nofun
      rw [List.cons_append] at hrest ⊢
      rw [List.cons_append, joined, hrest, joined, List.append_assoc, List.cons_append]

theorem nil_not_mem_pieces {sep : Char} {t : Text} (hne : t ≠ []) (hstart : t.head? ≠ some sep)
    (hdouble : ¬ [sep, sep] <:+: t) (hstop : t.getLast? ≠ some sep) : [] ∉ t.pieces sep := by
  intro h
  obtain ⟨ps, qs, hpieces⟩ := List.append_of_mem h
  have ht := joined_pieces sep t
  rw [hpieces] at ht
  cases ps with
  | nil =>
    cases qs with
    | nil => exact hne ht.symm
    | cons q qs => exact hstart (ht ▸ rfl)
  | cons p ps =>
    rw [joined_append sep (List.cons_ne_nil p ps) (List.cons_ne_nil [] qs)] at ht
    cases qs with
    | nil => exact hstop (ht ▸ List.getLast?_concat)
    | cons q qs => exact hdouble ⟨_, _, (List.append_assoc _ _ _).trans ht⟩

theorem mem_joined {sep c : Char} {ps : List Text} (h : c ∈ joined sep ps) :
    c = sep ∨ ∃ p ∈ ps, c ∈ p := by
  induction ps with
  | nil => cases h
  | cons p ps ih =>
    cases ps with
    | nil => exact .inr ⟨p, .head _, h⟩
    | cons q ps =>
      rcases List.mem_append.1 h with h | h
      · exact .inr ⟨p, .head _, h⟩
      · rcases List.mem_cons.1 h with h | h
        · exact .inl h
        · exact (ih h).imp_right fun ⟨r, hr, hc⟩ => ⟨r, .tail _ hr, hc⟩

theorem replace_append (old new : Char) (s t : Text) :
    replace old new (s ++ t) = replace old new s ++ replace old new t :=
  List.map_append

theorem replace_of_not_mem {old new : Char} {t : Text} (h : old ∉ t) : replace old new t = t := by
  induction t with
  | nil => rfl
  | cons c r ih =>
    have hc : c ≠ old := (List.ne_of_not_mem_cons h).symm
    rw [replace] at ih ⊢
    rw [List.map_cons, if_neg hc, ih (List.not_mem_of_not_mem_cons h)]

theorem replace_joined {old new : Char} {ps : List Text} (h : ∀ p ∈ ps, old ∉ p) :
    replace old new (joined old ps) = joined new ps := by
  induction ps with
  | nil => rfl
  | cons p ps ih =>
    have hp : replace old new p = p := replace_of_not_mem (h p (.head _))
    cases ps with
    | nil => exact hp
    | cons q ps =>
      have hold : replace old new [old] = [new] := congrArg (· :: []) (if_pos rfl)
      rw [joined, joined, ← List.singleton_append, replace_append, replace_append, hp, hold,
        ih fun r hr => h r (.tail _ hr), List.singleton_append]

theorem piecesBy_singleton (sep : Char) (t : Text) : piecesBy [sep] t = pieces sep t := by
  unfold piecesBy
  induction t with
  | nil => rfl
  | cons c r ih =>
    by_cases h : c = sep
    · subst h
      simp [piecesByFrom, pieces, ih]
    · simp [piecesByFrom, pieces, ih, h, Ne.symm h]

theorem after?_eq_some_iff {p t r : Text} : after? p t = some r ↔ t = p ++ r := by
  induction p generalizing t with
  | nil => simp [after?]
  | cons x p ih =>
    cases t with
    | nil => simp [after?]
    | cons c t =>
      by_cases h : x = c
      · simp [after?, h, ih]
      · simp [after?, h, Ne.symm h]

theorem sublist_of_mem_consHead {c : Char} {t p : Text} {ps : List Text}
    (h : ∀ q ∈ ps, q.Sublist t) (hp : p ∈ consHead c ps) : p.Sublist (c :: t) := by
  cases ps with
  | nil =>
    rw [List.mem_singleton.1 hp]
    exact List.Sublist.cons_cons c (List.nil_sublist t)
  | cons q qs =>
    rcases List.mem_cons.1 hp with rfl | hp
    · exact (h q (.head _)).cons_cons c
    · exact (h p (.tail _ hp)).cons c

theorem sublist_of_mem_pieces {sep : Char} {t p : Text} (h : p ∈ pieces sep t) :
    p.Sublist t := by
  induction t generalizing p with
  | nil =>
    cases List.mem_singleton.1 h
    exact List.Sublist.refl _
  | cons c r ih =>
    rw [pieces] at h
    split at h
    · rcases List.mem_cons.1 h with rfl | h
      · exact List.nil_sublist _
      · exact (ih h).cons c
    · exact sublist_of_mem_consHead (fun q hq => ih hq) h

theorem not_mem_of_mem_pieces {sep : Char} {t p : Text} (h : p ∈ pieces sep t) : sep ∉ p := by
  induction t generalizing p with
  | nil =>
    rw [List.mem_singleton.1 h]
    exact List.not_mem_nil
  | cons c r ih =>
    rw [pieces] at h
    split at h
    · rcases List.mem_cons.1 h with rfl | h
      · exact List.not_mem_nil
      · exact ih h
    · next hc =>
      obtain ⟨q, qs, hq⟩ := List.exists_cons_of_ne_nil (pieces_ne_nil sep r)
      rw [hq] at h ih
      rcases List.mem_cons.1 h with rfl | h
      · exact List.not_mem_cons_of_ne_of_not_mem (Ne.symm hc) (ih (.head _))
      · exact ih (.tail _ h)

theorem length_lt_of_mem_pieces {sep : Char} {t p : Text} (hsep : sep ∈ t)
    (h : p ∈ pieces sep t) : p.length < t.length := by
  have hp := sublist_of_mem_pieces h
  refine Nat.lt_of_le_of_ne hp.length_le fun hlength => ?_
  exact not_mem_of_mem_pieces h (hp.eq_of_length hlength ▸ hsep)

theorem sublist_getD_pieces (sep : Char) (t : Text) (n : Nat) :
    ((pieces sep t)[n]?.getD []).Sublist t := by
  cases hn : (pieces sep t)[n]? with
  | none => exact List.nil_sublist t
  | some p => exact sublist_of_mem_pieces (List.mem_of_getElem? hn)

theorem cut_append_cons {stop : Char} {s : Text} (h : stop ∉ s) (r : Text) :
    cut stop (s ++ stop :: r) = (s, some r) := by
  induction s with
  | nil => simp [cut]
  | cons c s ih =>
    have hc : c ≠ stop := (List.ne_of_not_mem_cons h).symm
    rw [List.cons_append, cut, if_neg hc, ih (List.not_mem_of_not_mem_cons h)]

theorem cut_sublist (stop : Char) (t : Text) :
    (cut stop t).1.Sublist t ∧ ∀ r ∈ (cut stop t).2, r.Sublist t := by
  induction t with
  | nil =>
    constructor
    · exact List.Sublist.slnil
    · intro r hr
      cases hr
  | cons c t ih =>
    rw [cut]
    split
    · constructor
      · exact List.nil_sublist _
      · intro r hr
        cases hr
        exact List.sublist_cons_self c t
    · exact ⟨ih.1.cons_cons c, fun r hr => (ih.2 r hr).cons c⟩

theorem dropFinalNewline_sublist (t : Text) : t.dropFinalNewline.Sublist t := by
  fun_induction dropFinalNewline t with
  | case1 => exact List.Sublist.slnil
  | case2 => exact List.nil_sublist _
  | case3 c r _ ih => exact ih.cons_cons c

theorem dropFinalNewline_append (t : Text) : (t ++ ['\n']).dropFinalNewline = t := by
  induction t with
  | nil => rfl
  | cons c t ih =>
    have hrest : c = '\n' → t ++ ['\n'] = [] → False := fun _ h => by cases t <;> cases h
    rw [List.cons_append, dropFinalNewline.eq_3 _ _ hrest, ih]

theorem dropFinalNewline_eq_or (t : Text) :
    t = t.dropFinalNewline ∨ t = t.dropFinalNewline ++ ['\n'] := by
  fun_induction dropFinalNewline t with
  | case1 => exact .inl rfl
  | case2 => exact .inr rfl
  | case3 c t _ ih => exact ih.imp (congrArg (c :: ·)) (congrArg (c :: ·))

/-- What a text without the newline at its end satisfies, if nothing that ends with a newline
satisfies it. -/
theorem holds_dropFinalNewline_iff {P : Text → Prop}
    (hP : ∀ s, P s → s.getLast? ≠ some '\n') {t : Text} :
    P t.dropFinalNewline ↔ ∃ s, (t = s ∨ t = s ++ ['\n']) ∧ P s := by
  constructor
  · exact fun h => ⟨_, dropFinalNewline_eq_or t, h⟩
  · rintro ⟨s, ht, hs⟩
    have hdrop : t.dropFinalNewline = s := by
      rcases ht with rfl | rfl
      · rcases dropFinalNewline_eq_or t with ht | ht
        · exact ht.symm
        · exact absurd (ht ▸ List.getLast?_concat) (hP t hs)
      · exact dropFinalNewline_append s
    exact hdrop ▸ hs

theorem mem_dropFinalNewline {c : Char} {t : Text} (hc : c ≠ '\n') (h : c ∈ t) :
    c ∈ t.dropFinalNewline := by
  rcases dropFinalNewline_eq_or t with ht | ht
  · exact ht ▸ h
  · rw [ht] at h
    exact (List.mem_append.1 h).resolve_right fun h => hc (List.mem_singleton.1 h)

theorem toNat_of_isAlphanum {c : Char} (h : c.isAlphanum = true) :
    0x30 ≤ c.toNat ∧ c.toNat ≤ 0x7A := by
  have hclasses : c.isAlphanum = (decide (c.val ≥ 'A'.val ∧ c.val ≤ 'Z'.val) ||
      (decide (c.val ≥ 'a'.val) && decide (c.val ≤ 'z'.val)) ||
        (decide (c.val ≥ '0'.val) && decide (c.val ≤ '9'.val))) :=
    rfl
  have hbounds : '0'.val.toNat = 0x30 ∧ '9'.val.toNat = 0x39 ∧ 'A'.val.toNat = 0x41 ∧
      'Z'.val.toNat = 0x5A ∧ 'a'.val.toNat = 0x61 ∧ 'z'.val.toNat = 0x7A := by
    decide
  simp only [hclasses, Bool.or_eq_true, Bool.and_eq_true, decide_eq_true_eq,
    UInt32.le_iff_toNat_le, ge_iff_le] at h
  change 0x30 ≤ c.val.toNat ∧ c.val.toNat ≤ 0x7A
  omega

end Text

end FindQuery

import FindQuery.Proofs.DescriptorLaw
import FindQuery.Proofs.Merging

namespace FindQuery

namespace Key

variable {lenientKeys : Bool}

theorem toNat_of_isKeyChar {c : Char} (h : isKeyChar lenientKeys c = true) :
    0x2E ≤ c.toNat ∧ c.toNat ≤ 0x7A := by
  simp only [isKeyChar, Bool.or_eq_true, Bool.and_eq_true, decide_eq_true_eq, Char.le_def,
    UInt32.le_iff_toNat_le] at h
  rcases h with ((h | rfl) | rfl) | h
  · have hc := Text.toNat_of_isAlphanum h
    omega
  · decide
  · decide
  · have hbounds : 'A'.val.toNat = 0x41 ∧ 'z'.val.toNat = 0x7A := by decide
    change 0x2E ≤ c.val.toNat ∧ c.val.toNat ≤ 0x7A
    omega

theorem isBlank_of_isKeyChar {c : Char} (h : isKeyChar lenientKeys c = true) :
    Text.isBlank c = false := by
  have hranges : ∀ r ∈ Text.blankRanges, r.2 < 0x2E ∨ 0x7A < r.1 := by decide
  rw [Bool.eq_false_iff]
  intro hblank
  obtain ⟨r, hmem, hn⟩ := Text.exists_of_inRanges hblank
  have hr := hranges r hmem
  have hc := toNat_of_isKeyChar h
  omega

theorem not_mem_of_isKeyChar {c : Char} (hc : ∀ lenient, isKeyChar lenient c = false) {t : Text}
    (h : ∀ d ∈ t, isKeyChar lenientKeys d = true) : c ∉ t := by
  intro hmem
  have hkey := h c hmem
  rw [hc lenientKeys] at hkey
  cases hkey

theorem clean_eq_self {t : Text} (h : ∀ c ∈ t, isKeyChar lenientKeys c = true) :
    clean lenientKeys t = t :=
  List.filter_eq_self.2 h

theorem isKeyChar_of_clean_eq_self {t : Text} (h : clean lenientKeys t = t) :
    ∀ c ∈ t, isKeyChar lenientKeys c = true :=
  List.filter_eq_self.1 h

end Key

theorem Text.trim_of_not_blank {t : Text} (h : ∀ c ∈ t, isBlank c = false) : trim t = t := by
  have hdrop (s : Text) (hs : ∀ c ∈ s, isBlank c = false) : s.dropWhile isBlank = s := by
    cases s with
    | nil => rfl
    | cons c r =>
      apply List.dropWhile_cons_of_neg
      rw [hs c (.head _)]
      decide
  have hreverse : ∀ c ∈ t.reverse, isBlank c = false := fun c hc => h c (List.mem_reverse.1 hc)
  rw [trim, trimBy, hdrop t h, hdrop t.reverse hreverse, List.reverse_reverse]

namespace Names

variable {lenientKeys : Bool} {marked : Int} {fs : Fields Int}

/-- The pieces of texts between commas, without blanks around them. -/
def trimmedPieces (texts : List Text) : List Text :=
  (texts.flatMap (Text.pieces ',')).map Text.trim

theorem entriesOf_eq (texts : List Text) :
    entriesOf [','] texts = (trimmedPieces texts).filter (· ≠ []) := by
  rw [entriesOf, trimmedPieces, funext (Text.piecesBy_singleton ',')]

/-- The entry that stands for a name and its number in a written list. -/
def entry (marked : Int) (e : Text × Int) : Text := if e.2 = marked then '-' :: e.1 else e.1

theorem read_str (plain : Int) (t : Text) :
    read lenientKeys plain marked (.str t) =
      .ok (mapOf lenientKeys plain marked (entriesOf [','] [t])) := by
  cases t <;> rfl

theorem mem_entry {e : Text × Int} {c : Char} (h : c ∈ entry marked e) : c = '-' ∨ c ∈ e.1 := by
  unfold entry at h
  split at h
  · exact List.mem_cons.1 h
  · exact .inr h

theorem not_mem_entry {c : Char} (hkey : ∀ lenient, Key.isKeyChar lenient c = false)
    (hdash : c ≠ '-') (h : IsSigned lenientKeys marked fs) :
    ∀ p ∈ fs.map (entry marked), c ∉ p := by
  intro p hp hc
  obtain ⟨e, he, rfl⟩ := List.mem_map.1 hp
  rcases mem_entry hc with hc | hc
  · exact hdash hc
  · exact Key.not_mem_of_isKeyChar hkey (h e he).2.1 hc

theorem not_mem_write {c : Char} (hkey : ∀ lenient, Key.isKeyChar lenient c = false)
    (hdash : c ≠ '-') (hcomma : c ≠ ',') (h : IsSigned lenientKeys marked fs) :
    c ∉ write marked fs := by
  intro hc
  rcases Text.mem_joined hc with hc | ⟨p, hp, hc⟩
  · exact hcomma hc
  · exact not_mem_entry hkey hdash h p hp hc

theorem entry_ne_nil {e : Text × Int} (h : e.1 ≠ []) : entry marked e ≠ [] := by
  unfold entry
  split
  · exact List.cons_ne_nil '-' e.1
  · exact h

theorem isMarked_entry {e : Text × Int} (h : '-' ∉ e.1) :
    isMarked (entry marked e) = decide (e.2 = marked) := by
  unfold entry
  split
  · next hm =>
    rw [hm]
    exact (decide_eq_true rfl).trans (decide_eq_true rfl).symm
  · next hm =>
    rw [decide_eq_false hm]
    apply decide_eq_false
    intro hhead
    exact h (List.mem_of_head? hhead)

theorem nameOf_entry {e : Text × Int} (hne : e.1 ≠ [])
    (h : ∀ c ∈ e.1, Key.isKeyChar lenientKeys c = true) :
    nameOf lenientKeys (entry marked e) = e.1 := by
  have hdash : '-' ∉ e.1 := Key.not_mem_of_isKeyChar (by decide) h
  have hdrop : e.1.dropWhile (· = '-') = e.1 := by
    obtain ⟨c, r, hname⟩ := List.exists_cons_of_ne_nil hne
    rw [hname] at hdash ⊢
    apply List.dropWhile_cons_of_neg
    exact fun hc => List.ne_of_not_mem_cons hdash (of_decide_eq_true hc).symm
  have hentry : (entry marked e).dropWhile (· = '-') = e.1 := by
    unfold entry
    split
    · simp only [List.dropWhile_cons, decide_true, ↓reduceIte, hdrop]
    · exact hdrop
  rw [nameOf, hentry, Key.clean_eq_self h]

theorem entriesOf_write (h : IsSigned lenientKeys marked fs) (hne : fs ≠ []) :
    entriesOf [','] [write marked fs] = fs.map (entry marked) := by
  have htrim : ∀ p ∈ fs.map (entry marked), p.trim = p := by
    intro p hp
    obtain ⟨e, he, rfl⟩ := List.mem_map.1 hp
    apply Text.trim_of_not_blank
    intro c hc
    rcases mem_entry hc with rfl | hc
    · decide
    · exact Key.isBlank_of_isKeyChar ((h e he).2.1 c hc)
  have hpieces : (write marked fs).pieces ',' = fs.map (entry marked) :=
    Text.pieces_joined (fun hnil => hne (List.map_eq_nil_iff.1 hnil))
      (not_mem_entry (by decide) (by decide) h)
  rw [entriesOf_eq, trimmedPieces, List.flatMap_singleton, hpieces, List.map_congr_left htrim,
    List.map_id', List.filter_eq_self]
  intro p hp
  obtain ⟨e, he, rfl⟩ := List.mem_map.1 hp
  exact decide_eq_true (entry_ne_nil (h e he).1)

theorem mapOf_entries (h : IsSigned lenientKeys marked fs) (hkeys : fs.keys.Nodup) :
    mapOf lenientKeys 1 marked (fs.map (entry marked)) = fs := by
  have hname : ∀ e ∈ fs, nameOf lenientKeys (entry marked e) = e.1 := fun e he =>
    nameOf_entry (h e he).1 (h e he).2.1
  have hkept : (fs.map (entry marked)).filter (nameOf lenientKeys · ≠ []) =
      fs.map (entry marked) := by
    rw [List.filter_eq_self]
    intro p hp
    obtain ⟨e, he, rfl⟩ := List.mem_map.1 hp
    rw [hname e he]
    exact decide_eq_true (h e he).1
  have hpairs : ∀ e ∈ fs, (nameOf lenientKeys (entry marked e),
      if isMarked (entry marked e) = true then marked else 1) = e := by
    intro e he
    have hdash : '-' ∉ e.1 := Key.not_mem_of_isKeyChar (by decide) (h e he).2.1
    rw [hname e he, isMarked_entry hdash]
    refine Prod.ext rfl ?_
    by_cases hm : e.2 = marked
    · simp only [hm, decide_true, ↓reduceIte]
    · simp only [hm, decide_false, Bool.false_eq_true, ↓reduceIte]
      exact ((h e he).2.2.resolve_right hm).symm
  rw [mapOf, hkept, List.map_map]
  exact (congrArg Fields.ofList ((List.map_congr_left hpairs).trans (List.map_id' fs))).trans
    (Fields.ofList_of_nodup hkeys)

/-- A written list of names is read back. -/
theorem read_write (h : IsSigned lenientKeys marked fs) (hkeys : fs.keys.Nodup) :
    read lenientKeys 1 marked (.str (write marked fs)) = .ok fs := by
  cases fs with
  | nil => rfl
  | cons e fs => rw [read_str, entriesOf_write h (List.cons_ne_nil e fs), mapOf_entries h hkeys]

end Names

end FindQuery

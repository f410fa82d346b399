import FindQuery.Text.Basic

namespace FindQuery

/-- Named values in order of first insertion. -/
abbrev Fields (α : Type) := List (Text × α)

namespace Fields

variable {α : Type}

def keys (fs : Fields α) : List Text := fs.map Prod.fst

def find? (k : Text) : Fields α → Option α
  | [] => none
  | (l, v) :: r => if l = k then some v else find? k r

/-- Sets the value of a name; a new name goes to the end. -/
def insert (k : Text) (v : α) : Fields α → Fields α
  | [] => [(k, v)]
  | (l, w) :: r => if l = k then (k, v) :: r else (l, w) :: insert k v r

/-- Inserts all entries of the second argument into the first, from the left. -/
def merge (fs gs : Fields α) : Fields α := gs.foldl (fun acc e => acc.insert e.1 e.2) fs

/-- The named values of a list of pairs; the last value of a name counts. -/
def ofList (pairs : List (Text × α)) : Fields α := merge [] pairs

theorem find?_insert (k l : Text) (v : α) (fs : Fields α) :
    (fs.insert k v).find? l = if k = l then some v else fs.find? l := by
  induction fs with
  | nil => rfl
  | cons e r ih =>
    obtain ⟨m, w⟩ := e
    by_cases hm : m = k
    · subst hm
      by_cases hl : m = l <;> simp [insert, find?, hl]
    · by_cases hl : m = l
      · subst hl
        simp [insert, find?, hm, Ne.symm hm]
      · simp [insert, find?, hm, hl, ih]

theorem keys_insert (k : Text) (v : α) (fs : Fields α) :
    (fs.insert k v).keys = if k ∈ fs.keys then fs.keys else fs.keys ++ [k] := by
  induction fs with
  | nil => rfl
  | cons e r ih =>
    obtain ⟨m, w⟩ := e
    by_cases hm : m = k
    · subst hm
      simp [insert, keys]
    · simp only [keys] at ih
      by_cases hk : k ∈ r.map Prod.fst <;> simp [insert, keys, hm, Ne.symm hm, ih, hk]

theorem mem_of_find? {k : Text} {v : α} {fs : Fields α} (h : fs.find? k = some v) :
    (k, v) ∈ fs := by
  induction fs with
  | nil => cases h
  | cons e r ih =>
    obtain ⟨l, w⟩ := e
    rw [find?] at h
    split at h
    · next hl =>
      cases h
      rw [hl]
      exact .head _
    · exact .tail _ (ih h)

theorem isSome_find?_iff {fs : Fields α} {k : Text} :
    (fs.find? k).isSome = true ↔ k ∈ fs.keys := by
  induction fs with
  | nil => simp [find?, keys]
  | cons e fs ih =>
    obtain ⟨l, v⟩ := e
    by_cases hl : l = k
    · simp [find?, keys, hl]
    · have hk : k ≠ l := Ne.symm hl
      simpa [find?, keys, hl, hk] using ih

theorem find?_eq_none_iff {fs : Fields α} {k : Text} :
    fs.find? k = none ↔ k ∉ fs.keys := by
  rw [← isSome_find?_iff, Option.not_isSome_iff_eq_none]

theorem find?_filter {fs : Fields α} (h : fs.keys.Nodup)
    (p : Text × α → Bool) (k : Text) :
    find? k (fs.filter p) = (fs.find? k).filter fun v => p (k, v) := by
  induction fs with
  | nil => rfl
  | cons e fs ih =>
    obtain ⟨l, v⟩ := e
    obtain ⟨hl, hfs⟩ := List.nodup_cons.1 h
    have hrest := ih hfs
    rw [List.filter_cons, find?]
    by_cases hk : l = k
    · subst hk
      rw [if_pos rfl, Option.filter_some]
      split
      · next hp => rw [find?, if_pos rfl]
      · next hp =>
        rw [hrest, find?_eq_none_iff.2 hl]
        rfl
    · rw [if_neg hk, ← hrest]
      split
      · rw [find?, if_neg hk]
      · rfl

theorem mem_insert {k : Text} {v : α} {fs : Fields α} {e : Text × α} (h : e ∈ fs.insert k v) :
    e = (k, v) ∨ e ∈ fs := by
  induction fs with
  | nil => exact .inl (List.mem_singleton.1 h)
  | cons d r ih =>
    obtain ⟨l, w⟩ := d
    rw [insert] at h
    split at h
    · rcases List.mem_cons.1 h with h | h
      · exact .inl h
      · exact .inr (.tail _ h)
    · rcases List.mem_cons.1 h with h | h
      · rw [h]
        exact .inr (.head _)
      · rcases ih h with h | h
        · exact .inl h
        · exact .inr (.tail _ h)

theorem merge_cons (fs : Fields α) (e : Text × α) (gs : Fields α) :
    merge fs (e :: gs) = merge (fs.insert e.1 e.2) gs := rfl

theorem merge_append (fs gs hs : Fields α) : merge fs (gs ++ hs) = merge (merge fs gs) hs :=
  List.foldl_append

theorem mem_merge {fs gs : Fields α} {e : Text × α} (h : e ∈ merge fs gs) : e ∈ fs ∨ e ∈ gs := by
  induction gs generalizing fs with
  | nil => exact .inl h
  | cons d gs ih =>
    rw [merge_cons] at h
    rcases ih h with h | h
    · rcases mem_insert h with rfl | h
      · exact .inr (.head _)
      · exact .inl h
    · exact .inr (.tail _ h)

theorem mem_ofList {pairs : List (Text × α)} {e : Text × α} (h : e ∈ ofList pairs) :
    e ∈ pairs := by
  rcases mem_merge h with h | h
  · cases h
  · exact h

end Fields

end FindQuery

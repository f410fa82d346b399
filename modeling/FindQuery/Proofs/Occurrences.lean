import FindQuery.Filter.Tree

namespace FindQuery

/-- `Within key v k w`: the value `v`, which stands under `key`, is or holds the value `w`, which
stands under `k`. An item of a list stands under no key. -/
inductive Value.Within : Option Text → Value → Option Text → Value → Prop
  | self (key : Option Text) (v : Value) : Within key v key v
  | entry {key k : Option Text} {entries : Fields Value} {e : Text × Value} {w : Value}
      (he : e ∈ entries) (hw : Within (some e.1) e.2 k w) : Within key (.map entries) k w
  | item {key k : Option Text} {items : List Value} {v w : Value}
      (hv : v ∈ items) (hw : Within none v k w) : Within key (.list items) k w

/-- All objects inside a value satisfy `Q`, each with the key that it stands under. -/
def Value.AllObjects (Q : Option Text → Fields Value → Prop) (key : Option Text) (v : Value) :
    Prop :=
  ∀ k entries, Within key v k (.map entries) → Q k entries

namespace Value.AllObjects

variable {Q : Option Text → Fields Value → Prop} {key : Option Text}

theorem mono {R : Option Text → Fields Value → Prop} {v : Value} (h : v.AllObjects Q key)
    (hR : ∀ k entries, Q k entries → R k entries) : v.AllObjects R key := by
  intro k entries hw
  exact hR k entries (h k entries hw)

theorem atom {v : Value} (hmap : v.kind ≠ .map) (hlist : v.kind ≠ .list) :
    v.AllObjects Q key := by
  intro k entries hw
  cases hw with
  | self => exact (hmap rfl).elim
  | entry => exact (hmap rfl).elim
  | item => exact (hlist rfl).elim

theorem list {items : List Value} (h : ∀ v ∈ items, v.AllObjects Q none) :
    (Value.list items).AllObjects Q key := by
  intro k entries hw
  cases hw with
  | item hv hw => exact h _ hv k entries hw

theorem map {entries : Fields Value} (h : Q key entries)
    (he : ∀ e ∈ entries, e.2.AllObjects Q (some e.1)) : (Value.map entries).AllObjects Q key := by
  intro k es hw
  cases hw with
  | self => exact h
  | entry hmem hw => exact he _ hmem k es hw

theorem self {entries : Fields Value} (h : (Value.map entries).AllObjects Q key) :
    Q key entries :=
  h key entries (.self key _)

theorem entry {entries : Fields Value} (h : (Value.map entries).AllObjects Q key)
    {e : Text × Value} (he : e ∈ entries) : e.2.AllObjects Q (some e.1) := by
  intro k es hw
  exact h k es (.entry he hw)

end Value.AllObjects

theorem Filter.exists_map_of_mem_mergeNodes {nodes : List Value} {e : Text × Value}
    (h : e ∈ mergeNodes (nodes.filterMap Value.entries?)) :
    ∃ entries, Value.map entries ∈ nodes ∧ e ∈ entries := by
  rw [mergeNodes_eq_ofList] at h
  obtain ⟨entries, hentries, he⟩ := List.mem_flatten.1 (Fields.mem_ofList h)
  obtain ⟨v, hv, hve⟩ := List.mem_filterMap.1 hentries
  cases v with
  | map =>
    cases hve
    exact ⟨entries, hv, he⟩
  | null | bool | int | float | str | list => cases hve

/-- No object inside a value has a key. -/
def Value.IsKeyless (v : Value) : Prop :=
  ∀ key, v.AllObjects (fun _ entries => entries = []) key

theorem Value.isKeyless_list {items : List Value} (h : ∀ v ∈ items, v.IsKeyless) :
    (Value.list items).IsKeyless :=
  fun _ => .list fun v hv => h v hv none

theorem Value.isKeyless_nil : (Value.map []).IsKeyless :=
  fun _ => .map rfl nofun

end FindQuery

import FindQuery.Filter.Shape
import FindQuery.Settings.Basic

namespace FindQuery

/-- What a caller says about filter compilation; what is left out is taken from the settings. -/
structure FilterChoice where
  strict : Option Bool := none
  maxDepth : Option Int := none
  lenientKeys : Option Bool := none

/-- Settled options of filter compilation. -/
structure FilterOptions where
  /-- Refuse a bad value instead of leaving it out. -/
  strict : Bool := false
  /-- The deepest nesting of tags and subqueries. -/
  maxDepth : Int := 16
  one_le_maxDepth : 1 ≤ maxDepth := by decide
  /-- Let field paths hold the characters between the upper and the lower letters. -/
  lenientKeys : Bool := false
  /-- The rules by which tokens are read, in order. -/
  rules : List Rule := Rule.table

namespace FilterOptions

def settle (settings : Settings) (choice : FilterChoice) : Except Fault FilterOptions :=
  let maxDepth := choice.maxDepth.getD settings.maxDepth
  if h : 1 ≤ maxDepth then
    .ok
      { strict := choice.strict.getD settings.strict
        maxDepth := maxDepth
        one_le_maxDepth := h
        lenientKeys := choice.lenientKeys.getD settings.lenientKeys }
  else .error (.outOfRange .maxDepth maxDepth)

/-- The number of levels at and below a depth on which tokens are still read. -/
def levelsAt (o : FilterOptions) (depth : Int) : Nat := (o.maxDepth - depth + 1).toNat

theorem levelsAt_eq_succ {o : FilterOptions} {depth : Int} (h : depth ≤ o.maxDepth) :
    o.levelsAt depth = o.levelsAt (depth + 1) + 1 := by
  unfold levelsAt
  omega

theorem exists_levelsAt {o : FilterOptions} {depth : Int} {n : Nat}
    (h : depth + n ≤ o.maxDepth + 1) : ∃ levels, o.levelsAt depth = levels + n := by
  refine ⟨o.levelsAt (depth + n), ?_⟩
  unfold levelsAt
  omega

end FilterOptions

end FindQuery

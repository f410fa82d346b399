import FindQuery.Fault
import FindQuery.Filter.Key
import FindQuery.Number.Numeral

namespace FindQuery.Pagination

/-- The numeral of a text that is a written integer. -/
def integerNumeral? (t : Text) : Option Numeral := (Numeral.ofText? t).filter (·.isInteger)

/-- Whether a value is a string that holds a written integer. -/
def isIntegerText : Value → Bool
  | .str t => (integerNumeral? t).isSome
  | _ => false

/-- The integer that a query gives under a name, as a number or as text, or else a default. -/
def readInteger (fields : Fields Value) (name : Text) (default : Int) : Except Fault Int :=
  match fields.find? name with
  | some (.int n) => .ok n
  | some (.str t) =>
    match integerNumeral? t with
    | some numeral =>
      match numeral.toInt? with
      | .ok n => .ok n
      | .error count => .error (.tooManyDigits count)
    | none => .ok default
  | _ => .ok default

/-- The number of the page that is returned when the query names none. -/
def firstPage : Int := 1

/-- Limit and skip of a query. Numbers out of range give way to the defaults. -/
def read (fields : Fields Value) (defaultLimit defaultSkip : Int) : Except Fault (Int × Int) := do
  let given ← readInteger fields Key.limit defaultLimit
  let limit := if given < 1 then defaultLimit else given
  if ((fields.find? Key.page).getD .null).isTruthy then
    let page ← readInteger fields Key.page firstPage
    return (limit, if 1 < page then (page - 1) * limit else 0)
  else
    let skip ← readInteger fields Key.skip defaultSkip
    return (limit, if skip < 0 then defaultSkip else skip)

end FindQuery.Pagination

import FindQuery.Text.Basic

namespace FindQuery.Key

/-- A character of a field path: ASCII letters, digits, `_` and `.`. Lenient paths may also hold
what lies between the upper and the lower letters in ASCII. -/
def isKeyChar (lenient : Bool) (c : Char) : Bool :=
  c.isAlphanum || c = '_' || c = '.' || (lenient && 'A' ≤ c && c ≤ 'z')

/-- Removes every character that a field path may not hold. -/
def clean (lenient : Bool) (t : Text) : Text := t.filter (isKeyChar lenient)

def limit : Text := "limit".toList

def skip : Text := "skip".toList

def page : Text := "page".toList

def select : Text := "select".toList

def sort : Text := "sort".toList

def populate : Text := "populate".toList

/-- The names that are parts of the query. -/
def reserved : List Text := [limit, skip, page, select, sort, populate]

theorem mem_clean {lenient : Bool} {t : Text} {c : Char} :
    c ∈ clean lenient t ↔ c ∈ t ∧ isKeyChar lenient c = true :=
  List.mem_filter

end FindQuery.Key

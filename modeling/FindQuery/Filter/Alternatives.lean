import FindQuery.Text.Basic
import FindQuery.Text.Blank
import FindQuery.Text.Word

namespace FindQuery.Alternatives

/-- A character of a segment: word characters, blanks, `@`, `.`, `-` and braces. -/
def isSegmentChar (c : Char) : Bool :=
  Text.isWord c || Text.isBlank c || c = '@' || c = '.' || c = '-' || c = '{' || c = '}'

/-- Whether a text may follow a given segment character: single bars between segment characters,
and no blank at the end. -/
def follows (last : Char) : Text → Bool
  | [] => !Text.isBlank last
  | ['|'] => false
  | '|' :: c :: r => isSegmentChar c && follows c r
  | c :: r => isSegmentChar c && follows c r

/-- Whether a text is made of segments with single bars between them. -/
def isSegmented : Text → Bool
  | [] => false
  | c :: r => isSegmentChar c && follows c r

/-- Whether a token is read as alternatives; one final newline is allowed. -/
def accepts (t : Text) : Bool := t.contains '|' && isSegmented t.dropFinalNewline

/-- The segments of a token that is read as alternatives. -/
def read? (t : Text) : Option (List Text) := if accepts t then some (t.pieces '|') else none

theorem read?_eq_some_iff {t : Text} {segments : List Text} :
    read? t = some segments ↔ segments = t.pieces '|' ∧ accepts t = true := by
  rw [read?, Option.ite_none_right_eq_some, Option.some.injEq, and_comm, eq_comm]

end FindQuery.Alternatives

import FindQuery.Filter.Tag
import FindQuery.Text.Blank
import FindQuery.Text.Word

namespace FindQuery.Pattern

/-- A character that a pattern keeps: word characters, blanks, `@`, `.`, `-` and the closing
brace. -/
def isPatternChar (c : Char) : Bool :=
  Text.isWord c || Text.isBlank c || c = '@' || c = '.' || c = '-' || c = '}'

/-- Removes every character that a pattern may not hold. -/
def clean (t : Text) : Text := t.filter isPatternChar

/-- Whether a text is a pattern and not a plain string. -/
def isMarked (t : Text) : Bool := '*' ∈ t || (Text.after? (Tag.marker Tag.regex) t).isSome

def unmarked (t : Text) : Text := (Text.after? (Tag.marker Tag.regex) t).getD t

/-- The pattern of a text without tag: an asterisk at the first character alone ties it to the
beginning, one at the last character alone to the end. -/
def anchored (t : Text) : Text :=
  let body := clean t
  if t.head? = some '*' then
    if t.getLast? = some '*' then body else '^' :: body
  else if t.getLast? = some '*' then body ++ ['$'] else body

theorem isMarked_iff {t : Text} :
    isMarked t = true ↔ '*' ∈ t ∨ ∃ u, t = Tag.marker Tag.regex ++ u := by
  rw [isMarked, Bool.or_eq_true, decide_eq_true_eq, Option.isSome_iff_exists]
  simp only [Text.after?_eq_some_iff]

theorem unmarked_marker (u : Text) : unmarked (Tag.marker Tag.regex ++ u) = u := by
  have hafter : Text.after? (Tag.marker Tag.regex) (Tag.marker Tag.regex ++ u) = some u :=
    Text.after?_eq_some_iff.2 rfl
  rw [unmarked, hafter]
  rfl

theorem unmarked_of_no_tag {t : Text} (h : ∀ u, t ≠ Tag.marker Tag.regex ++ u) :
    unmarked t = t := by
  have hafter : Text.after? (Tag.marker Tag.regex) t = none :=
    Option.eq_none_iff_forall_ne_some.2 fun u hu => h u (Text.after?_eq_some_iff.1 hu)
  rw [unmarked, hafter]
  rfl

end FindQuery.Pattern

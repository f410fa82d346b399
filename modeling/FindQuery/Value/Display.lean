import FindQuery.Number.Decimal
import FindQuery.Text.Quoted
import FindQuery.Value.Basic

namespace FindQuery.Value

mutual

/-- The text of a value in messages. -/
def display : Value → Text
  | .null => "None".toList
  | .bool true => "True".toList
  | .bool false => "False".toList
  | .int n => Text.ofInt n
  | .float x => x.toText
  | .str t => t.quoted
  | .list items => '[' :: [',', ' '].intercalate (displayItems items) ++ [']']
  | .map entries => '\x7b' :: [',', ' '].intercalate (displayEntries entries) ++ ['\x7d']

def displayItems : List Value → List Text
  | [] => []
  | x :: xs => display x :: displayItems xs

def displayEntries : List (Text × Value) → List Text
  | [] => []
  | (k, x) :: xs => (k.quoted ++ ':' :: ' ' :: display x) :: displayEntries xs

end

/-- The text of a value that is put into a sentence: a string stands without quotes. -/
def plainText : Value → Text
  | .str t => t
  | v => v.display

end FindQuery.Value

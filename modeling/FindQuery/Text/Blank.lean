import FindQuery.Text.Basic
import FindQuery.Text.Ranges

namespace FindQuery.Text

def blankRanges : List (Nat × Nat) :=
   [(0x0009, 0x000D), (0x001C, 0x0020), (0x0085, 0x0085), (0x00A0, 0x00A0), (0x1680, 0x1680),
    (0x2000, 0x200A), (0x2028, 0x2029), (0x202F, 0x202F), (0x205F, 0x205F), (0x3000, 0x3000)]

/-- White space and the ASCII separators. -/
def isBlank (c : Char) : Bool := inRanges c.toNat blankRanges

def trimBy (p : Char → Bool) (t : Text) : Text := ((t.dropWhile p).reverse.dropWhile p).reverse

def trim (t : Text) : Text := t.trimBy isBlank

end FindQuery.Text

import FindQuery.Form.Percent

namespace FindQuery.Form

def decodePart (t : Text) : Text := Percent.decode (t.replace '+' ' ')

/-- Decodes one pair; without an equals sign the value is empty. -/
def decodePair (t : Text) : Text × Text :=
  let parts := t.cut '='
  (decodePart parts.1, decodePart (parts.2.getD []))

/-- Decodes the pairs of a form; empty pieces between ampersands are no pairs. -/
def decodePairs (t : Text) : List (Text × Text) :=
  ((t.pieces '&').filter (· ≠ [])).map decodePair

def encodePair (pair : Text × Text) : Text :=
  Percent.encode pair.1 ++ '=' :: Percent.encode pair.2

def encodePairs (sep : Char) (pairs : List (Text × Text)) : Text :=
  Text.joined sep (pairs.map encodePair)

end FindQuery.Form

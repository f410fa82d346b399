import FindQuery.Number.Shortest
import FindQuery.Text.Basic

namespace FindQuery

namespace Text

/-- A natural number in base ten, without leading zeros. -/
def ofNat (n : Nat) : Text := Nat.toDigits 10 n

def ofInt : Int → Text
  | .ofNat n => ofNat n
  | .negSucc n => '-' :: ofNat (n + 1)

def zeroPadded (width : Nat) (t : Text) : Text := List.replicate (width - t.length) '0' ++ t

end Text

namespace Binary64

/-- Lays out digits with the point after the first `position` of them. Positions from -3 to 16 are
written positionally, with a digit on both sides of the point; all others with an exponent of at
least two digits, and with a point only if there are several digits. -/
def layOut (digits : Text) (position : Int) : Text :=
  if -4 < position ∧ position ≤ 16 then
    if position ≤ 0 then '0' :: '.' :: List.replicate (-position).toNat '0' ++ digits
    else if digits.length ≤ position.toNat then
      digits ++ List.replicate (position.toNat - digits.length) '0' ++ ['.', '0']
    else digits.take position.toNat ++ '.' :: digits.drop position.toNat
  else
    let power := position - 1
    let mantissa := match digits with
      | d :: e :: ds => d :: '.' :: e :: ds
      | ds => ds
    mantissa ++ 'e' :: (if power < 0 then '-' else '+') ::
      Text.zeroPadded 2 (Text.ofNat power.natAbs)

/-- The shortest text that reads back as the number. -/
def toText (x : Binary64) : Text :=
  if x.isNaN then "nan".toList
  else
    let body :=
      if !x.isFinite then "inf".toList
      else if x.isZero then "0.0".toList
      else
        let decimal := shortest x
        let all := Text.ofNat decimal.1
        let digits := (all.reverse.dropWhile (· = '0')).reverse
        layOut digits (all.length + decimal.2)
    if x.negative then '-' :: body else body

end Binary64

end FindQuery

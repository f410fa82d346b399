import FindQuery.Form.Utf8
import FindQuery.Json

namespace FindQuery.Percent

/-- The octets and characters that a text with percent signs stands for. ASCII characters count as
octets, since an encoded character may go on with them in malformed text. -/
def pieces : Text → List Utf8.Piece
  | [] => []
  | '%' :: a :: b :: r =>
    match Json.hexValue? a, Json.hexValue? b with
    | some x, some y => .octet (x * 16 + y) :: pieces r
    | _, _ => .octet 0x25 :: pieces (a :: b :: r)
  | c :: r => (if c.toNat < 0x80 then .octet c.toNat else .plain c) :: pieces r

/-- Decodes percent signs, reading octets as UTF-8. -/
def decode (t : Text) : Text := Utf8.decode (pieces t)

/-- The characters that are written as they are: ASCII letters, digits and `_ . - ~`. -/
def isUnreserved (c : Char) : Bool :=
  c.isAlphanum || c = '_' || c = '.' || c = '-' || c = '~'

/-- The digit of a number below sixteen, in upper case. -/
def hexDigit (n : Nat) : Char := if n < 10 then Char.ofNat (48 + n) else Char.ofNat (55 + n)

/-- A percent sign and the two digits of an octet. -/
def encodeOctet (b : Nat) : Text := ['%', hexDigit (b / 16), hexDigit (b % 16)]

/-- Encodes every character that is not unreserved. -/
def encode (t : Text) : Text :=
  t.flatMap fun c => if isUnreserved c then [c] else (Utf8.encodeChar c).flatMap encodeOctet

end FindQuery.Percent

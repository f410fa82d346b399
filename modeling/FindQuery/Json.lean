import FindQuery.Fields
import FindQuery.Number.Numeral
import FindQuery.Value.Basic

namespace FindQuery.Json

def isSpace (c : Char) : Bool := c = ' ' || c = '\t' || c = '\n' || c = '\r'

def skipSpace (t : Text) : Text := t.dropWhile isSpace

def hexValue? (c : Char) : Option Nat :=
  if '0' ≤ c ∧ c ≤ '9' then some (c.toNat - 48)
  else if 'a' ≤ c ∧ c ≤ 'f' then some (c.toNat - 87)
  else if 'A' ≤ c ∧ c ≤ 'F' then some (c.toNat - 55)
  else none

def hexValue4? (a b c d : Char) : Option Nat :=
  match hexValue? a, hexValue? b, hexValue? c, hexValue? d with
  | some a, some b, some c, some d => some (((a * 16 + b) * 16 + c) * 16 + d)
  | _, _, _, _ => none

/-- The character that a one-letter escape stands for. -/
def escapeValue? (c : Char) : Option Nat :=
  if c = '"' ∨ c = '\\' ∨ c = '/' then some c.toNat
  else if c = 'b' then some 0x08
  else if c = 'f' then some 0x0C
  else if c = 'n' then some 0x0A
  else if c = 'r' then some 0x0D
  else if c = 't' then some 0x09
  else none

/-- Reads the units of a string after its opening quote. Raw control characters are refused. -/
def readUnits? : Text → Option (List Nat × Text)
  | [] => none
  | x :: r =>
    if x = '"' then some ([], r)
    else if x = '\\' then
      match r with
      | 'u' :: a :: b :: c :: d :: r =>
        match hexValue4? a b c d with
        | some n => (readUnits? r).map (Prod.map (n :: ·) id)
        | none => none
      | e :: r =>
        match escapeValue? e with
        | some n => (readUnits? r).map (Prod.map (n :: ·) id)
        | none => none
      | [] => none
    else if x.toNat < 0x20 then none
    else (readUnits? r).map (Prod.map (x.toNat :: ·) id)

/-- The first half of a pair that stands for one character above `0xFFFF`. -/
def isHighHalf (u : Nat) : Bool := 0xD800 ≤ u && u < 0xDC00

/-- The second half of such a pair. -/
def isLowHalf (u : Nat) : Bool := 0xDC00 ≤ u && u < 0xE000

/-- The character of a unit. A half of a pair that stands alone has none and is replaced by U+FFFD,
so strings and names that differ only in such halves are read as the same. -/
def unitChar (u : Nat) : Char :=
  if isHighHalf u || isLowHalf u then '\uFFFD' else Char.ofNat u

/-- The characters of the units of a string; the two halves of a pair give one character. -/
def charsOfUnits : List Nat → Text
  | [] => []
  | [u] => [unitChar u]
  | u :: v :: r =>
    if isHighHalf u && isLowHalf v then
      Char.ofNat (0x10000 + (u - 0xD800) * 0x400 + (v - 0xDC00)) :: charsOfUnits r
    else unitChar u :: charsOfUnits (v :: r)

def readString? (t : Text) : Option (Text × Text) := (readUnits? t).map (Prod.map charsOfUnits id)

def isDigit (c : Char) : Bool := '0' ≤ c && c ≤ '9'

def readDigits (t : Text) : List Nat × Text :=
  ((t.takeWhile isDigit).map (·.toNat - 48), t.dropWhile isDigit)

/-- Reads the digits before the point: a zero, or digits that do not start with one. -/
def readWhole? : Text → Option (List Nat × Text)
  | '0' :: r => some ([0], r)
  | t =>
    match readDigits t with
    | ([], _) => none
    | (ds, r) => some (ds, r)

/-- Reads a point with digits after it; a point alone is left where it is. -/
def readFraction : Text → Option (List Nat) × Text
  | '.' :: r =>
    match readDigits r with
    | ([], _) => (none, '.' :: r)
    | (ds, r) => (some ds, r)
  | t => (none, t)

/-- Reads an exponent; one without digits is left where it is. -/
def readExponent : Text → Option (Bool × List Nat) × Text
  | [] => (none, [])
  | c :: r =>
    if c = 'e' ∨ c = 'E' then
      let sign := Numeral.readSign r
      match readDigits sign.2 with
      | ([], _) => (none, c :: r)
      | (ds, r) => (some (sign.1, ds), r)
    else (none, c :: r)

def readNumeral? (t : Text) : Option (Numeral × Text) :=
  let sign : Bool × Text := match t with
    | '-' :: r => (true, r)
    | t => (false, t)
  (readWhole? sign.2).map fun whole =>
    let fraction := readFraction whole.2
    let exponent := readExponent fraction.2
    (⟨sign.1, whole.1, fraction.1, exponent.1⟩, exponent.2)

/-- The value of a number; an integer with too many digits has none. -/
def numeralValue? (n : Numeral) : Option Value :=
  if n.isInteger then n.toInt?.toOption.map .int else some (.float n.toBinary64)

def words : List (Text × Value) :=
  [("null".toList, .null), ("true".toList, .bool true), ("false".toList, .bool false),
    ("NaN".toList, .float .nan), ("Infinity".toList, .float (.infinity false)),
    ("-Infinity".toList, .float (.infinity true))]

def readAtom? (t : Text) : Option (Value × Text) :=
  match words.findSome? fun w => (Text.after? w.1 t).map fun r => (w.2, r) with
  | some found => some found
  | none =>
    match readNumeral? t with
    | some (n, r) => (numeralValue? n).map fun v => (v, r)
    | none => none

mutual

/-- Reads a value and gives the rest of the text. The first argument bounds the steps, and exceeds
what any text of the given length can use. -/
def readValue? : Nat → Text → Option (Value × Text)
  | 0, _ => none
  | n + 1, t =>
    match t with
    | '"' :: r => (readString? r).map (Prod.map .str id)
    | '[' :: r =>
      match skipSpace r with
      | ']' :: r => some (.list [], r)
      | r => (readItems? n r).map (Prod.map .list id)
    | '{' :: r =>
      match skipSpace r with
      | '}' :: r => some (.map [], r)
      | r => (readMembers? n r).map (Prod.map (fun ms => .map (Fields.ofList ms)) id)
    | t => readAtom? t

/-- Reads the items of an array that has some, with the closing bracket. -/
def readItems? : Nat → Text → Option (List Value × Text)
  | 0, _ => none
  | n + 1, t =>
    match readValue? n t with
    | none => none
    | some (v, r) =>
      match skipSpace r with
      | ']' :: r => some ([v], r)
      | ',' :: r => (readItems? n (skipSpace r)).map (Prod.map (v :: ·) id)
      | _ => none

/-- Reads the members of an object that has some, with the closing brace. -/
def readMembers? : Nat → Text → Option (List (Text × Value) × Text)
  | 0, _ => none
  | n + 1, t =>
    match t with
    | '"' :: r =>
      match readString? r with
      | none => none
      | some (k, r) =>
        match skipSpace r with
        | ':' :: r =>
          match readValue? n (skipSpace r) with
          | none => none
          | some (v, r) =>
            match skipSpace r with
            | '}' :: r => some ([(k, v)], r)
            | ',' :: r => (readMembers? n (skipSpace r)).map (Prod.map ((k, v) :: ·) id)
            | _ => none
        | _ => none
    | _ => none

end

/-- Reads a text that is one value, with blanks around it. -/
def read? (t : Text) : Option Value :=
  match readValue? (2 * t.length + 2) (skipSpace t) with
  | some (v, r) => if skipSpace r = [] then some v else none
  | none => none

/-- Reads a text whose outermost value is an array or an object. The words `NaN`, `Infinity` and
`-Infinity` are numbers too, and of a repeated member name the last value counts. -/
def readContainer? (t : Text) : Option Value :=
  match read? t with
  | some (.list items) => some (.list items)
  | some (.map entries) => some (.map entries)
  | _ => none

end FindQuery.Json

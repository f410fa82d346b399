import FindQuery.Text.Basic

namespace FindQuery.Utf8

def encodeChar (c : Char) : List Nat :=
  let n := c.toNat
  if n < 0x80 then [n]
  else if n < 0x800 then [0xC0 + n / 0x40, 0x80 + n % 0x40]
  else if n < 0x10000 then [0xE0 + n / 0x1000, 0x80 + n / 0x40 % 0x40, 0x80 + n % 0x40]
  else [0xF0 + n / 0x40000, 0x80 + n / 0x1000 % 0x40, 0x80 + n / 0x40 % 0x40, 0x80 + n % 0x40]

inductive Piece where
  | octet (b : Nat)
  | plain (c : Char)
  deriving DecidableEq

/-- A character whose first octets have been read. -/
structure Pending where
  /-- The number of octets still to come, at least one. -/
  owed : Nat
  low : Nat
  high : Nat
  /-- The bits read so far. -/
  value : Nat
  deriving DecidableEq

/-- What stands for octets that encode nothing. -/
def replacement : Char := '\uFFFD'

/-- The output for a character's first octet, and what is pending after it. -/
def start (b : Nat) : Text × Option Pending :=
  if b < 0x80 then ([Char.ofNat b], none)
  else if 0xC2 ≤ b ∧ b ≤ 0xDF then ([], some ⟨1, 0x80, 0xBF, b - 0xC0⟩)
  else if b = 0xE0 then ([], some ⟨2, 0xA0, 0xBF, 0⟩)
  else if b = 0xED then ([], some ⟨2, 0x80, 0x9F, 0xD⟩)
  else if 0xE1 ≤ b ∧ b ≤ 0xEF then ([], some ⟨2, 0x80, 0xBF, b - 0xE0⟩)
  else if b = 0xF0 then ([], some ⟨3, 0x90, 0xBF, 0⟩)
  else if 0xF1 ≤ b ∧ b ≤ 0xF3 then ([], some ⟨3, 0x80, 0xBF, b - 0xF0⟩)
  else if b = 0xF4 then ([], some ⟨3, 0x80, 0x8F, 4⟩)
  else ([replacement], none)

/-- Takes an octet that continues the pending character. -/
def Pending.continued (p : Pending) (b : Nat) : Text × Option Pending :=
  let value := p.value * 0x40 + (b - 0x80)
  if p.owed = 1 then ([Char.ofNat value], none)
  else ([], some ⟨p.owed - 1, 0x80, 0xBF, value⟩)

/-- Takes one piece. -/
def step : Option Pending → Piece → Text × Option Pending
  | none, .octet b => start b
  | none, .plain c => ([c], none)
  | some p, .octet b =>
    if p.low ≤ b ∧ b ≤ p.high then p.continued b
    else
      let next := start b
      (replacement :: next.1, next.2)
  | some _, .plain c => ([replacement, c], none)

/-- Decodes all pieces; a character still pending at the end is replaced. -/
def decodeFrom : Option Pending → List Piece → Text
  | none, [] => []
  | some _, [] => [replacement]
  | state, p :: ps =>
    let next := step state p
    next.1 ++ decodeFrom next.2 ps

def decode (ps : List Piece) : Text := decodeFrom none ps

end FindQuery.Utf8

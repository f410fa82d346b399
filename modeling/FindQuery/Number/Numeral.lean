import FindQuery.Number.Binary64
import FindQuery.Text.Basic
import FindQuery.Text.Digit

namespace FindQuery

/-- A written number, taken apart. Digits are given by their values, the first one leading. -/
structure Numeral where
  negative : Bool
  whole : List Nat
  /-- The digits after the point, if there is a point. -/
  fraction : Option (List Nat)
  /-- The sign and the digits of the exponent, if there is one. -/
  exponent : Option (Bool × List Nat)
  deriving DecidableEq

namespace Numeral

/-- The number that digits denote in base ten. -/
def ofDigits (ds : List Nat) : Nat := ds.foldl (fun n d => 10 * n + d) 0

def signed (negative : Bool) (n : Nat) : Int := if negative then -(n : Int) else n

def readDigits : Text → List Nat × Text
  | [] => ([], [])
  | c :: r =>
    match Text.digitValue? c with
    | some d =>
      let rest := readDigits r
      (d :: rest.1, rest.2)
    | none => ([], c :: r)

/-- Reads an optional sign; `true` stands for minus. -/
def readSign : Text → Bool × Text
  | '-' :: r => (true, r)
  | '+' :: r => (false, r)
  | r => (false, r)

/-- Reads a point and the digits after it, if a point comes next. -/
def readFraction : Text → Option (List Nat) × Text
  | '.' :: r =>
    let rest := readDigits r
    (some rest.1, rest.2)
  | r => (none, r)

/-- Reads the exponent that fills the whole rest of a numeral, or nothing at its end. -/
def readExponent? : Text → Option (Option (Bool × List Nat))
  | [] => some none
  | c :: r =>
    if c = 'e' ∨ c = 'E' then
      let sign := readSign r
      match readDigits sign.2 with
      | (d :: ds, []) => some (some (sign.1, d :: ds))
      | _ => none
    else none

/-- Reads a text that is a numeral from its first to its last character. -/
def ofExactText? (t : Text) : Option Numeral :=
  let sign := readSign t
  let whole := readDigits sign.2
  let fraction := readFraction whole.2
  if whole.1 = [] ∧ fraction.1.getD [] = [] then none
  else (readExponent? fraction.2).map fun e => ⟨sign.1, whole.1, fraction.1, e⟩

/-- Reads a numeral; one final newline is allowed. -/
def ofText? (t : Text) : Option Numeral := ofExactText? t.dropFinalNewline

/-- A numeral without point and exponent. -/
def isInteger (n : Numeral) : Bool := n.fraction.isNone && n.exponent.isNone

/-- The integer that the digits before the point denote. -/
def toInt (n : Numeral) : Int := signed n.negative (ofDigits n.whole)

/-- The floating-point number nearest to the numeral. -/
def toBinary64 (n : Numeral) : Binary64 :=
  let fraction := n.fraction.getD []
  let shift : Int := match n.exponent with
    | some (negative, ds) => signed negative (ofDigits ds)
    | none => 0
  Binary64.ofDecimal n.negative (ofDigits (n.whole ++ fraction)) (shift - fraction.length)

/-- The longest written integer that is converted, in digits. -/
def maxIntegerDigits : Nat := 4300

/-- The integer of an integer numeral, or the number of its digits if there are too many. -/
def toInt? (n : Numeral) : Except Nat Int :=
  if maxIntegerDigits < n.whole.length then .error n.whole.length else .ok n.toInt

theorem length_readDigits (t : Text) :
    (readDigits t).1.length + (readDigits t).2.length = t.length := by
  induction t with
  | nil => rfl
  | cons c r ih =>
    rw [readDigits]
    split
    · simp only [List.length_cons]
      omega
    · exact Nat.zero_add _

theorem length_readSign_le (t : Text) : (readSign t).2.length ≤ t.length := by
  unfold readSign
  split <;> simp

theorem length_whole_le {t : Text} {n : Numeral} (h : ofText? t = some n) :
    n.whole.length ≤ t.length := by
  simp only [ofText?, ofExactText?] at h
  split at h
  · cases h
  · obtain ⟨e, -, rfl⟩ := Option.map_eq_some_iff.1 h
    have hdigits := length_readDigits (readSign t.dropFinalNewline).2
    have hsign := length_readSign_le t.dropFinalNewline
    have hnewline := t.dropFinalNewline_sublist.length_le
    change (readDigits (readSign t.dropFinalNewline).2).1.length ≤ t.length
    omega

theorem lt_of_toInt?_error {n : Numeral} {count : Nat} (h : n.toInt? = .error count) :
    maxIntegerDigits < count ∧ n.whole.length = count := by
  rw [toInt?] at h
  split at h
  · cases h
    exact ⟨‹_›, rfl⟩
  · cases h

end Numeral

end FindQuery

namespace FindQuery

/-- A floating-point number, given by the 64 bits of its binary format. -/
structure Binary64 where
  bits : UInt64
  deriving DecidableEq, Inhabited

namespace Binary64

/-- The bit of the sign. -/
def signBit : Nat := 0x8000000000000000

/-- The place value of the exponent: the bits below it are those of the fraction. -/
def exponentBit : Nat := 0x10000000000000

/-- The bits of positive infinity; every smaller magnitude is finite. -/
def infinityBits : Nat := 0x7FF0000000000000

/-- The bits of the one number that stands for "not a number". -/
def nanBits : Nat := 0x7FF8000000000000

/-- The number with the given sign and the given bits of magnitude. -/
def ofMagnitude (negative : Bool) (magnitude : Nat) : Binary64 :=
  ⟨UInt64.ofNat (if negative then signBit + magnitude else magnitude)⟩

def infinity (negative : Bool) : Binary64 := ofMagnitude negative infinityBits

def nan : Binary64 := ofMagnitude false nanBits

def magnitude (x : Binary64) : Nat := x.bits.toNat % signBit

def negative (x : Binary64) : Bool := signBit ≤ x.bits.toNat

def isFinite (x : Binary64) : Bool := x.magnitude < infinityBits

def isNaN (x : Binary64) : Bool := infinityBits < x.magnitude

def isZero (x : Binary64) : Bool := x.magnitude = 0

/-- The integer `m` in the magnitude `m * 2 ^ q` of a finite number. -/
def mantissa (x : Binary64) : Nat :=
  if x.magnitude < exponentBit then x.magnitude
  else exponentBit + x.magnitude % exponentBit

/-- The exponent `q` in the magnitude `m * 2 ^ q` of a finite number. -/
def exponent (x : Binary64) : Int :=
  if x.magnitude < exponentBit then -1074 else (x.magnitude / exponentBit : Nat) - 1075

/-- The ratio `num / den` divided by `base ^ e`. -/
def scaleDown (base : Nat) (e : Int) (num den : Nat) : Nat × Nat :=
  if 0 ≤ e then (num, den * base.pow e.toNat) else (num * base.pow (-e).toNat, den)

/-- The integer nearest to `num / den`; of two equally near the even one. -/
def roundRatio (num den : Nat) : Nat :=
  let q := num / den
  let r := num % den
  if 2 * r < den then q
  else if den < 2 * r then q + 1
  else if q % 2 = 0 then q else q + 1

/-- The bits of the magnitude nearest to `num / den`. The ratio lies strictly between
`2 ^ (e - 1)` and `2 ^ (e + 1)`, so one of two units leaves a quotient of 53 bits; below the normal
range the unit is the least one. A quotient rounded up to `2 ^ 53` carries into the exponent. -/
def nearestRatio (num den : Nat) : Nat :=
  if num = 0 then 0
  else
    let e : Int := (num.log2 : Int) - den.log2
    let fine : Int := max (e - 53) (-1074)
    let trial := scaleDown 2 fine num den
    let unit : Int := if 2 * exponentBit ≤ trial.1 / trial.2 then fine + 1 else fine
    let scaled := scaleDown 2 unit num den
    min ((unit + 1074).toNat * exponentBit + roundRatio scaled.1 scaled.2) infinityBits

/-- The bits of the magnitude nearest to `digits * 10 ^ e`. The first two cases only keep the powers
small: they are above every finite number and below half of the least positive one. -/
def nearestDecimal (digits : Nat) (e : Int) : Nat :=
  if digits = 0 then 0
  else if 310 < e then infinityBits
  else if e + (digits.log2 + 1 : Nat) < -330 then 0
  else
    let ratio := scaleDown 10 (-e) digits 1
    nearestRatio ratio.1 ratio.2

/-- The number nearest to `± digits * 10 ^ e`; too large a magnitude gives infinity. -/
def ofDecimal (negative : Bool) (digits : Nat) (e : Int) : Binary64 :=
  ofMagnitude negative (nearestDecimal digits e)

end Binary64

end FindQuery

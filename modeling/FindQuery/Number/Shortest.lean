import FindQuery.Number.Binary64

namespace FindQuery.Binary64

/-- The least of three neighbouring exponents `k` with `num / den < 10 ^ k`, searched from the
binary size of the ratio. -/
def decimalPosition (num den : Nat) : Int :=
  let guess : Int := Int.fdiv (((num.log2 : Int) - den.log2 - 1) * 30103) 100000
  let below (k : Int) : Bool :=
    let scaled := scaleDown 10 k num den
    scaled.1 < scaled.2
  if below guess then guess else if below (guess + 1) then guess + 1 else guess + 2

/-- The nearest decimal with at most `precision` digits, in units of `10 ^ unit`, if it reads back
as the number with bits `target`. -/
def hit? (target num den precision : Nat) (position : Int) : Option (Nat × Int) :=
  let unit := position - precision
  let scaled := scaleDown 10 unit num den
  let low := scaled.1 / scaled.2
  let rest := scaled.1 % scaled.2
  let upFirst := scaled.2 < 2 * rest || (scaled.2 = 2 * rest && low % 2 = 1)
  let candidates := if upFirst then [low + 1, low] else [low, low + 1]
  (candidates.find? fun d => nearestDecimal d unit = target).map fun d => (d, unit)

/-- The digits and the decimal exponent of the shortest decimal for a finite positive magnitude. -/
def shortest (x : Binary64) : Nat × Int :=
  let ratio := scaleDown 2 (-x.exponent) x.mantissa 1
  let position := decimalPosition ratio.1 ratio.2
  ((List.range' 1 17).findSome? fun precision =>
    hit? x.magnitude ratio.1 ratio.2 precision position).getD (0, 0)

end FindQuery.Binary64

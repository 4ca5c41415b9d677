import Recordbook.Number.Decimal

/-!
# Arithmetic of decimals

Quotients, products and differences of decimals are exact as long as they have 28 digits, and are
rounded to 28 digits otherwise, a half going to the even neighbour. Exponents are bounded as well. A
result whose first digit stands too high is refused; one whose last digit would stand too low is
rounded there, and fades to zero in the end.

## Main definitions

* `Decimal.fit` — a result with the digits and the exponent that results may have
* `Decimal.divide`, `Decimal.multiply`, `Decimal.minusOne` — the operations
* `Decimal.truncate?`, `Decimal.ceiling?` — integers next to a decimal

## Implementation notes

No operation aligns the digits of two numbers that are far apart, so the cost of each is bounded by
the digits of its arguments and not by their exponents. What is left out beyond the last digit kept
is told by a flag, and there are always more digits at hand than a result has when it is set.
-/

namespace Recordbook

/-- Why an operation on decimals has no result. -/
inductive DecimalProblem
  /-- The operation has no value on these arguments. -/
  | invalid
  /-- The result is too large. -/
  | overflow
deriving DecidableEq, Repr

/-- The name of the problem. -/
def DecimalProblem.name : DecimalProblem → String
  | .invalid => "InvalidOperation"
  | .overflow => "Overflow"

namespace Decimal

/-- The most digits of a result. -/
def precision : Nat := 28

/-- The greatest exponent of the first digit of a result. -/
def topExponent : Int := 999999

/-- The least exponent of the last digit of a result. -/
def bottomExponent : Int := -1000026

/-- Whether the decimal has a minus sign. -/
def isNegative : Decimal → Bool
  | .finite s _ _ => s
  | .infinite s => s
  | .nan s _ _ => s

/-- A coefficient without so many digits at its end, rounded. The flag tells that the coefficient
is a little less than the number it stands for. -/
def dropDigits (coefficient : Nat) (more : Bool) (count : Nat) : Nat :=
  if digitCount coefficient < count then 0
  else
    let unit := 10 ^ count
    let q := coefficient / unit
    let r := coefficient % unit
    if 2 * r < unit then q
    else if unit < 2 * r ∨ more then q + 1
    else if q % 2 = 0 then q else q + 1

/-- A result with the digits and the exponent that results may have. -/
def fit (negative : Bool) (coefficient : Nat) (exponent : Int) (more : Bool) :
    Except DecimalProblem Decimal :=
  if coefficient = 0 then
    .ok (.finite negative 0 (max bottomExponent (min exponent topExponent)))
  else
    let surplus : Int := digitCount coefficient - precision
    let count := (max surplus (bottomExponent - exponent)).toNat
    let rounded := dropDigits coefficient more count
    let carried := rounded = 10 ^ precision
    let c := if carried then 10 ^ (precision - 1) else rounded
    let e := exponent + count + (if carried then 1 else 0)
    if c ≠ 0 ∧ topExponent < e + digitCount c - 1 then .error .overflow
    else .ok (.finite negative c e)

/-- The quotient of two decimals, the second of which is not zero. -/
def divide : Decimal → Decimal → Except DecimalProblem Decimal
  | .nan _ true _, _ => .error .invalid
  | _, .nan _ true _ => .error .invalid
  | .nan s false note, _ => .ok (.nan s false note)
  | _, .nan s false note => .ok (.nan s false note)
  | .infinite _, .infinite _ => .error .invalid
  | .infinite s, y => .ok (.infinite (s != y.isNegative))
  | x, .infinite t => .ok (.finite (x.isNegative != t) 0 bottomExponent)
  | .finite s c e, .finite t d f =>
    if d = 0 then .error .invalid
    else
      let places := digitCount d + precision + 2 - digitCount c
      let n := c * 10 ^ places
      fit (s != t) (n / d) (e - f - places) (n % d ≠ 0)

/-- The product of two decimals. -/
def multiply : Decimal → Decimal → Except DecimalProblem Decimal
  | .nan _ true _, _ => .error .invalid
  | _, .nan _ true _ => .error .invalid
  | .nan s false note, _ => .ok (.nan s false note)
  | _, .nan s false note => .ok (.nan s false note)
  | .infinite s, y => if y.isZero then .error .invalid else .ok (.infinite (s != y.isNegative))
  | x, .infinite t => if x.isZero then .error .invalid else .ok (.infinite (x.isNegative != t))
  | .finite s c e, .finite t d f => fit (s != t) (c * d) (e + f) false

/-- A decimal that is not below one, less one. Of a large one only as many digits are written out
as a result can show. -/
def minusOne : Decimal → Except DecimalProblem Decimal
  | .nan _ true _ => .error .invalid
  | .finite s c e =>
    if 0 < e then
      let places := min e.toNat (2 * precision)
      let rest := e - places
      let n := c * 10 ^ places
      if rest = 0 then fit s (n - 1) 0 false else fit s (n - 1) rest true
    else
      let one := 10 ^ (-e).toNat
      fit (s || decide (c < one)) (if c < one then one - c else c - one) e false
  | x => .ok x

/-- Whether a number is below one. -/
def isBelowOne : Decimal → Bool
  | .finite s c e => s || c = 0 || e + digitCount c < 1
  | .infinite s => s
  | .nan .. => false

/-- The greatest exponent of a decimal that can be written out as an integer. -/
def roomExponent : Int := 10000000

/-- The whole part of a size, and whether something is left. -/
def wholePart (coefficient : Nat) (exponent : Int) : Nat × Bool :=
  if 0 ≤ exponent then (coefficient * 10 ^ exponent.toNat, false)
  else if (digitCount coefficient : Int) ≤ -exponent then (0, coefficient ≠ 0)
  else
    let unit := 10 ^ (-exponent).toNat
    (coefficient / unit, coefficient % unit ≠ 0)

/-- A finite decimal cut to an integer, toward zero, if there is room for it. -/
def truncate? : Decimal → Option Int
  | .finite s c e =>
    if roomExponent < e then none
    else
      let n : Int := (wholePart c e).1
      some (if s then -n else n)
  | _ => none

/-- The least integer not below a finite decimal, if there is room for it. -/
def ceiling? : Decimal → Option Int
  | .finite s c e =>
    if roomExponent < e then none
    else
      let part := wholePart c e
      let n : Int := part.1
      some (if s then -n else if part.2 then n + 1 else n)
  | _ => none

/-- Whether a finite decimal has a fractional part. -/
def hasFraction : Decimal → Bool
  | .finite _ c e => e < 0 && (wholePart c e).2
  | _ => false

end Decimal

end Recordbook

import Recordbook.Number.Rounding

/-!
# Binary fractions of 53 bits

The floating-point numbers in which amounts are stored and page counts are computed: the interchange
format with a significand of 53 bits, exponents from -1074 to 971, two zeros, two infinities and one
not-a-number.

## Implementation notes

A number is kept decoded, as a sign, a mantissa and an exponent, and every operation is the exact
rational operation followed by `Binary64.ofRat`. Nothing here rests on the machine's own arithmetic,
so that every result can be reasoned about. A mantissa has exactly 53 bits, or fewer with the
least exponent; `ofRat` produces only such pairs, so structural equality is equality of numbers
with the two zeros told apart.
-/

namespace Recordbook

/-- A floating-point number with a significand of 53 bits. -/
inductive Binary64
  /-- The result of an operation without a value. -/
  | nan
  /-- Beyond the greatest finite number. -/
  | infinite (negative : Bool)
  /-- The number `± mantissa * 2 ^ exponent`. -/
  | finite (negative : Bool) (mantissa : Nat) (exponent : Int)
deriving DecidableEq, Inhabited

namespace Binary64

/-- The least exponent. -/
def minExponent : Int := -1074

/-- The greatest exponent of a mantissa of 53 bits. -/
def maxExponent : Int := 971

/-- The exponent of the last bit of the numbers that surround a positive quotient. -/
def lastBit (num den : Nat) : Int := max minExponent (floorLog2 num den - 52)

/-- The positive quotient `num / den` rounded to a mantissa and its exponent. -/
def roundPositive (num den : Nat) : Nat × Int :=
  let e := lastBit num den
  let scaled := scaleTwo num den (-e)
  let m := roundHalfEven scaled.1 scaled.2
  if m = 2 ^ 53 then (2 ^ 52, e + 1) else (m, e)

/-- The number nearest to a quotient with a sign, a half going to the even mantissa. The sign also
tells the two zeros apart. -/
def ofQuotient (negative : Bool) (num den : Nat) : Binary64 :=
  if num = 0 then .finite negative 0 minExponent
  else
    let r := roundPositive num den
    if maxExponent < r.2 then .infinite negative else .finite negative r.1 r.2

/-- The number nearest to a rational. -/
def ofRat (x : Rat) : Binary64 := ofQuotient (x.num < 0) x.num.natAbs x.den

/-- The number nearest to an integer. -/
def ofInt (n : Int) : Binary64 := ofQuotient (n < 0) n.natAbs 1

/-- The exact value of a finite number. -/
def toRat? : Binary64 → Option Rat
  | .finite negative m e =>
    let scaled := scaleTwo m 1 e
    let x := mkRat scaled.1 scaled.2
    some (if negative then -x else x)
  | _ => none

/-- Whether the number is a zero of either sign. -/
def isZero : Binary64 → Bool
  | .finite _ 0 _ => true
  | _ => false

/-- The number with the other sign. -/
def neg : Binary64 → Binary64
  | .nan => .nan
  | .infinite s => .infinite (!s)
  | .finite s m e => .finite (!s) m e

/-- The sign bit; not-a-number has none. -/
def isNegative : Binary64 → Bool
  | .nan => false
  | .infinite s => s
  | .finite s _ _ => s

/-- The rounded sum. -/
def add : Binary64 → Binary64 → Binary64
  | .nan, _ => .nan
  | _, .nan => .nan
  | .infinite s, .infinite t => if s = t then .infinite s else .nan
  | .infinite s, _ => .infinite s
  | _, .infinite t => .infinite t
  | x@(.finite s _ _), y@(.finite t _ _) =>
    let sum := x.toRat?.getD 0 + y.toRat?.getD 0
    if sum = 0 then .finite (s && t) 0 minExponent else ofRat sum

/-- The rounded difference. -/
def sub (x y : Binary64) : Binary64 := x.add y.neg

/-- The rounded product. -/
def mul : Binary64 → Binary64 → Binary64
  | .nan, _ => .nan
  | _, .nan => .nan
  | .infinite s, y => if y.isZero then .nan else .infinite (s != y.isNegative)
  | x, .infinite t => if x.isZero then .nan else .infinite (x.isNegative != t)
  | x@(.finite s _ _), y@(.finite t _ _) =>
    let product := x.toRat?.getD 0 * y.toRat?.getD 0
    ofQuotient (s != t) product.num.natAbs product.den

/-- The rounded quotient by a number that is not zero. -/
def div : Binary64 → Binary64 → Binary64
  | .nan, _ => .nan
  | _, .nan => .nan
  | .infinite s, y => match y with
    | .infinite _ => .nan
    | _ => .infinite (s != y.isNegative)
  | x, .infinite t => .finite (x.isNegative != t) 0 minExponent
  | x@(.finite s _ _), y@(.finite t _ _) =>
    let quotient := x.toRat?.getD 0 / y.toRat?.getD 0
    ofQuotient (s != t) quotient.num.natAbs quotient.den

/-- How two numbers compare; not-a-number compares with nothing. -/
def compare? : Binary64 → Binary64 → Option Ordering
  | .nan, _ => none
  | _, .nan => none
  | .infinite s, .infinite t =>
    some (if s = t then .eq else if s then .lt else .gt)
  | .infinite s, .finite .. => some (if s then .lt else .gt)
  | .finite .., .infinite t => some (if t then .gt else .lt)
  | x@(.finite ..), y@(.finite ..) =>
    let a := x.toRat?.getD 0
    let b := y.toRat?.getD 0
    some (if a < b then .lt else if a = b then .eq else .gt)

/-- The number cut to an integer, toward zero. -/
def truncate? (x : Binary64) : Option Int :=
  x.toRat?.map fun q => q.num.tdiv q.den

/-- The least integer not below the number. -/
def ceil? (x : Binary64) : Option Int := x.toRat?.map Rat.ceil

/-- Two places after the point, a half going to the even neighbour: the hundredths. -/
def hundredths (mantissa : Nat) (exponent : Int) : Nat :=
  let scaled := scaleTwo (mantissa * 100) 1 exponent
  roundHalfEven scaled.1 scaled.2

end Binary64

end Recordbook

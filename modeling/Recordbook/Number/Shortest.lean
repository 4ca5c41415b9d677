import Recordbook.Number.Binary64

/-!
# Decimal digits of a binary fraction

Two choices of digits. `Binary64.shortest` takes the fewest that read back as the same number, and
of those the nearest; `Binary64.significant` takes a given count, correctly rounded. How the digits
are laid out (point, exponent) is said once, in `DigitLayout`.

## Implementation notes

The reals that round to a number form an interval around it, with its ends included exactly when
the mantissa is even. If a decimal grid has a point in the interval, then so is one of the number's
two neighbours on that grid, so for each count of digits only those two are tried. Seventeen digits
always suffice.
-/

namespace Recordbook

/-- Digits and the power of ten of the last one: `digits * 10 ^ exponent`. -/
structure DecimalDigits where
  /-- The digits, read as one natural number. -/
  digits : Nat
  /-- The power of ten of the last digit. -/
  exponent : Int
deriving DecidableEq

namespace DecimalDigits

/-- Drop zeros at the end; the fuel is the number of digits. -/
def dropZeros : Nat → DecimalDigits → DecimalDigits
  | 0, d => d
  | fuel + 1, d =>
    if d.digits ≠ 0 ∧ d.digits % 10 = 0 then dropZeros fuel ⟨d.digits / 10, d.exponent + 1⟩ else d

/-- The same number without zeros at the end. -/
def stripped (d : DecimalDigits) : DecimalDigits := dropZeros (digitCount d.digits) d

end DecimalDigits

namespace Binary64

/-- The two ends of the interval of reals that round to `m * 2 ^ e`, over a common denominator:
lower numerator, upper numerator, denominator. -/
def roundingInterval (m : Nat) (e : Int) : Nat × Nat × Nat :=
  let lowerGap := if m = 2 ^ 52 ∧ minExponent < e then 1 else 2
  let one := scaleTwo 1 4 e
  ((4 * m - lowerGap) * one.1, (4 * m + 2) * one.1, one.2)

/-- The point of the grid of step `10 ^ k` that is nearest to `m * 2 ^ e` among its two neighbours
that round to it, if one does. -/
def gridPoint? (m : Nat) (e k : Int) : Option Nat :=
  let interval := roundingInterval m e
  let exact := scaleTwo m 1 e
  let scaled := scaleTen exact.1 exact.2 (-k)
  let low := scaled.1 / scaled.2
  let inside (d : Nat) : Bool :=
    let point := scaleTen d 1 k
    let onLower := interval.1 * point.2
    let onUpper := interval.2.1 * point.2
    let here := point.1 * interval.2.2
    if m % 2 = 0 then onLower ≤ here ∧ here ≤ onUpper else onLower < here ∧ here < onUpper
  match inside low && low ≠ 0, inside (low + 1) with
  | true, true =>
    let r := scaled.1 % scaled.2
    some (if 2 * r < scaled.2 then low
      else if scaled.2 < 2 * r then low + 1
      else if low % 2 = 0 then low else low + 1)
  | true, false => some low
  | false, true => some (low + 1)
  | false, false => none

/-- The first count of digits from `n` on, `fuel` of them at most, whose grid has a point. -/
def searchDigits (m : Nat) (e top : Int) : Nat → Nat → DecimalDigits
  | 0, _ => ⟨m, 0⟩
  | fuel + 1, n =>
    let k := top - n + 1
    match gridPoint? m e k with
    | some d => ⟨d, k⟩
    | none => searchDigits m e top fuel (n + 1)

/-- The fewest digits that read back as the positive number `m * 2 ^ e`, and of those the nearest.
-/
def shortest (m : Nat) (e : Int) : DecimalDigits :=
  let exact := scaleTwo m 1 e
  (searchDigits m e (floorLog10 exact.1 exact.2) 18 1).stripped

/-- The positive number `m * 2 ^ e` to `count` significant digits, a half going to the even one. -/
def significant (count : Nat) (m : Nat) (e : Int) : DecimalDigits :=
  let exact := scaleTwo m 1 e
  let k := floorLog10 exact.1 exact.2 - count + 1
  let scaled := scaleTen exact.1 exact.2 (-k)
  DecimalDigits.stripped ⟨roundHalfEven scaled.1 scaled.2, k⟩

end Binary64

/-- How digits are written with a point and, where the number is too large or too small, with an
exponent. -/
structure DigitLayout where
  /-- The point is written, without an exponent, up to this many places after the first digit. -/
  positionalUpTo : Int
  /-- Whether a single digit before an exponent still has `.0` after it. -/
  pointBeforeExponent : Bool
  /-- The texts of not-a-number and of infinity. -/
  nanText : String
  /-- The text of infinity. -/
  infinityText : String

namespace DigitLayout

/-- Numbers as they are printed: positional below `10 ^ 16`. -/
def printed : DigitLayout := ⟨16, false, "nan", "inf"⟩

/-- Numbers as a text column keeps them: positional below `10 ^ 15`. -/
def stored : DigitLayout := ⟨15, true, "NaN", "Inf"⟩

/-- The exponent with its sign and at least two digits. -/
def exponentText (e : Int) : String :=
  let digits := toString e.natAbs
  (if e < 0 then "e-" else "e+") ++ (if digits.length < 2 then "0" ++ digits else digits)

/-- A positive number's digits, laid out. -/
def write (l : DigitLayout) (d : DecimalDigits) : String :=
  let text := (toString d.digits).toList
  let count := text.length
  let point : Int := count + d.exponent
  if point ≤ -4 ∨ l.positionalUpTo < point then
    let fraction := text.drop 1
    let mantissa := text.take 1 ++
      (if fraction.isEmpty then (if l.pointBeforeExponent then ['.', '0'] else [])
        else '.' :: fraction)
    String.ofList mantissa ++ exponentText (point - 1)
  else if point ≤ 0 then
    String.ofList (['0', '.'] ++ List.replicate (-point).toNat '0' ++ text)
  else if (count : Int) ≤ point then
    String.ofList (text ++ List.replicate (point - count).toNat '0' ++ ['.', '0'])
  else
    String.ofList (text.take point.toNat ++ '.' :: text.drop point.toNat)

end DigitLayout

namespace Binary64

/-- The text of a number, with the digits chosen by `choose` for a positive one. -/
def text (l : DigitLayout) (choose : Nat → Int → DecimalDigits) : Binary64 → String
  | .nan => l.nanText
  | .infinite s => (if s then "-" else "") ++ l.infinityText
  | .finite s m e =>
    (if s then "-" else "") ++ (if m = 0 then "0.0" else l.write (choose m e))

/-- The shortest text that reads back as the number. -/
def shortestText : Binary64 → String := text .printed shortest

/-- The text that a text column keeps of a number: fifteen significant digits. -/
def storedText (x : Binary64) : String :=
  if x.isZero then "0.0" else text .stored (significant 15) x

end Binary64

end Recordbook

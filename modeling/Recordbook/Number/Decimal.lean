import Recordbook.Number.Shortest
import Recordbook.Text.Digit

/-!
# Decimal numbers

Decimals as they are written: a sign, a coefficient and an exponent, so that `1.50` and `1.5` are
two decimals with one value. Beside them stand the two readers of numbers from text that the stored
columns use, and the two-place amounts in which balances are shown.

## Main definitions

* `Decimal.text`, `Decimal.ofText?` — the written form and its reader
* `Decimal.ofAmount` — the two-place decimal that a stored balance is shown as
* `readBinary64?`, `readWhole` — numbers written as text, with digits of any script
-/

namespace Recordbook

/-- A decimal number. -/
inductive Decimal
  /-- The number `± coefficient * 10 ^ exponent`. -/
  | finite (negative : Bool) (coefficient : Nat) (exponent : Int)
  /-- An infinity. -/
  | infinite (negative : Bool)
  /-- Not a number, with a note of digits; a signaling one may not be compared or converted. -/
  | nan (negative : Bool) (signaling : Bool) (note : Nat)
deriving DecidableEq, Inhabited

namespace Decimal

/-- The exact value of a finite decimal. -/
def toRat? : Decimal → Option Rat
  | .finite s c e =>
    let scaled := scaleTen c 1 e
    let x := mkRat scaled.1 scaled.2
    some (if s then -x else x)
  | _ => none

/-- Whether the decimal is a zero, of any sign and exponent. -/
def isZero : Decimal → Bool
  | .finite _ 0 _ => true
  | _ => false

/-- The written form. An exponent is used only if digits would otherwise have to be made up after
the last one, or more than six zeros before the first. -/
def text : Decimal → String
  | .nan s signaling note =>
    (if s then "-" else "") ++ (if signaling then "sNaN" else "NaN") ++
      (if note = 0 then "" else toString note)
  | .infinite s => (if s then "-" else "") ++ "Infinity"
  | .finite s c e =>
    let digits := (toString c).toList
    let count : Int := digits.length
    let left := e + count
    let point := if e ≤ 0 ∧ -6 < left then left else 1
    let body :=
      if point ≤ 0 then ['0', '.'] ++ List.replicate (-point).toNat '0' ++ digits
      else if count ≤ point then digits ++ List.replicate (point - count).toNat '0'
      else digits.take point.toNat ++ '.' :: digits.drop point.toNat
    let exponent :=
      if left = point then ""
      else "E" ++ (if 0 ≤ left - point then "+" else "-") ++ toString (left - point).natAbs
    (if s then "-" else "") ++ String.ofList body ++ exponent

/-- The decimal of two places that shows a stored amount. -/
def ofAmount : Binary64 → Decimal
  | .nan => .nan false false 0
  | .infinite s => .infinite s
  | .finite s m e => .finite s (Binary64.hundredths m e) (-2)

/-- The nearest binary fraction. Decimals far beyond the greatest one, or far below the least, are
told by their exponents alone. -/
def toBinary64 : Decimal → Binary64
  | .nan .. => .nan
  | .infinite s => .infinite s
  | .finite s c e =>
    let top := e + digitCount c
    if c = 0 ∨ top < -400 then .finite s 0 Binary64.minExponent
    else if 400 < top then .infinite s
    else
      let scaled := scaleTen c 1 e
      Binary64.ofQuotient s scaled.1 scaled.2

end Decimal

/-! ### Reading numbers -/

/-- Raw data as text, if all of it is ASCII. -/
def asciiText? (bs : List UInt8) : Option String :=
  if bs.all (· < 128) then some (String.ofList (bs.map fun b => Char.ofNat b.toNat)) else none

/-- A sign, if there is one, and the rest. -/
def readSign : List Char → Bool × List Char
  | '-' :: cs => (true, cs)
  | '+' :: cs => (false, cs)
  | cs => (false, cs)

/-- Digits of any script, single underscores allowed between two of them: the values read and the
rest of the text. The flag says that an underscore may come next. -/
def readDigits (between : Bool) : List Char → List Nat × List Char
  | [] => ([], [])
  | c :: cs =>
    match Text.digitValue? c with
    | some d => let r := readDigits true cs; (d :: r.1, r.2)
    | none =>
      if between ∧ c = '_' then
        match cs with
        | d :: _ => if (Text.digitValue? d).isSome then readDigits false cs else ([], c :: cs)
        | [] => ([], c :: cs)
      else ([], c :: cs)

/-- The number that digits, first one highest, stand for. -/
def digitsValue (ds : List Nat) : Nat := ds.foldl (fun n d => 10 * n + d) 0

/-- An exponent part, if the text starts with one that has digits. -/
def readExponent (cs : List Char) : Int × List Char :=
  match cs with
  | e :: rest =>
    if e = 'e' ∨ e = 'E' then
      let sign := readSign rest
      let ds := readDigits false sign.2
      if ds.1.isEmpty then (0, cs)
      else
        let n : Int := digitsValue ds.1
        (if sign.1 then -n else n, ds.2)
    else (0, cs)
  | [] => (0, [])

/-- A whole text as sign, coefficient and exponent, if it is a decimal number without blanks. -/
def readDecimalParts? (cs : List Char) : Option (Bool × Nat × Int) :=
  let sign := readSign cs
  let whole := readDigits false sign.2
  let fraction := match whole.2 with
    | '.' :: rest => readDigits false rest
    | rest => ([], rest)
  let exponent := readExponent fraction.2
  if (whole.1.isEmpty ∧ fraction.1.isEmpty) ∨ ¬ exponent.2.isEmpty then none
  else some (sign.1, digitsValue (whole.1 ++ fraction.1), exponent.1 - fraction.1.length)

/-- A text in lower-case ASCII letters. -/
def asciiLower (cs : List Char) : String := String.ofList (cs.map Char.toLower)

/-- A decimal from its written form. -/
def Decimal.ofText? (s : String) : Option Decimal :=
  let sign := readSign s.toList
  let word := sign.2.takeWhile fun c => !c.isDigit
  let note := sign.2.drop word.length
  let ofNan (signaling : Bool) : Option Decimal :=
    if note.all Char.isDigit then some (.nan sign.1 signaling (digitsValue (readDigits false note).1))
    else none
  match asciiLower word with
  | "infinity" => some (.infinite sign.1)
  | "inf" => some (.infinite sign.1)
  | "nan" => ofNan false
  | "snan" => ofNan true
  | _ => (readDecimalParts? s.toList).map fun p => .finite p.1 p.2.1 p.2.2

/-- A binary fraction from text: blanks around it are passed over, and the names of infinity and
not-a-number are read in any case. -/
def readBinary64? (s : String) : Option Binary64 :=
  let cs := Text.trimBlanks s.toList
  let sign := readSign cs
  match asciiLower sign.2 with
  | "infinity" => some (.infinite sign.1)
  | "inf" => some (.infinite sign.1)
  | "nan" => some .nan
  | _ => (readDecimalParts? cs).map fun p => (Decimal.finite p.1 p.2.1 p.2.2).toBinary64

/-- The most digits that an integer is read from or written with. -/
def digitLimit : Nat := 4300

/-- What a text holds where an integer is wanted. -/
inductive WholeReading
  /-- An integer. -/
  | whole (n : Int)
  /-- More digits than an integer is read from, and what follows them. -/
  | tooLong (digits : Nat) (rest : List Char)
  /-- No integer. -/
  | unreadable

/-- An integer from text: blanks around it are passed over. Too many digits are noticed before
anything that follows them, other than an underscore. -/
def readWhole (s : String) : WholeReading :=
  let sign := readSign (Text.trimBlanks s.toList)
  let ds := readDigits false sign.2
  if ds.1.isEmpty ∨ ds.2.head? = some '_' then .unreadable
  else if digitLimit < ds.1.length then .tooLong ds.1.length ds.2
  else if ¬ ds.2.isEmpty then .unreadable
  else
    let n : Int := digitsValue ds.1
    .whole (if sign.1 then -n else n)

end Recordbook

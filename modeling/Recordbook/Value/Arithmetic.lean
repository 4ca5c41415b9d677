import Recordbook.Value.Shape

/-!
# Arithmetic on values

The few operations that page numbers go through: one less, a product, a quotient, a ceiling, an
integer. Integers are exact, binary fractions are rounded to 53 bits, decimals to 28 digits, and
binary fractions and decimals do not mix.
-/

namespace Recordbook

/-- A number of one of the three kinds. -/
inductive Number
  /-- An integer. -/
  | whole (n : Int)
  /-- A binary fraction. -/
  | binary (x : Binary64)
  /-- A decimal. -/
  | decimal (d : Decimal)

/-- A product: a number, or a sequence repeated. What is repeated is kept with the count. -/
inductive Product
  /-- A number. -/
  | number (n : Number)
  /-- A text, so many times. -/
  | text (s : String) (count : Nat)
  /-- Raw data, so many times. -/
  | data (bs : List UInt8) (count : Nat)
  /-- A sequence of another kind. -/
  | sequence (kind : String)

/-- The number that a value is. -/
def Value.number? : Value → Option Number
  | .bool b => some (.whole (if b then 1 else 0))
  | .int n => some (.whole n)
  | .float x => some (.binary x)
  | .decimal d => some (.decimal d)
  | _ => none

namespace Number

/-- The name of the kind of number. -/
def kindName : Number → String
  | .whole _ => "int"
  | .binary _ => "float"
  | _ => "decimal.Decimal"

/-- An integer as a binary fraction. -/
def toBinary (n : Int) : Except Misuse Binary64 :=
  match Binary64.ofInt n with
  | .infinite _ => .error .wholeTooLarge
  | x => .ok x

/-- A number as a decimal, if it is one or an integer. -/
def decimal? : Number → Option Decimal
  | .whole n => some (.finite (n < 0) n.natAbs 0)
  | .decimal d => some d
  | .binary _ => none

/-- The result of an operation on decimals. -/
def ofDecimal (r : Except DecimalProblem Decimal) : Except Misuse Number :=
  match r with
  | .ok d => .ok (.decimal d)
  | .error p => .error (.noDecimalResult p)

/-- The quotient of two integers, as the nearest binary fraction. -/
def wholeQuotient (a b : Int) : Except Misuse Binary64 :=
  match Binary64.ofQuotient (decide (a < 0) != decide (b < 0)) a.natAbs b.natAbs with
  | .infinite _ => .error .quotientTooLarge
  | x => .ok x

/-- The quotient of two values, the second of which is not zero. -/
def quotient (a b : Value) : Except Misuse Number :=
  let mismatch : Except Misuse Number := .error (.operands "/" a.longKindName b.longKindName)
  match a.number?, b.number? with
  | some (.whole m), some (.whole n) => (wholeQuotient m n).map .binary
  | some (.whole m), some (.binary y) => (toBinary m).map fun x => .binary (x.div y)
  | some (.binary x), some (.whole n) => (toBinary n).map fun y => .binary (x.div y)
  | some (.binary x), some (.binary y) => .ok (.binary (x.div y))
  | some x, some y => match x.decimal?, y.decimal? with
    | some d, some e => ofDecimal (d.divide e)
    | _, _ => mismatch
  | _, _ => mismatch

/-- A number that is not below one, less one. -/
def minusOne : Number → Except Misuse Number
  | .whole n => .ok (.whole (n - 1))
  | .binary x => .ok (.binary (x.sub (Binary64.ofInt 1)))
  | .decimal d => ofDecimal d.minusOne

/-- The most octets that a repeated sequence may take. -/
def room : Nat := 2 ^ 36

/-- How often a sequence of a length is repeated, for a number that is the count. The size of the
whole has to be countable, and it has to fit the room. -/
def repeats (a : Number) (length itemSize : Nat) (uncounted : Misuse) : Except Misuse Nat :=
  match a with
  | .whole n =>
    if 2 ^ 63 ≤ n then .error .uncountable
    else if 2 ^ 63 ≤ n.toNat * length then .error uncounted
    else if room < n.toNat * length * itemSize then .error .noRoom
    else .ok n.toNat
  | a => .error (.repetition a.kindName)

/-- The product of a number and a value. -/
def times (a : Number) (b : Value) : Except Misuse Product :=
  let mismatch : Except Misuse Product := .error (.operands "*" a.kindName b.longKindName)
  match a, b.number? with
  | .whole m, some (.whole n) => .ok (.number (.whole (m * n)))
  | .whole m, some (.binary y) => (toBinary m).map fun x => .number (.binary (x.mul y))
  | .binary x, some (.whole n) => (toBinary n).map fun y => .number (.binary (x.mul y))
  | .binary x, some (.binary y) => .ok (.number (.binary (x.mul y)))
  | x, some y => match x.decimal?, y.decimal? with
    | some d, some e => (ofDecimal (d.multiply e)).map .number
    | _, _ => mismatch
  | x, none => match b with
    | .str s => (repeats x s.length 1 (.repeatedTooLong "string is")).map (.text s)
    | .bytes bs => (repeats x bs.length 1 (.repeatedTooLong "bytes are")).map (.data bs)
    | .list xs => (repeats x xs.length 8 .noRoom).map fun _ => .sequence "list"
    | .tuple xs => (repeats x xs.length 8 .noRoom).map fun _ => .sequence "tuple"
    | _ => mismatch

/-- A decimal as the integer that `read` finds next to it. -/
def wholeOfDecimal (read : Decimal → Option Int) : Decimal → Except Misuse Int
  | .nan .. => .error (.wholeOfNan "NaN")
  | .infinite _ => .error (.wholeOfInfinity "Infinity")
  | d => match read d with
    | some n => .ok n
    | none => .error .noRoom

/-- A binary fraction as the integer that `read` finds next to it. -/
def wholeOfBinary (read : Binary64 → Option Int) : Binary64 → Except Misuse Int
  | .nan => .error (.wholeOfNan "float NaN")
  | x => match read x with
    | some n => .ok n
    | none => .error (.wholeOfInfinity "float infinity")

/-- The least integer not below a number. -/
def ceiling : Number → Except Misuse Int
  | .whole n => .ok n
  | .binary x => wholeOfBinary Binary64.ceil? x
  | .decimal d => wholeOfDecimal Decimal.ceiling? d

/-- A number cut to an integer, toward zero. -/
def truncate : Number → Except Misuse Int
  | .whole n => .ok n
  | .binary x => wholeOfBinary Binary64.truncate? x
  | .decimal d => wholeOfDecimal Decimal.truncate? d

/-- The number itself if it is at least one, and one otherwise. -/
def atLeastOne (v : Value) : Except Misuse Number :=
  match v.number? with
  | some (.whole n) => .ok (.whole (max n 1))
  | some (.binary x) => .ok (if Binary64.compare? x (Binary64.ofInt 1) = some .lt then .whole 1
      else .binary x)
  | some (.decimal (.nan ..)) => .error (.noDecimalResult .invalid)
  | some (.decimal d) => .ok (if d.isBelowOne then .whole 1 else .decimal d)
  | none => .error (.unordered "int" v.longKindName)

end Number

namespace Product

/-- What integers are read from. -/
def wholeReader : String := "int() argument must be a string, a bytes-like object or a real number"

/-- A shown text that is no integer, as far as messages repeat it. -/
def unreadable (shown : String) : Misuse :=
  .notAWholeText (String.ofList (shown.toList.take 200))

/-- How many copies of a repeated sequence tell how the whole of it reads: copies that hold digits
only have too many of them by then, and a report ends earlier. -/
def copiesRead (count : Nat) : Nat := min count (digitLimit + 1)

/-- A number of copies. -/
def copies {β : Type} (count : Nat) (items : List β) : List β :=
  (List.replicate (copiesRead count) items).flatten

/-- The integer that was read from the copies of a text. Digits up to the end are counted over all
copies. -/
def ofReading (count : Nat) (shown : String) : WholeReading → Except Misuse Int
  | .whole n => .ok n
  | .tooLong digits rest => .error (.tooManyDigits digitLimit
      (if rest.isEmpty then digits / copiesRead count * count else digits))
  | .unreadable => .error (unreadable shown)

/-- A product as an integer: numbers are cut, texts are read. -/
def toWhole : Product → Except Misuse Int
  | .number n => n.truncate
  | .text s count =>
    let read := String.ofList (copies count s.toList)
    ofReading count (Text.quote read) (readWhole read)
  | .data bs count =>
    let read := copies count bs
    ofReading count (Text.quoteBytes read) (((asciiText? read).map readWhole).getD .unreadable)
  | .sequence kind => .error (.notANumber wholeReader kind)

/-- A value as a product of itself alone. -/
def ofValue? : Value → Option Product
  | .str s => some (.text s 1)
  | .bytes bs => some (.data bs 1)
  | v => v.number?.map .number

end Product

/-- A value as an integer: numbers are cut, texts are read. -/
def Value.toWhole (v : Value) : Except Misuse Int :=
  match Product.ofValue? v with
  | some p => p.toWhole
  | none => .error (.notANumber Product.wholeReader v.longKindName)

end Recordbook

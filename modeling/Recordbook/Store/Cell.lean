import Recordbook.Schema
import Recordbook.Value.Basic

/-!
# Cells

What a column of a record holds, and how it compares with what a query looks for.

The store has three classes of comparable things: numbers come before all texts, and texts before
all raw data. A key and a time are kept as texts of a fixed form, a truth value as 0 or 1. Before a
comparison the operand is adapted to the column: beside a text, a number is its text; beside a
number, a text that reads as a number is that number.

Nothing compares with an empty cell.

## Main definitions

* `Cell`, `Datum` — what is kept, and what it is compared with
* `Cell.compare?` — the comparison
* `Cell.order` — the order in which cells are sorted, empty ones first
-/

namespace Recordbook

/-- What a column of a record holds. -/
inductive Cell
  /-- Nothing. -/
  | empty
  /-- A key. -/
  | key (u : Uuid)
  /-- A text. -/
  | text (s : String)
  /-- Raw data, in a column for texts. -/
  | data (bs : List UInt8)
  /-- A truth value. -/
  | flag (b : Bool)
  /-- A time. -/
  | moment (t : Timestamp)
  /-- An amount. -/
  | amount (x : Binary64)
deriving DecidableEq, Inhabited

/-- What is handed to the store: in a comparison, or to be kept. -/
inductive Datum
  /-- Nothing. -/
  | null
  /-- An integer of 64 bits. -/
  | whole (n : Int)
  /-- A binary fraction that is a number. -/
  | real (x : Binary64)
  /-- A text. -/
  | text (s : String)
  /-- Raw data. -/
  | data (bs : List UInt8)
  /-- A key. -/
  | key (u : Uuid)
  /-- A time. -/
  | moment (t : Timestamp)
deriving DecidableEq, Inhabited

/-- A number as far as it is compared: exact, or an infinity. -/
inductive Magnitude
  /-- Less than every number. -/
  | below
  /-- A number. -/
  | exact (q : Rat)
  /-- Greater than every number. -/
  | above
deriving DecidableEq

/-- What is compared, by class. -/
inductive Comparand
  /-- A number. -/
  | number (m : Magnitude)
  /-- A text. -/
  | text (s : String)
  /-- Raw data. -/
  | data (bs : List UInt8)
deriving DecidableEq

namespace Magnitude

/-- The order of numbers. -/
def compare : Magnitude → Magnitude → Ordering
  | .below, .below => .eq
  | .below, _ => .lt
  | .above, .above => .eq
  | .above, _ => .gt
  | .exact _, .below => .gt
  | .exact _, .above => .lt
  | .exact p, .exact q => if p < q then .lt else if p = q then .eq else .gt

/-- The magnitude of a binary fraction that is a number. -/
def ofBinary (x : Binary64) : Magnitude :=
  match x with
  | .infinite true => .below
  | .infinite false => .above
  | x => .exact (x.toRat?.getD 0)

end Magnitude

namespace Comparand

/-- The order of raw data, byte by byte. -/
def compareData : List UInt8 → List UInt8 → Ordering
  | [], [] => .eq
  | [], _ => .lt
  | _, [] => .gt
  | a :: as, b :: bs => if a < b then .lt else if a = b then compareData as bs else .gt

/-- Numbers, then texts by code points, then raw data. -/
def compare : Comparand → Comparand → Ordering
  | .number a, .number b => a.compare b
  | .number _, _ => .lt
  | .text _, .number _ => .gt
  | .text s, .text t => if s < t then .lt else if s = t then .eq else .gt
  | .text _, .data _ => .lt
  | .data a, .data b => compareData a b
  | .data _, _ => .gt

end Comparand

/-! ### Texts that read as numbers -/

/-- A blank that may stand around a number in a text. -/
def isNumberBlank (c : Char) : Bool := [' ', '\t', '\n', '\x0b', '\x0c', '\r'].contains c

/-- A character that a number in a text may consist of. -/
def isNumberChar (c : Char) : Bool := c.isDigit || ['+', '-', '.', 'e', 'E'].contains c

/-- The number that a text reads as, if it does: an integer of 64 bits exactly, any other number as
the nearest binary fraction. -/
def Magnitude.ofText? (s : String) : Option Magnitude :=
  let cs := ((s.toList.dropWhile isNumberBlank).reverse.dropWhile isNumberBlank).reverse
  if cs.all isNumberChar then
    (readDecimalParts? cs).map fun parts =>
      let whole := !cs.any fun c => c = '.' || c = 'e' || c = 'E'
      let signed : Int := if parts.1 then -(parts.2.1 : Int) else parts.2.1
      if whole ∧ -(2 ^ 63) ≤ signed ∧ signed < 2 ^ 63 then .exact signed
      else ofBinary (Decimal.finite parts.1 parts.2.1 parts.2.2).toBinary64
  else none

/-! ### Comparison -/

namespace Datum

/-- A binary fraction for the store; not-a-number is nothing. -/
def ofBinary : Binary64 → Datum
  | .nan => .null
  | x => .real x

/-- The text of an operand, if it is not raw data. -/
def text? : Datum → Option String
  | .null => none
  | .whole n => some (toString n)
  | .real x => some x.storedText
  | .text s => some s
  | .data _ => none
  | .key u => some u.compactText
  | .moment t => some t.storedText

/-- An operand beside a text. -/
def besideText (d : Datum) : Option Comparand :=
  match d with
  | .data bs => some (.data bs)
  | d => d.text?.map .text

/-- An operand beside a column of numbers, truth values or times. -/
def besideNumber (d : Datum) : Option Comparand :=
  match d with
  | .null => none
  | .whole n => some (.number (.exact n))
  | .real x => some (.number (Magnitude.ofBinary x))
  | .data bs => some (.data bs)
  | d => d.text?.map fun s => match Magnitude.ofText? s with
    | some m => .number m
    | none => .text s

end Datum

namespace Cell

/-- Whether the cell is empty. -/
def isEmpty : Cell → Bool
  | .empty => true
  | _ => false

/-- What is compared of a cell. -/
def comparand : Cell → Option Comparand
  | .empty => none
  | .key u => some (.text u.compactText)
  | .text s => some (.text s)
  | .data bs => some (.data bs)
  | .flag b => some (.number (.exact (if b then 1 else 0)))
  | .moment t => some (.text t.storedText)
  | .amount x => some (.number (Magnitude.ofBinary x))

/-- Whether the cell belongs to a column of texts. -/
def isTextual : Cell → Bool
  | .key _ => true
  | .text _ => true
  | .data _ => true
  | _ => false

/-- How a cell compares with an operand; nothing if either is nothing. Keys are compared as numbers
and times by their order, which is how their texts compare. -/
def compare? (c : Cell) (d : Datum) : Option Ordering :=
  match c, d with
  | .key u, .key v => some (compare u.val v.val)
  | .moment s, .moment t => some (compare s.key t.key)
  | c, d =>
    let operand := if c.isTextual then d.besideText else d.besideNumber
    c.comparand.bind fun a => operand.map fun b => a.compare b

/-- The order in which cells of a column are sorted: empty ones come first. -/
def order (a b : Cell) : Ordering :=
  match a, b with
  | .key u, .key v => compare u.val v.val
  | .moment s, .moment t => compare s.key t.key
  | a, b => match a.comparand, b.comparand with
    | none, none => .eq
    | none, some _ => .lt
    | some _, none => .gt
    | some x, some y => x.compare y

/-- The value read from a cell: times without an offset, amounts as decimals of two places. -/
def value : Cell → Value
  | .empty => .null
  | .key u => .uuid u
  | .text s => .str s
  | .data bs => .bytes bs
  | .flag b => .bool b
  | .moment t => .datetime ⟨t, none⟩
  | .amount x => .decimal (Decimal.ofAmount x)

/-- The cell in which a column of a kind keeps a datum. A text column keeps numbers as their texts,
and a zero amount has no sign. -/
def ofDatum (k : ColumnKind) (d : Datum) : Cell :=
  match k, d with
  | .uuid, .key u => .key u
  | .text _, .data bs => .data bs
  | .text _, d => (d.text?.map Cell.text).getD .empty
  | .flag, .whole n => .flag (n ≠ 0)
  | .moment, .moment t => .moment t
  | .money, .real x => .amount (if x.isZero then .finite false 0 Binary64.minExponent else x)
  | _, _ => .empty

@[simp] theorem compare?_empty (d : Datum) : compare? .empty d = none := by
  cases d <;> rfl

@[simp] theorem compare?_null (c : Cell) : compare? c .null = none := by
  cases c <;> simp [compare?, isTextual, Datum.besideText, Datum.besideNumber, Datum.text?]

end Cell

end Recordbook

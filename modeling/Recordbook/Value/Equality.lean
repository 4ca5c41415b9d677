import Recordbook.Value.Basic

/-!
# Equality of values

Numbers are equal when they stand for the same number, whatever their kind: the truth value true,
the integer 1, the fraction 1.0 and the decimal 1.00 are one key of a mapping. Mappings are equal
when they have equal entries in any order. Two unknown objects are never taken to be equal.
-/

namespace Recordbook

/-- What a number stands for. -/
inductive Quantity
  /-- No number. -/
  | nan
  /-- An infinity. -/
  | infinite (negative : Bool)
  /-- An exact number. -/
  | exact (x : Rat)
  /-- A number with so many zeros before or behind its digits that only decimals are such. -/
  | remote (negative : Bool) (digits : DecimalDigits)
deriving DecidableEq

namespace Value

/-- The greatest power of ten, either way, that the last digit other than zero of a number has which
is no decimal. -/
def nearExponent : Nat := 5000

/-- What a decimal stands for. -/
def decimalQuantity : Decimal → Quantity
  | .nan .. => .nan
  | .infinite s => .infinite s
  | .finite s c e =>
    let digits := DecimalDigits.stripped ⟨c, e⟩
    if c = 0 then .exact 0
    else if nearExponent < digits.exponent.natAbs then .remote s digits
    else .exact (((Decimal.finite s c e).toRat?).getD 0)

/-- What a numeric value stands for. -/
def quantity? : Value → Option Quantity
  | .bool b => some (.exact (if b then 1 else 0))
  | .int n => some (.exact n)
  | .float x => match x with
    | .nan => some .nan
    | .infinite s => some (.infinite s)
    | .finite .. => some (.exact (x.toRat?.getD 0))
  | .decimal d => some (decimalQuantity d)
  | _ => none

/-- Whether a value is a decimal that must not be compared with numbers. -/
def isSignaling : Value → Bool
  | .decimal (.nan _ signaling _) => signaling
  | _ => false

/-- Whether two numeric values are equal; not-a-number is equal to nothing. -/
def sameQuantity (a b : Value) : Bool :=
  match a.quantity?, b.quantity? with
  | some .nan, _ => false
  | some x, some y => x = y
  | _, _ => false

mutual

/-- Whether two values are equal. -/
def same : Value → Value → Bool
  | .null, .null => true
  | .str s, .str t => s = t
  | .uuid u, .uuid v => u = v
  | .date d, .date e => d = e
  | .datetime t, .datetime u => t.same u
  | .bytes b, .bytes c => b = c
  | .list xs, .list ys => sameItems xs ys
  | .tuple xs, .tuple ys => sameItems xs ys
  | .map es, .map fs => es.length = fs.length && withinEntries es fs
  | .model fs es, .model gs es' => fs = gs && es.length = es'.length && withinEntries es es'
  | a, b => sameQuantity a b
termination_by structural x => x

/-- Whether two sequences are equal, item by item. -/
def sameItems : List Value → List Value → Bool
  | [], [] => true
  | x :: xs, y :: ys => same x y && sameItems xs ys
  | _, _ => false
termination_by structural x => x

/-- Whether each of some entries has an equal one among others. -/
def withinEntries : List (Value × Value) → List (Value × Value) → Bool
  | [], _ => true
  | (k, v) :: es, fs => (fs.any fun f => same k f.1 && same v f.2) && withinEntries es fs
termination_by structural x => x

end

@[simp] theorem same_str (s t : String) : same (.str s) (.str t) = decide (s = t) := by
  simp [same]

end Value

end Recordbook

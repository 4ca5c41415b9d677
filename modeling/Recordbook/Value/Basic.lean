import Recordbook.Calendar
import Recordbook.Number.Decimal
import Recordbook.Uuid

/-!
# Values

What callers hand in and get back: filters, orders, includes, payloads, identifiers and results are
all built from one type of dynamic values. Mappings keep the order in which their entries were
inserted, because that order is the precedence of an ordering and the order of every answer.

A specification may refer back to a mapping around it. Such a reference is the constructor
`Value.up`, so that a cyclic specification is still a finite value.

## Implementation notes

`Value` is nested through lists of values and lists of pairs. Functions on it come in mutual groups,
one member for a value, one for a list and one for the entries of a mapping, all by structural
recursion.
-/

namespace Recordbook

/-- A dynamic value. -/
inductive Value
  /-- The absent value. -/
  | null
  /-- A truth value. It is also the number 0 or 1 wherever a number is wanted. -/
  | bool (b : Bool)
  /-- An integer of any size. -/
  | int (n : Int)
  /-- A binary fraction. -/
  | float (x : Binary64)
  /-- A text. -/
  | str (s : String)
  /-- A list. -/
  | list (items : List Value)
  /-- A fixed sequence. -/
  | tuple (items : List Value)
  /-- A mapping, in order of insertion. -/
  | map (entries : List (Value × Value))
  /-- A decimal. -/
  | decimal (d : Decimal)
  /-- A key. -/
  | uuid (u : Uuid)
  /-- A time. -/
  | datetime (t : DateTime)
  /-- A day. -/
  | date (d : Date)
  /-- Raw data. -/
  | bytes (bs : List UInt8)
  /-- Something of which nothing is known. -/
  | object
  /-- A payload with declared fields, of which some were given; the given ones are in order of
  declaration, each named by a text. -/
  | model (fields : List String) (given : List (Value × Value))
  /-- A reference to a mapping around this value: 1 is the nearest one. -/
  | up (levels : Nat)
deriving Inhabited

/-- The entries of a mapping. -/
abbrev Entries := List (Value × Value)

namespace Value

/-- Whether a condition takes the value as true: everything but null, zeros and empty containers. -/
def isTruthy : Value → Bool
  | .null => false
  | .bool b => b
  | .int n => n ≠ 0
  | .float x => !x.isZero
  | .str s => !s.isEmpty
  | .list items => !items.isEmpty
  | .tuple items => !items.isEmpty
  | .map entries => !entries.isEmpty
  | .decimal d => !d.isZero
  | .bytes bs => !bs.isEmpty
  | _ => true

/-- Whether the value is the given text. -/
def isText (name : String) : Value → Bool
  | .str s => s = name
  | _ => false

/-- Whether the value is a text. -/
def isString : Value → Bool
  | .str _ => true
  | _ => false

/-- Whether the value is null. -/
def isNull : Value → Bool
  | .null => true
  | _ => false

/-- Whether the value is a mapping. -/
def isMap : Value → Bool
  | .map _ => true
  | _ => false

/-- The name of the value's kind, as messages about specifications give it. -/
def kindName : Value → String
  | .null => "NoneType"
  | .bool _ => "bool"
  | .int _ => "int"
  | .float _ => "float"
  | .str _ => "str"
  | .list _ => "list"
  | .tuple _ => "tuple"
  | .map _ => "dict"
  | .decimal _ => "Decimal"
  | .uuid _ => "UUID"
  | .datetime _ => "datetime"
  | .date _ => "date"
  | .bytes _ => "bytes"
  | .object => "Opaque"
  | .model .. => "Model"
  | .up _ => "dict"

/-- The name of the value's kind, as messages about operations on it give it. -/
def longKindName : Value → String
  | .decimal _ => "decimal.Decimal"
  | .datetime _ => "datetime.datetime"
  | .date _ => "datetime.date"
  | v => v.kindName

@[simp] theorem isTruthy_null : isTruthy .null = false := rfl

@[simp] theorem isText_str (name s : String) : isText name (.str s) = decide (s = name) := rfl

theorem eq_str_of_isText {name : String} {v : Value} (h : v.isText name = true) :
    v = .str name := by
  cases v <;> simp_all [isText]

theorem isText_iff {name : String} {v : Value} : v.isText name = true ↔ v = .str name :=
  ⟨eq_str_of_isText, fun h => by simp [h]⟩

end Value

end Recordbook

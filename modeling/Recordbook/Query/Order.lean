import Recordbook.Failure
import Recordbook.Text.Case

/-!
# Orders

An order maps names to directions; the first name counts most. A direction is descending when its
text says so in any case, and ascending whatever else it says. A value that cannot be written is no
direction.
-/

namespace Recordbook

/-- A direction of sorting. -/
inductive Direction
  /-- Least first. -/
  | ascending
  /-- Greatest first. -/
  | descending
deriving DecidableEq, Repr

namespace Direction

/-- The written form. -/
def label : Direction → String
  | .ascending => "asc"
  | .descending => "desc"

/-- The direction that a text asks for. -/
def ofText (text : String) : Direction :=
  if Text.lower text = "desc" then .descending else .ascending

/-- The direction that a value asks for. -/
def ofValue (v : Value) : Except Misuse Direction := (Misuse.written v.text?).map ofText

end Direction

/-- Names with their directions, the most significant first. -/
abbrev OrderTerms := List (Value × Direction)

namespace Order

/-- The terms of an order. -/
def compile (order : Entries) : Except Misuse OrderTerms :=
  order.mapM fun e => (Direction.ofValue e.2).map fun direction => (e.1, direction)

@[simp] theorem compile_nil : compile [] = .ok [] := rfl

/-- Terms as a list of mappings of one entry each. -/
def toValue (terms : OrderTerms) : Value :=
  .list (terms.map fun t => .map [(t.1, .str t.2.label)])

end Order

end Recordbook

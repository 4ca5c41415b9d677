import Recordbook.Page
import Recordbook.Query.Access
import Recordbook.Store.Loading

/-!
# Selecting records

A compiled query becomes a statement against one kind of records once all its names are resolved:
criteria, sort keys and a load plan. Running it on a store yields the records that meet the
criteria, sorted; records that the sort keys do not distinguish come in the order of their keys.
Where only one record is wanted, it is the one that the store comes upon first.
-/

namespace Recordbook

/-- A statement that selects records of one kind. -/
structure Select where
  /-- The kind of records. -/
  entity : Entity
  /-- What they have to meet. -/
  criteria : List (Criterion Operand)
  /-- How they are sorted, the most significant key first. -/
  sortKeys : List (Field × Direction)
  /-- What is loaded of them. -/
  plan : LoadPlan

namespace Select

/-- The sort keys of the terms of an order. -/
def resolveTerms (e : Entity) (terms : OrderTerms) : Except Failure (List (Field × Direction)) :=
  terms.mapM fun t => (e.columnOf t.1).map fun c => (c.field, t.2)

/-- The statement of a compiled query. -/
def build (e : Entity) (q : CompiledQuery) : Except Failure Select := do
  let criteria ← Criteria.resolve e q.filter
  let sortKeys ← resolveTerms e q.order
  let plan ← LoadPlan.resolve e q.tree
  return ⟨e, criteria, sortKeys, plan⟩

/-- The order of two records by one sort key. -/
def compareBy (key : Field × Direction) (a b : Row) : Ordering :=
  match key.2 with
  | .ascending => (a.cell key.1).order (b.cell key.1)
  | .descending => (b.cell key.1).order (a.cell key.1)

/-- The order of two records by some sort keys, each of which counts only where those before it are
equal. -/
def compareByAll : List (Field × Direction) → Row → Row → Ordering
  | [], _, _ => .eq
  | key :: keys, a, b => (compareBy key a b).then (compareByAll keys a b)

/-- Whether one record may come before another. -/
def mayPrecede (keys : List (Field × Direction)) (a b : Row) : Bool := (compareByAll keys a b).isLE

/-- The records of a kind that meet criteria, in the order of their keys. -/
def matching (s : Store) (e : Entity) (criteria : List (Criterion Datum)) : List Row :=
  (s.scan e).filter fun row => Criteria.hold s row criteria

/-- The records of a kind that meet criteria, sorted. -/
def rows (s : Store) (e : Entity) (criteria : List (Criterion Datum))
    (keys : List (Field × Direction)) : List Row :=
  (matching s e criteria).mergeSort (mayPrecede keys)

/-- All records that a statement selects. -/
def run (st : Select) (s : Store) : Except Failure (List Row) := do
  let criteria ← Criteria.bind st.criteria
  return rows s st.entity criteria st.sortKeys

/-- The records of a kind that meet criteria, in the order in which the store comes upon them. -/
def encountered (s : Store) (e : Entity) (criteria : List (Criterion Datum)) : List Row :=
  ((s.rows e).filter fun row => Criteria.hold s row criteria).mergeSort
    (mayPrecede ((Access.path e criteria).map fun f => (f, .ascending)))

/-- The one record that a statement without sort keys selects, if it selects any. -/
def runFirst (st : Select) (s : Store) : Except Failure (Option Row) := do
  let criteria ← Criteria.bind st.criteria
  return (encountered s st.entity criteria).head?

/-- The records of a window of those that a statement selects. The numbers of the window are bound
after the operands of the criteria. -/
def runWindow (st : Select) (s : Store) (w : Page.Window) : Except Failure (List Row) := do
  let criteria ← Criteria.bind st.criteria
  if w.fits then return w.slice (rows s st.entity criteria st.sortKeys)
  else throw (.store .wholeTooLarge)

/-- How many records of a kind meet criteria. -/
def count (s : Store) (e : Entity) (criteria : List (Criterion Operand)) : Except Failure Nat := do
  let bound ← Criteria.bind criteria
  return (matching s e bound).length

/-- How many records a statement selects, as the length of what it selects. -/
def total (st : Select) (s : Store) : Except Failure Nat := do
  let found ← st.run s
  return found.length

/-- Selected records with everything that is loaded of them. -/
def present (st : Select) (s : Store) (found : List Row) : List Loaded :=
  LoadPlan.present s st.entity st.plan found

theorem rows_perm (s : Store) (e : Entity) (criteria : List (Criterion Datum))
    (keys : List (Field × Direction)) : (rows s e criteria keys).Perm (matching s e criteria) :=
  List.mergeSort_perm _ _

theorem mem_matching {s : Store} {e : Entity} {criteria : List (Criterion Datum)} {row : Row} :
    row ∈ matching s e criteria ↔ row ∈ s.rows e ∧ Criteria.hold s row criteria = true := by
  simp [matching, Store.mem_scan]

theorem mem_encountered {s : Store} {e : Entity} {criteria : List (Criterion Datum)} {row : Row} :
    row ∈ encountered s e criteria ↔ row ∈ s.rows e ∧ Criteria.hold s row criteria = true := by
  simp [encountered]

end Select

end Recordbook

import Recordbook.Failure
import Recordbook.Store.Table

/-!
# Constraints

A table is sound when no column that must be filled is empty, and no two of its records agree on a
unique key. Every write goes through the functions here, which refuse what would break that and
otherwise keep the table sound.

Columns that must be filled are looked at first, in order of declaration; then the unique keys, in
order of declaration; the primary key comes last. Empty cells never agree.
-/

namespace Recordbook

namespace Store

/-- The first column that must be filled and is not. -/
def unfilled? (e : Entity) (row : Row) : Option Field :=
  (e.columns.find? fun c => !c.nullable && (row.cell c.field).isEmpty).map (·.field)

/-- The unique keys of a table, the primary one last. -/
def allKeys (e : Entity) : List (List Field) := e.uniqueKeys ++ [[.id]]

/-- Whether two records agree on a key. -/
def agree (key : List Field) (a b : Row) : Bool :=
  key.all fun f => !(a.cell f).isEmpty && a.cell f = b.cell f

/-- The first unique key on which a record agrees with one of the others. -/
def clash? (e : Entity) (others : List Row) (row : Row) : Option (List Field) :=
  (allKeys e).find? fun key => others.any fun other => agree key row other

/-- The constraint that a record would break beside the others of its table, if there is one. -/
def violation? (e : Entity) (others : List Row) (row : Row) : Option Violation :=
  match unfilled? e row with
  | some f => some (.notNull e f)
  | none => (clash? e others row).map (.unique e)

/-- The store with a new record. -/
def insert (s : Store) (e : Entity) (row : Row) : Except Violation Store :=
  match violation? e (s.rows e) row with
  | some v => .error v
  | none => .ok (s.setRows e (s.rows e ++ [row]))

/-- The records of a table other than the given one. -/
def others (s : Store) (e : Entity) (row : Row) : List Row :=
  (s.rows e).filter fun r => !r.sameId row

/-- The store with a record replaced. -/
def replace (s : Store) (e : Entity) (old new : Row) : Except Violation Store :=
  match violation? e (s.others e old) new with
  | some v => .error v
  | none => .ok (s.setRows e ((s.rows e).map fun r => if r.sameId old then new else r))

/-- Whether the column of a table may be empty. -/
def mayBeEmpty (e : Entity) (f : Field) : Bool :=
  (e.columns.find? fun c => c.field = f).any (·.nullable)

/-- Whether a record refers to another along a collection of the other. -/
def refersTo (r : Relation) (row dependent : Row) : Bool :=
  !(row.cell r.near).isEmpty && dependent.cell r.remote = row.cell r.near

/-- The store after the dependents of a record along one of its relations were dealt with. -/
def release (row : Row) (s : Store) (r : Relation) : Except Violation Store :=
  if r.many then
    let table := s.rows r.target
    match r.policy with
    | .remove => .ok (s.setRows r.target (table.filter fun d => !refersTo r row d))
    | .detach =>
      if table.any (refersTo r row) && !mayBeEmpty r.target r.remote then
        .error (.notNull r.target r.remote)
      else .ok (s.setRows r.target
        (table.map fun d => if refersTo r row d then d.set r.remote .empty else d))
  else .ok s

/-- The store without a record, its dependents removed or detached. -/
def remove (s : Store) (e : Entity) (row : Row) : Except Violation Store := do
  let released ← e.relations.foldlM (release row) s
  return released.setRows e (released.others e row)

theorem violation?_eq_none_iff {e : Entity} {others : List Row} {row : Row} :
    violation? e others row = none ↔ unfilled? e row = none ∧ clash? e others row = none := by
  unfold violation?
  cases unfilled? e row <;> simp

end Store

end Recordbook

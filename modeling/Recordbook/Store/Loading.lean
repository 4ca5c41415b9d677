import Recordbook.Schema.Lookup
import Recordbook.Store.Table

/-!
# Loading along relations

An include tree, resolved against the relations and columns of a kind of records, is a load plan: of
each record either all columns and some relations, or a few columns.

A record that is reached several times in one answer is one record. What is shown of it is all that
was loaded of it on any of the ways to it, and its key is always shown.

## Main definitions

* `LoadPlan.resolve` — the plan of an include tree
* `LoadPlan.present` — a record with everything that a plan loads
-/

namespace Recordbook

/-- What to load of a record. -/
inductive LoadPlan
  /-- All columns, and the records of some relations by their own plans. -/
  | whole (branches : List (Relation × LoadPlan))
  /-- Some columns. -/
  | columns (fields : List Field)

/-- A record as it is shown: its columns with their values, and its relations, each with the records
found; the flag says whether it is a collection. -/
inductive Loaded
  /-- A record of a kind. -/
  | record (entity : Entity) (columns : List (Field × Value))
      (relations : List (String × Bool × List Loaded))

instance : Inhabited Loaded := ⟨.record default [] []⟩

namespace LoadPlan

/-! ### Resolving -/

/-- The columns that a projection lists. -/
def projection (e : Entity) (listed : Value) : Except Failure (List Field) :=
  match listed.items with
  | .error m => .error (.misuse m)
  | .ok names => names.mapM fun name => (e.columnOf name).map (·.field)

mutual

/-- The plans of the entries of an include tree. -/
def resolveEntries (e : Entity) : List (Value × Value) → Except Failure (List (Relation × LoadPlan))
  | [] => .ok []
  | (name, spec) :: rest => do
    let r ← e.relationOf name
    let plan ← resolveSpec r.target spec
    let others ← resolveEntries e rest
    return (r, plan) :: others
termination_by structural x => x

/-- The plan of what stands under a relation. -/
def resolveSpec (e : Entity) : Value → Except Failure LoadPlan
  | .map entries =>
    match Entries.get? entries "select" with
    | some listed => (projection e listed).map .columns
    | none =>
      if Entries.has entries "include" then (resolveUnder e entries).map .whole
      else (resolveEntries e entries).map .whole
  | _ => .ok (.whole [])
termination_by structural x => x

/-- The plans of the tree that stands under `include` in a mapping. -/
def resolveUnder (e : Entity) : List (Value × Value) → Except Failure (List (Relation × LoadPlan))
  | [] => .ok []
  | (name, spec) :: rest => if name.isText "include" then resolveTree e spec else resolveUnder e rest
termination_by structural x => x

/-- The plans of an include tree. -/
def resolveTree (e : Entity) : Value → Except Failure (List (Relation × LoadPlan))
  | .map entries => resolveEntries e entries
  | v => .error (.misuse (v.callProblem "items"))
termination_by structural x => x

end

/-- The plan of a whole include, of the records that a query returns. -/
def resolve (e : Entity) (tree : Option Entries) : Except Failure LoadPlan :=
  (resolveEntries e (tree.getD [])).map .whole

/-! ### Loading -/

/-- That some columns of a record were loaded, or all of them. -/
structure Load where
  /-- The kind of record. -/
  entity : Entity
  /-- Its key. -/
  key : Cell
  /-- The columns; none means all of them. -/
  fields : Option (List Field)

/-- The records on the other side of a relation, in the order of their keys. -/
def others (s : Store) (r : Relation) (row : Row) : List Row :=
  let found := (s.related r row).mergeSort Store.idLe
  if r.many then found else found.take 1

mutual

/-- What a plan loads, starting from a record. -/
def loads (s : Store) (e : Entity) (row : Row) : LoadPlan → List Load
  | .whole branches => ⟨e, row.id, none⟩ :: loadsAlong s row branches
  | .columns fields => [⟨e, row.id, some fields⟩]
termination_by structural x => x

/-- What the plans of some relations load, starting from a record. -/
def loadsAlong (s : Store) (row : Row) : List (Relation × LoadPlan) → List Load
  | [] => []
  | (r, plan) :: rest =>
    ((others s r row).flatMap fun other => loads s r.target other plan) ++ loadsAlong s row rest
termination_by structural x => x

end

/-- Whether a column of a record was loaded; the key always is. -/
def isLoaded (all : List Load) (e : Entity) (key : Cell) (f : Field) : Bool :=
  f = .id || all.any fun l => l.entity = e && l.key = key &&
    (match l.fields with
      | none => true
      | some fields => fields.contains f)

/-- The loaded columns of a record with their values. -/
def shownColumns (all : List Load) (e : Entity) (row : Row) : List (Field × Value) :=
  (e.columns.map (·.field)).filterMap fun f =>
    if isLoaded all e row.id f then some (f, row.value f) else none

mutual

/-- A record as a plan shows it, given all that was loaded. -/
def view (s : Store) (all : List Load) (e : Entity) (row : Row) : LoadPlan → Loaded
  | .whole branches => .record e (shownColumns all e row) (viewAlong s all row branches)
  | .columns _ => .record e (shownColumns all e row) []
termination_by structural x => x

/-- The relations of a record as their plans show them. -/
def viewAlong (s : Store) (all : List Load) (row : Row) :
    List (Relation × LoadPlan) → List (String × Bool × List Loaded)
  | [] => []
  | (r, plan) :: rest =>
    (r.name, r.many, (others s r row).map fun other => view s all r.target other plan) ::
      viewAlong s all row rest
termination_by structural x => x

end

/-- Records with everything that a plan loads of them. -/
def present (s : Store) (e : Entity) (plan : LoadPlan) (rows : List Row) : List Loaded :=
  let all := rows.flatMap fun row => plan.loads s e row
  rows.map fun row => plan.view s all e row

/-- A record with all its columns and no relations. -/
def plain (e : Entity) (row : Row) : Loaded :=
  .record e (e.columns.map fun c => (c.field, row.value c.field)) []

end LoadPlan

end Recordbook

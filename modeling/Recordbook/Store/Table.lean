import Recordbook.Store.Cell

/-!
# Records and tables

A record gives a cell to every column name; names that are no columns of its kind hold nothing. The
store is one list of records for each kind. Equality of records is equality of all cells, and a
record is known by the key in its `id` cell.
-/

namespace Recordbook

/-- A record. -/
@[ext]
structure Row where
  /-- The cell under a name. -/
  cell : Field → Cell

instance : Inhabited Row := ⟨⟨fun _ => .empty⟩⟩

namespace Row

/-- The record without any cell. -/
def blank : Row := ⟨fun _ => .empty⟩

/-- A record with one cell replaced. -/
def set (r : Row) (f : Field) (c : Cell) : Row := ⟨fun g => if g = f then c else r.cell g⟩

/-- A record with some cells replaced, one after another. -/
def setAll (r : Row) (cells : List (Field × Cell)) : Row :=
  cells.foldl (fun r e => r.set e.1 e.2) r

/-- The record of the given cells. -/
def ofCells (cells : List (Field × Cell)) : Row := blank.setAll cells

/-- The cell with the key. -/
def id (r : Row) : Cell := r.cell .id

/-- Whether two records have the same key. -/
def sameId (r s : Row) : Bool := r.id = s.id

/-- The value read under a name. -/
def value (r : Row) (f : Field) : Value := (r.cell f).value

@[simp] theorem cell_set_self (r : Row) (f : Field) (c : Cell) : (r.set f c).cell f = c := by
  simp [set]

@[simp] theorem cell_set_of_ne {f g : Field} (r : Row) (c : Cell) (h : g ≠ f) :
    (r.set f c).cell g = r.cell g := by simp [set, h]

end Row

/-- The records of all tables. -/
@[ext]
structure Store where
  /-- The records of a kind. -/
  rows : Entity → List Row

namespace Store

/-- The store without records. -/
def empty : Store := ⟨fun _ => []⟩

instance : Inhabited Store := ⟨empty⟩

/-- The store with one table replaced. -/
def setRows (s : Store) (e : Entity) (rows : List Row) : Store :=
  ⟨fun f => if f = e then rows else s.rows f⟩

/-- Whether one record comes before another, or they have the same key. -/
def idLe (a b : Row) : Bool := (a.id.order b.id).isLE

/-- The records of a kind in the order of their keys. -/
def scan (s : Store) (e : Entity) : List Row := (s.rows e).mergeSort idLe

/-- The records on the other side of a relation. -/
def related (s : Store) (r : Relation) (row : Row) : List Row :=
  if (row.cell r.near).isEmpty then []
  else (s.rows r.target).filter fun other => other.cell r.remote = row.cell r.near

@[simp] theorem rows_setRows_self (s : Store) (e : Entity) (rows : List Row) :
    (s.setRows e rows).rows e = rows := by simp [setRows]

@[simp] theorem rows_setRows_of_ne {e f : Entity} (s : Store) (rows : List Row) (h : f ≠ e) :
    (s.setRows e rows).rows f = s.rows f := by simp [setRows, h]

theorem scan_perm (s : Store) (e : Entity) : (s.scan e).Perm (s.rows e) :=
  List.mergeSort_perm _ _

theorem mem_scan {s : Store} {e : Entity} {r : Row} : r ∈ s.scan e ↔ r ∈ s.rows e :=
  (scan_perm s e).mem_iff

end Store

end Recordbook

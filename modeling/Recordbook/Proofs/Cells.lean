import Recordbook.Proofs.Invariant
import Recordbook.Sample

/-!
# What is kept in columns

A cell gets into a column in one of three ways: a value is bound by the rule of the column, the
default of the column is filled in, or the column is set to the time of a change. Emptying a column
is the fourth, and the only thing that a removal does to a record that it leaves. So a property of
cells under columns that holds after each of the four holds of every record of a table, whatever is
written.

The main instance is that a column holds nothing but what its kind says. No type enforces that: a
record gives a cell of any sort to every name. It is what makes the order of cells one in which
records can be sorted.

## Main definitions

* `Column.cellOf?` — the cell in which a column keeps a value
* `CellInvariant` — a property of cells under columns that holds of whatever gets there
* `Cell.isOf` — a cell can stand in a column of a kind
* `Store.Typed` — each column holds what its kind says

## Main results

* `CellInvariant.table` — such a property is kept by what writes do to a table
* `Store.typed_kept` — no write puts anything into a column that its kind excludes
-/

namespace Recordbook

/-! ### Columns -/

/-- Fields are told apart by their names. They are compared by their numbers, since there are too
many pairs of them for a case each. -/
theorem Field.label_injective : Function.Injective Field.label := by
  have apart : ∀ i < 20, ∀ j < 20, (ofNat i).label = (ofNat j).label → i = j := by decide
  have numbered (f : Field) : f.ctorIdx < 20 := by cases f <;> decide
  intro a b h
  have same : a.ctorIdx = b.ctorIdx :=
    apart _ (numbered a) _ (numbered b) (by rwa [ofNat_ctorIdx, ofNat_ctorIdx])
  exact (ofNat_ctorIdx a).symm.trans ((congrArg ofNat same).trans (ofNat_ctorIdx b))

namespace Entity

variable (e : Entity)

/-- No two columns of a kind of records have the same name. -/
theorem eq_of_field : ∀ a ∈ e.columns, ∀ b ∈ e.columns, a.field = b.field → a = b := by
  cases e <;> decide

/-- A column is found by its name. -/
theorem column?_label : ∀ c ∈ e.columns, e.column? c.field.label = some c := by
  intro c hc
  cases found : e.column? c.field.label with
  | none => exact absurd (List.find?_eq_none.mp found c hc) (by simp)
  | some d =>
    have label : d.field.label = c.field.label := by simpa using List.find?_some found
    rw [e.eq_of_field d (List.mem_of_find?_eq_some found) c hc (Field.label_injective label)]

end Entity

/-! ### Setting cells -/

/-- What is in a column of a record once some cells were set. -/
theorem Row.cell_setAll {p : Cell → Prop} {row : Row} {f : Field} {cells : List (Field × Cell)}
    (h : p (row.cell f)) (hc : ∀ c ∈ cells, c.1 = f → p c.2) : p ((row.setAll cells).cell f) := by
  induction cells generalizing row with
  | nil => exact h
  | cons c cells ih =>
    refine ih ?_ fun d hd => hc d (List.mem_cons_of_mem _ hd)
    by_cases hf : f = c.1
    · subst hf
      rw [Row.cell_set_self]
      exact hc c List.mem_cons_self rfl
    · rwa [Row.cell_set_of_ne row c.2 hf]

/-- A column that is not among them stays. -/
theorem Row.cell_setAll_of_ne {row : Row} {f : Field} {cells : List (Field × Cell)}
    (h : ∀ c ∈ cells, c.1 ≠ f) : (row.setAll cells).cell f = row.cell f :=
  cell_setAll (p := (· = row.cell f)) rfl fun c hc same => absurd same (h c hc)

/-- A column that is set to one cell only holds it. -/
theorem Row.cell_setAll_of_mem {row : Row} {f : Field} {cell : Cell} {cells : List (Field × Cell)}
    (h : (f, cell) ∈ cells) (only : ∀ c ∈ cells, c.1 = f → c.2 = cell) :
    (row.setAll cells).cell f = cell := by
  obtain ⟨before, after, rfl⟩ := List.append_of_mem h
  rw [setAll, List.foldl_append, List.foldl_cons]
  refine cell_setAll (p := (· = cell)) (cell_set_self _ f cell) fun c hc => ?_
  exact only c (List.mem_append_right _ (List.mem_cons_of_mem _ hc))

/-! ### Keeping values -/

namespace Column

/-- What the store is handed for a value in a column, if it can be. -/
def datumOf? (c : Column) (v : Value) : Option Datum :=
  match (Binding.ofColumn c.kind).process v with
  | .ok (.bound d) => some d
  | _ => none

/-- The cell in which a column keeps a value, if it can. -/
def cellOf? (c : Column) (v : Value) : Option Cell := (c.datumOf? v).map (.ofDatum c.kind)

theorem datumOf?_eq_some {c : Column} {v : Value} {d : Datum} :
    c.datumOf? v = some d ↔ (Binding.ofColumn c.kind).process v = .ok (.bound d) := by
  rw [datumOf?]
  split
  · rename_i bound
    simp [bound]
  · rename_i other
    simpa using other d

end Column

namespace Draft

variable {o : Occasion} {e : Entity} {row new : Row}

/-- The two steps of binding the value of a column end with the cell in which it is kept. -/
theorem accept_process_eq_ok {c : Column} {v : Value} {p : Column × Cell} :
    (∃ q, processColumn c v = .ok q ∧ acceptColumn q = .ok p) ↔
      p.1 = c ∧ c.cellOf? v = some p.2 := by
  constructor
  · rintro ⟨q, processed, accepted⟩
    obtain ⟨parameter, bound, rfl⟩ := map_eq_ok.mp processed
    obtain ⟨d, hd, rfl⟩ := map_eq_ok.mp accepted
    cases parameter with
    | bound d' =>
      cases hd
      have datum := Column.datumOf?_eq_some.mpr (mapError_eq_ok.mp bound)
      exact ⟨rfl, Option.map_eq_some_iff.mpr ⟨d, datum, rfl⟩⟩
    | _ => cases hd
  · rintro ⟨column, kept⟩
    obtain ⟨d, hd, cell⟩ := Option.map_eq_some_iff.mp kept
    have bound := Column.datumOf?_eq_some.mp hd
    exact ⟨(c, .bound d), map_eq_ok.mpr ⟨_, mapError_eq_ok.mpr bound, rfl⟩,
      map_eq_ok.mpr ⟨d, rfl, Prod.ext column.symm cell⟩⟩

/-- The cells to which values are bound are those in which the columns keep them. -/
theorem mem_of_bindColumns {values : List (Column × Value)} {cells : List (Column × Cell)}
    (h : bindColumns values = .ok cells) :
    (∀ g ∈ values, ∃ cell, g.1.cellOf? g.2 = some cell ∧ (g.1, cell) ∈ cells) ∧
      ∀ p ∈ cells, ∃ v, (p.1, v) ∈ values ∧ p.1.cellOf? v = some p.2 := by
  obtain ⟨processed, hp, h⟩ := bind_eq_ok.mp h
  constructor
  · intro g hg
    obtain ⟨q, hq, hgq⟩ := (mem_of_mapM_eq_ok hp).1 g hg
    obtain ⟨p, hm, hqp⟩ := (mem_of_mapM_eq_ok h).1 q hq
    obtain ⟨column, kept⟩ := accept_process_eq_ok.mp ⟨q, hgq, hqp⟩
    exact ⟨p.2, kept, column ▸ hm⟩
  · intro p hm
    obtain ⟨q, hq, hqp⟩ := (mem_of_mapM_eq_ok h).2 p hm
    obtain ⟨g, hg, hgq⟩ := (mem_of_mapM_eq_ok hp).2 q hq
    obtain ⟨column, kept⟩ := accept_process_eq_ok.mp ⟨q, hgq, hqp⟩
    exact ⟨g.2, column ▸ hg, column ▸ kept⟩

/-- What data changes are columns. -/
theorem mem_columns_of_changes {data : Entries} {g : Column × Value}
    (h : g ∈ changes e row data) : g.1 ∈ e.columns := by
  obtain ⟨c, -, changed⟩ := List.mem_filterMap.mp h
  obtain ⟨given, hg, changed⟩ := Option.bind_eq_some_iff.mp changed
  split at changed
  · cases changed
  · cases changed
    obtain ⟨entry, -, named⟩ := List.mem_filterMap.mp (List.mem_of_find?_eq_some hg)
    split at named
    · obtain ⟨column, hc, rfl⟩ := Option.map_eq_some_iff.mp named
      exact List.mem_of_find?_eq_some hc
    · cases named

end Draft

/-! ### Properties of cells under columns -/

/-- A property of cells under the columns of their kinds of records that holds of whatever gets
there. -/
structure CellInvariant (p : Column → Cell → Prop) : Prop where
  /-- Nothing is there. -/
  empty (c : Column) : p c .empty
  /-- A value was bound for the column. -/
  bound (c : Column) (d : Datum) : p c (.ofDatum c.kind d)
  /-- The default of the column was filled in. -/
  default {e : Entity} {c : Column} (hc : c ∈ e.columns) (o : Occasion) {d : ColumnDefault}
    (hd : c.default = some d) : p c (Draft.defaultCell o d)
  /-- The column was set to the time of a change. -/
  touched {e : Entity} {c : Column} (hc : c ∈ e.columns) (updated : c.field = .updatedAt)
    (t : Timestamp) : p c (.moment t)

namespace CellInvariant

variable {p : Column → Cell → Prop} {o : Occasion} {e : Entity} {row new : Row}

theorem newCell (invariant : CellInvariant p) {c : Column} (hc : c ∈ e.columns) (given : Value)
    {cell : Cell} (h : p c cell) : p c (Draft.newCell o given c cell) := by
  rw [Draft.newCell]
  split
  · cases hd : c.default with
    | none => exact invariant.empty c
    | some d => exact invariant.default hc o hd
  · exact h

/-- It holds of each column of a new record. -/
theorem cell_of_record (invariant : CellInvariant p) {d : Draft}
    (made : Draft.record o e d = .ok new) : ∀ c ∈ e.columns, p c (new.cell c.field) := by
  obtain ⟨cells, hc, made⟩ := bind_eq_ok.mp made
  cases pure_eq_ok.mp made
  intro column hcolumn
  refine Row.cell_setAll (invariant.empty column) fun c hm field => ?_
  obtain ⟨g, hg, rfl⟩ := List.mem_map.mp hm
  obtain ⟨v, hv, kept⟩ := (Draft.mem_of_bindColumns hc).2 g hg
  obtain ⟨datum, -, hd⟩ := Option.map_eq_some_iff.mp kept
  obtain ⟨given, hgiven, same⟩ := List.mem_map.mp hv
  cases same
  cases e.eq_of_field _ hgiven _ hcolumn field
  refine invariant.newCell hcolumn _ ?_
  rw [← hd]
  exact invariant.bound _ datum

/-- It still holds of each column of a record after changes. -/
theorem cell_of_changedRecord (invariant : CellInvariant p) {data : Entries}
    (held : ∀ c ∈ e.columns, p c (row.cell c.field))
    (made : Draft.changedRecord o e row (Draft.changes e row data) = .ok new) :
    ∀ c ∈ e.columns, p c (new.cell c.field) := by
  obtain ⟨cells, hc, made⟩ := bind_eq_ok.mp made
  cases pure_eq_ok.mp made
  intro column hcolumn
  refine Row.cell_setAll ?_ fun c hm field => ?_
  · refine Row.cell_setAll (held column hcolumn) fun c hm field => ?_
    obtain ⟨g, hg, rfl⟩ := List.mem_map.mp hm
    obtain ⟨v, hv, kept⟩ := (Draft.mem_of_bindColumns hc).2 g hg
    obtain ⟨datum, -, hd⟩ := Option.map_eq_some_iff.mp kept
    cases e.eq_of_field _ (Draft.mem_columns_of_changes hv) _ hcolumn field
    rw [← hd]
    exact invariant.bound _ datum
  · obtain ⟨touched, ht, rfl⟩ := List.mem_map.mp hm
    obtain ⟨ht, now⟩ := List.mem_filter.mp ht
    cases e.eq_of_field _ ht _ hcolumn field
    simp only [Draft.isTouched, Bool.and_eq_true, decide_eq_true_eq] at now
    exact invariant.touched hcolumn now.1 o.now

theorem cell_set_empty (invariant : CellInvariant p) (h : ∀ c ∈ e.columns, p c (row.cell c.field))
    (f : Field) : ∀ c ∈ e.columns, p c ((row.set f .empty).cell c.field) := by
  intro c hc
  by_cases same : c.field = f
  · rw [same, Row.cell_set_self]
    exact invariant.empty c
  · rw [Row.cell_set_of_ne _ _ same]
    exact h c hc

/-- **Cells under columns.** What holds of whatever gets into a column is kept by what writes do to
a table. -/
theorem table (invariant : CellInvariant p) :
    TableInvariant fun e rows => ∀ row ∈ rows, ∀ c ∈ e.columns, p c (row.cell c.field) where
  add made _ h row hrow := by
    rcases List.mem_append.mp hrow with hm | hm
    · exact h row hm
    · rw [List.mem_singleton.mp hm]
      exact invariant.cell_of_record made
  replace present made _ h row hrow := by
    obtain ⟨was, hw, rfl⟩ := List.mem_map.mp hrow
    split
    · exact invariant.cell_of_changedRecord (h _ present) made
    · exact h was hw
  filter h kept row hrow := h row (List.mem_filter.mp hrow).1
  detach {e f rows} _ h dependent row hrow := by
    obtain ⟨was, hw, rfl⟩ := List.mem_map.mp hrow
    split
    · exact invariant.cell_set_empty (h was hw) f
    · exact h was hw

end CellInvariant

/-! ### Kinds of columns -/

/-- Whether a cell can stand in a column of a kind: it is empty, or holds what the kind says. -/
def Cell.isOf (k : ColumnKind) (c : Cell) : Bool :=
  match k, c with
  | _, .empty => true
  | .uuid, .key _ => true
  | .text _, .text _ => true
  | .text _, .data _ => true
  | .flag, .flag _ => true
  | .moment, .moment _ => true
  | .money, .amount _ => true
  | _, _ => false

/-- Every column of a record holds what its kind says. -/
def Row.Typed (e : Entity) (row : Row) : Prop :=
  ∀ c ∈ e.columns, (row.cell c.field).isOf c.kind = true

/-- Every column of every record of a store holds what its kind says. -/
def Store.Typed (s : Store) : Prop := ∀ e, ∀ row ∈ s.rows e, row.Typed e

theorem Cell.isOf_ofDatum (k : ColumnKind) (d : Datum) : (ofDatum k d).isOf k = true := by
  cases k <;> cases d <;> rfl

/-- The default of a column is of the kind of the column. -/
theorem Entity.isOf_defaultCell (e : Entity) (o : Occasion) :
    ∀ c ∈ e.columns, ∀ d, c.default = some d → (Draft.defaultCell o d).isOf c.kind = true := by
  have any (k : ColumnKind) (d : ColumnDefault) :
      (Draft.defaultCell o d).isOf k = (Draft.defaultCell ⟨default, default⟩ d).isOf k := by
    cases d <;> cases k <;> rfl
  have kinds : ∀ c ∈ e.columns, ∀ d ∈ c.default,
      (Draft.defaultCell ⟨default, default⟩ d).isOf c.kind = true := by
    cases e <;> decide
  intro c hc d hd
  rw [any]
  exact kinds c hc d hd

theorem cellInvariant_isOf : CellInvariant fun c cell => cell.isOf c.kind = true where
  empty c := by cases c.kind <;> rfl
  bound c d := Cell.isOf_ofDatum c.kind d
  default {e} c hc o {d} hd := e.isOf_defaultCell o c hc d hd
  touched {e c} hc updated t := by
    have kind : ∀ c ∈ e.columns, c.field = .updatedAt → c.kind = .moment := by
      cases e <;> decide
    rw [kind c hc updated]
    rfl

/-- **Columns keep their kinds** through every write, and so through whatever is made of writes. -/
theorem Store.typed_kept : Store.Kept Store.Typed := cellInvariant_isOf.table.kept

theorem Store.typed_empty : Store.empty.Typed := fun _ _ h => absurd h List.not_mem_nil

theorem Sample.typed_store : Sample.store.Typed := by
  intro e row hrow c hc
  have typed : ((Sample.store.rows e).all fun row => e.columns.all fun c =>
      (row.cell c.field).isOf c.kind) = true := by
    cases e <;> rfl
  exact List.all_eq_true.mp (List.all_eq_true.mp typed row hrow) c hc

end Recordbook

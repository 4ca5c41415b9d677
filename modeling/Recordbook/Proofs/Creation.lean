import Recordbook.Proofs.Updates

/-!
# What a creation writes

A creation reads its data one attribute after another into a draft, and the draft makes a record. A
column of the record keeps the value that it is given. Null counts as no value, so that a column
with a default takes it if it is given null as well as if it is not given at all. A reference that
is given, which it can only be as absent, empties its column, whatever the column itself is given.

The store then takes the record as it is or refuses it. There is no third way: a draft of columns
always makes a record, if each value fits its column.

## Main definitions

* `Row.MadeOf` — a new record is made of the values that its columns are given
* `Entity.valueGiven` — the value that data gives to a column of a new record

## Main results

* `Draft.madeOf_of_record` — a draft makes a record of its values
* `Draft.valueOf_of_ofEntries` — the values of a draft are those that the data gives
* `create_adds_one_row` — what a creation writes, and when it fails
-/

namespace Recordbook

/-! ### Records made of values -/

/-- A new record is made of values for its columns. The value is null for a column that is given
none. -/
structure Row.MadeOf (o : Occasion) (e : Entity) (value : Column → Value) (row : Row) : Prop where
  /-- A column that is given a value keeps it. -/
  kept {c : Column} (hc : c ∈ e.columns) (given : (value c).isNull = false) :
    c.cellOf? (value c) = some (row.cell c.field)
  /-- A column that is given none takes its default, if it has one. -/
  default {c : Column} (hc : c ∈ e.columns) (absent : (value c).isNull = true) :
    row.cell c.field = (c.default.map (Draft.defaultCell o)).getD .empty
  /-- There is nothing else. -/
  other {f : Field} (h : ∀ c ∈ e.columns, c.field ≠ f) : row.cell f = .empty

/-- There is only one such record. -/
theorem Row.MadeOf.unique {o : Occasion} {e : Entity} {value : Column → Value} {row row' : Row}
    (h : row.MadeOf o e value) (h' : row'.MadeOf o e value) : row' = row := by
  ext f
  by_cases column : ∃ c ∈ e.columns, c.field = f
  · obtain ⟨c, hc, rfl⟩ := column
    cases given : (value c).isNull with
    | true => rw [h.default hc given, h'.default hc given]
    | false => exact Option.some_inj.mp ((h'.kept hc given).symm.trans (h.kept hc given))
  · have others : ∀ c ∈ e.columns, c.field ≠ f := by simpa using column
    rw [h.other others, h'.other others]

theorem Row.MadeOf.congr {o : Occasion} {e : Entity} {value value' : Column → Value} {row : Row}
    (h : row.MadeOf o e value) (same : ∀ c ∈ e.columns, value' c = value c) :
    row.MadeOf o e value' where
  kept hc given := by
    rw [same _ hc] at given ⊢
    exact h.kept hc given
  default hc absent := h.default hc (same _ hc ▸ absent)
  other := h.other

namespace Draft

variable {o : Occasion} {e : Entity} {d next : Draft} {row : Row}

/-- The cell of a new record under a column is that of the value of the draft, or the default. -/
theorem cell_of_record (made : record o e d = .ok row) {c : Column} (hc : c ∈ e.columns) :
    ∃ cell, c.cellOf? (d.valueOf c.field) = some cell ∧
      row.cell c.field = newCell o (d.valueOf c.field) c cell := by
  obtain ⟨cells, bound, made⟩ := bind_eq_ok.mp made
  cases pure_eq_ok.mp made
  obtain ⟨keeps, kept⟩ := mem_of_bindColumns bound
  obtain ⟨cell, hcell, hm⟩ := keeps (c, d.valueOf c.field) (List.mem_map.mpr ⟨c, hc, rfl⟩)
  refine ⟨cell, hcell, Row.cell_setAll_of_mem (List.mem_map.mpr ⟨(c, cell), hm, rfl⟩) ?_⟩
  intro p hp field
  obtain ⟨q, hq, rfl⟩ := List.mem_map.mp hp
  obtain ⟨v, hv, held⟩ := kept q hq
  obtain ⟨c', hc', same⟩ := List.mem_map.mp hv
  cases same
  cases e.eq_of_field _ hc' _ hc field
  cases Option.some_inj.mp (held.symm.trans hcell)
  rfl

/-- **A draft makes a record of its values.** -/
theorem madeOf_of_record (made : record o e d = .ok row) :
    row.MadeOf o e fun c => d.valueOf c.field where
  kept hc given := by
    obtain ⟨cell, kept, here⟩ := cell_of_record made hc
    rw [here, newCell, if_neg (by simp [given]), kept]
  default hc absent := by
    obtain ⟨cell, -, here⟩ := cell_of_record made hc
    rw [here, newCell, if_pos absent]
  other {f} h := by
    obtain ⟨cells, bound, made⟩ := bind_eq_ok.mp made
    cases pure_eq_ok.mp made
    refine Row.cell_setAll_of_ne fun p hp field => ?_
    obtain ⟨q, hq, rfl⟩ := List.mem_map.mp hp
    obtain ⟨v, hv, -⟩ := (mem_of_bindColumns bound).2 q hq
    obtain ⟨c, hc, same⟩ := List.mem_map.mp hv
    cases same
    exact h _ hc field

/-- A draft makes a record as soon as every column can keep its value. -/
theorem exists_record (o : Occasion)
    (fits : ∀ c ∈ e.columns, (c.cellOf? (d.valueOf c.field)).isSome = true) :
    ∃ row, record o e d = .ok row := by
  obtain ⟨cells, bound⟩ : ∃ cells,
      bindColumns (e.columns.map fun c => (c, d.valueOf c.field)) = .ok cells :=
    exists_bindColumns fun g hg => by
      obtain ⟨c, hc, rfl⟩ := List.mem_map.mp hg
      exact fits c hc
  exact ⟨_, bind_eq_ok.mpr ⟨cells, bound, rfl⟩⟩

end Draft

/-! ### What names mean -/

namespace Entity

variable {e : Entity} {name : String}

/-- No name is both a relation and a column. -/
theorem column?_of_relation? {r : Relation} (h : e.relation? name = some r) :
    e.column? name = none := by
  have label : r.name = name := by simpa using List.find?_some h
  rw [← label]
  exact e.column?_relation_name r (List.mem_of_find?_eq_some h)

/-- The names that belong to the library of records itself are neither. -/
theorem attribute?_cases (e : Entity) (name : String) :
    (∃ c, e.column? name = some c ∧ e.relation? name = none ∧
        e.attribute? name = some (.column c)) ∨
      (∃ r, e.column? name = none ∧ e.relation? name = some r ∧
        e.attribute? name = some (.relation r)) ∨
      e.column? name = none ∧ e.relation? name = none ∧
        ∀ a, e.attribute? name = some a →
          a = .kind ∨ a = .readOnly ∨ a = .contents ∨ a = .inert := by
  cases column : e.column? name with
  | some c =>
    have noRelation : e.relation? name = none := by
      cases relation : e.relation? name with
      | none => rfl
      | some r => cases column.symm.trans (column?_of_relation? relation)
    exact .inl ⟨c, rfl, noRelation, by rw [attribute?, column]⟩
  | none => cases relation : e.relation? name with
    | some r => exact .inr (.inl ⟨r, rfl, rfl, by rw [attribute?, column, relation]⟩)
    | none =>
      refine .inr (.inr ⟨rfl, rfl, fun a found => ?_⟩)
      rw [attribute?, column, relation] at found
      rcases Option.or_eq_some_iff.mp found with guarded | ⟨-, inert⟩
      · obtain ⟨before, after, split, -⟩ := List.lookup_eq_some_iff.mp guarded
        have listed : (name, a) ∈ Attribute.guarded := by simp [split]
        simp only [Attribute.guarded, List.mem_cons, Prod.mk.injEq, List.not_mem_nil, or_false]
          at listed
        rcases listed with ⟨-, rfl⟩ | ⟨-, rfl⟩ | ⟨-, rfl⟩ <;> simp
      · split at inert
        · cases inert
          simp
        · cases inert

end Entity

/-! ### Drafts of data -/

namespace Draft

variable {o : Occasion} {e : Entity} {d next : Draft} {row : Row}

/-- What the names in data empty: the columns of the references among them. -/
def emptiedBy (e : Entity) (given : List (String × Value)) : List Field :=
  given.filterMap fun g => (e.relation? g.1).bind fun r => if r.many then none else some r.near

/-- The values for columns in data. -/
def columnValues (e : Entity) (given : List (String × Value)) : List (Field × Value) :=
  given.filterMap fun g => (e.column? g.1).map fun c => (c.field, g.2)

theorem emptiedBy_cons (g : String × Value) (rest : List (String × Value)) :
    emptiedBy e (g :: rest) = emptiedBy e [g] ++ emptiedBy e rest :=
  show emptiedBy e ([g] ++ rest) = _ from List.filterMap_append

theorem columnValues_cons (g : String × Value) (rest : List (String × Value)) :
    columnValues e (g :: rest) = columnValues e [g] ++ columnValues e rest :=
  show columnValues e ([g] ++ rest) = _ from List.filterMap_append

/-- A relation that is given adds no value, and empties its column if it is a reference. -/
theorem giveRelation_eq_ok {r : Relation} {v : Value} (h : giveRelation r d v = .ok next) :
    next.values = d.values ∧ next.cleared = d.cleared ++ if r.many then [] else [r.near] := by
  unfold giveRelation at h
  split at h
  · rename_i many
    rw [if_pos many, List.append_nil]
    unfold giveCollection at h
    split at h
    · cases h
      exact ⟨rfl, rfl⟩
    · split at h
      · cases h
      · cases h
        exact ⟨rfl, rfl⟩
    · cases h
  · rename_i one
    rw [if_neg one]
    split at h
    · cases h
      exact ⟨rfl, rfl⟩
    · cases h

/-- What one attribute adds to a draft: a value, or a column that is emptied. -/
theorem give_eq_ok {name : String} {v : Value} (h : d.give e name v = .ok next) :
    next.values = d.values ++ columnValues e [(name, v)] ∧
      next.cleared = d.cleared ++ emptiedBy e [(name, v)] := by
  have known {step : Except Misuse Draft} {m : Misuse}
      (taken : (if d.replaced then .error m else step) = .ok next) : step = .ok next := by
    split at taken
    · cases taken
    · exact taken
  rw [columnValues, emptiedBy, List.filterMap_cons, List.filterMap_cons, List.filterMap_nil]
  rcases e.attribute?_cases name with ⟨c, column, relation, meaning⟩ |
    ⟨r, column, relation, meaning⟩ | ⟨column, relation, meaning⟩
  · simp only [give, meaning] at h
    cases known h
    simp [column, relation]
  · simp only [give, meaning] at h
    obtain ⟨values, cleared⟩ := giveRelation_eq_ok (known h)
    rw [values, cleared]
    cases many : r.many <;> simp [column, relation, many]
  · have nothing : next.values = d.values ∧ next.cleared = d.cleared := by
      rw [give] at h
      cases named : e.attribute? name with
      | none =>
        rw [named] at h
        cases h
      | some a =>
        rw [named] at h
        rcases meaning a named with rfl | rfl | rfl | rfl
        · cases h
        · cases h
        · dsimp only at h
          unfold giveContents at h
          split at h <;> cases h <;> exact ⟨rfl, rfl⟩
        · cases h
          exact ⟨rfl, rfl⟩
    simp [column, relation, nothing]

/-- What attributes add to a draft, one after another. -/
theorem giveAll_eq_ok {given : List (String × Value)} (h : giveAll e d given = .ok next) :
    next.values = d.values ++ columnValues e given ∧
      next.cleared = d.cleared ++ emptiedBy e given := by
  induction given generalizing d with
  | nil =>
    cases h
    exact ⟨(List.append_nil _).symm, (List.append_nil _).symm⟩
  | cons g rest ih =>
    obtain ⟨step, hs, h⟩ := bind_eq_ok.mp h
    obtain ⟨values, cleared⟩ := give_eq_ok hs
    obtain ⟨values', cleared'⟩ := ih h
    rw [values', values, cleared', cleared, columnValues_cons g rest, emptiedBy_cons g rest]
    exact ⟨List.append_assoc .., List.append_assoc ..⟩

end Draft

/-- The value that data gives to a column of a new record: none if it gives a reference on the
column as well. -/
def Entity.valueGiven (e : Entity) (data : Entries) (c : Column) : Value :=
  if e.relations.any fun r => !r.many && r.near = c.field && data.has r.name then .null
  else data.getD c.field.label

namespace Draft

variable {o : Occasion} {e : Entity} {d : Draft} {row : Row} {entries : Entries}

/-- Data that makes a draft has texts as keys. -/
theorem eq_named_of_named? {given : List (String × Value)}
    (h : named? entries = some given) : entries = Entries.named given := by
  induction entries generalizing given with
  | nil =>
    cases h
    rfl
  | cons entry rest ih =>
    obtain ⟨key, v⟩ := entry
    rw [named?, List.mapM_cons, Option.bind_eq_bind, Option.bind_eq_some_iff] at h
    obtain ⟨g, hg, h⟩ := h
    obtain ⟨others, ho, h⟩ := Option.bind_eq_some_iff.mp h
    cases h
    split at hg
    · rename_i name text
      cases hg
      dsimp only at text
      rw [text, ih ho]
      rfl
    · cases hg

theorem named?_named (given : List (String × Value)) :
    named? (Entries.named given) = some given := by
  induction given with
  | nil => rfl
  | cons g rest ih =>
    rw [Entries.named_cons, named?, List.mapM_cons]
    change (some g >>= fun g => named? (Entries.named rest) >>= fun gs => pure (g :: gs)) = _
    rw [ih]
    rfl

/-- A draft is made of names, which it takes one after another. -/
theorem ofEntries_eq_ok (h : ofEntries e entries = .ok d) :
    ∃ given, entries = Entries.named given ∧ giveAll e empty given = .ok d := by
  unfold ofEntries at h
  split at h
  · cases h
  · rename_i given names
    have made := mapError_eq_ok.mp h
    unfold ofNamed at made
    split at made
    · cases made
    · obtain ⟨draft, taken, made⟩ := bind_eq_ok.mp made
      split at made
      · cases made
      · cases made
        exact ⟨given, eq_named_of_named? names, taken⟩

/-- The columns that are emptied are those of the references that are named. -/
theorem mem_emptiedBy_iff {given : List (String × Value)} {f : Field} :
    f ∈ emptiedBy e given ↔
      ∃ r ∈ e.relations, r.many = false ∧ r.near = f ∧ (Entries.named given).has r.name = true := by
  have found : ∀ r ∈ e.relations, e.relation? r.name = some r := by cases e <;> decide
  rw [emptiedBy, List.mem_filterMap]
  constructor
  · rintro ⟨g, hg, emptied⟩
    obtain ⟨r, relation, near⟩ := Option.bind_eq_some_iff.mp emptied
    split at near
    · cases near
    · rename_i one
      cases near
      have label : r.name = g.1 := by simpa using List.find?_some relation
      refine ⟨r, List.mem_of_find?_eq_some relation, by simpa using one, rfl, ?_⟩
      exact List.any_eq_true.mpr ⟨(.str g.1, g.2), List.mem_map.mpr ⟨g, hg, rfl⟩, by simp [label]⟩
  · rintro ⟨r, hr, one, rfl, has⟩
    obtain ⟨entry, he, text⟩ := List.any_eq_true.mp has
    obtain ⟨g, hg, rfl⟩ := List.mem_map.mp he
    have label : g.1 = r.name := by simpa using text
    exact ⟨g, hg, by rw [label, found r hr]; simp [one]⟩

/-- The value for a column is the one under its name. -/
theorem find?_columnValues {c : Column} (hc : c ∈ e.columns) (given : List (String × Value)) :
    ((columnValues e given).find? fun g => g.1 = c.field).map (·.2) =
      (Entries.named given).get? c.field.label := by
  have entries : columnValues e given =
      (columnEntries e (Entries.named given)).map fun g => (g.1.field, g.2) := by
    rw [columnValues, columnEntries, Entries.named, List.filterMap_map, List.map_filterMap]
    refine List.filterMap_congr fun g _ => ?_
    simp only [Function.comp_apply, Option.map_map]
    rfl
  have same := given?_eq hc (Entries.named given)
  rw [given?] at same
  rw [entries, List.find?_map, Function.comp_def, same]
  cases (Entries.named given).get? c.field.label <;> rfl

/-- **The values of a draft** are those that the data gives. -/
theorem valueOf_of_ofEntries (h : ofEntries e entries = .ok d) {c : Column} (hc : c ∈ e.columns) :
    d.valueOf c.field = e.valueGiven entries c := by
  obtain ⟨given, rfl, taken⟩ := ofEntries_eq_ok h
  obtain ⟨values, cleared⟩ := giveAll_eq_ok taken
  rw [valueOf, Entity.valueGiven, values, cleared]
  change (if (emptiedBy e given).contains c.field then Value.null
    else (((columnValues e given).find? fun g => g.1 = c.field).map (·.2)).getD .null) = _
  have emptied : (emptiedBy e given).contains c.field = e.relations.any fun r =>
      !r.many && r.near = c.field && (Entries.named given).has r.name := by
    rw [Bool.eq_iff_iff, List.contains_iff_mem, mem_emptiedBy_iff, List.any_eq_true]
    simp [and_assoc]
  rw [emptied, find?_columnValues hc]
  rfl

/-! ### Drafts of columns -/

/-- Columns can be given to a draft one after another. -/
theorem exists_giveAll {given : List (String × Value)}
    (columns : ∀ g ∈ given, (e.column? g.1).isSome = true) (taking : d.replaced = false) :
    ∃ next, giveAll e d given = .ok next ∧ next.replaced = false ∧
      next.incomplete = d.incomplete := by
  induction given generalizing d with
  | nil => exact ⟨d, rfl, taking, rfl⟩
  | cons g rest ih =>
    obtain ⟨c, column⟩ := Option.isSome_iff_exists.mp (columns g List.mem_cons_self)
    have step : d.give e g.1 g.2 = .ok { d with values := d.values ++ [(c.field, g.2)] } := by
      simp only [give, Entity.attribute?, column, taking]
      rfl
    obtain ⟨next, taken, still⟩ := ih (fun g hg => columns g (List.mem_cons_of_mem _ hg))
      (d := { d with values := d.values ++ [(c.field, g.2)] }) taking
    exact ⟨next, bind_eq_ok.mpr ⟨_, step, taken⟩, still⟩

/-- Data that names columns only is given by names. -/
theorem exists_named
    (columns : ∀ entry ∈ entries, ∃ c ∈ e.columns, entry.1 = .str c.field.label) :
    ∃ given, entries = Entries.named given ∧ ∀ g ∈ given, (e.column? g.1).isSome = true := by
  induction entries with
  | nil => exact ⟨[], rfl, fun g hg => absurd hg List.not_mem_nil⟩
  | cons entry rest ih =>
    obtain ⟨given, rfl, named⟩ := ih fun entry he => columns entry (List.mem_cons_of_mem _ he)
    obtain ⟨c, hc, key⟩ := columns entry List.mem_cons_self
    refine ⟨(c.field.label, entry.2) :: given, ?_, ?_⟩
    · rw [Entries.named_cons, ← key]
    · simp only [List.mem_cons, forall_eq_or_imp, e.column?_label c hc]
      exact ⟨rfl, named⟩

/-- Data that names columns only makes a draft of them. -/
theorem exists_ofEntries
    (columns : ∀ entry ∈ entries, ∃ c ∈ e.columns, entry.1 = .str c.field.label) :
    ∃ d, ofEntries e entries = .ok d ∧ d.incomplete = [] := by
  obtain ⟨given, rfl, named⟩ := exists_named columns
  obtain ⟨d, taken, taking, complete⟩ := exists_giveAll named (d := empty) rfl
  have self : (given.any fun g => g.1 = Attribute.selfName) = false := by
    have noColumn : e.column? Attribute.selfName = none := by cases e <;> decide
    refine List.any_eq_false.mpr fun g hg => ?_
    rw [decide_eq_true_eq]
    intro same
    have some := named g hg
    rw [same, noColumn] at some
    cases some
  refine ⟨d, ?_, complete⟩
  rw [ofEntries, named?_named]
  refine mapError_eq_ok.mpr ?_
  rw [ofNamed, self, if_neg Bool.false_ne_true]
  refine bind_eq_ok.mpr ⟨d, taken, ?_⟩
  rw [taking]
  rfl

/-- In such data there is no reference, and the value for a column is the one under its name. -/
theorem valueGiven_of_columns
    (columns : ∀ entry ∈ entries, ∃ c ∈ e.columns, entry.1 = .str c.field.label) (c : Column) :
    e.valueGiven entries c = entries.getD c.field.label := by
  rw [Entity.valueGiven, if_neg]
  rw [List.any_eq_true]
  rintro ⟨r, hr, named⟩
  obtain ⟨entry, he, text⟩ := List.any_eq_true.mp (Bool.and_eq_true_iff.mp named).2
  obtain ⟨d, hd, key⟩ := columns entry he
  have label : d.field.label = r.name := by simpa [key] using text
  have column := e.column?_label d hd
  rw [label, e.column?_relation_name r hr] at column
  cases column

/-- The values of a draft of columns are those under their names. -/
theorem valueOf_of_columns
    (columns : ∀ entry ∈ entries, ∃ c ∈ e.columns, entry.1 = .str c.field.label)
    (drafted : ofEntries e entries = .ok d) {c : Column} (hc : c ∈ e.columns) :
    d.valueOf c.field = entries.getD c.field.label := by
  rw [valueOf_of_ofEntries drafted hc, valueGiven_of_columns columns]

/-- A draft of columns makes a record of the values under their names. -/
theorem madeOf_of_columns
    (columns : ∀ entry ∈ entries, ∃ c ∈ e.columns, entry.1 = .str c.field.label)
    (drafted : ofEntries e entries = .ok d) (made : record o e d = .ok row) :
    row.MadeOf o e fun c => entries.getD c.field.label :=
  (madeOf_of_record made).congr fun _ hc => (valueOf_of_columns columns drafted hc).symm

/-- If each value fits its column, so does the value for each column. -/
theorem isSome_cellOf?_getD (fits : ∀ entry ∈ entries, ∃ c ∈ e.columns,
    entry.1 = .str c.field.label ∧ (c.cellOf? entry.2).isSome = true) {c : Column}
    (hc : c ∈ e.columns) : (c.cellOf? (entries.getD c.field.label)).isSome = true := by
  rw [Entries.getD]
  cases given : entries.get? c.field.label with
  | none =>
    rw [Option.getD_none, Column.cellOf?_null]
    rfl
  | some v =>
    obtain ⟨d, hd, key, fit⟩ := fits _ (Entries.mem_of_get? given)
    rw [Value.str.injEq] at key
    rwa [e.eq_of_field c hc d hd (Field.label_injective key)]

/-! ### Insertions -/

variable {s : Store}

/-- A record that is written, if its collections have no absent records in them. -/
theorem insert_of_record (made : record o e d = .ok row) (complete : d.incomplete = []) :
    insert o e d s = ((s.insert e row).mapError refused).map fun next => (next, row) := by
  rw [insert, made, incomplete?, complete, List.mergeSort_nil, List.head?_nil]
  change (((s.insert e row).mapError refused) >>= fun next => pure (next, row)) = _
  cases (s.insert e row).mapError refused <;> rfl

/-- What is stored is the store with the record at the end of its table. -/
theorem insert_eq_ok {next : Store} (h : insert o e d s = .ok (next, row)) :
    record o e d = .ok row ∧ ¬ row.Breaks e (s.rows e) ∧
      next = s.setRows e (s.rows e ++ [row]) := by
  obtain ⟨made, hm, h⟩ := bind_eq_ok.mp h
  obtain ⟨stored, hs, h⟩ := bind_eq_ok.mp h
  have inserted := mapError_eq_ok.mp hs
  split at h
  · cases h
  · cases h
    rw [Store.insert] at inserted
    split at inserted
    · cases inserted
    · rename_i sound
      cases inserted
      exact ⟨hm, Store.violation?_eq_none_iff_not_breaks.mp sound, rfl⟩

/-- Whether a draft makes a record that can be inserted beside others, and that is as wanted. -/
def isInserted (o : Occasion) (e : Entity) (rows : List Row) (wanted : Row → Bool) (d : Draft) :
    Bool :=
  d.incomplete.isEmpty && (d.record o e).toOption.any fun row =>
    (Store.violation? e rows row).isNone && wanted row

theorem isInserted_iff {rows : List Row} {wanted : Row → Bool} :
    d.isInserted o e rows wanted = true ↔ d.incomplete = [] ∧
      ∃ row, d.record o e = .ok row ∧ ¬ row.Breaks e rows ∧ wanted row = true := by
  simp only [isInserted, Bool.and_eq_true, List.isEmpty_iff, Option.any_eq_true, toOption_eq_some,
    Option.isNone_iff_eq_none, Store.violation?_eq_none_iff_not_breaks]

end Draft

/-! ### Creations -/

namespace Repository

variable {r : Repository} {c : Context} {s : Session} {data : Value} {entries : Entries}
  {draft : Draft} {row : Row}

/-- **Writing a record** succeeds unless it breaks a constraint. -/
theorem insertDraft_of_record (active : s.isActive = true)
    (made : draft.record c.occasion r.entity = .ok row) (complete : draft.incomplete = []) :
    (¬ row.Breaks r.entity (s.working.rows r.entity) → r.insertDraft c s draft =
      (.ok row, s.wrote (s.working.setRows r.entity (s.working.rows r.entity ++ [row])))) ∧
    (row.Breaks r.entity (s.working.rows r.entity) → ∃ v,
      r.insertDraft c s draft = (.error (Draft.refused v), s.failed (Draft.refused v))) := by
  rw [insertDraft, Session.writeGuard_of_isActive active, Draft.insert_of_record made complete,
    Store.insert]
  cases checked : Store.violation? r.entity (s.working.rows r.entity) row with
  | none =>
    exact ⟨fun _ => rfl, fun breaks =>
      absurd breaks (Store.violation?_eq_none_iff_not_breaks.mp checked)⟩
  | some v =>
    refine ⟨fun sound => ?_, fun _ => ⟨v, rfl⟩⟩
    rw [Store.violation?_eq_none_iff_not_breaks.mpr sound] at checked
    cases checked

/-- What a creation is called in messages and logs. -/
def creating : Action := ⟨"creating", false, "create"⟩

/-- A creation writes the draft that the data makes. -/
theorem create_of_draft (carried : data.Carries entries)
    (drafted : Draft.ofEntries r.entity entries = .ok draft) :
    r.create c s data = r.reportWrite creating [data]
      ((r.insertDraft c s draft).1.map (r.written 201), (r.insertDraft c s draft).2) := by
  have made : (Draft.dataOf data).bind (Draft.ofEntries r.entity) = .ok draft := by
    rw [Draft.dataOf_of_carries carried]
    exact drafted
  rw [create, add, made]
  rfl

end Repository

/-- **Creations write one record or nothing.** Let data name columns only, and give each of them a
value that the column can keep, as it can null. Then there is exactly one record that is made of the
values, and of the defaults where there is none. On a session under way the creation succeeds
exactly if this record breaks no constraint beside those of its table.

If it does, the record is added to its table, no other record changes, and the answer shows it. If
it does not, that is a conflict, and a rollback takes the session back to the last save. -/
theorem create_adds_one_row (r : Repository) (c : Context) (s : Session) (data : Value)
    (entries : Entries) (active : s.isActive = true) (carried : data.Carries entries)
    (fits : ∀ entry ∈ entries, ∃ column ∈ r.entity.columns,
      entry.1 = .str column.field.label ∧ (column.cellOf? entry.2).isSome = true) :
    ∃ row : Row,
      (∀ other : Row, other.MadeOf c.occasion r.entity
        (fun column => entries.getD column.field.label) ↔ other = row) ∧
      ((r.create c s data).reply.isSuccess = true ∧ (r.create c s data).reply.code = 201 ↔
        ¬ row.Breaks r.entity (s.working.rows r.entity)) ∧
      (¬ row.Breaks r.entity (s.working.rows r.entity) →
        (r.create c s data).reply =
          Envelope.success (.record (LoadPlan.plain r.entity row)) 201 ∧
        (r.create c s data).session =
          s.wrote (s.working.setRows r.entity (s.working.rows r.entity ++ [row]))) ∧
      (row.Breaks r.entity (s.working.rows r.entity) →
        (r.create c s data).reply.code = 409 ∧
        (∃ message, (r.create c s data).reply =
          Envelope.failure .nothing .constraintViolation message) ∧
        (r.create c s data).session.rollback.working = s.saved) := by
  have columns : ∀ entry ∈ entries, ∃ column ∈ r.entity.columns,
      entry.1 = .str column.field.label :=
    fun entry he => (fits entry he).imp fun _ fit => ⟨fit.1, fit.2.1⟩
  obtain ⟨draft, drafted, complete⟩ := Draft.exists_ofEntries columns
  obtain ⟨row, made⟩ : ∃ row, draft.record c.occasion r.entity = .ok row :=
    Draft.exists_record c.occasion fun column hc => by
      rw [Draft.valueOf_of_columns columns drafted hc]
      exact Draft.isSome_cellOf?_getD fits hc
  have madeOf := Draft.madeOf_of_columns columns drafted made
  obtain ⟨stored, refused⟩ := Repository.insertDraft_of_record active made complete
  rw [Repository.create_of_draft carried drafted]
  refine ⟨row, fun other => ⟨madeOf.unique, fun same => same ▸ madeOf⟩, ?_, ?_, ?_⟩
  · constructor
    · rintro ⟨success, -⟩ breaks
      obtain ⟨v, here⟩ := refused breaks
      rw [here] at success
      cases success
    · intro sound
      rw [stored sound]
      exact ⟨rfl, rfl⟩
  · intro sound
    rw [stored sound]
    exact ⟨rfl, rfl⟩
  · intro breaks
    obtain ⟨v, here⟩ := refused breaks
    rw [here]
    exact ⟨rfl, ⟨_, rfl⟩, rfl⟩

/-- A user is created with null for a column with a default, and for one without. -/
theorem create_adds_one_row_sample :
    let c : Context := Script.context {} 1
    let s := Session.start Sample.store false
    let r := Repository.standard c.settings .user
    let entries : Entries := [(.str "email", .str "zoe@example.com"),
      (.str "first_name", .str "Zoe"), (.str "last_name", .str "Eto"), (.str "kyc_status", .null),
      (.str "phone_number", .null)]
    (∀ entry ∈ entries, ∃ column ∈ r.entity.columns,
      entry.1 = .str column.field.label ∧ (column.cellOf? entry.2).isSome = true) ∧
    ∃ row : Row, row.MadeOf c.occasion r.entity (fun column => entries.getD column.field.label) ∧
      row.cell .kycStatus = .text "NONE" ∧ row.cell .phoneNumber = .empty ∧
      (r.create c s (.map entries)).reply.code = 201 ∧
      (r.create c s (.map entries)).session.working =
        s.working.setRows .user (Sample.users ++ [row]) := by
  intro c s r entries
  have fits : ∀ entry ∈ entries, ∃ column ∈ r.entity.columns,
      entry.1 = .str column.field.label ∧ (column.cellOf? entry.2).isSome = true := by
    simp only [entries, List.forall_mem_cons, List.not_mem_nil, false_imp_iff, implies_true,
      and_true]
    exact ⟨⟨⟨.email, .text 255, false, none⟩, by decide, rfl, rfl⟩,
      ⟨⟨.firstName, .text 100, false, none⟩, by decide, rfl, rfl⟩,
      ⟨⟨.lastName, .text 100, false, none⟩, by decide, rfl, rfl⟩,
      ⟨⟨.kycStatus, .text 20, false, some (.text "NONE")⟩, by decide, rfl, rfl⟩,
      ⟨⟨.phoneNumber, .text 30, true, none⟩, by decide, rfl, rfl⟩⟩
  have columns : ∀ entry ∈ entries, ∃ column ∈ r.entity.columns,
      entry.1 = .str column.field.label :=
    fun entry he => (fits entry he).imp fun _ fit => ⟨fit.1, fit.2.1⟩
  obtain ⟨row, made, success, stored, -⟩ :=
    create_adds_one_row r c s (.map entries) entries rfl (.inl rfl) fits
  have madeOf := (made row).mpr rfl
  have kept : ((Draft.ofEntries r.entity entries).toOption.any
      (Draft.isInserted c.occasion r.entity (s.working.rows r.entity) fun _ => true)) = true := by
    rfl
  have sound : ¬ row.Breaks r.entity (s.working.rows r.entity) := by
    obtain ⟨draft, drafted, inserted⟩ := (Option.any_eq_true _ _).mp kept
    obtain ⟨-, other, recorded, free, -⟩ := Draft.isInserted_iff.mp inserted
    rwa [← (made other).mp (Draft.madeOf_of_columns columns (toOption_eq_some.mp drafted) recorded)]
  obtain ⟨reply, session⟩ := stored sound
  refine ⟨fits, row, madeOf, ?_, ?_, (success.mpr sound).2, congrArg Session.working session⟩
  · exact madeOf.default (c := ⟨.kycStatus, .text 20, false, some (.text "NONE")⟩) (by decide) rfl
  · exact madeOf.default (c := ⟨.phoneNumber, .text 30, true, none⟩) (by decide) rfl

end Recordbook

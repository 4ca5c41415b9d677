import Recordbook.Proofs.ConditionMeaning
import Recordbook.Proofs.Constraints
import Recordbook.Proofs.PageCount

/-!
# What data changes in a record

Data names columns and gives each a value. Each value is compared with the one that is read from the
record, and only those that differ are written. So what is written is settled column by column: the
order of the data and its other names play no part.

A column that is given another value than it has keeps what its kind makes of it. Every other column
stays, but for the time of the last change: it is set to now if anything is written, unless a time
is written itself. A time that the record has already is not written. So a record that is given its
own time of change back, beside another value that is new, does not keep it.

## Main definitions

* `Row.GivenAnew` — data gives a column another value than the record has
* `Row.ChangedBy` — what data makes of a record
* `Row.Breaks` — a record breaks a constraint beside others

## Main results

* `Draft.mem_changes_iff` — what is written
* `Draft.changedBy_of_changedRecord` — what comes of it
* `Draft.changedBy_of_applyChanges`, `Draft.applyChanges_of_kept` — changes that were made, and
  changes that can be
-/

namespace Recordbook

/-! ### Values that fit -/

namespace Column

variable {c : Column} {v : Value}

/-- Every column keeps null as nothing. -/
theorem cellOf?_null (c : Column) : c.cellOf? .null = some .empty := by
  obtain ⟨field, kind, nullable, default⟩ := c
  cases kind <;> rfl

/-- No column can keep a number that must not be compared. -/
theorem isSignaling_of_cellOf? (h : (c.cellOf? v).isSome = true) : v.isSignaling = false := by
  obtain ⟨field, kind, nullable, default⟩ := c
  cases signaling : v.isSignaling with
  | false => rfl
  | true =>
    obtain ⟨s, payload, rfl⟩ : ∃ s payload, v = .decimal (.nan s true payload) := by
      unfold Value.isSignaling at signaling
      split at signaling
      · exact ⟨_, _, by rw [signaling]⟩
      · cases signaling
    cases kind <;> cases h

end Column

/-! ### What is written -/

namespace Row

variable {e : Entity} {data : Entries} {row : Row} {c : Column} {v w : Value}

/-- Data gives a column of a record another value than the one that is read from it. -/
def GivenAnew (e : Entity) (data : Entries) (row : Row) (c : Column) (v : Value) : Prop :=
  c ∈ e.columns ∧ data.get? c.field.label = some v ∧ v.same (row.value c.field) = false

theorem GivenAnew.unique (h : row.GivenAnew e data c v) (h' : row.GivenAnew e data c w) : v = w :=
  Option.some_inj.mp (h.2.1.symm.trans h'.2.1)

/-- What data makes of a record at some time. -/
structure ChangedBy (t : Timestamp) (e : Entity) (data : Entries) (row new : Row) : Prop where
  /-- A column that is given another value keeps that value. -/
  given {c : Column} {v : Value} (h : row.GivenAnew e data c v) :
    c.cellOf? v = some (new.cell c.field)
  /-- Everything else stays, but for the time of a user's last change. -/
  kept {f : Field} (h : ∀ c v, row.GivenAnew e data c v → c.field ≠ f)
    (other : e = .user → f ≠ .updatedAt) : new.cell f = row.cell f
  /-- That is set to the time, unless it is given another one. -/
  touched (users : e = .user) (renewed : ∃ c v, row.GivenAnew e data c v)
    (h : ∀ c v, row.GivenAnew e data c v → c.field ≠ .updatedAt) :
    new.cell .updatedAt = .moment t
  /-- Nothing changes if nothing is given another value. -/
  unchanged (still : ∀ c v, ¬ row.GivenAnew e data c v) : new = row

end Row

namespace Draft

variable {o : Occasion} {e : Entity} {data : Entries} {row new : Row} {s next : Store}

/-- The column that an entry of data is for, by its key. -/
def columnNamed? (e : Entity) : Value → Option Column
  | .str s => e.column? s
  | _ => none

theorem columnEntries_eq (e : Entity) (data : Entries) : columnEntries e data =
    data.filterMap fun entry => (columnNamed? e entry.1).map fun c => (c, entry.2) := by
  refine List.filterMap_congr fun entry _ => ?_
  cases entry.1 <;> rfl

/-- An entry is for a column if its key is the name of the column. -/
theorem columnNamed?_any {c : Column} (hc : c ∈ e.columns) (key : Value) :
    (columnNamed? e key).any (fun d => d.field = c.field) = key.isText c.field.label := by
  cases key with
  | str s =>
    rw [columnNamed?, Value.isText_str, Bool.eq_iff_iff, Option.any_eq_true, decide_eq_true_eq]
    constructor
    · rintro ⟨d, found, same⟩
      have label : d.field.label = s := by simpa using List.find?_some found
      rw [← label, of_decide_eq_true same]
    · rintro rfl
      exact ⟨c, e.column?_label c hc, decide_eq_true rfl⟩
  | _ => rfl

/-- What data gives to a column is the value under its name. -/
theorem given?_eq {c : Column} (hc : c ∈ e.columns) (data : Entries) :
    given? e data c = (data.get? c.field.label).map fun v => (c, v) := by
  rw [given?, columnEntries_eq, List.find?_filterMap, Entries.get?, Option.map_map]
  simp only [Option.any_map, Function.comp_def, columnNamed?_any hc]
  cases found : data.find? fun entry => entry.1.isText c.field.label with
  | none => rfl
  | some entry =>
    have text : entry.1.isText c.field.label = true := by simpa using List.find?_some found
    simp [Value.isText_iff.mp text, columnNamed?, e.column?_label c hc]

/-- What is written is what data gives anew. -/
theorem mem_changes_iff {c : Column} {v : Value} :
    (c, v) ∈ changes e row data ↔ row.GivenAnew e data c v := by
  rw [changes, List.mem_filterMap]
  constructor
  · rintro ⟨d, hd, changed⟩
    rw [given?_eq hd, Option.bind_map] at changed
    obtain ⟨w, given, other⟩ := Option.bind_eq_some_iff.mp changed
    dsimp only [Function.comp_apply] at other
    split at other
    · cases other
    · rename_i differs
      cases other
      exact ⟨hd, given, by simpa using differs⟩
  · rintro ⟨hc, given, differs⟩
    refine ⟨c, hc, ?_⟩
    rw [given?_eq hc, given]
    simp [differs]

/-- Only what data gives to columns counts. -/
theorem given?_congr {data data' : Entries}
    (same : ∀ c ∈ e.columns, data'.get? c.field.label = data.get? c.field.label) :
    ∀ c ∈ e.columns, given? e data' c = given? e data c := by
  intro c hc
  rw [given?_eq hc, given?_eq hc, same c hc]

theorem applyChanges_congr {data data' : Entries}
    (same : ∀ c ∈ e.columns, data'.get? c.field.label = data.get? c.field.label) :
    applyChanges o e row data' s = applyChanges o e row data s := by
  have given := given?_congr same
  have changed : changes e row data' = changes e row data :=
    List.filterMap_congr fun c hc => by rw [given c hc]
  rw [applyChanges, applyChanges, changed, List.filterMap_congr given]

/-! ### What comes of it -/

/-- The time of the last change is set if it is a user that changes, and no time is written. -/
theorem mem_touched_iff {c : Column} :
    c ∈ e.columns.filter (isTouched (changes e row data)) ↔
      e = .user ∧ c ∈ e.columns ∧ c.field = .updatedAt ∧
        ∀ d v, row.GivenAnew e data d v → d.field ≠ .updatedAt := by
  have users : ∀ c ∈ e.columns, c.field = .updatedAt → e = .user := by cases e <;> decide
  have timeless : ((changes e row data).any fun g => g.1.field = .updatedAt) = false ↔
      ∀ d v, row.GivenAnew e data d v → d.field ≠ .updatedAt := by
    rw [List.any_eq_false]
    constructor
    · exact fun others d v anew => by simpa using others (d, v) (mem_changes_iff.mpr anew)
    · exact fun others g hg => by simpa using others g.1 g.2 (mem_changes_iff.mp hg)
  rw [List.mem_filter, isTouched, Bool.and_eq_true, Bool.not_eq_true', decide_eq_true_eq, timeless]
  constructor
  · rintro ⟨hc, updated, others⟩
    exact ⟨users c hc updated, hc, updated, others⟩
  · rintro ⟨-, hc, updated, others⟩
    exact ⟨hc, updated, others⟩

/-- **What is written makes of a record** what the data says. -/
theorem changedBy_of_changedRecord (renewed : ∃ c v, row.GivenAnew e data c v)
    (h : changedRecord o e row (changes e row data) = .ok new) :
    row.ChangedBy o.now e data new := by
  obtain ⟨cells, bound, made⟩ := bind_eq_ok.mp h
  cases pure_eq_ok.mp made
  obtain ⟨keeps, kept⟩ := mem_of_bindColumns bound
  -- a column that is set was given anew and holds what it was given, or is the time of the change
  have set {p : Field × Cell} (hp : p ∈ cells.map fun p => (p.1.field, p.2)) :
      ∃ c v, row.GivenAnew e data c v ∧ c.field = p.1 ∧ c.cellOf? v = some p.2 := by
    obtain ⟨q, hq, rfl⟩ := List.mem_map.mp hp
    obtain ⟨v, hv, cell⟩ := kept q hq
    exact ⟨q.1, v, mem_changes_iff.mp hv, rfl, cell⟩
  have touched {p : Field × Cell} (hp : p ∈ (e.columns.filter (isTouched (changes e row data))).map
      fun c => (c.field, Cell.moment o.now)) :
      e = .user ∧ p = (.updatedAt, .moment o.now) ∧
        ∀ d v, row.GivenAnew e data d v → d.field ≠ .updatedAt := by
    obtain ⟨c, hc, rfl⟩ := List.mem_map.mp hp
    obtain ⟨users, -, updated, others⟩ := mem_touched_iff.mp hc
    exact ⟨users, by rw [updated], others⟩
  constructor
  case given =>
    intro c v anew
    obtain ⟨cell, hcell, hm⟩ := keeps (c, v) (mem_changes_iff.mpr anew)
    rw [Row.cell_setAll_of_ne, Row.cell_setAll_of_mem (List.mem_map.mpr ⟨(c, cell), hm, rfl⟩)]
    · exact hcell
    · intro p hp same
      obtain ⟨d, w, anew', field, held⟩ := set hp
      cases e.eq_of_field d anew'.1 c anew.1 (field.trans same)
      rw [anew'.unique anew, hcell] at held
      exact Option.some_inj.mp held.symm
    · intro p hp same
      obtain ⟨-, rfl, others⟩ := touched hp
      exact others c v anew same.symm
  case kept =>
    intro f others timeless
    rw [Row.cell_setAll_of_ne, Row.cell_setAll_of_ne]
    · intro p hp same
      obtain ⟨c, v, anew, field, -⟩ := set hp
      exact others c v anew (field.trans same)
    · intro p hp same
      obtain ⟨users, rfl, -⟩ := touched hp
      exact timeless users same.symm
  case touched =>
    intro users _ others
    obtain ⟨c, hc, updated⟩ : ∃ c ∈ e.columns, c.field = .updatedAt := by
      subst users
      decide
    have here := mem_touched_iff.mpr ⟨users, hc, updated, others⟩
    refine Row.cell_setAll_of_mem (List.mem_map.mpr ⟨c, here, by rw [updated]⟩) fun p hp _ => ?_
    rw [(touched hp).2.1]
  case unchanged =>
    intro still
    obtain ⟨c, v, anew⟩ := renewed
    exact absurd anew (still c v)

/-- A record stays as it is with data that gives it nothing anew. -/
theorem changedBy_self (still : ∀ c v, ¬ row.GivenAnew e data c v) (t : Timestamp) :
    row.ChangedBy t e data row where
  given anew := absurd anew (still _ _)
  kept _ _ := rfl
  touched _ renewed _ := absurd renewed (by simpa using still)
  unchanged _ := rfl

theorem changes_eq_nil_iff : changes e row data = [] ↔ ∀ c v, ¬ row.GivenAnew e data c v := by
  rw [List.eq_nil_iff_forall_not_mem]
  exact ⟨fun still c v anew => still _ (mem_changes_iff.mpr anew),
    fun still g hg => still g.1 g.2 (mem_changes_iff.mp hg)⟩

/-- Changes that were made. -/
theorem changedBy_of_applyChanges (h : applyChanges o e row data s = .ok (next, new)) :
    row.ChangedBy o.now e data new ∧ (next = s ∧ new = row ∨ s.replace e row new = .ok next) := by
  rw [applyChanges] at h
  split at h
  · cases h
  · split at h
    · rename_i still
      cases h
      exact ⟨changedBy_self (changes_eq_nil_iff.mp still) o.now, .inl ⟨rfl, rfl⟩⟩
    · rename_i renewed
      obtain ⟨changed, made, h⟩ := bind_eq_ok.mp h
      obtain ⟨replaced, hr, h⟩ := bind_eq_ok.mp h
      cases pure_eq_ok.mp h
      have anew : ∃ c v, row.GivenAnew e data c v := by
        by_contra still
        exact renewed (changes_eq_nil_iff.mpr (by simpa using still))
      exact ⟨changedBy_of_changedRecord anew made, .inr (mapError_eq_ok.mp hr)⟩

/-! ### Changes that can be made -/

/-- Values that can be kept can be bound. -/
theorem exists_bindColumns {values : List (Column × Value)}
    (fits : ∀ g ∈ values, (g.1.cellOf? g.2).isSome = true) :
    ∃ cells, bindColumns values = .ok cells := by
  have steps (g : Column × Value) (hg : g ∈ values) :
      ∃ q p, processColumn g.1 g.2 = .ok q ∧ acceptColumn q = .ok p := by
    obtain ⟨cell, kept⟩ := Option.isSome_iff_exists.mp (fits g hg)
    obtain ⟨q, processed, accepted⟩ := (accept_process_eq_ok (p := (g.1, cell))).mpr ⟨rfl, kept⟩
    exact ⟨q, _, processed, accepted⟩
  obtain ⟨processed, hp⟩ : ∃ qs, values.mapM (fun g => processColumn g.1 g.2) = .ok qs :=
    exists_mapM_eq_ok fun g hg => by
      obtain ⟨q, -, hq, -⟩ := steps g hg
      exact ⟨q, hq⟩
  obtain ⟨cells, hc⟩ : ∃ cells, processed.mapM acceptColumn = .ok cells :=
    exists_mapM_eq_ok fun q hq => by
      obtain ⟨g, hg, made⟩ := (mem_of_mapM_eq_ok hp).2 q hq
      obtain ⟨q', p, hq', accepted⟩ := steps g hg
      cases made.symm.trans hq'
      exact ⟨p, accepted⟩
  exact ⟨cells, bind_eq_ok.mpr ⟨processed, hp, hc⟩⟩

/-- **Changes by values that can be kept** come to a record, and only the store can refuse it. -/
theorem applyChanges_of_kept (row : Row) (o : Occasion) (s : Store)
    (fits : ∀ c ∈ e.columns, ∀ v, data.get? c.field.label = some v → (c.cellOf? v).isSome = true) :
    ∃ new, row.ChangedBy o.now e data new ∧
      (applyChanges o e row data s = .ok (s, row) ∧ new = row ∨
        applyChanges o e row data s =
          ((s.replace e row new).mapError refused).map fun next => (next, new)) := by
  have comparable : (e.columns.filterMap (given? e data)).any (isIncomparable row) = false := by
    refine List.any_eq_false.mpr fun g hg => ?_
    obtain ⟨c, hc, given⟩ := List.mem_filterMap.mp hg
    rw [given?_eq hc] at given
    obtain ⟨v, hv, rfl⟩ := Option.map_eq_some_iff.mp given
    simp [isIncomparable, Column.isSignaling_of_cellOf? (fits c hc v hv)]
  obtain ⟨cells, bound⟩ : ∃ cells, bindColumns (changes e row data) = .ok cells :=
    exists_bindColumns fun g hg =>
      have anew := mem_changes_iff.mp hg
      fits g.1 anew.1 g.2 anew.2.1
  obtain ⟨new, made⟩ : ∃ new, changedRecord o e row (changes e row data) = .ok new :=
    ⟨_, bind_eq_ok.mpr ⟨cells, bound, rfl⟩⟩
  by_cases renewed : ∃ c v, row.GivenAnew e data c v
  · refine ⟨new, changedBy_of_changedRecord renewed made, .inr ?_⟩
    rw [applyChanges, comparable, if_neg Bool.false_ne_true]
    split
    · rename_i still
      obtain ⟨c, v, anew⟩ := renewed
      exact absurd anew (changes_eq_nil_iff.mp still c v)
    · rw [made]
      change ((s.replace e row new).mapError refused >>= fun next => pure (next, new)) = _
      cases (s.replace e row new).mapError refused <;> rfl
  · have still : ∀ c v, ¬ row.GivenAnew e data c v := by simpa using renewed
    refine ⟨row, changedBy_self still o.now, .inl ⟨?_, rfl⟩⟩
    rw [applyChanges, comparable, if_neg Bool.false_ne_true, changes_eq_nil_iff.mpr still]

end Draft

/-! ### What the store says of it -/

/-- A record breaks a constraint beside others: a column that must be filled is empty, or the record
shares a unique key with one of the others. -/
def Row.Breaks (e : Entity) (others : List Row) (row : Row) : Prop :=
  (∃ c ∈ e.columns, c.nullable = false ∧ row.cell c.field = .empty) ∨
    ∃ key ∈ Store.allKeys e, ∃ other ∈ others,
      ∀ f ∈ key, row.cell f ≠ .empty ∧ row.cell f = other.cell f

theorem Cell.isEmpty_eq_false_iff {c : Cell} : c.isEmpty = false ↔ c ≠ .empty := by
  cases c <;> simp [isEmpty]

theorem Store.agree_iff {key : List Field} {a b : Row} :
    agree key a b = true ↔ ∀ f ∈ key, a.cell f ≠ .empty ∧ a.cell f = b.cell f := by
  simp [agree, Cell.isEmpty_eq_false_iff]

/-- The store takes a record exactly if it breaks no constraint. -/
theorem Store.violation?_eq_none_iff_not_breaks {e : Entity} {others : List Row} {row : Row} :
    violation? e others row = none ↔ ¬ row.Breaks e others := by
  rw [violation?_eq_none_iff, unfilled?_eq_none_iff, clash?, List.find?_eq_none, Row.Breaks, not_or]
  refine and_congr ?_ ?_
  · simp only [Cell.isEmpty_eq_false_iff, not_exists, not_and]
  · simp only [List.any_eq_true, agree_iff, not_exists, not_and]

/-- A record of a sound table breaks no constraint beside the others. -/
theorem SoundTable.not_breaks {e : Entity} {before after : List Row} {row : Row}
    (h : SoundTable e (before ++ row :: after)) : ¬ row.Breaks e (before ++ after) := by
  rintro (⟨c, hc, must, empty⟩ | ⟨key, hk, other, hm, agree⟩)
  · have filled := Store.unfilled?_eq_none_iff.mp (h.filled row (by simp)) c hc must
    exact Cell.isEmpty_eq_false_iff.mp filled empty
  · have distinct := h.distinct key hk
    rw [List.map_append, List.map_cons, List.nodup_middle, List.nodup_cons,
      ← List.map_append] at distinct
    exact distinct.1 (List.mem_map.mpr
      ⟨other, hm, List.map_congr_left fun f hf => (agree f hf).2.symm⟩)

end Recordbook

import Recordbook.Proofs.Creation
import Recordbook.Proofs.ReservedNames
import Recordbook.Proofs.StoredValues

/-!
# Updating a record or inserting it

An upsert looks for the record that has some values. If there is none it inserts one that is made of
the values and some data beside them. If there is one it changes that record by some other data. Two
such records are an error.

Where the values are kept as they are, and none of the data is for their columns, the record has the
values after either of these, and no other record has come to have them. So the same call finds it
and changes it, whatever became of the session and the time in between. There are two exceptions. A
reference that is given as absent empties its column on a new record, whatever value is given for
the column. And the time of a user's last change moves with the change.

## Main definitions

* `Row.Matches` — a record has some values
* `Repository.UpsertChanges` — an upsert that succeeds on a store changes one record
* `Repository.Unsettled` — an upsert that succeeds twice inserts a record the second time

## Main results

* `Repository.search_cases` — what a search finds is what matches
* `Repository.upsert_of_none`, `Repository.upsert_of_one`, `Repository.upsert_of_several` — how an
  upsert goes, by the number of records that match
* `upsert_settles` — what an upsert writes, and what it writes if it is repeated
* `upsert_unsettled` — the exceptions occur
-/

namespace Recordbook

/-! ### Mappings -/

namespace Entries

variable {es new : Entries}

/-- Entries with new keys are put at the end of a mapping. -/
theorem putAll_of_distinct (h : (es ++ new).Distinct) : putAll new es = es ++ new := by
  induction new generalizing es with
  | nil => exact (List.append_nil es).symm
  | cons entry rest ih =>
    obtain ⟨key, v⟩ := entry
    have fresh : ∀ e ∈ es, e.1.same key = false := fun e he =>
      (List.pairwise_append.mp h).2.2 e he (key, v) List.mem_cons_self
    change putAll rest (put key v es) = _
    rw [put_of_fresh _ _ _ fresh, ih, List.append_assoc]
    · rfl
    · rwa [List.append_assoc]

/-- Entries whose keys differ from a name give no value under it. -/
theorem get?_of_apart {name : String} (h : ∀ entry ∈ es, (Value.str name).same entry.1 = false) :
    es.get? name = none := by
  cases found : es.get? name with
  | none => rfl
  | some v =>
    have other := h _ (mem_of_get? found)
    simp at other

end Entries

/-! ### Matching -/

/-- A record has each of some values in the column of its name. -/
def Row.Matches (e : Entity) (values : Entries) (row : Row) : Prop :=
  ∀ entry ∈ values, ∃ column ∈ e.columns,
    entry.1 = .str column.field.label ∧ row.Has column entry.2

/-- A value is kept as it is by the column of its name. -/
def Entity.KeepsAll (e : Entity) (values : Entries) : Prop :=
  ∀ entry ∈ values, ∃ column ∈ e.columns,
    entry.1 = .str column.field.label ∧ column.Keeps entry.2

/-- A value can be compared with the column of its name. -/
def Entity.Binds (e : Entity) (values : Entries) : Prop :=
  ∀ entry ∈ values, ∃ column ∈ e.columns, entry.1 = .str column.field.label ∧
    ∃ d, (Criteria.equalityOperand column entry.2).process = .ok (.bound d)

namespace Criteria

variable {e : Entity} {values : Entries} {r : Repository}

/-- The column of a name. -/
theorem mem_of_columnOf {key : Value} {c : Column} (h : e.columnOf key = .ok c) :
    c ∈ e.columns ∧ key = .str c.field.label := by
  obtain ⟨name, rfl, column⟩ := Entity.columnOf_eq_ok h
  have label : c.field.label = name := by simpa using List.find?_some column
  exact ⟨List.mem_of_find?_eq_some column, by rw [label]⟩

/-- The column of an entry is known by its name. -/
theorem exists_column_iff {key : Value} {c : Column} (hc : c ∈ e.columns)
    (hkey : key = .str c.field.label) {p : Column → Prop} :
    (∃ d ∈ e.columns, key = .str d.field.label ∧ p d) ↔ p c := by
  constructor
  · rintro ⟨d, hd, same, h⟩
    rw [hkey, Value.str.injEq] at same
    rwa [e.eq_of_field c hc d hd (Field.label_injective same)]
  · exact fun h => ⟨c, hc, hkey, h⟩

/-- A value that is looked for is bound. -/
theorem exists_datum_of_bind {c : Column} {v : Value} {ds : List (Criterion Datum)}
    (some : v.isNull = false) (h : bind [equality c v] = .ok ds) :
    ∃ d, (equalityOperand c v).process = .ok (.bound d) := by
  have criterion : equality c v = .compare c.field .eq (equalityOperand c v) := by
    cases v <;> first | rfl | cases some
  rw [criterion] at h
  obtain ⟨d, hd, -⟩ := bind_compare_ok.mp h
  exact ⟨d, hd⟩

/-- **Criteria for values** bind each of them, and are met by the records that match them. -/
theorem matches_of_equalities {criteria : List (Criterion Operand)}
    {bound : List (Criterion Datum)} (filled : ∀ entry ∈ values, entry.2.isNull = false)
    (hc : r.equalities values = .ok criteria) (hd : bind criteria = .ok bound) :
    r.entity.Binds values ∧ ∀ s row, hold s row bound = true ↔ row.Matches r.entity values := by
  induction values generalizing criteria bound with
  | nil =>
    rw [Repository.equalities, List.mapM_nil] at hc
    cases pure_eq_ok.mp hc
    rw [bind_nil] at hd
    cases hd
    refine ⟨fun entry he => absurd he List.not_mem_nil, fun s row => iff_of_true (hold_nil ..) ?_⟩
    exact fun entry he => absurd he List.not_mem_nil
  | cons entry rest ih =>
    rw [Repository.equalities, List.mapM_cons] at hc
    obtain ⟨criterion, here, hc⟩ := bind_eq_ok.mp hc
    obtain ⟨others, there, hc⟩ := bind_eq_ok.mp hc
    cases pure_eq_ok.mp hc
    obtain ⟨column, named, rfl⟩ := map_eq_ok.mp here
    obtain ⟨xs, ys, hx, hy, rfl⟩ :=
      bind_append_ok.mp (show bind ([_] ++ others) = .ok bound from hd)
    obtain ⟨member, key⟩ := mem_of_columnOf named
    have some := filled entry List.mem_cons_self
    obtain ⟨later, holds⟩ := ih (fun entry he => filled entry (List.mem_cons_of_mem _ he)) there hy
    refine ⟨List.forall_mem_cons.mpr ⟨⟨column, member, key, exists_datum_of_bind some hx⟩, later⟩,
      fun s row => ?_⟩
    rw [hold_append, Bool.and_eq_true, (hold_equality some hx).2 s row, holds, Row.Matches,
      Row.Matches, List.forall_mem_cons, exists_column_iff member key]

end Criteria

/-! ### Searching -/

namespace Repository

variable {r : Repository} {c : Context} {s : Session} {values created updated : Entries}

/-- **What a search finds** is what matches: nothing, or the only record that does. -/
theorem search_cases {entries : Entries} {found : Option Row}
    (filled : ∀ entry ∈ values, entry.2.isNull = false)
    (h : r.search s (.map values) = .ok (entries, found)) :
    entries = values ∧ r.entity.Binds values ∧
    ∀ row, row ∈ s.working.rows r.entity ∧ row.Matches r.entity values ↔ found = some row := by
  obtain ⟨given, hg, h⟩ := bind_eq_ok.mp h
  cases (mapError_eq_ok.mp hg : Value.entries (.map values) = .ok given)
  obtain ⟨criteria, hc, h⟩ := bind_eq_ok.mp h
  obtain ⟨looked, hf, h⟩ := bind_eq_ok.mp h
  cases pure_eq_ok.mp h
  obtain ⟨-, -, hf⟩ := bind_eq_ok.mp hf
  obtain ⟨bound, hd, hf⟩ := bind_eq_ok.mp hf
  obtain ⟨operands, holds⟩ := Criteria.matches_of_equalities filled hc hd
  refine ⟨rfl, operands, fun row => ?_⟩
  rw [← holds s.working row, ← Select.mem_matching]
  split at hf
  · rename_i none
    cases hf
    simp [none]
  · rename_i only
    cases hf
    simp [only, eq_comm]
  · cases hf

/-! ### The three ways -/

/-- What an upsert is called in messages and logs. -/
def upserting : Action := ⟨"upserting", false, "upsert"⟩

theorem isNull_of_keepsAll (keeps : r.entity.KeepsAll values) :
    ∀ entry ∈ values, entry.2.isNull = false := fun entry he => by
  obtain ⟨column, -, -, kept, -⟩ := keeps entry he
  exact kept

/-- An upsert that succeeds was made on a session under way, and its search was not in vain. -/
theorem upsert_success
    (success : (r.upsert c s (.map values) (.map created) (.map updated)).reply.isSuccess = true) :
    s.isActive = true ∧ ∃ found, r.search s (.map values) = .ok found := by
  constructor
  · by_contra ended
    rw [Bool.not_eq_true] at ended
    have failed := ((WriteCall.upsert r (.map values) (.map created)
      (.map updated)).run_of_not_isActive c ended).1
    exact Bool.false_ne_true (failed.symm.trans success)
  · rw [upsert, isSuccess_reportWrite, addOrChange_eq] at success
    cases search : r.search s (.map values) with
    | error f =>
      rw [search] at success
      cases success
    | ok found => exact ⟨found, rfl⟩

/-- Where nothing is found, a record is inserted. -/
theorem upsert_of_absent (absent : r.search s (.map values) = .ok (values, none))
    (distinct : (values ++ created).Distinct) :
    r.upsert c s (.map values) (.map created) (.map updated) =
      r.reportWrite upserting [.map values, .map created, .map updated]
        (match Draft.ofEntries r.entity (values ++ created) with
          | .error f => (.error f, s)
          | .ok draft =>
            ((r.insertDraft c s draft).1.map (r.written 201), (r.insertDraft c s draft).2)) := by
  have beside : r.draftBeside values (.map created) =
      Draft.ofEntries r.entity (values ++ created) := by
    rw [← Entries.putAll_of_distinct distinct]
    rfl
  rw [upsert, addOrChange_eq, absent]
  dsimp only
  rw [beside]
  rfl

/-- Where a record is found, it is changed. -/
theorem upsert_of_present {row : Row}
    (present : r.search s (.map values) = .ok (values, some row)) :
    r.upsert c s (.map values) (.map created) (.map updated) =
      r.reportWrite upserting [.map values, .map created, .map updated]
        ((r.changeRow c s row updated).1.map (r.written 200), (r.changeRow c s row updated).2) := by
  rw [upsert, addOrChange_eq, present]
  rfl

/-- **Nothing matches**: a record is inserted, made of the values and the data beside them. -/
theorem upsert_of_none (keeps : r.entity.KeepsAll values) (distinct : (values ++ created).Distinct)
    (none : ∀ row ∈ s.working.rows r.entity, ¬ row.Matches r.entity values)
    (success : (r.upsert c s (.map values) (.map created) (.map updated)).reply.isSuccess = true) :
    r.entity.Binds values ∧
    ∃ draft row, Draft.ofEntries r.entity (values ++ created) = .ok draft ∧
      draft.record c.occasion r.entity = .ok row ∧
      ¬ row.Breaks r.entity (s.working.rows r.entity) ∧
      (r.upsert c s (.map values) (.map created) (.map updated)).reply = r.written 201 row ∧
      (r.upsert c s (.map values) (.map created) (.map updated)).session =
        s.wrote (s.working.setRows r.entity (s.working.rows r.entity ++ [row])) := by
  obtain ⟨active, ⟨entries, found⟩, search⟩ := upsert_success success
  obtain ⟨rfl, binds, matched⟩ := search_cases (isNull_of_keepsAll keeps) search
  refine ⟨binds, ?_⟩
  have nothing : found = Option.none := by
    cases found with
    | none => rfl
    | some row =>
      obtain ⟨here, has⟩ := (matched row).mpr rfl
      exact absurd has (none row here)
  rw [upsert_of_absent (nothing ▸ search) distinct] at success ⊢
  cases drafted : Draft.ofEntries r.entity (entries ++ created) with
  | error f =>
    rw [drafted] at success
    cases success
  | ok draft =>
    simp only [drafted, insertDraft, Session.writeGuard_of_isActive active] at success ⊢
    cases inserted : draft.insert c.occasion r.entity s.working with
    | error f =>
      rw [inserted] at success
      cases success
    | ok stored =>
      obtain ⟨next, row⟩ := stored
      obtain ⟨made, sound, rfl⟩ := Draft.insert_eq_ok inserted
      exact ⟨draft, row, rfl, made, sound, rfl, rfl⟩

/-- **One record matches**: it is changed, and no other record. -/
theorem upsert_of_one {before after : List Row} {row : Row}
    (keyed : KeyedRows (s.working.rows r.entity)) (keeps : r.entity.KeepsAll values)
    (table : s.working.rows r.entity = before ++ row :: after)
    (has : row.Matches r.entity values)
    (success : (r.upsert c s (.map values) (.map created) (.map updated)).reply.isSuccess = true) :
    ∃ new, row.ChangedBy c.occasion.now r.entity updated new ∧
      (new = row ∨ ¬ new.Breaks r.entity (before ++ after)) ∧
      (r.upsert c s (.map values) (.map created) (.map updated)).reply = r.written 200 new ∧
      (r.upsert c s (.map values) (.map created) (.map updated)).session.working =
        s.working.setRows r.entity (before ++ new :: after) := by
  obtain ⟨-, ⟨entries, found⟩, search⟩ := upsert_success success
  obtain ⟨rfl, -, matched⟩ := search_cases (isNull_of_keepsAll keeps) search
  obtain rfl : found = some row := (matched row).mp ⟨by simp [table], has⟩
  rw [upsert_of_present search] at success ⊢
  cases applied : Draft.applyChanges c.occasion r.entity row updated s.working with
  | error f =>
    simp only [changeRow, applied] at success
    cases success
  | ok stored =>
    obtain ⟨next, new⟩ := stored
    simp only [changeRow, applied]
    obtain ⟨changed, replaced⟩ := Draft.changedBy_of_applyChanges applied
    rcases replaced with ⟨rfl, rfl⟩ | replaced
    · refine ⟨new, changed, .inl rfl, rfl, ?_⟩
      rw [← table, Store.setRows_rows]
      rfl
    · refine ⟨new, changed, .inr ?_, rfl, Store.eq_of_replace keyed table replaced⟩
      rw [Store.replace_of_append keyed table] at replaced
      split at replaced
      · cases replaced
      · rename_i sound
        exact Store.violation?_eq_none_iff_not_breaks.mp sound

/-- **Several records match**: that is an error, and nothing changes. -/
theorem upsert_of_several {row other : Row} (keeps : r.entity.KeepsAll values)
    (here : row ∈ s.working.rows r.entity) (there : other ∈ s.working.rows r.entity)
    (apart : row ≠ other) (has : row.Matches r.entity values)
    (has' : other.Matches r.entity values) :
    (r.upsert c s (.map values) (.map created) (.map updated)).reply.isSuccess = false ∧
      (r.upsert c s (.map values) (.map created) (.map updated)).session = s := by
  rw [upsert, isSuccess_reportWrite, reportWrite, addOrChange_eq]
  cases search : r.search s (.map values) with
  | error f => exact ⟨rfl, rfl⟩
  | ok found =>
    obtain ⟨-, -, matched⟩ := search_cases (isNull_of_keepsAll keeps) search
    have same := ((matched row).mp ⟨here, has⟩).symm.trans ((matched other).mp ⟨there, has'⟩)
    exact absurd (Option.some_inj.mp same) apart

/-! ### Upserts that succeed -/

section

variable {bound : List (Criterion Datum)}

/-- A search finds what meets the criteria for its values, if it is at most one record. -/
theorem search_of_filter {found : Option Row} (active : s.isActive = true)
    (bounds : (r.equalities values).bind Criteria.bind = .ok bound)
    (only : (s.working.rows r.entity).filter (Criteria.hold s.working · bound) = found.toList) :
    r.search s (.map values) = .ok (values, found) := by
  obtain ⟨criteria, hc, hd⟩ := bind_eq_ok.mp bounds
  exact bind_eq_ok.mpr ⟨values, rfl, bind_eq_ok.mpr
    ⟨criteria, hc, bind_eq_ok.mpr ⟨found, findUnique_of_filter active hd only, rfl⟩⟩⟩

/-- An upsert that finds nothing succeeds if its record can be inserted. -/
theorem upsert_inserts (updated : Entries) {draft : Draft} {wanted : Row → Bool}
    (active : s.isActive = true) (distinct : (values ++ created).Distinct)
    (bounds : (r.equalities values).bind Criteria.bind = .ok bound)
    (nothing : (s.working.rows r.entity).filter (Criteria.hold s.working · bound) = [])
    (drafted : Draft.ofEntries r.entity (values ++ created) = .ok draft)
    (inserted : draft.isInserted c.occasion r.entity (s.working.rows r.entity) wanted = true) :
    ∃ row, wanted row = true ∧
      (r.upsert c s (.map values) (.map created) (.map updated)).reply = r.written 201 row ∧
      (r.upsert c s (.map values) (.map created) (.map updated)).session =
        s.wrote (s.working.setRows r.entity (s.working.rows r.entity ++ [row])) := by
  obtain ⟨complete, row, made, sound, kept⟩ := Draft.isInserted_iff.mp inserted
  have absent : r.search s (.map values) = .ok (values, none) :=
    search_of_filter active bounds nothing
  refine ⟨row, kept, ?_⟩
  simp only [upsert_of_absent absent distinct, drafted,
    (insertDraft_of_record active made complete).1 sound]
  exact ⟨rfl, rfl⟩

/-- An upsert that finds a record succeeds if the changes to it can be made. -/
theorem upsert_changes (created : Entries) {row new : Row} {next : Store}
    (active : s.isActive = true) (bounds : (r.equalities values).bind Criteria.bind = .ok bound)
    (only : (s.working.rows r.entity).filter (Criteria.hold s.working · bound) = [row])
    (applied : Draft.applyChanges c.occasion r.entity row updated s.working = .ok (next, new)) :
    (r.upsert c s (.map values) (.map created) (.map updated)).reply = r.written 200 new ∧
      (r.upsert c s (.map values) (.map created) (.map updated)).session = s.wrote next := by
  have present : r.search s (.map values) = .ok (values, some row) :=
    search_of_filter active bounds only
  simp only [upsert_of_present present, changeRow, applied]
  exact ⟨rfl, rfl⟩

/-- Whether an upsert on a store finds nothing and can insert the record of a draft. -/
def insertsInto (r : Repository) (c : Context) (store : Store) (bound : List (Criterion Datum))
    (draft : Draft) : Bool :=
  ((store.rows r.entity).filter (Criteria.hold store · bound)).isEmpty &&
    draft.isInserted c.occasion r.entity (store.rows r.entity) fun _ => true

/-- If it does and can, that is what it answers. -/
theorem upsert_of_insertsInto (updated : Entries) {draft : Draft} (active : s.isActive = true)
    (distinct : (values ++ created).Distinct)
    (bounds : (r.equalities values).bind Criteria.bind = .ok bound)
    (drafted : Draft.ofEntries r.entity (values ++ created) = .ok draft)
    (inserts : r.insertsInto c s.working bound draft = true) :
    ∃ row,
      (r.upsert c s (.map values) (.map created) (.map updated)).reply = r.written 201 row := by
  obtain ⟨nothing, inserted⟩ := Bool.and_eq_true_iff.mp inserts
  obtain ⟨row, -, reply, -⟩ := upsert_inserts updated active distinct bounds
    (List.isEmpty_iff.mp nothing) drafted inserted
  exact ⟨row, reply⟩

end

end Repository

/-! ### Matching afterwards -/

namespace Row

variable {e : Entity} {values created updated : Entries} {row new : Row}

/-- Only the columns of the values count. -/
theorem Matches.congr (has : row.Matches e values)
    (same : ∀ c ∈ e.columns, values.has c.field.label = true →
      new.cell c.field = row.cell c.field) : new.Matches e values := by
  intro entry he
  obtain ⟨column, hc, key, d, bound, equal⟩ := has entry he
  refine ⟨column, hc, key, d, bound, ?_⟩
  rwa [same column hc (List.any_eq_true.mpr ⟨entry, he, by simp [key]⟩)]

/-- **A changed record still matches**, unless the time of its last change was a value. -/
theorem ChangedBy.matches {t : Timestamp} (changed : row.ChangedBy t e updated new)
    (has : row.Matches e values)
    (apart : ∀ entry ∈ values, ∀ other ∈ updated, entry.1.same other.1 = false)
    (still : e = .user → values.has Field.updatedAt.label = true →
      ∀ c v, ¬ row.GivenAnew e updated c v) : new.Matches e values := by
  refine has.congr fun c hc named => ?_
  obtain ⟨entry, he, text⟩ := List.any_eq_true.mp named
  rw [Value.isText_iff] at text
  have notGiven : updated.get? c.field.label = none :=
    Entries.get?_of_apart fun other ho => text ▸ apart entry he other ho
  by_cases touched : e = .user ∧ c.field = .updatedAt
  · obtain ⟨users, updatedAt⟩ := touched
    rw [changed.unchanged (still users (updatedAt ▸ named))]
  · refine changed.kept (fun d v anew same => ?_) fun users updatedAt => touched ⟨users, updatedAt⟩
    have given := anew.2.1
    rw [same, notGiven] at given
    cases given

/-- What a new record is given for a column is the value, unless it is given a reference on the
column as well. -/
theorem valueGiven_of_mem (keeps : e.KeepsAll values) (distinct : (values ++ created).Distinct)
    {c : Column} {v : Value} (given : (.str c.field.label, v) ∈ values)
    (free : ∀ r ∈ e.relations, r.many = false → created.has r.name = true → r.near ≠ c.field) :
    e.valueGiven (values ++ created) c = v := by
  rw [Entity.valueGiven, if_neg]
  · rw [Entries.getD, distinct.get?_of_mem (List.mem_append_left _ given)]
    rfl
  · rw [List.any_eq_true]
    rintro ⟨r, hr, named⟩
    simp only [Bool.and_eq_true, Bool.not_eq_true', decide_eq_true_eq] at named
    obtain ⟨⟨one, near⟩, named⟩ := named
    rw [Entries.has, List.any_append, Bool.or_eq_true] at named
    rcases named with among | beside
    · -- the names of the values are those of columns
      obtain ⟨entry, he, text⟩ := List.any_eq_true.mp among
      obtain ⟨d, hd, key, -⟩ := keeps entry he
      have label : d.field.label = r.name := by simpa [key] using text
      have column := e.column?_label d hd
      rw [label, e.column?_relation_name r hr] at column
      cases column
    · exact free r hr one beside near

/-- **A new record matches** the values that it is made of, unless a reference empties a column of
them. -/
theorem MadeOf.matches {o : Occasion} (made : row.MadeOf o e (e.valueGiven (values ++ created)))
    (keeps : e.KeepsAll values) (binds : e.Binds values) (distinct : (values ++ created).Distinct)
    (free : ∀ r ∈ e.relations, r.many = false → created.has r.name = true →
      values.has r.near.label = false) : row.Matches e values := by
  intro entry he
  obtain ⟨column, hc, key, kept⟩ := keeps entry he
  have bound := (Criteria.exists_column_iff hc key).mp (binds entry he)
  refine ⟨column, hc, key, ?_⟩
  have named : values.has column.field.label = true :=
    List.any_eq_true.mpr ⟨entry, he, by simp [key]⟩
  have value : e.valueGiven (values ++ created) column = entry.2 := by
    refine valueGiven_of_mem keeps distinct (key ▸ he) fun r hr one beside near => ?_
    have absent := free r hr one beside
    rw [near, named] at absent
    cases absent
  have cell := made.kept hc (value ▸ kept.1)
  rw [value] at cell
  obtain ⟨d, hd⟩ := bound
  exact ⟨d, hd, kept.compares cell hd⟩

end Row

/-! ### Keys afterwards -/

/-- A changed record has a key, unless its key was emptied. -/
theorem Row.ChangedBy.key_of_filled {t : Timestamp} {e : Entity} {data : Entries} {row new : Row}
    (changed : row.ChangedBy t e data new) (key : ∃ u, row.id = .key u)
    (filled : new.id.isEmpty = false) : ∃ u, new.id = .key u := by
  by_cases anew : ∃ v, row.GivenAnew e data Entity.keyColumn v
  · obtain ⟨v, anew⟩ := anew
    obtain ⟨d, -, cell⟩ := Column.cellOf?_eq_some.mp (changed.given anew)
    have held : new.id.isOf .uuid = true := by
      rw [show new.id = .ofDatum .uuid d from cell.symm]
      exact Cell.isOf_ofDatum .uuid d
    revert filled held
    cases new.id with
    | key u => exact fun _ _ => ⟨u, rfl⟩
    | _ => nofun
  · have same : new.id = row.id := by
      refine changed.kept (fun c v given same => anew ⟨v, ?_⟩) fun _ => nofun
      rwa [← e.eq_of_field c given.1 Entity.keyColumn e.mem_keyColumn same]
    rwa [same]

namespace KeyedRows

variable {e : Entity} {rows before after : List Row} {row new : Row}

/-- A new record that breaks no constraint has a key of its own. -/
theorem append_of_record (keyed : KeyedRows rows) {o : Occasion} {draft : Draft}
    (made : draft.record o e = .ok row) (sound : ¬ row.Breaks e rows) :
    KeyedRows (rows ++ [row]) := by
  have kept := Store.violation?_eq_none_iff_not_breaks.mpr sound
  exact keyed.append ((Draft.holdsKeys_of_record made).key_of_violation? kept)
    (Store.id_ne_of_violation? kept)

/-- So has a changed one. -/
theorem replace_of_changedBy (keyed : KeyedRows (before ++ row :: after)) {t : Timestamp}
    {data : Entries} (changed : row.ChangedBy t e data new)
    (sound : new = row ∨ ¬ new.Breaks e (before ++ after)) :
    KeyedRows (before ++ new :: after) := by
  rcases sound with rfl | sound
  · exact keyed
  · have kept := Store.violation?_eq_none_iff_not_breaks.mpr sound
    have filled := Store.id_isEmpty_of_unfilled? (Store.violation?_eq_none_iff.mp kept).1
    rw [← keyed.map_replace rfl]
    refine keyed.replace (changed.key_of_filled (keyed.key row (by simp)) filled) ?_
    intro other hm differs
    refine Store.id_ne_of_violation? kept other ?_
    rcases List.mem_append.mp hm with hm | hm
    · exact List.mem_append_left _ hm
    · refine List.mem_append_right _ ((List.mem_cons.mp hm).resolve_left ?_)
      rintro rfl
      exact differs rfl

end KeyedRows

/-! ### The same call again -/

/-- An upsert that succeeds on a store changes one record of it and no other, whatever the session
and the time. -/
def Repository.UpsertChanges (r : Repository) (store : Store) (values created updated : Entries)
    (before : List Row) (row : Row) (after : List Row) : Prop :=
  ∀ (c : Context) (s : Session), s.working = store →
    (r.upsert c s (.map values) (.map created) (.map updated)).reply.isSuccess = true →
    ∃ new, row.ChangedBy c.occasion.now r.entity updated new ∧
      (r.upsert c s (.map values) (.map created) (.map updated)).reply =
        Envelope.success (.record (LoadPlan.plain r.entity new)) 200 ∧
      (r.upsert c s (.map values) (.map created) (.map updated)).session.working =
        store.setRows r.entity (before ++ new :: after)

/-- It does if that record matches. -/
theorem Repository.upsertChanges_of_matches {r : Repository} {store : Store}
    {values created updated : Entries} {before after : List Row} {row : Row}
    (keeps : r.entity.KeepsAll values) (keyed : KeyedRows (before ++ row :: after))
    (has : row.Matches r.entity values) :
    r.UpsertChanges (store.setRows r.entity (before ++ row :: after)) values created updated before
      row after := by
  intro c s working success
  have table : s.working.rows r.entity = before ++ row :: after := by
    rw [working, Store.rows_setRows_self]
  obtain ⟨new, changed, -, reply, written⟩ := upsert_of_one (table ▸ keyed) keeps table has success
  exact ⟨new, changed, reply, working ▸ written⟩

/-- **Upserts insert or update, and settle.** Let values be given for columns that keep them as they
are, and data for a new record and for changes of an old one, none of it under the name of a value.

If no record of the table has all the values, a success adds one record, which is made of the
values, the data for a new record and the defaults. If a record has them all, a success changes that
record as the data for changes says, and no other. If several have, the answer is an error and
nothing changes.

The same call on the store that a success leaves, in whatever session and at whatever time, changes
the same record if it succeeds. That is so unless a reference is given to the new record on a column
that a value is for, or a user is changed of whom the time of the last change is a value. -/
theorem upsert_settles (r : Repository) (c : Context) (s : Session)
    (values created updated : Entries) (keyed : KeyedRows (s.working.rows r.entity))
    (keeps : r.entity.KeepsAll values) (distinct : (values ++ created).Distinct)
    (apart : ∀ entry ∈ values, ∀ other ∈ updated, entry.1.same other.1 = false) :
    let rows := s.working.rows r.entity
    let answer := r.upsert c s (.map values) (.map created) (.map updated)
    ((∀ row ∈ rows, ¬ row.Matches r.entity values) → answer.reply.isSuccess = true →
      ∃ row : Row, row.MadeOf c.occasion r.entity (r.entity.valueGiven (values ++ created)) ∧
        answer.reply = Envelope.success (.record (LoadPlan.plain r.entity row)) 201 ∧
        answer.session.working = s.working.setRows r.entity (rows ++ [row]) ∧
        ((∀ relation ∈ r.entity.relations, relation.many = false →
            created.has relation.name = true → values.has relation.near.label = false) →
          r.UpsertChanges answer.session.working values created updated rows row [])) ∧
    (∀ before row after, rows = before ++ row :: after → row.Matches r.entity values →
      answer.reply.isSuccess = true →
      ∃ new, row.ChangedBy c.occasion.now r.entity updated new ∧
        answer.reply = Envelope.success (.record (LoadPlan.plain r.entity new)) 200 ∧
        answer.session.working = s.working.setRows r.entity (before ++ new :: after) ∧
        ((r.entity = .user → values.has Field.updatedAt.label = true →
            ∀ column v, ¬ row.GivenAnew r.entity updated column v) →
          r.UpsertChanges answer.session.working values created updated before new after)) ∧
    ((∃ row ∈ rows, ∃ other ∈ rows, row ≠ other ∧ row.Matches r.entity values ∧
        other.Matches r.entity values) →
      answer.reply.isSuccess = false ∧ answer.session = s) := by
  intro rows answer
  refine ⟨fun none success => ?_, fun before row after table has success => ?_, ?_⟩
  · obtain ⟨binds, draft, row, drafted, recorded, sound, reply, session⟩ :=
      Repository.upsert_of_none keeps distinct none success
    have made : row.MadeOf c.occasion r.entity (r.entity.valueGiven (values ++ created)) :=
      (Draft.madeOf_of_record recorded).congr fun column hc =>
        (Draft.valueOf_of_ofEntries drafted hc).symm
    have working : answer.session.working = s.working.setRows r.entity (rows ++ [row]) :=
      congrArg Session.working session
    refine ⟨row, made, reply, working, fun free => ?_⟩
    rw [working]
    exact Repository.upsertChanges_of_matches keeps (keyed.append_of_record recorded sound)
      (made.matches keeps binds distinct free)
  · obtain ⟨new, changed, sound, reply, working⟩ :=
      Repository.upsert_of_one keyed keeps table has success
    refine ⟨new, changed, reply, working, fun still => ?_⟩
    rw [show answer.session.working = _ from working]
    exact Repository.upsertChanges_of_matches keeps
      ((table ▸ keyed : KeyedRows (before ++ row :: after)).replace_of_changedBy changed sound)
      (changed.matches has apart still)
  · rintro ⟨row, here, other, there, differ, has, has'⟩
    exact Repository.upsert_of_several keeps here there differ has has'

/-- The third company of the sample store is given a wallet in a currency that it has none in. -/
theorem upsert_settles_sample :
    let c : Context := Script.context {} 1
    let s := Session.start Sample.store false
    let r := Repository.standard c.settings .wallet
    let values : Entries := [(.str "company_id", .uuid (Uuid.ofNat 0x400080000000000000c3)),
      (.str "currency", .str "EUR")]
    let created : Entries := [(.str "balance", .int 12)]
    let updated : Entries := [(.str "is_active", .bool false)]
    KeyedRows (s.working.rows r.entity) ∧ r.entity.KeepsAll values ∧
      (values ++ created).Distinct ∧
      (∀ entry ∈ values, ∀ other ∈ updated, entry.1.same other.1 = false) ∧
      (∀ row ∈ s.working.rows r.entity, ¬ row.Matches r.entity values) ∧
      (r.upsert c s (.map values) (.map created) (.map updated)).reply.isSuccess = true ∧
      ∃ row : Row,
        (r.upsert c s (.map values) (.map created) (.map updated)).session.working =
          s.working.setRows .wallet (Sample.wallets ++ [row]) ∧
        r.UpsertChanges (s.working.setRows .wallet (Sample.wallets ++ [row])) values created updated
          Sample.wallets row [] := by
  intro c s r values created updated
  have keyed : KeyedRows (s.working.rows r.entity) := Sample.keyed_store.rows .wallet
  have keeps : r.entity.KeepsAll values := by
    simp only [values, Entity.KeepsAll, List.forall_mem_cons, List.not_mem_nil, false_imp_iff,
      implies_true, and_true]
    exact ⟨⟨⟨.companyId, .uuid, false, none⟩, by decide, rfl, rfl, _, rfl, rfl⟩,
      ⟨⟨.currency, .text 3, false, none⟩, by decide, rfl, rfl, _, rfl, rfl⟩⟩
  have distinct : (values ++ created).Distinct := by simp [values, created, Entries.Distinct]
  have apart : ∀ entry ∈ values, ∀ other ∈ updated, entry.1.same other.1 = false := by
    simp [values, updated]
  let bound : List (Criterion Datum) :=
    [.compare .companyId .eq (.key (Uuid.ofNat 0x400080000000000000c3)),
      .compare .currency .eq (.text "EUR")]
  have bounds : (r.equalities values).bind Criteria.bind = .ok bound := rfl
  have nothing : (s.working.rows r.entity).filter (Criteria.hold s.working · bound) = [] := rfl
  have unmatched : ∀ row ∈ s.working.rows r.entity, ¬ row.Matches r.entity values := by
    obtain ⟨criteria, hc, hd⟩ := bind_eq_ok.mp bounds
    have holds := (Criteria.matches_of_equalities (Repository.isNull_of_keepsAll keeps) hc hd).2
    exact fun row here has =>
      List.filter_eq_nil_iff.mp nothing row here ((holds s.working row).mpr has)
  have fits : ((Draft.ofEntries r.entity (values ++ created)).toOption.any
      (r.insertsInto c s.working bound)) = true := by
    rfl
  have success :
      (r.upsert c s (.map values) (.map created) (.map updated)).reply.isSuccess = true := by
    obtain ⟨draft, drafted, inserts⟩ := (Option.any_eq_true _ _).mp fits
    obtain ⟨row, reply⟩ := Repository.upsert_of_insertsInto updated rfl distinct bounds
      (toOption_eq_some.mp drafted) inserts
    rw [reply]
    rfl
  obtain ⟨row, -, -, working, again⟩ :=
    (upsert_settles r c s values created updated keyed keeps distinct apart).1 unmatched success
  exact ⟨keyed, keeps, distinct, apart, unmatched, success, row, working,
    working ▸ again (by decide)⟩

/-- An upsert that does not settle: it succeeds twice, and inserts a record the second time. -/
structure Repository.Unsettled (r : Repository) (c later : Context) (s : Session)
    (values created updated : Entries) : Prop where
  /-- The records of the table have keys. -/
  keyed : KeyedRows (s.working.rows r.entity)
  /-- The values are kept as they are. -/
  keeps : r.entity.KeepsAll values
  /-- None of the data for a new record is for their columns. -/
  distinct : (values ++ created).Distinct
  /-- None of the data for changes is. -/
  apart : ∀ entry ∈ values, ∀ other ∈ updated, entry.1.same other.1 = false
  /-- The first call succeeds. -/
  success : (r.upsert c s (.map values) (.map created) (.map updated)).reply.isSuccess = true
  /-- The second call inserts a record. -/
  again : ∃ row, (r.upsert later (r.upsert c s (.map values) (.map created) (.map updated)).session
    (.map values) (.map created) (.map updated)).reply = r.written 201 row

namespace Repository

variable {r : Repository} {c later : Context} {s : Session} {values created updated : Entries}
  {bound : List (Criterion Datum)}

/-- An upsert does not settle if it does not find the record that it inserted. -/
theorem unsettled_of_inserts (active : s.isActive = true)
    (keyed : KeyedRows (s.working.rows r.entity)) (keeps : r.entity.KeepsAll values)
    (distinct : (values ++ created).Distinct)
    (apart : ∀ entry ∈ values, ∀ other ∈ updated, entry.1.same other.1 = false)
    (bounds : (r.equalities values).bind Criteria.bind = .ok bound)
    (nothing : (s.working.rows r.entity).filter (Criteria.hold s.working · bound) = [])
    (twice : ((Draft.ofEntries r.entity (values ++ created)).toOption.any fun draft =>
      draft.isInserted c.occasion r.entity (s.working.rows r.entity) fun row =>
        r.insertsInto later (s.working.setRows r.entity (s.working.rows r.entity ++ [row])) bound
          draft) = true) :
    r.Unsettled c later s values created updated := by
  obtain ⟨draft, drafted, inserted⟩ := (Option.any_eq_true _ _).mp twice
  rw [toOption_eq_some] at drafted
  obtain ⟨row, again, reply, session⟩ :=
    upsert_inserts updated active distinct bounds nothing drafted inserted
  refine ⟨keyed, keeps, distinct, apart, by rw [reply]; rfl, ?_⟩
  rw [session]
  exact upsert_of_insertsInto updated active distinct bounds drafted again

/-- Nor does it if it does not find the record that it changed. -/
theorem unsettled_of_changes {row : Row} (active : s.isActive = true)
    (keyed : KeyedRows (s.working.rows r.entity)) (keeps : r.entity.KeepsAll values)
    (distinct : (values ++ created).Distinct)
    (apart : ∀ entry ∈ values, ∀ other ∈ updated, entry.1.same other.1 = false)
    (bounds : (r.equalities values).bind Criteria.bind = .ok bound)
    (only : (s.working.rows r.entity).filter (Criteria.hold s.working · bound) = [row])
    (lost : ((Draft.applyChanges c.occasion r.entity row updated s.working).toOption.any
      fun written => (Draft.ofEntries r.entity (values ++ created)).toOption.any
        (r.insertsInto later written.1 bound)) = true) :
    r.Unsettled c later s values created updated := by
  obtain ⟨⟨next, new⟩, applied, lost⟩ := (Option.any_eq_true _ _).mp lost
  obtain ⟨draft, drafted, again⟩ := (Option.any_eq_true _ _).mp lost
  obtain ⟨reply, session⟩ :=
    upsert_changes created active bounds only (toOption_eq_some.mp applied)
  refine ⟨keyed, keeps, distinct, apart, by rw [reply]; rfl, ?_⟩
  rw [session]
  exact upsert_of_insertsInto updated active distinct bounds (toOption_eq_some.mp drafted) again

end Repository

/-- **Two upserts that do not settle.** A card of a user is looked for, and issued without a user. A
user is looked for by the time of the last change, and renamed. -/
theorem upsert_unsettled :
    let c : Context := Script.context {} 1
    let later : Context := Script.context {} 2
    let s := Session.start Sample.store false
    (Repository.standard c.settings .card).Unsettled c later s
        [(.str "user_id", .uuid (Uuid.ofNat 0x400080000000000000b4))]
        [(.str "user", .null), (.str "company_id", .uuid (Uuid.ofNat 0x400080000000000000c1)),
          (.str "masked_number", .str "**** 9999")] [] ∧
      (Repository.standard c.settings .user).Unsettled c later s
        [(.str "updated_at", .datetime ⟨Timestamp.midnight ⟨2025, 1, 4⟩, none⟩)]
        [(.str "email", .str "zoe@example.com"), (.str "first_name", .str "Zoe"),
          (.str "last_name", .str "Zed")] [(.str "first_name", .str "David")] := by
  intro c later s
  constructor
  · refine Repository.unsettled_of_inserts rfl (Sample.keyed_store.rows .card)
      (List.forall_mem_singleton.mpr ?_) (by simp [Entries.Distinct]) (by simp) rfl rfl ?_
    · exact ⟨⟨.userId, .uuid, true, none⟩, by decide, rfl, rfl, _, rfl, rfl⟩
    · rfl
  · refine Repository.unsettled_of_changes rfl (Sample.keyed_store.rows .user)
      (List.forall_mem_singleton.mpr ?_) (by simp [Entries.Distinct]) (by simp) rfl rfl ?_
    · exact ⟨⟨.updatedAt, .moment, false, some .now⟩, by decide, rfl, rfl, _, rfl, rfl⟩
    · decide

end Recordbook

import Recordbook.Proofs.ConditionMeaning
import Recordbook.Proofs.Keyed

/-!
# The record that an identifier addresses

An update and a deletion look for one record, by one name and one value: those of the primary key,
or of the first entry of a mapping or a payload. Entries after the first play no part. A success
means that exactly one record of the table had the value in the column of that name, and that this
record was changed or removed, and no other of its table.

An identifier that addresses no record, or several, or is none at all, is turned away before
anything is written. The only other failure is that of the store, and it takes back everything since
the last save.

## Main definitions

* `Identifier.address?` — the name and the value that an identifier gives
* `Row.Has` — a record has a value in a column, as the store compares them
* `Repository.AddressesOne` — exactly one record of a table has the value that an identifier gives

## Main results

* `Repository.addressesOne_of_addressed` — a look-up that finds a record finds the only one
* `Repository.addressed_of_addressesOne` — the only record with a value is found
* `writes_address_one_row` — what an update or a deletion does to a table
-/

namespace Recordbook

/-! ### What an identifier gives -/

/-- The name and the value that an identifier gives: its first entry, if it is a mapping or a
payload, and else the primary key. -/
def Identifier.address? : Value → Option (Value × Value)
  | .str s => some (.str primaryKey, .str s)
  | .int n => some (.str primaryKey, .int n)
  | .uuid u => some (.str primaryKey, .uuid u)
  | .map (entry :: _) => some entry
  | .model _ (entry :: _) => some entry
  | _ => none

namespace Value

/-- Whether a value is made of other values, or leads to one that is. -/
def isComposite : Value → Bool
  | .list _ => true
  | .tuple _ => true
  | .map _ => true
  | .model .. => true
  | .up _ => true
  | _ => false

theorem isComposite_unfoldPlace (times : Nat) (around : List Entries) :
    (unfoldPlace times around).isComposite = true := by
  unfold unfoldPlace
  split <;> rfl

/-- Following references only touches values that are made of others. -/
theorem eq_of_unfold {times : Nat} {around : List Entries} {v : Value}
    (h : (v.unfold times around).isComposite = false) : v.unfold times around = v := by
  rw [unfold] at h ⊢
  cases v with
  | up levels =>
    rw [replaceReferences] at h
    split at h
    · cases h
    · rw [isComposite_unfoldPlace] at h
      cases h
  | _ => simp_all [replaceReferences, isComposite]

/-- So does reading payloads as mappings. -/
theorem eq_of_plain {v : Value} (h : v.plain.isComposite = false) : v.plain = v := by
  cases v <;> simp_all [plain, isComposite]

theorem unfold_of_not_isComposite {v : Value} (h : v.isComposite = false) (times : Nat)
    (around : List Entries) : v.unfold times around = v := by
  rw [unfold]
  cases v <;> simp_all [replaceReferences, isComposite]

theorem plain_of_not_isComposite {v : Value} (h : v.isComposite = false) : v.plain = v := by
  cases v <;> simp_all [plain, isComposite]

end Value

/-- A value that is not made of others is given as it is looked for. -/
theorem Identifier.address?_of_resolve {identifier : Value}
    (valid : (resolve identifier).isValid = true)
    (plain : (resolve identifier).value.isComposite = false) :
    address? identifier = some ((resolve identifier).key, (resolve identifier).value) := by
  have first {entries : Entries} (hv : (ofFirst entries).isValid = true)
      (hp : (ofFirst entries).value.isComposite = false) :
      ∃ key v rest, entries = (key, v) :: rest ∧ ofFirst entries = ⟨key, v⟩ := by
    cases entries with
    | nil => cases hv
    | cons e rest =>
      obtain ⟨key, v⟩ := e
      exact ⟨key, v, rest, rfl, by rw [ofFirst] at hp ⊢; rw [Value.eq_of_unfold hp]⟩
  cases identifier with
  | map entries =>
    obtain ⟨key, v, rest, rfl, h⟩ := first valid plain
    rw [resolve, h, address?]
  | model fields given =>
    obtain ⟨key, v, rest, he, h⟩ := first valid plain
    rw [resolve] at plain
    cases given with
    | nil => cases he
    | cons e others =>
      obtain ⟨name, w⟩ := e
      rw [Value.plainEntries, List.cons.injEq, Prod.mk.injEq] at he
      obtain ⟨⟨rfl, rfl⟩, -⟩ := he
      rw [h] at plain
      rw [resolve, h, address?, Value.eq_of_plain plain]
  | str s => rfl
  | int n => rfl
  | uuid u => rfl
  | _ => cases valid

/-- What an identifier gives is looked for, if it is not made of other values. -/
theorem Identifier.resolve_of_address? {identifier key v : Value}
    (h : address? identifier = some (key, v)) (plain : v.isComposite = false) :
    resolve identifier = ⟨key, v⟩ := by
  cases identifier with
  | map entries =>
    cases entries with
    | nil => cases h
    | cons entry rest =>
      cases h
      rw [resolve, ofFirst, Value.unfold_of_not_isComposite plain]
  | model fields given =>
    cases given with
    | nil => cases h
    | cons entry rest =>
      cases h
      rw [resolve, Value.plainEntries, ofFirst, Value.plain_of_not_isComposite plain,
        Value.unfold_of_not_isComposite plain]
  | str s => cases h; rfl
  | int n => cases h; rfl
  | uuid u => cases h; rfl
  | _ => cases h

/-! ### Having a value in a column -/

/-- A record has a value in a column: the value is bound, and the store finds the two equal. -/
def Row.Has (row : Row) (c : Column) (v : Value) : Prop :=
  ∃ d, (Criteria.equalityOperand c v).process = .ok (.bound d) ∧
    Criteria.compares (row.cell c.field) .eq d = true

/-- For a scalar that fits the column that is equality. -/
theorem Row.has_iff_equals {row : Row} {c : Column} {v : Value} (h : c.kind.takes v = true) :
    row.Has c v ↔ (row.cell c.field).equals v = true := by
  have bound := Criteria.process_equalityOperand h
  have compared : (row.cell c.field).equals v =
      Criteria.compares (row.cell c.field) .eq (.ofScalar v) := by
    rw [Cell.equals, ColumnKind.isNull_of_takes h]
    rfl
  rw [compared]
  constructor
  · rintro ⟨d, hd, equal⟩
    cases bound.symm.trans hd
    exact equal
  · exact fun equal => ⟨_, bound, equal⟩

namespace Criteria

variable {c : Column} {v : Value}

theorem processFlag_of_isComposite (h : v.isComposite = true) :
    ∃ u, Binding.processFlag v = .error u := by
  have other (b : Bool) : v.same (.bool b) = false := by
    cases v <;> first | rfl | cases h
  unfold Binding.processFlag
  rw [other, other, if_neg Bool.false_ne_true, if_neg Bool.false_ne_true]
  split
  · exact ⟨_, rfl⟩
  · cases Misuse.written v.display? with
    | error m => exact ⟨_, rfl⟩
    | ok shown => cases v <;> exact ⟨_, rfl⟩

@[simp] theorem value_equalityOperand : (equalityOperand c v).value = v := by
  cases v <;> rfl

/-- What an operand is bound as is not made of other values. -/
theorem isComposite_of_process {o : Operand} {d : Datum} (h : o.process = .ok (.bound d)) :
    o.value.isComposite = false := by
  obtain ⟨binding, v⟩ := o
  rw [Bool.eq_false_iff]
  intro composite
  rw [Operand.process, mapError_eq_ok] at h
  cases binding with
  | flag =>
    obtain ⟨u, hu⟩ := processFlag_of_isComposite composite
    have flag : Binding.process .flag v = Binding.processFlag v := by
      cases v <;> first | rfl | cases composite
    rw [flag, hu] at h
    cases h
  | _ => cases v <;> first | cases composite; done | cases h

/-- A record meets the criterion of equality with a value exactly if it has the value. -/
theorem hold_equality {ds : List (Criterion Datum)} (some : v.isNull = false)
    (h : bind [equality c v] = .ok ds) :
    v.isComposite = false ∧ ∀ s row, hold s row ds = true ↔ row.Has c v := by
  have criterion : equality c v = .compare c.field .eq (equalityOperand c v) := by
    cases v <;> first | rfl | cases some
  rw [criterion] at h
  obtain ⟨d, hd, rfl⟩ := bind_compare_ok.mp h
  refine ⟨by simpa using isComposite_of_process hd, fun s row => ?_⟩
  rw [hold_cons, hold_nil, Bool.and_true, holds]
  constructor
  · exact fun equal => ⟨d, hd, equal⟩
  · rintro ⟨d', hd', equal⟩
    cases hd.symm.trans hd'
    exact equal

/-- A value that some record has can be looked for. -/
theorem bind_equality_of_has {row : Row} (h : row.Has c v) :
    v.isNull = false ∧ v.isComposite = false ∧ ∃ ds, bind [equality c v] = .ok ds := by
  obtain ⟨d, hd, equal⟩ := h
  have some : v.isNull = false := by
    cases v with
    | null =>
      cases hd
      simp [compares] at equal
    | _ => rfl
  have criterion : equality c v = .compare c.field .eq (equalityOperand c v) := by
    cases v <;> first | rfl | cases some
  refine ⟨some, by simpa using isComposite_of_process hd, ?_⟩
  rw [criterion]
  exact ⟨_, bind_compare_ok.mpr ⟨d, hd, rfl⟩⟩

end Criteria

/-! ### Looking the record up -/

theorem Entity.columnOf_eq_ok {e : Entity} {key : Value} {c : Column} (h : e.columnOf key = .ok c) :
    ∃ name, key = .str name ∧ e.column? name = some c := by
  unfold columnOf at h
  split at h
  · cases h
  · split at h
    · rename_i name _
      split at h
      · rename_i found
        cases h
        exact ⟨name, rfl, found⟩
      · cases h
    · cases h

namespace Repository

/-- Exactly one record of a table has the value that an identifier gives, in the column of the name
that it gives: the one between two parts of the table. -/
structure AddressesOne (r : Repository) (store : Store) (identifier : Value) (before : List Row)
    (row : Row) (after : List Row) : Prop where
  /-- The record is there, between others. -/
  table : store.rows r.entity = before ++ row :: after
  /-- It has the value that is given, and no other record has. -/
  address : ∃ name column value, Identifier.address? identifier = some (.str name, value) ∧
    r.entity.column? name = some column ∧ row.Has column value ∧
    ∀ other ∈ before ++ after, ¬ other.Has column value

/-- **A look-up that finds a record finds the only one.** -/
theorem addressesOne_of_addressed {r : Repository} {store : Store} {identifier : Value} {row : Row}
    (keyed : KeyedRows (store.rows r.entity)) (h : r.addressedIn store identifier = some row) :
    ∃ before after, r.AddressesOne store identifier before row after := by
  have member := mem_of_addressedIn h
  obtain ⟨before, after, table⟩ := List.append_of_mem member
  refine ⟨before, after, table, ?_⟩
  simp only [addressedIn] at h
  split at h
  · rename_i valid
    obtain ⟨column, hc, h⟩ := bind_eq_ok.mp (toOption_eq_some.mp h)
    obtain ⟨name, hname, column?⟩ := Entity.columnOf_eq_ok hc
    obtain ⟨found, hf, h⟩ := bind_eq_ok.mp h
    obtain ⟨-, -, hf⟩ := bind_eq_ok.mp hf
    obtain ⟨bound, hd, hf⟩ := bind_eq_ok.mp hf
    have some : (Identifier.resolve identifier).value.isNull = false := by
      rw [Identifier.isValid, Bool.and_eq_true] at valid
      simpa using valid.2
    obtain ⟨plain, holds⟩ := Criteria.hold_equality some hd
    have address := Identifier.address?_of_resolve valid plain
    rw [hname] at address
    have matching : Select.matching store r.entity bound = [row] := by
      cases found with
      | none => cases h
      | some found =>
        cases h
        split at hf
        · cases hf
        · rename_i only
          cases hf
          exact only
        · cases hf
    have has (other : Row) : other ∈ store.rows r.entity ∧
        other.Has column (Identifier.resolve identifier).value ↔ other = row := by
      rw [← holds store other, ← Select.mem_matching, matching, List.mem_singleton]
    refine ⟨name, column, _, address, column?, ((has row).mpr rfl).2, fun other hother found => ?_⟩
    have present : other ∈ store.rows r.entity := by
      rw [table]
      rcases List.mem_append.mp hother with hm | hm
      · exact List.mem_append_left _ hm
      · exact List.mem_append_right _ (List.mem_cons_of_mem _ hm)
    rw [(has other).mp ⟨present, found⟩] at hother
    exact keyed.id_ne_of_append table row hother rfl
  · cases h

/-- What meets criteria in the order of the table is looked up, if it is at most one record. -/
theorem findUnique_of_filter {r : Repository} {s : Session} {criteria : List (Criterion Operand)}
    {bound : List (Criterion Datum)} {found : Option Row} (active : s.isActive = true)
    (hd : Criteria.bind criteria = .ok bound)
    (only : (s.working.rows r.entity).filter (Criteria.hold s.working · bound) = found.toList) :
    r.findUnique s criteria = .ok found := by
  have perm := (Store.scan_perm s.working r.entity).filter
    fun row => Criteria.hold s.working row bound
  rw [only] at perm
  have matching : Select.matching s.working r.entity bound = found.toList := by
    cases found with
    | none => exact List.perm_nil.mp perm
    | some row => exact List.perm_singleton.mp perm
  refine bind_eq_ok.mpr ⟨(), Session.queryGuard_of_isActive active, bind_eq_ok.mpr ⟨bound, hd, ?_⟩⟩
  rw [matching]
  cases found <;> rfl

/-- **The only record with the value that an identifier gives is found.** -/
theorem addressed_of_addressesOne {r : Repository} {s : Session} {identifier : Value}
    {before after : List Row} {row : Row} (active : s.isActive = true)
    (one : r.AddressesOne s.working identifier before row after) :
    (Identifier.resolve identifier).isValid = true ∧
      r.addressed s (Identifier.resolve identifier) = .ok row := by
  obtain ⟨name, column, value, address, named, has, others⟩ := one.address
  obtain ⟨some, plain, bound, hd⟩ := Criteria.bind_equality_of_has has
  have holds := (Criteria.hold_equality some hd).2 s.working
  have only : (s.working.rows r.entity).filter (Criteria.hold s.working · bound) = [row] := by
    have without (part : List Row) (inside : ∀ other ∈ part, other ∈ before ++ after) :
        part.filter (Criteria.hold s.working · bound) = [] :=
      List.filter_eq_nil_iff.mpr fun other hm found =>
        others other (inside other hm) ((holds other).mp found)
    rw [one.table, List.filter_append, List.filter_cons, if_pos ((holds row).mpr has),
      without before fun _ => List.mem_append_left _,
      without after fun _ => List.mem_append_right _]
    rfl
  have found : r.entity.columnOf (.str name) = .ok column := by
    simp only [Entity.columnOf, named]
    rfl
  rw [Identifier.resolve_of_address? address plain]
  refine ⟨by rw [Identifier.isValid, some]; rfl, bind_eq_ok.mpr ⟨column, found, ?_⟩⟩
  exact bind_eq_ok.mpr ⟨.some row, findUnique_of_filter active hd only, rfl⟩

end Repository

/-! ### Writing to the record -/

namespace KeyedRows

variable {rows before after : List Row} {row new : Row}

/-- Replacing a record by its key replaces it alone. -/
theorem map_replace (h : KeyedRows rows) (table : rows = before ++ row :: after) :
    (rows.map fun r => if r.sameId row then new else r) = before ++ new :: after := by
  have others (part : List Row) (inside : ∀ other ∈ part, other ∈ before ++ after) :
      (part.map fun r => if r.sameId row then new else r) = part := by
    refine (List.map_congr_left fun other hm => ?_).trans (List.map_id part)
    exact if_neg (by simpa [Row.sameId] using h.id_ne_of_append table other (inside other hm))
  rw [table, List.map_append, List.map_cons, others before fun _ => List.mem_append_left _,
    others after fun _ => List.mem_append_right _, if_pos (by simp [Row.sameId])]

/-- Removing a record by its key removes it alone. -/
theorem filter_remove (h : KeyedRows rows) (table : rows = before ++ row :: after) :
    (rows.filter fun r => !r.sameId row) = before ++ after := by
  have others (part : List Row) (inside : ∀ other ∈ part, other ∈ before ++ after) :
      (part.filter fun r => !r.sameId row) = part := by
    refine List.filter_eq_self.mpr fun other hm => ?_
    simpa [Row.sameId] using h.id_ne_of_append table other (inside other hm)
  rw [table, List.filter_append, List.filter_cons_of_neg (by simp [Row.sameId]),
    others before fun _ => List.mem_append_left _, others after fun _ => List.mem_append_right _]

end KeyedRows

namespace Store

variable {s next : Store} {row : Row}

theorem setRows_rows (s : Store) (e : Entity) : s.setRows e (s.rows e) = s := by
  ext f : 2
  by_cases h : f = e
  · rw [h, rows_setRows_self]
  · rw [rows_setRows_of_ne _ _ h]

/-- A record that is to replace one of a table is checked beside the others, and then takes its
place. -/
theorem replace_of_append {e : Entity} {before after : List Row} (keyed : KeyedRows (s.rows e))
    (table : s.rows e = before ++ row :: after) (new : Row) :
    s.replace e row new = match violation? e (before ++ after) new with
      | some v => .error v
      | none => .ok (s.setRows e (before ++ new :: after)) := by
  have otherRows : others s e row = before ++ after := keyed.filter_remove table
  have newRows : ((s.rows e).map fun r => if r.sameId row then new else r)
      = before ++ new :: after := keyed.map_replace table
  cases checked : violation? e (before ++ after) new <;>
    simp only [replace, otherRows, newRows, checked]

theorem eq_of_replace {e : Entity} {before after : List Row} {new : Row}
    (keyed : KeyedRows (s.rows e)) (table : s.rows e = before ++ row :: after)
    (h : s.replace e row new = .ok next) : next = s.setRows e (before ++ new :: after) := by
  rw [replace_of_append keyed table] at h
  split at h
  · cases h
  · cases h
    rfl

/-- Releasing the dependents of a record leaves tables without dependents alone. -/
theorem rows_of_release {e : Entity} {r : Relation} (h : r.target ≠ e)
    (released : release row s r = .ok next) : next.rows e = s.rows e := by
  rw [release] at released
  split at released
  · split at released
    · cases released
      exact rows_setRows_of_ne _ _ h.symm
    · dsimp only at released
      split at released
      · cases released
      · cases released
        exact rows_setRows_of_ne _ _ h.symm
  · cases released
    rfl

theorem rows_of_releaseAll {e : Entity} {rs : List Relation} (h : ∀ r ∈ rs, r.target ≠ e)
    (released : rs.foldlM (release row) s = .ok next) : next.rows e = s.rows e := by
  induction rs generalizing s with
  | nil =>
    cases released
    rfl
  | cons r rs ih =>
    obtain ⟨here, hr, released⟩ := bind_eq_ok.mp released
    rw [ih (fun r hr => h r (List.mem_cons_of_mem _ hr)) released,
      rows_of_release (h r List.mem_cons_self) hr]

end Store

/-- No record depends on one of its own kind. -/
theorem Entity.target_ne (e : Entity) : ∀ r ∈ e.relations, r.target ≠ e := by
  cases e <;> decide

namespace WriteCall

variable {c : Context} {r : Repository} {identifier data : Value} {store next : Store}

/-- An update that the store takes replaces the one record that is addressed. -/
theorem update_of_flush (keyed : KeyedRows (store.rows r.entity))
    (h : (WriteCall.update r identifier data).flush? c store = some (.ok next)) :
    ∃ before row after new, r.AddressesOne store identifier before row after ∧
      next = store.setRows r.entity (before ++ new :: after) := by
  obtain ⟨row, hrow, h⟩ := Option.bind_eq_some_iff.mp h
  obtain ⟨entries, -, h⟩ := Option.bind_eq_some_iff.mp h
  obtain ⟨⟨stored, new⟩, written, rfl⟩ := map_eq_ok.mp (Option.some_inj.mp h)
  obtain ⟨before, after, one⟩ := Repository.addressesOne_of_addressed keyed hrow
  rw [Draft.applyChanges] at written
  split at written
  · cases written
  · split at written
    · cases written
      exact ⟨before, row, after, row, one, by rw [← one.table, Store.setRows_rows]⟩
    · obtain ⟨changed, -, written⟩ := bind_eq_ok.mp written
      obtain ⟨replaced, hr, written⟩ := bind_eq_ok.mp written
      cases pure_eq_ok.mp written
      exact ⟨before, row, after, new, one,
        Store.eq_of_replace keyed one.table (mapError_eq_ok.mp hr)⟩

/-- A deletion that the store takes removes the one record that is addressed. -/
theorem delete_of_flush (keyed : KeyedRows (store.rows r.entity))
    (h : (WriteCall.delete r identifier).flush? c store = some (.ok next)) :
    ∃ before row after, r.AddressesOne store identifier before row after ∧
      next.rows r.entity = before ++ after := by
  obtain ⟨row, hrow, h⟩ := Option.bind_eq_some_iff.mp h
  obtain ⟨before, after, one⟩ := Repository.addressesOne_of_addressed keyed hrow
  obtain ⟨released, hr, removed⟩ := bind_eq_ok.mp (mapError_eq_ok.mp (Option.some_inj.mp h))
  cases pure_eq_ok.mp removed
  refine ⟨before, row, after, one, ?_⟩
  rw [Store.rows_setRows_self, Store.others, Store.rows_of_releaseAll r.entity.target_ne hr]
  exact keyed.filter_remove one.table

/-- A write that is answered by a success handed a store over, which the session works on now. -/
theorem flush_of_success {s : Session} {k : WriteCall} (h : (k.run c s).reply.isSuccess = true) :
    ∃ next, k.flush? c s.working = some (.ok next) ∧ (k.run c s).session = s.wrote next := by
  cases active : s.isActive with
  | false => simp [(k.run_of_not_isActive c active).1] at h
  | true =>
    have outcome := k.outcome c active
    rw [h] at outcome
    generalize hf : k.flush? c s.working = flush at outcome
    generalize (k.run c s).session = after at outcome ⊢
    cases outcome with
    | stored next => exact ⟨next, rfl, rfl⟩

/-- A write that is answered by an error leaves the session as it was, unless its flush failed. Then
everything since the last save is taken back. -/
theorem session_of_error {s : Session} {k : WriteCall} (h : (k.run c s).reply.isSuccess = false) :
    (¬ Made.flushFailed ⟨c, .write k, s⟩ → (k.run c s).session = s) ∧
      (Made.flushFailed ⟨c, .write k, s⟩ → (k.run c s).session.rollback.working = s.saved) := by
  cases active : s.isActive with
  | false =>
    have same := (k.run_of_not_isActive c active).2
    exact ⟨fun _ => same, fun failed => absurd (active.symm.trans failed.1) Bool.false_ne_true⟩
  | true =>
    have outcome := k.outcome c active
    constructor
    · intro sound
      have away : Made.turnedAway ⟨c, .write k, s⟩ := Made.turnedAway_of_failed active rfl h sound
      rw [show k.flush? c s.working = none from away.2] at outcome
      exact outcome.of_none.2
    · rintro ⟨-, f, hf⟩
      rw [show k.flush? c s.working = some (.error f) from hf] at outcome
      rw [outcome.of_error.2]
      rfl

end WriteCall

/-- **Updates and deletions address one record only.** If one of them succeeds, then exactly one
record of the table had the value that the identifier gives in the column that it names. An update
puts a record in its place and changes nothing else, and a deletion removes it and no other of its
table. If one of them fails, nothing has changed, unless the store refused it. Then the store is as
it was last saved. -/
theorem writes_address_one_row (r : Repository) (c : Context) (s : Session)
    (identifier data : Value) (keyed : KeyedRows (s.working.rows r.entity)) :
    ((r.update c s identifier data).reply.isSuccess = true →
      ∃ before row after new, r.AddressesOne s.working identifier before row after ∧
        (r.update c s identifier data).session.working =
          s.working.setRows r.entity (before ++ new :: after)) ∧
    ((r.delete s identifier).reply.isSuccess = true →
      ∃ before row after, r.AddressesOne s.working identifier before row after ∧
        (r.delete s identifier).session.working.rows r.entity = before ++ after) ∧
    ∀ k ∈ [WriteCall.update r identifier data, .delete r identifier],
      (k.run c s).reply.isSuccess = false →
        (¬ Made.flushFailed ⟨c, .write k, s⟩ → (k.run c s).session = s) ∧
        (Made.flushFailed ⟨c, .write k, s⟩ → (k.run c s).session.rollback.working = s.saved) := by
  refine ⟨fun success => ?_, fun success => ?_, fun k _ => WriteCall.session_of_error⟩
  · obtain ⟨next, flush, session⟩ :=
      WriteCall.flush_of_success (c := c) (k := .update r identifier data) success
    obtain ⟨before, row, after, new, one, rfl⟩ :=
      WriteCall.update_of_flush keyed flush
    exact ⟨before, row, after, new, one, congrArg Session.working session⟩
  · obtain ⟨next, flush, session⟩ :=
      WriteCall.flush_of_success (c := c) (k := .delete r identifier) success
    obtain ⟨before, row, after, one, rows⟩ := WriteCall.delete_of_flush keyed flush
    refine ⟨before, row, after, one, ?_⟩
    rw [show (r.delete s identifier).session = s.wrote next from session]
    exact rows

/-- A user of the sample store is addressed by an email. The second entry of the identifier, which
belongs to another user, plays no part. -/
theorem writes_address_one_row_sample :
    let c : Context := Script.context {} 1
    let s := Session.start Sample.store false
    let r := Repository.standard c.settings .user
    let identifier : Value :=
      .map [(.str "email", .str "bob@example.com"), (.str "first_name", .str "Alice")]
    let data : Value := .map [(.str "last_name", .str "Etoundi")]
    KeyedRows (s.working.rows r.entity) ∧
      (r.update c s identifier data).reply.isSuccess = true ∧
      ∃ before row after new, r.AddressesOne s.working identifier before row after ∧
        (r.update c s identifier data).session.working =
          s.working.setRows r.entity (before ++ new :: after) := by
  intro c s r identifier data
  have keyed : KeyedRows (s.working.rows r.entity) := Sample.keyed_store.rows .user
  have found : r.addressedIn s.working identifier = some Sample.users[1] := by
    refine toOption_eq_some.mpr (bind_eq_ok.mpr ⟨⟨.email, .text 255, false, none⟩, rfl, ?_⟩)
    exact bind_eq_ok.mpr ⟨some _, Repository.findUnique_of_filter rfl rfl rfl, rfl⟩
  have success : (r.update c s identifier data).reply.isSuccess = true := by
    have outcome := (WriteCall.update r identifier data).outcome c (s := s) rfl
    rw [WriteCall.flush?, found] at outcome
    exact outcome.of_ok.1
  exact ⟨keyed, success, (writes_address_one_row r c s identifier data keyed).1 success⟩

end Recordbook

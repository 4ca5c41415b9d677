import Recordbook.Proofs.AddressedRow
import Recordbook.Proofs.Changes

/-!
# What an update writes

An update looks a record up, makes changes to it, and answers with the record as it is then. So it
writes what the data gives anew and nothing else, to this record and to no other.

## Main definitions

* `Value.Carries` — the entries that data carries

## Main results

* `Repository.update_of_success` — what an update that succeeds has written
* `Repository.update_of_fits` — an update by values that fit, and what the store says of it
* `update_writes_given` — what an update writes, and when it fails
-/

namespace Recordbook

/-- The entries that data carries: those of a mapping, or the fields that a payload was given. -/
def Value.Carries (data : Value) (entries : Entries) : Prop :=
  data = .map entries ∨
    ∃ fields given, data = .model fields given ∧ entries = Value.plainEntries given

theorem Draft.dataOf_of_carries {data : Value} {entries : Entries} (h : data.Carries entries) :
    dataOf data = .ok entries := by
  rcases h with rfl | ⟨fields, given, rfl, rfl⟩ <;> rfl

namespace Repository

variable {r : Repository} {c : Context} {s : Session} {identifier data : Value} {entries : Entries}
  {row new : Row}

/-- What an update is called in messages and logs. -/
def updating : Action := ⟨"updating", false, "_update"⟩

/-- Changes that the store takes are answered by the record as it is then. -/
theorem update_of_applied {next : Store} (valid : (Identifier.resolve identifier).isValid = true)
    (found : r.addressed s (Identifier.resolve identifier) = .ok row)
    (carried : data.Carries entries)
    (applied : Draft.applyChanges c.occasion r.entity row entries s.working = .ok (next, new)) :
    (r.update c s identifier data).reply = r.written 204 new ∧
      (r.update c s identifier data).session = s.wrote next := by
  simp only [update, if_pos valid, reportWrite, change, found, Draft.dataOf_of_carries carried,
    changeRow, applied]
  exact ⟨rfl, rfl⟩

/-- Changes that fail are answered by an error. -/
theorem update_of_refused {f : Failure} (valid : (Identifier.resolve identifier).isValid = true)
    (found : r.addressed s (Identifier.resolve identifier) = .ok row)
    (carried : data.Carries entries)
    (refused : Draft.applyChanges c.occasion r.entity row entries s.working = .error f) :
    (r.update c s identifier data).reply =
      Envelope.failure .nothing f.toFault.kind (r.failureMessage updating f) := by
  simp only [update, if_pos valid, reportWrite, change, found, Draft.dataOf_of_carries carried,
    changeRow, refused]
  rfl

/-- Of data that carries entries only those for columns count. -/
theorem update_congr {data' : Value} {entries' : Entries} (carried : data.Carries entries)
    (carried' : data'.Carries entries')
    (same : ∀ column ∈ r.entity.columns,
      entries'.get? column.field.label = entries.get? column.field.label) :
    (r.update c s identifier data').reply = (r.update c s identifier data).reply ∧
      (r.update c s identifier data').session = (r.update c s identifier data).session := by
  have changed : r.change c s (Identifier.resolve identifier) data' =
      r.change c s (Identifier.resolve identifier) data := by
    simp only [change, Draft.dataOf_of_carries carried, Draft.dataOf_of_carries carried', changeRow,
      Draft.applyChanges_congr same]
  rw [update, update, changed]
  split
  · -- the data itself is shown in the log only
    cases h : (r.change c s (Identifier.resolve identifier) data).1 <;>
      exact ⟨by simp only [reportWrite, h, report], rfl⟩
  · exact ⟨rfl, rfl⟩

variable {before after : List Row}

/-- An update that succeeds puts what the data makes of the record in its place. -/
theorem update_of_success (keyed : KeyedRows (s.working.rows r.entity))
    (one : r.AddressesOne s.working identifier before row after) (carried : data.Carries entries)
    (success : (r.update c s identifier data).reply.isSuccess = true) :
    ∃ new, row.ChangedBy c.occasion.now r.entity entries new ∧
      (r.update c s identifier data).reply = r.written 204 new ∧
      (r.update c s identifier data).session.working =
        s.working.setRows r.entity (before ++ new :: after) := by
  have active : s.isActive = true := by
    by_contra ended
    rw [Bool.not_eq_true] at ended
    have failed := ((WriteCall.update r identifier data).run_of_not_isActive c ended).1
    exact Bool.false_ne_true (failed.symm.trans success)
  obtain ⟨valid, found⟩ := addressed_of_addressesOne active one
  cases applied : Draft.applyChanges c.occasion r.entity row entries s.working with
  | error f =>
    rw [update_of_refused valid found carried applied] at success
    cases success
  | ok written =>
    obtain ⟨next, new⟩ := written
    obtain ⟨reply, session⟩ := update_of_applied valid found carried applied
    obtain ⟨changed, stored⟩ := Draft.changedBy_of_applyChanges applied
    refine ⟨new, changed, reply, (congrArg Session.working session).trans ?_⟩
    rcases stored with ⟨rfl, rfl⟩ | replaced
    · rw [← one.table, Store.setRows_rows]
      rfl
    · exact Store.eq_of_replace keyed one.table replaced

/-- An update by values that can be kept succeeds unless the changed record breaks a constraint. -/
theorem update_of_fits (active : s.isActive = true) (keyed : KeyedRows (s.working.rows r.entity))
    (sound : SoundTable r.entity (s.working.rows r.entity))
    (one : r.AddressesOne s.working identifier before row after) (carried : data.Carries entries)
    (fits : ∀ column ∈ r.entity.columns, ∀ v, entries.get? column.field.label = some v →
      (column.cellOf? v).isSome = true) :
    ∃ new, row.ChangedBy c.occasion.now r.entity entries new ∧
      (¬ new.Breaks r.entity (before ++ after) →
        (r.update c s identifier data).reply.isSuccess = true) ∧
      (new.Breaks r.entity (before ++ after) →
        (r.update c s identifier data).reply.code = 409 ∧ ∃ message,
          (r.update c s identifier data).reply =
            Envelope.failure .nothing .constraintViolation message) := by
  obtain ⟨valid, found⟩ := addressed_of_addressesOne active one
  obtain ⟨new, changed, outcome⟩ := Draft.applyChanges_of_kept row c.occasion s.working fits
  refine ⟨new, changed, ?_⟩
  rcases outcome with ⟨applied, rfl⟩ | applied
  · have same : ¬ new.Breaks r.entity (before ++ after) := (one.table ▸ sound).not_breaks
    refine ⟨fun _ => ?_, fun breaks => absurd breaks same⟩
    rw [(update_of_applied valid found carried applied).1]
    rfl
  · rw [Store.replace_of_append keyed one.table] at applied
    cases checked : Store.violation? r.entity (before ++ after) new with
    | none =>
      rw [checked] at applied
      refine ⟨fun _ => ?_, fun breaks => ?_⟩
      · rw [(update_of_applied valid found carried applied).1]
        rfl
      · exact absurd breaks (Store.violation?_eq_none_iff_not_breaks.mp checked)
    | some v =>
      rw [checked] at applied
      have conflict := update_of_refused valid found carried applied
      refine ⟨fun kept => ?_, fun _ => ⟨by rw [conflict]; rfl, _, conflict⟩⟩
      rw [Store.violation?_eq_none_iff_not_breaks.mpr kept] at checked
      cases checked

end Repository

/-- The email of a user of the sample store addresses that user. -/
theorem Sample.addressesOne_email (settings : Settings) :
    (Repository.standard settings .user).AddressesOne Sample.store
      (.map [(.str "email", .str "dave@example.com")]) (users.take 3) users[3] (users.drop 4) := by
  let column : Column := ⟨.email, .text 255, false, none⟩
  have has (row : Row) : row.Has column (.str "dave@example.com") ↔
      (row.cell .email).equals (.str "dave@example.com") = true := Row.has_iff_equals rfl
  refine ⟨rfl, "email", column, .str "dave@example.com", rfl, rfl, (has _).mpr rfl, ?_⟩
  intro other hm
  rw [has]
  revert other
  decide

/-- **Updates write what they are given and nothing else.** Let an identifier address one record of
a table.

If an update of it succeeds, then the record in its place is what the data makes of it, no other
record has changed, and the answer shows the new record. Entries of the data that are not for a
column have no effect.

On a session under way, where the table is sound and every column that is given a value can keep it,
as it can null and the values of its kind, the update succeeds unless the changed record breaks a
constraint. That is a conflict. -/
theorem update_writes_given (r : Repository) (c : Context) (s : Session)
    (identifier data : Value) (entries : Entries) (before after : List Row) (row : Row)
    (keyed : KeyedRows (s.working.rows r.entity))
    (one : r.AddressesOne s.working identifier before row after) (carried : data.Carries entries) :
    ((r.update c s identifier data).reply.isSuccess = true →
      ∃ new, row.ChangedBy c.occasion.now r.entity entries new ∧
        (r.update c s identifier data).reply =
          Envelope.success (.record (LoadPlan.plain r.entity new)) 204 ∧
        (r.update c s identifier data).session.working =
          s.working.setRows r.entity (before ++ new :: after)) ∧
    (∀ data' entries', data'.Carries entries' →
      (∀ column ∈ r.entity.columns,
        entries'.get? column.field.label = entries.get? column.field.label) →
      (r.update c s identifier data').reply = (r.update c s identifier data).reply ∧
        (r.update c s identifier data').session = (r.update c s identifier data).session) ∧
    (s.isActive = true → SoundTable r.entity (s.working.rows r.entity) →
      (∀ column ∈ r.entity.columns, ∀ v, entries.get? column.field.label = some v →
        (column.cellOf? v).isSome = true) →
      ∃ new, row.ChangedBy c.occasion.now r.entity entries new ∧
        (¬ new.Breaks r.entity (before ++ after) →
          (r.update c s identifier data).reply.isSuccess = true) ∧
        (new.Breaks r.entity (before ++ after) →
          (r.update c s identifier data).reply.code = 409 ∧ ∃ message,
            (r.update c s identifier data).reply =
              Envelope.failure .nothing .constraintViolation message)) :=
  ⟨Repository.update_of_success keyed one carried,
    fun _ _ carried' same => Repository.update_congr carried carried' same,
    fun active sound fits => Repository.update_of_fits active keyed sound one carried fits⟩

/-- A user of the sample store is addressed by an email, and given values for two columns, a
relation and an unknown name. -/
theorem update_writes_given_sample :
    let c : Context := Script.context {} 1
    let s := Session.start Sample.store false
    let r := Repository.standard c.settings .user
    let identifier : Value := .map [(.str "email", .str "dave@example.com")]
    let entries : Entries := [(.str "first_name", .str "David"), (.str "phone_number", .null),
      (.str "cards", .list []), (.str "level", .int 1)]
    KeyedRows (s.working.rows r.entity) ∧
      r.AddressesOne s.working identifier (Sample.users.take 3) Sample.users[3]
        (Sample.users.drop 4) ∧
      SoundTable r.entity (s.working.rows r.entity) ∧
      (r.update c s identifier (.map entries)).reply.isSuccess = true ∧
      ∃ new, Sample.users[3].ChangedBy c.occasion.now r.entity entries new ∧
        (r.update c s identifier (.map entries)).session.working =
          s.working.setRows r.entity (Sample.users.take 3 ++ new :: Sample.users.drop 4) := by
  intro c s r identifier entries
  have keyed : KeyedRows (s.working.rows r.entity) := Sample.keyed_store.rows .user
  have one := Sample.addressesOne_email c.settings
  have sound : SoundTable r.entity (s.working.rows r.entity) :=
    ⟨by decide, by decide⟩
  have stored : (Draft.applyChanges c.occasion r.entity Sample.users[3] entries
      s.working).toOption.isSome = true := by
    decide +kernel
  obtain ⟨valid, found⟩ := Repository.addressed_of_addressesOne (s := s) rfl one
  have success : (r.update c s identifier (.map entries)).reply.isSuccess = true := by
    obtain ⟨written, applied⟩ := Option.isSome_iff_exists.mp stored
    rw [(Repository.update_of_applied valid found (.inl rfl) (toOption_eq_some.mp applied)).1]
    rfl
  obtain ⟨new, changed, -, working⟩ := (update_writes_given r c s identifier (.map entries) entries
    _ _ _ keyed one (.inl rfl)).1 success
  exact ⟨keyed, one, sound, success, new, changed, working⟩

/-- The same user is given another name, and the time of its last change as it is. The name is
written and the time is not kept. And on a session that has ended the update fails, though no write
on it did. -/
theorem update_of_equal_time :
    let c : Context := Script.context {} 1
    let s := Session.start Sample.store false
    let ended := (Session.start Sample.store true).rollback
    let r := Repository.standard c.settings .user
    let identifier : Value := .map [(.str "email", .str "dave@example.com")]
    let time := Timestamp.midnight ⟨2025, 1, 4⟩
    let data : Value :=
      .map [(.str "updated_at", .datetime ⟨time, none⟩), (.str "first_name", .str "David")]
    (r.update c s identifier data).reply.isSuccess = true ∧
      Column.cellOf? ⟨.updatedAt, .moment, false, some .now⟩ (.datetime ⟨time, none⟩) =
        some (.moment time) ∧
      (∃ new ∈ (r.update c s identifier data).session.working.rows .user,
        new.cell .email = .text "dave@example.com" ∧ new.cell .updatedAt ≠ .moment time) ∧
      (r.update c ended identifier data).reply.isSuccess = false := by
  intro c s ended r identifier time data
  have stored : (Draft.applyChanges c.occasion r.entity Sample.users[3]
      [(.str "updated_at", .datetime ⟨time, none⟩), (.str "first_name", .str "David")]
      s.working).toOption.any (fun written => (written.1.rows .user).any fun new =>
        new.cell .email = .text "dave@example.com" &&
          new.cell .updatedAt ≠ .moment time) = true := by
    decide +kernel
  obtain ⟨valid, found⟩ := Repository.addressed_of_addressesOne (s := s) rfl
    (Sample.addressesOne_email c.settings)
  obtain ⟨written, applied, here⟩ := (Option.any_eq_true _ _).mp stored
  obtain ⟨new, hnew, cells⟩ := List.any_eq_true.mp here
  obtain ⟨reply, session⟩ :=
    Repository.update_of_applied valid found (.inl rfl) (toOption_eq_some.mp applied)
  refine ⟨by rw [reply]; rfl, rfl, ⟨new, ?_, by simpa using cells⟩, ?_⟩
  · rw [session]
    exact hnew
  · exact ((WriteCall.update r identifier data).run_of_not_isActive c (s := ended) rfl).1

end Recordbook

import Recordbook.Identifier
import Recordbook.Repository.Basic

/-!
# Writing

The calls that change records: create, update, delete and upsert. They write to the session and
leave it to its owner to save. A write that the store refuses breaks the session; every other
failure leaves it as it was.

An update and a deletion address one record by an identifier. An identifier without a value is
turned away before anything is looked for.
-/

namespace Recordbook

namespace Repository

/-- The one record that meets criteria, if there is one; several are a failure. -/
def findUnique (r : Repository) (s : Session) (criteria : List (Criterion Operand)) :
    Except Failure (Option Row) := do
  s.queryGuard
  let bound ← Criteria.bind criteria
  match Select.matching s.working r.entity bound with
  | [] => return none
  | [row] => return some row
  | _ => throw (.store .severalRecords)

/-- The record that an identifier addresses; none is a failure. -/
def addressed (r : Repository) (s : Session) (i : Identifier) : Except Failure Row := do
  let column ← r.entity.columnOf i.key
  match ← r.findUnique s [Criteria.equality column i.value] with
  | some row => return row
  | none => throw r.notFound

/-- A reply about a record that was written. -/
def written (r : Repository) (code : Int) (row : Row) : Reply :=
  Envelope.success (.record (LoadPlan.plain r.entity row)) code

/-- Write a new record. -/
def insertDraft (r : Repository) (c : Context) (s : Session) (d : Draft) :
    Except Failure Row × Session :=
  match s.writeGuard with
  | .error f => (.error f, s)
  | .ok () => s.attempt (d.insert c.occasion r.entity s.working)

/-- Write changes to a record. Nothing is written if nothing changes. -/
def changeRow (r : Repository) (c : Context) (s : Session) (row : Row) (data : Entries) :
    Except Failure Row × Session :=
  s.attempt (Draft.applyChanges c.occasion r.entity row data s.working)

/-! ### The four writes, which may fail -/

/-- Add a record made of data. -/
def add (r : Repository) (c : Context) (s : Session) (data : Value) :
    Except Failure Reply × Session :=
  match (Draft.dataOf data).bind (Draft.ofEntries r.entity) with
  | .error f => (.error f, s)
  | .ok draft =>
    let (result, after) := r.insertDraft c s draft
    (result.map (r.written 201), after)

/-- Change the record that an identifier addresses. -/
def change (r : Repository) (c : Context) (s : Session) (i : Identifier) (data : Value) :
    Except Failure Reply × Session :=
  match r.addressed s i with
  | .error f => (.error f, s)
  | .ok row => match Draft.dataOf data with
    | .error f => (.error f, s)
    | .ok entries =>
      let (result, after) := r.changeRow c s row entries
      (result.map (r.written 204), after)

/-- Remove the record that an identifier addresses, and answer with it as it was. -/
def removeAddressed (r : Repository) (s : Session) (i : Identifier) :
    Except Failure Reply × Session :=
  match r.addressed s i with
  | .error f => (.error f, s)
  | .ok row =>
    let (result, after) := s.attempt
      (((s.working.remove r.entity row).mapError Draft.refused).map fun next => (next, row))
    (result.map (r.written 200), after)

/-- The criteria that a record equals given values. -/
def equalities (r : Repository) (values : Entries) : Except Failure (List (Criterion Operand)) :=
  values.mapM fun e => (r.entity.columnOf e.1).map fun column => Criteria.equality column e.2

/-- A value as a mapping to be merged with another. -/
def mergeable (v : Value) : Except Misuse Entries :=
  match v with
  | .map es => .ok es
  | v => .error (if v.hasField "keys" then v.callProblem "keys" else .notMapping v.longKindName)

/-- Change the record that equals given values, or add one that does. -/
def addOrChange (r : Repository) (c : Context) (s : Session) (values created updated : Value) :
    Except Failure Reply × Session :=
  let search : Except Failure (Entries × Option Row) := do
    let values ← values.entries.mapError Failure.misuse
    let criteria ← r.equalities values
    let found ← r.findUnique s criteria
    return (values, found)
  match search with
  | .error f => (.error f, s)
  | .ok (values, none) =>
    let draft := ((mergeable created).mapError Failure.misuse).bind fun created =>
      Draft.ofEntries r.entity (Entries.putAll created values)
    match draft with
    | .error f => (.error f, s)
    | .ok draft =>
      let (result, after) := r.insertDraft c s draft
      (result.map (r.written 201), after)
  | .ok (_, some row) => match updated.entries with
    | .error m => (.error (.misuse m), s)
    | .ok entries =>
      let (result, after) := r.changeRow c s row entries
      (result.map (r.written 200), after)

/-! ### Calls -/

/-- What a call that writes leaves. -/
structure Written where
  /-- The envelope. -/
  reply : Reply
  /-- The session afterwards. -/
  session : Session
  /-- The log. -/
  log : Log

/-- What reaches the caller. -/
def Written.answer (w : Written) : Except Failure Reply := Repository.answer w.reply w.log

theorem Written.answer_of_logged {w : Written} {log : List LogRecord} (h : w.log = .ok log) :
    w.answer = .ok w.reply := by
  rw [answer, h]
  rfl

theorem Written.answer_of_unlogged {w : Written} {m : Misuse} (h : w.log = .error m) :
    w.answer = .error (.misuse m) := by
  rw [answer, h]
  rfl

/-- What is left of a write that succeeded or failed. -/
def reportWrite (r : Repository) (a : Action) (args : List Value)
    (result : Except Failure Reply × Session) : Written :=
  let reported := r.report a args result.1
  ⟨reported.1, result.2, reported.2⟩

/-- What is logged of an identifier without a value. -/
def rejection (r : Repository) (identifier : Value) : Except Misuse LogRecord := do
  let shown ← Misuse.written (Redaction.safeText identifier)
  return ⟨.info, "Rejected " ++ r.name ++ " identifier " ++ shown⟩

/-- What an identifier without a value leaves. -/
def rejected (r : Repository) (s : Session) (identifier : Value) : Written :=
  ⟨Envelope.failure .nothing .invalidIdentifier FaultKind.invalidIdentifier.defaultMessage, s,
    (r.rejection identifier).map fun record => [record]⟩

/-- Create a record. -/
def create (r : Repository) (c : Context) (s : Session) (data : Value) : Written :=
  r.reportWrite ⟨"creating", false, "create"⟩ [data] (r.add c s data)

/-- Update the record that an identifier addresses. -/
def update (r : Repository) (c : Context) (s : Session) (identifier data : Value) : Written :=
  let i := Identifier.resolve identifier
  if i.isValid then
    r.reportWrite ⟨"updating", false, "_update"⟩ [.tuple [i.key, i.value], data]
      (r.change c s i data)
  else r.rejected s identifier

/-- Delete the record that an identifier addresses. -/
def delete (r : Repository) (s : Session) (identifier : Value) : Written :=
  let i := Identifier.resolve identifier
  if i.isValid then
    r.reportWrite ⟨"deleting", false, "_delete"⟩ [.tuple [i.key, i.value]] (r.removeAddressed s i)
  else r.rejected s identifier

/-- Update the record that equals given values, or create one. -/
def upsert (r : Repository) (c : Context) (s : Session) (values created updated : Value) :
    Written :=
  r.reportWrite ⟨"upserting", false, "upsert"⟩ [values, created, updated]
    (r.addOrChange c s values created updated)

end Repository

end Recordbook

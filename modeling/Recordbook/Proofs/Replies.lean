import Recordbook.Proofs.Call
import Recordbook.Proofs.Selection

/-!
# Replies

Every call comes to an envelope, and the envelope is of one of two shapes: a success with one of
three codes, or the error that a fault of some kind makes. An error therefore says three times which
kind of fault it is, by its code, by the name in its detail and by its message, and the three agree.

Errors are made in three places. A look-up that finds nothing makes one of its own, an identifier
without a value is turned away before the call proper, and whatever fails in a call is reported by
`Repository.report`. Each of them goes through `Envelope.failure`, which is why it is enough to
follow what the inner calls come to when they do not fail.

## Main definitions

* `Envelope.Succeeded`, `Envelope.Regular` — the first of the two shapes, and either of them
* `Repository.ComesTo` — an inner call that fails or comes to an envelope with a property

## Main results

* `Call.regular_run` — the envelope of a call has one of the two shapes
-/

namespace Recordbook

/-- The codes of successes. -/
def Envelope.successCodes : List Int := [200, 201, 204]

/-- An envelope of one of the two shapes of answers. -/
inductive Envelope.Regular {α : Type} : Envelope α → Prop
  /-- A success. -/
  | success (output : α) {code : Int} (named : code ∈ successCodes) :
      Regular (success output code)
  /-- The error that a fault makes. -/
  | failure (output : α) (kind : FaultKind) (message : String) :
      Regular (failure output kind message)

/-- A success, with one of its codes. -/
inductive Envelope.Succeeded {α : Type} : Envelope α → Prop
  /-- A success. -/
  | success (output : α) {code : Int} (named : code ∈ successCodes) :
      Succeeded (success output code)

theorem Envelope.Succeeded.isSuccess {α : Type} {e : Envelope α} (h : e.Succeeded) :
    e.isSuccess = true := by
  cases h
  rfl

namespace Envelope.Regular

variable {α : Type} {e : Envelope α}

theorem of_succeeded (h : e.Succeeded) : e.Regular := by
  cases h with
  | success output named => exact .success output named

/-- An envelope without an error detail says success, with the code of one. -/
theorem of_no_error (h : e.Regular) (absent : e.error.isNull = true) :
    e.status = .success ∧ e.code ∈ successCodes := by
  cases h with
  | success output named => exact ⟨rfl, named⟩
  | failure output kind message => cases absent

/-- The error detail of an envelope is that of a fault, and code, message and status are too. -/
theorem of_error (h : e.Regular) (present : e.error.isNull = false) :
    e.status = .error ∧
      ∃ kind : FaultKind, e.error = detail e.message kind ∧ e.code = kind.code := by
  cases h with
  | success output named => cases present
  | failure output kind message => exact ⟨rfl, kind, rfl, rfl⟩

end Envelope.Regular

namespace Repository

variable (r : Repository) (c : Context) (s : Session)

/-- An inner call that comes to a reply with a property, unless it fails. -/
def ComesTo (P : Reply → Prop) (result : Except Failure Reply) : Prop :=
  ∀ reply, result = .ok reply → P reply

/-- The error that answers a look-up which matches no record. -/
def missing : Reply := Envelope.failure .nothing .notFound r.notFoundMessage

namespace ComesTo

variable {P : Reply → Prop}

theorem error (f : Failure) : ComesTo P (.error f) := nofun

theorem ok {reply : Reply} (h : P reply) : ComesTo P (.ok reply) := by
  rintro _ ⟨⟩
  exact h

theorem mono {Q : Reply → Prop} {result : Except Failure Reply} (h : ComesTo P result)
    (weaker : ∀ reply, P reply → Q reply) : ComesTo Q result :=
  fun reply hr => weaker reply (h reply hr)

/-- What a call does before it comes to an envelope may fail, and does not matter otherwise. -/
theorem bind {α : Type} (before : Except Failure α) {next : α → Except Failure Reply}
    (h : ∀ a, ComesTo P (next a)) : ComesTo P (before >>= next) := by
  intro reply hr
  obtain ⟨a, -, hr⟩ := bind_eq_ok.mp hr
  exact h a reply hr

theorem fetched (output : Output) :
    ComesTo Envelope.Succeeded (.ok (Envelope.success output 200)) :=
  ok (.success output (by decide))

/-- A record that was written is answered with, by one of the codes of successes. -/
theorem written (result : Except Failure Row) {code : Int} (h : code ∈ Envelope.successCodes) :
    ComesTo Envelope.Succeeded (result.map (r.written code)) := by
  intro reply hr
  obtain ⟨row, -, rfl⟩ := map_eq_ok.mp hr
  exact .success _ h

/-- Whatever fails is reported as an error of one of the two shapes. -/
theorem report {result : Except Failure Reply} (h : ComesTo Envelope.Regular result) (a : Action)
    (args : List Value) : (r.report a args result).1.Regular := by
  cases result with
  | ok reply => exact h reply rfl
  | error f => exact .failure Output.nothing f.toFault.kind (r.failureMessage a f)

/-- So a call that only ever comes to a success is answered by an envelope of one of them. -/
theorem regular {result : Except Failure Reply} (h : ComesTo Envelope.Succeeded result) :
    ComesTo Envelope.Regular result :=
  h.mono fun _ => .of_succeeded

end ComesTo

/-! ### Reading -/

/-- No record is no failure of the inner call, but an error of the same shape. -/
theorem comesTo_first (filters tree : Value) :
    ComesTo (fun reply => reply.Succeeded ∨ reply = r.missing) (r.first c s filters tree) := by
  refine .bind _ fun q => .bind _ fun st => .bind _ fun _ => .bind _ fun found => ?_
  cases st.present s.working found.toList with
  | nil => exact .ok (.inr rfl)
  | cons shown rest => exact .ok (.inl (.success _ (by decide)))

theorem comesToRegular_first (filters tree : Value) :
    ComesTo Envelope.Regular (r.first c s filters tree) :=
  (r.comesTo_first c s filters tree).mono fun _ h => h.elim .of_succeeded fun missing =>
    missing ▸ .failure Output.nothing .notFound r.notFoundMessage

theorem comesTo_all (filters order tree : Value) :
    ComesTo Envelope.Succeeded (r.all c s filters order tree) :=
  .bind _ fun _ => .bind _ fun _ => .fetched _

theorem comesTo_paged (q : CompiledQuery) (page perPage : Value) :
    ComesTo Envelope.Succeeded (r.paged c s q page perPage) :=
  .bind _ fun _ => .bind _ fun _ => .bind _ fun _ => .bind _ fun _ => .bind _ fun _ =>
    .bind _ fun _ => .fetched _

theorem comesTo_counted (filters : Value) :
    ComesTo Envelope.Succeeded (r.counted c s filters) :=
  .bind _ fun _ => .bind _ fun _ => .bind _ fun _ => .bind _ fun _ => .fetched _

/-! ### Writing -/

theorem comesTo_add (data : Value) : ComesTo Envelope.Succeeded (r.add c s data).1 := by
  rw [add]
  split
  · exact .error _
  · exact .written r _ (by decide)

theorem comesTo_change (i : Identifier) (data : Value) :
    ComesTo Envelope.Succeeded (r.change c s i data).1 := by
  rw [change]
  split
  · exact .error _
  · split
    · exact .error _
    · exact .written r _ (by decide)

theorem comesTo_removeAddressed (i : Identifier) :
    ComesTo Envelope.Succeeded (r.removeAddressed s i).1 := by
  rw [removeAddressed]
  split
  · exact .error _
  · exact .written r _ (by decide)

theorem comesTo_addOrChange (values created updated : Value) :
    ComesTo Envelope.Succeeded (r.addOrChange c s values created updated).1 := by
  rw [addOrChange_eq]
  cases r.search s values with
  | error f => exact .error f
  | ok found =>
    obtain ⟨entries, found⟩ := found
    cases found with
    | none =>
      dsimp only
      cases r.draftBeside entries created with
      | error f => exact .error f
      | ok draft => exact .written r _ (by decide)
    | some row =>
      dsimp only
      cases updated.entries with
      | error m => exact .error _
      | ok data => exact .written r _ (by decide)

/-- An identifier without a value is answered by an error of the same shape. -/
theorem regular_rejected (identifier : Value) : (r.rejected s identifier).reply.Regular :=
  .failure Output.nothing .invalidIdentifier FaultKind.invalidIdentifier.defaultMessage

end Repository

open Repository

/-! ### Calls -/

theorem ReadCall.regular_run (c : Context) (s : Session) (k : ReadCall) :
    (k.run c s).1.Regular := by
  cases k with
  | getOne r filters tree => exact (r.comesToRegular_first c s filters tree).report r _ _
  | get r filters order tree => exact (r.comesTo_all c s filters order tree).regular.report r _ _
  | getPaginated r filters order tree page perPage =>
    exact (ComesTo.bind _ fun q => r.comesTo_paged c s q page perPage).regular.report r _ _
  | count r filters => exact (r.comesTo_counted c s filters).regular.report r _ _
  | withRolesAndCompany r roleId companyId => exact (r.comesTo_all c s _ _ _).regular.report r _ _
  | byCompany r companyId page perPage =>
    exact (ComesTo.bind _ fun q => r.comesTo_paged c s q page perPage).regular.report r _ _
  | byCompanyAndStatus r companyId status => exact (r.comesTo_all c s _ _ _).regular.report r _ _
  | memberships r userId activeOnly => exact (r.comesTo_all c s _ _ _).regular.report r _ _
  | byCompanyAndCurrency r companyId currency =>
    exact (r.comesToRegular_first c s _ _).report r _ _

theorem WriteCall.regular_run (c : Context) (s : Session) (k : WriteCall) :
    (k.run c s).reply.Regular := by
  cases k with
  | create r data => exact (r.comesTo_add c s data).regular.report r _ _
  | update r identifier data =>
    rw [WriteCall.run, Repository.update]
    split
    · exact (r.comesTo_change c s _ data).regular.report r _ _
    · exact r.regular_rejected s identifier
  | delete r identifier =>
    rw [WriteCall.run, Repository.delete]
    split
    · exact (r.comesTo_removeAddressed s _).regular.report r _ _
    · exact r.regular_rejected s identifier
  | upsert r values created updated =>
    exact (r.comesTo_addOrChange c s values created updated).regular.report r _ _

/-- The envelope of a call has one of the two shapes, whatever the call and its session are. -/
theorem Call.regular_run (c : Context) (s : Session) (k : Call) : (k.run c s).reply.Regular := by
  cases k with
  | read k => exact k.regular_run c s
  | write k => exact k.regular_run c s

end Recordbook

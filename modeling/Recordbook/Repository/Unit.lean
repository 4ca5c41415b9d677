import Recordbook.Repository.Basic

/-!
# Units of work

A unit of work runs calls on a session of its own. All that they wrote is saved together at the end,
or nothing is: when the unit raises a failure, and also when a write in it failed and the unit went
on as if nothing had happened.
-/

namespace Recordbook

namespace Repository

/-- How a unit of work ended. -/
structure Concluded (α : Type) where
  /-- The result, or the failure that took everything back. -/
  result : Except Failure α
  /-- The store afterwards. -/
  store : Store
  /-- The log. -/
  log : List LogRecord

/-- The failure of a unit that went on after a failed write. -/
def ignoredFailure : Failure :=
  .fault ⟨.generic, "Transaction rolled back after a failed write"⟩

/-- The end of a unit that a failure took back. -/
def takenBack {α : Type} (r : Repository) (f : Failure) (s : Session) : Concluded α :=
  ⟨.error f, s.saved,
    [⟨.warning, "Transaction on " ++ r.plural ++ " rolled back: " ++ f.toFault.message⟩]⟩

/-- The end of a unit of work that came to a result or raised a failure. -/
def conclude {α : Type} (r : Repository) (ended : Except Failure α × Session) : Concluded α :=
  match ended.1 with
  | .error f => r.takenBack f ended.2
  | .ok a =>
    if ended.2.isActive then ⟨.ok a, ended.2.working, []⟩ else r.takenBack ignoredFailure ended.2

/-- Run a unit of work on a store. -/
def operation {α : Type} (r : Repository) (store : Store)
    (work : Session → Except Failure α × Session) : Concluded α :=
  r.conclude (work (Session.start store true))

/-- The fault that a unit which was taken back is reported as. -/
def transactionFault (f : Failure) : Fault :=
  ⟨.transactionFailure, "Operation failed: " ++ f.toFault.message⟩

end Repository

end Recordbook

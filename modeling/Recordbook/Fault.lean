/-!
# Faults

The few kinds of failure that callers tell apart. Each has a code, a name that goes into envelopes,
and a message that stands in for an empty one.
-/

namespace Recordbook

/-- The kinds of faults. -/
inductive FaultKind
  /-- No particular kind. -/
  | store
  /-- A look-up matched no record. -/
  | notFound
  /-- An identifier has no value. -/
  | invalidIdentifier
  /-- A filter, an order or an include is malformed. -/
  | invalidQuerySpec
  /-- The store rejected a write because of a constraint. -/
  | constraintViolation
  /-- Any other failure of the store. -/
  | generic
  /-- A unit of work failed and was taken back. -/
  | transactionFailure
deriving DecidableEq, Repr, Inhabited

namespace FaultKind

/-- All kinds. -/
def all : List FaultKind :=
  [.store, .notFound, .invalidIdentifier, .invalidQuerySpec, .constraintViolation, .generic,
    .transactionFailure]

/-- The name in envelopes. -/
def name : FaultKind → String
  | .store => "StoreFault"
  | .notFound => "NotFoundFault"
  | .invalidIdentifier => "InvalidIdentifierFault"
  | .invalidQuerySpec => "InvalidQuerySpecFault"
  | .constraintViolation => "ConstraintViolationFault"
  | .generic => "GenericStoreFault"
  | .transactionFailure => "TransactionFailureFault"

/-- The kind with the given name. -/
def ofName? (s : String) : Option FaultKind := all.find? fun k => k.name = s

/-- The code in envelopes. -/
def code : FaultKind → Int
  | .notFound => 404
  | .invalidIdentifier => 400
  | .invalidQuerySpec => 400
  | .constraintViolation => 409
  | _ => 500

/-- The message when none is given. -/
def defaultMessage : FaultKind → String
  | .notFound => "Record not found"
  | .invalidIdentifier => "Invalid identifier provided"
  | .invalidQuerySpec => "Invalid query specification"
  | .constraintViolation => "Constraint violation"
  | .transactionFailure => "Operation failed"
  | _ => "Something went wrong"

end FaultKind

/-- A fault with its message. -/
structure Fault where
  /-- The kind. -/
  kind : FaultKind
  /-- The message. -/
  message : String
deriving DecidableEq, Repr, Inhabited

namespace Fault

/-- A fault of a kind; an absent or empty message means the default one. -/
def make (kind : FaultKind) (message : Option String) : Fault :=
  match message with
  | some m => ⟨kind, if m = "" then kind.defaultMessage else m⟩
  | none => ⟨kind, kind.defaultMessage⟩

/-- The code of a fault. -/
def code (f : Fault) : Int := f.kind.code

@[simp] theorem kind_make (k : FaultKind) (m : Option String) : (make k m).kind = k := by
  cases m <;> rfl

end Fault

end Recordbook

import Recordbook.Store.Draft

/-!
# Sessions

A session holds the store as it was last saved and the store as its own writes have left it. A write
that the store refuses takes back everything since the last save and leaves the session broken: it
answers no further call until it is rolled back.

A session may be for one unit of work only. Such a session ends with the unit: saving or rolling
back inside it is final.
-/

namespace Recordbook

/-- What a session can do at the moment. -/
inductive SessionStatus
  /-- Everything. -/
  | ready
  /-- Nothing until it is rolled back, because a write failed. -/
  | broken (cause : String)
  /-- Nothing any more; the text is the failure that came before, if there was one. -/
  | ended (cause : Option String)
deriving DecidableEq, Repr

/-- A session. -/
structure Session where
  /-- The store as it was last saved. -/
  saved : Store
  /-- The store as the session sees it. -/
  working : Store
  /-- What the session can do. -/
  status : SessionStatus
  /-- Whether it is for one unit of work only. -/
  oneUnit : Bool

namespace Session

/-- A new session on a store. -/
def start (s : Store) (oneUnit : Bool) : Session := ⟨s, s, .ready, oneUnit⟩

/-- Why the session answers no query, if it does not. -/
def queryGuard (s : Session) : Except Failure Unit :=
  match s.status with
  | .ready => .ok ()
  | .broken cause =>
    if s.oneUnit then .error (.session (.ended (some cause))) else .error (.session (.broken cause))
  | .ended cause => .error (.session (.ended cause))

/-- Why the session takes no write, if it does not. -/
def writeGuard (s : Session) : Except Failure Unit :=
  match s.status with
  | .ready => .ok ()
  | .broken cause => .error (.session (.broken cause))
  | .ended cause => .error (.session (.ended cause))

/-- The session after a write that succeeded. -/
def wrote (s : Session) (next : Store) : Session := { s with working := next }

/-- The session after a write that failed. -/
def failed (s : Session) (f : Failure) : Session :=
  { s with working := s.saved, status := .broken f.message }

/-- The session after a write was attempted on it: written if it succeeded, broken if not. -/
def attempt {α : Type} (s : Session) (r : Except Failure (Store × α)) : Except Failure α × Session :=
  match r with
  | .ok (next, a) => (.ok a, s.wrote next)
  | .error f => (.error f, s.failed f)

/-- Save what was written. -/
def save (s : Session) : Except Failure Unit × Session :=
  match s.writeGuard with
  | .error f => (.error f, s)
  | .ok () =>
    (.ok (), { s with saved := s.working, status := if s.oneUnit then .ended none else .ready })

/-- Take back what was written since the last save. -/
def rollback (s : Session) : Session :=
  let status : SessionStatus :=
    if s.oneUnit then
      match s.status with
      | .ready => .ended none
      | .broken cause => .ended (some cause)
      | .ended cause => .ended cause
    else .ready
  { s with working := s.saved, status := status }

/-- Whether the unit of work is still under way. -/
def isActive (s : Session) : Bool := s.status = .ready

@[simp] theorem queryGuard_start (s : Store) (oneUnit : Bool) :
    (start s oneUnit).queryGuard = .ok () := rfl

end Session

end Recordbook

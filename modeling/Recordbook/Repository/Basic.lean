import Recordbook.Envelope
import Recordbook.Query.Select
import Recordbook.Redaction
import Recordbook.Session

/-!
# Repositories

A repository answers calls about one kind of records. Whatever happens, a call comes to an envelope:
a failure becomes an error envelope whose message says what was being done, and a warning in the log
that shows the arguments as far as they may be shown.

The warning is written before the envelope is handed over. Arguments that cannot be written leave no
warning, and then the envelope does not reach the caller: what is raised in place of it is that they
cannot be written.

## Main definitions

* `Repository` — a repository, and `Repository.standard` for the one of each kind of records
* `Repository.compile` — the query that a repository makes of a filter, an order and an include
* `Repository.report` — the envelope and the log of a call that succeeded or failed
* `Repository.answer` — what reaches the caller of that
-/

namespace Recordbook

/-- What a call puts out. -/
inductive Output
  /-- Nothing. -/
  | nothing
  /-- A number. -/
  | number (n : Int)
  /-- A record. -/
  | record (r : Loaded)
  /-- Records. -/
  | records (rs : List Loaded)
  /-- A page of records. -/
  | page (p : Page Loaded)

/-- The answer of a call. -/
abbrev Reply := Envelope Output

/-- How important a log record is. -/
inductive LogLevel
  /-- For information. -/
  | info
  /-- Something failed. -/
  | warning
deriving DecidableEq, Repr

/-- A log record. -/
structure LogRecord where
  /-- How important it is. -/
  level : LogLevel
  /-- What it says. -/
  message : String
deriving DecidableEq

/-- A log, if it could be written. -/
abbrev Log := Except Misuse (List LogRecord)

/-- The record on one line. -/
def LogRecord.text (r : LogRecord) : String :=
  (match r.level with
    | .info => "INFO "
    | .warning => "WARNING ") ++ r.message

/-- A repository. -/
structure Repository where
  /-- The kind of records. -/
  entity : Entity
  /-- The name of the repository in logs. -/
  label : String
  /-- The name of one record in messages. -/
  name : String
  /-- The name of several records in messages. -/
  plural : String
  /-- How membership filters are compiled. -/
  membership : Membership
  /-- The include of calls that give none. -/
  defaultTree : Value

/-- What a call knows besides its arguments. -/
structure Context where
  /-- The settings. -/
  settings : Settings
  /-- When the call happens, and the key that it may use. -/
  occasion : Occasion

namespace Repository

/-- The given name, or the default if there is none or it is empty. -/
def nameOr (default : String) : Option String → String
  | some s => if s.isEmpty then default else s
  | none => default

/-- A repository of a kind of records with the given names, each of which has a default. Membership
filters apply only where the relation exists. -/
def make (s : Settings) (e : Entity) (label : String) (name plural relation : Option String)
    (tree : Value) : Repository :=
  let name := nameOr (Text.humanize e.typeName) name
  let relation := nameOr s.membershipRelation relation
  { entity := e
    label := label
    name := name
    plural := nameOr (name ++ "s") plural
    membership := ⟨relation, (e.relation? relation).isSome⟩
    defaultTree := tree }

/-- A repository without anything of its own. -/
def generic (s : Settings) (e : Entity) (name plural relation : Option String) (tree : Value) :
    Repository := make s e "BaseRepository" name plural relation tree

/-- The include of wallets: the name of the company. -/
def walletTree : Value := .map [(.str "company", .list [.str "name"])]

/-- The repository of a kind of records. -/
def standard (s : Settings) (e : Entity) : Repository :=
  make s e (e.typeName ++ "Repository") none (if e = .company then some "companies" else none) none
    (if e = .wallet then walletTree else .null)

/-- The query that a repository makes of a filter, an order and an include, each of which may be
null. -/
def compile (r : Repository) (s : Settings) (filters order tree : Value) :
    Except Failure CompiledQuery := do
  let filters ← filters.asEntriesOrEmpty.mapError Failure.misuse
  let order ← order.asEntriesOrEmpty.mapError Failure.misuse
  let tree ← match tree with
    | .null => pure r.defaultTree
    | tree => (tree.asEntries.mapError Failure.misuse).map Value.map
  let spec ← QuerySpec.make [] (.map filters) (.map order) tree
  spec.compile s r.membership

/-- The name of one record at the start of a sentence. -/
def title (r : Repository) : String := Text.capitalize r.name

/-- What is said when a look-up matches no record. -/
def notFoundMessage (r : Repository) : String := r.title ++ " not found"

/-- The failure of a look-up that matches no record. -/
def notFound (r : Repository) : Failure := .fault ⟨.notFound, r.notFoundMessage⟩

/-- What is being done in a call, for its message. -/
structure Action where
  /-- The verb. -/
  verb : String
  /-- Whether it is done to several records. -/
  many : Bool
  /-- The name of the call in logs. -/
  method : String

/-- The message of a call that failed. -/
def failureMessage (r : Repository) (a : Action) (f : Failure) : String :=
  "Error " ++ a.verb ++ " " ++ (if a.many then r.plural else r.name) ++ ": " ++ f.toFault.message

/-- The warning about a call that failed, with its arguments. -/
def warning (r : Repository) (a : Action) (args : List Value) (f : Failure) :
    Except Misuse LogRecord := do
  let shown ← Misuse.written (Redaction.safeText (.tuple args))
  return ⟨.warning, r.failureMessage a f ++ " [" ++ r.label ++ "." ++ a.method ++ " args=" ++
    shown ++ "]"⟩

/-- The envelope and the log of a call that succeeded or failed. -/
def report (r : Repository) (a : Action) (args : List Value) (result : Except Failure Reply) :
    Reply × Log :=
  match result with
  | .ok reply => (reply, .ok [])
  | .error f =>
    (Envelope.failure .nothing f.toFault.kind (r.failureMessage a f),
      (r.warning a args f).map fun warning => [warning])

theorem report_ok (r : Repository) (a : Action) (args : List Value) (reply : Reply) :
    r.report a args (.ok reply) = (reply, .ok []) := rfl

/-- What reaches the caller of a call with an envelope and a log: the envelope, unless the log could
not be written. -/
def answer (reply : Reply) (log : Log) : Except Failure Reply :=
  (log.map fun _ => reply).mapError Failure.misuse

end Repository

end Recordbook

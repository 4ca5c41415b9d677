import Recordbook.Repository.Read
import Recordbook.Repository.Unit
import Recordbook.Repository.Write

/-!
# Scripts

A script is a sequence of steps against a store: calls of repositories, queries that are written
out, and dumps of what is stored. Most steps have a session of their own, whose writes are saved if
the step is answered by a success. Steps can also be grouped, in one session or in one unit of work.

Time passes one second a step, and the keys that are made during a step carry its number, so that a
script always has the same answers.

## Main definitions

* `Step`, `Step.run` — a step, and what it does in a session
* `Block`, `Script.run` — a step or a group of steps, and the answers of a whole script
-/

namespace Recordbook

/-- One step. -/
inductive Step
  /-- Fetch one record. -/
  | getOne (r : Repository) (filters tree : Value)
  /-- Fetch records. -/
  | get (r : Repository) (filters order tree : Value)
  /-- Fetch a page of records. -/
  | getPaginated (r : Repository) (filters order tree page perPage : Value)
  /-- Count records. -/
  | count (r : Repository) (filters : Value)
  /-- Create a record. -/
  | create (r : Repository) (data : Value)
  /-- Update a record. -/
  | update (r : Repository) (identifier data : Value)
  /-- Delete a record. -/
  | delete (r : Repository) (identifier : Value)
  /-- Update a record or create it. -/
  | upsert (r : Repository) (values created updated : Value)
  /-- Look up users by role and company. -/
  | withRolesAndCompany (r : Repository) (roleId companyId : Value)
  /-- Look up the active members of a company. -/
  | byCompany (r : Repository) (companyId page perPage : Value)
  /-- Look up a company's cards by status. -/
  | byCompanyAndStatus (r : Repository) (companyId status : Value)
  /-- Look up a user's memberships. -/
  | memberships (r : Repository) (userId : Value) (activeOnly : Bool)
  /-- Look up a company's wallet by currency. -/
  | byCompanyAndCurrency (r : Repository) (companyId currency : Value)
  /-- Compile a query without running it. -/
  | compile (r : Repository) (filters order tree : Value)
  /-- Describe a repository. -/
  | describe (r : Repository)
  /-- Run a query that is written out. -/
  | select (e : Entity) (filter order tree : Option Value)
  /-- Count the records of a query that is written out. -/
  | countSelected (e : Entity) (filter order tree : Option Value)
  /-- Run a query that is written out for one page. -/
  | paginate (e : Entity) (filter order tree : Option Value) (page perPage : Value)
  /-- Show all records of some kinds. -/
  | dump (entities : List Entity)
  /-- Save what was written. -/
  | save
  /-- Take back what was not saved. -/
  | rollback

/-- The answer of a step. -/
inductive Answer
  /-- An envelope. -/
  | reply (e : Reply)
  /-- A failure that no envelope carries. -/
  | failure (f : Failure)
  /-- A compiled query. -/
  | query (q : CompiledQuery)
  /-- A repository. -/
  | repository (r : Repository)
  /-- Records. -/
  | rows (rs : List Loaded)
  /-- Records of a page, and how many there are over all pages. -/
  | window (rs : List Loaded) (total : Nat)
  /-- A number of records. -/
  | number (n : Nat)
  /-- All records of some kinds. -/
  | dump (tables : List (Entity × List Loaded))
  /-- The name of something that was done. -/
  | done (what : String)

/-- What a step leaves. -/
structure Stepped where
  /-- The answer. -/
  answer : Answer
  /-- The session afterwards. -/
  session : Session
  /-- The log. -/
  log : List LogRecord

namespace Step

/-- What a call leaves: its envelope with its log, or what is raised where there is no log. -/
def called (w : Repository.Written) : Stepped :=
  match w.log with
  | .ok log => ⟨.reply w.reply, w.session, log⟩
  | .error m => ⟨.failure (.misuse m), w.session, []⟩

@[simp] theorem session_called (w : Repository.Written) : (called w).session = w.session := by
  unfold called
  split <;> rfl

/-- What a call that only reads leaves. -/
def read (s : Session) (r : Reply × Log) : Stepped := called ⟨r.1, s, r.2⟩

@[simp] theorem session_read (s : Session) (r : Reply × Log) : (read s r).session = s :=
  session_called _

/-- What a query that may fail leaves. -/
def queried (s : Session) (r : Except Failure Answer) : Stepped :=
  match r with
  | .ok a => ⟨a, s, []⟩
  | .error f => ⟨.failure f, s, []⟩

/-- The statement of a query that is written out. -/
def statement (e : Entity) (filter order tree : Option Value) : Except Failure Select := do
  let q ← CompiledQuery.make filter order tree
  Select.build e q

/-- The records that a statement selects. -/
def selected (s : Session) (st : Select) : Except Failure Answer := do
  s.queryGuard
  let found ← st.run s.working
  return .rows (st.present s.working found)

/-- The number of records that a query selects; only its conditions are looked at. -/
def countedQuery (s : Session) (e : Entity) (q : CompiledQuery) : Except Failure Answer := do
  let criteria ← Criteria.resolve e q.filter
  s.queryGuard
  let n ← Select.count s.working e criteria
  return .number n

/-- One page of the records that a statement selects. -/
def windowed (s : Session) (st : Select) (page perPage : Value) : Except Failure Answer := do
  s.queryGuard
  let total ← st.total s.working
  let window ← (Page.window page perPage).mapError Failure.misuse
  let found ← st.runWindow s.working window
  return .window (st.present s.working found) total

/-- All records of some kinds. -/
def dumped (s : Session) (entities : List Entity) : Except Failure Answer := do
  s.queryGuard
  return .dump (entities.map fun e => (e, (s.working.scan e).map (LoadPlan.plain e)))

/-- Run a step in a session. -/
def run (c : Context) (s : Session) : Step → Stepped
  | .getOne r filters tree => read s (r.getOne c s filters tree)
  | .get r filters order tree => read s (r.get c s filters order tree)
  | .getPaginated r filters order tree page perPage =>
    read s (r.getPaginated c s filters order tree page perPage)
  | .count r filters => read s (r.count c s filters)
  | .create r data => called (r.create c s data)
  | .update r identifier data => called (r.update c s identifier data)
  | .delete r identifier => called (r.delete s identifier)
  | .upsert r values created updated => called (r.upsert c s values created updated)
  | .withRolesAndCompany r roleId companyId => read s (r.getWithRolesAndCompany c s roleId companyId)
  | .byCompany r companyId page perPage => read s (r.getByCompany c s companyId page perPage)
  | .byCompanyAndStatus r companyId status => read s (r.getByCompanyAndStatus c s companyId status)
  | .memberships r userId activeOnly => read s (r.getMemberships c s userId activeOnly)
  | .byCompanyAndCurrency r companyId currency =>
    match r.getByCompanyAndCurrency c s companyId currency with
    | .ok reply => read s reply
    | .error f => ⟨.failure f, s, []⟩
  | .compile r filters order tree =>
    queried s ((r.compile c.settings filters order tree).map Answer.query)
  | .describe r => ⟨.repository r, s, []⟩
  | .select e filter order tree => queried s ((statement e filter order tree).bind (selected s))
  | .countSelected e filter order tree =>
    queried s ((CompiledQuery.make filter order tree).bind (countedQuery s e))
  | .paginate e filter order tree page perPage =>
    queried s ((statement e filter order tree).bind fun st => windowed s st page perPage)
  | .dump entities => queried s (dumped s entities)
  | .save => match s.save with
    | (.ok (), after) => ⟨.done "commit", after, []⟩
    | (.error f, after) => ⟨.failure f, after, []⟩
  | .rollback => ⟨.done "rollback", s.rollback, []⟩

end Step

/-- A step, or a group of steps. -/
inductive Block
  /-- A step with a session of its own. -/
  | single (step : Step)
  /-- Steps in one session, of whose writes only those are kept that a step saved. -/
  | session (steps : List Step)
  /-- Steps in one unit of work. It may raise a failure at the end, and it may raise one at the
  first error envelope. -/
  | unit (r : Repository) (steps : List Step) (raised : Option Failure) (stopOnError : Bool)

/-- The answer of a step with its log. -/
structure Logged where
  /-- The answer. -/
  answer : Answer
  /-- The log. -/
  log : List LogRecord

/-- Why a unit of work was taken back. -/
inductive UnitEnd
  /-- It was not. -/
  | done
  /-- An error envelope ended it. -/
  | stopped (f : Failure)
  /-- It raised a failure at the end. -/
  | raised (f : Failure)
  /-- A write in it had failed. -/
  | ignored (f : Failure)

/-- The answer of a step or a group of steps. -/
inductive BlockAnswer
  /-- The answer of a step. -/
  | single (answer : Logged)
  /-- The answers of steps in one session. -/
  | session (answers : List Logged)
  /-- The answers of steps in one unit of work, how it ended, and its own log. -/
  | unit (answers : List Logged) (ending : UnitEnd) (log : List LogRecord)

namespace Script

/-- The day on which scripts run. -/
def day : Date := ⟨2026, 1, 1⟩

/-- The number from which the keys made in a script are counted. -/
def firstKey : Nat := 0x900040008000000000000000

/-- The occasion of a step, by its number: so many seconds after midnight. -/
def occasion (n : Nat) : Occasion := ⟨Timestamp.afterMidnight day n, Uuid.ofNat (firstKey + n)⟩

/-- What a step with the given number knows. -/
def context (settings : Settings) (n : Nat) : Context := ⟨settings, occasion n⟩

/-- Whether an answer is a success envelope. -/
def isSuccess : Answer → Bool
  | .reply e => e.isSuccess
  | _ => false

/-- The message of an error envelope. -/
def errorMessage? : Answer → Option String
  | .reply e => if e.isSuccess then none else some e.message
  | _ => none

/-- Run steps in one session, the first of them with the given number. -/
def runSteps (settings : Settings) : Nat → Session → List Step → List Logged × Session
  | _, s, [] => ([], s)
  | n, s, step :: rest =>
    let here := step.run (context settings n) s
    let others := runSteps settings (n + 1) here.session rest
    (⟨here.answer, here.log⟩ :: others.1, others.2)

/-- Run steps until one is answered by an error envelope. -/
def runUntilError (settings : Settings) :
    Nat → Session → List Step → List Logged × Option String × Session
  | _, s, [] => ([], none, s)
  | n, s, step :: rest =>
    let here := step.run (context settings n) s
    match errorMessage? here.answer with
    | some message => ([⟨here.answer, here.log⟩], some message, here.session)
    | none =>
      let others := runUntilError settings (n + 1) here.session rest
      (⟨here.answer, here.log⟩ :: others.1, others.2)

/-- What a unit of work left: the answers, how its steps ended, and the session. -/
def runUnit (settings : Settings) (n : Nat) (s : Session) (steps : List Step)
    (raised : Option Failure) (stopOnError : Bool) : List Logged × UnitEnd × Session :=
  let ran :=
    if stopOnError then runUntilError settings n s steps
    else
      let all := runSteps settings n s steps
      (all.1, none, all.2)
  let ending : UnitEnd := match ran.2.1, raised with
    | some message, _ => .stopped (.fault (Fault.make .store (some message)))
    | none, some f => .raised f
    | none, none => .done
  (ran.1, ending, ran.2.2)

/-- What a unit of work came to. -/
def resultOf : UnitEnd → Except Failure Unit
  | .done => .ok ()
  | .stopped f => .error f
  | .raised f => .error f
  | .ignored f => .error f

/-- How a unit of work ended, once it was concluded. -/
def concludedEnd (ending : UnitEnd) (result : Except Failure Unit) : UnitEnd :=
  match ending, result with
  | .done, .error f => .ignored f
  | ending, _ => ending

/-- Run a block whose first step has the given number: its answer, the store, and the number of the
next step. -/
def runBlock (settings : Settings) (n : Nat) (store : Store) : Block → BlockAnswer × Store × Nat
  | .single step =>
    let here := step.run (context settings n) (Session.start store false)
    let after := if isSuccess here.answer then here.session.working else here.session.saved
    (.single ⟨here.answer, here.log⟩, after, n + 1)
  | .session steps =>
    let ran := runSteps settings (n + 1) (Session.start store false) steps
    (.session ran.1, ran.2.saved, n + 1 + ran.1.length)
  | .unit r steps raised stopOnError =>
    let ran := runUnit settings (n + 1) (Session.start store true) steps raised stopOnError
    let concluded := r.conclude (resultOf ran.2.1, ran.2.2)
    (.unit ran.1 (concludedEnd ran.2.1 concluded.result) concluded.log, concluded.store,
      n + 1 + ran.1.length)

/-- Run blocks, the first step of which has the given number. -/
def runFrom (settings : Settings) : Nat → Store → List Block → List BlockAnswer
  | _, _, [] => []
  | n, store, block :: rest =>
    let here := runBlock settings n store block
    here.1 :: runFrom settings here.2.2 here.2.1 rest

/-- The answers of a script. -/
def run (settings : Settings) (store : Store) (blocks : List Block) : List BlockAnswer :=
  runFrom settings 1 store blocks

end Script

end Recordbook

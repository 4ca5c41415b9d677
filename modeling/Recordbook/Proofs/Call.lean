import Recordbook.Script

/-!
# Calls

A call of a repository, as a value of its own, and what it does to the session it is made on.

What a write does to a session that is under way is said once, in `WriteCall.outcome`: it is turned
away before it reaches the store, or the store refuses it, or it is stored. On any other session
every call is answered by an error and leaves everything as it is. Whatever is said of runs of calls
rests on these two.

## Implementation notes

`WriteCall.flush?` says what a write hands to the store, from the store alone and without a look at
what became of the call. A flush that failed is therefore a fact about the data of a call and not
about the flag by which a unit of work notices it.

A currency is a text here. Anything else is refused before a call reaches its session.

## Main definitions

* `Call`, `Call.run` — a call of a repository, and what it leaves
* `WriteCall.flush?` — what a write hands to the store
* `Outcome` — the three ways in which a write can go

## Main results

* `WriteCall.outcome` — how a write goes on a session under way
* `Call.isSuccess_of_not_isActive`, `Call.session_of_not_isActive` — calls on any other session
* `Call.run_step` — a call is a step of scripts
-/

namespace Recordbook

/-- A call that only reads. -/
inductive ReadCall
  /-- Fetch one record. -/
  | getOne (r : Repository) (filters tree : Value)
  /-- Fetch records. -/
  | get (r : Repository) (filters order tree : Value)
  /-- Fetch a page of records. -/
  | getPaginated (r : Repository) (filters order tree page perPage : Value)
  /-- Count records. -/
  | count (r : Repository) (filters : Value)
  /-- Look up users by role and company. -/
  | withRolesAndCompany (r : Repository) (roleId companyId : Value)
  /-- Look up the active members of a company. -/
  | byCompany (r : Repository) (companyId page perPage : Value)
  /-- Look up a company's cards by status. -/
  | byCompanyAndStatus (r : Repository) (companyId status : Value)
  /-- Look up a user's memberships. -/
  | memberships (r : Repository) (userId : Value) (activeOnly : Bool)
  /-- Look up a company's wallet by currency. -/
  | byCompanyAndCurrency (r : Repository) (companyId : Value) (currency : String)

/-- A call that may write. -/
inductive WriteCall
  /-- Create a record. -/
  | create (r : Repository) (data : Value)
  /-- Update a record. -/
  | update (r : Repository) (identifier data : Value)
  /-- Delete a record. -/
  | delete (r : Repository) (identifier : Value)
  /-- Update a record or create it. -/
  | upsert (r : Repository) (values created updated : Value)

/-- A call of a repository. -/
inductive Call
  /-- One that only reads. -/
  | read (k : ReadCall)
  /-- One that may write. -/
  | write (k : WriteCall)

open Repository (Written)

/-! ### Running a call -/

/-- The filter by which a company's wallet in a currency is looked up. -/
def ReadCall.walletFilter (companyId : Value) (currency : String) : Value :=
  .map [(.str "company_id", companyId), (.str "currency", .str (Text.upper currency))]

/-- The answer of a call that only reads, and its log. -/
def ReadCall.run (c : Context) (s : Session) : ReadCall → Reply × Log
  | .getOne r filters tree => r.getOne c s filters tree
  | .get r filters order tree => r.get c s filters order tree
  | .getPaginated r filters order tree page perPage =>
    r.getPaginated c s filters order tree page perPage
  | .count r filters => r.count c s filters
  | .withRolesAndCompany r roleId companyId => r.getWithRolesAndCompany c s roleId companyId
  | .byCompany r companyId page perPage => r.getByCompany c s companyId page perPage
  | .byCompanyAndStatus r companyId status => r.getByCompanyAndStatus c s companyId status
  | .memberships r userId activeOnly => r.getMemberships c s userId activeOnly
  | .byCompanyAndCurrency r companyId currency =>
    r.report ⟨"fetching", false, "get_one"⟩ [walletFilter companyId currency]
      (r.first c s (walletFilter companyId currency) .null)

/-- What a call that may write leaves. -/
def WriteCall.run (c : Context) (s : Session) : WriteCall → Written
  | .create r data => r.create c s data
  | .update r identifier data => r.update c s identifier data
  | .delete r identifier => r.delete s identifier
  | .upsert r values created updated => r.upsert c s values created updated

/-- What a call leaves. -/
def Call.run (c : Context) (s : Session) : Call → Written
  | .read k => ⟨(k.run c s).1, s, (k.run c s).2⟩
  | .write k => k.run c s

/-- Whether a call may write. -/
def Call.isWrite : Call → Bool
  | .read _ => false
  | .write _ => true

/-- The step of a script that makes a call. -/
def Call.step : Call → Step
  | .read k => match k with
    | .getOne r filters tree => .getOne r filters tree
    | .get r filters order tree => .get r filters order tree
    | .getPaginated r filters order tree page perPage =>
      .getPaginated r filters order tree page perPage
    | .count r filters => .count r filters
    | .withRolesAndCompany r roleId companyId => .withRolesAndCompany r roleId companyId
    | .byCompany r companyId page perPage => .byCompany r companyId page perPage
    | .byCompanyAndStatus r companyId status => .byCompanyAndStatus r companyId status
    | .memberships r userId activeOnly => .memberships r userId activeOnly
    | .byCompanyAndCurrency r companyId currency =>
      .byCompanyAndCurrency r companyId (.str currency)
  | .write k => match k with
    | .create r data => .create r data
    | .update r identifier data => .update r identifier data
    | .delete r identifier => .delete r identifier
    | .upsert r values created updated => .upsert r values created updated

/-- A call leaves what the step of a script that makes it leaves. -/
theorem Call.run_step (c : Context) (s : Session) (k : Call) :
    k.step.run c s = Step.called (k.run c s) := by
  cases k with
  | read k => cases k <;> rfl
  | write k => cases k <;> rfl

/-! ### What a write hands to the store -/

namespace Repository

/-- The record that an identifier addresses in a store, if it addresses one. -/
def addressedIn (r : Repository) (st : Store) (identifier : Value) : Option Row :=
  let i := Identifier.resolve identifier
  if i.isValid then (r.addressed (Session.start st true) i).toOption else none

/-- The entries of a mapping of values, and the record of a store that equals them, if there is one.
-/
def search (r : Repository) (s : Session) (values : Value) :
    Except Failure (Entries × Option Row) := do
  let values ← values.entries.mapError Failure.misuse
  let criteria ← r.equalities values
  let found ← r.findUnique s criteria
  return (values, found)

/-- The draft of the record that is to be added where no record equals given values. -/
def draftBeside (r : Repository) (values : Entries) (created : Value) : Except Failure Draft :=
  ((mergeable created).mapError Failure.misuse).bind fun created =>
    Draft.ofEntries r.entity (Entries.putAll created values)

end Repository

/-- What a write hands to a store, if it gets that far: the store that comes of it, or the store's
refusal. A write that is turned away before hands over nothing. -/
def WriteCall.flush? (c : Context) (st : Store) : WriteCall → Option (Except Failure Store)
  | .create r data => do
    let draft ← ((Draft.dataOf data).bind (Draft.ofEntries r.entity)).toOption
    return (draft.insert c.occasion r.entity st).map (·.1)
  | .update r identifier data => do
    let row ← r.addressedIn st identifier
    let entries ← (Draft.dataOf data).toOption
    return (Draft.applyChanges c.occasion r.entity row entries st).map (·.1)
  | .delete r identifier => do
    let row ← r.addressedIn st identifier
    return (st.remove r.entity row).mapError Draft.refused
  | .upsert r values created updated => do
    match ← (r.search (Session.start st true) values).toOption with
    | (values, none) =>
      let draft ← (r.draftBeside values created).toOption
      return (draft.insert c.occasion r.entity st).map (·.1)
    | (_, some row) =>
      let entries ← updated.entries.toOption
      return (Draft.applyChanges c.occasion r.entity row entries st).map (·.1)

/-- How a write went on a session, by what it handed to the store: whether its answer is a success,
and the session afterwards. -/
inductive Outcome (s : Session) : Option (Except Failure Store) → Bool → Session → Prop
  /-- It was turned away, and everything is as it was. -/
  | turnedAway : Outcome s none false s
  /-- The store refused it. -/
  | refused (f : Failure) : Outcome s (some (.error f)) false (s.failed f)
  /-- It is stored. -/
  | stored (next : Store) : Outcome s (some (.ok next)) true (s.wrote next)

/-! ### A write on a session that is under way -/

theorem Session.status_of_isActive {s : Session} (h : s.isActive = true) : s.status = .ready := by
  simpa [Session.isActive] using h

theorem Session.queryGuard_of_isActive {s : Session} (h : s.isActive = true) :
    s.queryGuard = .ok () := by
  rw [Session.queryGuard, Session.status_of_isActive h]

theorem Session.writeGuard_of_isActive {s : Session} (h : s.isActive = true) :
    s.writeGuard = .ok () := by
  rw [Session.writeGuard, Session.status_of_isActive h]

namespace Repository

/-- Only the store that a session works on counts for a look-up. -/
theorem findUnique_of_isActive (r : Repository) {s : Session} (h : s.isActive = true)
    (criteria : List (Criterion Operand)) :
    r.findUnique s criteria = r.findUnique (Session.start s.working true) criteria := by
  rw [findUnique, findUnique, Session.queryGuard_of_isActive h, Session.queryGuard_start]
  rfl

theorem addressed_of_isActive (r : Repository) {s : Session} (h : s.isActive = true)
    (i : Identifier) : r.addressed s i = r.addressed (Session.start s.working true) i := by
  simp only [addressed, findUnique_of_isActive r h]

theorem search_of_isActive (r : Repository) {s : Session} (h : s.isActive = true)
    (values : Value) : r.search s values = r.search (Session.start s.working true) values := by
  simp only [search, findUnique_of_isActive r h]

/-- Whether an inner call came to a success. -/
def succeeded (result : Except Failure Reply) : Bool :=
  match result with
  | .ok reply => reply.isSuccess
  | .error _ => false

theorem isSuccess_report (r : Repository) (a : Action) (args : List Value)
    (result : Except Failure Reply) :
    (r.report a args result).1.isSuccess = succeeded result := by
  cases result <;> rfl

theorem isSuccess_reportWrite (r : Repository) (a : Action) (args : List Value)
    (result : Except Failure Reply × Session) :
    (r.reportWrite a args result).reply.isSuccess = succeeded result.1 :=
  isSuccess_report r a args result.1

theorem succeeded_map_written (r : Repository) (code : Int) (result : Except Failure Row) :
    succeeded (result.map (r.written code)) = result.toOption.isSome := by
  cases result <;> rfl

end Repository

open Repository

namespace Outcome

variable {s after : Session} {flush : Option (Except Failure Store)} {answered : Bool}

theorem of_none (h : Outcome s none answered after) : answered = false ∧ after = s := by
  cases h
  exact ⟨rfl, rfl⟩

theorem of_error {f : Failure} (h : Outcome s (some (.error f)) answered after) :
    answered = false ∧ after = s.failed f := by
  cases h
  exact ⟨rfl, rfl⟩

theorem of_ok {next : Store} (h : Outcome s (some (.ok next)) answered after) :
    answered = true ∧ after = s.wrote next := by
  cases h
  exact ⟨rfl, rfl⟩

theorem saved (h : Outcome s flush answered after) : after.saved = s.saved := by
  cases h <;> rfl

end Outcome

theorem Outcome.attempt {α : Type} (s : Session) (written : Except Failure (Store × α)) :
    Outcome s (some (written.map (·.1))) (s.attempt written).1.toOption.isSome
      (s.attempt written).2 := by
  cases written with
  | error f => exact .refused f
  | ok p => exact .stored p.1

/-- A write that leaves a success exactly when it was stored. -/
theorem Outcome.report {s : Session} {flush : Option (Except Failure Store)} {r : Repository}
    {a : Action} {args : List Value} {result : Except Failure Reply × Session}
    (h : Outcome s flush (succeeded result.1) result.2) :
    Outcome s flush (r.reportWrite a args result).reply.isSuccess
      (r.reportWrite a args result).session := by
  rw [isSuccess_reportWrite]
  exact h

theorem insertDraft_outcome (r : Repository) (c : Context) {s : Session} (h : s.isActive = true)
    (d : Draft) (code : Int) :
    Outcome s (some ((d.insert c.occasion r.entity s.working).map (·.1)))
      (succeeded ((r.insertDraft c s d).1.map (r.written code))) (r.insertDraft c s d).2 := by
  rw [insertDraft, Session.writeGuard_of_isActive h, succeeded_map_written]
  exact Outcome.attempt s _

theorem changeRow_outcome (r : Repository) (c : Context) (s : Session) (row : Row) (data : Entries)
    (code : Int) :
    Outcome s (some ((Draft.applyChanges c.occasion r.entity row data s.working).map (·.1)))
      (succeeded ((r.changeRow c s row data).1.map (r.written code)))
      (r.changeRow c s row data).2 := by
  rw [changeRow, succeeded_map_written]
  exact Outcome.attempt s _

theorem remove_outcome (r : Repository) (s : Session) (row : Row) (code : Int) :
    let removed := (s.working.remove r.entity row).mapError Draft.refused
    Outcome s (some removed)
      (succeeded ((s.attempt (removed.map fun next => (next, row))).1.map (r.written code)))
      (s.attempt (removed.map fun next => (next, row))).2 := by
  intro removed
  cases removed with
  | error f => exact .refused f
  | ok next => exact .stored next

theorem add_outcome (r : Repository) (c : Context) {s : Session} (h : s.isActive = true)
    (data : Value) :
    Outcome s ((WriteCall.create r data).flush? c s.working) (succeeded (r.add c s data).1)
      (r.add c s data).2 := by
  simp only [add, WriteCall.flush?]
  cases (Draft.dataOf data).bind (Draft.ofEntries r.entity) with
  | error f => exact .turnedAway
  | ok draft => exact insertDraft_outcome r c h draft 201

theorem change_outcome (r : Repository) (c : Context) {s : Session} (h : s.isActive = true)
    {identifier : Value} (hv : (Identifier.resolve identifier).isValid = true) (data : Value) :
    Outcome s ((WriteCall.update r identifier data).flush? c s.working)
      (succeeded (r.change c s (Identifier.resolve identifier) data).1)
      (r.change c s (Identifier.resolve identifier) data).2 := by
  simp only [change, WriteCall.flush?, addressedIn, if_pos hv, addressed_of_isActive r h]
  cases r.addressed (Session.start s.working true) (Identifier.resolve identifier) with
  | error f => exact .turnedAway
  | ok row =>
    cases hd : Draft.dataOf data with
    | error f => exact .turnedAway
    | ok entries => exact changeRow_outcome r c s row entries 204

theorem removeAddressed_outcome (r : Repository) (c : Context) {s : Session} (h : s.isActive = true)
    {identifier : Value} (hv : (Identifier.resolve identifier).isValid = true) :
    Outcome s ((WriteCall.delete r identifier).flush? c s.working)
      (succeeded (r.removeAddressed s (Identifier.resolve identifier)).1)
      (r.removeAddressed s (Identifier.resolve identifier)).2 := by
  simp only [removeAddressed, WriteCall.flush?, addressedIn, if_pos hv, addressed_of_isActive r h]
  cases r.addressed (Session.start s.working true) (Identifier.resolve identifier) with
  | error f => exact .turnedAway
  | ok row => exact remove_outcome r s row 200

theorem addOrChange_eq (r : Repository) (c : Context) (s : Session)
    (values created updated : Value) :
    r.addOrChange c s values created updated = match r.search s values with
      | .error f => (.error f, s)
      | .ok (values, none) => match r.draftBeside values created with
        | .error f => (.error f, s)
        | .ok draft =>
          ((r.insertDraft c s draft).1.map (r.written 201), (r.insertDraft c s draft).2)
      | .ok (_, some row) => match updated.entries with
        | .error m => (.error (.misuse m), s)
        | .ok entries =>
          ((r.changeRow c s row entries).1.map (r.written 200),
            (r.changeRow c s row entries).2) := rfl

theorem addOrChange_outcome (r : Repository) (c : Context) {s : Session} (h : s.isActive = true)
    (values created updated : Value) :
    Outcome s ((WriteCall.upsert r values created updated).flush? c s.working)
      (succeeded (r.addOrChange c s values created updated).1)
      (r.addOrChange c s values created updated).2 := by
  rw [addOrChange_eq, search_of_isActive r h]
  simp only [WriteCall.flush?]
  cases r.search (Session.start s.working true) values with
  | error f => exact .turnedAway
  | ok found =>
    obtain ⟨entries, found⟩ := found
    cases found with
    | none =>
      simp only [Except.toOption, Option.bind_eq_bind, Option.bind_some]
      cases r.draftBeside entries created with
      | error f => exact .turnedAway
      | ok draft => exact insertDraft_outcome r c h draft 201
    | some row =>
      cases updated.entries with
      | error m => exact .turnedAway
      | ok data => exact changeRow_outcome r c s row data 200

/-- **How a write goes.** On a session under way a write is turned away, refused by the store, or
stored, and its answer is a success in the last case only. -/
theorem WriteCall.outcome (c : Context) {s : Session} (h : s.isActive = true) (k : WriteCall) :
    Outcome s (k.flush? c s.working) (k.run c s).reply.isSuccess (k.run c s).session := by
  cases k with
  | create r data => exact (add_outcome r c h data).report
  | update r identifier data =>
    simp only [WriteCall.run, Repository.update]
    by_cases hv : (Identifier.resolve identifier).isValid = true
    · rw [if_pos hv]
      exact (change_outcome r c h hv data).report
    · simp only [if_neg hv, WriteCall.flush?, addressedIn]
      exact .turnedAway
  | delete r identifier =>
    simp only [WriteCall.run, Repository.delete]
    by_cases hv : (Identifier.resolve identifier).isValid = true
    · rw [if_pos hv]
      exact (removeAddressed_outcome r c h hv).report
    · simp only [if_neg hv, WriteCall.flush?, addressedIn]
      exact .turnedAway
  | upsert r values created updated =>
    exact (addOrChange_outcome r c h values created updated).report

/-! ### Calls on a session that is not under way -/

theorem Session.queryGuard_of_not_isActive {s : Session} (h : s.isActive = false) :
    ∃ f, s.queryGuard = .error f := by
  unfold Session.queryGuard
  cases hs : s.status with
  | ready => simp [Session.isActive, hs] at h
  | broken cause => by_cases ho : s.oneUnit = true <;> simp [ho]
  | ended cause => exact ⟨_, rfl⟩

theorem Session.writeGuard_of_not_isActive {s : Session} (h : s.isActive = false) :
    ∃ f, s.writeGuard = .error f := by
  unfold Session.writeGuard
  cases hs : s.status with
  | ready => simp [Session.isActive, hs] at h
  | broken cause => exact ⟨_, rfl⟩
  | ended cause => exact ⟨_, rfl⟩

namespace Repository

variable {s : Session} (r : Repository) (c : Context)

/-- Steps that come to an error as soon as what is asked for is known. -/
private theorem exists_error_bind {α β : Type} (result : Except Failure α)
    {next : α → Except Failure β} (h : ∀ a, ∃ g, next a = .error g) :
    ∃ g, (result >>= next) = .error g := by
  cases result with
  | error g => exact ⟨g, rfl⟩
  | ok a => exact h a

theorem first_of_not_isActive (h : s.isActive = false) (filters tree : Value) :
    ∃ f, r.first c s filters tree = .error f := by
  obtain ⟨f, hf⟩ := Session.queryGuard_of_not_isActive h
  refine exists_error_bind _ fun q => exists_error_bind _ fun st => ⟨f, ?_⟩
  rw [hf]
  rfl

theorem select_of_not_isActive (h : s.isActive = false) (q : CompiledQuery) :
    ∃ f, r.select s q = .error f := by
  obtain ⟨f, hf⟩ := Session.queryGuard_of_not_isActive h
  refine exists_error_bind _ fun st => ⟨f, ?_⟩
  rw [hf]
  rfl

theorem all_of_not_isActive (h : s.isActive = false) (filters order tree : Value) :
    ∃ f, r.all c s filters order tree = .error f := by
  refine exists_error_bind _ fun q => ?_
  obtain ⟨f, hf⟩ := r.select_of_not_isActive h q
  exact ⟨f, by rw [hf]; rfl⟩

theorem paged_of_not_isActive (h : s.isActive = false) (q : CompiledQuery) (page perPage : Value) :
    ∃ f, r.paged c s q page perPage = .error f := by
  obtain ⟨f, hf⟩ := Session.queryGuard_of_not_isActive h
  refine exists_error_bind _ fun st => ⟨f, ?_⟩
  rw [hf]
  rfl

theorem counted_of_not_isActive (h : s.isActive = false) (filters : Value) :
    ∃ f, r.counted c s filters = .error f := by
  obtain ⟨f, hf⟩ := Session.queryGuard_of_not_isActive h
  refine exists_error_bind _ fun q => exists_error_bind _ fun criteria => ⟨f, ?_⟩
  rw [hf]
  rfl

theorem findUnique_of_not_isActive (h : s.isActive = false) (criteria : List (Criterion Operand)) :
    ∃ f, r.findUnique s criteria = .error f := by
  obtain ⟨f, hf⟩ := Session.queryGuard_of_not_isActive h
  exact ⟨f, by rw [findUnique, hf]; rfl⟩

theorem addressed_of_not_isActive (h : s.isActive = false) (i : Identifier) :
    ∃ f, r.addressed s i = .error f := by
  refine exists_error_bind _ fun column => ?_
  obtain ⟨f, hf⟩ := r.findUnique_of_not_isActive h [Criteria.equality column i.value]
  exact ⟨f, by rw [hf]; rfl⟩

theorem search_of_not_isActive (h : s.isActive = false) (values : Value) :
    ∃ f, r.search s values = .error f := by
  refine exists_error_bind _ fun entries => exists_error_bind _ fun criteria => ?_
  obtain ⟨f, hf⟩ := r.findUnique_of_not_isActive h criteria
  exact ⟨f, by rw [hf]; rfl⟩

end Repository

/-- On a session that is not under way every call that reads is answered by an error. -/
theorem ReadCall.isSuccess_of_not_isActive (c : Context) {s : Session} (h : s.isActive = false)
    (k : ReadCall) : (k.run c s).1.isSuccess = false := by
  have failed : ∀ (r : Repository) (a : Action) (args : List Value) {result : Except Failure Reply},
      (∃ f, result = .error f) → (r.report a args result).1.isSuccess = false := by
    rintro r a args _ ⟨f, rfl⟩
    rfl
  cases k with
  | getOne r filters tree => exact failed r _ _ (r.first_of_not_isActive c h filters tree)
  | get r filters order tree => exact failed r _ _ (r.all_of_not_isActive c h filters order tree)
  | getPaginated r filters order tree page perPage =>
    exact failed r _ _ (exists_error_bind _ fun q => r.paged_of_not_isActive c h q page perPage)
  | count r filters => exact failed r _ _ (r.counted_of_not_isActive c h filters)
  | withRolesAndCompany r roleId companyId => exact failed r _ _ (r.all_of_not_isActive c h _ _ _)
  | byCompany r companyId page perPage =>
    exact failed r _ _ (exists_error_bind _ fun q => r.paged_of_not_isActive c h q page perPage)
  | byCompanyAndStatus r companyId status => exact failed r _ _ (r.all_of_not_isActive c h _ _ _)
  | memberships r userId activeOnly => exact failed r _ _ (r.all_of_not_isActive c h _ _ _)
  | byCompanyAndCurrency r companyId currency =>
    exact failed r _ _ (r.first_of_not_isActive c h _ _)

/-- On a session that is not under way every call that may write is answered by an error, and the
session stays as it is. -/
theorem WriteCall.run_of_not_isActive (c : Context) {s : Session} (h : s.isActive = false)
    (k : WriteCall) : (k.run c s).reply.isSuccess = false ∧ (k.run c s).session = s := by
  cases k with
  | create r data =>
    obtain ⟨f, hf⟩ := Session.writeGuard_of_not_isActive h
    simp only [WriteCall.run, Repository.create, isSuccess_reportWrite, add, insertDraft, hf]
    cases (Draft.dataOf data).bind (Draft.ofEntries r.entity) <;> exact ⟨rfl, rfl⟩
  | update r identifier data =>
    simp only [WriteCall.run, Repository.update]
    obtain ⟨f, hf⟩ := r.addressed_of_not_isActive h (Identifier.resolve identifier)
    split
    · simp only [isSuccess_reportWrite, change, hf]
      exact ⟨rfl, rfl⟩
    · exact ⟨rfl, rfl⟩
  | delete r identifier =>
    simp only [WriteCall.run, Repository.delete]
    obtain ⟨f, hf⟩ := r.addressed_of_not_isActive h (Identifier.resolve identifier)
    split
    · simp only [isSuccess_reportWrite, removeAddressed, hf]
      exact ⟨rfl, rfl⟩
    · exact ⟨rfl, rfl⟩
  | upsert r values created updated =>
    obtain ⟨f, hf⟩ := r.search_of_not_isActive h values
    simp only [WriteCall.run, Repository.upsert, isSuccess_reportWrite, addOrChange_eq, hf]
    exact ⟨rfl, rfl⟩

theorem Call.isSuccess_of_not_isActive (c : Context) {s : Session} (h : s.isActive = false)
    (k : Call) : (k.run c s).reply.isSuccess = false := by
  cases k with
  | read k => exact k.isSuccess_of_not_isActive c h
  | write k => exact (k.run_of_not_isActive c h).1

theorem Call.session_of_not_isActive (c : Context) {s : Session} (h : s.isActive = false)
    (k : Call) : (k.run c s).session = s := by
  cases k with
  | read k => rfl
  | write k => exact (k.run_of_not_isActive c h).2

end Recordbook

import Recordbook.Repository.Basic

/-!
# Reading

The calls that look for records and change nothing: one record, all of them, a page, their number,
and the look-ups that single kinds of records have of their own.

Each call has two layers. The inner one may fail; the outer one, named for the call, always comes to
an envelope, with a log.
-/

namespace Recordbook

namespace Repository

/-! ### Statements -/

/-- The records that a query selects. -/
def select (r : Repository) (s : Session) (q : CompiledQuery) :
    Except Failure (Select × List Row) := do
  let st ← Select.build r.entity q
  s.queryGuard
  let found ← st.run s.working
  return (st, found)

/-- The first record that a filter matches. -/
def first (r : Repository) (c : Context) (s : Session) (filters tree : Value) :
    Except Failure Reply := do
  let q ← r.compile c.settings filters .null tree
  let st ← Select.build r.entity q
  s.queryGuard
  let found ← st.runFirst s.working
  match st.present s.working found.toList with
  | [] => return Envelope.failure .nothing .notFound r.notFoundMessage
  | shown :: _ => return Envelope.success (.record shown) 200

/-- All records that a filter matches. -/
def all (r : Repository) (c : Context) (s : Session) (filters order tree : Value) :
    Except Failure Reply := do
  let q ← r.compile c.settings filters order tree
  let (st, found) ← r.select s q
  return Envelope.success (.records (st.present s.working found)) 200

/-- The length of pages that is asked for, or the one in the settings where it is falsy. -/
def pageLength (c : Context) (perPage : Value) : Value :=
  if perPage.isTruthy then perPage else .int c.settings.defaultPageSize

/-- A page of the records that a query selects. They are counted first. -/
def paged (r : Repository) (c : Context) (s : Session) (q : CompiledQuery) (page perPage : Value) :
    Except Failure Reply := do
  let perPage := pageLength c perPage
  let st ← Select.build r.entity q
  s.queryGuard
  let total ← Select.count s.working r.entity st.criteria
  let window ← (Page.window page perPage).mapError Failure.misuse
  let found ← st.runWindow s.working window
  let shown ← Page.build (st.present s.working found) (.int total) page perPage
  return Envelope.success (.page shown) 200

/-- The number of records that a filter matches. -/
def counted (r : Repository) (c : Context) (s : Session) (filters : Value) :
    Except Failure Reply := do
  let q ← r.compile c.settings filters .null .null
  let criteria ← Criteria.resolve r.entity q.filter
  s.queryGuard
  let n ← Select.count s.working r.entity criteria
  return Envelope.success (.number n) 200

/-! ### Calls -/

/-- Fetch the first record that a filter matches; none is an error. -/
def getOne (r : Repository) (c : Context) (s : Session) (filters tree : Value) :
    Reply × Log :=
  r.report ⟨"fetching", false, "get_one"⟩ [filters, tree] (r.first c s filters tree)

/-- Fetch all records that a filter matches; none is no error. -/
def get (r : Repository) (c : Context) (s : Session) (filters order tree : Value) :
    Reply × Log :=
  r.report ⟨"fetching", true, "get"⟩ [filters, order, tree] (r.all c s filters order tree)

/-- Fetch a page of the records that a filter matches. -/
def getPaginated (r : Repository) (c : Context) (s : Session)
    (filters order tree page perPage : Value) : Reply × Log :=
  r.report ⟨"fetching", true, "get_paginated"⟩ [filters, order, tree, page, perPage]
    (do
      let q ← r.compile c.settings filters order tree
      r.paged c s q page perPage)

/-- Count the records that a filter matches. -/
def count (r : Repository) (c : Context) (s : Session) (filters : Value) :
    Reply × Log :=
  r.report ⟨"counting", true, "count"⟩ [filters] (r.counted c s filters)

/-! ### Look-ups -/

/-- Fetch all records that a filter matches, where only the filter counts as an argument. -/
def lookUp (r : Repository) (c : Context) (s : Session) (filters : Entries) (order tree : Value) :
    Reply × Log :=
  r.report ⟨"fetching", true, "get"⟩ [.map filters] (r.all c s (.map filters) order tree)

/-- The order in which the newest record comes first. -/
def newestFirst : Value := .map [(.str "created_at", .str "desc")]

/-- The order in which the oldest record comes first. -/
def oldestFirst : Value := .map [(.str "created_at", .str "asc")]

/-- The include of users: their memberships with role and company. -/
def membershipTree : Value :=
  .map [(.str "user_company_roles", .map [(.str "include",
    .map [(.str "role", .bool true), (.str "company", .bool true)])])]

/-- Users who hold a role, belong to a company, or both in one membership. -/
def getWithRolesAndCompany (r : Repository) (c : Context) (s : Session) (roleId companyId : Value) :
    Reply × Log :=
  r.lookUp c s [(.str "role_id", roleId), (.str "company_id", companyId)] .null membershipTree

/-- A condition mapping in which the clause on a relation also asks for an active record. -/
def activeOnly (relation : String) (filter : Entries) : Except Failure Entries :=
  match filter.get? relation with
  | some (.map clause) =>
    let asked := match Entries.getD clause "some" with
      | .map conditions => conditions
      | _ => []
    .ok (filter.putText relation
      (.map (Entries.putText "some" (.map (Entries.putText "is_active" (.bool true) asked)) clause)))
  | _ => .error (.misuse (.absentKey relation))

/-- The query for the active members of a company, the newest user first. -/
def activeMembers (r : Repository) (c : Context) (companyId : Value) :
    Except Failure CompiledQuery := do
  let q ← r.compile c.settings (.map [(.str "company_id", companyId)]) newestFirst .null
  let filter ← activeOnly r.membership.relation q.filter
  return { q with filter := filter }

/-- A page of the users with an active membership in a company, the newest first. -/
def getByCompany (r : Repository) (c : Context) (s : Session) (companyId page perPage : Value) :
    Reply × Log :=
  r.report ⟨"fetching", true, "get_by_company"⟩ [companyId, page, perPage]
    (do
      let q ← r.activeMembers c companyId
      r.paged c s q page perPage)

/-- The include of cards: name and address of the user. -/
def holderTree : Value :=
  .map [(.str "user", .list [.str "email", .str "first_name", .str "last_name"])]

/-- The filter for one status or several. -/
def statusFilter : Value → Value
  | .list statuses => .map [(.str "in", .list statuses)]
  | v => v

/-- A company's cards in one or several statuses, the newest first, with their holders. -/
def getByCompanyAndStatus (r : Repository) (c : Context) (s : Session) (companyId status : Value) :
    Reply × Log :=
  r.lookUp c s [(.str "company_id", companyId), (.str "status", statusFilter status)] newestFirst
    holderTree

/-- The include of memberships: the role, and the name of the company. -/
def roleAndCompanyTree : Value :=
  .map [(.str "role", .bool true), (.str "company", .list [.str "name"])]

/-- A user's memberships, perhaps only the active ones, the oldest first. -/
def getMemberships (r : Repository) (c : Context) (s : Session) (userId : Value)
    (activeOnly : Bool) : Reply × Log :=
  r.lookUp c s
    ((.str "user_id", userId) :: if activeOnly then [(.str "is_active", .bool true)] else [])
    oldestFirst roleAndCompanyTree

/-- A currency in upper case. Only texts and raw data have one. -/
def upperCase : Value → Except Failure Value
  | .str s => .ok (.str (Text.upper s))
  | .bytes bs => .ok (.bytes (bs.map fun b => if 97 ≤ b ∧ b ≤ 122 then b - 32 else b))
  | v => .error (.misuse (v.callProblem "upper"))

/-- A company's wallet in a currency, whatever the case it is written in. A currency without a case
is refused before the call, and this failure alone is not answered by an envelope. -/
def getByCompanyAndCurrency (r : Repository) (c : Context) (s : Session)
    (companyId currency : Value) : Except Failure (Reply × Log) := do
  let currency ← upperCase currency
  let filters : Value := .map [(.str "company_id", companyId), (.str "currency", currency)]
  return r.report ⟨"fetching", false, "get_one"⟩ [filters] (r.first c s filters .null)

end Repository

end Recordbook

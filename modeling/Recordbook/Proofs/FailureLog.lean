import Recordbook.Proofs.Masking
import Recordbook.Proofs.QueryFailure
import Recordbook.Proofs.Replies

/-!
# The log of a failure

A call that fails leaves one record in the log, with the message of its reply and its arguments as
far as they may be shown. Only a look-up that finds nothing leaves none. So the log is a function of
the reply and of what is shown of the arguments, and two calls that fail alike, with arguments that
differ only under sensitive names, leave the same log whenever the same is shown of both. Where what
is shown cannot be written, neither of them has a log.

That is so of mappings, at any depth. It is not so of payloads, which are shown as they are, and not
of an identifier that stands under a sensitive name: it is shown as a pair of a name and a value,
and a value in a pair is under no name.

## Main definitions

* `Notice` — what the log says of a call that failed, and `Call.notice` for each call
* `Call.scrub`, `Call.Alike` — calls of which the same is left once everything sensitive in their
  arguments is crossed out
* `Call.exposes` — whether something sensitive may be shown

## Main results

* `Call.log_eq` — the log of a call that failed, from its reply and what is shown of it
* `failure_logs_agree` — alike calls that fail with the same reply leave the same log
-/

namespace Recordbook

open Repository (Written ComesTo)

theorem FaultKind.code_eq_notFound {kind : FaultKind} :
    kind.code = FaultKind.notFound.code ↔ kind = .notFound := by
  cases kind <;> simp [code]

/-! ### What is logged -/

/-- What the log says of a call that failed, apart from what came of it. -/
structure Notice where
  /-- The repository. -/
  repository : Repository
  /-- The name of the call, none if its identifier was turned away. -/
  method : Option String
  /-- What is shown of the arguments. -/
  shown : Value

namespace Notice

/-- The text of what is shown, if it can be written. -/
def text (n : Notice) : Option String := Redaction.safeText n.shown

/-- The record of a call that failed with a message. -/
def record (n : Notice) (message : String) : Except Misuse LogRecord :=
  (Misuse.written n.text).map fun shown => match n.method with
    | some method =>
      ⟨.warning, message ++ " [" ++ n.repository.label ++ "." ++ method ++ " args=" ++ shown ++ "]"⟩
    | none => ⟨.info, "Rejected " ++ n.repository.name ++ " identifier " ++ shown⟩

/-- The name of the look-up of one record, which logs nothing if there is none. -/
def lookUpMethod : String := "get_one"

/-- A call that failed because its look-up found nothing, of which nothing is logged. -/
def IsSilent (n : Notice) (reply : Reply) : Prop :=
  n.method = some lookUpMethod ∧ reply.code = FaultKind.notFound.code

instance (n : Notice) (reply : Reply) : Decidable (n.IsSilent reply) :=
  inferInstanceAs (Decidable (_ ∧ _))

/-- The log of a call that failed with a reply. -/
def records (n : Notice) (reply : Reply) : Log :=
  if n.IsSilent reply then .ok [] else (n.record reply.message).map fun record => [record]

/-- A notice in which everything sensitive is crossed out. -/
def scrub (n : Notice) : Notice := { n with shown := Redaction.scrub n.shown }

theorem record_inj {n m : Notice} (repository : n.repository = m.repository)
    (method : n.method = m.method) (message : String) :
    n.record message = m.record message ↔ n.text = m.text := by
  rw [record, record, repository, method]
  cases n.text <;> cases m.text <;> cases m.method <;>
    simp [Misuse.written, Except.map, String.append_assoc]

/-- Two logs of calls to the same end are the same exactly if they are empty or show the same. -/
theorem records_inj {n m : Notice} (repository : n.repository = m.repository)
    (method : n.method = m.method) (reply : Reply) :
    n.records reply = m.records reply ↔ n.records reply = .ok [] ∨ n.text = m.text := by
  have silence : n.IsSilent reply ↔ m.IsSilent reply := by
    rw [IsSilent, IsSilent, method]
  rw [records, records, ← record_inj repository method reply.message]
  by_cases silent : m.IsSilent reply
  · simp [silence, silent]
  · rw [if_neg (mt silence.mp silent), if_neg silent]
    cases n.record reply.message <;> cases m.record reply.message <;> simp [Except.map]

end Notice

/-- The notice of a call that addresses a record by an identifier: the identifier as a pair, or by
itself where it is turned away. -/
def Repository.addressNotice (r : Repository) (method : String) (identifier : Value)
    (others : List Value) : Notice :=
  let i := Identifier.resolve identifier
  if i.isValid then ⟨r, some method, .tuple (.tuple [i.key, i.value] :: others)⟩
  else ⟨r, none, identifier⟩

/-- The notice of a call that reads. -/
def ReadCall.notice : ReadCall → Notice
  | .getOne r filters tree => ⟨r, some "get_one", .tuple [filters, tree]⟩
  | .get r filters order tree => ⟨r, some "get", .tuple [filters, order, tree]⟩
  | .getPaginated r filters order tree page perPage =>
    ⟨r, some "get_paginated", .tuple [filters, order, tree, page, perPage]⟩
  | .count r filters => ⟨r, some "count", .tuple [filters]⟩
  | .withRolesAndCompany r roleId companyId =>
    ⟨r, some "get", .tuple [.map [(.str "role_id", roleId), (.str "company_id", companyId)]]⟩
  | .byCompany r companyId page perPage =>
    ⟨r, some "get_by_company", .tuple [companyId, page, perPage]⟩
  | .byCompanyAndStatus r companyId status =>
    ⟨r, some "get", .tuple [.map [(.str "company_id", companyId),
      (.str "status", Repository.statusFilter status)]]⟩
  | .memberships r userId activeOnly =>
    ⟨r, some "get", .tuple [.map ((.str "user_id", userId) ::
      if activeOnly then [(.str "is_active", .bool true)] else [])]⟩
  | .byCompanyAndCurrency r companyId currency =>
    ⟨r, some "get_one", .tuple [walletFilter companyId currency]⟩

/-- The notice of a call that may write. -/
def WriteCall.notice : WriteCall → Notice
  | .create r data => ⟨r, some "create", .tuple [data]⟩
  | .update r identifier data => r.addressNotice "_update" identifier [data]
  | .delete r identifier => r.addressNotice "_delete" identifier []
  | .upsert r values created updated => ⟨r, some "upsert", .tuple [values, created, updated]⟩

/-- The notice of a call. -/
def Call.notice : Call → Notice
  | .read k => k.notice
  | .write k => k.notice

namespace Repository

variable (r : Repository) {result : Except Failure Reply}

/-- The message of a failure is never that of an identifier which was turned away. -/
theorem failureMessage_ne (a : Action) (f : Failure) :
    r.failureMessage a f ≠ FaultKind.invalidIdentifier.defaultMessage := by
  intro same
  have first := congrArg (fun text : String => text.toList.head?) same
  simp [failureMessage, FaultKind.defaultMessage] at first

/-- A call that only ever comes to a success is logged whenever it fails, and with a message of its
own. -/
theorem report_log (a : Action) (args : List Value) (h : ComesTo Envelope.Succeeded result)
    (other : a.method ≠ Notice.lookUpMethod)
    (failed : (r.report a args result).1.isSuccess = false) :
    (r.report a args result).2 =
        Notice.records ⟨r, some a.method, .tuple args⟩ (r.report a args result).1 ∧
      (r.report a args result).1.message ≠ FaultKind.invalidIdentifier.defaultMessage := by
  cases result with
  | ok reply => exact absurd (h reply rfl).isSuccess (by simpa [report_ok] using failed)
  | error f =>
    refine ⟨?_, r.failureMessage_ne a f⟩
    rw [Notice.records, if_neg (by simp [Notice.IsSilent, other])]
    rfl

/-- The look-up of one record is logged unless it fails because there is none. -/
theorem report_log_first (c : Context) (s : Session) (filters tree : Value) (a : Action)
    (args : List Value) (lookUp : a.method = Notice.lookUpMethod)
    (failed : (r.report a args (r.first c s filters tree)).1.isSuccess = false) :
    (r.report a args (r.first c s filters tree)).2 =
      Notice.records ⟨r, some a.method, .tuple args⟩
        (r.report a args (r.first c s filters tree)).1 := by
  cases found : r.first c s filters tree with
  | ok reply =>
    rcases r.comesTo_first c s filters tree reply found with succeeded | rfl
    · exact absurd succeeded.isSuccess (by simpa [found, report_ok] using failed)
    · exact (if_pos ⟨congrArg some lookUp, rfl⟩).symm
  | error f =>
    have other : f.toFault.kind.code ≠ FaultKind.notFound.code := fun same =>
      (r.neverMissing_first c s filters tree).kind_ne f found (FaultKind.code_eq_notFound.mp same)
    exact (if_neg fun missing => other missing.2).symm

/-- A call that addresses a record is logged whenever it fails, and its message tells whether the
identifier was turned away. -/
theorem addressed_log (s : Session) (a : Action) (identifier : Value) (others : List Value)
    {written : Except Failure Reply × Session} (h : ComesTo Envelope.Succeeded written.1)
    (other : a.method ≠ Notice.lookUpMethod) {w : Written}
    (hw : w = if (Identifier.resolve identifier).isValid then
        r.reportWrite a (.tuple [(Identifier.resolve identifier).key,
          (Identifier.resolve identifier).value] :: others) written
      else r.rejected s identifier)
    (failed : w.reply.isSuccess = false) :
    w.log = (r.addressNotice a.method identifier others).records w.reply ∧
      ((r.addressNotice a.method identifier others).method = none ↔
        w.reply.message = FaultKind.invalidIdentifier.defaultMessage) := by
  subst hw
  rw [addressNotice]
  cases valid : (Identifier.resolve identifier).isValid with
  | true =>
    rw [if_pos valid] at failed
    obtain ⟨log, message⟩ := r.report_log a _ h other failed
    exact ⟨log, iff_of_false nofun message⟩
  | false => exact ⟨rfl, iff_of_true rfl rfl⟩

end Repository

/-- The log of a call that reads and failed is a function of its notice and its reply. -/
theorem ReadCall.log_eq (c : Context) (s : Session) (k : ReadCall)
    (failed : (k.run c s).1.isSuccess = false) :
    (k.run c s).2 = k.notice.records (k.run c s).1 := by
  cases k with
  | getOne r filters tree => exact r.report_log_first c s _ _ _ _ rfl failed
  | get r filters order tree =>
    exact (r.report_log _ _ (r.comesTo_all c s _ _ _) (by decide) failed).1
  | getPaginated r filters order tree page perPage =>
    exact (r.report_log _ _ (.bind _ fun q => r.comesTo_paged c s q _ _) (by decide) failed).1
  | count r filters => exact (r.report_log _ _ (r.comesTo_counted c s _) (by decide) failed).1
  | withRolesAndCompany r roleId companyId =>
    exact (r.report_log _ _ (r.comesTo_all c s _ _ _) (by decide) failed).1
  | byCompany r companyId page perPage =>
    exact (r.report_log _ _ (.bind _ fun q => r.comesTo_paged c s q _ _) (by decide) failed).1
  | byCompanyAndStatus r companyId status =>
    exact (r.report_log _ _ (r.comesTo_all c s _ _ _) (by decide) failed).1
  | memberships r userId activeOnly =>
    exact (r.report_log _ _ (r.comesTo_all c s _ _ _) (by decide) failed).1
  | byCompanyAndCurrency r companyId currency =>
    exact r.report_log_first c s _ _ _ _ rfl failed

/-- The log of a call that may write and failed is a function of its notice and its reply, and the
reply tells whether it was turned away. -/
theorem WriteCall.log_eq (c : Context) (s : Session) (k : WriteCall)
    (failed : (k.run c s).reply.isSuccess = false) :
    (k.run c s).log = k.notice.records (k.run c s).reply ∧
      (k.notice.method = none ↔
        (k.run c s).reply.message = FaultKind.invalidIdentifier.defaultMessage) := by
  cases k with
  | create r data =>
    obtain ⟨log, message⟩ := r.report_log _ _ (r.comesTo_add c s data) (by decide) failed
    exact ⟨log, iff_of_false nofun message⟩
  | update r identifier data =>
    exact r.addressed_log s ⟨"updating", false, "_update"⟩ identifier [data]
      (r.comesTo_change c s _ data) (by decide) rfl failed
  | delete r identifier =>
    exact r.addressed_log s ⟨"deleting", false, "_delete"⟩ identifier []
      (r.comesTo_removeAddressed s _) (by decide) rfl failed
  | upsert r values created updated =>
    obtain ⟨log, message⟩ := r.report_log _ _ (r.comesTo_addOrChange c s values created updated)
      (by decide) failed
    exact ⟨log, iff_of_false nofun message⟩

/-- **What is logged of a failure.** The log of a call that failed is a function of its notice and
its reply. -/
theorem Call.log_eq (c : Context) (s : Session) (k : Call)
    (failed : (k.run c s).reply.isSuccess = false) :
    (k.run c s).log = k.notice.records (k.run c s).reply := by
  cases k with
  | read k => exact k.log_eq c s failed
  | write k => exact (k.log_eq c s failed).1

/-! ### Arguments that are alike -/

/-- A call that reads, with everything sensitive in its arguments crossed out. -/
def ReadCall.scrub : ReadCall → ReadCall
  | .getOne r filters tree => .getOne r (Redaction.scrub filters) (Redaction.scrub tree)
  | .get r filters order tree =>
    .get r (Redaction.scrub filters) (Redaction.scrub order) (Redaction.scrub tree)
  | .getPaginated r filters order tree page perPage =>
    .getPaginated r (Redaction.scrub filters) (Redaction.scrub order) (Redaction.scrub tree)
      (Redaction.scrub page) (Redaction.scrub perPage)
  | .count r filters => .count r (Redaction.scrub filters)
  | .withRolesAndCompany r roleId companyId =>
    .withRolesAndCompany r (Redaction.scrub roleId) (Redaction.scrub companyId)
  | .byCompany r companyId page perPage =>
    .byCompany r (Redaction.scrub companyId) (Redaction.scrub page) (Redaction.scrub perPage)
  | .byCompanyAndStatus r companyId status =>
    .byCompanyAndStatus r (Redaction.scrub companyId) (Redaction.scrub status)
  | .memberships r userId activeOnly => .memberships r (Redaction.scrub userId) activeOnly
  | .byCompanyAndCurrency r companyId currency =>
    .byCompanyAndCurrency r (Redaction.scrub companyId) currency

/-- A call that may write, with everything sensitive in its arguments crossed out. -/
def WriteCall.scrub : WriteCall → WriteCall
  | .create r data => .create r (Redaction.scrub data)
  | .update r identifier data => .update r (Redaction.scrub identifier) (Redaction.scrub data)
  | .delete r identifier => .delete r (Redaction.scrub identifier)
  | .upsert r values created updated =>
    .upsert r (Redaction.scrub values) (Redaction.scrub created) (Redaction.scrub updated)

/-- A call with everything sensitive in its arguments crossed out. -/
def Call.scrub : Call → Call
  | .read k => .read k.scrub
  | .write k => .write k.scrub

/-- The same calls of the same repository, with arguments that differ only in what is under
sensitive names. -/
def Call.Alike (a b : Call) : Prop := a.scrub = b.scrub

/-- Whether an identifier is shown with its value beside a sensitive name and not under it. -/
def Identifier.isBare (v : Value) : Bool :=
  (resolve v).isValid && Redaction.isSensitiveKey (resolve v).key

/-- Whether the identifier of a call, if it has one, is shown with its value beside a sensitive
name. -/
def WriteCall.isBare : WriteCall → Bool
  | .update _ identifier _ => Identifier.isBare identifier
  | .delete _ identifier => Identifier.isBare identifier
  | _ => false

/-- Whether something sensitive may be shown of a call that failed: inside a payload, or as the
value of an identifier. -/
def Call.exposes (k : Call) : Bool :=
  Redaction.exposes k.notice.shown || match k with
    | .read _ => false
    | .write k => k.isBare

/-! ### Identifiers -/

namespace Identifier

open Redaction (isSensitiveKey scrubEntries)

theorem key_resolve_scrub (v : Value) : (resolve (Redaction.scrub v)).key = (resolve v).key := by
  have ofFirst_key (entries : Entries) :
      (ofFirst (scrubEntries entries)).key = (ofFirst entries).key := by
    cases entries <;> rfl
  cases v with
  | map entries => simpa only [Redaction.scrub, resolve] using ofFirst_key entries
  | model fields given =>
    simpa only [Redaction.scrub, resolve, Redaction.scrub_plainEntries] using
      ofFirst_key (Value.plainEntries given)
  | _ => simp only [Redaction.scrub, resolve]

/-- Under a name that is not sensitive, an identifier leads to what is left of its value. -/
theorem value_resolve_scrub {v : Value} (shown : isSensitiveKey (resolve v).key = false) :
    (resolve (Redaction.scrub v)).value = Redaction.scrub (resolve v).value := by
  have ofFirst_value (entries : Entries) (h : isSensitiveKey (ofFirst entries).key = false) :
      (ofFirst (scrubEntries entries)).value = Redaction.scrub (ofFirst entries).value := by
    cases entries with
    | nil => simp [scrubEntries, ofFirst, absent, Redaction.scrub]
    | cons e rest =>
      simp only [ofFirst] at h
      simp only [scrubEntries, ofFirst, h, Redaction.scrub_unfold]
      simp [scrubEntries, h]
  cases v with
  | map entries => simpa only [Redaction.scrub, resolve] using ofFirst_value entries shown
  | model fields given =>
    simpa only [Redaction.scrub, resolve, Redaction.scrub_plainEntries] using
      ofFirst_value (Value.plainEntries given) shown
  | _ => simp [Redaction.scrub, resolve, absent]

/-- Whether an identifier has a value does not depend on what is sensitive in it, unless the value
itself is. -/
theorem isValid_resolve_scrub {v : Value} (shown : isSensitiveKey (resolve v).key = false) :
    (resolve (Redaction.scrub v)).isValid = (resolve v).isValid := by
  rw [isValid, isValid, key_resolve_scrub, value_resolve_scrub shown, Redaction.isNull_scrub]

variable {v w : Value}

/-- Of two identifiers that are alike, either both are turned away or none, if they are not shown
beside a sensitive name. -/
theorem isValid_of_alike (alike : Redaction.scrub v = Redaction.scrub w) (hv : isBare v = false)
    (hw : isBare w = false) : (resolve v).isValid = (resolve w).isValid := by
  have key : (resolve v).key = (resolve w).key := by
    rw [← key_resolve_scrub v, alike, key_resolve_scrub w]
  rw [isBare, key] at hv
  rw [isBare] at hw
  cases sensitive : isSensitiveKey (resolve w).key with
  | true => simp_all
  | false =>
    rw [← isValid_resolve_scrub (key ▸ sensitive), alike, isValid_resolve_scrub sensitive]

/-- The notices of two calls that address a record by such identifiers differ only in what is
sensitive. -/
theorem addressNotice_alike (r : Repository) (method : String) {others others' : List Value}
    (alike : Redaction.scrub v = Redaction.scrub w)
    (rest : Redaction.scrubItems others = Redaction.scrubItems others') (hv : isBare v = false)
    (hw : isBare w = false) :
    (r.addressNotice method v others).scrub = (r.addressNotice method w others').scrub := by
  have same := isValid_of_alike alike hv hw
  rw [Repository.addressNotice, Repository.addressNotice]
  cases valid : (resolve w).isValid with
  | false => simp [same, valid, Notice.scrub, alike]
  | true =>
    have shown (u : Value) (hu : isBare u = false) (valid : (resolve u).isValid = true) :
        isSensitiveKey (resolve u).key = false := by simpa [isBare, valid] using hu
    have key : (resolve v).key = (resolve w).key := by
      rw [← key_resolve_scrub v, alike, key_resolve_scrub w]
    have value : Redaction.scrub (resolve v).value = Redaction.scrub (resolve w).value := by
      rw [← value_resolve_scrub (shown v hv (same.trans valid)), alike,
        value_resolve_scrub (shown w hw valid)]
    simp [same, valid, Notice.scrub, Redaction.scrub, Redaction.scrubItems, key, value, rest]

end Identifier

/-! ### Notices of calls that are alike -/

/-- What is shown of a call that reads and is crossed out is what is shown of it, crossed out. -/
theorem ReadCall.notice_scrub (k : ReadCall) : k.scrub.notice = k.notice.scrub := by
  have names : ∀ name ∈
      ["role_id", "company_id", "status", "user_id", "is_active", "currency", "in"],
      Redaction.isSensitiveKey (.str name) = false := by decide
  cases k with
  | byCompanyAndStatus r companyId status =>
    have filter : Redaction.scrub (Repository.statusFilter status) =
        Repository.statusFilter (Redaction.scrub status) := by
      cases status <;>
        simp [Repository.statusFilter, Redaction.scrub, Redaction.scrubEntries, names]
    simp [scrub, notice, Notice.scrub, Redaction.scrub, Redaction.scrubItems,
      Redaction.scrubEntries, names, filter]
  | memberships r userId activeOnly =>
    cases activeOnly <;> simp [scrub, notice, Notice.scrub, Redaction.scrub, Redaction.scrubItems,
      Redaction.scrubEntries, names]
  | _ => simp [scrub, notice, Notice.scrub, Redaction.scrub, Redaction.scrubItems,
      Redaction.scrubEntries, walletFilter, names]

theorem WriteCall.scrub_notice_of_alike {a b : WriteCall} (alike : a.scrub = b.scrub)
    (ha : a.isBare = false) (hb : b.isBare = false) : a.notice.scrub = b.notice.scrub := by
  cases a <;> cases b <;> simp only [scrub, reduceCtorEq] at alike
  case create.create =>
    injection alike with repository data
    simp [notice, Notice.scrub, Redaction.scrub, Redaction.scrubItems, repository, data]
  case update.update =>
    injection alike with repository identifier data
    subst repository
    exact Identifier.addressNotice_alike _ _ identifier (by simp [Redaction.scrubItems, data]) ha hb
  case delete.delete =>
    injection alike with repository identifier
    subst repository
    exact Identifier.addressNotice_alike _ _ identifier rfl ha hb
  case upsert.upsert =>
    injection alike with repository values created updated
    simp [notice, Notice.scrub, Redaction.scrub, Redaction.scrubItems, repository, values, created,
      updated]

/-- Two calls that are alike, and of which nothing sensitive may be shown, have notices that differ
only in what is sensitive. -/
theorem Call.scrub_notice_of_alike {a b : Call} (alike : a.Alike b) (ha : a.exposes = false)
    (hb : b.exposes = false) : a.notice.scrub = b.notice.scrub := by
  cases a <;> cases b <;> simp only [Alike, scrub, reduceCtorEq] at alike
  case read.read k l =>
    have alike : k.scrub = l.scrub := Call.read.inj alike
    rw [notice, notice, ← k.notice_scrub, alike, l.notice_scrub]
  case write.write k l =>
    simp only [exposes, Bool.or_eq_false_iff] at ha hb
    exact WriteCall.scrub_notice_of_alike (Call.write.inj alike) ha.2 hb.2

theorem Repository.method_addressNotice (r : Repository) (method : String) (identifier : Value)
    (others : List Value) : (r.addressNotice method identifier others).method = none ∨
      (r.addressNotice method identifier others).method = some method := by
  rw [Repository.addressNotice]
  cases (Identifier.resolve identifier).isValid
  · exact .inl rfl
  · exact .inr rfl

theorem Repository.repository_addressNotice (r : Repository) (method : String) (identifier : Value)
    (others : List Value) : (r.addressNotice method identifier others).repository = r := by
  rw [Repository.addressNotice]
  cases (Identifier.resolve identifier).isValid <;> rfl

/-- Two writes that are alike are logged for the same repository, and under the same name if both
are turned away or none. -/
theorem WriteCall.notice_of_alike {a b : WriteCall} (alike : a.scrub = b.scrub)
    (turnedAway : a.notice.method = none ↔ b.notice.method = none) :
    a.notice.repository = b.notice.repository ∧ a.notice.method = b.notice.method := by
  have same {r r' : Repository} (method : String) {v v' : Value} {others others' : List Value}
      (h : (r.addressNotice method v others).method = none ↔
        (r'.addressNotice method v' others').method = none) :
      (r.addressNotice method v others).method = (r'.addressNotice method v' others').method := by
    rcases r.method_addressNotice method v others with away | named
    · rw [away, h.mp away]
    · rcases r'.method_addressNotice method v' others' with away' | named'
      · rw [h.mpr away', away']
      · rw [named, named']
  cases a <;> cases b <;> simp only [scrub, reduceCtorEq] at alike
  case create.create => exact ⟨(WriteCall.create.inj alike).1, rfl⟩
  case update.update r v data r' v' data' =>
    refine ⟨?_, same _ turnedAway⟩
    simpa only [notice, Repository.repository_addressNotice] using (WriteCall.update.inj alike).1
  case delete.delete r v r' v' =>
    refine ⟨?_, same _ turnedAway⟩
    simpa only [notice, Repository.repository_addressNotice] using (WriteCall.delete.inj alike).1
  case upsert.upsert => exact ⟨(WriteCall.upsert.inj alike).1, rfl⟩

/-- Two calls that are alike and fail with the same reply are logged for the same repository and
under the same name. -/
theorem Call.notice_of_alike {c c' : Context} {s s' : Session} {a b : Call} (alike : a.Alike b)
    (failed : (a.run c s).reply.isSuccess = false)
    (same : (a.run c s).reply = (b.run c' s').reply) :
    a.notice.repository = b.notice.repository ∧ a.notice.method = b.notice.method := by
  cases a <;> cases b <;> simp only [Alike, scrub, reduceCtorEq] at alike
  case read.read k l =>
    have notices : k.notice.scrub = l.notice.scrub := by
      rw [← k.notice_scrub, Call.read.inj alike, l.notice_scrub]
    exact ⟨(Notice.mk.inj notices).1, (Notice.mk.inj notices).2.1⟩
  case write.write k l =>
    refine WriteCall.notice_of_alike (Call.write.inj alike) ?_
    have failed' : (l.run c' s').reply.isSuccess = false := same ▸ failed
    rw [(k.log_eq c s failed).2, (l.log_eq c' s' failed').2]
    exact iff_of_eq (congrArg (fun reply : Reply =>
      reply.message = FaultKind.invalidIdentifier.defaultMessage) same)

/-! ### Two failures -/

/-- **The log of a failure keeps secrets.** Let two calls have arguments that differ only in what is
under sensitive names, and fail with the same reply, at any times and in sessions of any state. They
leave the same log, unless something sensitive stands inside a payload of theirs or is the value of
an identifier. In any case their logs are the same exactly if nothing is logged or the same is shown
of their arguments. -/
theorem failure_logs_agree {c c' : Context} {s s' : Session} {a b : Call} (alike : a.Alike b)
    (failed : (a.run c s).reply.isSuccess = false)
    (same : (a.run c s).reply = (b.run c' s').reply) :
    (a.exposes = false → b.exposes = false → (a.run c s).log = (b.run c' s').log) ∧
      ((a.run c s).log = (b.run c' s').log ↔
        (a.run c s).log = .ok [] ∨ a.notice.text = b.notice.text) := by
  obtain ⟨repository, method⟩ := Call.notice_of_alike alike failed same
  have logged : (a.run c s).log = (b.run c' s').log ↔
      (a.run c s).log = .ok [] ∨ a.notice.text = b.notice.text := by
    rw [a.log_eq c s failed, b.log_eq c' s' (same ▸ failed), ← same]
    exact Notice.records_inj repository method _
  refine ⟨fun ha hb => logged.mpr (.inr ?_), logged⟩
  have shown : Redaction.scrub a.notice.shown = Redaction.scrub b.notice.shown :=
    (Notice.mk.inj (Call.scrub_notice_of_alike alike ha hb)).2.2
  simp only [Call.exposes, Bool.or_eq_false_iff] at ha hb
  rw [Notice.text, ← Redaction.safeText_scrub ha.1, shown, Redaction.safeText_scrub hb.1,
    Notice.text]

/-- An attempt to create a user of whom nothing but a password is given. -/
def passwordOnly (payload : Entries → Value) (password : String) : Call :=
  .write (.create (Repository.standard {} .user) (payload [(.str "password_hash", .str password)]))

/-- An attempt to delete the user with a password, by a name that no column has. -/
def addressedByPassword (password : String) : Call :=
  .write (.delete (Repository.standard {} .user) (.map [(.str "password", .str password)]))

/-- Attempts to create a user with nothing but a password fail and are logged alike, if the password
stands in a mapping. -/
theorem failure_logs_agree_sample :
    let c := Script.context {} 1
    let s := Session.start .empty false
    let a := passwordOnly .map "hunter2"
    let b := passwordOnly .map "swordfish"
    a.Alike b ∧ (a.run c s).reply.isSuccess = false ∧ (a.run c s).reply = (b.run c s).reply ∧
      a.exposes = false ∧ b.exposes = false ∧ (a.run c s).log = (b.run c s).log := by
  intro c s a b
  have alike : a.Alike b := by rfl
  have failed : (a.run c s).reply.isSuccess = false := by rfl
  have same : (a.run c s).reply = (b.run c s).reply := by rfl
  have hidden : a.exposes = false ∧ b.exposes = false := by decide
  exact ⟨alike, failed, same, hidden.1, hidden.2,
    (failure_logs_agree alike failed same).1 hidden.1 hidden.2⟩

/-- The reply to an identifier under a name that no column has names the column only. -/
private theorem reply_addressedByPassword (c : Context) (s : Session) (password : String) :
    ((addressedByPassword password).run c s).reply =
      ((Repository.standard {} .user).report ⟨"deleting", false, "_delete"⟩ []
        (.error (.spec (.unknownField (.str "password") .user)))).1 := by
  have unknown : Entity.user.column? "password" = none :=
    Option.isNone_iff_eq_none.mp (by rfl)
  have column : Entity.user.columnOf (.str "password") =
      .error (.spec (.unknownField (.str "password") .user)) := by
    simp [Entity.columnOf, Value.keyProblem?, unknown]
  have addressed : (Repository.standard {} .user).addressed s ⟨.str "password", .str password⟩ =
      .error (.spec (.unknownField (.str "password") .user)) := congrArg (· >>= _) column
  simp only [Call.run, WriteCall.run, addressedByPassword, Repository.delete, Identifier.resolve,
    Identifier.ofFirst, Value.unfold_str, Repository.removeAddressed, addressed]
  rfl

/-- The same attempts are logged with the password if it stands in a payload, and so are attempts to
delete the user with a password. -/
theorem failure_logs_differ_sample :
    let c := Script.context {} 1
    let s := Session.start .empty false
    let payload := Value.model ["email", "password_hash"]
    let differ (a b : Call) : Prop :=
      a.Alike b ∧ (a.run c s).reply.isSuccess = false ∧ (a.run c s).reply = (b.run c s).reply ∧
        (a.run c s).log ≠ (b.run c s).log
    differ (passwordOnly payload "hunter2") (passwordOnly payload "swordfish") ∧
      differ (addressedByPassword "hunter2") (addressedByPassword "swordfish") := by
  intro c s payload differ
  refine ⟨⟨by rfl, by rfl, by rfl, by decide +kernel⟩,
    by rfl, by rfl, ?_, by decide +kernel⟩
  rw [reply_addressedByPassword, reply_addressedByPassword]

end Recordbook

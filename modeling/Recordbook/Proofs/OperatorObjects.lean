import Mathlib.Data.List.Forall2
import Recordbook.Proofs.FilterAnswer
import Recordbook.Proofs.ReservedNames

/-!
# What is read of an operator object

An operator object is read by the names of the operators. The two operators on lists want a list, or
null in its place; any other operand of theirs makes the object unreadable, and the filter with it,
whatever else the object holds. Nothing else does. The first entry of a filter that cannot be read
is the one that is reported.

What is under other names is passed over, and so is the second spelling of an operator where the
first is given. As each name is looked up, the order of the entries does not matter either, and the
condition that comes of them has an order of its own.

Filters are meant as they are compiled here, with the references back in them already followed.

## Main definitions

* `OperatorFilter.listOperands`, `Value.readsAsList` — the operands that should be lists, and what
  may stand for a list
* `Filter.remaining` — the entries that are compiled one by one
* `OperatorFilter.counted`, `Filter.SameEntry` — what counts of an operator object, and entries of
  which the same counts

## Main results

* `Filter.compileEntries_eq_error_iff` — the first entry that cannot be read is reported
* `OperatorFilter.ofEntries_congr` — an operator object is what counts of it
* `bad_operators_refused` — which filters are refused, and what does not matter to a filter
-/

namespace Recordbook

/-- Whether a value may stand where a list is wanted: null, a sequence, or a payload, which is then
the list of its fields with their values. -/
def Value.readsAsList : Value → Bool
  | .null => true
  | .list _ => true
  | .tuple _ => true
  | .model .. => true
  | _ => false

/-! ### Operands that should be lists -/

namespace OperatorFilter

/-- The operands that should be lists: the one under `in`, or under `in_` where there is no `in`,
and the one under `nin`. -/
def listOperands (operators : Entries) : List Value :=
  ((operators.get? "in").or (operators.get? "in_")).toList ++ (operators.get? "nin").toList

theorem exists_listOperand {v : Value} (h : v.readsAsList = true) :
    ∃ operand, listOperand v = .ok operand := by
  cases v <;> first | exact ⟨_, rfl⟩ | cases h

theorem listOperand_eq_error {v : Value} (h : v.readsAsList = false) :
    listOperand v = .error .notList := by
  cases v <;> first | rfl | cases h

variable {operators : Entries}

theorem exists_readList {name : String}
    (h : ∀ v, operators.get? name = some v → v.readsAsList = true) :
    ∃ operand, readList operators name = .ok operand := by
  rw [readList]
  cases given : operators.get? name with
  | none => exact ⟨none, rfl⟩
  | some v =>
    obtain ⟨operand, read⟩ := exists_listOperand (h v given)
    exact ⟨some operand, by simp only [read]⟩

theorem readList_eq_error {name : String} {v : Value} (given : operators.get? name = some v)
    (h : v.readsAsList = false) : readList operators name = .error ⟨[name], .notList, v⟩ := by
  simp only [readList, given, listOperand_eq_error h]

/-- The only thing that can be wrong with such an operand is that it is no list. -/
theorem complaint_of_readList {name : String} {i : Issue}
    (failed : readList operators name = .error i) : i.complaint = .notList := by
  cases given : operators.get? name with
  | none => simp [readList, given] at failed
  | some v =>
    cases reads : v.readsAsList with
    | true =>
      obtain ⟨operand, read⟩ := exists_listOperand reads
      simp [readList, given, read] at failed
    | false =>
      rw [readList_eq_error given reads] at failed
      cases failed
      rfl

theorem mem_listOperands {v : Value} : v ∈ listOperands operators ↔
    operators.get? (withinName operators) = some v ∨ operators.get? "nin" = some v := by
  simp [listOperands, get?_withinName]

/-- Operators can be read if each operand that should be a list may stand for one. -/
theorem exists_ofEntries (h : ∀ v ∈ listOperands operators, v.readsAsList = true) :
    ∃ f, ofEntries operators = .ok f := by
  obtain ⟨within, readWithin⟩ : ∃ within, readList operators (withinName operators) = .ok within :=
    exists_readList fun v given => h v (mem_listOperands.mpr (.inl given))
  obtain ⟨without, readWithout⟩ : ∃ without, readList operators "nin" = .ok without :=
    exists_readList fun v given => h v (mem_listOperands.mpr (.inr given))
  rw [ofEntries, readWithin, readWithout]
  exact ⟨_, rfl⟩

/-- If one of them may not, the first issue is that it is no list. -/
theorem ofEntries_eq_error {v : Value} (hv : v ∈ listOperands operators)
    (h : v.readsAsList = false) : ∃ issue issues,
      ofEntries operators = .error ⟨"OperatorFilter", issue :: issues⟩ ∧
        issue.complaint = .notList := by
  rw [ofEntries]
  cases within : readList operators (withinName operators) with
  | error i => exact ⟨i, issueOf (readList operators "nin"), rfl, complaint_of_readList within⟩
  | ok first =>
    cases without : readList operators "nin" with
    | error i => exact ⟨i, [], rfl, complaint_of_readList without⟩
    | ok second =>
      rcases mem_listOperands.mp hv with given | given
      · rw [readList_eq_error given h] at within
        cases within
      · rw [readList_eq_error given h] at without
        cases without

end OperatorFilter

/-! ### Entries that cannot be read -/

namespace Filter

/-- Whether a condition cannot be read: an operator object with an operand that should be a list and
is none. -/
def isUnreadable : Value → Bool
  | .map operators => (OperatorFilter.listOperands operators).any fun v => !v.readsAsList
  | _ => false

/-- What is reported of a condition that cannot be read. -/
def unreadable (key : Value) : Failure := .spec (.badOperators key .notList)

theorem compileEntry_of_isUnreadable {v : Value} (h : isUnreadable v = true) (key : Value) :
    compileEntry key v = .error (unreadable key) := by
  cases v with
  | map operators =>
    obtain ⟨operand, given, bad⟩ := List.any_eq_true.mp h
    obtain ⟨issue, issues, failed, complaint⟩ :=
      OperatorFilter.ofEntries_eq_error given (by simpa using bad)
    simp [compileEntry, isScalar, failed, complaint, unreadable]
  | _ => cases h

theorem exists_compileEntry {v : Value} (h : isUnreadable v = false) (key : Value) :
    ∃ condition, compileEntry key v = .ok condition := by
  cases v with
  | map operators =>
    obtain ⟨f, read⟩ : ∃ f, OperatorFilter.ofEntries operators = .ok f :=
      OperatorFilter.exists_ofEntries fun v hv => by simpa using List.any_eq_false.mp h v hv
    exact ⟨some f.condition, by simp [compileEntry, isScalar, read]⟩
  | _ => exact ⟨_, rfl⟩

/-- **The first entry that cannot be read is reported**, and nothing else is. -/
theorem compileEntries_eq_error_iff {done entries : Entries} {f : Failure} :
    compileEntries done entries = .error f ↔
      ∃ e, entries.find? (fun e => isUnreadable e.2) = some e ∧ f = unreadable e.1 := by
  induction entries generalizing done with
  | nil => simp [compileEntries]
  | cons e entries ih =>
    obtain ⟨key, v⟩ := e
    rw [compileEntries, List.find?_cons]
    cases bad : isUnreadable v with
    | true =>
      rw [compileEntry_of_isUnreadable bad]
      constructor
      · intro failed
        cases failed
        exact ⟨(key, v), rfl, rfl⟩
      · rintro ⟨e, first, rfl⟩
        cases first
        rfl
    | false =>
      obtain ⟨condition, compiled⟩ := exists_compileEntry bad key
      rw [compiled]
      exact ih

/-! ### Reserved names aside -/

/-- Whether a reserved name asks for something. -/
def asksForMembership (filters : Entries) : Bool :=
  reservedNames.any fun name => (filters.getD name).isTruthy

/-- The entries that are compiled one by one: all of them, or those under other than the reserved
names, if these are hoisted and ask for something. -/
def remaining (m : Membership) (filters : Entries) : Entries :=
  if m.hoisted && asksForMembership filters then
    filters.filter fun e => !reservedNames.any e.1.isText
  else filters

/-- The conditions that they are compiled onto. -/
def hoistedClause (m : Membership) (filters : Entries) : Entries :=
  if m.hoisted && asksForMembership filters then
    [(.str m.relation, .map [(.str "some", .map (membershipEntries filters))])]
  else []

theorem ordinaryEntries_eq_filter (filters : Entries) :
    ordinaryEntries filters = filters.filter fun e => !reservedNames.any e.1.isText := by
  simp only [ordinaryEntries, reservedNames, List.foldl_cons, List.foldl_nil, Entries.erase,
    List.filter_filter]
  refine List.filter_congr fun e _ => ?_
  simp [Bool.and_comm]

theorem isEmpty_membershipEntries (filters : Entries) :
    (membershipEntries filters).isEmpty = !asksForMembership filters := by
  rw [Bool.eq_iff_iff, List.isEmpty_iff, ← not_iff_not, ← ne_eq, membershipEntries_ne_nil]
  simp [asksForMembership]

/-- A filter is compiled entry by entry, onto the clause of the reserved names. -/
theorem compile_eq (m : Membership) (filters : Entries) :
    compile m filters = compileEntries (hoistedClause m filters) (remaining m filters) := by
  rw [compile, isEmpty_membershipEntries, Bool.not_not, hoistedClause, remaining,
    ordinaryEntries_eq_filter]
  split <;> rfl

end Filter

/-! ### What counts of an operator object -/

/-- In mappings that give no key twice, the order of the entries does not matter to what is found
under a name. -/
theorem Entries.get?_of_perm {es fs : Entries} (distinct : es.Distinct) (distinct' : fs.Distinct)
    (perm : es.Perm fs) (name : String) : es.get? name = fs.get? name := by
  refine Option.ext fun v => ?_
  constructor
  · intro found
    exact distinct'.get?_of_mem (perm.mem_iff.mp (mem_of_get? found))
  · intro found
    exact distinct.get?_of_mem (perm.mem_iff.mpr (mem_of_get? found))

namespace OperatorFilter

/-- The entries of an operator object that count: those under the names of operators, and `in_` only
where there is no `in`. -/
def counted (operators : Entries) : Entries :=
  operators.filter fun e => names.any e.1.isText && !(e.1.isText "in_" && operators.has "in")

theorem get?_counted {operators : Entries} {name : String} (known : name ∈ names)
    (alone : name = "in_" → operators.has "in" = false) :
    (counted operators).get? name = operators.get? name := by
  rw [counted, Entries.get?, Entries.get?, List.find?_filter]
  refine congrArg (Option.map Prod.snd) (congrArg (List.find? · operators) (funext fun e => ?_))
  cases text : e.1.isText name with
  | false => simp
  | true =>
    rw [Value.isText_iff.mp text]
    by_cases second : name = "in_"
    · subst second
      simp [alone rfl, known]
    · simp [second, known]

variable {es fs : Entries}

theorem has_counted (operators : Entries) : (counted operators).has "in" = operators.has "in" := by
  rw [Entries.has_iff_get?_isSome, get?_counted (by decide) (by simp),
    ← Entries.has_iff_get?_isSome]

/-- **An operator object is what counts of it**, in any order. -/
theorem ofEntries_congr (distinct : es.Distinct) (distinct' : fs.Distinct)
    (perm : (counted es).Perm (counted fs)) : ofEntries es = ofEntries fs := by
  have found (name : String) : (counted es).get? name = (counted fs).get? name :=
    Entries.get?_of_perm (distinct.filter _) (distinct'.filter _) perm name
  have first : es.has "in" = fs.has "in" := by
    rw [← has_counted es, ← has_counted fs, Entries.has_iff_get?_isSome,
      Entries.has_iff_get?_isSome]
    exact congrArg Option.isSome (found "in")
  have same (name : String) (known : name ∈ names)
      (alone : name = "in_" → es.has "in" = false) : es.get? name = fs.get? name := by
    have alone' : name = "in_" → fs.has "in" = false := fun h => first.symm.trans (alone h)
    rw [← get?_counted known alone, ← get?_counted known alone', found]
  have other (name : String) (known : name ∈ names) (h : name ≠ "in_") :
      es.get? name = fs.get? name := same name known fun second => absurd second h
  have within : es.get? (withinName es) = fs.get? (withinName es) := by
    rw [withinName]
    cases given : es.has "in" with
    | true => exact other "in" (by decide) (by decide)
    | false => exact same "in_" (by decide) fun _ => given
  have reads {name : String} (h : es.get? name = fs.get? name) :
      readList es name = readList fs name := by
    rw [readList, readList, h]
  have withinNames : withinName fs = withinName es := by rw [withinName, withinName, first]
  rw [ofEntries, ofEntries, withinNames, reads within,
    reads (other "nin" (by decide) (by decide)), other "neq" (by decide) (by decide),
    other "gt" (by decide) (by decide), other "lt" (by decide) (by decide),
    other "gte" (by decide) (by decide), other "lte" (by decide) (by decide),
    other "eq" (by decide) (by decide)]

end OperatorFilter

namespace Filter

/-- Two entries are the same, or have operator objects under one name other than the reserved ones
of which the same counts. -/
inductive SameEntry : Value × Value → Value × Value → Prop
  /-- The same entry. -/
  | same (e : Value × Value) : SameEntry e e
  /-- Operator objects of which the same counts, in any order. -/
  | operators {key : Value} {es fs : Entries} (ordinary : ∀ name ∈ reservedNames, key ≠ .str name)
      (distinct : es.Distinct) (distinct' : fs.Distinct)
      (counted : (OperatorFilter.counted es).Perm (OperatorFilter.counted fs)) :
      SameEntry (key, .map es) (key, .map fs)

theorem SameEntry.key_eq {e f : Value × Value} (h : SameEntry e f) : e.1 = f.1 := by
  cases h <;> rfl

theorem SameEntry.compileEntry_eq {e f : Value × Value} (h : SameEntry e f) :
    compileEntry e.1 e.2 = compileEntry f.1 f.2 := by
  cases h with
  | same => rfl
  | operators ordinary distinct distinct' counted =>
    simp only [compileEntry, OperatorFilter.ofEntries_congr distinct distinct' counted]
    rfl

variable {filters others : Entries}

theorem compileEntries_congr (h : List.Forall₂ SameEntry filters others) (done : Entries) :
    compileEntries done filters = compileEntries done others := by
  induction h generalizing done with
  | nil => rfl
  | @cons e f _ _ entry _ ih =>
    obtain ⟨key, v⟩ := e
    obtain ⟨key', w⟩ := f
    obtain rfl : key = key' := entry.key_eq
    have here : compileEntry key v = compileEntry key w := entry.compileEntry_eq
    simp only [compileEntries, here, ih]

/-- What is under a reserved name is the same. -/
theorem getD_congr (h : List.Forall₂ SameEntry filters others) (name : String)
    (reserved : name ∈ reservedNames) : filters.getD name = others.getD name := by
  induction h with
  | nil => rfl
  | cons entry _ ih =>
    cases entry with
    | same e => rw [Entries.getD_cons, Entries.getD_cons, ih]
    | operators ordinary =>
      have other := mt Value.isText_iff.mp (ordinary name reserved)
      rw [Entries.getD_cons, Entries.getD_cons, if_neg other, if_neg other, ih]

theorem asksForMembership_congr (h : List.Forall₂ SameEntry filters others) :
    asksForMembership filters = asksForMembership others := by
  simp only [asksForMembership, reservedNames, List.any_cons, List.any_nil,
    getD_congr h "company_id" (by decide), getD_congr h "role_id" (by decide)]

theorem hoistedClause_congr (m : Membership) (h : List.Forall₂ SameEntry filters others) :
    hoistedClause m filters = hoistedClause m others := by
  have entries : membershipEntries filters = membershipEntries others :=
    List.filterMap_congr fun name reserved => by rw [getD_congr h name reserved]
  rw [hoistedClause, hoistedClause, asksForMembership_congr h, entries]

theorem remaining_congr (m : Membership) (h : List.Forall₂ SameEntry filters others) :
    List.Forall₂ SameEntry (remaining m filters) (remaining m others) := by
  rw [remaining, remaining, asksForMembership_congr h]
  split
  · refine List.rel_filter (fun e f same => ?_) h
    simp only [same.key_eq]
  · exact h

end Filter

open Recordbook.Filter

/-- **Bad operators are refused.** A filter is refused exactly if some entry that is left beside the
clause of the reserved names is an operator object with an operand that should be a list and may not
stand for one, whatever else is in the object. The first such entry is reported, as a bad query, and
there is no other failure. And filters come to the same, a condition mapping or a failure, if their
operator objects under other than the reserved names differ only in the order of the entries, in
names that are no operators and in the second spelling of an operator that is given under the first.
-/
theorem bad_operators_refused (m : Membership) (filters : Entries) :
    ((∃ f, compile m filters = .error f) ↔
      ∃ e ∈ remaining m filters, isUnreadable e.2 = true) ∧
    (∀ f, compile m filters = .error f → f.faultKind = .invalidQuerySpec ∧
      ∃ e, (remaining m filters).find? (fun e => isUnreadable e.2) = some e ∧
        f = unreadable e.1) ∧
    ∀ others, List.Forall₂ SameEntry filters others → compile m others = compile m filters := by
  have failure (f : Failure) : compile m filters = .error f ↔ ∃ e,
      (remaining m filters).find? (fun e => isUnreadable e.2) = some e ∧ f = unreadable e.1 := by
    rw [compile_eq]
    exact compileEntries_eq_error_iff
  refine ⟨?_, fun f failed => ?_, fun others same => ?_⟩
  · simp only [failure, exists_comm, exists_and_left, exists_eq, and_true]
    rw [← Option.isSome_iff_exists, List.find?_isSome]
  · obtain ⟨e, first, rfl⟩ := (failure f).mp failed
    exact ⟨rfl, e, first, rfl⟩
  · rw [compile_eq, compile_eq, ← hoistedClause_congr m same]
    exact (compileEntries_congr (remaining_congr m same) _).symm

/-- A number where a list is wanted is refused beside an equality too, and in whatever order and
company the operators are given. -/
theorem bad_operators_refused_sample :
    let m : Membership := ⟨"user_company_roles", true⟩
    let operators := Entries.named [("like", .str "A%"), ("nin", .int 7), ("in_", .int 3),
      ("in", .list []), ("eq", .null)]
    let others := Entries.named [("eq", .null), ("in", .list []), ("in_", .bool true),
      ("nin", .int 7)]
    let filters (operators : Entries) := Entries.named [("email", .str "a"),
      ("status", .map operators)]
    List.Forall₂ SameEntry (filters operators) (filters others) ∧
      (∃ f, compile m (filters operators) = .error f ∧ f.faultKind = .invalidQuerySpec ∧
        f.message = "Invalid operators for field \"status\": Input should be a valid list") ∧
      compile m (filters others) = compile m (filters operators) := by
  intro m operators others filters
  have turned : OperatorFilter.counted operators = (OperatorFilter.counted others).reverse := rfl
  have counted : (OperatorFilter.counted operators).Perm (OperatorFilter.counted others) := by
    rw [turned]
    exact List.reverse_perm _
  have same : List.Forall₂ SameEntry (filters operators) (filters others) := by
    refine .cons (.same _) (.cons (.operators ?_ ?_ ?_ counted) .nil)
    · simp [reservedNames]
    · simp [operators, Entries.Distinct]
    · simp [others, Entries.Distinct]
  obtain ⟨refused, reported, alike⟩ := bad_operators_refused m (filters operators)
  have status : (Value.str "status", Value.map operators) ∈ remaining m (filters operators) :=
    List.mem_cons_of_mem _ List.mem_cons_self
  obtain ⟨f, failed⟩ := refused.mpr ⟨_, status, rfl⟩
  obtain ⟨kind, e, first, rfl⟩ := reported f failed
  have found : e = (.str "status", .map operators) := Option.some_inj.mp (first.symm.trans rfl)
  rw [found] at failed kind
  exact ⟨same, ⟨_, failed, kind, rfl⟩, alike _ same⟩

/-- A payload where a list is wanted is not refused. It stands for the list of its fields with their
values. -/
theorem payload_operand_read :
    let m : Membership := ⟨"user_company_roles", true⟩
    let payload := Value.model ["a"] [(.str "a", .int 1)]
    let entry (operand : Value) : Value × Value := (.str "status", .map [(.str "in", operand)])
    entry payload ∈ remaining m [entry payload] ∧ payload ≠ .null ∧
      (∀ items, payload ≠ .list items ∧ payload ≠ .tuple items) ∧
      compile m [entry payload] = .ok [entry (.list [.tuple [.str "a", .int 1]])] := by
  intro m payload entry
  have left : entry payload ∈ remaining m [entry payload] := List.mem_cons_self
  exact ⟨left, nofun, fun items => ⟨nofun, nofun⟩, rfl⟩

end Recordbook

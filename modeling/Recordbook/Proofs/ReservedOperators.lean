import Recordbook.Proofs.FilterAnswer
import Recordbook.Proofs.Keyed

/-!
# Operators under the reserved names

A company or a role is a column of a membership and no column of a user, and a filter of either kind
of records may ask for it. Where it is a column, an operator object is read and written out in the
store's own vocabulary. Where it is a reserved name, the condition goes into the membership clause
as it is, and is taken for one in that vocabulary already.

The two vocabularies share five names. A condition that has no others means the same on both ways,
and a user is found by it exactly if one of their memberships is. With any other operator, and with
null in the place of a list, the call for users fails.

## Main definitions

* `Filter.OverKeys` — a key, or an operator object over keys
* `Filter.isStoreCondition` — a condition that is one in the store's vocabulary as it is

## Main results

* `Cell.meetsOperators_shared` — what operators of both vocabularies mean
* `Filter.OverKeys.asks`, `Filter.OverKeys.ofColumn_error` — what the store makes of a condition
  that was not read
* `reserved_condition_agrees` — users by a condition on their memberships
-/

namespace Recordbook

open Criteria

/-- The operators that have one name in both vocabularies. -/
def OperatorFilter.sharedNames : List String := ["in", "gt", "lt", "gte", "lte"]

namespace Filter

/-- A condition on a column of keys: a key, or an operator object over keys, which gives at least
one operator and none twice. -/
inductive OverKeys : Value → Prop
  /-- A key. -/
  | key (u : Uuid) : OverKeys (.uuid u)
  /-- An operator object over keys. -/
  | operators {operators : List (String × Value)} (some : operators ≠ [])
      (distinct : (operators.map Prod.fst).Nodup)
      (known : ∀ entry ∈ operators, entry.1 ∈ OperatorFilter.names)
      (fits : OperatorFilter.Fits .uuid (Entries.named operators)) :
      OverKeys (.map (Entries.named operators))

/-- An object of one operator. -/
theorem OverKeys.single {name : String} {v : Value} (known : name ∈ OperatorFilter.names)
    (equal : name ∈ ["eq", "neq"] → v = .null ∨ ColumnKind.takes .uuid v = true)
    (listed : name ∈ ["in", "in_", "nin"] →
      v = .null ∨ ∃ vs, v = .list vs ∧ ColumnKind.takesAll .uuid vs)
    (ordered : name ∈ ["gt", "lt", "gte", "lte"] → ColumnKind.takes .uuid v = true) :
    OverKeys (.map [(.str name, v)]) := by
  have given {other : String} {w : Value}
      (h : (Entries.named [(name, v)]).get? other = some w) : name = other ∧ v = w := by
    simpa [Entries.get?_cons] using h
  refine .operators (List.cons_ne_nil (name, v) []) (List.nodup_singleton _) (by simpa) ?_
  constructor
  · intro other ho w hw
    obtain ⟨rfl, rfl⟩ := given hw
    exact equal ho
  · intro other ho w hw
    obtain ⟨rfl, rfl⟩ := given hw
    exact listed ho
  · intro other ho w hw
    obtain ⟨rfl, rfl⟩ := given hw
    exact ⟨ordered ho, ColumnKind.noConfusion⟩

/-- Whether a condition of a filter is also one in the store's vocabulary: all its operators are
shared, and none has null. -/
def isStoreCondition : Value → Bool
  | .map operators => operators.all fun entry =>
      OperatorFilter.sharedNames.any entry.1.isText && !entry.2.isNull
  | _ => true

theorem isStoreCondition_named {operators : List (String × Value)} :
    isStoreCondition (.map (Entries.named operators)) = true ↔
      ∀ entry ∈ operators, entry.1 ∈ OperatorFilter.sharedNames ∧ entry.2 ≠ .null := by
  have filled (v : Value) : v.isNull = false ↔ v ≠ .null := by
    cases v <;> simp [Value.isNull]
  simp [isStoreCondition, Entries.named, List.any_eq_true, filled]

/-! ### Reading -/

/-- There is no reference in a condition over keys. -/
theorem OverKeys.replaceReferences {v : Value} (keys : OverKeys v) (follow : List Entries → Value)
    (around : List Entries) : v.replaceReferences follow around = v := by
  cases keys with
  | key u => exact Value.replaceReferences_of_isScalar rfl
  | operators some distinct known fits =>
    rename_i operators
    rw [Value.replaceReferences, Value.replaceInEntries_eq_map, Entries.named, List.map_map]
    refine congrArg Value.map (List.map_congr_left fun entry he => ?_)
    have found : Entries.get? (Entries.named operators) entry.1 = .some entry.2 := by
      rw [Entries.get?_named]
      exact Entries.lookup_of_mem distinct he
    have same : Entries.get? (Value.replaceInEntries follow (Entries.named operators :: around)
        (Entries.named operators)) entry.1 = .some entry.2 :=
      (fits.get?_replaceInEntries (known entry he)).trans found
    rw [Value.get?_replaceInEntries, found] at same
    exact Prod.ext rfl (Option.some_inj.mp same)

/-- A filter without references is read as it is. -/
theorem read_named {filter : List (String × Value)} (distinct : (filter.map Prod.fst).Nodup)
    (plain : ∀ entry ∈ filter, ∀ follow around,
      entry.2.replaceReferences follow around = entry.2) :
    read (Entries.named filter) = .ok (Entries.named filter) := by
  have same : Entries.mapValues (Value.replaceReferences (Value.unfoldPlace timesFollowed)
      [Entries.named filter]) filter = filter := by
    refine (List.map_congr_left fun entry he => ?_).trans (List.map_id filter)
    rw [plain entry he]
    rfl
  rw [read, unfolded_named, same]
  exact textMapping_named _ distinct

/-- The clause that some membership meets a condition. -/
def clause (field : Field) (v : Value) : Entries :=
  [(.str membershipName, .map [(.str "some", .map (Entries.named [(field.label, v)]))])]

/-- A condition under a reserved name is compiled to a clause on memberships. -/
theorem compile_reserved {field : Field} (reserved : field ∈ [Field.companyId, Field.roleId])
    {v : Value} (asks : v.isTruthy = true) :
    compile ⟨membershipName, true⟩ (Entries.named [(field.label, v)]) = .ok (clause field v) := by
  simp only [List.mem_cons, List.not_mem_nil, or_false] at reserved
  have hoisted : membershipEntries (Entries.named [(field.label, v)]) =
      Entries.named [(field.label, v)] := by
    rcases reserved with rfl | rfl <;>
      simp [membershipEntries, reservedNames, Entries.getD, Entries.get?_cons, Field.label, asks]
  have rest : ordinaryEntries (Entries.named [(field.label, v)]) = [] := by
    rcases reserved with rfl | rfl <;> rfl
  rw [compile, hoisted, rest]
  rfl

end Filter

/-! ### Operators of both vocabularies -/

/-- What one of the shared operators asks of a cell. -/
def Cell.meetsShared (c : Cell) (name : String) (v : Value) : Bool :=
  match Comparison.ordered? name with
  | some comparison => c.versus comparison v
  | none => c.isOneOf v

section operators

variable {operators : List (String × Value)}

/-- If all operators are shared, an operator object asks what each of them does. -/
theorem Cell.meetsOperators_shared (c : Cell) (distinct : (operators.map Prod.fst).Nodup)
    (shared : ∀ entry ∈ operators, entry.1 ∈ OperatorFilter.sharedNames) :
    c.meetsOperators (Entries.named operators) =
      operators.all fun entry => c.meetsShared entry.1 entry.2 := by
  have absent (name : String) (hn : name ∉ OperatorFilter.sharedNames) :
      operators.lookup name = none := by
    rw [List.lookup_eq_none_iff]
    intro entry he
    rw [bne_iff_ne]
    rintro rfl
    exact hn (shared entry he)
  have each : (∀ entry ∈ operators, c.meetsShared entry.1 entry.2 = true) ↔
      ∀ name ∈ OperatorFilter.sharedNames, ∀ v, operators.lookup name = some v →
        c.meetsShared name v = true := by
    constructor
    · exact fun h name _ v hv => h (name, v) (Entries.mem_of_lookup hv)
    · rintro h ⟨name, v⟩ he
      exact h name (shared _ he) v (Entries.lookup_of_mem distinct he)
  rw [Bool.eq_iff_iff, List.all_eq_true, each]
  simp only [meetsOperators, Entries.get?_named, absent "eq" (by decide), absent "in_" (by decide),
    absent "nin" (by decide), absent "neq" (by decide)]
  simp [OperatorFilter.sharedNames, meetsShared, Comparison.ordered?, Option.all_eq_true, and_assoc]

variable {c : Column}

/-- A shared operator whose operand fits is a criterion that asks what the operator means. -/
theorem Criteria.shared_asks (fits : OperatorFilter.Fits c.kind (Entries.named operators))
    (distinct : (operators.map Prod.fst).Nodup) {entry : String × Value} (he : entry ∈ operators)
    (shared : entry.1 ∈ OperatorFilter.sharedNames) (given : entry.2 ≠ .null) :
    ∃ criterion, operator c (.str entry.1) entry.2 = .ok criterion ∧
      Ask c.field [criterion] fun cell => cell.meetsShared entry.1 entry.2 := by
  obtain ⟨name, v⟩ := entry
  have found : (Entries.named operators).get? name = some v := by
    rw [Entries.get?_named]
    exact Entries.lookup_of_mem distinct he
  have ordered (comparison : Comparison) (hc : Comparison.ordered? name = some comparison)
      (hn : name ∈ ["gt", "lt", "gte", "lte"])
      (unquoted : operator c (.str name) v = ordering c comparison v) :
      ∃ criterion, operator c (.str name) v = .ok criterion ∧
        Ask c.field [criterion] fun cell => cell.meetsShared name v := by
    obtain ⟨takes, flag⟩ := fits.ordered name hn v found
    obtain ⟨criterion, hcr, asks⟩ := ordering_ask takes flag
    refine ⟨criterion, unquoted.trans hcr, asks.congr fun cell => ?_⟩
    rw [Cell.meetsShared, hc]
  simp only [OperatorFilter.sharedNames, List.mem_cons, List.not_mem_nil, or_false] at shared
  rcases shared with rfl | rfl | rfl | rfl | rfl
  · rcases fits.listed "in" (by decide) v found with rfl | ⟨vs, rfl, h⟩
    · exact absurd rfl given
    · exact membership_ask true h
  · exact ordered .gt rfl (by decide) rfl
  · exact ordered .lt rfl (by decide) rfl
  · exact ordered .ge rfl (by decide) rfl
  · exact ordered .le rfl (by decide) rfl

/-- Operators that each ask something of a cell ask it together. -/
theorem Criteria.OperatorsAsk.all {p : String × Value → Cell → Bool}
    (h : ∀ entry ∈ operators, ∃ criterion, operator c (.str entry.1) entry.2 = .ok criterion ∧
      Ask c.field [criterion] (p entry)) :
    OperatorsAsk c (Entries.named operators) fun cell =>
      operators.all fun entry => p entry cell := by
  induction operators with
  | nil => exact OperatorsAsk.nil c
  | cons entry rest ih =>
    obtain ⟨criterion, hc, asks⟩ := h entry List.mem_cons_self
    exact (OperatorsAsk.singleton hc asks).append
      (ih fun other ho => h other (List.mem_cons_of_mem _ ho))

/-- An operator that is not shared, or has null as its operand, is refused by the store. -/
theorem Criteria.operator_error {name : String} {v : Value} (known : name ∈ OperatorFilter.names)
    (h : name ∉ OperatorFilter.sharedNames ∨ v = .null) :
    ∃ f, operator c (.str name) v = .error f := by
  simp only [OperatorFilter.names, List.mem_cons, List.not_mem_nil, or_false] at known
  rcases h with other | rfl
  · rcases known with rfl | rfl | rfl | rfl | rfl | rfl | rfl | rfl | rfl
    all_goals first
      | exact ⟨_, rfl⟩
      | exact absurd (by decide) other
  · rcases known with rfl | rfl | rfl | rfl | rfl | rfl | rfl | rfl | rfl <;> exact ⟨_, rfl⟩

end operators

namespace Filter

variable {c : Column} {v : Value}

/-- A condition over keys that is one in the store's vocabulary means there what it means in a
filter. -/
theorem OverKeys.asks (keys : OverKeys v) (kind : c.kind = .uuid)
    (understood : isStoreCondition v = true) :
    ∃ cs, ofColumn c v = .ok cs ∧ Ask c.field cs fun cell => cell.meets v := by
  cases keys with
  | key u =>
    have takes : c.kind.takes (.uuid u) = true := by rw [kind]; rfl
    exact ⟨_, ofColumn_scalar (.inr takes), ask_equality (.inr takes)⟩
  | operators some distinct known fits =>
    rw [isStoreCondition_named] at understood
    rw [← kind] at fits
    obtain ⟨cs, hcs, ask⟩ := OperatorsAsk.all fun entry he =>
      shared_asks fits distinct he (understood entry he).1 (understood entry he).2
    refine ⟨cs, hcs, ask.congr fun cell => ?_⟩
    exact (cell.meetsOperators_shared distinct fun entry he => (understood entry he).1).symm

/-- Any other condition over keys is refused by the store. -/
theorem OverKeys.ofColumn_error (keys : OverKeys v) (refused : isStoreCondition v = false) :
    ∃ f, ofColumn c v = .error f := by
  cases keys with
  | key u => cases refused
  | operators some distinct known fits =>
    rename_i operators
    rw [← Bool.not_eq_true, isStoreCondition_named] at refused
    simp only [not_forall, not_and_or, not_not] at refused
    obtain ⟨entry, he, other⟩ := refused
    obtain ⟨f, hf⟩ := operator_error (c := c) (known entry he) other
    cases h : ofColumn c (.map (Entries.named operators)) with
    | error f => exact ⟨f, rfl⟩
    | ok cs =>
      obtain ⟨criterion, -, found⟩ := (mem_of_mapM_eq_ok h).1 (.str entry.1, entry.2)
        (List.mem_map_of_mem he)
      cases found.symm.trans hf

/-! ### Users by their memberships -/

variable {s : Store} {field : Field}

/-- The column of a membership under a reserved name. -/
theorem column?_membership (reserved : field ∈ [Field.companyId, Field.roleId]) :
    Entity.membership.column? field.label = some ⟨field, .uuid, false, none⟩ := by
  simp only [List.mem_cons, List.not_mem_nil, or_false] at reserved
  rcases reserved with rfl | rfl <;> rfl

/-- Users lead to their memberships. -/
theorem exists_membershipRelation :
    ∃ r, Entity.user.relation? membershipName = some r ∧ r.target = .membership ∧ r.near = .id ∧
      r.remote = .userId := ⟨_, rfl, rfl, rfl, rfl⟩

/-- A condition that the store understands selects the users with a membership that meets it. -/
theorem OverKeys.means (keys : OverKeys v) (reserved : field ∈ [Field.companyId, Field.roleId])
    {r : Relation} (hr : Entity.user.relation? membershipName = some r)
    (understood : isStoreCondition v = true) :
    Means s .user (clause field v) fun row =>
      (s.related r row).any fun link => (link.cell field).meets v := by
  obtain ⟨cs, hcs, ds, hd, hold⟩ :=
    keys.asks (c := ⟨field, .uuid, false, none⟩) rfl understood
  refine means_some hr ((target_of_membershipName hr).symm ▸ ?_)
  exact Means.singleton ((ofEntry_column (column?_membership reserved)).trans hcs) hd (hold s)

/-- A clause with a condition that the store refuses makes no criteria. -/
theorem OverKeys.resolve_ne_ok (keys : OverKeys v)
    (reserved : field ∈ [Field.companyId, Field.roleId]) (refused : isStoreCondition v = false)
    (criteria : List (Criterion Operand)) : resolve .user (clause field v) ≠ .ok criteria := by
  intro h
  obtain ⟨r, hr, target, -⟩ := exists_membershipRelation
  obtain ⟨xs, -, hx, -, -⟩ := resolveEntries_cons_ok.mp h
  obtain ⟨inner, hi, -⟩ := (ofEntry_some_ok hr).mp hx
  rw [target] at hi
  obtain ⟨ys, -, hy, -, -⟩ := resolveEntries_cons_ok.mp hi
  rw [ofEntry_column (column?_membership reserved)] at hy
  obtain ⟨f, hf⟩ := keys.ofColumn_error (c := ⟨field, .uuid, false, none⟩) refused
  cases hf.symm.trans hy

theorem OverKeys.isTruthy (keys : OverKeys v) : v.isTruthy = true := by
  cases keys with
  | key u => rfl
  | operators some =>
    obtain ⟨entry, rest, rfl⟩ := List.exists_cons_of_ne_nil some
    rfl

variable {settings : Settings}

/-- Users are asked for by their memberships where the relation has its usual name. -/
theorem membership_users (relation : settings.membershipRelation = membershipName) :
    (Repository.standard settings .user).membership = ⟨membershipName, true⟩ := by
  have hoisted : (Entity.user.relation? membershipName).isSome = true := rfl
  rw [← hoisted, ← relation]
  rfl

/-- The conditions of a filter for users by a condition on their memberships. -/
theorem OverKeys.conditions?_users (keys : OverKeys v)
    (relation : settings.membershipRelation = membershipName)
    (reserved : field ∈ [Field.companyId, Field.roleId]) :
    (Repository.standard settings .user).conditions? (Entries.named [(field.label, v)]) =
      some (clause field v) := by
  have given : read (Entries.named [(field.label, v)]) = .ok (Entries.named [(field.label, v)]) :=
    read_named (List.nodup_singleton _) fun entry he => by
      rw [List.mem_singleton.mp he]
      exact keys.replaceReferences
  rw [Repository.conditions?, given, membership_users relation]
  exact toOption_eq_some.mpr (compile_reserved reserved keys.isTruthy)

/-- The criteria of a filter for the memberships of a user that meet a condition. -/
theorem OverKeys.criteria?_links (keys : OverKeys v)
    (relation : settings.membershipRelation = membershipName)
    (reserved : field ∈ [Field.companyId, Field.roleId]) (s : Session) (u : Uuid) :
    ∃ bound, (Repository.standard settings .membership).criteria?
        (Entries.named [("user_id", .uuid u), (field.label, v)]) = some bound ∧
      ∀ link, Criteria.hold s.working link bound =
        ((link.cell .userId).equals (.uuid u) && (link.cell field).meets v) := by
  have column := column?_membership reserved
  have distinct : ([("user_id", Value.uuid u), (field.label, v)].map Prod.fst).Nodup := by
    have names : ∀ f ∈ [Field.companyId, Field.roleId], ["user_id", f.label].Nodup := by decide
    exact names field reserved
  have fits : Fits .membership [("user_id", .uuid u), (field.label, v)] := by
    refine ⟨distinct, fun entry he => ?_⟩
    simp only [List.mem_cons, List.not_mem_nil, or_false] at he
    rcases he with rfl | rfl
    · exact .inl ⟨⟨.userId, .uuid, false, none⟩, rfl, rfl⟩
    · refine .inl ⟨_, column, ?_⟩
      cases keys with
      | key w => rfl
      | operators some distinct known fits => exact fits
  have given : read (Entries.named [("user_id", .uuid u), (field.label, v)]) =
      .ok (Entries.named [("user_id", .uuid u), (field.label, v)]) :=
    read_named distinct fun entry he => by
      simp only [List.mem_cons, List.not_mem_nil, or_false] at he
      rcases he with rfl | rfl
      · exact fun _ _ => Value.replaceReferences_of_isScalar rfl
      · exact keys.replaceReferences
  obtain ⟨compiled, hc, means⟩ := compile_means (s := s.working) relation fits
  have conditions : (Repository.standard settings .membership).conditions?
      (Entries.named [("user_id", .uuid u), (field.label, v)]) = some compiled := by
    rw [Repository.conditions?, given]
    exact toOption_eq_some.mpr hc
  obtain ⟨bound, hb, holds⟩ := Repository.criteria?_of_means conditions means
  refine ⟨bound, hb, fun link => ?_⟩
  have plain : Entity.membership.relation? membershipName = none := rfl
  have owner : Entity.membership.column? "user_id" = some ⟨.userId, .uuid, false, none⟩ := rfl
  simp [holds link, satisfied, hasMembership, meetsEntry, plain, owner, column, Cell.meets]

end Filter

/-! ### What is shown of a user -/

/-- Two records that are both shown by the same thing have the same values. -/
theorem Loaded.Shows.value_eq {e : Entity} {x : Loaded} {a b : Row} (ha : x.Shows e a)
    (hb : x.Shows e b) {c : Column} (hc : c ∈ e.columns) : a.value c.field = b.value c.field := by
  obtain ⟨_, rfl⟩ := ha
  obtain ⟨_, hb⟩ := hb
  rw [Loaded.record.injEq] at hb
  have same := List.map_inj_left.mp hb.2.1 c hc
  exact congrArg Prod.snd same

/-- In a table with keys, a record is shown among others exactly if it is one of them. -/
theorem KeyedRows.shown_iff_mem {e : Entity} {table rows : List Row} {xs : List Loaded}
    (keyed : KeyedRows table) (shown : List.Forall₂ (Loaded.Shows e) rows xs)
    (inside : ∀ row ∈ rows, row ∈ table) {row : Row} (hrow : row ∈ table) :
    (∃ x ∈ xs, x.Shows e row) ↔ row ∈ rows := by
  induction shown with
  | nil => simp
  | @cons other x rest xs here _ ih =>
    have rest := ih fun row hrow => inside row (List.mem_cons_of_mem _ hrow)
    have first : x.Shows e row ↔ row = other := by
      constructor
      · intro h
        have ho := inside other List.mem_cons_self
        obtain ⟨a, ha⟩ := keyed.key row hrow
        obtain ⟨b, hb⟩ := keyed.key other ho
        have same : row.id.value = other.id.value := h.value_eq here e.mem_keyColumn
        rw [ha, hb, Cell.value, Cell.value, Value.uuid.injEq] at same
        exact keyed.eq_of_id hrow ho (by rw [ha, hb, same])
      · rintro rfl
        exact here
    simp only [List.mem_cons, exists_eq_or_imp, first, rest]

theorem LoadPlan.present_eq_nil {s : Store} {e : Entity} {plan : LoadPlan} {rows : List Row} :
    present s e plan rows = [] ↔ rows = [] := by
  simp [present]

/-! ### Both ways -/

namespace Repository

/-- The reply to a call for the memberships of a user whose company or role meets a condition. -/
def membershipsOf (c : Context) (s : Session) (user : Row) (field : Field) (v : Value) : Reply :=
  ((standard c.settings .membership).get c s
    (.map (Entries.named [("user_id", user.value .id), (field.label, v)])) .null .null).1

/-- The reply to a call for users by the same condition. -/
def usersBy (c : Context) (s : Session) (field : Field) (v : Value) : Reply :=
  ((standard c.settings .user).get c s (.map (Entries.named [(field.label, v)])) .null .null).1

end Repository

open Repository (membershipsOf usersBy)

/-- A cell for keys equals a key exactly if it holds it. -/
theorem Cell.KeyIfAny.equals_iff {cell : Cell} (h : cell.KeyIfAny) {u : Uuid} :
    cell.equals (.uuid u) = true ↔ cell = .key u := by
  cases he : cell.isEmpty with
  | true =>
    cases cell with
    | empty => simp [Cell.equals, Value.isNull]
    | _ => cases he
  | false =>
    obtain ⟨w, rfl⟩ := h he
    simp

/-- The memberships that a user leads to are those that refer to the key of the user. -/
theorem Store.Keyed.mem_related_user {s : Store} (keyed : s.Keyed) {r : Relation}
    (hr : Entity.user.relation? Filter.membershipName = some r) {user : Row} {u : Uuid}
    (hu : user.id = .key u) {link : Row} :
    link ∈ s.related r user ↔
      link ∈ s.rows .membership ∧ (link.cell .userId).equals (.uuid u) = true := by
  obtain ⟨_, hr', target, near, remote⟩ := Filter.exists_membershipRelation
  cases hr.symm.trans hr'
  have key : user.cell r.near = .key u := near ▸ hu
  simp only [related, key, target, remote, Cell.isEmpty, Bool.false_eq_true, if_false,
    List.mem_filter, decide_eq_true_eq]
  refine and_congr_right fun hl => ?_
  exact ((keyed.references .membership link hl ⟨.userId, .uuid, false, none⟩ (by decide)
    rfl).equals_iff).symm

/-- **A condition on the company or the role of memberships, asked of users.** If the memberships of
a user can be asked for by it, and it is a condition in the store's vocabulary as it is, then users
can be asked for by it too, and the user is among them exactly if there are such memberships. If it
is not, the call for users fails. -/
theorem reserved_condition_agrees (c : Context) (s : Session) {user : Row} {field : Field}
    {v : Value} (relation : c.settings.membershipRelation = Filter.membershipName)
    (keyed : s.working.Keyed) (present : user ∈ s.working.rows .user)
    (reserved : field ∈ [Field.companyId, Field.roleId]) (keys : Filter.OverKeys v)
    (answered : (membershipsOf c s user field v).isSuccess = true) :
    ∃ links, membershipsOf c s user field v = Envelope.success (.records links) 200 ∧
      (Filter.isStoreCondition v = true →
        ∃ users, usersBy c s field v = Envelope.success (.records users) 200 ∧
          ((∃ x ∈ users, x.Shows .user user) ↔ links ≠ [])) ∧
      (Filter.isStoreCondition v = false → (usersBy c s field v).isSuccess = false) := by
  obtain ⟨u, hu⟩ := (keyed.rows .user).key user present
  have id : user.value .id = .uuid u := by
    rw [show user.value .id = user.id.value from rfl, hu]
    rfl
  have active := (Repository.get_success answered).1
  obtain ⟨bound, hb, holds⟩ := keys.criteria?_links relation reserved s u
  rw [← id] at hb
  refine ⟨_, Repository.get_of_parts active hb Repository.sortKeys?_null rfl, ?_, ?_⟩
  · intro understood
    obtain ⟨r, hr, -⟩ := Filter.exists_membershipRelation
    obtain ⟨found, hf, selected⟩ := Repository.criteria?_of_means
      (keys.conditions?_users relation reserved)
      (keys.means (s := s.working) reserved hr understood)
    refine ⟨_, Repository.get_of_parts active hf Repository.sortKeys?_null rfl, ?_⟩
    have shown := (keyed.rows .user).shown_iff_mem
      (LoadPlan.shows_present s.working .user [] (Select.rows s.working .user found []))
      (fun row hrow => (Select.mem_rows.mp hrow).1) present
    rw [Select.mem_rows, selected, List.any_eq_true] at shown
    refine shown.trans ?_
    rw [ne_eq, LoadPlan.present_eq_nil, List.eq_nil_iff_forall_not_mem, not_forall_not]
    simp only [Select.mem_rows, holds, Bool.and_eq_true, keyed.mem_related_user hr hu, present,
      true_and, and_assoc]
    rfl
  · intro refused
    by_contra found
    rw [Bool.not_eq_false] at found
    obtain ⟨-, users, -, -, hc, -⟩ := Repository.get_success found
    obtain ⟨criteria, hc, -⟩ := Repository.criteria?_eq_some.mp hc
    rw [Repository.resolved?, keys.conditions?_users relation reserved] at hc
    exact keys.resolve_ne_ok reserved refused criteria (toOption_eq_some.mp hc)

/-- In the sample store, users are found by a list of companies as their memberships are. -/
theorem reserved_condition_agrees_sample :
    let c : Context := Script.context {} 1
    let s := Session.start Sample.store false
    let user := Sample.users[2]
    let v : Value := .map [(.str "in", .list [.uuid (Uuid.ofNat 0x400080000000000000c2)])]
    s.working.Keyed ∧ user ∈ s.working.rows .user ∧ Filter.OverKeys v ∧
      (membershipsOf c s user .companyId v).isSuccess = true ∧
      Filter.isStoreCondition v = true ∧
      ∃ links, membershipsOf c s user .companyId v = Envelope.success (.records links) 200 ∧
        (Filter.isStoreCondition v = true →
          ∃ users, usersBy c s .companyId v = Envelope.success (.records users) 200 ∧
            ((∃ x ∈ users, x.Shows .user user) ↔ links ≠ [])) ∧
        (Filter.isStoreCondition v = false → (usersBy c s .companyId v).isSuccess = false) := by
  intro c s user v
  have keyed : s.working.Keyed := Sample.keyed_store
  have present : user ∈ s.working.rows .user := List.getElem_mem _
  have keys : Filter.OverKeys v := by
    refine .single (by decide) (absurd · (by decide)) (fun _ => .inr ⟨_, rfl, ?_⟩)
      (absurd · (by decide))
    simp [ColumnKind.takesAll, ColumnKind.takes]
  have answered : (membershipsOf c s user .companyId v).isSuccess = true := by rfl
  exact ⟨keyed, present, keys, answered, rfl,
    reserved_condition_agrees c s rfl keyed present List.mem_cons_self keys answered⟩

/-- The same user has a membership that equals the company by an operator object, which is no
condition for users. -/
theorem reserved_equality_refused :
    let c : Context := Script.context {} 1
    let s := Session.start Sample.store false
    let user := Sample.users[2]
    let v : Value := .map [(.str "eq", .uuid (Uuid.ofNat 0x400080000000000000c2))]
    user ∈ s.working.rows .user ∧ Filter.OverKeys v ∧
      (membershipsOf c s user .companyId v).isSuccess = true ∧
      (usersBy c s .companyId v).isSuccess = false := by
  intro c s user v
  have keys : Filter.OverKeys v :=
    .single (by decide) (fun _ => .inr rfl) (absurd · (by decide)) (absurd · (by decide))
  exact ⟨List.getElem_mem _, keys, by rfl, by rfl⟩

end Recordbook

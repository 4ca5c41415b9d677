import Recordbook.Proofs.OtherRelations

/-!
# Look-ups stay in their scope

Some kinds of records have look-ups of their own, which are given the company or the user that the
records should belong to. They hand what they are given to a filter, so a look-up stays in its scope
exactly as far as the filter takes the argument for a condition. A scalar is the condition of
equality, and a list of statuses that of being one of them; then no record outside of the scope is
answered with, whatever is in the store.

Everything else that is no operator object is no condition at all, null among it: a look-up by
status without a company ranges over all companies. The look-up of the members of a company is the
exception. It asks for a clause on memberships, and where there is no company to ask for it fails.

## Main definitions

* `Session.Finds` — a reply is about records of a table, all with some property
* `Row.InScope` — a record equals an argument, where that is a condition
* `Filter.isSkipped` — an argument is no condition

## Main results

* `Repository.Selects.inScope` — what a filter selects equals each scalar in it
* `lookups_stay_in_scope` — the look-ups and their scopes
-/

namespace Recordbook

open Criteria

/-- A reply is about records of a table, none more often than it is there, and all of them have a
property. -/
def Session.Finds (s : Session) (e : Entity) (reply : Reply) (property : Row → Prop) : Prop :=
  ∃ rows, reply.output.About e rows ∧ rows.Subperm (s.working.rows e) ∧ ∀ row ∈ rows, property row

/-- A record equals an argument in the column of a name, where the argument is a scalar. -/
def Row.InScope (row : Row) (e : Entity) (name : String) (v : Value) : Prop :=
  ∃ column, e.column? name = some column ∧ (Filter.isScalar v = true → row.Has column v)

/-- A record equals one of some items in the column of a name, bound like the first of them. -/
def Row.EqualsItem (row : Row) (e : Entity) (name : String) (items : List Value) : Prop :=
  ∃ column, e.column? name = some column ∧ ∃ item ∈ items, ∃ d,
    (Operand.mk (.ofOperand column.kind (items.head?.getD .null)) item).process = .ok (.bound d) ∧
      compares (row.cell column.field) .eq d = true

/-- Whether a value is a mapping or leads to one. -/
def Value.leadsToMapping : Value → Bool
  | .map _ => true
  | .up _ => true
  | _ => false

/-- Whether a value is no condition in a filter: neither a scalar nor an operator object. -/
def Filter.isSkipped (v : Value) : Bool := !isScalar v && !v.leadsToMapping

/-! ### Operands -/

theorem Binding.ofOperand_of_isComposite (k : ColumnKind) {v : Value} (h : v.isComposite = true) :
    ofOperand k v = ofColumn k := by
  cases v <;> first | rfl | cases h

/-- Following references does not change the rule by which a value is bound. -/
theorem Binding.ofOperand_unfold (k : ColumnKind) {times : Nat} {around : List Entries}
    (v : Value) : ofOperand k (v.unfold times around) = ofOperand k v := by
  cases composite : (v.unfold times around).isComposite with
  | false => rw [Value.eq_of_unfold composite]
  | true =>
    have before : v.isComposite = true := by
      cases v with
      | list | tuple | map | model | up => rfl
      | _ => simp [Value.unfold, Value.replaceReferences, Value.isComposite] at composite
    rw [ofOperand_of_isComposite k composite, ofOperand_of_isComposite k before]

/-- What a list of operands is bound to comes of the operands, one by one. -/
theorem Criteria.bind_within_ok {field : Field} {wanted : Bool} {os : List Operand}
    {ds : List (Criterion Datum)} (h : bind [.within field wanted os] = .ok ds) :
    ∃ data, ds = [.within field wanted data] ∧
      ∀ d ∈ data, ∃ o ∈ os, o.process = .ok (.bound d) := by
  obtain ⟨_, _, processed, accepted, rfl⟩ := bind_singleton_ok.mp h
  obtain ⟨parameters, hp, rfl⟩ := map_eq_ok.mp processed
  obtain ⟨data, hd, rfl⟩ := map_eq_ok.mp accepted
  refine ⟨data, rfl, fun d hm => ?_⟩
  obtain ⟨parameter, hq, taken⟩ := (mem_of_mapM_eq_ok hd).2 d hm
  obtain ⟨o, ho, process⟩ := (mem_of_mapM_eq_ok hp).2 parameter hq
  rw [accept_ok.mp taken] at process
  exact ⟨o, ho, process⟩

/-- A record that meets the condition of a value on a column has the value. -/
theorem Criteria.has_of_ofColumn {c : Column} {v : Value} {criteria : List (Criterion Operand)}
    {bound : List (Criterion Datum)} {s : Store} {row : Row} (plain : v.isMap = false)
    (some : v.isNull = false) (resolved : ofColumn c v = .ok criteria)
    (hb : bind criteria = .ok bound) (holds : hold s row bound = true) :
    v.isComposite = false ∧ row.Has c v := by
  have equal : criteria = [equality c v] := by
    cases v <;> first | (cases resolved; rfl) | cases plain
  rw [equal] at hb
  obtain ⟨scalar, has⟩ := hold_equality some hb
  exact ⟨scalar, (has s row).mp holds⟩

/-! ### Conditions of a filter -/

namespace Filter

variable {given : List (String × Value)} {done compiled : Entries} {name : String} {v w : Value}

/-- A mapping from distinct texts is read name by name. -/
theorem read_values (given : List (String × Value)) (distinct : (given.map Prod.fst).Nodup) :
    read (Entries.named given) = .ok (Entries.named
      (Entries.mapValues (Value.unfold timesFollowed [Entries.named given]) given)) := by
  have names : ((Entries.mapValues (Value.unfold timesFollowed [Entries.named given]) given).map
      Prod.fst).Nodup := by
    rw [Entries.mapValues, List.map_map]
    exact distinct
  rw [read, unfolded_named]
  exact textMapping_named _ names

/-- The condition that an entry is compiled to stays under its name. -/
theorem mem_compileEntries (h : compileEntries done (Entries.named given) = .ok compiled)
    (distinct : (given.map Prod.fst).Nodup) (hm : (name, v) ∈ given)
    (hw : compileEntry (.str name) v = .ok (some w)) : (.str name, w) ∈ compiled := by
  induction given generalizing done with
  | nil => cases hm
  | cons entry rest ih =>
    obtain ⟨other, u⟩ := entry
    obtain ⟨absent, distinct⟩ := List.nodup_cons.mp distinct
    obtain ⟨condition, hc, h⟩ := bind_eq_ok.mp h
    rcases List.mem_cons.mp hm with here | later
    · cases here
      cases hc.symm.trans hw
      refine Entries.mem_of_get? ?_
      rw [get?_compileEntries_of_absent h absent, Entries.get?_put, if_pos (by simp)]
    · exact ih h distinct later

/-- An entry that is no condition leaves the others as they are. -/
theorem compileEntries_append_skipped {before after : List (String × Value)}
    (skipped : compileEntry (.str name) v = .ok none) :
    compileEntries done (Entries.named (before ++ (name, v) :: after)) =
      compileEntries done (Entries.named (before ++ after)) := by
  induction before generalizing done with
  | nil =>
    rw [List.nil_append, List.nil_append, Entries.named_cons, compileEntries, skipped]
    rfl
  | cons entry before ih =>
    obtain ⟨other, w⟩ := entry
    simp only [List.cons_append, Entries.named_cons, compileEntries, ih]

theorem compileEntry_of_isSkipped (skipped : isSkipped v = true) {times : Nat}
    {around : List Entries} : compileEntry (.str name) (v.unfold times around) = .ok none := by
  cases v with
  | map entries => cases skipped
  | up levels => cases skipped
  | null => simp [Value.unfold, compileEntry, isScalar]
  | list items => simp [Value.unfold, Value.replaceReferences, compileEntry, isScalar]
  | tuple items => simp [Value.unfold, Value.replaceReferences, compileEntry, isScalar]
  | model fields given => simp [Value.unfold, Value.replaceReferences, compileEntry, isScalar]
  | bytes bs => simp [Value.unfold, Value.replaceReferences, compileEntry, isScalar]
  | object => simp [Value.unfold, Value.replaceReferences, compileEntry, isScalar]
  | _ => cases skipped

end Filter

namespace Repository.Selects

variable {r : Repository} {s : Session} {filter : List (String × Value)} {name : String}
  {v : Value} {row : Row} {c : Column}

/-- The condition of an entry on a column holds of every record that the filter selects, where no
name is reserved. -/
theorem condition (selected : r.Selects s (Entries.named filter) row) (plain : r.Plain)
    (columns : ∀ entry ∈ filter, (r.entity.column? entry.1).isSome = true)
    (distinct : (filter.map Prod.fst).Nodup) (hm : (name, v) ∈ filter)
    (hc : r.entity.column? name = some c) {w : Value}
    (hw : Filter.compileEntry (.str name)
      (v.unfold Filter.timesFollowed [Entries.named filter]) = .ok (some w)) :
    ∃ criteria bound, ofColumn c w = .ok criteria ∧ Criteria.bind criteria = .ok bound ∧
      hold s.working row bound = true := by
  obtain ⟨-, given, compiled, criteria, bound, read, compile, resolved, hb, holds⟩ := selected
  cases (Filter.read_values _ distinct).symm.trans read
  have compiled := Filter.compile_of_resolved plain (fun entry he => by
    obtain ⟨given, hg, rfl⟩ := List.mem_map.mp he
    exact columns given hg) compile resolved
  have stays := Filter.mem_compileEntries compiled (by
    rw [Entries.mapValues, List.map_map]
    exact distinct) (List.mem_map.mpr ⟨(name, v), hm, rfl⟩) hw
  obtain ⟨as, bs, ha, hbs, hold⟩ := hold_of_mem (s := s.working) resolved hb stays
  rw [ofEntry_column hc] at ha
  exact ⟨as, bs, ha, hbs, hold row holds⟩

/-- **Scalars.** A record that a filter selects equals each scalar in the filter. -/
theorem inScope (selected : r.Selects s (Entries.named filter) row) (plain : r.Plain)
    (columns : ∀ entry ∈ filter, (r.entity.column? entry.1).isSome = true)
    (distinct : (filter.map Prod.fst).Nodup) (hm : (name, v) ∈ filter)
    (hc : r.entity.column? name = some c) :
    row.InScope r.entity name v := by
  refine ⟨c, hc, fun scalar => ?_⟩
  have unchanged : v.unfold Filter.timesFollowed [Entries.named filter] = v :=
    Value.replaceReferences_of_isScalar scalar
  obtain ⟨criteria, bound, resolved, hb, holds⟩ :=
    selected.condition plain columns distinct hm hc (w := v)
      (by rw [unchanged]; exact if_pos scalar)
  have kind : v.isMap = false ∧ v.isNull = false := by
    cases v <;> first | exact ⟨rfl, rfl⟩ | cases scalar
  exact (has_of_ofColumn kind.1 kind.2 resolved hb holds).2

/-- **Lists of items.** A record that a filter selects equals an item of each list that it gives. -/
theorem equalsItem {items : List Value} (selected : r.Selects s (Entries.named filter) row)
    (plain : r.Plain) (columns : ∀ entry ∈ filter, (r.entity.column? entry.1).isSome = true)
    (distinct : (filter.map Prod.fst).Nodup)
    (hm : (name, .map [(.str "in", .list items)]) ∈ filter)
    (hc : r.entity.column? name = some c) : row.EqualsItem r.entity name items := by
  let around := [[(.str "in", .list items)], Entries.named filter]
  let read := items.map fun item => item.unfold Filter.timesFollowed around
  have unfolded : (Value.map [(.str "in", .list items)]).unfold Filter.timesFollowed
      [Entries.named filter] = .map [(.str "in", .list read)] := by
    simp only [Value.unfold, Value.replaceReferences, Value.replaceInEntries,
      Value.replaceInItems_eq_map, read, around]
  obtain ⟨criteria, bound, resolved, hb, holds⟩ := selected.condition plain columns distinct hm hc
    (w := .map [(.str "in", .list read)]) (by rw [unfolded]; rfl)
  cases resolved
  obtain ⟨data, rfl, bindings⟩ := bind_within_ok hb
  rw [hold_cons, hold_nil, Bool.and_true, Criteria.holds, if_pos rfl, isWithin,
    List.any_eq_true] at holds
  obtain ⟨d, hd, equal⟩ := holds
  obtain ⟨operand, ho, process⟩ := bindings d hd
  obtain ⟨_, hr, rfl⟩ := List.mem_map.mp ho
  obtain ⟨item, hi, rfl⟩ := List.mem_map.mp hr
  refine ⟨c, hc, item, hi, d, ?_, equal⟩
  have same : item.unfold Filter.timesFollowed around = item :=
    Value.eq_of_unfold (isComposite_of_process process)
  have rule : Binding.ofOperand c.kind (read.head?.getD .null) =
      .ofOperand c.kind (items.head?.getD .null) := by
    cases items with
    | nil => rfl
    | cons first rest => exact Binding.ofOperand_unfold c.kind first
  rw [← rule]
  rwa [same] at process

end Repository.Selects

/-! ### Members of a company -/

section users

variable {c : Context} {companyId : Value} {q : CompiledQuery}

/-- The clause that some membership in a company is active. -/
def Filter.activeClause (v : Value) : Entries :=
  [(.str membershipName, .map [(.str "some",
    .map [(.str "company_id", v), (.str "is_active", .bool true)])])]

theorem Filter.activeOnly_clause (v : Value) :
    Repository.activeOnly membershipName (clause .companyId v) = .ok (activeClause v) := rfl

/-- The query for the active members of a company asks for a membership in it. Without a company to
ask for there is no such query. -/
theorem Repository.filter_of_activeMembers
    (relation : c.settings.membershipRelation = Filter.membershipName)
    (h : (standard c.settings .user).activeMembers c companyId = .ok q) :
    ∃ v, v = companyId.unfold Filter.timesFollowed [Entries.named [("company_id", companyId)]] ∧
      v.isTruthy = true ∧ q.filter = Filter.activeClause v := by
  have membership := Filter.membership_users relation
  obtain ⟨compiled, hq, h⟩ := bind_eq_ok.mp h
  obtain ⟨filter, active, h⟩ := bind_eq_ok.mp h
  cases pure_eq_ok.mp h
  obtain ⟨given, read, compile⟩ := filter_of_compile hq
  have values : Filter.read [(.str "company_id", companyId)] = _ :=
    Filter.read_values [("company_id", companyId)] (List.nodup_singleton _)
  cases values.symm.trans read
  rw [membership] at compile active
  simp only [Entries.mapValues, List.map_cons, List.map_nil] at compile
  refine ⟨_, rfl, ?_⟩
  generalize companyId.unfold Filter.timesFollowed [Entries.named [("company_id", companyId)]] = v
    at compile ⊢
  cases asked : v.isTruthy with
  | true =>
    have clause : Filter.compile ⟨Filter.membershipName, true⟩
        (Entries.named [("company_id", v)]) = .ok (Filter.clause .companyId v) :=
      Filter.compile_reserved List.mem_cons_self asked
    rw [← Except.ok.inj (clause.symm.trans compile)] at active
    exact ⟨rfl, Except.ok.inj (active.symm.trans (Filter.activeOnly_clause v))⟩
  | false =>
    have none : Filter.membershipEntries (Entries.named [("company_id", v)]) = [] := by
      simp [Filter.membershipEntries, Filter.reservedNames, Entries.getD, Entries.get?_cons, asked]
    rw [Filter.compile, none, if_neg (by simp)] at compile
    have absent : compiled.filter.get? Filter.membershipName = _ :=
      Filter.get?_compileEntries_of_absent compile (by simp [Filter.membershipName])
    rw [Repository.activeOnly, absent] at active
    cases active

/-- A value that does not lead to a mapping is none once its references are followed. -/
theorem Value.isMap_unfold {v : Value} (h : v.leadsToMapping = false) (times : Nat)
    (around : List Entries) : (v.unfold times around).isMap = false := by
  cases v with
  | map entries => cases h
  | up levels => cases h
  | _ => simp [unfold, replaceReferences, isMap]

/-- Users who meet the clause have an active membership in the company. -/
theorem Filter.exists_link_of_activeClause {s : Store} {v : Value}
    {criteria : List (Criterion Operand)} {bound : List (Criterion Datum)} {user : Row}
    (asked : v.isTruthy = true) (hc : resolve .user (activeClause v) = .ok criteria)
    (hb : Criteria.bind criteria = .ok bound) (holds : hold s user bound = true) :
    ∃ link ∈ s.rows .membership, link.cell .userId = user.id ∧
      link.InScope .membership "is_active" (.bool true) ∧
      (v.isMap = false → v.isComposite = false ∧
        ∃ column, Entity.membership.column? "company_id" = some column ∧ link.Has column v) := by
  obtain ⟨r, hr, target, near, remote⟩ := exists_membershipRelation
  obtain ⟨as, bs, ha, hbs, only⟩ := hold_of_mem (s := s) hc hb List.mem_cons_self
  obtain ⟨inner, hi, rfl⟩ := (ofEntry_some_ok hr).mp ha
  obtain ⟨ds, hd, rfl⟩ := bind_related_ok.mp hbs
  have found := only user holds
  rw [hold_cons, hold_nil, Bool.and_true, Criteria.holds, beq_true, List.any_eq_true] at found
  obtain ⟨link, hl, carries⟩ := found
  rw [Store.related, target, near, remote] at hl
  split at hl
  · cases hl
  · obtain ⟨present, own⟩ := List.mem_filter.mp hl
    rw [target] at hi
    have column (name : String) {c : Column} (hn : Entity.membership.column? name = some c)
        {w : Value} (hm : (.str name, w) ∈ [(Value.str "company_id", v), (.str "is_active",
          .bool true)]) (plain : w.isMap = false) (some : w.isNull = false) :
        w.isComposite = false ∧ link.Has c w := by
      obtain ⟨as, bs, ha, hbs, only⟩ := hold_of_mem (s := s) hi hd hm
      rw [ofEntry_column hn] at ha
      exact has_of_ofColumn plain some ha hbs (only link carries)
    refine ⟨link, present, of_decide_eq_true own, ⟨_, rfl, fun _ => ?_⟩, fun plain => ?_⟩
    · exact (column "is_active" rfl (List.mem_cons_of_mem _ List.mem_cons_self) rfl rfl).2
    · have some : v.isNull = false := by
        cases v <;> first | rfl | cases asked
      obtain ⟨scalar, has⟩ := column "company_id" rfl List.mem_cons_self plain some
      exact ⟨scalar, _, rfl, has⟩

end users

/-! ### The look-ups -/

namespace Repository

variable {r : Repository} {c : Context} {s : Session}

/-- Reserved names are reserved where there are memberships. -/
theorem hoisted_standard {settings : Settings} (e : Entity)
    (relation : settings.membershipRelation = Filter.membershipName) :
    (standard settings e).membership.hoisted = (e.relation? Filter.membershipName).isSome := by
  rw [← relation]
  rfl

theorem lookUp_eq_get (filters : Entries) (order tree : Value) :
    (r.lookUp c s filters order tree).1 = (r.get c s (.map filters) order tree).1 :=
  report_congr ..

theorem finds_of_answers {filters : Entries} {reply : Reply} {property : Row → Prop}
    (answers : r.Answers s filters reply)
    (h : ∀ row, r.Selects s filters row → property row) : s.Finds r.entity reply property := by
  obtain ⟨rows, about, some, selected⟩ := answers
  exact ⟨rows, about, some, fun row hrow => h row (selected row hrow)⟩

/-- An argument that is no condition makes no difference beside scalars. -/
theorem compile_skipped (before after : List (String × Value)) {name : String} {v : Value}
    (plain : r.membership.hoisted = false)
    (distinct : ((before ++ (name, v) :: after).map Prod.fst).Nodup)
    (skipped : Filter.isSkipped v = true)
    (scalars : ∀ entry ∈ before ++ after, Filter.isScalar entry.2 = true) (settings : Settings)
    (order tree : Value) :
    r.compile settings (.map (Entries.named (before ++ (name, v) :: after))) order tree =
      r.compile settings (.map (Entries.named (before ++ after))) order tree := by
  have unchanged (around : List Entries) {entries : List (String × Value)}
      (h : ∀ entry ∈ entries, Filter.isScalar entry.2 = true) :
      Entries.mapValues (Value.unfold Filter.timesFollowed around) entries = entries := by
    refine (List.map_congr_left fun entry he => ?_).trans (List.map_id _)
    exact Prod.ext rfl (Value.replaceReferences_of_isScalar (h entry he))
  have sub : (before ++ after).Sublist (before ++ (name, v) :: after) :=
    (List.sublist_cons_self ..).append_left before
  refine compile_congr (Filter.read_values _ distinct)
    (Filter.read_values _ ((sub.map Prod.fst).nodup distinct)) ?_ settings order tree
  rw [Filter.compile, Filter.compile, plain, Bool.false_and, Bool.false_and,
    if_neg Bool.false_ne_true, if_neg Bool.false_ne_true, unchanged _ scalars]
  generalize [Entries.named (before ++ (name, v) :: after)] = around
  have values : Entries.mapValues (Value.unfold Filter.timesFollowed around)
      (before ++ (name, v) :: after) =
        before ++ (name, v.unfold Filter.timesFollowed around) :: after := by
    rw [Entries.mapValues, List.map_append, List.map_cons]
    exact congrArg₂ _ (unchanged around fun entry he => scalars entry (List.mem_append_left _ he))
      (congrArg _ (unchanged around fun entry he => scalars entry (List.mem_append_right _ he)))
  rw [values, Filter.compileEntries_append_skipped (Filter.compileEntry_of_isSkipped skipped)]

theorem get_skipped (before after : List (String × Value)) {name : String} {v : Value}
    (plain : r.membership.hoisted = false)
    (distinct : ((before ++ (name, v) :: after).map Prod.fst).Nodup)
    (skipped : Filter.isSkipped v = true)
    (scalars : ∀ entry ∈ before ++ after, Filter.isScalar entry.2 = true) (order tree : Value) :
    (r.get c s (.map (Entries.named (before ++ (name, v) :: after))) order tree).1 =
      (r.get c s (.map (Entries.named (before ++ after))) order tree).1 := by
  rw [get, get, all, all, compile_skipped before after plain distinct skipped scalars]
  exact report_congr ..

theorem getOne_skipped (before after : List (String × Value)) {name : String} {v : Value}
    (plain : r.membership.hoisted = false)
    (distinct : ((before ++ (name, v) :: after).map Prod.fst).Nodup)
    (skipped : Filter.isSkipped v = true)
    (scalars : ∀ entry ∈ before ++ after, Filter.isScalar entry.2 = true) (tree : Value) :
    (r.getOne c s (.map (Entries.named (before ++ (name, v) :: after))) tree).1 =
      (r.getOne c s (.map (Entries.named (before ++ after))) tree).1 := by
  rw [getOne, getOne, first, first, compile_skipped before after plain distinct skipped scalars]
  exact report_congr ..

/-- A status is asked for as it is, unless it is a list. -/
theorem inScope_of_statusFilter {row : Row} {e : Entity} {name : String} {status : Value}
    (h : row.InScope e name (statusFilter status)) : row.InScope e name status := by
  cases status with
  | list items =>
    obtain ⟨column, hc, -⟩ := h
    exact ⟨column, hc, nofun⟩
  | _ => exact h

/-- A look-up by columns finds records in its scope. -/
theorem finds_inScope {e : Entity} (filter : List (String × Value)) (names : List String)
    {reply : Reply} (answers : (standard c.settings e).Answers s (Entries.named filter) reply)
    (kind : e ∈ [.card, .wallet, .membership]) (given : filter.map Prod.fst = names)
    (distinct : names.Nodup)
    (columns : ∀ name ∈ names, (e.column? name).isSome = true) :
    s.Finds e reply fun row =>
      (∀ entry ∈ filter, row.InScope e entry.1 entry.2) ∧
      ∀ name items, (name, .map [(.str "in", .list items)]) ∈ filter →
        row.EqualsItem e name items := by
  subst given
  have plain := plain_standard c.settings kind
  have columns : ∀ entry ∈ filter, (e.column? entry.1).isSome = true := fun entry he =>
    columns _ (List.mem_map_of_mem he)
  refine finds_of_answers answers fun row selected => ⟨fun entry he => ?_, fun name items hm => ?_⟩
  · obtain ⟨column, hc⟩ := Option.isSome_iff_exists.mp (columns _ he)
    exact selected.inScope plain columns distinct he hc
  · obtain ⟨column, hc⟩ := Option.isSome_iff_exists.mp (columns _ hm)
    exact selected.equalsItem plain columns distinct hm hc

theorem finds_mono {e : Entity} {reply : Reply} {p q : Row → Prop} (h : s.Finds e reply p)
    (weaker : ∀ row ∈ s.working.rows e, p row → q row) : s.Finds e reply q := by
  obtain ⟨rows, about, some, found⟩ := h
  exact ⟨rows, about, some, fun row hrow => weaker row (some.subset hrow) (found row hrow)⟩

/-- A call that answers with records, but finds none with any property, found nothing. -/
theorem matching_eq_nil_of_finds {filters : Entries} {order tree : Value}
    {bound : List (Criterion Datum)} (hc : r.criteria? filters = some bound)
    (answered : (r.get c s (.map filters) order tree).1.isSuccess = true)
    (finds : s.Finds r.entity (r.get c s (.map filters) order tree).1 fun _ => False) :
    Select.matching s.working r.entity bound = [] := by
  obtain ⟨-, bound', keys, branches, hc', -, -, shown⟩ := get_success answered
  cases hc.symm.trans hc'
  obtain ⟨rows, about, -, nobody⟩ := finds
  cases List.eq_nil_iff_forall_not_mem.mpr nobody
  rw [shown] at about
  generalize hs : LoadPlan.present .. = xs at about
  cases about with
  | records shows =>
    cases shows
    rw [← List.length_eq_zero_iff, ← Select.length_rows keys, LoadPlan.present_eq_nil.mp hs]
    rfl

theorem unhoisted_standard {settings : Settings} {e : Entity}
    (relation : settings.membershipRelation = Filter.membershipName)
    (h : (e.relation? Filter.membershipName).isSome = false) :
    (standard settings e).membership.hoisted = false :=
  (hoisted_standard e relation).trans h

/-! ### Cards by status -/

/-- The filter by which cards are looked up. -/
def cardFilter (companyId status : Value) : List (String × Value) :=
  [("company_id", companyId), ("status", statusFilter status)]

theorem getByCompanyAndStatus_eq_get (companyId status : Value) :
    (r.getByCompanyAndStatus c s companyId status).1 =
      (r.get c s (.map (Entries.named (cardFilter companyId status))) newestFirst holderTree).1 :=
  lookUp_eq_get ..

theorem finds_cards (companyId status : Value) :
    s.Finds .card ((standard c.settings .card).getByCompanyAndStatus c s companyId status).1
      fun card => card.InScope .card "company_id" companyId ∧ card.InScope .card "status" status ∧
        ∀ items, status = .list items → card.EqualsItem .card "status" items := by
  rw [getByCompanyAndStatus_eq_get]
  have found := finds_inScope (c := c) (e := .card) (cardFilter companyId status)
    ["company_id", "status"] (answers_get (c := c) (s := s) newestFirst holderTree) (by decide) rfl
    (by decide) (by decide)
  refine finds_mono found fun card _ found => ⟨?_, ?_, ?_⟩
  · exact found.1 ("company_id", companyId) List.mem_cons_self
  · exact inScope_of_statusFilter
      (found.1 ("status", statusFilter status) (List.mem_cons_of_mem _ List.mem_cons_self))
  · rintro items rfl
    exact found.2 "status" items (List.mem_cons_of_mem _ List.mem_cons_self)

/-! ### A wallet by currency -/

/-- The filter by which a wallet is looked up. -/
def walletFilter (companyId upper : Value) : List (String × Value) :=
  [("company_id", companyId), ("currency", upper)]

/-- A wallet is looked up by the currency in upper case, if there is such a thing. -/
theorem getByCompanyAndCurrency_ok {companyId currency : Value} {answered : Reply × Log}
    (h : r.getByCompanyAndCurrency c s companyId currency = .ok answered) :
    ∃ upper, upperCase currency = .ok upper ∧
      answered.1 =
        (r.getOne c s (.map (Entries.named (walletFilter companyId upper))) .null).1 := by
  obtain ⟨upper, hu, h⟩ := bind_eq_ok.mp h
  rw [pure_eq_ok.mp h]
  exact ⟨upper, hu, report_congr ..⟩

theorem finds_wallet {companyId currency : Value} {answered : Reply × Log}
    (h : (standard c.settings .wallet).getByCompanyAndCurrency c s companyId currency =
      .ok answered) :
    ∃ upper, upperCase currency = .ok upper ∧ s.Finds .wallet answered.1 fun wallet =>
      wallet.InScope .wallet "company_id" companyId ∧
        wallet.InScope .wallet "currency" upper := by
  obtain ⟨upper, hu, same⟩ := getByCompanyAndCurrency_ok h
  refine ⟨upper, hu, ?_⟩
  rw [same]
  have found := finds_inScope (c := c) (e := .wallet) (walletFilter companyId upper)
    ["company_id", "currency"] (answers_getOne (c := c) (s := s) .null)
    (by decide) rfl (by decide) (by decide)
  refine finds_mono found fun wallet _ found => ⟨?_, ?_⟩
  · exact found.1 ("company_id", companyId) List.mem_cons_self
  · exact found.1 ("currency", upper) (List.mem_cons_of_mem _ List.mem_cons_self)

/-! ### Memberships of a user -/

/-- The filter by which only active memberships are looked up, or all. -/
def activeFilter (activeOnly : Bool) : List (String × Value) :=
  if activeOnly then [("is_active", .bool true)] else []

theorem getMemberships_eq_get (userId : Value) (activeOnly : Bool) :
    (r.getMemberships c s userId activeOnly).1 =
      (r.get c s (.map (Entries.named (("user_id", userId) :: activeFilter activeOnly)))
        oldestFirst roleAndCompanyTree).1 := by
  cases activeOnly <;> exact lookUp_eq_get ..

theorem finds_links (userId : Value) (activeOnly : Bool) :
    s.Finds .membership ((standard c.settings .membership).getMemberships c s userId activeOnly).1
      fun link => link.InScope .membership "user_id" userId ∧
        (activeOnly = true → link.InScope .membership "is_active" (.bool true)) := by
  rw [getMemberships_eq_get]
  have found := finds_inScope (c := c) (e := .membership)
    (("user_id", userId) :: activeFilter activeOnly)
    ("user_id" :: (activeFilter activeOnly).map Prod.fst)
    (answers_get (c := c) (s := s) oldestFirst roleAndCompanyTree) (by decide) rfl
    (by cases activeOnly <;> decide) (by cases activeOnly <;> decide)
  refine finds_mono found fun link _ found => ⟨?_, ?_⟩
  · exact found.1 ("user_id", userId) List.mem_cons_self
  · rintro rfl
    exact found.1 ("is_active", .bool true) (List.mem_cons_of_mem _ List.mem_cons_self)

/-! ### Members of a company -/

/-- The look-up of the members of a company finds users with an active membership in it. -/
theorem finds_members (companyId page perPage : Value) :
    s.Finds .user ((standard c.settings .user).getByCompany c s companyId page perPage).1
      fun user => ∃ link ∈ s.working.rows .membership, link.cell .userId = user.id ∧
        link.InScope .membership "is_active" (.bool true) ∧
        (companyId.leadsToMapping = false → ∃ column,
          Entity.membership.column? "company_id" = some column ∧ link.Has column companyId) := by
  rw [getByCompany]
  generalize hr : (do
    let q ← (standard c.settings .user).activeMembers c companyId
    (standard c.settings .user).paged c s q page perPage : Except Failure Reply) = result
  cases result with
  | error f => exact ⟨[], .nothing, List.nil_subperm, fun _ h => absurd h List.not_mem_nil⟩
  | ok reply =>
    obtain ⟨q, hq, paged⟩ := bind_eq_ok.mp hr
    obtain ⟨criteria, bound, keys, rows, hc, hb, about, inRows⟩ := about_paged paged
    obtain ⟨v, rfl, asked, filter⟩ :=
      filter_of_activeMembers (relation_of_activeMembers hq hc) hq
    rw [filter] at hc
    refine ⟨rows, about, inRows.subperm.trans (Select.rows_subperm ..), fun user hu => ?_⟩
    have holds := (Select.mem_rows.mp (inRows.subset hu)).2
    obtain ⟨link, present, own, active, company⟩ :=
      Filter.exists_link_of_activeClause asked hc hb holds
    refine ⟨link, present, own, active, fun plain => ?_⟩
    obtain ⟨scalar, column, hn, has⟩ := company (Value.isMap_unfold plain ..)
    rw [Value.eq_of_unfold scalar] at has
    exact ⟨column, hn, has⟩

end Repository

open Repository (standard statusFilter upperCase newestFirst oldestFirst holderTree
  roleAndCompanyTree)

/-- **Look-ups stay in their scope**, as far as what they are given is a condition. Cards found by
status belong to the company and have the status, or one of the statuses of a list. A wallet found
by currency belongs to the company and has the currency in upper case. The memberships of a user
belong to the user, and are active if only those are asked for. The members of a company have an
active membership in it. All this is so whatever the settings are. Where, as by default, the
reserved names are about memberships, what is no condition is passed over, and the look-up is the
one without it. -/
theorem lookups_stay_in_scope (c : Context) (s : Session) :
    (∀ companyId status,
      s.Finds .card ((standard c.settings .card).getByCompanyAndStatus c s companyId status).1
        fun card => card.InScope .card "company_id" companyId ∧
          card.InScope .card "status" status ∧
          ∀ items, status = .list items → card.EqualsItem .card "status" items) ∧
    (∀ companyId currency answered,
      (standard c.settings .wallet).getByCompanyAndCurrency c s companyId currency = .ok answered →
      ∃ upper, upperCase currency = .ok upper ∧ s.Finds .wallet answered.1 fun wallet =>
        wallet.InScope .wallet "company_id" companyId ∧ wallet.InScope .wallet "currency" upper) ∧
    (∀ userId activeOnly,
      s.Finds .membership ((standard c.settings .membership).getMemberships c s userId activeOnly).1
        fun link => link.InScope .membership "user_id" userId ∧
          (activeOnly = true → link.InScope .membership "is_active" (.bool true))) ∧
    (∀ companyId page perPage,
      s.Finds .user ((standard c.settings .user).getByCompany c s companyId page perPage).1
        fun user => ∃ link ∈ s.working.rows .membership, link.cell .userId = user.id ∧
          link.InScope .membership "is_active" (.bool true) ∧
          (companyId.leadsToMapping = false → ∃ column,
            Entity.membership.column? "company_id" = some column ∧ link.Has column companyId)) ∧
    (c.settings.membershipRelation = Filter.membershipName →
      (∀ companyId status, Filter.isSkipped companyId = true → Filter.isScalar status = true →
        ((standard c.settings .card).getByCompanyAndStatus c s companyId status).1 =
          ((standard c.settings .card).get c s (.map [(.str "status", status)]) newestFirst
            holderTree).1) ∧
      (∀ companyId status, Filter.isScalar companyId = true →
        Filter.isSkipped (statusFilter status) = true →
        ((standard c.settings .card).getByCompanyAndStatus c s companyId status).1 =
          ((standard c.settings .card).get c s (.map [(.str "company_id", companyId)]) newestFirst
            holderTree).1) ∧
      (∀ companyId (currency : String), Filter.isSkipped companyId = true →
        ∃ log, (standard c.settings .wallet).getByCompanyAndCurrency c s companyId (.str currency) =
          .ok (((standard c.settings .wallet).getOne c s
            (.map [(.str "currency", .str (Text.upper currency))]) .null).1, log)) ∧
      ∀ userId activeOnly, Filter.isSkipped userId = true →
        ((standard c.settings .membership).getMemberships c s userId activeOnly).1 =
          ((standard c.settings .membership).get c s
            (.map (Entries.named (Repository.activeFilter activeOnly))) oldestFirst
            roleAndCompanyTree).1) := by
  refine ⟨Repository.finds_cards, fun _ _ _ => Repository.finds_wallet, Repository.finds_links,
    Repository.finds_members, fun relation => ⟨fun companyId status skipped scalar => ?_,
      fun companyId status scalar skipped => ?_, fun companyId currency skipped => ?_,
      fun userId activeOnly skipped => ?_⟩⟩
  · have filter : statusFilter status = status := by
      cases status <;> first | rfl | cases scalar
    rw [Repository.getByCompanyAndStatus_eq_get, Repository.cardFilter, filter]
    refine Repository.get_skipped [] [("status", status)]
      (Repository.unhoisted_standard relation rfl) (by simp) skipped ?_ newestFirst holderTree
    simpa using scalar
  · rw [Repository.getByCompanyAndStatus_eq_get]
    refine Repository.get_skipped [("company_id", companyId)] []
      (Repository.unhoisted_standard relation rfl) (by simp) skipped ?_ newestFirst holderTree
    simpa using scalar
  · refine ⟨_, congrArg Except.ok (Prod.ext ?_ rfl)⟩
    refine (Repository.report_congr ..).trans (Repository.getOne_skipped []
      [("currency", .str (Text.upper currency))] (Repository.unhoisted_standard relation rfl)
      (by simp) skipped ?_ .null)
    simp [Filter.isScalar]
  · rw [Repository.getMemberships_eq_get]
    refine Repository.get_skipped [] (Repository.activeFilter activeOnly)
      (Repository.unhoisted_standard relation rfl) ?_ skipped ?_ oldestFirst roleAndCompanyTree
    · cases activeOnly <;> simp [Repository.activeFilter]
    · cases activeOnly <;> simp [Repository.activeFilter, Filter.isScalar]

/-- The terminated cards of the first company in the sample store can be looked up, and belong to
it. -/
theorem lookups_stay_in_scope_sample :
    let c : Context := Script.context {} 1
    let s := Session.start Sample.store false
    let companyId : Value := .uuid (Uuid.ofNat 0x400080000000000000c1)
    let reply := ((standard c.settings .card).getByCompanyAndStatus c s companyId
      (.str "TERMINATED")).1
    reply.isSuccess = true ∧
      s.Finds .card reply fun card => card.InScope .card "company_id" companyId ∧
        card.InScope .card "status" (.str "TERMINATED") ∧
        ∀ items, Value.str "TERMINATED" = .list items → card.EqualsItem .card "status" items := by
  intro c s companyId reply
  exact ⟨by rfl, (lookups_stay_in_scope c s).1 companyId (.str "TERMINATED")⟩

/-- Without a company the look-up answers with the terminated cards of two companies, though every
card belongs to some company. -/
theorem cards_of_no_company_sample :
    let c : Context := Script.context {} 1
    let s := Session.start Sample.store false
    let reply := ((standard c.settings .card).getByCompanyAndStatus c s .null
      (.str "TERMINATED")).1
    reply.isSuccess = true ∧
      ¬ s.Finds .card reply fun card => card.value .companyId = .null := by
  intro c s reply
  have answered : reply.isSuccess = true := by rfl
  refine ⟨answered, ?_⟩
  have same : reply = ((standard c.settings .card).get c s (.map (Entries.named
      (Repository.cardFilter .null (.str "TERMINATED")))) newestFirst holderTree).1 :=
    Repository.getByCompanyAndStatus_eq_get ..
  have someCompany : ∀ card ∈ Sample.cards, card.value .companyId ≠ .null := by
    intro card hm empty
    have filled : ∀ card ∈ Sample.cards, (card.cell .companyId).isEmpty = false := by decide
    have filled := filled card hm
    rw [Row.value] at empty
    cases hv : card.cell .companyId <;> simp [hv, Cell.isEmpty, Cell.value] at filled empty
  have criteria : (standard c.settings .card).criteria?
      (Entries.named (Repository.cardFilter .null (.str "TERMINATED"))) =
        some [.compare .status .eq (.text "TERMINATED")] := rfl
  have two : (Select.matching s.working .card
      [.compare .status .eq (.text "TERMINATED")]).length = 2 := by
    rw [Select.matching, ((Store.scan_perm _ _).filter _).length_eq]
    rfl
  intro finds
  have nobody := Repository.finds_mono finds fun card hm absent => someCompany card hm absent
  rw [same] at answered nobody
  have none := Repository.matching_eq_nil_of_finds criteria answered nobody
  exact absurd ((congrArg List.length none).symm.trans two) (by decide)

end Recordbook

import Recordbook.Proofs.IncludePlan

/-!
# No unknown name is passed over

A query gives names in its conditions, in its order and in its include, and each of them means
something only on the kind of records that has been reached. If a statement is built at all, every
name was found there: a name of a condition is a column, or a relation whose clause says how many of
the related records should meet which conditions; a name of the order is a column; a name of the
include is a relation, and a listed one a column of its other side.

## Main definitions

* `Criteria.Resolved`, `LoadPlan.Resolved` — every name in a condition mapping, or in an include
  tree, is found where it is reached
* `CompiledQuery.Resolved` — so it is with every name of a query

## Main results

* `unknown_names_refused` — a statement is built, and a call answered, only where all names are
  found
-/

namespace Recordbook

/-! ### Conditions -/

namespace Criteria

mutual

/-- Every name in a condition mapping is found. -/
inductive Resolved : Entity → Entries → Prop
  /-- There is none. -/
  | nil {e : Entity} : Resolved e []
  /-- A column has a condition. -/
  | column {e : Entity} {key condition : Value} {rest : Entries} (column : e.HasColumn key)
      (later : Resolved e rest) : Resolved e ((key, condition) :: rest)
  /-- A relation has a clause. -/
  | relation {e : Entity} {name : String} {r : Relation} {clause rest : Entries}
      (relation : e.relation? name = some r) (resolved : ClauseResolved r.target clause)
      (later : Resolved e rest) : Resolved e ((.str name, .map clause) :: rest)

/-- Every name in a clause on related records is found on their side. -/
inductive ClauseResolved : Entity → Entries → Prop
  /-- There is none. -/
  | nil {e : Entity} : ClauseResolved e []
  /-- Some related record should be there, or none, without a condition. -/
  | any {e : Entity} {quantifier condition : Value} {rest : Entries}
      (known : isQuantifier quantifier = true) (falsy : condition.isTruthy = false)
      (later : ClauseResolved e rest) : ClauseResolved e ((quantifier, condition) :: rest)
  /-- Some related record should meet conditions, or none. -/
  | conditions {e : Entity} {quantifier : Value} {conditions rest : Entries}
      (known : isQuantifier quantifier = true) (resolved : Resolved e conditions)
      (later : ClauseResolved e rest) : ClauseResolved e ((quantifier, .map conditions) :: rest)

end

mutual

/-- Where a condition mapping is resolved, every name in it is found. -/
theorem resolved_of_resolve (e : Entity) : ∀ (filter : List (Value × Value))
    {cs : List (Criterion Operand)}, resolve e filter = .ok cs → Resolved e filter
  | [], _, _ => .nil
  | (key, condition) :: rest, _, h => by
    obtain ⟨here, others, hh, ho, -⟩ := resolveEntries_cons_ok.mp h
    have later := resolved_of_resolve e rest ho
    rw [ofEntry] at hh
    cases hr : e.relationNamed? key with
    | none =>
      rw [hr] at hh
      obtain ⟨c, hc, -⟩ := bind_eq_ok.mp hh
      exact .column (Entity.hasColumn_of_columnOf hc).1 later
    | some r =>
      rw [hr] at hh
      obtain ⟨name, rfl⟩ : ∃ name, key = .str name := by
        cases key with
        | str name => exact ⟨name, rfl⟩
        | _ => cases hr
      obtain ⟨clause, rfl, resolved⟩ := clauseResolved_of_resolveRelation r condition hh
      exact .relation hr resolved later

/-- Only a mapping is a clause, and every name in it is found on the other side. -/
theorem clauseResolved_of_resolveRelation (r : Relation) : ∀ (condition : Value)
    {cs : List (Criterion Operand)}, resolveRelation r condition = .ok cs →
      ∃ clause, condition = .map clause ∧ ClauseResolved r.target clause
  | .map clause, _, h => by
    rw [resolveRelation] at h
    split at h
    · next known => exact ⟨clause, rfl, clauseResolved_of_resolveQuantified r clause known h⟩
    · cases h
  | .null, _, h | .bool _, _, h | .int _, _, h | .float _, _, h | .str _, _, h | .list _, _, h
  | .tuple _, _, h | .decimal _, _, h | .uuid _, _, h | .datetime _, _, h | .date _, _, h
  | .bytes _, _, h | .object, _, h | .model .., _, h | .up _, _, h => by
    simp [resolveRelation] at h

/-- So it is quantifier by quantifier. -/
theorem clauseResolved_of_resolveQuantified (r : Relation) : ∀ (clause : List (Value × Value))
    {cs : List (Criterion Operand)}, (clause.all fun q => isQuantifier q.1) = true →
      resolveQuantified r clause = .ok cs → ClauseResolved r.target clause
  | [], _, _, _ => .nil
  | (quantifier, condition) :: rest, _, known, h => by
    rw [resolveQuantified] at h
    obtain ⟨criteria, hc, h⟩ := bind_eq_ok.mp h
    obtain ⟨others, ho, -⟩ := bind_eq_ok.mp h
    rw [List.all_cons, Bool.and_eq_true] at known
    have later := clauseResolved_of_resolveQuantified r rest known.2 ho
    rcases resolved_of_resolveCondition r.target condition hc with falsy | ⟨inner, rfl, resolved⟩
    · exact .any known.1 falsy later
    · exact .conditions known.1 resolved later

/-- What stands under a quantifier is nothing, or conditions whose names are found. -/
theorem resolved_of_resolveCondition (e : Entity) : ∀ (condition : Value)
    {cs : List (Criterion Operand)}, resolveCondition e condition = .ok cs →
      condition.isTruthy = false ∨ ∃ inner, condition = .map inner ∧ Resolved e inner
  | .map inner, _, h => by
    rw [resolveCondition] at h
    exact .inr ⟨inner, rfl, resolved_of_resolve e inner h⟩
  | .null, _, h | .bool _, _, h | .int _, _, h | .float _, _, h | .str _, _, h | .list _, _, h
  | .tuple _, _, h | .decimal _, _, h | .uuid _, _, h | .datetime _, _, h | .date _, _, h
  | .bytes _, _, h | .object, _, h | .model .., _, h | .up _, _, h => by
    simp only [resolveCondition] at h
    split at h
    · cases h
    · next falsy => exact .inl (Bool.eq_false_iff.mpr falsy)

end

end Criteria

/-! ### Includes -/

namespace LoadPlan

/-- Every name in an include tree is found: relations where they are reached, and listed columns on
the other side of the relation above them. -/
inductive Resolved : Entity → Entries → Prop
  /-- There is none. -/
  | nil {e : Entity} : Resolved e []
  /-- A relation is loaded. -/
  | whole {e : Entity} {name : String} {r : Relation} {rest : Entries}
      (relation : e.relation? name = some r) (later : Resolved e rest) :
      Resolved e ((.str name, .bool true) :: rest)
  /-- Some columns are loaded. -/
  | columns {e : Entity} {name : String} {r : Relation} {fields rest : Entries}
      (relation : e.relation? name = some r)
      (columns : ∀ key ∈ fields.map Prod.fst, r.target.HasColumn key) (later : Resolved e rest) :
      Resolved e ((.str name, .map [(.str "select", .map fields)]) :: rest)
  /-- Further relations are loaded, which stand under `include`. -/
  | under {e : Entity} {name : String} {r : Relation} {inner rest : Entries}
      (relation : e.relation? name = some r) (resolved : Resolved r.target inner)
      (later : Resolved e rest) :
      Resolved e ((.str name, .map [(.str "include", .map inner)]) :: rest)
  /-- Further relations are loaded. -/
  | bare {e : Entity} {name : String} {r : Relation} {inner rest : Entries}
      (relation : e.relation? name = some r) (resolved : Resolved r.target inner)
      (later : Resolved e rest) : Resolved e ((.str name, .map inner) :: rest)

/-- Where an include is read back, every name in it is found. The induction is on what its entries
are expanded to. -/
theorem resolved_of_expands {around : List Place} {entries : List Include.IndexedEntry}
    {tree : Entries} (expands : Include.Expands around entries tree)
    (clear : ¬ Include.Mapping.HasBareSelect ⟨around, entries⟩) {e : Entity}
    {branches : List (Relation × LoadPlan)} (h : resolveEntries e tree = .ok branches) :
    Resolved e tree := by
  induction expands generalizing e branches with
  | nil => exact .nil
  | skipped form later ih => exact ih (mt .cons clear) h
  | whole form later ih =>
    obtain ⟨name, r, plan, others, key, relation, hp, ho, rfl⟩ := resolveEntries_cons_ok h
    rw [key]
    exact .whole relation (ih (mt .cons clear) ho)
  | columns form later ih =>
    obtain ⟨name, r, plan, others, key, relation, hp, ho, rfl⟩ := resolveEntries_cons_ok h
    rw [resolveSpec_select] at hp
    obtain ⟨listed, projected, rfl⟩ := map_eq_ok.mp hp
    rw [key]
    exact .columns relation (projection_eq_ok projected).1 (ih (mt .cons clear) ho)
  | under form down later below ih =>
    obtain ⟨name, r, plan, others, key, relation, hp, ho, rfl⟩ := resolveEntries_cons_ok h
    rw [resolveSpec_include] at hp
    obtain ⟨branches, hb, rfl⟩ := map_eq_ok.mp hp
    rw [key]
    exact .under relation (below (not_hasBareSelect_under clear form) hb) (ih (mt .cons clear) ho)
  | bare form down later below ih =>
    obtain ⟨name, r, plan, others, key, relation, hp, ho, rfl⟩ := resolveEntries_cons_ok h
    obtain ⟨branches, hb, rfl⟩ := resolveSpec_bare clear form down hp
    rw [key]
    exact .bare relation (below (not_hasBareSelect_bare clear form) hb) (ih (mt .cons clear) ho)

end LoadPlan

/-- Every name of a query is found on a kind of records. -/
structure CompiledQuery.Resolved (e : Entity) (q : CompiledQuery) : Prop where
  /-- Those of the conditions are columns, or relations with a clause. -/
  conditions : Criteria.Resolved e q.filter
  /-- Those of the order are columns. -/
  order : ∀ term ∈ q.order, e.HasColumn term.1
  /-- Those of the include are relations, and columns of their other sides. -/
  tree : LoadPlan.Resolved e (q.tree.getD [])

/-- A spec without a mapping that would be taken for a list of columns. -/
def QuerySpec.IsClear (spec : QuerySpec) : Prop :=
  ∀ places, spec.tree = some places → ¬ (Include.Mapping.copyOf places).HasBareSelect

theorem CompiledQuery.resolved_of_build {settings : Settings} {m : Membership} {spec : QuerySpec}
    {q : CompiledQuery} (compiled : spec.compile settings m = .ok q) (clear : spec.IsClear)
    {e : Entity} {st : Select} (h : Select.build e q = .ok st) : q.Resolved e := by
  obtain ⟨criteria, hc, h⟩ := bind_eq_ok.mp h
  obtain ⟨keys, hk, h⟩ := bind_eq_ok.mp h
  obtain ⟨plan, hp, -⟩ := bind_eq_ok.mp h
  obtain ⟨branches, hb, -⟩ := map_eq_ok.mp hp
  obtain ⟨-, -, expanded⟩ := Repository.compile_spec_eq_ok.mp compiled
  refine ⟨Criteria.resolved_of_resolve e q.filter hc, fun term ht => ?_, ?_⟩
  · obtain ⟨key, -, found⟩ := (mem_of_mapM_eq_ok hk).1 term ht
    obtain ⟨c, hc, -⟩ := map_eq_ok.mp found
    exact (Entity.hasColumn_of_columnOf hc).1
  · cases asked : spec.tree with
    | none =>
      rw [asked] at expanded
      have none : q.tree = none := (Option.some_inj.mp expanded).symm
      rw [none]
      exact .nil
    | some places =>
      rw [asked] at expanded
      obtain ⟨tree, ht, same⟩ := Option.map_eq_some_iff.mp expanded
      rw [← same] at hb ⊢
      exact LoadPlan.resolved_of_expands
        (Include.expands_of_expandCopy (toOption_eq_some.mp ht)) (clear places asked) hb

/-- A call for records whose query makes no statement fails. -/
theorem Repository.not_isSuccess_get {r : Repository} {c : Context} {s : Session}
    {filters order tree : Value} {q : CompiledQuery}
    (compiled : r.compile c.settings filters order tree = .ok q) {f : Failure}
    (h : Select.build r.entity q = .error f) :
    (r.get c s filters order tree).1.isSuccess = false := by
  have failed : r.all c s filters order tree = .error f := by
    rw [all, compiled]
    show (r.select s q >>= _) = _
    rw [select, h]
    rfl
  rw [get, failed]
  rfl

/-- **No unknown name is passed over.** Of a query that was compiled from a specification, a
statement for a kind of records is built only if every name is found: those of its conditions, at
every depth, those of its order, and those of its include where they are reached. If one is not, the
building fails, and so does every call for records that comes to this query. -/
theorem unknown_names_refused {settings : Settings} {m : Membership} {spec : QuerySpec}
    {q : CompiledQuery} (compiled : spec.compile settings m = .ok q) (clear : spec.IsClear)
    (e : Entity) :
    (∀ st, Select.build e q = .ok st → q.Resolved e) ∧
    (¬ q.Resolved e → (∃ f, Select.build e q = .error f) ∧
      ∀ (r : Repository) (c : Context) (s : Session) (filters order tree : Value), r.entity = e →
        r.compile c.settings filters order tree = .ok q →
        (r.get c s filters order tree).1.isSuccess = false) := by
  have built (st : Select) (h : Select.build e q = .ok st) : q.Resolved e :=
    CompiledQuery.resolved_of_build compiled clear h
  refine ⟨built, fun unknown => ?_⟩
  cases h : Select.build e q with
  | ok st => exact absurd (built st h) unknown
  | error f =>
    refine ⟨⟨f, rfl⟩, fun r c s filters order tree same called => ?_⟩
    subst same
    exact Repository.not_isSuccess_get called h

/-- Wallets are asked for with the names of their companies, in the order of a column whose name is
misspelt. Without the order there is a statement. -/
theorem unknown_names_refused_sample :
    let c : Context := Script.context {} 1
    let s := Session.start Sample.store false
    let order : Entries := [(.str "blance", .str "desc")]
    let tree : Entries := [(.str "company", .list [.str "name"])]
    let r := Repository.standard c.settings .wallet
    let expanded : Entries :=
      [(.str "company", .map [(.str "select", .map [(.str "name", .bool true)])])]
    LoadPlan.Resolved .wallet expanded ∧
      (r.get c s (.map []) (.map order) (.map tree)).1.isSuccess = false := by
  intro c s order tree r expanded
  let spec (order : Entries) : QuerySpec := ⟨[], order, some [⟨[0], tree⟩]⟩
  have clear (order : Entries) : (spec order).IsClear := by
    rintro places h
    cases h
    refine Include.Mapping.not_hasBareSelect_of_flat ?_
    rintro key form ⟨entry, he, -, asks⟩
    rw [List.mem_singleton.mp he] at asks
    cases asks
    exact .inr ⟨_, rfl⟩
  have unordered : (spec []).compile c.settings r.membership = .ok ⟨[], [], some expanded⟩ := rfl
  have ordered : (spec order).compile c.settings r.membership =
      .ok ⟨[], [(.str "blance", .descending)], some expanded⟩ := rfl
  have unknown : ¬ CompiledQuery.Resolved .wallet
      ⟨[], [(.str "blance", .descending)], some expanded⟩ := by
    intro resolved
    obtain ⟨name, column, same, found⟩ := resolved.order _ List.mem_cons_self
    cases same
    cases found
  refine ⟨((unknown_names_refused unordered (clear []) .wallet).1 _ rfl).tree, ?_⟩
  have terms : Order.terms? (.map [(.str "blance", .str "desc")]) =
      some [(.str "blance", .descending)] := rfl
  have called : r.compile c.settings (.map []) (.map order) (.map tree) =
      .ok ⟨[], [(.str "blance", .descending)], some expanded⟩ :=
    Repository.compile_eq_ok.mpr ⟨rfl, terms, rfl⟩
  exact ((unknown_names_refused ordered (clear order) .wallet).2 unknown).2 r c s _ _ _ rfl called

end Recordbook

import Recordbook.Proofs.AddressedRow
import Recordbook.Proofs.ReservedOperators

/-!
# Reserved names and other relations

By the settings the reserved names may be about any relation, or about something that is none.
Where they are about a relation, they become conditions on the records on its other side. Most
kinds of records have no columns of these names, so that such a condition is refused and the query
with it. A query that is answered at all therefore did without them, and the same goes for the
clause on active members where it is about anything but memberships.

## Main definitions

* `Entity.ReservesNothing` — no relation leads to records with columns of the reserved names

## Main results

* `Filter.compile_of_resolved` — a filter whose conditions are resolved is compiled as it stands
* `Repository.relation_of_activeMembers` — only about memberships can active members be asked for
-/

namespace Recordbook

open Criteria

theorem Entries.mem_putText (name : String) (v : Value) (es : Entries) :
    (.str name, v) ∈ es.putText name v :=
  mem_of_get? (by rw [putText, get?_put, if_pos (by simp)])

/-! ### Entries that are resolved -/

namespace Criteria

variable {e : Entity} {r : Relation} {cs : List (Criterion Operand)}

/-- Where a condition mapping is resolved, each of its entries is. -/
theorem ofEntry_of_mem {filter : Entries} (h : resolve e filter = .ok cs) {key condition : Value}
    (hm : (key, condition) ∈ filter) : ∃ as, ofEntry e key condition = .ok as := by
  obtain ⟨before, after, rfl⟩ := List.append_of_mem hm
  obtain ⟨xs, ys, -, hy, rfl⟩ := resolveEntries_append_ok.mp h
  obtain ⟨as, zs, ha, -, rfl⟩ := resolveEntries_cons_ok.mp hy
  exact ⟨as, ha⟩

/-- The conditions under the quantifiers of a clause are resolved on the other side. -/
theorem resolve_of_quantified {clause : List (Value × Value)}
    (h : resolveQuantified r clause = .ok cs) {quantifier : Value} {inner : Entries}
    (hm : (quantifier, .map inner) ∈ clause) : ∃ as, resolve r.target inner = .ok as := by
  induction clause generalizing cs with
  | nil => cases hm
  | cons entry rest ih =>
    obtain ⟨key, condition⟩ := entry
    rw [resolveQuantified] at h
    obtain ⟨here, hc, h⟩ := bind_eq_ok.mp h
    obtain ⟨others, ho, -⟩ := bind_eq_ok.mp h
    rcases List.mem_cons.mp hm with same | later
    · cases same
      rw [resolveCondition] at hc
      exact ⟨here, hc⟩
    · exact ih ho later

/-- A clause is resolved only under the name of a relation, and what it asks for on its other side.
-/
theorem exists_relation_of_clause {name : String} {clause inner : Entries}
    (h : ofEntry e (.str name) (.map clause) = .ok cs) (some : (.str "some", .map inner) ∈ clause) :
    ∃ r ∈ e.relations, r.name = name ∧ ∃ as, resolve r.target inner = .ok as := by
  rw [ofEntry, Entity.relationNamed?] at h
  cases hr : e.relation? name with
  | none =>
    rw [hr] at h
    obtain ⟨c, -, h⟩ := bind_eq_ok.mp h
    obtain ⟨criterion, -, operator⟩ := (mem_of_mapM_eq_ok h).1 _ some
    cases operator
  | some r =>
    rw [hr] at h
    refine ⟨r, List.mem_of_find?_eq_some hr, by simpa using List.find?_some hr, ?_⟩
    dsimp only at h
    rw [resolveRelation] at h
    split at h
    · exact resolve_of_quantified h some
    · cases h

/-- Under a name that is neither a column nor a relation nothing is resolved. -/
theorem ofEntry_ne_ok {name : String} (column : e.column? name = none)
    (relation : e.relation? name = none) (condition : Value) :
    ofEntry e (.str name) condition ≠ .ok cs := by
  intro h
  rw [ofEntry, Entity.relationNamed?, relation] at h
  obtain ⟨c, hc, -⟩ := bind_eq_ok.mp h
  obtain ⟨other, same, found⟩ := Entity.columnOf_eq_ok hc
  cases same
  rw [column] at found
  cases found

end Criteria

/-! ### Reserved names -/

/-- No relation of a kind of records leads to records with a column or a relation of a reserved
name. -/
def Entity.ReservesNothing (e : Entity) : Prop :=
  ∀ r ∈ e.relations, ∀ name ∈ Filter.reservedNames,
    r.target.column? name = none ∧ r.target.relation? name = none

/-- The reserved names of a repository are about a relation, if they are reserved at all, and no
relation leads to records that have them. -/
structure Repository.Plain (r : Repository) : Prop where
  /-- Names are reserved only for a relation. -/
  hoisted : r.membership.hoisted = (r.entity.relation? r.membership.relation).isSome
  /-- No relation leads to records with columns of these names. -/
  foreign : r.entity.ReservesNothing

/-- Cards, wallets and memberships belong to records without a company or a role. -/
theorem Repository.plain_standard (settings : Settings) {e : Entity}
    (h : e ∈ [.card, .wallet, .membership]) : (standard settings e).Plain where
  hoisted := rfl
  foreign := by
    have all : ∀ e ∈ [Entity.card, .wallet, .membership], ∀ r ∈ e.relations,
        ∀ name ∈ Filter.reservedNames,
          r.target.column? name = none ∧ r.target.relation? name = none := by decide
    exact all e h

namespace Filter

/-- Nothing is compiled onto a name that is not given. -/
theorem get?_compileEntries_of_absent {given : List (String × Value)} {done compiled : Entries}
    {name : String} (h : compileEntries done (Entries.named given) = .ok compiled)
    (absent : name ∉ given.map Prod.fst) : compiled.get? name = done.get? name := by
  induction given generalizing done with
  | nil =>
    cases h
    rfl
  | cons entry rest ih =>
    obtain ⟨other, v⟩ := entry
    obtain ⟨here, absent⟩ := not_or.mp (mt List.mem_cons.mpr absent)
    obtain ⟨condition, -, h⟩ := bind_eq_ok.mp h
    cases condition with
    | none => exact ih h absent
    | some w =>
      rw [ih h absent, Entries.get?_put, if_neg]
      simpa using Ne.symm here

/-- What is compiled onto a clause keeps it, if all entries are about columns. -/
theorem clause_mem_compiled {e : Entity} {r : Relation} {relation : String}
    {given : List (String × Value)} {clause : Value} {compiled : Entries}
    (hr : e.relation? relation = some r)
    (columns : ∀ entry ∈ given, (e.column? entry.1).isSome = true)
    (h : compileEntries [(.str relation, clause)] (ordinaryEntries (Entries.named given)) =
      .ok compiled) : (.str relation, clause) ∈ compiled := by
  rw [ordinaryEntries_named] at h
  have absent : relation ∉
      (given.filter fun entry => !reservedNames.contains entry.1).map Prod.fst := by
    intro hm
    obtain ⟨entry, he, rfl⟩ := List.mem_map.mp hm
    obtain ⟨c, hc⟩ := Option.isSome_iff_exists.mp (columns entry (List.mem_of_mem_filter he))
    rw [Entity.relation?_of_column? hc] at hr
    cases hr
  refine Entries.mem_of_get? ?_
  rw [get?_compileEntries_of_absent h absent, Entries.get?_cons, if_pos (by simp)]

/-- **Conditions that are resolved.** A filter on columns whose conditions are resolved is compiled
as it stands, since on the other side of a relation the reserved names stand for nothing. -/
theorem compile_of_resolved {r : Repository} (plain : r.Plain) {given : List (String × Value)}
    (columns : ∀ entry ∈ given, (r.entity.column? entry.1).isSome = true) {compiled : Entries}
    {criteria : List (Criterion Operand)}
    (h : compile r.membership (Entries.named given) = .ok compiled)
    (resolved : resolve r.entity compiled = .ok criteria) :
    compileEntries [] (Entries.named given) = .ok compiled := by
  rw [compile] at h
  split at h
  · next asked =>
    obtain ⟨hoisted, some⟩ := Bool.and_eq_true_iff.mp asked
    rw [plain.hoisted] at hoisted
    obtain ⟨relation, hr⟩ := Option.isSome_iff_exists.mp hoisted
    obtain ⟨as, ha⟩ := ofEntry_of_mem resolved (clause_mem_compiled hr columns h)
    obtain ⟨other, member, -, inner, hi⟩ := exists_relation_of_clause ha List.mem_cons_self
    obtain ⟨⟨key, v⟩, hm⟩ := List.exists_mem_of_ne_nil (membershipEntries (Entries.named given))
      (by simpa using some)
    obtain ⟨name, reserved, hv⟩ := List.mem_filterMap.mp hm
    dsimp only at hv
    split at hv
    · cases hv
      obtain ⟨bs, hb⟩ := ofEntry_of_mem hi hm
      obtain ⟨column, none⟩ := plain.foreign other member name reserved
      exact absurd hb (ofEntry_ne_ok column none _)
    · cases hv
  · exact h

end Filter

/-! ### Active members -/

namespace Repository

variable {c : Context} {companyId : Value} {q : CompiledQuery}

/-- Active members can only be asked for where the reserved names are about memberships: nothing
else that users lead to is active or not. -/
theorem relation_of_activeMembers
    (h : (standard c.settings .user).activeMembers c companyId = .ok q)
    {criteria : List (Criterion Operand)} (resolved : resolve .user q.filter = .ok criteria) :
    c.settings.membershipRelation = Filter.membershipName := by
  obtain ⟨compiled, -, h⟩ := bind_eq_ok.mp h
  obtain ⟨filter, active, h⟩ := bind_eq_ok.mp h
  cases pure_eq_ok.mp h
  have relation : (standard c.settings .user).membership.relation =
      c.settings.membershipRelation := rfl
  rw [relation, activeOnly] at active
  split at active
  · next clause found =>
    cases active
    obtain ⟨as, ha⟩ := ofEntry_of_mem resolved (Entries.mem_putText ..)
    obtain ⟨r, member, named, bs, hb⟩ := exists_relation_of_clause ha (Entries.mem_putText ..)
    obtain ⟨ds, hd⟩ := ofEntry_of_mem hb (Entries.mem_putText ..)
    have others : ∀ r ∈ Entity.user.relations, r.name ≠ Filter.membershipName →
        r.target.column? "is_active" = none ∧ r.target.relation? "is_active" = none := by decide
    by_contra other
    obtain ⟨column, none⟩ := others r member (named ▸ other)
    exact ofEntry_ne_ok column none _ hd
  · cases active

end Repository

end Recordbook

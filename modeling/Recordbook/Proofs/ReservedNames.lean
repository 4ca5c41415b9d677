import Recordbook.Proofs.Criteria
import Recordbook.Proofs.Mapping

/-!
# Where the reserved names end up

A filter is compiled entry by entry, so what stands under a name in its conditions is decided by the
one entry of that name. Before that, the reserved names are taken out and put together in a clause,
if any of them asks for something.

The test is on the names together. As soon as one of the two asks for something, both are taken out,
and whatever stood under the other is gone. If neither does, neither is taken out: a name with an
empty text, a zero, a false or an empty mapping under it is compiled like any other.

## Main definitions

* `Entries.Distinct` — a mapping gives no key twice

## Main results

* `Filter.get?_compiled` — what is compiled onto a name
* `reserved_names_hoisted` — where the reserved names of a filter end up
-/

namespace Recordbook

namespace Entries

/-- No key is given twice. -/
def Distinct (es : Entries) : Prop := es.Pairwise fun a b => a.1.same b.1 = false

theorem getD_cons (k v : Value) (es : Entries) (name : String) :
    getD ((k, v) :: es) name = if k.isText name then v else getD es name := by
  rw [getD, get?_cons]
  split <;> rfl

theorem getD_of_not_has {es : Entries} {name : String} (h : es.has name = false) :
    es.getD name = .null := by
  rw [has_iff_get?_isSome, Option.isSome_eq_false_iff, Option.isNone_iff_eq_none] at h
  rw [getD, h]
  rfl

/-- A name that is the first key of a mapping is none of its other keys. -/
theorem Distinct.getD_tail {name : String} {v : Value} {es : Entries}
    (distinct : Distinct ((.str name, v) :: es)) : es.getD name = .null := by
  refine getD_of_not_has ?_
  rw [has, List.any_eq_false]
  intro e he text
  have other := (List.pairwise_cons.mp distinct).1 e he
  rw [Value.isText_iff.mp text] at other
  simp at other

/-- In a mapping that gives no key twice, the value under a name is that of its entry. -/
theorem Distinct.get?_of_mem {name : String} {v : Value} {es : Entries} (distinct : es.Distinct)
    (h : (.str name, v) ∈ es) : es.get? name = some v := by
  induction es with
  | nil => cases h
  | cons entry rest ih =>
    obtain ⟨key, w⟩ := entry
    obtain ⟨others, distinct⟩ := List.pairwise_cons.mp distinct
    rw [get?_cons]
    rcases List.mem_cons.mp h with here | later
    · cases here
      simp
    · have other := others _ later
      rw [if_neg]
      · exact ih distinct later
      · intro text
        rw [Value.isText_iff.mp text] at other
        simp at other

theorem getD_erase (es : Entries) (name other : String) :
    (es.erase name).getD other = if name = other then .null else es.getD other := by
  induction es with
  | nil => simp [erase, getD]
  | cons e es ih =>
    obtain ⟨k, v⟩ := e
    rw [getD_cons]
    cases hk : k.isText name with
    | true =>
      have gone : erase name ((k, v) :: es) = erase name es := by simp [erase, hk]
      rw [gone, ih, Value.isText_iff.mp hk, Value.isText_str]
      by_cases h : name = other <;> simp [h]
    | false =>
      have kept : erase name ((k, v) :: es) = (k, v) :: erase name es := by simp [erase, hk]
      rw [kept, getD_cons, ih]
      by_cases h : name = other
      · subst h
        simp [hk]
      · simp [h]

end Entries

namespace Filter

/-! ### Entries -/

@[simp] theorem compileEntry_null (key : Value) : compileEntry key .null = .ok none := rfl

/-- **Compiling onto a name.** What stands under a name after compiling is the condition of its one
entry, or what stood there before. -/
theorem get?_compiled {filters done compiled : Entries} (distinct : filters.Distinct)
    (h : compileEntries done filters = .ok compiled) (name : String) :
    ∃ condition, compileEntry (.str name) (filters.getD name) = .ok condition ∧
      compiled.get? name = condition.or (done.get? name) := by
  induction filters generalizing done with
  | nil =>
    cases h
    exact ⟨none, rfl, rfl⟩
  | cons entry rest ih =>
    obtain ⟨key, v⟩ := entry
    obtain ⟨here, hc, h⟩ := bind_eq_ok.mp h
    obtain ⟨condition, hrest, found⟩ := ih (List.pairwise_cons.mp distinct).2 h
    rw [Entries.getD_cons]
    cases text : key.isText name with
    | true =>
      rw [Value.isText_iff] at text
      subst text
      rw [distinct.getD_tail, compileEntry_null] at hrest
      cases hrest
      refine ⟨here, by simpa using hc, found.trans ?_⟩
      cases here <;> simp [Entries.get?_put]
    | false =>
      refine ⟨condition, by simpa using hrest, found.trans ?_⟩
      cases here <;> simp [Entries.get?_put, text]

/-- A name that is not given, or only with null, is left alone. -/
theorem get?_compiled_of_null {filters done compiled : Entries} (distinct : filters.Distinct)
    (h : compileEntries done filters = .ok compiled) {name : String}
    (null : filters.getD name = .null) : compiled.get? name = done.get? name := by
  obtain ⟨condition, hc, found⟩ := get?_compiled distinct h name
  rw [null, compileEntry_null] at hc
  cases hc
  exact found

/-- A value that asks for nothing as a key is still a condition, unless it is null or an empty
sequence. -/
theorem compileEntry_of_not_isTruthy {v : Value} (h : v.isTruthy = false) (key : Value) :
    compileEntry key v = .ok (if isScalar v || v.isMap then some v else none) := by
  cases v with
  | map entries =>
    have empty : entries = [] := by simpa [Value.isTruthy] using h
    subst empty
    rfl
  | _ => rfl

/-! ### Reserved names -/

/-- The entries that are left are those under other names. -/
theorem getD_ordinaryEntries (filters : Entries) (name : String) :
    (ordinaryEntries filters).getD name =
      if name ∈ reservedNames then .null else filters.getD name := by
  simp only [ordinaryEntries, reservedNames, List.foldl_cons, List.foldl_nil, Entries.getD_erase,
    List.mem_cons, List.not_mem_nil, or_false, eq_comm (a := name)]
  by_cases first : "company_id" = name <;> by_cases second : "role_id" = name <;>
    simp [first, second]

theorem distinct_ordinaryEntries {filters : Entries} (distinct : filters.Distinct) :
    (ordinaryEntries filters).Distinct :=
  (distinct.filter _).filter _

/-- The entries of the clause are the reserved names that ask for something, in a fixed order. -/
theorem membershipEntries_eq (filters : Entries) :
    membershipEntries filters = Entries.named
      ((reservedNames.map fun name => (name, filters.getD name)).filter (·.2.isTruthy)) := by
  rw [membershipEntries, Entries.named, List.filter_map, List.map_map, ← List.filterMap_eq_map,
    List.filterMap_filter]
  rfl

theorem membershipEntries_ne_nil {filters : Entries} :
    membershipEntries filters ≠ [] ↔
      ∃ name ∈ reservedNames, (filters.getD name).isTruthy = true := by
  simp [membershipEntries]

end Filter

open Recordbook.Filter

/-- **Reserved names.** Of a filter that gives no key twice and does not give the relation's name,
the reserved names that ask for something become one clause on the relation, in a fixed order and
with the values given for them, and no reserved name is left beside it. If none asks for anything
there is no clause, and what is left under a reserved name is what is given, wherever that is a
scalar or a mapping. -/
theorem reserved_names_hoisted {m : Membership} (hoisted : m.hoisted = true)
    (other : m.relation ∉ reservedNames) {filters compiled : Entries}
    (distinct : filters.Distinct) (absent : filters.has m.relation = false)
    (h : compile m filters = .ok compiled) :
    ((∃ name ∈ reservedNames, (filters.getD name).isTruthy = true) →
      compiled.get? m.relation = some (.map [(.str "some", .map (Entries.named
        ((reservedNames.map fun name => (name, filters.getD name)).filter (·.2.isTruthy))))]) ∧
      ∀ name ∈ reservedNames, compiled.has name = false) ∧
    ((∀ name ∈ reservedNames, (filters.getD name).isTruthy = false) →
      compiled.has m.relation = false ∧
      ∀ name ∈ reservedNames, compiled.get? name =
        if isScalar (filters.getD name) || (filters.getD name).isMap then some (filters.getD name)
        else none) := by
  have given := Entries.getD_of_not_has absent
  have choice : compile m filters =
      if membershipEntries filters ≠ [] then
        compileEntries [(.str m.relation, .map [(.str "some", .map (membershipEntries filters))])]
          (ordinaryEntries filters)
      else compileEntries [] filters := by
    simp [compile, hoisted]
  rw [choice] at h
  constructor
  · intro asked
    rw [if_pos (membershipEntries_ne_nil.mpr asked)] at h
    have found {name : String} (null : (ordinaryEntries filters).getD name = .null) :=
      get?_compiled_of_null (distinct_ordinaryEntries distinct) h null
    refine ⟨?_, fun name reserved => ?_⟩
    · rw [found (by rw [getD_ordinaryEntries, if_neg other, given]), Entries.get?_cons,
        membershipEntries_eq]
      simp
    · have differs : m.relation ≠ name := fun same => other (same ▸ reserved)
      rw [Entries.has_iff_get?_isSome, found (by rw [getD_ordinaryEntries, if_pos reserved]),
        Entries.get?_cons]
      simp [differs]
  · intro nothing
    rw [if_neg] at h
    · refine ⟨?_, fun name reserved => ?_⟩
      · rw [Entries.has_iff_get?_isSome, get?_compiled_of_null distinct h given]
        rfl
      · obtain ⟨condition, hc, found⟩ := get?_compiled distinct h name
        rw [compileEntry_of_not_isTruthy (nothing name reserved)] at hc
        cases hc
        exact found.trans (Option.or_none ..)
    · rw [membershipEntries_ne_nil]
      rintro ⟨name, reserved, truthy⟩
      rw [nothing name reserved] at truthy
      cases truthy

/-- A company is asked for beside an empty role, and the clause has the company alone. -/
theorem reserved_names_hoisted_sample :
    let filters := Entries.named [("role_id", .str ""), ("company_id", .int 7), ("email", .str "a")]
    let compiled := Entries.named [("user_company_roles",
      .map (Entries.named [("some", .map (Entries.named [("company_id", .int 7)]))])),
      ("email", .str "a")]
    compile ⟨"user_company_roles", true⟩ filters = .ok compiled ∧
      compiled.get? "user_company_roles" =
        some (.map [(.str "some", .map (Entries.named [("company_id", .int 7)]))]) ∧
      compiled.has "company_id" = false ∧ compiled.has "role_id" = false := by
  intro filters compiled
  have built : compile ⟨"user_company_roles", true⟩ filters = .ok compiled := rfl
  have distinct : filters.Distinct := by
    simp [filters, Entries.Distinct, Entries.named]
  obtain ⟨clause, free⟩ := (reserved_names_hoisted rfl (by decide) distinct rfl built).1
    ⟨"company_id", by decide, rfl⟩
  exact ⟨built, clause, free _ (by decide), free _ (by decide)⟩

/-- An empty text under a reserved name is left beside the clause that there is not. -/
theorem reserved_name_left_sample :
    let filters := Entries.named [("company_id", .str "")]
    filters.Distinct ∧ "user_company_roles" ∉ reservedNames ∧
      filters.has "user_company_roles" = false ∧
      ∃ compiled, compile ⟨"user_company_roles", true⟩ filters = .ok compiled ∧
        compiled.has "company_id" = true := by
  refine ⟨?_, by decide, rfl, Entries.named [("company_id", .str "")], rfl, rfl⟩
  exact List.pairwise_singleton ..

end Recordbook

import Recordbook.Proofs.ConditionMeaning
import Recordbook.Proofs.Reading
import Recordbook.Sample
import Recordbook.Script

/-!
# Filters are answered with their meaning

Every filter whose entries fit their columns is compiled to a condition mapping of the same meaning:
entry by entry, with one clause on memberships in front where keys are asked for under the reserved
names. So a repository asked for its records answers with exactly those that satisfy it.

## Implementation notes

Compiling is followed entry by entry, on a mapping that gives no name twice and has no references in
it. References in a filter that fits can only stand where nothing looks, in ignored lists and under
names that are no operators, and following them is shown to change nothing first.

## Main results

* `Filter.compileEntries_means` — the meanings of entries are put together
* `Filter.compile_means` — a filter that fits is compiled to its meaning
* `get_satisfied` — a filter that fits is answered with the records that satisfy it
-/

namespace Recordbook

open Criteria

/-! ### Entries -/

namespace Entity

variable {e : Entity} {name : String}

/-- A name of a column is none of a relation. -/
theorem relation?_of_column? {c : Column} (h : e.column? name = some c) :
    e.relation? name = none := by
  cases hr : e.relation? name with
  | none => rfl
  | some r =>
    have named : r.name = name := by simpa using List.find?_some hr
    have none := e.column?_relation_name r (List.mem_of_find?_eq_some hr)
    rw [named, h] at none
    cases none

/-- Where there are memberships, the reserved names are no columns. -/
theorem column?_reserved (h : (e.relation? Filter.membershipName).isSome = true)
    (hn : name ∈ Filter.reservedNames) : e.column? name = none := by
  simp only [Filter.reservedNames, List.mem_cons, List.not_mem_nil, or_false] at hn
  revert h
  rcases hn with rfl | rfl <;> cases e <;> decide

end Entity

theorem Criteria.ofEntry_column {e : Entity} {name : String} {c : Column} {condition : Value}
    (h : e.column? name = some c) : ofEntry e (.str name) condition = ofColumn c condition := by
  simp only [ofEntry, Entity.relationNamed?, Entity.relation?_of_column? h, Entity.columnOf, h,
    Value.keyProblem?]
  rfl

namespace Filter

variable {s : Store} {e : Entity}

/-- An entry is compiled to a condition with its meaning, or to none if every record meets it. -/
def EntryMeans (s : Store) (e : Entity) (entry : String × Value) : Prop :=
  (compileEntry (.str entry.1) entry.2 = .ok none ∧ ∀ row, meetsEntry e row entry = true) ∨
    ∃ w, compileEntry (.str entry.1) entry.2 = .ok (some w) ∧
      Means s e [(.str entry.1, w)] fun row => meetsEntry e row entry

theorem entryMeans_column {name : String} {c : Column} {v : Value} (h : e.column? name = some c)
    (fits : ConditionFits c.kind v) : EntryMeans s e (name, v) := by
  have met (row : Row) : meetsEntry e row (name, v) = (row.cell c.field).meets v := by
    rw [meetsEntry, h]
    rfl
  have asks {w : Value} {cs : List (Criterion Operand)} (hw : ofColumn c w = .ok cs)
      (hc : Ask c.field cs fun cell => cell.meets v) :
      Means s e [(.str name, w)] fun row => meetsEntry e row (name, v) := by
    obtain ⟨ds, hd, hold⟩ := hc
    refine Means.singleton ((ofEntry_column h).trans hw) hd fun row => ?_
    exact (hold s row).trans (met row).symm
  have scalar (hv : c.kind.takes v = true) (meets : ∀ cell : Cell, cell.meets v = cell.equals v) :
      EntryMeans s e (name, v) := by
    refine .inr ⟨v, if_pos (ColumnKind.isScalar_of_takes hv), asks (ofColumn_scalar (.inr hv)) ?_⟩
    exact (ask_equality (.inr hv)).congr fun cell => (meets cell).symm
  cases v with
  | null => exact .inl ⟨rfl, met⟩
  | list vs => exact .inl ⟨rfl, met⟩
  | tuple vs => exact .inl ⟨rfl, met⟩
  | map operators =>
    obtain ⟨f, hf, cs, hc, ask⟩ := OperatorFilter.condition_asks fits
    refine .inr ⟨f.condition, ?_, asks hc ask⟩
    simp only [compileEntry, isScalar, hf]
    rfl
  | _ => exact scalar fits fun _ => rfl

/-- A reserved name with null under it asks nothing. -/
theorem entryMeans_reserved {name : String} (h : (e.relation? membershipName).isSome = true)
    (hn : name ∈ reservedNames) : EntryMeans s e (name, .null) := by
  refine .inl ⟨rfl, fun row => ?_⟩
  rw [meetsEntry, Entity.column?_reserved h hn]
  rfl

/-- Entries are compiled one after another, and their meanings are put together. -/
theorem compileEntries_means {given : List (String × Value)} {done : Entries} {p : Row → Bool}
    (means : Means s e done p) (distinct : (given.map Prod.fst).Nodup)
    (fresh : ∀ entry ∈ given, ∀ d ∈ done, d.1.same (.str entry.1) = false)
    (entries : ∀ entry ∈ given, EntryMeans s e entry) :
    ∃ filter, compileEntries done (Entries.named given) = .ok filter ∧
      Means s e filter fun row => p row && given.all (meetsEntry e row) := by
  induction given generalizing done p with
  | nil => exact ⟨done, rfl, means.congr fun row => by simp⟩
  | cons entry rest ih =>
    obtain ⟨name, v⟩ := entry
    obtain ⟨new, distinct⟩ := List.nodup_cons.mp distinct
    have later := fun g hg => entries g (List.mem_cons_of_mem _ hg)
    have unmet := fun g hg => fresh g (List.mem_cons_of_mem _ hg)
    rcases entries (name, v) List.mem_cons_self with ⟨hc, met⟩ | ⟨w, hc, here⟩
    · obtain ⟨filter, hf, all⟩ := ih means distinct unmet later
      refine ⟨filter, ?_, all.congr fun row => ?_⟩
      · rw [Entries.named_cons, compileEntries, hc]
        exact hf
      · rw [List.all_cons, met row, Bool.true_and]
    · have put : Entries.put (.str name) w done = done ++ [(.str name, w)] :=
        Entries.put_of_fresh _ _ _ (fresh _ List.mem_cons_self)
      obtain ⟨filter, hf, all⟩ := ih (means.append here) distinct (fun g hg d hd => by
        rcases List.mem_append.mp hd with hd | hd
        · exact unmet g hg d hd
        · rw [List.mem_singleton.mp hd, Value.same_str, decide_eq_false_iff_not]
          intro same
          exact new (List.mem_map.mpr ⟨g, hg, same.symm⟩)) later
      refine ⟨filter, ?_, all.congr fun row => ?_⟩
      · rw [Entries.named_cons, compileEntries, hc]
        rw [← put] at hf
        exact hf
      · rw [List.all_cons, Bool.and_assoc]

/-! ### The membership clause -/

/-- The membership relation leads to memberships. -/
theorem target_of_membershipName {r : Relation} (h : e.relation? membershipName = some r) :
    r.target = .membership := by
  have all : ∀ r ∈ e.relation? membershipName, r.target = .membership := by
    cases e <;> decide
  exact all r h

/-- A condition on some related record means that there is one. -/
theorem means_some {name : String} {r : Relation} {filter : Entries} {p : Row → Bool}
    (hr : e.relation? name = some r) (means : Means s r.target filter p) :
    Means s e [(.str name, .map [(.str "some", .map filter)])] fun row =>
      (s.related r row).any p := by
  obtain ⟨criteria, bound, hc, hb, hp⟩ := means
  have resolved := (ofEntry_some_ok hr).mpr ⟨criteria, hc, rfl⟩
  refine Means.singleton resolved (bind_related_ok.mpr ⟨bound, hb, rfl⟩) fun row => ?_
  rw [hold_cons, hold_nil, Bool.and_true, holds, beq_true]
  exact congrArg (List.any _) (funext hp)

/-- A key asked for means that a membership carries it. -/
theorem means_key {field : Field} (h : field ∈ [Field.companyId, Field.roleId]) (u : Uuid) :
    Means s .membership [(.str field.label, .uuid u)] fun other =>
      (other.cell field).equals (.uuid u) := by
  have column : Entity.membership.column? field.label = some ⟨field, .uuid, false, none⟩ := by
    simp only [List.mem_cons, List.not_mem_nil, or_false] at h
    rcases h with rfl | rfl <;> rfl
  obtain ⟨ds, hd, hold⟩ := ask_equality (c := ⟨field, .uuid, false, none⟩) (v := .uuid u) (.inr rfl)
  exact Means.singleton (ofEntry_column column) hd (hold s)

/-- Keys asked for mean that a membership carries them all. -/
theorem means_keys {keys : List (Field × Value)}
    (h : ∀ a ∈ keys, a.1 ∈ [Field.companyId, Field.roleId] ∧ ∃ u, a.2 = .uuid u) :
    Means s .membership (keys.map fun a => (.str a.1.label, a.2)) fun other =>
      keys.all fun a => (other.cell a.1).equals a.2 := by
  induction keys with
  | nil => exact Means.nil
  | cons a rest ih =>
    obtain ⟨field, v⟩ := a
    obtain ⟨hf, u, hv⟩ := h (field, v) List.mem_cons_self
    cases hv
    exact (means_key hf u).append (ih fun b hb => h b (List.mem_cons_of_mem _ hb))

/-- What stands under a reserved name where there are memberships. -/
theorem Fits.reserved {filter : List (String × Value)} (fits : Fits e filter)
    (h : (e.relation? membershipName).isSome = true) {entry : String × Value} (he : entry ∈ filter)
    (hn : entry.1 ∈ reservedNames) : entry.2 = .null ∨ ∃ u, entry.2 = .uuid u := by
  rcases fits.entries entry he with ⟨c, hc, -⟩ | ⟨-, -, value⟩
  · rw [Entity.column?_reserved h hn] at hc
    cases hc
  · exact value

/-- The reserved entries of a filter that fits are the keys that it asks for. -/
theorem membershipEntries_named {filter : List (String × Value)} (fits : Fits e filter)
    (h : (e.relation? membershipName).isSome = true) :
    membershipEntries (Entries.named filter) =
      (asked (Entries.named filter)).map fun a => (.str a.1.label, a.2) := by
  have names : reservedNames = [Field.companyId, Field.roleId].map Field.label := rfl
  rw [membershipEntries, names, List.filterMap_map, asked, List.map_filterMap]
  refine List.filterMap_congr fun field hf => ?_
  have reserved : field.label ∈ reservedNames := names ▸ List.mem_map_of_mem hf
  simp only [Function.comp_apply, Entries.getD, Entries.get?_named]
  cases hl : filter.lookup field.label with
  | none => rfl
  | some v =>
    rcases fits.reserved h (Entries.mem_of_lookup hl) reserved with hv | ⟨u, hv⟩
    · cases hv
      rfl
    · cases hv
      rfl

theorem ordinaryEntries_named (filter : List (String × Value)) :
    ordinaryEntries (Entries.named filter) =
      Entries.named (filter.filter fun entry => !reservedNames.contains entry.1) := by
  have erase (name : String) (given : List (String × Value)) :
      Entries.erase name (Entries.named given) =
        Entries.named (given.filter fun entry => !decide (entry.1 = name)) := by
    rw [Entries.erase, Entries.named, List.filter_map]
    rfl
  rw [ordinaryEntries, reservedNames, List.foldl_cons, List.foldl_cons, List.foldl_nil, erase,
    erase, List.filter_filter]
  congr 1
  refine List.filter_congr fun entry _ => ?_
  simp [Bool.and_comm]

/-- A filter that asks for no key has null under every reserved name. -/
theorem Fits.null_of_asked {filter : List (String × Value)} (fits : Fits e filter)
    (h : (e.relation? membershipName).isSome = true) (none : asked (Entries.named filter) = [])
    {entry : String × Value} (he : entry ∈ filter) (hn : entry.1 ∈ reservedNames) :
    entry.2 = .null := by
  rcases fits.reserved h he hn with hv | ⟨u, hv⟩
  · exact hv
  · obtain ⟨field, hf, label⟩ := List.mem_map.mp
      (show entry.1 ∈ [Field.companyId, Field.roleId].map Field.label from hn)
    have found : (Entries.named filter).get? field.label = some (.uuid u) := by
      rw [label, Entries.get?_named]
      exact Entries.lookup_of_mem fits.distinct (hv ▸ he)
    have key : (field, .uuid u) ∈ asked (Entries.named filter) :=
      mem_asked.mpr ⟨hf, found, u, rfl⟩
    rw [none] at key
    cases key

/-- An entry under a name that is not reserved means what it asks of its column. -/
theorem Fits.entryMeans {filter : List (String × Value)} (fits : Fits e filter)
    {entry : String × Value} (he : entry ∈ filter)
    (h : (e.relation? membershipName).isSome = true → entry.1 ∉ reservedNames) :
    EntryMeans s e entry := by
  rcases fits.entries entry he with ⟨c, hc, condition⟩ | ⟨relation, reserved, -⟩
  · exact entryMeans_column hc condition
  · exact absurd reserved (h relation)

variable {filter : List (String × Value)}

/-- A filter without a membership clause is compiled to its meaning. -/
theorem compile_means_plain (fits : Fits e filter)
    (none : (e.relation? membershipName).isSome = true → asked (Entries.named filter) = []) :
    ∃ compiled, compileEntries [] (Entries.named filter) = .ok compiled ∧
      Means s e compiled (satisfied s e filter) := by
  obtain ⟨compiled, hc, means⟩ := compileEntries_means (s := s) Means.nil fits.distinct
    (fun _ _ _ hd => absurd hd List.not_mem_nil) fun entry he => by
      by_cases reserved : (e.relation? membershipName).isSome = true ∧ entry.1 ∈ reservedNames
      · have hv := fits.null_of_asked reserved.1 (none reserved.1) he reserved.2
        obtain ⟨name, v⟩ := entry
        cases hv
        exact entryMeans_reserved reserved.1 reserved.2
      · exact fits.entryMeans he fun h hn => reserved ⟨h, hn⟩
  refine ⟨compiled, hc, means.congr fun row => ?_⟩
  rw [satisfied, hasMembership, Bool.true_and]
  cases hr : e.relation? membershipName with
  | none => exact (Bool.and_true _).symm
  | some r => simp [none (by rw [hr]; rfl)]

/-- A filter that asks for keys is compiled to one clause on memberships and the meaning of its
other entries. -/
theorem compile_means_asked {r : Relation} (fits : Fits e filter)
    (hr : e.relation? membershipName = some r) (some : asked (Entries.named filter) ≠ []) :
    ∃ compiled, compileEntries [(.str membershipName,
          .map [(.str "some", .map (membershipEntries (Entries.named filter)))])]
        (ordinaryEntries (Entries.named filter)) = .ok compiled ∧
      Means s e compiled (satisfied s e filter) := by
  have relation : (e.relation? membershipName).isSome = true := by rw [hr]; rfl
  have keys : ∀ a ∈ asked (Entries.named filter),
      a.1 ∈ [Field.companyId, Field.roleId] ∧ ∃ u, a.2 = .uuid u := by
    intro a ha
    exact (mem_asked.mp ha).imp_right And.right
  have clause := means_some (s := s) hr ((target_of_membershipName hr).symm ▸ means_keys keys)
  have ordinary {entry : String × Value}
      (he : entry ∈ filter.filter fun entry => !reservedNames.contains entry.1) :
      entry ∈ filter ∧ entry.1 ∉ reservedNames := by
    simpa using he
  have fresh : ∀ entry ∈ filter.filter fun entry => !reservedNames.contains entry.1,
      ∀ d ∈ [(Value.str membershipName, Value.map [(.str "some",
        .map ((asked (Entries.named filter)).map fun a => (.str a.1.label, a.2)))])],
        d.1.same (.str entry.1) = false := by
    intro entry he d hd
    obtain ⟨he, hn⟩ := ordinary he
    rw [List.mem_singleton.mp hd, Value.same_str, decide_eq_false_iff_not]
    intro same
    rcases fits.entries entry he with ⟨c, hc, -⟩ | ⟨-, reserved, -⟩
    · rw [← same] at hc
      rw [Entity.relation?_of_column? hc] at hr
      cases hr
    · exact hn reserved
  rw [membershipEntries_named fits relation, ordinaryEntries_named]
  obtain ⟨compiled, hc, means⟩ := compileEntries_means clause
    ((List.filter_sublist.map Prod.fst).nodup fits.distinct) fresh fun entry he =>
      fits.entryMeans (ordinary he).1 fun _ => (ordinary he).2
  refine ⟨compiled, hc, means.congr fun row => ?_⟩
  have rest : (filter.filter fun entry => !reservedNames.contains entry.1).all (meetsEntry e row) =
      filter.all (meetsEntry e row) := by
    rw [List.all_filter]
    refine List.all_congr rfl fun entry => ?_
    cases hc : reservedNames.contains entry.1 with
    | false => simp
    | true =>
      have column := Entity.column?_reserved relation (List.contains_iff_mem.mp hc)
      simp [meetsEntry, column]
  have asks : (asked (Entries.named filter)).isEmpty = false := by simpa using some
  rw [rest, satisfied, hasMembership, hr, Bool.and_comm]
  simp only [asks, Bool.false_or]

/-- **Fitting filters are compiled to their meaning.** -/
theorem compile_means {settings : Settings} (hs : settings.membershipRelation = membershipName)
    (fits : Fits e filter) :
    ∃ compiled, compile (Repository.standard settings e).membership (Entries.named filter) =
        .ok compiled ∧ Means s e compiled (satisfied s e filter) := by
  have membership : (Repository.standard settings e).membership =
      ⟨membershipName, (e.relation? membershipName).isSome⟩ := by
    rw [← hs]
    rfl
  rw [membership, compile]
  cases hr : e.relation? membershipName with
  | none =>
    simpa using compile_means_plain fits fun h => by simp [hr] at h
  | some r =>
    have relation : (e.relation? membershipName).isSome = true := by rw [hr]; rfl
    by_cases none : asked (Entries.named filter) = []
    · simpa [membershipEntries_named fits relation, none] using
        compile_means_plain fits fun _ => none
    · simpa [membershipEntries_named fits relation, none] using compile_means_asked fits hr none

end Filter

/-! ### References -/

section references

open Value

variable {follow : List Entries → Value} {around : List Entries} {k : ColumnKind}

theorem replaceReferences_of_fits {v : Value} (h : v = .null ∨ k.takes v = true) :
    replaceReferences follow around v = v := by
  rcases h with rfl | h
  · exact replaceReferences_null
  · exact replaceReferences_of_isScalar (ColumnKind.isScalar_of_takes h)

theorem replaceReferences_of_takesAll {vs : List Value} (h : k.takesAll vs) :
    replaceReferences follow around (.list vs) = .list vs := by
  rw [replaceReferences, replaceInItems_eq_map]
  have fixed : vs.map (replaceReferences follow around) = vs.map id :=
    List.map_congr_left fun v hv => replaceReferences_of_fits (.inr (h.1 v hv))
  rw [fixed, List.map_id]

/-- The names of the operators, under all their spellings. -/
def OperatorFilter.names : List String :=
  ["eq", "neq", "in", "in_", "nin", "gt", "lt", "gte", "lte"]

/-- There is no reference in an operand that fits. -/
theorem OperatorFilter.Fits.get?_replaceInEntries {operators : Entries} (fits : Fits k operators)
    {name : String} (hn : name ∈ names) :
    Entries.get? (replaceInEntries follow around operators) name = operators.get? name := by
  rw [Value.get?_replaceInEntries]
  cases hv : operators.get? name with
  | none => rfl
  | some v =>
    have sort : name ∈ ["eq", "neq"] ∨ name ∈ ["in", "in_", "nin"] ∨
        name ∈ ["gt", "lt", "gte", "lte"] := by
      simpa [names, or_assoc] using hn
    refine congrArg some ?_
    rcases sort with hn | hn | hn
    · exact replaceReferences_of_fits (fits.equal name hn v hv)
    · rcases fits.listed name hn v hv with rfl | ⟨vs, rfl, h⟩
      · exact replaceReferences_null
      · exact replaceReferences_of_takesAll h
    · exact replaceReferences_of_fits (.inr (fits.ordered name hn v hv).1)

theorem OperatorFilter.Fits.congr {xs ys : Entries} (fits : Fits k xs)
    (h : ∀ name ∈ names, ys.get? name = xs.get? name) : Fits k ys where
  equal name hn v hv := fits.equal name hn v
    ((h name (by simp only [names, List.mem_cons] at hn ⊢; tauto)).symm.trans hv)
  listed name hn v hv := fits.listed name hn v
    ((h name (by simp only [names, List.mem_cons] at hn ⊢; tauto)).symm.trans hv)
  ordered name hn v hv := fits.ordered name hn v
    ((h name (by simp only [names, List.mem_cons] at hn ⊢; tauto)).symm.trans hv)

theorem Cell.meetsOperators_congr (c : Cell) {xs ys : Entries}
    (h : ∀ name ∈ OperatorFilter.names, ys.get? name = xs.get? name) :
    c.meetsOperators ys = c.meetsOperators xs := by
  have same (name : String) (hn : name ∈ OperatorFilter.names) := h name hn
  simp only [meetsOperators, same "eq" (by decide), same "in" (by decide), same "in_" (by decide),
    same "nin" (by decide), same "neq" (by decide), same "gt" (by decide), same "lt" (by decide),
    same "gte" (by decide), same "lte" (by decide)]

/-- Following references neither makes a condition unfit nor changes its meaning. -/
theorem Filter.ConditionFits.replaceReferences {v : Value} (fits : ConditionFits k v) :
    ConditionFits k (v.replaceReferences follow around) ∧
      ∀ c : Cell, c.meets (v.replaceReferences follow around) = c.meets v := by
  have scalar (h : k.takes v = true) :
      ConditionFits k (v.replaceReferences follow around) ∧
        ∀ c : Cell, c.meets (v.replaceReferences follow around) = c.meets v := by
    rw [replaceReferences_of_fits (.inr h)]
    exact ⟨fits, fun _ => rfl⟩
  cases v with
  | null => simpa using fits
  | list vs =>
    rw [Value.replaceReferences]
    exact ⟨trivial, fun _ => rfl⟩
  | tuple vs =>
    rw [Value.replaceReferences]
    exact ⟨trivial, fun _ => rfl⟩
  | map operators =>
    have same : ∀ name ∈ OperatorFilter.names,
        Entries.get? (replaceInEntries follow (operators :: around) operators) name =
          Entries.get? operators name :=
      fun name hn => OperatorFilter.Fits.get?_replaceInEntries fits hn
    rw [Value.replaceReferences]
    exact ⟨OperatorFilter.Fits.congr fits same, fun c => c.meetsOperators_congr same⟩
  | _ => exact scalar fits

namespace Filter

variable {s : Store} {e : Entity} {filter : List (String × Value)}

theorem replaceReferences_of_reserved {v : Value} (h : v = .null ∨ ∃ u, v = .uuid u) :
    v.replaceReferences follow around = v := by
  rcases h with rfl | ⟨u, rfl⟩
  · exact replaceReferences_null
  · exact replaceReferences_of_isScalar rfl

theorem Fits.replaceReferences (fits : Fits e filter) :
    Fits e (Entries.mapValues (Value.replaceReferences follow around) filter) where
  distinct := by
    rw [Entries.mapValues, List.map_map]
    exact fits.distinct
  entries entry he := by
    obtain ⟨given, hg, rfl⟩ := List.mem_map.mp he
    rcases fits.entries given hg with ⟨c, hc, condition⟩ | ⟨relation, reserved, value⟩
    · exact .inl ⟨c, hc, condition.replaceReferences.1⟩
    · exact .inr ⟨relation, reserved, by rwa [replaceReferences_of_reserved value]⟩

theorem Fits.meetsEntry_replaceReferences (fits : Fits e filter) {entry : String × Value}
    (he : entry ∈ filter) (row : Row) :
    meetsEntry e row (entry.1, entry.2.replaceReferences follow around) =
      meetsEntry e row entry := by
  rcases fits.entries entry he with ⟨c, hc, condition⟩ | ⟨relation, reserved, -⟩
  · rw [meetsEntry, meetsEntry, hc]
    exact condition.replaceReferences.2 _
  · rw [meetsEntry, meetsEntry, Entity.column?_reserved relation reserved]
    rfl

theorem Fits.asked_replaceReferences (fits : Fits e filter)
    (h : (e.relation? membershipName).isSome = true) :
    asked (Entries.named (Entries.mapValues (Value.replaceReferences follow around) filter)) =
      asked (Entries.named filter) := by
  refine List.filterMap_congr fun field hf => ?_
  rw [Entries.get?_named, Entries.get?_named, Entries.lookup_mapValues]
  cases hl : filter.lookup field.label with
  | none => rfl
  | some v =>
    have name : field.label ∈ reservedNames := List.mem_map.mpr ⟨field, hf, rfl⟩
    have value := fits.reserved h (Entries.mem_of_lookup hl) name
    rw [Option.map_some, replaceReferences_of_reserved value]

/-- Following references does not change what a filter asks of a record. -/
theorem Fits.satisfied_replaceReferences (fits : Fits e filter) (row : Row) :
    satisfied s e (Entries.mapValues (Value.replaceReferences follow around) filter) row =
      satisfied s e filter row := by
  have entries :
      (Entries.mapValues (Value.replaceReferences follow around) filter).all (meetsEntry e row) =
        filter.all (meetsEntry e row) := by
    rw [Entries.mapValues, List.all_map, Bool.eq_iff_iff, List.all_eq_true, List.all_eq_true]
    refine forall₂_congr fun entry he => ?_
    rw [Function.comp_apply, fits.meetsEntry_replaceReferences he]
  have membership : hasMembership s e
      (Entries.named (Entries.mapValues (Value.replaceReferences follow around) filter)) row =
      hasMembership s e (Entries.named filter) row := by
    simp only [hasMembership]
    cases hr : e.relation? membershipName with
    | none => rfl
    | some r => rw [fits.asked_replaceReferences (by rw [hr]; rfl)]
  rw [satisfied, satisfied, entries, membership]

end Filter

end references

/-- **A filter means what it says.** A repository asked for the records of a filter whose entries
fit their columns answers with exactly the records that satisfy it, each with all its columns, in
the order of their keys. -/
theorem get_satisfied (c : Context) (s : Session) (e : Entity) (filter : List (String × Value))
    (relation : c.settings.membershipRelation = Filter.membershipName)
    (depth : 1 ≤ c.settings.includeMaxDepth) (active : s.isActive = true)
    (fits : Filter.Fits e filter) :
    ∃ records,
      ((Repository.standard c.settings e).get c s (.map (Entries.named filter)) .null .null).1 =
        Envelope.success (.records records) 200 ∧
      List.Forall₂ (Loaded.Shows e)
        ((s.working.scan e).filter (Filter.satisfied s.working e filter)) records := by
  have followed : Filter.Fits e (Entries.mapValues (Value.replaceReferences
      (Value.unfoldPlace Filter.timesFollowed) [Entries.named filter]) filter) :=
    fits.replaceReferences
  obtain ⟨compiled, hc, means⟩ := Filter.compile_means (s := s.working) relation followed
  refine Repository.get_of_means depth active ?_ hc
    (means.congr fun row => fits.satisfied_replaceReferences row)
  rw [Filter.read, Filter.unfolded_named]
  exact textMapping_named _ followed.distinct

/-- Two active users of the sample store with an address are members of the second company. -/
theorem get_satisfied_sample :
    let c : Context := Script.context {} 1
    let s := Session.start Sample.store false
    let filter : List (String × Value) := [
      ("company_id", .uuid (Uuid.ofNat 0x400080000000000000c2)),
      ("is_active", .bool true), ("email", .map [(.str "neq", .null)])]
    let r := Repository.standard c.settings .user
    ((s.working.rows .user).filter (Filter.satisfied s.working .user filter)).length = 2 ∧
      ∃ records,
        (r.get c s (.map (Entries.named filter)) .null .null).1 =
          Envelope.success (.records records) 200 ∧
        List.Forall₂ (Loaded.Shows .user)
          ((s.working.scan .user).filter (Filter.satisfied s.working .user filter)) records := by
  intro c s filter r
  refine ⟨by rfl, get_satisfied c s .user filter rfl (by decide) rfl ⟨by decide, ?_⟩⟩
  intro entry he
  simp only [filter, List.mem_cons, List.not_mem_nil, or_false] at he
  rcases he with rfl | rfl | rfl
  · exact .inr ⟨rfl, by decide, .inr ⟨_, rfl⟩⟩
  · exact .inl ⟨_, rfl, rfl⟩
  · have given {name : String} {v : Value}
        (h : Entries.get? [(.str "neq", .null)] name = some v) : "neq" = name ∧ v = .null := by
      simpa [Entries.get?_cons, eq_comm] using h
    refine .inl ⟨_, rfl, fun name hn v hv => .inl (given hv).2,
      fun name hn v hv => .inl (given hv).2, fun name hn v hv => ?_⟩
    rw [← (given hv).1] at hn
    exact absurd hn (by decide)

end Recordbook

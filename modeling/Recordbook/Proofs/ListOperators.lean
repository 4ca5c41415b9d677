import Recordbook.Proofs.ReservedOperators
import Recordbook.Proofs.Selection

/-!
# Operators on lists

A column that should be one of several values is like one that should be the first of them, or the
second, and so on; and one that should be none of them is like one that should be another than each.
The calls for records agree with this, item by item, except for null. Equality with null asks for an
empty column and difference from null for a filled one, but a list has no such reading of the null
in it: nothing is equal to it, and nothing is different from it either.

So null in a list of values that are wanted adds no record, and null in a list of values that are
not wanted leaves none.

## Main definitions

* `ColumnKind.holds`, `ColumnKind.Lists` — the scalars that a column holds, and lists of them
* `Repository.FindsAll` — that a filter is answered with the records of a property

## Main results

* `Criteria.ask_membership` — what the criterion of a list asks, with null among its items
* `list_operators_by_item` — a list operator is answered item by item
-/

namespace Recordbook

open Criteria

/-! ### Lists of scalars -/

/-- Whether a scalar is one that a column holds. An amount may also be infinite or not a number, as
long as it can be compared. -/
def ColumnKind.holds : ColumnKind → Value → Bool
  | .money, .float _ => true
  | .money, .decimal (.nan _ signaling _) => !signaling
  | .money, .decimal _ => true
  | k, v => k.takes v

/-- A list of null and scalars that a column holds. They are integers only where the first item is
one, since the first item decides how all of them are bound. -/
structure ColumnKind.Lists (k : ColumnKind) (items : List Value) : Prop where
  /-- Each item is null or a scalar that the column holds. -/
  held : ∀ v ∈ items, v = .null ∨ k.holds v = true
  /-- Integers are not mixed with other numbers. -/
  alike : ∀ v ∈ items, v ≠ .null → v.isInteger = (items.head?.getD .null).isInteger

namespace ColumnKind

variable {k : ColumnKind} {v : Value}

/-- A scalar that a column holds is one that it takes, or an amount of any other size. -/
theorem holds_cases (h : k.holds v = true) :
    k.takes v = true ∨ k = .money ∧ ((∃ x, v = .float x) ∨
      (∃ s, v = .decimal (.infinite s)) ∨ ∃ s payload, v = .decimal (.nan s false payload)) := by
  unfold holds at h
  split at h
  · exact .inr ⟨rfl, .inl ⟨_, rfl⟩⟩
  · next s signaling payload =>
    cases signaling with
    | true => cases h
    | false => exact .inr ⟨rfl, .inr (.inr ⟨s, payload, rfl⟩)⟩
  · next d quiet =>
    cases d with
    | finite s c x => exact .inl rfl
    | infinite s => exact .inr ⟨rfl, .inr (.inl ⟨s, rfl⟩)⟩
    | nan s signaling payload => exact absurd rfl (quiet s signaling payload)
  · exact .inl h

theorem isScalar_of_holds (h : k.holds v = true) : Filter.isScalar v = true := by
  rcases holds_cases h with h | ⟨-, ⟨x, rfl⟩ | ⟨s, rfl⟩ | ⟨s, payload, rfl⟩⟩
  · exact isScalar_of_takes h
  all_goals rfl

theorem isNull_of_holds (h : k.holds v = true) : v.isNull = false := by
  rcases holds_cases h with h | ⟨-, ⟨x, rfl⟩ | ⟨s, rfl⟩ | ⟨s, payload, rfl⟩⟩
  · exact isNull_of_takes h
  all_goals rfl

theorem ne_null_of_holds (h : k.holds v = true) : v ≠ .null := by
  rintro rfl
  cases isNull_of_holds h

end ColumnKind

variable {k : ColumnKind} {v : Value}

/-- A scalar that a column holds is bound by the rule of that column, unless it is an integer. -/
theorem Binding.ofOperand_of_holds (h : k.holds v = true) :
    ofOperand k v = if v.isInteger then .plain else ofColumn k := by
  rcases ColumnKind.holds_cases h with h | ⟨rfl, ⟨x, rfl⟩ | ⟨s, rfl⟩ | ⟨s, payload, rfl⟩⟩
  · exact ofOperand_of_takes h
  all_goals rfl

namespace Operand

/-- A scalar that a column holds is bound as what it is to the store. -/
theorem process_beside_of_holds (h : k.holds v = true) :
    (beside k v).process = .ok (.bound (.ofScalar v)) := by
  rcases ColumnKind.holds_cases h with h | ⟨rfl, ⟨x, rfl⟩ | ⟨s, rfl⟩ | ⟨s, payload, rfl⟩⟩
  · exact process_beside h
  all_goals rfl

/-- So it is in a list, and null is bound as nothing there. -/
theorem process_of_lists {items : List Value} (lists : k.Lists items) (hv : v ∈ items) :
    process ⟨.ofOperand k (items.head?.getD .null), v⟩ = .ok (.bound (.ofScalar v)) := by
  rcases lists.held v hv with rfl | held
  · rfl
  · have rule : Binding.ofOperand k (items.head?.getD .null) = .ofOperand k v := by
      have alike := lists.alike v hv (ColumnKind.ne_null_of_holds held)
      rw [Binding.ofOperand_of_holds held, alike]
      cases items with
      | nil => cases hv
      | cons first rest =>
        rcases lists.held first List.mem_cons_self with null | first
        · rw [List.head?_cons, Option.getD_some, null]
          rfl
        · exact Binding.ofOperand_of_holds first
    rw [rule]
    exact process_beside_of_holds held

end Operand

/-! ### What an operator asks -/

namespace Cell

@[simp] theorem versus_null (cell : Cell) (comparison : Comparison) :
    cell.versus comparison .null = false := by
  show (cell.compare? .null).any comparison.accepts = false
  rw [compare?_null]
  rfl

/-- Nothing is equal to null in a list. -/
theorem isOneOf_list (cell : Cell) (items : List Value) :
    cell.isOneOf (.list items) = items.any fun v => !v.isNull && cell.equals v := by
  rw [isOneOf]
  congr 1
  funext v
  cases v <;> simp [equals, Value.isNull]

/-- Nothing is different from null in a list. -/
theorem isNoneOf_list (cell : Cell) (items : List Value) :
    cell.isNoneOf (.list items) = items.all fun v => !v.isNull && cell.differs v := by
  rw [isNoneOf]
  congr 1
  funext v
  cases v <;> simp [differs, Value.isNull]

end Cell

namespace Criteria

variable {column : Column}

theorem process_equalityOperand_of_holds (h : column.kind.holds v = true) :
    (equalityOperand column v).process = .ok (.bound (.ofScalar v)) := by
  cases v with
  | bool b => rfl
  | _ => exact Operand.process_beside_of_holds h

/-- A scalar on a column is the criterion of equality. -/
theorem ofColumn_of_holds (h : v = .null ∨ column.kind.holds v = true) :
    ofColumn column v = .ok [equality column v] := by
  rcases h with rfl | h
  · rfl
  · have scalar := ColumnKind.isScalar_of_holds h
    cases v with
    | map entries => cases scalar
    | _ => rfl

/-- The criterion of equality asks for equality. -/
theorem ask_equality_of_holds (h : v = .null ∨ column.kind.holds v = true) :
    Ask column.field [equality column v] (·.equals v) := by
  rcases h with rfl | h
  · exact ask_equality (.inl rfl)
  · have criterion : equality column v = .compare column.field .eq (equalityOperand column v) := by
      cases v with
      | null => cases ColumnKind.isNull_of_holds h
      | _ => rfl
    simp only [criterion, Cell.equals, ColumnKind.isNull_of_holds h]
    exact Ask.compare (process_equalityOperand_of_holds h)

/-- The criterion of difference asks for difference. -/
theorem ask_difference_of_holds (h : v = .null ∨ column.kind.holds v = true) :
    Ask column.field [difference column v] (·.differs v) := by
  rcases h with rfl | h
  · exact ask_difference (.inl rfl)
  · have criterion :
        difference column v = .compare column.field .ne (equalityOperand column v) := by
      cases v with
      | null => cases ColumnKind.isNull_of_holds h
      | _ => rfl
    simp only [criterion, Cell.differs, ColumnKind.isNull_of_holds h]
    exact Ask.compare (process_equalityOperand_of_holds h)

/-- **The criterion of a list** asks for one of its items, or for none of them, and null among the
items is bound as nothing. -/
theorem ask_membership {items : List Value} (lists : column.kind.Lists items) (wanted : Bool) :
    ∃ criterion, membership column wanted (.list items) = .ok criterion ∧
      Ask column.field [criterion] fun cell =>
        if wanted then cell.isOneOf (.list items) else cell.isNoneOf (.list items) := by
  refine ⟨_, rfl, _, bind_within (g := fun o => .ofScalar o.value) ?_, fun s row => ?_⟩
  · intro o ho
    obtain ⟨v, hv, rfl⟩ := List.mem_map.mp ho
    exact Operand.process_of_lists lists hv
  · rw [hold_cons, hold_nil, Bool.and_true, holds, List.map_map]
    cases wanted with
    | true => exact List.any_map
    | false => exact List.all_map

end Criteria

/-! ### Reading -/

theorem replaceReferences_of_held (h : v = .null ∨ k.holds v = true)
    (follow : List Entries → Value) (around : List Entries) :
    v.replaceReferences follow around = v := by
  rcases h with rfl | h
  · exact Value.replaceReferences_null
  · exact Value.replaceReferences_of_isScalar (ColumnKind.isScalar_of_holds h)

/-- There is no reference in a list of scalars. -/
theorem replaceReferences_of_lists {items : List Value} (lists : k.Lists items)
    (follow : List Entries → Value) (around : List Entries) :
    (Value.list items).replaceReferences follow around = .list items := by
  have same : ∀ v ∈ items, v.replaceReferences follow around = v :=
    fun v hv => replaceReferences_of_held (lists.held v hv) follow around
  rw [Value.replaceReferences, Value.replaceInItems_eq_map, List.map_congr_left same, List.map_id']

theorem Filter.membershipEntries_of_not_mem {name : String} (h : name ∉ reservedNames) (v : Value) :
    membershipEntries [(.str name, v)] = [] := by
  rw [membershipEntries, List.filterMap_eq_nil_iff]
  intro reserved hr
  have other : name ≠ reserved := fun same => h (same ▸ hr)
  simp [Entries.getD, Entries.get?_cons, other]

/-! ### Answers -/

namespace Repository

variable {r : Repository} {c : Context} {s : Session} {name : String} {column : Column}

/-- A filter is answered with exactly the records of a property: each is shown with all its columns,
in the order of their keys. -/
def FindsAll (r : Repository) (c : Context) (s : Session) (filter : Entries)
    (property : Row → Bool) : Prop :=
  ∃ records,
    (r.get c s (.map filter) .null .null).1 = Envelope.success (.records records) 200 ∧
    List.Forall₂ (Loaded.Shows r.entity) ((s.working.scan r.entity).filter property) records

/-- How many records a filter is answered with. -/
theorem FindsAll.length {filter : Entries} {property : Row → Bool}
    (h : r.FindsAll c s filter property) :
    ∃ records, (r.get c s (.map filter) .null .null).1 = Envelope.success (.records records) 200 ∧
      records.length = ((s.working.rows r.entity).filter property).length := by
  obtain ⟨records, answer, shown⟩ := h
  refine ⟨records, answer, shown.length_eq.symm.trans ?_⟩
  exact ((Store.scan_perm s.working r.entity).filter property).length_eq

/-- A filter whose conditions mean a property is answered with the records of that property, where
what is loaded along with them by default can be loaded. -/
theorem finds_of_means {filter compiled : Entries} {property : Row → Bool}
    (active : s.isActive = true) (default : (r.branches? c.settings .null).isSome = true)
    (hf : r.conditions? filter = some compiled)
    (means : Means s.working r.entity compiled property) : r.FindsAll c s filter property := by
  obtain ⟨bound, hc, holds⟩ := criteria?_of_means hf means
  obtain ⟨branches, hb⟩ := Option.isSome_iff_exists.mp default
  have rows : Select.rows s.working r.entity bound [] =
      (s.working.scan r.entity).filter property := by
    have sorted : Select.rows s.working r.entity bound [] =
        Select.matching s.working r.entity bound :=
      List.mergeSort_of_pairwise (List.pairwise_of_forall fun _ _ => rfl)
    rw [sorted, Select.matching]
    exact List.filter_congr fun row _ => holds row
  have answer := get_of_parts active hc sortKeys?_null hb
  rw [rows] at answer
  exact ⟨_, answer, LoadPlan.shows_present ..⟩

@[simp] theorem conditions?_nil : r.conditions? [] = some [] := by
  show (Filter.compile r.membership []).toOption = some []
  rw [Filter.compile]
  cases r.membership.hoisted <;> rfl

/-- A filter is answered only in a session that is active, and where what is loaded along with
records by default can be loaded. -/
theorem ready_of_isSuccess {filter : Entries}
    (h : (r.get c s (.map filter) .null .null).1.isSuccess = true) :
    s.isActive = true ∧ (r.branches? c.settings .null).isSome = true := by
  obtain ⟨active, -, -, branches, -, -, hb, -⟩ := get_success h
  exact ⟨active, Option.isSome_iff_exists.mpr ⟨branches, hb⟩⟩

theorem isSuccess_of_findsAll {filter : Entries} {property : Row → Bool}
    (h : r.FindsAll c s filter property) :
    (r.get c s (.map filter) .null .null).1.isSuccess = true := by
  obtain ⟨records, answer, -⟩ := h
  rw [answer]
  rfl

/-- Where a call without conditions is not answered, no call is. -/
theorem not_isSuccess_of_unconditioned
    (h : (r.get c s (.map []) .null .null).1.isSuccess = false) (filter : Entries) :
    (r.get c s (.map filter) .null .null).1.isSuccess = false := by
  by_contra success
  obtain ⟨active, default⟩ := ready_of_isSuccess (Bool.eq_true_of_not_eq_false success)
  have all : r.FindsAll c s [] fun _ => true := finds_of_means active default conditions?_nil .nil
  exact Bool.false_ne_true (h.symm.trans (isSuccess_of_findsAll all))

/-- A name that is a column and is not reserved. -/
structure IsOrdinary (r : Repository) (name : String) (column : Column) : Prop where
  /-- It is a column. -/
  found : r.entity.column? name = some column
  /-- It is not reserved. -/
  free : r.membership.hoisted = true → name ∉ Filter.reservedNames

/-- An object of one operator is read and written out in the store's own vocabulary. -/
theorem conditions?_operator (ordinary : r.IsOrdinary name column) {operator : String} {v : Value}
    {f : OperatorFilter} (hf : OperatorFilter.ofEntries [(.str operator, v)] = .ok f)
    (plain : ∀ follow around, v.replaceReferences follow around = v) :
    r.conditions? [(.str name, .map [(.str operator, v)])] = some [(.str name, f.condition)] := by
  have read : Filter.read [(.str name, .map [(.str operator, v)])] =
      .ok [(.str name, .map [(.str operator, v)])] := by
    have distinct : ([(name, Value.map [(.str operator, v)])].map Prod.fst).Nodup :=
      List.nodup_singleton name
    refine Filter.read_named distinct fun entry he follow around => ?_
    rw [List.mem_singleton.mp he, Value.replaceReferences, Value.replaceInEntries_eq_map,
      List.map_singleton, plain]
  have compiled : Filter.compileEntries [] [(.str name, .map [(.str operator, v)])] =
      .ok [(.str name, f.condition)] := by
    simp only [Filter.compileEntries, Filter.compileEntry, Filter.isScalar, hf]
    rfl
  have choice : Filter.compile r.membership [(.str name, .map [(.str operator, v)])] =
      Filter.compileEntries [] [(.str name, .map [(.str operator, v)])] := by
    rw [Filter.compile]
    cases hoisted : r.membership.hoisted with
    | false => rfl
    | true => simp [Filter.membershipEntries_of_not_mem (ordinary.free hoisted)]
  rw [conditions?, read]
  exact toOption_eq_some.mpr (choice.trans compiled)

section operators

variable (ordinary : r.IsOrdinary name column) (active : s.isActive = true)
  (default : (r.branches? c.settings .null).isSome = true)

include ordinary active default

/-- An operator is answered with the records that its criterion asks for. -/
theorem finds_operator {operator : String} {v : Value} {f : OperatorFilter}
    (hf : OperatorFilter.ofEntries [(.str operator, v)] = .ok f)
    (plain : ∀ follow around, v.replaceReferences follow around = v)
    {criterion : Criterion Operand} (hc : ofColumn column f.condition = .ok [criterion])
    {p : Cell → Bool} (asks : Ask column.field [criterion] p) :
    r.FindsAll c s [(.str name, .map [(.str operator, v)])]
      fun row => p (row.cell column.field) := by
  obtain ⟨bound, hb, holds⟩ := asks
  refine finds_of_means active default (conditions?_operator ordinary hf plain) ?_
  exact Means.singleton ((ofEntry_column ordinary.found).trans hc) hb (holds s.working)

/-- The records that are equal to a value. -/
theorem finds_equal (held : v = .null ∨ column.kind.holds v = true) :
    r.FindsAll c s [(.str name, .map [(.str "eq", v)])]
      fun row => (row.cell column.field).equals v := by
  refine finds_operator ordinary active default
    (f := ⟨none, none, none, none, none, none, none, some v⟩) rfl
    (replaceReferences_of_held held) ?_ (ask_equality_of_holds held)
  exact ofColumn_of_holds held

/-- The records that are different from a value. -/
theorem finds_different (held : v = .null ∨ column.kind.holds v = true) :
    r.FindsAll c s [(.str name, .map [(.str "neq", v)])]
      fun row => (row.cell column.field).differs v :=
  finds_operator ordinary active default
    (f := ⟨none, none, some v, none, none, none, none, none⟩) rfl
    (replaceReferences_of_held held) rfl (ask_difference_of_holds held)

variable {items : List Value} (lists : column.kind.Lists items)

include lists

/-- The records that are one of some values. -/
theorem finds_within :
    r.FindsAll c s [(.str name, .map [(.str "in", .list items)])]
      fun row => items.any fun v => !v.isNull && (row.cell column.field).equals v := by
  obtain ⟨criterion, hc, asks⟩ := ask_membership lists true
  refine finds_operator ordinary active default
    (f := ⟨some (some items), none, none, none, none, none, none, none⟩) rfl
    (replaceReferences_of_lists lists) ?_ (asks.congr fun cell => cell.isOneOf_list items)
  show [(Value.str "in", Value.list items)].mapM (fun e => operator column e.1 e.2) =
    .ok [criterion]
  rw [List.mapM_cons, show operator column (.str "in") (.list items) = .ok criterion from hc]
  rfl

/-- The records that are none of some values. -/
theorem finds_without :
    r.FindsAll c s [(.str name, .map [(.str "nin", .list items)])]
      fun row => items.all fun v => !v.isNull && (row.cell column.field).differs v := by
  obtain ⟨criterion, hc, asks⟩ := ask_membership lists false
  refine finds_operator ordinary active default
    (f := ⟨none, some (some items), none, none, none, none, none, none⟩) rfl
    (replaceReferences_of_lists lists) ?_ (asks.congr fun cell => cell.isNoneOf_list items)
  show [(Value.str "not_in", Value.list items)].mapM (fun e => operator column e.1 e.2) =
    .ok [criterion]
  rw [List.mapM_cons, show operator column (.str "not_in") (.list items) = .ok criterion from hc]
  rfl

end operators

end Repository

open Repository

variable {c : Context} {s : Session} {r : Repository} {name : String} {column : Column}

/-- **List operators, item by item.** In any column that is not reserved, and for any list of null
and scalars that the column holds: the records that are one of the items are those that are equal to
an item other than null, and the records that are none of the items are those that are different
from each item, if there is no null among them. Both calls and those for each item are answered
wherever a call without conditions is, and elsewhere no call is. If no item is null, the one finds
the union of the equalities and the other the intersection of the differences. -/
theorem list_operators_by_item (ordinary : r.IsOrdinary name column) {items : List Value}
    (lists : column.kind.Lists items) :
    ((r.get c s (.map []) .null .null).1.isSuccess = true →
      (∀ v ∈ items,
        r.FindsAll c s [(.str name, .map [(.str "eq", v)])]
          (fun row => (row.cell column.field).equals v) ∧
        r.FindsAll c s [(.str name, .map [(.str "neq", v)])]
          (fun row => (row.cell column.field).differs v)) ∧
      r.FindsAll c s [(.str name, .map [(.str "in", .list items)])]
        (fun row => items.any fun v => !v.isNull && (row.cell column.field).equals v) ∧
      r.FindsAll c s [(.str name, .map [(.str "nin", .list items)])]
        (fun row => items.all fun v => !v.isNull && (row.cell column.field).differs v)) ∧
    ((r.get c s (.map []) .null .null).1.isSuccess = false →
      ∀ filter, (r.get c s (.map filter) .null .null).1.isSuccess = false) := by
  refine ⟨fun answered => ?_, not_isSuccess_of_unconditioned⟩
  obtain ⟨active, default⟩ := ready_of_isSuccess answered
  refine ⟨fun v hv => ⟨?_, ?_⟩, ?_, ?_⟩
  · exact finds_equal ordinary active default (lists.held v hv)
  · exact finds_different ordinary active default (lists.held v hv)
  · exact finds_within ordinary active default lists
  · exact finds_without ordinary active default lists

/-- Two cards of the sample store belong to the first user, one belongs to no one, and one to
another user. -/
theorem list_operators_by_item_sample :
    let c : Context := Script.context {} 1
    let s := Session.start Sample.store false
    let r := Repository.standard c.settings .card
    let user : Value := .uuid (Uuid.ofNat 0x400080000000000000b1)
    let finds (operator : String) (v : Value) (n : Nat) : Prop :=
      ∃ records, (r.get c s (.map [(.str "user_id", .map [(.str operator, v)])]) .null .null).1 =
        Envelope.success (.records records) 200 ∧ records.length = n
    finds "in" (.list [user, .null]) 2 ∧ finds "nin" (.list [user, .null]) 0 ∧
      finds "eq" user 2 ∧ finds "neq" user 1 := by
  intro c s r user finds
  have lists : ColumnKind.Lists .uuid [user, .null] := by
    constructor <;> simp [user, ColumnKind.holds, ColumnKind.takes]
  have ordinary : r.IsOrdinary "user_id" ⟨.userId, .uuid, true, none⟩ := ⟨rfl, by decide⟩
  have answered : (r.get c s (.map []) .null .null).1.isSuccess = true :=
    isSuccess_of_findsAll (finds_of_means rfl rfl conditions?_nil .nil)
  obtain ⟨item, within, without⟩ :=
    (list_operators_by_item (c := c) (s := s) ordinary lists).1 answered
  obtain ⟨equal, different⟩ := item user List.mem_cons_self
  exact ⟨within.length, without.length, equal.length, different.length⟩

/-- One card belongs to no one, but none is found in a list of null; and all others are found by a
difference from null, but none outside of that list. -/
theorem null_in_list_sample :
    let c : Context := Script.context {} 1
    let s := Session.start Sample.store false
    let r := Repository.standard c.settings .card
    let finds (operator : String) (v : Value) (n : Nat) : Prop :=
      ∃ records, (r.get c s (.map [(.str "user_id", .map [(.str operator, v)])]) .null .null).1 =
        Envelope.success (.records records) 200 ∧ records.length = n
    finds "in" (.list [.null]) 0 ∧ finds "eq" .null 1 ∧
      finds "nin" (.list [.null]) 0 ∧ finds "neq" .null 3 := by
  intro c s r finds
  have lists : ColumnKind.Lists .uuid [.null] := by
    constructor <;> simp
  have ordinary : r.IsOrdinary "user_id" ⟨.userId, .uuid, true, none⟩ := ⟨rfl, by decide⟩
  have within := finds_within (c := c) (s := s) ordinary rfl rfl lists
  have equal := finds_equal (c := c) (s := s) ordinary rfl rfl (v := .null) (.inl rfl)
  have without := finds_without (c := c) (s := s) ordinary rfl rfl lists
  have different := finds_different (c := c) (s := s) ordinary rfl rfl (v := .null) (.inl rfl)
  exact ⟨within.length, equal.length, without.length, different.length⟩

end Recordbook

import Recordbook.Proofs.Mapping
import Recordbook.Query.Criterion

/-!
# What a filter means

A filter has a meaning of its own, said of a record of a store without any condition mapping,
criterion or binding in between: each entry asks something of one cell, and the reserved names
together ask for one membership.

## Implementation notes

An operand is compared as what it is to the store, by `Datum.ofScalar`. How it is bound in a
statement is another matter, and none of the meaning.

A column of amounts takes decimals, and also the other numbers that the store can hold. Whole
numbers are compared exactly and all others as binary fractions, and one list is compared in one of
these two ways, so it must not mix them.

## Main definitions

* `Cell.meets` — what an entry of a filter asks of a cell
* `Filter.hasMembership` — what the reserved names ask of a record
* `Filter.satisfied` — what a filter asks of a record
* `Filter.Fits` — that every entry of a filter fits its column

## Main results

* `Cell.equals_key`, `Cell.equals_flag` — cells of the kind of their column are compared as what
  they keep
-/

namespace Recordbook

/-! ### The meaning of a condition -/

/-- What a scalar is to the store. -/
def Datum.ofScalar : Value → Datum
  | .bool b => .whole (if b then 1 else 0)
  | .int n => .whole n
  | .float x => .ofBinary x
  | .decimal d => .ofBinary d.toBinary64
  | .str s => .text s
  | .datetime t => .moment t.wall
  | .uuid u => .key u
  | _ => .null

namespace Cell

/-- Whether a cell compares with a scalar as wanted. An empty cell compares with nothing. -/
def versus (c : Cell) (comparison : Comparison) (v : Value) : Bool :=
  (c.compare? (.ofScalar v)).any comparison.accepts

/-- Equality with a scalar, or being empty. -/
def equals (c : Cell) (v : Value) : Bool := if v.isNull then c.isEmpty else c.versus .eq v

/-- Being another scalar, or not being empty. -/
def differs (c : Cell) (v : Value) : Bool := if v.isNull then !c.isEmpty else c.versus .ne v

/-- Being one of some scalars, where a list of them is given. -/
def isOneOf (c : Cell) : Value → Bool
  | .list vs => vs.any (c.versus .eq)
  | _ => true

/-- Being none of some scalars, where a list of them is given. -/
def isNoneOf (c : Cell) : Value → Bool
  | .list vs => vs.all (c.versus .ne)
  | _ => true

/-- What an operator object asks of a cell: equality alone where it is given, and otherwise whatever
else is given. -/
def meetsOperators (c : Cell) (operators : Entries) : Bool :=
  match operators.get? "eq" with
  | some v => c.equals v
  | none =>
    ((operators.get? "in").or (operators.get? "in_")).all c.isOneOf &&
    (operators.get? "nin").all c.isNoneOf &&
    (operators.get? "neq").all c.differs &&
    (operators.get? "gt").all (c.versus .gt) &&
    (operators.get? "lt").all (c.versus .lt) &&
    (operators.get? "gte").all (c.versus .ge) &&
    (operators.get? "lte").all (c.versus .le)

/-- What an entry of a filter asks of a cell. Null, lists and fixed sequences ask nothing. -/
def meets (c : Cell) : Value → Bool
  | .map operators => c.meetsOperators operators
  | .null => true
  | .list _ => true
  | .tuple _ => true
  | v => c.equals v

end Cell

namespace Filter

/-- The relation that the reserved names are about. -/
def membershipName : String := "user_company_roles"

/-- The columns of a membership that a filter gives keys for. -/
def asked (filter : Entries) : List (Field × Value) :=
  [Field.companyId, Field.roleId].filterMap fun field => match filter.get? field.label with
    | some (.uuid u) => some (field, .uuid u)
    | _ => none

/-- The keys asked for are those given under the reserved names. -/
theorem mem_asked {filter : Entries} {a : Field × Value} :
    a ∈ asked filter ↔ a.1 ∈ [Field.companyId, Field.roleId] ∧
      filter.get? a.1.label = some a.2 ∧ ∃ u, a.2 = .uuid u := by
  constructor
  · intro ha
    obtain ⟨field, hf, h⟩ := List.mem_filterMap.mp ha
    split at h
    · rename_i u hu
      cases h
      exact ⟨hf, hu, u, rfl⟩
    · cases h
  · rintro ⟨hf, hv, u, hu⟩
    refine List.mem_filterMap.mpr ⟨a.1, hf, ?_⟩
    rw [hv, hu]
    exact congrArg (fun v => some (a.1, v)) hu.symm

/-- Whether a record has one membership that carries all the keys asked for. Only where there are
memberships is anything asked. -/
def hasMembership (s : Store) (e : Entity) (filter : Entries) (row : Row) : Bool :=
  match e.relation? membershipName with
  | none => true
  | some r => (asked filter).isEmpty || (s.related r row).any fun membership =>
      (asked filter).all fun a => (membership.cell a.1).equals a.2

/-- Whether a record meets the condition that an entry has on a column. -/
def meetsEntry (e : Entity) (row : Row) (entry : String × Value) : Bool :=
  (e.column? entry.1).all fun c => (row.cell c.field).meets entry.2

/-- Whether a record of a store satisfies a filter. -/
def satisfied (s : Store) (e : Entity) (filter : List (String × Value)) (row : Row) : Bool :=
  filter.all (meetsEntry e row) && hasMembership s e (Entries.named filter) row

end Filter

/-! ### Equality of what is kept -/

namespace Cell

@[simp] theorem versus_empty (comparison : Comparison) (v : Value) :
    Cell.empty.versus comparison v = false := by
  rw [versus, compare?_empty]
  rfl

@[simp] theorem equals_key (u v : Uuid) : (Cell.key u).equals (.uuid v) = decide (u = v) := by
  have order : (Cell.key u).equals (.uuid v) = (compare u.val v.val == .eq) := rfl
  have val : u.val = v.val ↔ u = v := by
    obtain ⟨a⟩ := u
    obtain ⟨b⟩ := v
    simp [Uuid.val, BitVec.toNat_inj]
  rw [order, Bool.eq_iff_iff, beq_iff_eq, decide_eq_true_iff, Nat.compare_eq_eq, val]

@[simp] theorem equals_flag (a b : Bool) : (Cell.flag a).equals (.bool b) = decide (a = b) := by
  cases a <;> cases b <;> decide

end Cell

/-! ### Filters that fit -/

/-- Whether a scalar is one of the kind that a column holds. -/
def ColumnKind.takes : ColumnKind → Value → Bool
  | .uuid, .uuid _ => true
  | .text _, .str _ => true
  | .flag, .bool _ => true
  | .moment, .datetime _ => true
  | .money, .decimal (.finite ..) => true
  | .money, .float (.finite ..) => true
  | .money, .int n => -(2 ^ 63) ≤ n && n < 2 ^ 63
  | _, _ => false

/-- Whether a value is an integer. -/
def Value.isInteger : Value → Bool
  | .int _ => true
  | _ => false

/-- A list of scalars that fit a column, and do not mix integers with other numbers. -/
def ColumnKind.takesAll (k : ColumnKind) (vs : List Value) : Prop :=
  (∀ v ∈ vs, k.takes v = true) ∧ ∀ v ∈ vs, ∀ w ∈ vs, v.isInteger = w.isInteger

/-- The operands of an operator object fit a column: null or scalars beside equality and its
opposite, null or lists of scalars beside the list operators, and scalars that have an order beside
the others. -/
structure OperatorFilter.Fits (k : ColumnKind) (operators : Entries) : Prop where
  /-- Equality and its opposite. -/
  equal : ∀ name ∈ ["eq", "neq"], ∀ v, operators.get? name = some v →
    v = .null ∨ k.takes v = true
  /-- The list operators. -/
  listed : ∀ name ∈ ["in", "in_", "nin"], ∀ v, operators.get? name = some v →
    v = .null ∨ ∃ vs, v = .list vs ∧ k.takesAll vs
  /-- The orders. -/
  ordered : ∀ name ∈ ["gt", "lt", "gte", "lte"], ∀ v, operators.get? name = some v →
    k.takes v = true ∧ k ≠ .flag

namespace Filter

/-- A condition fits a column: it is none, or a scalar or an operator object that fits. -/
def ConditionFits (k : ColumnKind) : Value → Prop
  | .map operators => OperatorFilter.Fits k operators
  | .null => True
  | .list _ => True
  | .tuple _ => True
  | v => k.takes v = true

/-- Every entry of a filter fits: its name is a column and its condition fits that, or its name is a
reserved one where there are memberships, and a key or null stands under it. No name is given twice.
-/
structure Fits (e : Entity) (filter : List (String × Value)) : Prop where
  /-- No name is given twice. -/
  distinct : (filter.map Prod.fst).Nodup
  /-- Each entry fits. -/
  entries : ∀ entry ∈ filter,
    (∃ c, e.column? entry.1 = some c ∧ ConditionFits c.kind entry.2) ∨
      (e.relation? membershipName).isSome = true ∧ entry.1 ∈ reservedNames ∧
        (entry.2 = .null ∨ ∃ u, entry.2 = .uuid u)

end Filter

end Recordbook

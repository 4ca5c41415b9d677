import Recordbook.Query.Compiled
import Recordbook.Schema.Lookup
import Recordbook.Store.Binding
import Recordbook.Store.Table

/-!
# Criteria

A condition mapping, resolved against the columns and relations of a kind of records, is a list of
criteria. All of them have to hold of a record.

Resolving comes first, for the whole mapping; it fails on unknown names and on conditions that make
no sense. The operands are bound afterwards. The type of criteria is therefore over the type of
their operands: values with their rules of binding, then parameters, then data.

## Main definitions

* `Criterion` — a criterion over operands of some type
* `Criteria.resolve` — the criteria of a condition mapping
* `Criteria.bind` — criteria with their operands bound
* `Criteria.hold` — whether a record of a store meets criteria
-/

namespace Recordbook

/-- A comparison with an operand. -/
inductive Comparison
  /-- Equal. -/
  | eq
  /-- Unequal. -/
  | ne
  /-- Greater. -/
  | gt
  /-- Less. -/
  | lt
  /-- Greater or equal. -/
  | ge
  /-- Less or equal. -/
  | le
deriving DecidableEq, Repr

namespace Comparison

/-- Whether an order is one that the comparison accepts. -/
def accepts : Comparison → Ordering → Bool
  | .eq, o => o == .eq
  | .ne, o => o != .eq
  | .gt, o => o == .gt
  | .lt, o => o == .lt
  | .ge, o => o != .lt
  | .le, o => o != .gt

/-- The order comparison of an operator name. -/
def ordered? (name : String) : Option Comparison :=
  if name = "gt" then some .gt
  else if name = "lt" then some .lt
  else if name = "gte" then some .ge
  else if name = "lte" then some .le
  else none

end Comparison

/-- A criterion on a record, with operands of some type. -/
inductive Criterion (α : Type) : Type
  /-- The column is empty, or is not. -/
  | absent (field : Field) (wanted : Bool)
  /-- The column compares with the operand. -/
  | compare (field : Field) (comparison : Comparison) (operand : α)
  /-- The column is equal to one of the operands, or to none of them. -/
  | within (field : Field) (wanted : Bool) (operands : List α)
  /-- Some record on the other side of a relation meets all the criteria, or none does. -/
  | related (relation : Relation) (wanted : Bool) (criteria : List (Criterion α))

namespace Criteria

/-! ### Resolving -/

/-- The operand of an equality. Truth values stand for the numbers 0 and 1 here. -/
def equalityOperand (c : Column) (v : Value) : Operand :=
  match v with
  | .bool b => ⟨.plain, .bool b⟩
  | v => .beside c.kind v

/-- The criterion of equality with a value; null means that the column is empty. -/
def equality (c : Column) (v : Value) : Criterion Operand :=
  match v with
  | .null => .absent c.field true
  | v => .compare c.field .eq (equalityOperand c v)

/-- The criterion of being another value; null means that the column is not empty. -/
def difference (c : Column) (v : Value) : Criterion Operand :=
  match v with
  | .null => .absent c.field false
  | v => .compare c.field .ne (equalityOperand c v)

/-- What is said of a value that is no list of operands: the value itself, if it can be written. -/
def noList (v : Value) : Failure :=
  match Misuse.written v.display? with
  | .ok shown => .store (.notAList shown)
  | .error m => .misuse m

/-- The items of a value that may be a list of operands. Texts and raw data are none. -/
def listItems (v : Value) : Except Failure (List Value) :=
  match v with
  | .str _ => .error (noList v)
  | .bytes _ => .error (noList v)
  | v => match v.items with
    | .ok items => .ok items
    | .error _ => .error (noList v)

/-- The criterion of being in a list of values, or not. The first of them decides by which rule all
of them are bound. -/
def membership (c : Column) (wanted : Bool) (v : Value) : Except Failure (Criterion Operand) := do
  let items ← listItems v
  let rule := Binding.ofOperand c.kind (items.head?.getD .null)
  return .within c.field wanted (items.map fun x => ⟨rule, x⟩)

/-- The criterion of an order comparison. Null and truth values have no order. -/
def ordering (c : Column) (comparison : Comparison) (v : Value) :
    Except Failure (Criterion Operand) :=
  match v with
  | .null => .error (.store .literalComparison)
  | .bool _ => .error (.store .literalComparison)
  | v => .ok (.compare c.field comparison (.beside c.kind v))

/-- The criterion of one operator. -/
def operator (c : Column) (name v : Value) : Except Failure (Criterion Operand) :=
  if name.isText "in" then membership c true v
  else if name.isText "not_in" then membership c false v
  else if name.isText "not" then .ok (difference c v)
  else match name with
    | .str s => match Comparison.ordered? s with
      | some comparison => ordering c comparison v
      | none => .error (.spec (.unknownOperator (.str s) c.field))
    | name => .error (.spec (.unknownOperator name c.field))

/-- The criteria of the condition on a column: one for each operator, or that of equality. -/
def ofColumn (c : Column) (condition : Value) : Except Failure (List (Criterion Operand)) :=
  match condition with
  | .map entries => entries.mapM fun e => operator c e.1 e.2
  | v => .ok [equality c v]

/-- Whether a key says for how many related records a condition should hold. -/
def isQuantifier (key : Value) : Bool := key.isText "some" || key.isText "none"

mutual

/-- The criteria of a condition mapping. -/
def resolveEntries (e : Entity) : List (Value × Value) → Except Failure (List (Criterion Operand))
  | [] => .ok []
  | (key, condition) :: rest => do
    let here ← match e.relationNamed? key with
      | some r => resolveRelation r condition
      | none => (e.columnOf key).bind fun c => ofColumn c condition
    let others ← resolveEntries e rest
    return here ++ others
termination_by structural x => x

/-- The criteria of the condition on a relation. -/
def resolveRelation (r : Relation) : Value → Except Failure (List (Criterion Operand))
  | .map entries =>
    if entries.all fun q => isQuantifier q.1 then resolveQuantified r entries
    else .error (.spec (.unquantified r.name))
  | _ => .error (.spec (.unquantified r.name))
termination_by structural x => x

/-- The criteria of quantified conditions on a relation. -/
def resolveQuantified (r : Relation) :
    List (Value × Value) → Except Failure (List (Criterion Operand))
  | [] => .ok []
  | (quantifier, condition) :: rest => do
    let criteria ← resolveCondition r.target condition
    let others ← resolveQuantified r rest
    return .related r (quantifier.isText "some") criteria :: others
termination_by structural x => x

/-- The criteria of the condition under a quantifier; a falsy one is no condition. -/
def resolveCondition (e : Entity) : Value → Except Failure (List (Criterion Operand))
  | .map entries => resolveEntries e entries
  | v => if v.isTruthy then .error (.misuse (v.callProblem "items")) else .ok []
termination_by structural x => x

end

/-- The criteria of a condition mapping on a kind of records. -/
def resolve (e : Entity) (filter : Entries) : Except Failure (List (Criterion Operand)) :=
  resolveEntries e filter

/-! ### Binding -/

mutual

/-- A criterion with a function applied to each operand, in order. -/
def mapOperands {α β : Type} (f : α → Except Failure β) :
    Criterion α → Except Failure (Criterion β)
  | .absent field wanted => .ok (.absent field wanted)
  | .compare field comparison operand => (f operand).map (.compare field comparison)
  | .within field wanted operands => (operands.mapM f).map (.within field wanted)
  | .related relation wanted criteria => (mapAll f criteria).map (.related relation wanted)
termination_by structural x => x

/-- Criteria with a function applied to each operand, in order. -/
def mapAll {α β : Type} (f : α → Except Failure β) :
    List (Criterion α) → Except Failure (List (Criterion β))
  | [] => .ok []
  | c :: cs => do
    let here ← mapOperands f c
    let others ← mapAll f cs
    return here :: others
termination_by structural x => x

end

/-- The first step of binding, for all operands. -/
def process (criteria : List (Criterion Operand)) : Except Failure (List (Criterion Parameter)) :=
  mapAll Operand.process criteria

/-- The second step of binding, for all operands. -/
def accept (criteria : List (Criterion Parameter)) : Except Failure (List (Criterion Datum)) :=
  mapAll Parameter.accept criteria

/-- Criteria with their operands bound. -/
def bind (criteria : List (Criterion Operand)) : Except Failure (List (Criterion Datum)) := do
  let processed ← process criteria
  accept processed

/-! ### Meeting criteria -/

/-- Whether a cell compares with an operand as wanted; nothing compares with nothing. -/
def compares (c : Cell) (comparison : Comparison) (d : Datum) : Bool :=
  (c.compare? d).any comparison.accepts

/-- Whether a cell is equal to one of some operands. -/
def isWithin (c : Cell) (operands : List Datum) : Bool := operands.any (compares c .eq)

/-- Whether a cell is different from each of some operands, none of which may be nothing. -/
def isWithout (c : Cell) (operands : List Datum) : Bool := operands.all (compares c .ne)

mutual

/-- Whether a record of a store meets a criterion. -/
def holds (s : Store) (row : Row) : Criterion Datum → Bool
  | .absent field wanted => (row.cell field).isEmpty == wanted
  | .compare field comparison operand => compares (row.cell field) comparison operand
  | .within field wanted operands =>
    if wanted then isWithin (row.cell field) operands else isWithout (row.cell field) operands
  | .related relation wanted criteria =>
    ((s.related relation row).any fun other => hold s other criteria) == wanted
termination_by structural x => x

/-- Whether a record of a store meets all criteria. -/
def hold (s : Store) (row : Row) : List (Criterion Datum) → Bool
  | [] => true
  | c :: cs => holds s row c && hold s row cs
termination_by structural x => x

end

@[simp] theorem hold_nil (s : Store) (row : Row) : hold s row [] = true := by simp [hold]

@[simp] theorem hold_cons (s : Store) (row : Row) (c : Criterion Datum)
    (cs : List (Criterion Datum)) : hold s row (c :: cs) = (holds s row c && hold s row cs) := by
  simp [hold]

theorem hold_append (s : Store) (row : Row) (cs ds : List (Criterion Datum)) :
    hold s row (cs ++ ds) = (hold s row cs && hold s row ds) := by
  induction cs with
  | nil => simp
  | cons c cs ih => simp [ih, Bool.and_assoc]

end Criteria

end Recordbook

import Recordbook.Settings
import Recordbook.Value.Reference
import Recordbook.Value.Shape

/-!
# Filters

A filter maps names to scalars, which are conditions of equality, or to operator objects. It is
compiled to a condition mapping in the store's own vocabulary.

Two names are reserved. Where a kind of records has memberships, `company_id` and `role_id` are not
columns: together they ask for one membership that carries both, and become one clause on the
membership relation, ahead of all other conditions.

## Main definitions

* `OperatorFilter` — an operator object that was read, and `OperatorFilter.condition`, what it means
* `Filter.compile`, `Filter.ofValue` — the condition mapping of a filter
-/

namespace Recordbook

/-- An operator object. Each operator is absent or present with its operand; the two list operators
may be present with null, which is no condition. -/
structure OperatorFilter where
  /-- The column is one of the values. -/
  within : Option (Option (List Value))
  /-- The column is none of the values. -/
  without : Option (Option (List Value))
  /-- The column is another value. -/
  neq : Option Value
  /-- The column is greater. -/
  gt : Option Value
  /-- The column is less. -/
  lt : Option Value
  /-- The column is greater or equal. -/
  gte : Option Value
  /-- The column is less or equal. -/
  lte : Option Value
  /-- The column is the value. -/
  eq : Option Value

namespace OperatorFilter

/-- An operand that should be null or a list. -/
def listOperand (v : Value) : Except Complaint (Option (List Value)) :=
  match v with
  | .null => .ok none
  | v => v.asList.map some

/-- A list operand that may be absent, with its issue if it cannot be read. -/
def readList (entries : Entries) (name : String) :
    Except Issue (Option (Option (List Value))) :=
  match entries.get? name with
  | none => .ok none
  | some v => match listOperand v with
    | .ok operand => .ok (some operand)
    | .error c => .error ⟨[name], c, v⟩

/-- The name under which the first operator is given: `in`, or `in_` where there is no `in`. -/
def withinName (entries : Entries) : String := if entries.has "in" then "in" else "in_"

/-- An operator object from its entries. Names that are no operators are passed over. -/
def ofEntries (entries : Entries) : Except Invalid OperatorFilter :=
  match readList entries (withinName entries), readList entries "nin" with
  | .ok within, .ok without => .ok {
      within := within
      without := without
      neq := entries.get? "neq"
      gt := entries.get? "gt"
      lt := entries.get? "lt"
      gte := entries.get? "gte"
      lte := entries.get? "lte"
      eq := entries.get? "eq" }
  | within, without =>
    .error ⟨"OperatorFilter", issueOf within ++ issueOf without⟩

/-- An operator object from a value. -/
def ofValue (v : Value) : Except Invalid OperatorFilter :=
  match v with
  | .map entries => ofEntries entries
  | v => .error ⟨"OperatorFilter", [⟨[], .notOperators, v⟩]⟩

/-- The entry of a list operator: none if it is absent or null. -/
def listEntry (name : String) : Option (Option (List Value)) → Entries
  | some (some xs) => [(.str name, .list xs)]
  | _ => []

/-- The entry of an operator: none if it is absent. -/
def valueEntry (name : String) : Option Value → Entries
  | some v => [(.str name, v)]
  | none => []

/-- The operators other than equality, in the store's vocabulary and in a fixed order. -/
def operatorEntries (f : OperatorFilter) : Entries :=
  listEntry "in" f.within ++ listEntry "not_in" f.without ++ valueEntry "not" f.neq ++
    valueEntry "gt" f.gt ++ valueEntry "lt" f.lt ++ valueEntry "gte" f.gte ++ valueEntry "lte" f.lte

/-- What an operator object means: equality alone where it is present, and all operators together
otherwise. -/
def condition (f : OperatorFilter) : Value :=
  match f.eq with
  | some v => v
  | none => .map f.operatorEntries

/-- The names of the operators present, in alphabetical order. -/
def presentNames (f : OperatorFilter) : List String :=
  let when (b : Bool) (name : String) : List String := if b then [name] else []
  when f.eq.isSome "eq" ++ when f.gt.isSome "gt" ++ when f.gte.isSome "gte" ++
    when f.within.isSome "in_" ++ when f.lt.isSome "lt" ++ when f.lte.isSome "lte" ++
    when f.neq.isSome "neq" ++ when f.without.isSome "nin"

end OperatorFilter

/-- How filters are compiled for a kind of records. -/
structure Membership where
  /-- The relation that the reserved names are about. -/
  relation : String
  /-- Whether the reserved names are reserved at all. -/
  hoisted : Bool
deriving DecidableEq

/-- The membership of a named relation, or of the one in the settings where the name is empty. -/
def Membership.make (s : Settings) (relation : String) (hoisted : Bool) : Membership :=
  ⟨if relation.isEmpty then s.membershipRelation else relation, hoisted⟩

namespace Filter

/-- The names that ask for a membership. -/
def reservedNames : List String := ["company_id", "role_id"]

/-- Whether a value is a scalar, and so a condition of equality. -/
def isScalar : Value → Bool
  | .str _ => true
  | .int _ => true
  | .float _ => true
  | .bool _ => true
  | .decimal _ => true
  | .date _ => true
  | .datetime _ => true
  | .uuid _ => true
  | _ => false

/-- The reserved entries that ask for something. -/
def membershipEntries (filters : Entries) : Entries :=
  reservedNames.filterMap fun name =>
    let v := filters.getD name
    if v.isTruthy then some (.str name, v) else none

/-- The entries without the reserved names. -/
def ordinaryEntries (filters : Entries) : Entries :=
  reservedNames.foldl (fun es name => es.erase name) filters

/-- The condition of one entry; null, lists and everything else that is neither a scalar nor an
operator object is no condition. -/
def compileEntry (key v : Value) : Except Failure (Option Value) :=
  if isScalar v then .ok (some v)
  else match v with
    | .map entries => match OperatorFilter.ofEntries entries with
      | .ok f => .ok (some f.condition)
      | .error r =>
        let reason := (r.issues.head?.map (·.complaint)).getD .notList
        .error (.spec (.badOperators key reason))
    | _ => .ok none

/-- Compile entries one after another onto the conditions gathered so far. -/
def compileEntries : Entries → Entries → Except Failure Entries
  | done, [] => .ok done
  | done, (key, v) :: rest => do
    let condition ← compileEntry key v
    let next := match condition with
      | some c => done.put key c
      | none => done
    compileEntries next rest

/-- The condition mapping of a filter. -/
def compile (m : Membership) (filters : Entries) : Except Failure Entries :=
  let membership := membershipEntries filters
  if m.hoisted && !membership.isEmpty then
    compileEntries [(.str m.relation, .map [(.str "some", .map membership)])]
      (ordinaryEntries filters)
  else compileEntries [] filters

/-- How often references back are followed in a filter: a condition and an operand of it are looked
into, and nothing further down. -/
def timesFollowed : Nat := 2

/-- A filter, or a condition mapping, with its references back followed; `around` are the mappings
around it. -/
def unfolded (around : List Entries) (v : Value) : Value := v.unfold timesFollowed around

/-- The condition mapping of a value that should be a filter. -/
def ofValue (m : Membership) (v : Value) : Except Failure Entries := do
  let filters ← (unfolded [] v).asEntries.mapError Failure.misuse
  compile m filters

end Filter

end Recordbook

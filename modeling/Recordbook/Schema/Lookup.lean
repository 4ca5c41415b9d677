import Recordbook.Value.Shape

/-!
# Names of columns and relations

A name in a query is a value like any other. Looking one up fails unless it is a text that names a
column, or a relation, of the kind of records at hand; no unknown name is passed over.
-/

namespace Recordbook

namespace Entity

/-- The column that a name stands for. -/
def columnOf (e : Entity) (name : Value) : Except Failure Column :=
  match name.keyProblem? with
  | some m => .error (.misuse m)
  | none =>
    match name with
    | .str s => match e.column? s with
      | some c => .ok c
      | none => .error (.spec (.unknownField (.str s) e))
    | v => .error (.spec (.unknownField v e))

/-- The relation that a name stands for. -/
def relationOf (e : Entity) (name : Value) : Except Failure Relation :=
  match name.keyProblem? with
  | some m => .error (.misuse m)
  | none =>
    match name with
    | .str s => match e.relation? s with
      | some r => .ok r
      | none => .error (.spec (.unknownRelation (.str s) e))
    | v => .error (.spec (.unknownRelation v e))

/-- The relation that a key of a condition names, if it names one. -/
def relationNamed? (e : Entity) (name : Value) : Option Relation :=
  match name with
  | .str s => e.relation? s
  | _ => none

end Entity

end Recordbook

import Recordbook.Query.Filter
import Recordbook.Query.Include
import Recordbook.Query.Order

/-!
# Queries

A query specification bundles a filter, an order and an include. Compiling it gives the query that
the store runs. The three are validated together, before any of them is compiled, and then compiled
in that order.
-/

namespace Recordbook

/-- A specification whose three parts are mappings from texts. -/
structure QuerySpec where
  /-- The filter. -/
  filters : Entries
  /-- The order. -/
  order : Entries
  /-- The include, with the mappings around it, if there is one. -/
  tree : Option (List Place)

/-- A query that is ready to be run. -/
structure CompiledQuery where
  /-- The conditions. -/
  filter : Entries := []
  /-- The order, the most significant term first. -/
  order : OrderTerms := []
  /-- What to load along with each record. -/
  tree : Option Entries := none

namespace QuerySpec

/-- The validated include, none for null. -/
def validTree (around : List Place) (v : Value) : Except (List Issue) (Option (List Place)) :=
  let index := match around with
    | [] => 0
    | place :: _ => Include.indexOf place.entries "include"
  match v with
  | .null => .ok none
  | v => match Include.enter? around index v with
    | some (place :: outer) =>
      (textMapping ["include"] (.map place.entries)).map fun _ => some (place :: outer)
    | _ => .error [⟨["include"], .notMapping, v⟩]

/-- The issues of a part. -/
def partIssues {α : Type} : Except (List Issue) α → List Issue
  | .ok _ => []
  | .error issues => issues

/-- A specification from its three parts; `around` are the mappings around them. -/
def make (around : List Place) (filters order tree : Value) : Except Failure QuerySpec :=
  let outer := around.map (·.entries)
  let filters := textMapping ["filters"] (Filter.unfolded outer filters)
  let order := textMapping ["order"] (order.unfold 1 outer)
  match filters, order, validTree around tree with
  | .ok filters, .ok order, .ok tree => .ok ⟨filters, order, tree⟩
  | filters, order, tree =>
    .error (.invalid ⟨"QuerySpec", partIssues filters ++ partIssues order ++ partIssues tree⟩)

/-- The value itself, or the empty mapping where it is falsy. -/
def orEmpty (v : Value) : Value := if v.isTruthy then v else .map []

/-- A specification from a mapping with the three parts, each of which may be absent. -/
def ofValue (v : Value) : Except Failure QuerySpec :=
  if !v.isTruthy then .ok ⟨[], [], none⟩
  else match v with
    | .map entries =>
      let part (name : String) : Value := Entries.getD entries name
      make [⟨[], entries⟩] (orEmpty (part "filters")) (orEmpty (part "order")) (part "include")
    | v => .error (.misuse (v.callProblem "get"))

/-- A specification from named parts, each taken as it is given. -/
def ofParts (entries : Entries) : Except Failure QuerySpec :=
  if entries.any fun e => !e.1.isString then .error (.misuse .keyNotText)
  else make [⟨[], entries⟩] ((entries.get? "filters").getD (.map []))
    ((entries.get? "order").getD (.map [])) (entries.getD "include")

/-- The query that a specification compiles to. -/
def compile (s : Settings) (m : Membership) (q : QuerySpec) : Except Failure CompiledQuery := do
  let filter ← Filter.compile m q.filters
  let order ← (Order.compile q.order).mapError Failure.misuse
  let tree ← match q.tree with
    | none => pure none
    | some places => (Include.expandCopy s.includeMaxDepth places).map some
  return ⟨filter, order, tree⟩

end QuerySpec

namespace CompiledQuery

/-- The parts of a compiled query, for an answer. -/
def toEntries (q : CompiledQuery) : List (String × Value) := [
  ("where", .map q.filter), ("order_by", Order.toValue q.order),
  ("include", (q.tree.map Value.map).getD .null)]

/-- A direction written out. -/
def directionOf : Value → Except Complaint Direction
  | .str "asc" => .ok .ascending
  | .str "desc" => .ok .descending
  | _ => .error (.notOneOf ["asc", "desc"])

/-- The issues of one mapping of an order that is written out. -/
def orderingIssues (index : Nat) : Value → List Issue
  | .map entries => entries.flatMap fun e =>
      let path := ["order_by", toString index, keyPart e.1]
      issuesAt (path ++ ["[key]"]) e.1 e.1.asText ++ issuesAt path e.2 (directionOf e.2)
  | v => [⟨["order_by", toString index], .notMapping, v⟩]

/-- The issues of an order that is written out, from an index on. -/
def orderingsIssues : Nat → List Value → List Issue
  | _, [] => []
  | index, v :: vs => orderingIssues index v ++ orderingsIssues (index + 1) vs

/-- The terms of one mapping of an order that is written out. -/
def orderingTerms : Value → OrderTerms
  | .map entries => (textKeyed entries).filterMap fun e => match directionOf e.2 with
      | .ok d => some (e.1, d)
      | .error _ => none
  | _ => []

/-- An order that is written out. -/
def orderOf (v : Value) : Except (List Issue) OrderTerms :=
  match v.asList with
  | .error c => .error [⟨["order_by"], c, v⟩]
  | .ok vs =>
    let issues := orderingsIssues 0 vs
    if issues.isEmpty then .ok (vs.flatMap orderingTerms) else .error issues

/-- An include tree that is written out, none for null. -/
def treeOf : Value → Except (List Issue) (Option Entries)
  | .null => .ok none
  | v => (textMapping ["include"] v).map some

/-- A part read by `read` if it is given, and the default otherwise. -/
def readPart {α : Type} (default : α) (read : Value → Except (List Issue) α) :
    Option Value → Except (List Issue) α
  | none => .ok default
  | some v => read v

/-- A query from parts that are written out, each of which may be absent. -/
def make (filter order tree : Option Value) : Except Failure CompiledQuery :=
  match readPart [] (textMapping ["where"]) (filter.map (Filter.unfolded [])),
      readPart [] orderOf order, readPart none treeOf tree with
  | .ok filter, .ok order, .ok tree => .ok ⟨filter, order, tree⟩
  | filter, order, tree =>
    .error (.invalid ⟨"CompiledQuery", QuerySpec.partIssues filter ++ QuerySpec.partIssues order ++
      QuerySpec.partIssues tree⟩)

end CompiledQuery

end Recordbook

import Recordbook.Value.Shape

/-!
# Includes

An include maps relation names to what should be loaded along with a record: `true` for the related
records, a list of names for some columns of them, a mapping for records related to those in turn.
It is expanded to a tree in which each of these has one form.

A specification may refer back to a mapping around it. Following such a reference leads to the very
mapping that is being expanded, so a mapping is known by its position in the specification, and a
mapping met again on the way down is refused. So is one deeper than a limit.

The depth of the call stack is not modelled: apart from that limit, nesting may be as deep as it
likes.

## Implementation notes

Expansion recurs on the number of levels that are left. A `Place` stack is the mapping at hand and
the mappings around it, nearest first; a reference back drops places from it.
-/

namespace Recordbook

/-- A mapping inside a specification. -/
structure Place where
  /-- Where it is: the entry that leads to it, then the entry that leads to the mapping around it,
  and so on. -/
  position : List Nat
  /-- Its entries. -/
  entries : Entries

namespace Include

/-- The position of the mapping at hand. -/
def positionOf : List Place → List Nat
  | [] => []
  | p :: _ => p.position

/-- The places of the mapping that is the value of an entry, if it is a mapping. -/
def enter? (around : List Place) (index : Nat) : Value → Option (List Place)
  | .map entries => some (⟨index :: positionOf around, entries⟩ :: around)
  | .up levels => match around.drop (levels - 1) with
    | [] => none
    | places => some places
  | _ => none

/-- The tree of some columns. -/
def selection : List Value → Except Failure Value
  | fields => match fields.findSome? Value.keyProblem? with
    | some p => .error (.misuse p)
    | none => .ok (.map [(.str "select", .map (Entries.ofPairs (fields.map fun f => (f, .bool true))))])

/-- The columns that an explicit entry lists. -/
def listedFields (around : List Place) (index : Nat) (v : Value) : Except Failure (List Value) :=
  match enter? around index v with
  | some (place :: _) => .ok (place.entries.map (·.1))
  | _ =>
    if v.isTruthy then
      match v.items with
      | .ok fields => .ok fields
      | .error m => .error (.misuse m)
    else .ok []

/-- The place of a name among entries. -/
def indexOf (entries : Entries) (name : String) : Nat := entries.findIdx fun e => e.1.isText name

/-- The expansion of what stands under `include` in an entry. -/
def expandInner (next : List Place → Except Failure Entries) (around : List Place)
    (entries : Entries) (v : Value) : Except Failure Value :=
  match enter? around (indexOf entries "include") v with
  | some places => do
    let tree ← next places
    return .map [(.str "include", .map tree)]
  | none => .error (.spec (.includeNotMapping v.kindName))

/-- The expansion of an explicit entry. -/
def expandKind (next : List Place → Except Failure Entries) (around : List Place)
    (entries : Entries) (key kind : Value) : Except Failure Value :=
  match kind.keyProblem? with
  | some p => .error (.misuse p)
  | none =>
    if kind.isText "shallow" then .ok (.bool true)
    else if kind.isText "select" then do
      let fields ← listedFields around (indexOf entries "fields") (entries.getD "fields")
      selection fields
    else if kind.isText "nested" then
      let inner := entries.getD "include"
      if inner.isTruthy then expandInner next around entries inner
      else do
        let tree ← next (⟨entries.length :: positionOf around, []⟩ :: around)
        return .map [(.str "include", .map tree)]
    else .error (.spec (.unknownIncludeKind kind key))

/-- The expansion of an entry whose value is a mapping, the first of the places. -/
def expandMapping (next : List Place → Except Failure Entries) (key : Value)
    (places : List Place) : Except Failure Value :=
  match places with
  | [] => .ok (.map [])
  | place :: _ => match place.entries.get? "kind" with
    | some kind => expandKind next places place.entries key kind
    | none => match place.entries.get? "include" with
      | some inner => expandInner next places place.entries inner
      | none => do
        let tree ← next places
        return .map tree

/-- The expansion of one entry, none if it asks for nothing. -/
def expandEntry (next : List Place → Except Failure Entries) (around : List Place) (index : Nat)
    (key v : Value) : Except Failure (Option Value) :=
  match v with
  | .bool true => .ok (some (.bool true))
  | .list fields => (selection fields).map some
  | .tuple fields => (selection fields).map some
  | v => match enter? around index v with
    | some places => (expandMapping next key places).map some
    | none => .ok none

/-- An entry of a mapping, or of a copy of one. -/
structure IndexedEntry where
  /-- The place of the entry in the mapping. -/
  index : Nat
  /-- The key. -/
  key : Value
  /-- The value. -/
  value : Value

/-- The entries of a mapping with their places. -/
def indexed (entries : Entries) : List IndexedEntry :=
  entries.zipIdx.map fun e => ⟨e.2, e.1.1, e.1.2⟩

/-- The place of the last entry whose key is a name once keys are read as texts. -/
def lastIndexOf (entries : Entries) (key : Value) : Nat :=
  let named := entries.zipIdx.filter fun e => match e.1.1.asText with
    | .ok s => key.isText s
    | .error _ => false
  (named.getLast?.map (·.2)).getD 0

/-- The entries of the copy of a mapping whose keys are all texts, with the places that their values
have in the mapping itself. -/
def indexedCopy (entries : Entries) : List IndexedEntry :=
  (textKeyed entries).map fun e => ⟨lastIndexOf entries e.1, e.1, e.2⟩

/-- The expansion of entries; `next` expands the mappings that they lead to. -/
def expandEntries (next : List Place → Except Failure Entries) (around : List Place) :
    List IndexedEntry → Except Failure Entries
  | [] => .ok []
  | e :: rest => do
    let here ← expandEntry next around e.index e.key e.value
    let others ← expandEntries next around rest
    return match here with
      | some tree => (e.key, tree) :: others
      | none => others

/-- The expansion of the mapping at hand with so many levels left; `path` has the positions of the
mappings being expanded. -/
def expandAt (limit : Int) : Nat → List (List Nat) → List Place → Except Failure Entries
  | levels, path, places =>
    if path.contains (positionOf places) then .error (.spec .cyclicInclude)
    else match levels with
      | 0 => .error (.spec (.deepInclude limit))
      | rest + 1 => match places with
        | [] => .ok []
        | place :: _ =>
          expandEntries (expandAt limit rest (place.position :: path)) places
            (indexed place.entries)

/-- The expansion of a specification. -/
def expand (limit : Int) (spec : Value) : Except Failure Entries :=
  match spec with
  | .map entries => expandAt limit limit.toNat [] [⟨[], entries⟩]
  | v => .error (.spec (.includeNotMapping v.kindName))

/-- The expansion of the copy of the mapping at hand whose keys are all texts. References back lead
to the mapping itself and never to the copy, so the copy is not on the path. -/
def expandCopy (limit : Int) (places : List Place) : Except Failure Entries :=
  match limit.toNat, places with
  | 0, _ => .error (.spec (.deepInclude limit))
  | _, [] => .ok []
  | rest + 1, place :: _ => expandEntries (expandAt limit rest []) places (indexedCopy place.entries)

end Include

end Recordbook

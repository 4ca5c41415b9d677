import Recordbook.Failure

/-!
# Shapes of values

Reading a value as a sequence of items, as a mapping, or as a key, with the failures that arise when
it is none.
-/

namespace Recordbook

namespace Value

mutual

/-- Why a value cannot be a key, if it cannot. -/
def keyProblem? : Value → Option Misuse
  | .list _ => some (.notAKey "list")
  | .map _ => some (.notAKey "dict")
  | .up _ => some (.notAKey "dict")
  | .model .. => some (.notAKey "Model")
  | .decimal (.nan _ true _) => some .signalingKey
  | .tuple items => keyProblemIn? items
  | _ => none
termination_by structural x => x

/-- Why a sequence of values cannot be a key, if it cannot. -/
def keyProblemIn? : List Value → Option Misuse
  | [] => none
  | x :: xs => (keyProblem? x).or (keyProblemIn? xs)
termination_by structural x => x

end

/-- A field of a payload with its value, null if it was not given. -/
def fieldPairs (fields : List String) (given : Entries) : Entries :=
  fields.map fun f => (.str f, given.getD f)

/-- The items that a value consists of: those of a sequence, the characters of a text, the numbers
of raw data, the keys of a mapping. -/
def items : Value → Except Misuse (List Value)
  | .list xs => .ok xs
  | .tuple xs => .ok xs
  | .map es => .ok (es.map (·.1))
  | .str s => .ok (s.toList.map fun c => .str (String.singleton c))
  | .bytes bs => .ok (bs.map fun b => .int b.toNat)
  | .model fields given => .ok ((fieldPairs fields given).map fun e => .tuple [e.1, e.2])
  | v => .error (.notIterable v.longKindName)

/-- Whether a value is a payload with a field of a name. -/
def hasField (name : String) : Value → Bool
  | .model fields _ => fields.contains name
  | _ => false

/-- What comes of calling an operation that a value does not have. A payload may have a field of its
name, which is then taken for it. -/
def callProblem (operation : String) (v : Value) : Misuse :=
  match v with
  | .model fields given =>
    if fields.contains operation then .notCallable (Entries.getD given operation).longKindName
    else .noMember v.longKindName operation
  | v => .noMember v.longKindName operation

/-- A value as a field that holds a list: a sequence, or a payload with its fields as pairs. -/
def asList (v : Value) : Except Complaint (List Value) :=
  match v with
  | .list xs => .ok xs
  | .tuple xs => .ok xs
  | .model fields given => .ok ((fieldPairs fields given).map fun e => .tuple [e.1, e.2])
  | _ => .error .notList

/-- An item as a pair of a key and a value; the index is for messages. -/
def asPair (index : Nat) (v : Value) : Except Misuse (Value × Value) :=
  match v.items with
  | .error _ => .error (.pairItems index)
  | .ok [k, x] => match k.keyProblem? with
    | some p => .error p
    | none => .ok (k, x)
  | .ok xs => .error (.pairLength index xs.length)

/-- Items as pairs, from an index on. -/
def asPairs : Nat → List Value → Except Misuse Entries
  | _, [] => .ok []
  | index, x :: xs => do
    let pair ← asPair index x
    let rest ← asPairs (index + 1) xs
    return pair :: rest

/-- A value as a mapping: a mapping itself, or a sequence of pairs. -/
def asEntries (v : Value) : Except Misuse Entries :=
  match v with
  | .map es => .ok es
  | v =>
    if v.hasField "keys" then .error (v.callProblem "keys")
    else do
      let items ← v.items
      let pairs ← asPairs 0 items
      return Entries.ofPairs pairs

/-- A mapping of which the entries are wanted. -/
def entries (v : Value) : Except Misuse Entries :=
  match v with
  | .map es => .ok es
  | v => .error (v.callProblem "items")

/-- A value as a mapping, where a falsy one means the empty mapping. -/
def asEntriesOrEmpty (v : Value) : Except Misuse Entries :=
  if v.isTruthy then v.asEntries else .ok []

end Value

end Recordbook

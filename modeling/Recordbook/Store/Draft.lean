import Recordbook.Schema.Lookup
import Recordbook.Store.Binding
import Recordbook.Store.Constraint
import Recordbook.Value.Payload

/-!
# Drafts

What a caller asks to be written, before it is: the attributes of a new record, or the changes of an
old one. Building a draft may fail on names and shapes and never touches the store. Writing it binds
the values, fills in defaults, and is refused where a constraint would be broken.

## Main definitions

* `Draft.ofEntries`, `Draft.insert` — a new record
* `Draft.changes`, `Draft.applyChanges` — changes of an old one
-/

namespace Recordbook

/-- When a write happens, and the key that it may use. -/
structure Occasion where
  /-- The time. -/
  now : Timestamp
  /-- A key that was not used before. -/
  freshKey : Uuid

/-- The attributes of a new record. -/
structure Draft where
  /-- The values given to columns, in the order in which they were given. -/
  values : List (Field × Value)
  /-- The columns that are emptied because the relation on them was given as absent. -/
  cleared : List Field
  /-- The collections that were given with absent records in them. -/
  incomplete : List String
  /-- Whether the contents of the record were given all at once. Such a record takes no columns and
  relations any more, and it is not known as a record. -/
  replaced : Bool

namespace Draft

/-- The cell of a default. -/
def defaultCell (o : Occasion) : ColumnDefault → Cell
  | .freshKey => .key o.freshKey
  | .now => .moment o.now
  | .text s => .text s
  | .flag b => .flag b
  | .zero => .amount (.finite false 0 Binary64.minExponent)

/-- The draft of a record of which nothing was given. -/
def empty : Draft := ⟨[], [], [], false⟩

/-- The name of the kind of a value that is no collection. -/
def collectionKind : Value → String
  | .null => "None"
  | v => v.kindName

/-- A collection of a new record. It can be empty or hold absent records; nothing else is a record
that could be linked. -/
def giveCollection (r : Relation) (d : Draft) (v : Value) : Except Misuse Draft :=
  match v with
  | .list [] => .ok d
  | .list items => match items.find? fun item => !item.isNull with
    | some item => .error (.noMember item.longKindName Attribute.stateMember)
    | none => .ok { d with incomplete := d.incomplete ++ [r.name] }
  | v => .error (.notCollection (collectionKind v))

/-- A relation of a new record: a collection, or a reference that can only be absent. -/
def giveRelation (r : Relation) (d : Draft) (v : Value) : Except Misuse Draft :=
  if r.many then giveCollection r d v
  else
    match v with
    | .null => .ok { d with cleared := d.cleared ++ [r.near] }
    | v => .error (.noMember v.longKindName Attribute.stateMember)

/-- The contents of a new record, all at once. -/
def giveContents (d : Draft) (v : Value) : Except Misuse Draft :=
  match v with
  | .map _ => .ok { d with replaced := true }
  | .up _ => .ok { d with replaced := true }
  | v => .error (.contentsNotMapping v.longKindName)

/-- An attribute of a new record. -/
def give (e : Entity) (d : Draft) (name : String) (v : Value) : Except Misuse Draft :=
  let known (next : Except Misuse Draft) : Except Misuse Draft :=
    if d.replaced then .error (.noMember e.typeName Attribute.stateMember) else next
  match e.attribute? name with
  | some (.column c) => known (.ok { d with values := d.values ++ [(c.field, v)] })
  | some (.relation r) => known (giveRelation r d v)
  | some .kind => .error (.kindGiven v.longKindName)
  | some .readOnly => .error (.readOnly name Attribute.ownerName)
  | some .contents => giveContents d v
  | some .inert => .ok d
  | none => .error (.unexpectedKey name e)

/-- Attributes of a new record, one after another. -/
def giveAll (e : Entity) : Draft → List (String × Value) → Except Misuse Draft
  | d, [] => .ok d
  | d, (name, v) :: rest => do
    let next ← d.give e name v
    giveAll e next rest

/-- Entries with their names, if all keys are texts. -/
def named? (entries : Entries) : Option (List (String × Value)) :=
  entries.mapM fun e => match e.1 with
    | .str s => some (s, e.2)
    | _ => none

/-- The draft that named attributes make. -/
def ofNamed (e : Entity) (given : List (String × Value)) : Except Misuse Draft :=
  if given.any fun g => g.1 = Attribute.selfName then .error (.givenTwice Attribute.selfName)
  else do
    let draft ← giveAll e empty given
    if draft.replaced then throw (.unknownRecord e) else return draft

/-- The draft of a new record. -/
def ofEntries (e : Entity) (entries : Entries) : Except Failure Draft :=
  match named? entries with
  | none => .error (.misuse .keyNotText)
  | some given => (ofNamed e given).mapError Failure.misuse

/-- The value given to a column, null if none was; a cleared column has none. -/
def valueOf (d : Draft) (f : Field) : Value :=
  if d.cleared.contains f then .null
  else ((d.values.find? fun e => e.1 = f).map (·.2)).getD .null

/-- The first step of binding the value of a column. -/
def processColumn (c : Column) (v : Value) : Except Failure (Column × Parameter) :=
  ((Binding.ofColumn c.kind).process v).mapError (fun u => .store (.unfit u)) |>.map fun p => (c, p)

/-- The second step of binding the value of a column. -/
def acceptColumn (p : Column × Parameter) : Except Failure (Column × Cell) :=
  p.2.accept.map fun d => (p.1, .ofDatum p.1.kind d)

/-- Values of columns as cells: all go through the first step of binding before any goes through the
second. -/
def bindColumns (values : List (Column × Value)) : Except Failure (List (Column × Cell)) := do
  let processed ← values.mapM fun e => processColumn e.1 e.2
  processed.mapM acceptColumn

/-- The cell of a new record: what was given, or else the default. A null counts as not given. -/
def newCell (o : Occasion) (given : Value) (c : Column) (cell : Cell) : Cell :=
  if given.isNull then (c.default.map (defaultCell o)).getD .empty else cell

/-- The record that a draft makes. -/
def record (o : Occasion) (e : Entity) (d : Draft) : Except Failure Row := do
  let cells ← bindColumns (e.columns.map fun c => (c, d.valueOf c.field))
  return Row.ofCells (cells.map fun p => (p.1.field, newCell o (d.valueOf p.1.field) p.1 p.2))

/-- A refusal of the store as a failure. -/
def refused (v : Violation) : Failure := .store (.violation v)

/-- The first collection, by name, that was given with absent records in it. -/
def incomplete? (d : Draft) : Option String := (d.incomplete.mergeSort (· ≤ ·)).head?

/-- The store with the record that a draft makes, and that record. Its collections are looked at
once the record itself is written. -/
def insert (o : Occasion) (e : Entity) (d : Draft) (s : Store) : Except Failure (Store × Row) := do
  let row ← record o e d
  let next ← (s.insert e row).mapError refused
  match d.incomplete? with
  | some relation => throw (.store (.absentMember e relation))
  | none => return (next, row)

/-! ### Changes -/

/-- A value as data to be written: the given fields of a payload, or a mapping. -/
def dataOf (v : Value) : Except Failure Entries :=
  match v with
  | .model _ given => .ok (Value.plainEntries given)
  | v => v.asEntries.mapError Failure.misuse

/-- The entries of data that name columns; all others are passed over. -/
def columnEntries (e : Entity) (data : Entries) : List (Column × Value) :=
  data.filterMap fun entry => match entry.1 with
    | .str s => (e.column? s).map fun c => (c, entry.2)
    | _ => none

/-- The entry of data that is for a column. -/
def given? (e : Entity) (data : Entries) (c : Column) : Option (Column × Value) :=
  (columnEntries e data).find? fun g => g.1.field = c.field

/-- Whether an entry of data cannot be compared with what is stored: a signaling number with a
number. -/
def isIncomparable (row : Row) (g : Column × Value) : Bool :=
  g.2.isSignaling && (row.value g.1.field).quantity?.isSome

/-- What data changes in a record: the columns whose value differs from the one read from the
record, in order of declaration. -/
def changes (e : Entity) (row : Row) (data : Entries) : List (Column × Value) :=
  e.columns.filterMap fun c =>
    (given? e data c).bind fun g => if g.2.same (row.value c.field) then none else some g

/-- Whether a column is set to the time of each change, unless it is changed itself. -/
def isTouched (changed : List (Column × Value)) (c : Column) : Bool :=
  c.field = .updatedAt && !changed.any fun g => g.1.field = .updatedAt

/-- The record with changes made to it. -/
def changedRecord (o : Occasion) (e : Entity) (row : Row) (changed : List (Column × Value)) :
    Except Failure Row := do
  let cells ← bindColumns changed
  let touched := (e.columns.filter (isTouched changed)).map fun c => (c.field, Cell.moment o.now)
  return (row.setAll (cells.map fun p => (p.1.field, p.2))).setAll touched

/-- The store with a record changed by data, and the record as it is then. Data that changes nothing
writes nothing. -/
def applyChanges (o : Occasion) (e : Entity) (row : Row) (data : Entries) (s : Store) :
    Except Failure (Store × Row) :=
  if (e.columns.filterMap (given? e data)).any (isIncomparable row) then
    .error (.misuse (.noDecimalResult .invalid))
  else match changes e row data with
    | [] => .ok (s, row)
    | changed => do
      let next ← changedRecord o e row changed
      let written ← (s.replace e row next).mapError refused
      return (written, next)

end Draft

end Recordbook

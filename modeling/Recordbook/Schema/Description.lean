import Recordbook.Schema

/-!
# Descriptions of the tables

How the tables look from outside, in the words of the store: declared types, defaults, keys and
indexes. There are two descriptions, which differ in details. One is of the tables as this library
declares them; the other is of the tables as the first migration makes them, where the store itself
fills in defaults and indexes speed up two look-ups.
-/

namespace Recordbook

namespace Schema

/-- Where the tables come from. -/
inductive Origin
  /-- From the declarations. -/
  | declared
  /-- From the first migration. -/
  | migrated
  /-- From the first migration, taken back afterwards. -/
  | reverted
deriving DecidableEq, Repr

/-- A column, as the store describes it. -/
structure ColumnDescription where
  /-- The name. -/
  name : String
  /-- The declared type. -/
  type : String
  /-- Whether it may be empty. -/
  nullable : Bool
  /-- The default that the store fills in, as it is written there. -/
  default : Option String
  /-- Whether it is the key of the table. -/
  isKey : Bool

/-- A reference to another table. -/
structure ReferenceDescription where
  /-- The column. -/
  column : String
  /-- The table referred to. -/
  table : String
  /-- The column referred to. -/
  target : String
  /-- What a removal there does here. -/
  onDelete : String

/-- An index. -/
structure IndexDescription where
  /-- The name. -/
  name : String
  /-- The columns. -/
  columns : List String

/-- A table, as the store describes it. -/
structure TableDescription where
  /-- The columns, in order of declaration. -/
  columns : List ColumnDescription
  /-- The unique keys besides the primary one. -/
  unique : List (List String)
  /-- The references, in order of their columns. -/
  references : List ReferenceDescription
  /-- The indexes. -/
  indexes : List IndexDescription

/-- The declared type of a column. -/
def typeText (o : Origin) : ColumnKind → String
  | .uuid => match o with
    | .declared => "CHAR(32)"
    | _ => "UUID"
  | .text n => "VARCHAR(" ++ toString n ++ ")"
  | .flag => "BOOLEAN"
  | .moment => "DATETIME"
  | .money => "NUMERIC(18, 2)"

/-- A default as the store writes it; keys are never made by the store. -/
def defaultText? : ColumnDefault → Option String
  | .freshKey => none
  | .now => some "CURRENT_TIMESTAMP"
  | .text s => some ("'" ++ s ++ "'")
  | .flag b => some (if b then "true" else "false")
  | .zero => some "'0'"

/-- A column's description. A migrated time that the store fills in may be empty. -/
def describeColumn (o : Origin) (c : Column) : ColumnDescription where
  name := c.field.label
  type := typeText o c.kind
  nullable := match o with
    | .declared => c.nullable
    | _ => c.nullable || c.default == some .now
  default := match o with
    | .declared => none
    | _ => c.default.bind defaultText?
  isKey := c.field = .id

/-- Whether a column may be empty. -/
def isNullable (e : Entity) (f : Field) : Bool :=
  (e.columns.find? fun c => c.field = f).any fun c => c.nullable

/-- What a removal on the other side does to a reference. -/
def removalText (policy : RemovalPolicy) (nullable : Bool) : String :=
  match policy with
  | .remove => "CASCADE"
  | .detach => if nullable then "SET NULL" else "RESTRICT"

/-- The references of a table: for each relation to one record, what the collection on the other
side says about removals. -/
def references (e : Entity) : List ReferenceDescription :=
  e.relations.filterMap fun r =>
    if r.many then none
    else
      let policy := ((r.target.relations.find? fun back =>
        back.target = e && back.remote = r.near).map (·.policy)).getD .detach
      some ⟨r.near.label, r.target.table, r.remote.label, removalText policy (isNullable e r.near)⟩

/-- The indexes that the first migration makes. -/
def migratedIndexes : Entity → List IndexDescription
  | .membership => [⟨"ix_user_company_roles_company_id", ["company_id"]⟩]
  | .card => [⟨"ix_cards_company_status", ["company_id", "status"]⟩]
  | _ => []

/-- The description of a table. -/
def describe (o : Origin) (e : Entity) : TableDescription where
  columns := e.columns.map (describeColumn o)
  unique := e.uniqueKeys.map fun key => key.map Field.label
  references := (references e).mergeSort fun a b => a.column ≤ b.column
  indexes := match o with
    | .migrated => migratedIndexes e
    | _ => []

/-- The names of the tables, in alphabetical order. -/
def tableNames (o : Origin) : List String :=
  match o with
  | .reverted => []
  | _ => (Entity.all.map Entity.table).mergeSort fun a b => a ≤ b

/-- The kind of records in a table of the given name. -/
def entityOfTable? (o : Origin) (name : String) : Option Entity :=
  match o with
  | .reverted => none
  | _ => Entity.all.find? fun e => e.table = name

end Schema

end Recordbook

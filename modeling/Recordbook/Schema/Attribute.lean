import Recordbook.Schema

/-!
# Attributes of records

The names that may be given to a new record. Columns and relations are what it is made of. Beside
them every record has names that belong to the library of records itself: nearly all of them may be
given and then mean nothing, and a few are guarded.

## Main definitions

* `Attribute`, `Entity.attribute?` — what a name means on a new record
* `Entity.qualifiedName` — the name of a kind of records with the place where it is declared
-/

namespace Recordbook

/-- What a name means on a new record. -/
inductive Attribute
  /-- A column. -/
  | column (c : Column)
  /-- A relation. -/
  | relation (r : Relation)
  /-- The kind of the record, which no value can stand for. -/
  | kind
  /-- Something that cannot be given. -/
  | readOnly
  /-- All attributes of the record at once. -/
  | contents
  /-- Nothing: it may be given and has no effect. -/
  | inert
deriving DecidableEq

namespace Attribute

/-- The member by which a record is known as such. -/
def stateMember : String := "_sa_instance_state"

/-- The name that stands for the new record itself, which cannot be given. -/
def selfName : String := "self"

/-- The kind of things that all records are, to which the guarded names belong. -/
def ownerName : String := "DeclarativeBase"

/-- The guarded names. -/
def guarded : List (String × Attribute) :=
  [("__class__", .kind), ("__weakref__", .readOnly), ("__dict__", .contents)]

/-- The names without an effect that every kind of records has. -/
def inertNames : List String := [
  "__annotations__", "__base__", "__bases__", "__basicsize__", "__call__", "__class_getitem__",
  "__delattr__", "__dictoffset__", "__dir__", "__doc__", "__eq__", "__flags__", "__format__",
  "__ge__", "__getattribute__", "__getstate__", "__gt__", "__hash__", "__init__",
  "__init_subclass__", "__instancecheck__", "__itemsize__", "__le__", "__lt__", "__mapper__",
  "__module__", "__mro__", "__name__", "__ne__", "__new__", "__or__", "__orig_bases__",
  "__parameters__", "__prepare__", "__qualname__", "__reduce__", "__reduce_ex__", "__repr__",
  "__ror__", "__setattr__", "__sizeof__", "__slots__", "__str__", "__subclasscheck__",
  "__subclasses__", "__subclasshook__", "__table__", "__tablename__", "__text_signature__",
  "__weakrefoffset__", "_is_protocol", "_sa_class_manager", "_sa_registry", "metadata", "mro",
  "registry"]

/-- The name without an effect that only kinds of records with a unique key of several columns
have. -/
def combinedKeyName : String := "__table_args__"

end Attribute

namespace Entity

/-- Whether several columns together make a unique key. -/
def hasCombinedKey (e : Entity) : Bool := e.uniqueKeys.any fun fields => 1 < fields.length

/-- Whether a name may be given to a new record without an effect. -/
def isInert (e : Entity) (name : String) : Bool :=
  Attribute.inertNames.contains name || (name = Attribute.combinedKeyName && e.hasCombinedKey)

/-- What a name means on a new record, if it may be mentioned at all. -/
def attribute? (e : Entity) (name : String) : Option Attribute :=
  match e.column? name with
  | some c => some (.column c)
  | none => match e.relation? name with
    | some r => some (.relation r)
    | none => (Attribute.guarded.lookup name).or
        (if e.isInert name then some .inert else none)

/-- The part of the schema in which a kind of records is declared. -/
def chapter : Entity → String
  | .company => "organization"
  | .role => "organization"
  | .user => "user"
  | .membership => "user"
  | .wallet => "wallet"
  | .card => "wallet"

/-- The name of a kind of records with the place where it is declared. -/
def qualifiedName (e : Entity) : String := "querystore.models." ++ e.chapter ++ "." ++ e.typeName

end Entity

end Recordbook

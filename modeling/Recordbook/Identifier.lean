import Recordbook.Value.Payload

/-!
# Identifiers

A flexible way to address a record. A text, an integer or a key is the value of the primary key; a
mapping or a payload addresses by its first entry alone. An identifier without a value addresses
nothing and never reaches the store.
-/

namespace Recordbook

/-- An identifier in its one form: a name and the value looked for under it. Null as a name means
that there is none. -/
structure Identifier where
  /-- The name of a column. -/
  key : Value
  /-- The value. -/
  value : Value

namespace Identifier

/-- The name of the primary key. -/
def primaryKey : String := "id"

/-- The identifier that addresses nothing. -/
def absent : Identifier := ⟨.null, .null⟩

/-- How often references back in the value of an identifier are followed: as far down as a log shows
it. -/
def timesFollowed : Nat := 6

/-- The identifier that the first of some entries makes. -/
def ofFirst (entries : Entries) : Identifier :=
  match entries with
  | [] => absent
  | (key, value) :: _ => ⟨key, value.unfold timesFollowed [entries]⟩

/-- The identifier that a value stands for. -/
def resolve (v : Value) : Identifier :=
  match v with
  | .map entries => ofFirst entries
  | .model _ given => ofFirst (Value.plainEntries given)
  | .str _ => ⟨.str primaryKey, v⟩
  | .int _ => ⟨.str primaryKey, v⟩
  | .uuid _ => ⟨.str primaryKey, v⟩
  | _ => absent

/-- Whether there is something to look for. -/
def isValid (i : Identifier) : Bool := !i.key.isNull && !i.value.isNull

end Identifier

end Recordbook

/-!
# The tables

Six kinds of records, the columns of each, and the relations between them. Everything else in the
library asks this module: which names are columns, which are relations, what a column may hold,
what it holds when nothing is given, and what happens to dependent records on a removal.

Foreign keys are relations only. The store does not check that a referenced record exists.
-/

namespace Recordbook

/-- The kinds of records. -/
inductive Entity
  /-- A business account that owns wallets and cards. -/
  | company
  /-- A permission level that a user holds inside a company. -/
  | role
  /-- An account of a person. -/
  | user
  /-- The link that says which role a user holds in which company. -/
  | membership
  /-- The balance of a company in one currency. -/
  | wallet
  /-- A card issued to a company, perhaps to one of its users. -/
  | card
deriving DecidableEq, Repr, Inhabited

/-- The names of columns, over all kinds of records. -/
inductive Field
  | id | name | country | email | createdAt | description | firstName | lastName | phoneNumber
  | passwordHash | kycStatus | isActive | updatedAt | userId | companyId | roleId | currency
  | balance | maskedNumber | status
deriving DecidableEq, Repr, Inhabited

/-- What a column holds. -/
inductive ColumnKind
  /-- A key. -/
  | uuid
  /-- A text, declared for up to a number of characters. The length is not checked. -/
  | text (length : Nat)
  /-- A truth value. -/
  | flag
  /-- A time on a wall clock. -/
  | moment
  /-- An amount of two places. -/
  | money
deriving DecidableEq, Repr, Inhabited

/-- What a column takes when a new record does not give it. -/
inductive ColumnDefault
  /-- A key made for the occasion. -/
  | freshKey
  /-- The time of the insertion. -/
  | now
  /-- A fixed text. -/
  | text (s : String)
  /-- A fixed truth value. -/
  | flag (b : Bool)
  /-- The amount zero. -/
  | zero
deriving DecidableEq, Repr

/-- A column of a table. -/
structure Column where
  /-- Its name. -/
  field : Field
  /-- What it holds. -/
  kind : ColumnKind
  /-- Whether it may be empty. -/
  nullable : Bool
  /-- What a new record takes when it gives nothing. -/
  default : Option ColumnDefault
deriving DecidableEq, Repr

/-- What a removal does to the records on the other side of a relation. -/
inductive RemovalPolicy
  /-- They are removed too. -/
  | remove
  /-- Their reference is emptied, which fails where the column may not be empty. -/
  | detach
deriving DecidableEq, Repr

/-- A relation between two kinds of records: the records of the target whose `remote` column equals
the `near` column of the record at hand. -/
structure Relation where
  /-- Its name. -/
  name : String
  /-- The kind of records on the other side. -/
  target : Entity
  /-- Whether the other side is a collection. -/
  many : Bool
  /-- The column on this side. -/
  near : Field
  /-- The column on the other side. -/
  remote : Field
  /-- For a collection, what a removal of this side does to it. -/
  policy : RemovalPolicy
deriving DecidableEq, Repr

namespace Field

/-- The written name of a column. -/
def label : Field → String
  | .id => "id"
  | .name => "name"
  | .country => "country"
  | .email => "email"
  | .createdAt => "created_at"
  | .description => "description"
  | .firstName => "first_name"
  | .lastName => "last_name"
  | .phoneNumber => "phone_number"
  | .passwordHash => "password_hash"
  | .kycStatus => "kyc_status"
  | .isActive => "is_active"
  | .updatedAt => "updated_at"
  | .userId => "user_id"
  | .companyId => "company_id"
  | .roleId => "role_id"
  | .currency => "currency"
  | .balance => "balance"
  | .maskedNumber => "masked_number"
  | .status => "status"

end Field

namespace Entity

/-- All kinds of records. -/
def all : List Entity := [.company, .role, .user, .membership, .wallet, .card]

/-- The name that a request uses. -/
def key : Entity → String
  | .company => "company"
  | .role => "role"
  | .user => "user"
  | .membership => "user_company_role"
  | .wallet => "wallet"
  | .card => "card"

/-- The kind of records that a request names. -/
def ofKey? (s : String) : Option Entity := all.find? fun e => e.key = s

/-- The name in messages about unknown names. -/
def typeName : Entity → String
  | .company => "Company"
  | .role => "Role"
  | .user => "User"
  | .membership => "UserCompanyRole"
  | .wallet => "Wallet"
  | .card => "Card"

/-- The name of the table. -/
def table : Entity → String
  | .company => "companies"
  | .role => "roles"
  | .user => "users"
  | .membership => "user_company_roles"
  | .wallet => "wallets"
  | .card => "cards"

/-- The key column that every table has. -/
def keyColumn : Column := ⟨.id, .uuid, false, some .freshKey⟩

/-- A column that holds the time of the insertion. -/
def createdColumn : Column := ⟨.createdAt, .moment, false, some .now⟩

/-- The columns of a table, in order of declaration. -/
def columns : Entity → List Column
  | .company => [keyColumn, ⟨.name, .text 200, false, none⟩, ⟨.country, .text 2, true, none⟩,
      ⟨.email, .text 255, true, none⟩, createdColumn]
  | .role => [keyColumn, ⟨.name, .text 100, false, none⟩, ⟨.description, .text 255, true, none⟩]
  | .user => [keyColumn, ⟨.email, .text 255, false, none⟩, ⟨.firstName, .text 100, false, none⟩,
      ⟨.lastName, .text 100, false, none⟩, ⟨.phoneNumber, .text 30, true, none⟩,
      ⟨.passwordHash, .text 255, true, none⟩, ⟨.kycStatus, .text 20, false, some (.text "NONE")⟩,
      ⟨.isActive, .flag, false, some (.flag true)⟩, createdColumn,
      ⟨.updatedAt, .moment, false, some .now⟩]
  | .membership => [keyColumn, ⟨.userId, .uuid, false, none⟩, ⟨.companyId, .uuid, false, none⟩,
      ⟨.roleId, .uuid, false, none⟩, ⟨.isActive, .flag, false, some (.flag true)⟩, createdColumn]
  | .wallet => [keyColumn, ⟨.companyId, .uuid, false, none⟩, ⟨.currency, .text 3, false, none⟩,
      ⟨.balance, .money, false, some .zero⟩, ⟨.isActive, .flag, false, some (.flag true)⟩,
      createdColumn]
  | .card => [keyColumn, ⟨.companyId, .uuid, false, none⟩, ⟨.userId, .uuid, true, none⟩,
      ⟨.maskedNumber, .text 25, false, none⟩, ⟨.status, .text 20, false, some (.text "ACTIVE")⟩,
      ⟨.currency, .text 3, false, some (.text "USD")⟩, ⟨.balance, .money, false, some .zero⟩,
      createdColumn]

/-- The columns that together are given to one record only, besides the key. -/
def uniqueKeys : Entity → List (List Field)
  | .company => [[.name]]
  | .role => [[.name]]
  | .user => [[.email]]
  | .membership => [[.userId, .companyId, .roleId]]
  | .wallet => [[.companyId, .currency]]
  | .card => []

/-- A reference to one record. -/
def toOne (name : String) (target : Entity) (near : Field) : Relation :=
  ⟨name, target, false, near, .id, .detach⟩

/-- A collection of the records that refer here. -/
def toMany (name : String) (target : Entity) (remote : Field) (policy : RemovalPolicy) : Relation :=
  ⟨name, target, true, .id, remote, policy⟩

/-- The relations of a kind of records, in order of declaration. -/
def relations : Entity → List Relation
  | .company => [toMany "user_company_roles" .membership .companyId .remove,
      toMany "wallets" .wallet .companyId .remove, toMany "cards" .card .companyId .remove]
  | .role => [toMany "user_company_roles" .membership .roleId .detach]
  | .user => [toMany "user_company_roles" .membership .userId .remove,
      toMany "cards" .card .userId .detach]
  | .membership => [toOne "user" .user .userId, toOne "company" .company .companyId,
      toOne "role" .role .roleId]
  | .wallet => [toOne "company" .company .companyId]
  | .card => [toOne "company" .company .companyId, toOne "user" .user .userId]

/-- The column of the given name. -/
def column? (e : Entity) (name : String) : Option Column :=
  e.columns.find? fun c => c.field.label = name

/-- The relation of the given name. -/
def relation? (e : Entity) (name : String) : Option Relation :=
  e.relations.find? fun r => r.name = name

/-- No name is both a column and a relation. -/
theorem column?_relation_name (e : Entity) : ∀ r ∈ e.relations, e.column? r.name = none := by
  cases e <;> decide

end Entity

end Recordbook

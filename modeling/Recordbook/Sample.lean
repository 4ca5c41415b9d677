import Recordbook.Store.Table

/-!
# A sample store

Three companies, three roles, five users with their memberships, five wallets and four cards: a
small store in which every relation is used, some columns are empty and some records are inactive.
-/

namespace Recordbook

namespace Sample

/-- The key with the given last two digits. -/
def key (n : Nat) : Cell := .key (Uuid.ofNat (0x40008000000000000000 + n))

/-- The start of a day in January 2025. -/
def january (day : Nat) : Cell := .moment (Timestamp.midnight ⟨2025, 1, day⟩)

/-- An amount in hundredths. -/
def hundredths (n : Int) : Cell :=
  .amount (Binary64.ofQuotient (n < 0) n.natAbs 100)

/-- A text, or nothing. -/
def optional : Option String → Cell
  | some s => .text s
  | none => .empty

/-- A company. -/
def company (id : Nat) (name : String) (country email : Option String) (day : Nat) : Row :=
  Row.ofCells [(.id, key id), (.name, .text name), (.country, optional country),
    (.email, optional email), (.createdAt, january day)]

/-- A role. -/
def role (id : Nat) (name : String) (description : Option String) : Row :=
  Row.ofCells [(.id, key id), (.name, .text name), (.description, optional description)]

/-- A user. -/
def user (id : Nat) (email first last : String) (phone password : Option String) (status : String)
    (active : Bool) (created updated : Cell) : Row :=
  Row.ofCells [(.id, key id), (.email, .text email), (.firstName, .text first),
    (.lastName, .text last), (.phoneNumber, optional phone), (.passwordHash, optional password),
    (.kycStatus, .text status), (.isActive, .flag active), (.createdAt, created),
    (.updatedAt, updated)]

/-- A membership. -/
def membership (id user company role : Nat) (active : Bool) (day : Nat) : Row :=
  Row.ofCells [(.id, key id), (.userId, key user), (.companyId, key company), (.roleId, key role),
    (.isActive, .flag active), (.createdAt, january day)]

/-- A wallet. -/
def wallet (id company : Nat) (currency : String) (balance : Int) (active : Bool) (day : Nat) :
    Row :=
  Row.ofCells [(.id, key id), (.companyId, key company), (.currency, .text currency),
    (.balance, hundredths balance), (.isActive, .flag active), (.createdAt, january day)]

/-- A card. -/
def card (id company : Nat) (user : Option Nat) (number status currency : String) (balance : Int)
    (day : Nat) : Row :=
  Row.ofCells [(.id, key id), (.companyId, key company), (.userId, (user.map key).getD .empty),
    (.maskedNumber, .text number), (.status, .text status), (.currency, .text currency),
    (.balance, hundredths balance), (.createdAt, january day)]

/-- The companies. -/
def companies : List Row := [
  company 0xc1 "Acme" (some "CM") (some "ops@acme.test") 1,
  company 0xc2 "Globex" (some "NG") none 2,
  company 0xc3 "Ñandú SA" none (some "hola@nandu.test") 3]

/-- The roles. -/
def roles : List Row := [
  role 0xa1 "admin" (some "Company administrator"), role 0xa2 "member" none,
  role 0xa3 "auditor" (some "")]

/-- Noon of a day in January 2025. -/
def noon (day : Nat) : Cell := .moment (Timestamp.afterMidnight ⟨2025, 1, day⟩ 43200)

/-- The users. -/
def users : List Row := [
  user 0xb1 "alice@example.com" "Alice" "Ngono" (some "+237600000001") (some "not-a-real-hash")
    "APPROVED" true (january 1) (january 1),
  user 0xb2 "bob@example.com" "Bob" "Eto" none (some "not-a-real-hash") "NONE" true (january 2)
    (january 2),
  user 0xb3 "carol@example.com" "Carol" "Adebayo" (some "") none "PENDING" true (january 3)
    (january 3),
  user 0xb4 "dave@example.com" "Dave" "Mbarga" none (some "x") "NONE" false (january 4) (january 4),
  user 0xb5 "eve@example.com" "élodie" "Eto" (some "+237600000005") none "REJECTED" true (noon 4)
    (january 5)]

/-- The memberships. -/
def memberships : List Row := [
  membership 0xd1 0xb1 0xc1 0xa1 true 1, membership 0xd2 0xb2 0xc1 0xa2 true 2,
  membership 0xd3 0xb3 0xc2 0xa2 true 3, membership 0xd4 0xb5 0xc1 0xa2 false 4,
  membership 0xd5 0xb5 0xc2 0xa1 true 5]

/-- The wallets. -/
def wallets : List Row := [
  wallet 0xe1 0xc1 "XAF" 100000 true 1, wallet 0xe2 0xc1 "USD" 5000 true 2,
  wallet 0xe3 0xc2 "XAF" 1000 true 3, wallet 0xe4 0xc2 "EUR" (-525) false 4,
  wallet 0xe5 0xc3 "USD" 0 true 5]

/-- The cards. -/
def cards : List Row := [
  card 0xf1 0xc1 (some 0xb1) "**** 1111" "ACTIVE" "USD" 1250 1,
  card 0xf2 0xc1 (some 0xb2) "**** 2222" "FROZEN" "USD" 0 2,
  card 0xf3 0xc2 none "**** 3333" "TERMINATED" "EUR" 0 3,
  card 0xf4 0xc1 (some 0xb1) "**** 4444" "TERMINATED" "XAF" 9999 4]

/-- The sample store. -/
def store : Store where
  rows
    | .company => companies
    | .role => roles
    | .user => users
    | .membership => memberships
    | .wallet => wallets
    | .card => cards

end Sample

end Recordbook

/-!
# Universally unique identifiers

The keys of all records: 128 bits, written as 32 hexadecimal digits in five groups. A stored key is
compared as its 32 digits, and digits of one count and case are ordered as the numbers they write.
-/

namespace Recordbook

/-- A key of 128 bits. -/
structure Uuid where
  /-- The bits, as one number. -/
  bits : BitVec 128
deriving DecidableEq, Inhabited

namespace Uuid

/-- The key as a natural number. -/
def val (u : Uuid) : Nat := u.bits.toNat

/-- The key with the given number. -/
def ofNat (n : Nat) : Uuid := ⟨BitVec.ofNat 128 n⟩

/-- One hexadecimal digit, in lower case. -/
def hexDigit (n : Nat) : Char :=
  if n < 10 then Char.ofNat (48 + n) else Char.ofNat (87 + n)

/-- The last `count` hexadecimal digits of a number, the highest first. -/
def hexDigits : Nat → Nat → List Char
  | 0, _ => []
  | count + 1, n => hexDigits count (n / 16) ++ [hexDigit (n % 16)]

/-- The 32 digits without dashes, as a key is stored. -/
def compactText (u : Uuid) : String := String.ofList (hexDigits 32 u.val)

/-- The written form, with four dashes. -/
def text (u : Uuid) : String :=
  let ds := hexDigits 32 u.val
  String.ofList (ds.take 8 ++ '-' :: (ds.drop 8).take 4 ++ '-' :: (ds.drop 12).take 4 ++
    '-' :: (ds.drop 16).take 4 ++ '-' :: ds.drop 20)

/-- The value of a hexadecimal digit. -/
def hexValue? (c : Char) : Option Nat :=
  let n := c.toNat
  if 48 ≤ n ∧ n ≤ 57 then some (n - 48)
  else if 97 ≤ n ∧ n ≤ 102 then some (n - 87)
  else if 65 ≤ n ∧ n ≤ 70 then some (n - 55)
  else none

/-- A key from its written form; dashes are passed over. -/
def ofText? (s : String) : Option Uuid :=
  let ds := s.toList.filter (· ≠ '-')
  if ds.length = 32 then
    (ds.foldlM (fun n c => (hexValue? c).map (16 * n + ·)) 0).map ofNat
  else none

theorem ext_val {u v : Uuid} (h : u.val = v.val) : u = v := by
  cases u; cases v
  simp only [val] at h
  simp [BitVec.eq_of_toNat_eq h]

end Uuid

end Recordbook

/-!
# Rounding a quotient

One rule of rounding serves every number format here: the nearest integer to a quotient of natural
numbers, and of two equally near ones the even one. Binary fractions, two-place amounts and decimal
quotients of a fixed number of digits are all this function after a change of scale.
-/

namespace Recordbook

-- Powers are those of the core library, also beside another one that brings its own.
attribute [default_instance 20000, instance (high)] instPowNat

/-- The integer nearest to `num / den`, a half going to the even neighbour. -/
def roundHalfEven (num den : Nat) : Nat :=
  let q := num / den
  let r := num % den
  if 2 * r < den then q
  else if den < 2 * r then q + 1
  else if q % 2 = 0 then q else q + 1

/-- An exact quotient is not changed. -/
theorem roundHalfEven_mul (q : Nat) {den : Nat} (h : 0 < den) : roundHalfEven (q * den) den = q := by
  have hq : q * den / den = q := Nat.mul_div_cancel q h
  have hr : q * den % den = 0 := Nat.mul_mod_left q den
  simp [roundHalfEven, hq, hr, h]

/-- Rounding moves a quotient by less than one, and never past its floor. -/
theorem div_le_roundHalfEven (num den : Nat) : num / den ≤ roundHalfEven num den := by
  simp only [roundHalfEven]
  split
  · exact Nat.le_refl _
  · split
    · exact Nat.le_succ _
    · split
      · exact Nat.le_refl _
      · exact Nat.le_succ _

/-- Rounding never passes the next integer above the floor. -/
theorem roundHalfEven_le (num den : Nat) : roundHalfEven num den ≤ num / den + 1 := by
  simp only [roundHalfEven]
  split
  · exact Nat.le_succ _
  · split
    · exact Nat.le_refl _
    · split
      · exact Nat.le_succ _
      · exact Nat.le_refl _

/-- The least integer not below `num / den`. -/
def ceilDiv (num den : Nat) : Nat := (num + (den - 1)) / den

/-- The quotient is at most its ceiling. -/
theorem le_ceilDiv_mul (num : Nat) {den : Nat} (h : 0 < den) : num ≤ ceilDiv num den * den := by
  have h1 : (num + (den - 1)) % den < den := Nat.mod_lt _ h
  have h2 := Nat.div_add_mod (num + (den - 1)) den
  simp only [ceilDiv]
  rw [Nat.mul_comm]
  omega

/-- The exponent of the greatest power of two that is at most `num / den`, for positive arguments.
-/
def floorLog2 (num den : Nat) : Int :=
  let guess : Int := (num.log2 : Int) - den.log2
  let below := if 0 ≤ guess then num < den * 2 ^ guess.toNat else num * 2 ^ (-guess).toNat < den
  if below then guess - 1 else guess

/-- The number of decimal digits of a natural number; zero has one. -/
def digitCount (n : Nat) : Nat := (toString n).length

/-- The exponent of the greatest power of ten that is at most `num / den`, for positive arguments.
-/
def floorLog10 (num den : Nat) : Int :=
  if den ≤ num then (digitCount (num / den) : Int) - 1
  else -(digitCount (ceilDiv den num - 1) : Int)

/-- A quotient scaled by a power of ten, as a pair of numerator and denominator. -/
def scaleTen (num den : Nat) (places : Int) : Nat × Nat :=
  if 0 ≤ places then (num * 10 ^ places.toNat, den) else (num, den * 10 ^ (-places).toNat)

/-- A quotient scaled by a power of two, as a pair of numerator and denominator. -/
def scaleTwo (num den : Nat) (places : Int) : Nat × Nat :=
  if 0 ≤ places then (num * 2 ^ places.toNat, den) else (num, den * 2 ^ (-places).toNat)

end Recordbook

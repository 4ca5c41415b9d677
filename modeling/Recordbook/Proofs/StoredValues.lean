import Recordbook.Proofs.AddressedRow
import Recordbook.Proofs.CellOrder
import Recordbook.Proofs.PageCount

/-!
# Values that are kept as they are

A column keeps a value as it is if what is read from the column afterwards equals the value. What
the store compares when it looks for a value is something else: the cell, and the value as it is
bound beside the column, which need not be how it is bound to be kept. An integer is kept as a
binary fraction in a column of amounts and looked for as an integer, and a truth value is kept of
any number that equals it.

A value that is kept as it is is found all the same. For integers that is because an integer that is
too large for the mantissa has hundredths that are not rounded, so that its rounding shows in what
is read. For decimals it is because zero and one have exact binary fractions, however many digits
they are written with.

## Main definitions

* `Column.Keeps` — a column keeps a value as it is

## Main results

* `Binary64.toRat?_ofInt_of_same` — an integer that is read back is kept exactly
* `Decimal.toRat?_toBinary64_of_flag` — decimals that equal a truth value are kept exactly
* `Column.Keeps.compares` — a value that is kept as it is is found
-/

namespace Recordbook

/-! ### Integers as binary fractions -/

namespace Binary64

theorem ofQuotient_true (num den : Nat) :
    ofQuotient true num den = (ofQuotient false num den).neg := by
  rw [ofQuotient, ofQuotient]
  split
  · rfl
  · dsimp only
    split <;> rfl

theorem toRat?_neg (x : Binary64) : x.neg.toRat? = x.toRat?.map (-·) := by
  cases x with
  | finite negative m e => cases negative <;> simp [neg, toRat?]
  | _ => rfl

/-- The exponent of a rounded quotient is that of its last bit, or one more after a carry. -/
theorem lastBit_le_of_ofQuotient {negative s : Bool} {num den m : Nat} {e : Int} (hn : num ≠ 0)
    (h : ofQuotient negative num den = .finite s m e) : lastBit num den ≤ e := by
  rw [ofQuotient, if_neg hn] at h
  dsimp only at h
  split at h
  · cases h
  · rw [Binary64.finite.injEq] at h
    rw [← h.2.2, roundPositive]
    split
    · exact Int.le_add_one (Int.le_refl _)
    · exact Int.le_refl _

/-- A natural number that fits the mantissa is a binary fraction. -/
theorem toRat?_ofQuotient_one {n : Nat} (hn : n ≠ 0) (fits : lastBit n 1 ≤ 0) :
    (ofQuotient false n 1).toRat? = some (n : Rat) := by
  obtain ⟨s, hs⟩ : ∃ s : Nat, lastBit n 1 = -(s : Int) := ⟨(-lastBit n 1).toNat, by omega⟩
  have exactly : roundHalfEven (n * 2 ^ s) 1 = n * 2 ^ s := by
    simpa using roundHalfEven_mul (n * 2 ^ s) Nat.one_pos
  have power : ((2 ^ s : Nat) : Rat) ≠ 0 := Nat.cast_ne_zero.mpr (Nat.two_pow_pos s).ne'
  rw [ofQuotient_of_lastBit hn hs, exactly]
  split
  · rename_i carry
    rw [toRat?_finite (a := 1) (b := s) (by omega), show 2 ^ 52 * 2 ^ 1 = 2 ^ 53 from rfl, ← carry,
      Nat.cast_mul, mul_div_cancel_right₀ _ power]
  · rw [toRat?_finite (a := 0) (b := s) (by omega), Nat.pow_zero, Nat.mul_one, Nat.cast_mul,
      mul_div_cancel_right₀ _ power]

/-- So is an integer of either sign. -/
theorem toRat?_ofInt {n : Int} (hn : n ≠ 0) (fits : lastBit n.natAbs 1 ≤ 0) :
    (ofInt n).toRat? = some (n : Rat) := by
  have positive := toRat?_ofQuotient_one (Int.natAbs_ne_zero.mpr hn) fits
  rw [ofInt]
  by_cases negative : n < 0
  · rw [decide_eq_true negative, ofQuotient_true, toRat?_neg, positive, Option.map_some]
    have value : (n.natAbs : Int) = -n := by omega
    rw [Option.some.injEq, ← Int.cast_natCast, value]
    simp
  · rw [decide_eq_false negative, positive]
    have value : (n.natAbs : Int) = n := by omega
    rw [← Int.cast_natCast, value]

end Binary64

/-! ### Decimals -/

/-- A decimal that stands for an exact number has it as its value. -/
theorem Value.toRat?_of_decimalQuantity {d : Decimal} {q : Rat}
    (h : decimalQuantity d = .exact q) : d.toRat? = some q := by
  unfold decimalQuantity at h
  cases d with
  | nan => cases h
  | infinite => cases h
  | finite s c e =>
    dsimp only at h
    split at h
    · rename_i zero
      subst zero
      rw [Quantity.exact.injEq] at h
      subst h
      have none : (scaleTen 0 1 e).1 = 0 := by
        rw [scaleTen]
        split
        · exact Nat.zero_mul _
        · rfl
      rw [Decimal.toRat?, none]
      cases s <;> simp
    · split at h
      · cases h
      · rw [Quantity.exact.injEq] at h
        rw [← h]
        rfl

namespace Decimal

/-- An integer that is too large for the mantissa has hundredths that are not rounded. -/
theorem toRat?_ofAmount {s : Bool} {m : Nat} {e : Int} (large : 0 ≤ e) :
    (ofAmount (.finite s m e)).toRat? = (Binary64.finite s m e).toRat? := by
  have exactly : Binary64.hundredths m e = m * 100 * 2 ^ e.toNat := by
    rw [Binary64.hundredths, scaleTwo, if_pos large]
    simpa using roundHalfEven_mul (m * 100 * 2 ^ e.toNat) Nat.one_pos
  have value : mkRat (m * 100 * 2 ^ e.toNat : Nat) 100 = mkRat (m * 2 ^ e.toNat : Nat) 1 := by
    rw [Rat.mkRat_eq_iff (by decide) (by decide)]
    push_cast
    ring
  rw [ofAmount, exactly, toRat?, Binary64.toRat?, scaleTwo, if_pos large]
  simp only [← value]
  rfl

theorem digitCount_le_iff {n k : Nat} (hk : 0 < k) : digitCount n ≤ k ↔ n < 10 ^ k := by
  rw [digitCount, Nat.toString_eq_repr, Nat.length_repr_le_iff hk]

/-- A decimal of the value one is a power of ten in the coefficient, taken back by the exponent. -/
theorem scaleTen_of_one {s : Bool} {c : Nat} {e : Int} (h : (finite s c e).toRat? = some 1) :
    s = false ∧ ∃ k : Nat, c = 10 ^ k ∧ e = -(k : Int) := by
  have positive : 0 ≤ mkRat (scaleTen c 1 e).1 (scaleTen c 1 e).2 :=
    Rat.mkRat_nonneg (Int.natCast_nonneg _) _
  rw [toRat?, Option.some.injEq] at h
  cases s with
  | true =>
    simp only [if_true] at h
    linarith
  | false =>
    refine ⟨rfl, ?_⟩
    simp only [Bool.false_eq_true, if_false, scaleTen] at h
    split at h
    · rename_i whole
      rw [Rat.mkRat_one] at h
      have one : c * 10 ^ e.toNat = 1 := by exact_mod_cast h
      obtain ⟨hc, hp⟩ := mul_eq_one.mp one
      have zero : e.toNat = 0 := by
        by_contra more
        exact absurd hp (Nat.one_lt_pow more (by decide)).ne'
      exact ⟨0, by rw [hc, Nat.pow_zero], by omega⟩
    · have power : 1 * 10 ^ (-e).toNat ≠ 0 := by positivity
      rw [show (1 : Rat) = mkRat 1 1 from rfl, Rat.mkRat_eq_iff power Nat.one_ne_zero] at h
      refine ⟨(-e).toNat, ?_, by omega⟩
      exact_mod_cast (show (c : Int) = 10 ^ (-e).toNat by simpa using h)

/-- A decimal of the value zero has no digits but zeros. -/
theorem coefficient_of_zero {s : Bool} {c : Nat} {e : Int} (h : (finite s c e).toRat? = some 0) :
    c = 0 := by
  have some : (scaleTen c 1 e).2 ≠ 0 := by
    rw [scaleTen]
    split
    · exact Nat.one_ne_zero
    · positivity
  have none : (scaleTen c 1 e).1 = 0 := by
    rw [toRat?, Option.some.injEq] at h
    split at h
    · exact_mod_cast (Rat.mkRat_eq_zero some).mp (neg_eq_zero.mp h)
    · exact_mod_cast (Rat.mkRat_eq_zero some).mp h
  rw [scaleTen] at none
  split at none
  · exact (Nat.mul_eq_zero.mp none).resolve_right (by positivity)
  · exact none

/-- A decimal of the value one is rounded as the quotient of a number by itself. -/
theorem toBinary64_of_one (k : Nat) :
    toBinary64 (.finite false (10 ^ k) (-(k : Int))) =
      Binary64.ofQuotient false (10 ^ k) (10 ^ k) := by
  have positive : 0 < 10 ^ k := by positivity
  have upto : digitCount (10 ^ k) ≤ k + 1 :=
    (digitCount_le_iff (Nat.succ_pos k)).mpr (Nat.pow_lt_pow_right (by decide) (Nat.lt_succ_self k))
  have above : k ≤ digitCount (10 ^ k) := by
    by_contra! fewer
    have short := (digitCount_le_iff (n := 10 ^ k) (k := k) (by omega)).mp fewer.le
    exact absurd short (Nat.lt_irrefl _)
  have scaled : scaleTen (10 ^ k) 1 (-(k : Int)) = (10 ^ k, 10 ^ k) := by
    rw [scaleTen]
    split
    · have zero : k = 0 := by omega
      subst zero
      rfl
    · rw [Int.neg_neg, Int.toNat_natCast, Nat.one_mul]
  simp only [toBinary64]
  rw [if_neg (by omega), if_neg (by omega), scaled]

end Decimal

/-- The quotient of a number by itself is one. -/
theorem Binary64.ofQuotient_self {n : Nat} (hn : 0 < n) :
    ofQuotient false n n = .finite false (2 ^ 52) (-52) := by
  have last : lastBit n n = -((52 : Nat) : Int) := by
    have zero : floorLog2 n n = 0 := by simp [floorLog2]
    rw [lastBit, zero, minExponent]
    rfl
  have exactly : roundHalfEven (n * 2 ^ 52) n = 2 ^ 52 := by
    rw [Nat.mul_comm]
    exact roundHalfEven_mul (2 ^ 52) hn
  rw [ofQuotient_of_lastBit hn.ne' last, exactly]
  rfl

/-- **Decimals that equal a truth value** have exact binary fractions. -/
theorem Decimal.toRat?_toBinary64_of_flag {d : Decimal} {b : Bool}
    (h : d.toRat? = some (if b then 1 else 0)) :
    d.toBinary64.toRat? = some (if b then 1 else 0) := by
  cases d with
  | nan => cases h
  | infinite => cases h
  | finite s c e =>
    cases b with
    | true =>
      obtain ⟨rfl, k, rfl, rfl⟩ := scaleTen_of_one h
      rw [toBinary64_of_one, Binary64.ofQuotient_self (by positivity)]
      rfl
    | false =>
      cases coefficient_of_zero h
      rw [toBinary64, if_pos (.inl rfl), Binary64.toRat?_zero]
      rfl

/-! ### Keeping a value as it is -/

/-- Numbers are equal if they stand for the same number. -/
theorem Value.same_of_number {v : Value} (h : v.number?.isSome = true) (w : Value) :
    v.same w = v.sameQuantity w := by
  cases v <;> first | cases h; done | (cases w <;> rfl)

/-- A number is equal to nothing but numbers. -/
theorem Value.same_of_quantity?_eq_none {v w : Value} (h : v.number?.isSome = true)
    (none : w.quantity? = none) : v.same w = false := by
  rw [same_of_number h, sameQuantity, none]
  cases v.quantity? with
  | none => rfl
  | some q => cases q <;> rfl

/-- A column keeps a value as it is: it is something, and what is read afterwards equals it. -/
def Column.Keeps (c : Column) (v : Value) : Prop :=
  v.isNull = false ∧ ∃ cell, c.cellOf? v = some cell ∧ v.same cell.value = true

/-- An amount as it is kept: zero has no sign. -/
def Binary64.unsigned (x : Binary64) : Binary64 :=
  if x.isZero then .finite false 0 minExponent else x

/-- The ways in which a column of some kind keeps a value as it is. -/
inductive Column.Kept : ColumnKind → Value → Cell → Prop
  /-- A key. -/
  | key (u : Uuid) : Kept .uuid (.uuid u) (.key u)
  /-- A text. -/
  | text (n : Nat) (s : String) : Kept (.text n) (.str s) (.text s)
  /-- Raw data. -/
  | data (n : Nat) (bs : List UInt8) : Kept (.text n) (.bytes bs) (.data bs)
  /-- A number that equals a truth value, or a truth value itself. -/
  | flag {v : Value} {b : Bool} (h : v.same (.bool b) = true) : Kept .flag v (.flag b)
  /-- A time without an offset. -/
  | moment (t : Timestamp) : Kept .moment (.datetime ⟨t, none⟩) (.moment t)
  /-- An integer, or a truth value as an integer, that is a binary fraction. -/
  | whole {v : Value} {n : Int} {x : Binary64} (number : v.number? = some (.whole n))
    (exactly : x.toRat? = some (n : Rat)) : Kept .money v (.amount x)
  /-- A binary fraction. -/
  | real {x : Binary64} (some : x ≠ .nan) : Kept .money (.float x) (.amount x.unsigned)
  /-- A decimal, as the nearest binary fraction. -/
  | decimal {d : Decimal} (some : d.toBinary64 ≠ .nan) :
    Kept .money (.decimal d) (.amount d.toBinary64.unsigned)

namespace Binary64

theorem unsigned_of_ne_zero {x : Binary64} (h : x.isZero = false) : x.unsigned = x :=
  if_neg (by simp [h])

/-- The sign of zero is no part of its value. -/
theorem ofBinary_unsigned (x : Binary64) :
    Magnitude.ofBinary x.unsigned = Magnitude.ofBinary x := by
  rw [unsigned]
  split
  · rename_i zero
    obtain ⟨s, e, rfl⟩ : ∃ s e, x = .finite s 0 e := by
      unfold isZero at zero
      split at zero
      · exact ⟨_, _, rfl⟩
      · cases zero
    simp only [Magnitude.ofBinary, toRat?_zero]
  · rfl

/-- A binary fraction with a value is that number for the store. -/
theorem ofBinary_of_toRat? {x : Binary64} {q : Rat} (h : x.toRat? = some q) :
    x ≠ .nan ∧ Magnitude.ofBinary x = .exact q := by
  cases x with
  | finite s m e =>
    refine ⟨nofun, ?_⟩
    change Magnitude.exact ((finite s m e).toRat?.getD 0) = _
    rw [h]
    rfl
  | _ => cases h

end Binary64

theorem Datum.ofBinary_of_ne_nan {x : Binary64} (h : x ≠ .nan) : Datum.ofBinary x = .real x := by
  cases x with
  | nan => exact absurd rfl h
  | _ => rfl

/-- An integer that is read back from a column of amounts is kept exactly. -/
theorem Binary64.toRat?_ofInt_of_same {n : Int} {s : Bool} {m : Nat} {e : Int}
    (kept : ofInt n = .finite s m e)
    (same : (Value.int n).same (.decimal (Decimal.ofAmount (unsigned (.finite s m e)))) = true) :
    (unsigned (.finite s m e)).toRat? = some (n : Rat) := by
  have read : (Decimal.ofAmount (unsigned (.finite s m e))).toRat? = some (n : Rat) := by
    refine Value.toRat?_of_decimalQuantity ?_
    simpa [Value.same, Value.sameQuantity, Value.quantity?, eq_comm] using same
  cases zero : (finite s m e).isZero with
  | true =>
    have none : unsigned (.finite s m e) = .finite false 0 minExponent := if_pos zero
    rw [none, show (Decimal.ofAmount (.finite false 0 minExponent)).toRat? = some 0 by
      decide +kernel] at read
    rw [none, toRat?_zero, read]
  | false =>
    rw [unsigned_of_ne_zero zero] at read ⊢
    by_cases large : 0 ≤ e
    · rw [← Decimal.toRat?_ofAmount large, read]
    · have some : n ≠ 0 := by
        rintro rfl
        cases kept
        cases zero
      have fits := lastBit_le_of_ofQuotient (Int.natAbs_ne_zero.mpr some) kept
      rw [← kept, toRat?_ofInt some (by omega)]

namespace Column

variable {c : Column} {v : Value} {cell : Cell}

theorem cellOf?_eq_some :
    c.cellOf? v = some cell ↔ ∃ d, (Binding.ofColumn c.kind).process v = .ok (.bound d) ∧
      .ofDatum c.kind d = cell := by
  simp only [cellOf?, Option.map_eq_some_iff, datumOf?_eq_some]

/-- A decimal is bound as the nearest binary fraction, if at all. -/
theorem processReal_decimal {d : Decimal} {p : Parameter}
    (h : Binding.processReal (.decimal d) = .ok p) : .bound (.ofBinary d.toBinary64) = p := by
  cases d with
  | nan negative signaling note =>
    cases signaling with
    | true => cases h
    | false => exact Except.ok.inj h
  | _ => exact Except.ok.inj h

variable {d : Datum}

/-- A column of texts keeps texts and raw data. A number is kept as a text, and equals none. -/
theorem kept_text {n : Nat} (some : v.isNull = false)
    (bound : (Binding.ofColumn (.text n)).process v = .ok (.bound d))
    (same : v.same (Cell.ofDatum (.text n) d).value = true) :
    Kept (.text n) v (.ofDatum (.text n) d) := by
  cases v with
  | str s =>
    cases bound
    exact .text n s
  | bytes bs =>
    cases bound
    exact .data n bs
  | _ =>
    have held := Cell.isOf_ofDatum (.text n) d
    generalize Cell.ofDatum (.text n) d = cell at same held
    cases cell <;> first
      | cases held; done
      | cases some; done
      | cases same
      | rw [Value.same_of_quantity?_eq_none rfl rfl] at same; cases same

/-- A column of truth values keeps what equals one. -/
theorem kept_flag (some : v.isNull = false)
    (bound : (Binding.ofColumn .flag).process v = .ok (.bound d)) :
    Kept .flag v (.ofDatum .flag d) := by
  rw [show (Binding.ofColumn .flag).process v = Binding.processFlag v by
    cases v <;> first | rfl | cases some] at bound
  unfold Binding.processFlag at bound
  split at bound
  · rename_i h
    cases bound
    exact .flag h
  · split at bound
    · rename_i h
      cases bound
      exact .flag h
    · split at bound
      · cases bound
      · split at bound
        · cases bound
        · split at bound <;> cases bound

/-- A column of times keeps those without an offset. -/
theorem kept_moment (some : v.isNull = false)
    (bound : (Binding.ofColumn .moment).process v = .ok (.bound d))
    (same : v.same (Cell.ofDatum .moment d).value = true) :
    Kept .moment v (.ofDatum .moment d) := by
  cases v with
  | datetime t =>
    cases bound
    obtain ⟨wall, offset⟩ := t
    cases offset with
    | none => exact .moment wall
    | some offset => cases same
  | date t =>
    cases bound
    cases same
  | _ => first | cases bound; done | cases some

/-- A column of amounts keeps numbers. A text that reads as one is kept as one, and equals none. -/
theorem kept_money (some : v.isNull = false)
    (bound : (Binding.ofColumn .money).process v = .ok (.bound d))
    (same : v.same (Cell.ofDatum .money d).value = true) :
    Kept .money v (.ofDatum .money d) := by
  cases v with
  | bool b =>
    cases bound
    cases b
    · exact .whole rfl (by decide +kernel)
    · exact .whole rfl (by rfl)
  | int n =>
    simp only [Binding.ofColumn, Binding.process, Binding.processReal] at bound
    split at bound
    · cases bound
    · rename_i finite
      rcases Binary64.ofQuotient_cases (decide (n < 0)) n.natAbs 1 with ⟨m, e, kept⟩ | infinite
      · change Binary64.ofInt n = _ at kept
        rw [kept] at bound
        cases bound
        exact .whole rfl (Binary64.toRat?_ofInt_of_same kept same)
      · exact absurd infinite (finite _)
  | float x =>
    cases bound
    by_cases nan : x = .nan
    · subst nan
      cases same
    · rw [Datum.ofBinary_of_ne_nan nan]
      exact .real nan
  | decimal x =>
    cases processReal_decimal bound
    by_cases nan : x.toBinary64 = .nan
    · rw [nan, Value.same_of_quantity?_eq_none rfl rfl] at same
      cases same
    · rw [Datum.ofBinary_of_ne_nan nan]
      exact .decimal nan
  | _ =>
    have held := Cell.isOf_ofDatum .money d
    generalize Cell.ofDatum .money d = cell at same held
    cases cell <;> first | cases held; done | cases some; done | cases same

/-- A column keeps a value as it is in one of these ways. -/
theorem kept_of_keeps (h : c.Keeps v) (hc : c.cellOf? v = some cell) : Kept c.kind v cell := by
  obtain ⟨some, cell', hc', same⟩ := h
  cases Option.some_inj.mp (hc.symm.trans hc')
  obtain ⟨d, bound, rfl⟩ := cellOf?_eq_some.mp hc
  clear hc hc'
  obtain ⟨field, kind, nullable, default⟩ := c
  cases kind with
  | uuid =>
    cases v with
    | uuid u =>
      cases bound
      exact .key u
    | _ => first | cases bound; done | cases some
  | text n => exact kept_text some bound same
  | flag => exact kept_flag some bound
  | moment => exact kept_moment some bound same
  | money => exact kept_money some bound same

end Column

/-! ### Finding what is kept -/

theorem Comparand.compare_self (a : Comparand) : a.compare a = .eq :=
  Std.ReflOrd.compare_self (a := a)

/-- What stands for a number beside it is equal to it. -/
theorem Criteria.compares_of_besideNumber {cell : Cell} {d : Datum} {m : Magnitude}
    (compared : cell.compare? d = d.besideNumber.map (Comparand.compare (.number m)))
    (beside : d.besideNumber = some (.number m)) : compares cell .eq d = true := by
  rw [compares, compared, beside, Option.map_some, Comparand.compare_self]
  rfl

/-- A binary fraction equals the amount as which it is kept. -/
theorem Criteria.compares_unsigned {x : Binary64} (some : x ≠ .nan) :
    compares (.amount x.unsigned) .eq (.ofBinary x) = true := by
  rw [Datum.ofBinary_of_ne_nan some]
  refine compares_of_besideNumber rfl ?_
  rw [Binary64.ofBinary_unsigned]
  rfl

namespace Column

variable {c : Column} {v : Value} {cell : Cell} {d : Datum}

/-- Beside a column of numbers a binary fraction stands for its value. -/
theorem besideNumber_ofBinary {x : Binary64} {q : Rat} (h : x.toRat? = some q) :
    (Datum.ofBinary x).besideNumber = some (.number (.exact q)) := by
  obtain ⟨some, exactly⟩ := Binary64.ofBinary_of_toRat? h
  rw [Datum.ofBinary_of_ne_nan some, Datum.besideNumber, exactly]

/-- Beside a column of numbers an integer stands for itself. -/
theorem besideNumber_of_whole {n : Int} (number : v.number? = some (.whole n))
    (bound : (Criteria.equalityOperand c v).process = .ok (.bound d)) :
    d.besideNumber = some (.number (.exact n)) := by
  cases v with
  | bool b =>
    cases number
    cases bound
    rfl
  | int m =>
    cases number
    have whole : Parameter.ofInt n = .bound d := Except.ok.inj bound
    rw [Parameter.ofInt] at whole
    split at whole
    · cases whole
      rfl
    · cases whole
  | _ => cases number

/-- What equals a truth value stands for its number. -/
theorem besideNumber_of_flag {b : Bool} (same : v.same (.bool b) = true)
    (bound : (Criteria.equalityOperand c v).process = .ok (.bound d)) :
    d.besideNumber = some (.number (.exact (if b then 1 else 0))) := by
  cases v with
  | bool a =>
    rw [besideNumber_of_whole rfl bound]
    revert same
    cases a <;> cases b <;> decide
  | int n =>
    rw [besideNumber_of_whole rfl bound]
    have value : (n : Rat) = if b then 1 else 0 := by
      simpa [Value.same, Value.sameQuantity, Value.quantity?] using same
    rw [value]
  | float x =>
    cases bound
    refine besideNumber_ofBinary ?_
    cases x with
    | nan => cases same
    | infinite => simp [Value.same, Value.sameQuantity, Value.quantity?] at same
    | finite s m e =>
      obtain ⟨q, hq⟩ : ∃ q, (Binary64.finite s m e).toRat? = some q := ⟨_, rfl⟩
      rw [hq]
      simpa [Value.same, Value.sameQuantity, Value.quantity?, hq] using same
  | decimal x =>
    cases processReal_decimal (mapError_eq_ok.mp bound)
    refine besideNumber_ofBinary (Decimal.toRat?_toBinary64_of_flag ?_)
    refine Value.toRat?_of_decimalQuantity ?_
    rw [Value.same_of_number rfl, Value.sameQuantity] at same
    cases value : Value.decimalQuantity x <;> simp_all [Value.quantity?]
  | _ => cases same

/-- **What is kept as it is is found** by the value that was written. -/
theorem Keeps.compares (h : c.Keeps v) (hc : c.cellOf? v = some cell)
    (bound : (Criteria.equalityOperand c v).process = .ok (.bound d)) :
    Criteria.compares cell .eq d = true := by
  have kept := kept_of_keeps h hc
  obtain ⟨field, kind, nullable, default⟩ := c
  dsimp only at kept
  cases kept with
  | key u =>
    cases bound
    simp [Criteria.compares, Cell.compare?, Comparison.accepts]
  | text n s =>
    cases bound
    rw [Criteria.compares, show Cell.compare? (.text s) (.text s) =
      some ((Comparand.text s).compare (.text s)) from rfl, Comparand.compare_self]
    rfl
  | data n bs =>
    cases bound
    rw [Criteria.compares, show Cell.compare? (.data bs) (.data bs) =
      some ((Comparand.data bs).compare (.data bs)) from rfl, Comparand.compare_self]
    rfl
  | moment t =>
    cases bound
    simp [Criteria.compares, Cell.compare?, Comparison.accepts]
  | flag same => exact Criteria.compares_of_besideNumber rfl (besideNumber_of_flag same bound)
  | whole number exactly =>
    refine Criteria.compares_of_besideNumber rfl ?_
    rw [(Binary64.ofBinary_of_toRat? exactly).2, besideNumber_of_whole number bound]
  | real some =>
    cases bound
    exact Criteria.compares_unsigned some
  | decimal some =>
    cases processReal_decimal (mapError_eq_ok.mp bound)
    exact Criteria.compares_unsigned some

end Column

end Recordbook

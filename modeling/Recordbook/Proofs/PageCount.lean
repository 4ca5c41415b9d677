import Mathlib.Data.Rat.Floor
import Mathlib.Tactic.Ring
import Recordbook.Page

/-!
# The number of pages

The number of pages is not computed with integers: the quotient of the total and the page length is
rounded to 53 bits, and the ceiling is taken of the result. It is the ceiling of the exact quotient
all the same, as long as the total is not greater than `2 ^ 53`. The page length does not matter:
all that is asked of it is that the quotient takes up 53 bits, as every quotient by a number of 64
bits does.

Let the exact ceiling be `j + 1`. The rounded quotient is a multiple of some `2 ^ (-s)`, and so is
`j + 1`, which is therefore not passed. To come down to `j` the quotient would have to be within
half a step of it. It is at least one part in `d` above `j`, where `d` is the page length, and the
steps are so fine that `d ≤ 2 ^ (s + 1)`. That leaves a tie, with `d = 2 ^ (s + 1)` and a total of
`2 ^ 53`; and there the total exceeds `j * d` by two at least, both being even.

## Main results

* `roundHalfEven_between` — the argument above, on natural numbers
* `Binary64.ceil?_ofQuotient` — the ceiling of a rounded quotient
* `Page.pageCount_int` — the number of pages is the exact ceiling
* `Page.exists_pageCount` — there is a number of pages, however many records there are
* `page_count_exact` — the number that a page gives is the exact ceiling
-/

namespace Recordbook

/-! ### Rounding on natural numbers -/

/-- Rounding does not pass an integer that the quotient does not pass. -/
theorem roundHalfEven_le_of_le {num den c : Nat} (hd : 0 < den) (h : num ≤ c * den) :
    roundHalfEven num den ≤ c := by
  have hq : num / den ≤ c := Nat.div_le_of_le_mul (by rwa [Nat.mul_comm] at h)
  rcases Nat.lt_or_eq_of_le hq with hlt | heq
  · exact (roundHalfEven_le num den).trans hlt
  · have exact : num = c * den := by
      have := Nat.div_mul_le_self num den
      rw [heq] at this
      exact Nat.le_antisymm h this
    rw [exact, roundHalfEven_mul c hd]

/-- A quotient that is more than half above an integer is rounded above it. -/
theorem lt_roundHalfEven {num den c : Nat} (hd : 0 < den) (h : (2 * c + 1) * den < 2 * num) :
    c < roundHalfEven num den := by
  have split : den * (num / den) + num % den = num := Nat.div_add_mod num den
  rw [Nat.add_mul, Nat.one_mul, Nat.mul_assoc] at h
  have hc : c ≤ num / den := by
    rw [Nat.le_div_iff_mul_le hd]
    omega
  rcases Nat.lt_or_eq_of_le hc with hlt | heq
  · exact hlt.trans_le (div_le_roundHalfEven num den)
  · have above : den < 2 * (num % den) := by
      rw [← heq, Nat.mul_comm den c] at split
      omega
    rw [roundHalfEven, if_neg (by omega), if_pos above, ← heq]
    exact Nat.lt_succ_self c

/-- The power of two that a quotient reaches, with its exponent as a difference. -/
theorem mul_pow_floorLog2_le {num den a b : Nat} (hn : num ≠ 0)
    (h : (a : Int) - b = floorLog2 num den) : den * 2 ^ a ≤ num * 2 ^ b := by
  have low : 2 ^ num.log2 ≤ num := Nat.log2_self_le hn
  have high : den < 2 ^ (den.log2 + 1) := Nat.lt_log2_self
  have below (h : (a : Int) - b = num.log2 - den.log2 - 1) : den * 2 ^ a ≤ num * 2 ^ b := by
    have sum : den.log2 + 1 + a = num.log2 + b := by omega
    calc den * 2 ^ a ≤ 2 ^ (den.log2 + 1) * 2 ^ a := Nat.mul_le_mul_right _ high.le
      _ = 2 ^ num.log2 * 2 ^ b := by rw [← Nat.pow_add, ← Nat.pow_add, sum]
      _ ≤ num * 2 ^ b := Nat.mul_le_mul_right _ low
  rw [floorLog2] at h
  split at h
  · rename_i positive
    split at h
    · exact below h
    · rename_i reached
      obtain ⟨g, hg⟩ := Int.eq_ofNat_of_zero_le positive
      rw [hg, Int.toNat_natCast] at reached
      have sum : a = g + b := by omega
      rw [sum, Nat.pow_add, ← Nat.mul_assoc]
      exact Nat.mul_le_mul_right _ (Nat.le_of_not_lt reached)
  · rename_i negative
    split at h
    · exact below h
    · rename_i reached
      obtain ⟨g, hg⟩ := Int.eq_ofNat_of_zero_le (Int.neg_nonneg.mpr (Int.le_of_not_le negative))
      rw [hg, Int.toNat_natCast] at reached
      have sum : b = g + a := by omega
      rw [sum, Nat.pow_add, ← Nat.mul_assoc]
      exact Nat.mul_le_mul_right _ (Nat.le_of_not_lt reached)

/-- **Rounding keeps a quotient between two integers.** In steps of `2 ^ (-s)` a quotient that takes
up 53 bits is rounded neither down to the integer below nor past the one above. -/
theorem roundHalfEven_between {n d s j : Nat} (hd : 0 < d) (hn : n ≤ 2 ^ 53)
    (bits : d * 2 ^ 52 ≤ n * 2 ^ s) (above : j * d < n) (upto : n ≤ (j + 1) * d) :
    j * 2 ^ s < roundHalfEven (n * 2 ^ s) d ∧ roundHalfEven (n * 2 ^ s) d ≤ (j + 1) * 2 ^ s := by
  have steps : 0 < 2 ^ s := Nat.two_pow_pos s
  constructor
  · refine lt_roundHalfEven hd ?_
    have spread : (2 * (j * 2 ^ s) + 1) * d = 2 * (j * d * 2 ^ s) + d := by ring
    have scaled {k : Nat} (h : j * d + k ≤ n) : j * d * 2 ^ s + k * 2 ^ s ≤ n * 2 ^ s := by
      rw [← Nat.add_mul]
      exact Nat.mul_le_mul_right _ h
    have fits : n * 2 ^ s ≤ 2 ^ 53 * 2 ^ s := Nat.mul_le_mul_right _ hn
    have coarse : d ≤ 2 * 2 ^ s := by omega
    rw [spread]
    rcases Nat.lt_or_eq_of_le coarse with hlt | heq
    · have one : j * d * 2 ^ s + 1 * 2 ^ s ≤ n * 2 ^ s := scaled above
      omega
    · -- a tie: the total is `2 ^ 53`, and even like `d`
      have total : n = 2 ^ 53 := by
        have full : 2 ^ 53 * 2 ^ s ≤ n * 2 ^ s := by omega
        exact Nat.le_antisymm hn (Nat.le_of_mul_le_mul_right full steps)
      have two : j * d + 2 ≤ n := by
        have even : j * d = 2 * (j * 2 ^ s) := by rw [heq]; ring
        omega
      have twice : j * d * 2 ^ s + 2 * 2 ^ s ≤ n * 2 ^ s := scaled two
      omega
  · refine roundHalfEven_le_of_le hd ?_
    calc n * 2 ^ s ≤ (j + 1) * d * 2 ^ s := Nat.mul_le_mul_right _ upto
      _ = (j + 1) * 2 ^ s * d := by ring

/-! ### The rounded quotient -/

namespace Binary64

/-- The value of a positive binary fraction, with its exponent as a difference. -/
theorem toRat?_finite {m a b : Nat} {e : Int} (h : (a : Int) - b = e) :
    (finite false m e).toRat? = some (((m * 2 ^ a : Nat) : Rat) / ((2 ^ b : Nat) : Rat)) := by
  have powers (k : Nat) : ((2 ^ k : Nat) : Rat) ≠ 0 := Nat.cast_ne_zero.mpr (Nat.two_pow_pos k).ne'
  simp only [toRat?, Bool.false_eq_true, if_false, Option.some.injEq, scaleTwo]
  split
  · have sum : a = e.toNat + b := by omega
    rw [Rat.mkRat_eq_div, sum, Nat.pow_add, ← Nat.mul_assoc, Nat.cast_mul (m * 2 ^ e.toNat),
      mul_div_cancel_right₀ _ (powers b), Nat.cast_one, div_one]
    rfl
  · have sum : b = (-e).toNat + a := by omega
    rw [Rat.mkRat_eq_div, sum, Nat.pow_add, Nat.cast_mul m, Nat.cast_mul (2 ^ (-e).toNat),
      mul_div_mul_right _ _ (powers a), Nat.one_mul]
    rfl

/-- The ceiling of a positive binary fraction, by the integers around it. -/
theorem ceil?_finite {m a b j : Nat} {e : Int} (h : (a : Int) - b = e)
    (above : j * 2 ^ b < m * 2 ^ a) (upto : m * 2 ^ a ≤ (j + 1) * 2 ^ b) :
    (finite false m e).ceil? = some ((j : Int) + 1) := by
  have positive : (0 : Rat) < ((2 ^ b : Nat) : Rat) := Nat.cast_pos.mpr (Nat.two_pow_pos b)
  rw [ceil?, toRat?_finite h, Option.map_some, Option.some.injEq]
  refine le_antisymm ?_ ?_
  · rw [Rat.ceil_le_iff, div_le_iff₀ positive]
    exact_mod_cast upto
  · rw [Int.add_one_le_iff, Rat.lt_ceil_iff, lt_div_iff₀ positive]
    exact_mod_cast above

/-- In steps of its last bit a quotient takes up 53 bits, and more where the last bit is the least
that there is. -/
theorem bits_of_lastBit {num den s : Nat} (hn : num ≠ 0) (hd : den ≤ 2 ^ 64)
    (h : lastBit num den = -(s : Int)) : den * 2 ^ 52 ≤ num * 2 ^ s := by
  rw [lastBit, minExponent] at h
  by_cases least : floorLog2 num den - 52 < -1074
  · calc den * 2 ^ 52 ≤ 2 ^ 64 * 2 ^ 52 := Nat.mul_le_mul_right _ hd
      _ = 2 ^ 116 := (Nat.pow_add 2 64 52).symm
      _ ≤ 2 ^ s := Nat.pow_le_pow_right (by decide) (by omega)
      _ ≤ num * 2 ^ s := Nat.le_mul_of_pos_left _ (Nat.pos_of_ne_zero hn)
  · exact mul_pow_floorLog2_le hn (by omega)

/-- The last bit of a quotient of which the numerator is small. -/
theorem lastBit_le {num den k : Nat} (hn : num ≠ 0) (hd : 0 < den) (small : num < 2 ^ (k + 53)) :
    lastBit num den ≤ k := by
  rw [lastBit, minExponent]
  by_contra! far
  obtain ⟨f, hf⟩ : ∃ f : Nat, floorLog2 num den = f := ⟨(floorLog2 num den).toNat, by omega⟩
  have reached : den * 2 ^ f ≤ num * 2 ^ 0 := mul_pow_floorLog2_le hn (by omega)
  have power : 2 ^ (k + 53) ≤ 2 ^ f := Nat.pow_le_pow_right (by decide) (by omega)
  have multiple : 2 ^ f ≤ den * 2 ^ f := Nat.le_mul_of_pos_left _ hd
  omega

/-- What rounding a quotient comes to where its last bit is no more than a unit. -/
theorem ofQuotient_of_lastBit {num den s : Nat} (hn : num ≠ 0)
    (h : lastBit num den = -(s : Int)) :
    ofQuotient false num den =
      if roundHalfEven (num * 2 ^ s) den = 2 ^ 53 then .finite false (2 ^ 52) (1 - s)
      else .finite false (roundHalfEven (num * 2 ^ s) den) (-s) := by
  have scaled : scaleTwo num den (s : Int) = (num * 2 ^ s, den) := by
    rw [scaleTwo, if_pos (Int.natCast_nonneg s), Int.toNat_natCast]
  have exponent : ¬ maxExponent < 1 - (s : Int) ∧ ¬ maxExponent < -(s : Int) := by
    rw [maxExponent]
    omega
  rw [ofQuotient, if_neg hn, roundPositive]
  simp only [h, Int.neg_neg, scaled]
  split
  · rw [show -(s : Int) + 1 = 1 - s by omega, if_neg exponent.1]
  · rw [if_neg exponent.2]

/-- **The ceiling of a rounded quotient** is that of the exact one, up to `2 ^ 53`. -/
theorem ceil?_ofQuotient {n d j : Nat} (hd : d ≤ 2 ^ 64) (hn : n ≤ 2 ^ 53) (above : j * d < n)
    (upto : n ≤ (j + 1) * d) : (ofQuotient false n d).ceil? = some ((j : Int) + 1) := by
  have hn0 : n ≠ 0 := by omega
  have hd0 : 0 < d := by
    rcases Nat.eq_zero_or_pos d with rfl | h
    · omega
    · exact h
  by_cases whole : lastBit n d ≤ 0
  · obtain ⟨s, hs⟩ : ∃ s : Nat, lastBit n d = -(s : Int) := ⟨(-lastBit n d).toNat, by omega⟩
    obtain ⟨low, high⟩ := roundHalfEven_between hd0 hn (bits_of_lastBit hn0 hd hs) above upto
    rw [ofQuotient_of_lastBit hn0 hs]
    split
    · rename_i carry
      rw [carry] at low high
      exact ceil?_finite (a := 1) (b := s) (by omega) (by omega) (by omega)
    · exact ceil?_finite (a := 0) (b := s) (by omega) (by omega) (by omega)
  · -- only the greatest total on pages of one item has a last bit above the units
    have total : n = 2 ^ 53 := by
      by_contra other
      exact whole (lastBit_le (k := 0) hn0 hd0 (by omega))
    subst total
    have one : d = 1 := by
      by_contra other
      rw [lastBit, minExponent] at whole
      obtain ⟨f, hf⟩ : ∃ f : Nat, floorLog2 (2 ^ 53) d = f :=
        ⟨(floorLog2 (2 ^ 53) d).toNat, by omega⟩
      have reached : d * 2 ^ f ≤ 2 ^ 53 * 2 ^ 0 := mul_pow_floorLog2_le hn0 (by omega)
      have twice : 2 * 2 ^ 53 ≤ d * 2 ^ f :=
        Nat.mul_le_mul (by omega) (Nat.pow_le_pow_right (by decide) (by omega))
      omega
    subst one
    have rounded : ofQuotient false (2 ^ 53) 1 = .finite false (2 ^ 52) 1 := by rfl
    rw [rounded]
    exact ceil?_finite (a := 1) (b := 0) rfl (by omega) (by omega)

/-- Rounding keeps the sign of a quotient. -/
theorem ofQuotient_cases (negative : Bool) (num den : Nat) :
    (∃ m e, ofQuotient negative num den = .finite negative m e) ∨
      ofQuotient negative num den = .infinite negative := by
  rw [ofQuotient]
  split
  · exact .inl ⟨_, _, rfl⟩
  · dsimp only
    split
    · exact .inr rfl
    · exact .inl ⟨_, _, rfl⟩

/-- A quotient of which the numerator is in the range of the format has a finite result. -/
theorem exists_ofQuotient {negative : Bool} {num den k : Nat} (hd : 0 < den) (hk : k < 971)
    (h : num < 2 ^ (k + 53)) : ∃ m e, ofQuotient negative num den = .finite negative m e := by
  by_cases hn : num = 0
  · exact ⟨0, minExponent, by rw [ofQuotient, if_pos hn]⟩
  · have last : lastBit num den ≤ k := lastBit_le hn hd h
    have exponent : (roundPositive num den).2 ≤ maxExponent := by
      rw [roundPositive, maxExponent]
      split
      · exact Int.add_le_of_le_sub_right (by omega)
      · exact last.trans (by omega)
    exact ⟨_, _, by rw [ofQuotient, if_neg hn]; exact if_neg (Int.not_lt.mpr exponent)⟩

/-- A zero of either sign has the value zero. -/
theorem toRat?_zero (negative : Bool) (e : Int) : (finite negative 0 e).toRat? = some 0 := by
  have none : (scaleTwo 0 1 e).1 = 0 := by
    rw [scaleTwo]
    split
    · exact Nat.zero_mul _
    · rfl
  rw [toRat?, none]
  cases negative <;> simp

theorem ceil?_zero (e : Int) : (finite false 0 e).ceil? = some 0 := by
  rw [ceil?, toRat?_zero]
  rfl

end Binary64

/-! ### The number of pages -/

/-- A page is before the last one exactly if something comes after it. -/
theorem lt_ceilDiv_iff {total size i : Nat} (h : 0 < size) :
    i < ceilDiv total size ↔ i * size < total := by
  rw [ceilDiv, Nat.lt_iff_add_one_le, Nat.le_div_iff_mul_le h, Nat.add_mul]
  omega

/-- The ceiling of a rounded quotient, as a division that is rounded up. -/
theorem Binary64.ceil?_ofQuotient_eq_ceilDiv {total perPage : Nat} (hp : 0 < perPage)
    (hp' : perPage ≤ 2 ^ 64) (ht : total ≤ 2 ^ 53) :
    (ofQuotient false total perPage).ceil? = some (ceilDiv total perPage : Int) := by
  rcases Nat.eq_zero_or_pos total with rfl | positive
  · have none : ceilDiv 0 perPage = 0 := Nat.div_eq_of_lt (by omega)
    rw [none, ofQuotient, if_pos rfl]
    exact ceil?_zero _
  · obtain ⟨j, hj⟩ : ∃ j, ceilDiv total perPage = j + 1 :=
      Nat.exists_eq_add_one.mpr ((lt_ceilDiv_iff hp).mpr (by omega))
    have upto : total ≤ (j + 1) * perPage := hj ▸ le_ceilDiv_mul total hp
    have above : j * perPage < total := (lt_ceilDiv_iff hp).mp (by omega)
    rw [hj, ceil?_ofQuotient hp' ht above upto]
    rfl

/-- So many pages hold all the items, and one less does not. -/
theorem ceilDiv_between (total : Nat) {size : Nat} (h : 0 < size) :
    ((ceilDiv total size : Int) - 1) * size < total ∧
      (total : Int) ≤ ceilDiv total size * size := by
  refine ⟨?_, by exact_mod_cast le_ceilDiv_mul total h⟩
  rcases Nat.eq_zero_or_pos (ceilDiv total size) with none | some
  · rw [none]
    omega
  · obtain ⟨i, hi⟩ := Nat.exists_eq_add_one.mpr some
    have before : i * size < total := (lt_ceilDiv_iff h).mp (by omega)
    rw [hi, Nat.cast_succ, Int.add_sub_cancel]
    exact_mod_cast before

namespace Page

/-- The number of pages is the ceiling of the quotient, rounded before. -/
theorem pageCount_eq {total perPage : Nat} (hp : 0 < perPage) {m : Nat} {e : Int}
    (h : Binary64.ofQuotient false total perPage = .finite false m e) {pages : Int}
    (ceiling : (Binary64.ofQuotient false total perPage).ceil? = some pages) :
    pageCount (.int total) (.int perPage) = .ok pages := by
  have truthy : (Value.int perPage).isTruthy = true := by
    simpa [Value.isTruthy] using hp.ne'
  have sign : (decide ((total : Int) < 0) != decide ((perPage : Int) < 0)) = false := by
    simp [Int.not_lt.mpr (Int.natCast_nonneg _)]
  have quotient : Number.wholeQuotient total perPage = .ok (.finite false m e) := by
    rw [Number.wholeQuotient, sign, Int.natAbs_natCast, Int.natAbs_natCast, h]
  have read : Number.quotient (.int total) (.int perPage) = .ok (.binary (.finite false m e)) := by
    simp only [Number.quotient, Value.number?, quotient]
    rfl
  rw [h] at ceiling
  rw [pageCount, if_pos truthy, read]
  simp only [bind, Except.bind, Number.ceiling, Number.wholeOfBinary, ceiling]

/-- **The number of pages is the exact ceiling** of the quotient of the total and the page length,
for totals up to `2 ^ 53`. -/
theorem pageCount_int {total perPage : Nat} (hp : 0 < perPage) (hp' : perPage ≤ 2 ^ 64)
    (ht : total ≤ 2 ^ 53) :
    pageCount (.int total) (.int perPage) = .ok (ceilDiv total perPage : Nat) := by
  obtain ⟨m, e, finite⟩ := Binary64.exists_ofQuotient (k := 1) hp (by decide)
    (show total < 2 ^ (1 + 53) by omega)
  exact pageCount_eq hp finite (Binary64.ceil?_ofQuotient_eq_ceilDiv hp hp' ht)

/-- There is a number of pages for every total up to the number of keys. -/
theorem exists_pageCount {total perPage : Nat} (hp : 0 < perPage) (ht : total ≤ 2 ^ 128) :
    ∃ pages, pageCount (.int total) (.int perPage) = .ok pages := by
  obtain ⟨m, e, finite⟩ := Binary64.exists_ofQuotient (k := 100) hp (by decide)
    (ht.trans_lt (Nat.pow_lt_pow_right (by decide) (by decide)))
  exact ⟨_, pageCount_eq hp finite (by rw [finite]; rfl)⟩

/-- A page of integers is made exactly if there is a number of pages. -/
theorem build_int_eq_ok {α : Type} {items : List α} {total page perPage : Int} {p : Page α} :
    build items (.int total) (.int page) (.int perPage) = .ok p ↔
      ∃ pages, pageCount (.int total) (.int perPage) = .ok pages ∧
        p = ⟨items, total, page, perPage, pages⟩ := by
  rw [build]
  cases pageCount (.int total) (.int perPage) with
  | error m => simp
  | ok pages =>
    change Except.ok (⟨items, total, page, perPage, pages⟩ : Page α) = .ok p ↔ _
    simp [eq_comm]

end Page

/-- **The page count is exact.** A page can be made of any items, any number of the page, a total up
to `2 ^ 53` and a page length up to `2 ^ 53`. Its number of pages is the ceiling of the quotient as
it is rounded to a binary fraction, and so many pages hold all the items where one less does not.
That is, it is the ceiling of the exact quotient. -/
theorem page_count_exact {α : Type} (items : List α) (total page perPage : Int) (ht : 0 ≤ total)
    (ht' : total ≤ 2 ^ 53) (hp : 1 ≤ perPage) (hp' : perPage ≤ 2 ^ 53) :
    ∃ pages, Page.build items (.int total) (.int page) (.int perPage) =
        .ok ⟨items, total, page, perPage, pages⟩ ∧
      (Binary64.ofQuotient false total.toNat perPage.toNat).ceil? = some pages ∧
      (pages - 1) * perPage < total ∧ total ≤ pages * perPage ∧
      pages = ⌈(total : ℚ) / (perPage : ℚ)⌉ := by
  obtain ⟨n, rfl⟩ := Int.eq_ofNat_of_zero_le ht
  obtain ⟨d, rfl⟩ := Int.eq_ofNat_of_zero_le (show 0 ≤ perPage by omega)
  have positive : 0 < d := by omega
  have small : d ≤ 2 ^ 64 := by omega
  have few : n ≤ 2 ^ 53 := by omega
  obtain ⟨above, upto⟩ := ceilDiv_between n positive
  refine ⟨ceilDiv n d, Page.build_int_eq_ok.mpr ⟨_, Page.pageCount_int positive small few, rfl⟩,
    Binary64.ceil?_ofQuotient_eq_ceilDiv positive small few, above, upto, ?_⟩
  have size : (0 : ℚ) < (d : Int) := by exact_mod_cast positive
  rw [eq_comm, Int.ceil_eq_iff, lt_div_iff₀ size, div_le_iff₀ size]
  exact ⟨by exact_mod_cast above, by exact_mod_cast upto⟩

/-- As many items as are allowed, on pages of one item less. The quotient is the least binary
fraction above one, and there are two pages. -/
theorem page_count_exact_twoPages :
    ∃ pages, Page.build [Value.null] (.int (2 ^ 53)) (.int 2) (.int (2 ^ 53 - 1)) =
        .ok ⟨[Value.null], 2 ^ 53, 2, 2 ^ 53 - 1, pages⟩ ∧ pages = 2 := by
  obtain ⟨pages, built, -, above, upto, -⟩ :=
    page_count_exact [Value.null] (2 ^ 53) 2 (2 ^ 53 - 1) (by decide) (by decide) (by decide)
      (by decide)
  exact ⟨pages, built, by omega⟩

-- one item more, on pages of one item, and a page is missing
example : Page.pageCount (.int (2 ^ 53 + 1)) (.int 1) = .ok (2 ^ 53) := by rfl

end Recordbook

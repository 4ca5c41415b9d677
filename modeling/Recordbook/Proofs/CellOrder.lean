import Mathlib.Data.Rat.Cast.Order
import Mathlib.Order.WithBot
import Recordbook.Proofs.Cells

/-!
# The order of cells

Records are sorted by cells, and the comparison of cells looks at the class of each cell first:
nothing, numbers, texts, raw data. Keys and times are kept as texts of fixed forms and compared as
numbers, which is right only beside cells of the same sort. So the comparison as it stands is no
order of all cells. Among the cells of one column it is, since all that are filled hold what the
kind of the column says.

Here the order of a column is described sort by sort, without classes, and the comparison is shown
to decide it.

## Implementation notes

Every cell gets a rank: nothing, a number, a text or raw data. Ranks are compared lawfully whatever
cells they belong to, and as the cells themselves are if these are of one kind. So the laws of the
order are taken from the ranks.

## Main definitions

* `Cell.Below` — a cell comes before another of the same column
* `Cell.rank` — what a cell is compared by

## Main results

* `Cell.order_eq_lt_iff` — the comparison decides the order
* `Cell.order_eq_rank` — it compares ranks, which is lawful
-/

namespace Recordbook

/-! ### Laws of comparison -/

namespace Magnitude

/-- A magnitude among the rationals with a least and a greatest element. -/
def extended : Magnitude → WithBot (WithTop Rat)
  | .below => ⊥
  | .exact q => ((q : WithTop Rat) : WithBot (WithTop Rat))
  | .above => ((⊤ : WithTop Rat) : WithBot (WithTop Rat))

theorem compare_exact (p q : Rat) : compare (.exact p) (.exact q) = Ord.compare p q := rfl

theorem compare_eq_lt_iff {a b : Magnitude} : a.compare b = .lt ↔ a.extended < b.extended := by
  cases a <;> cases b
  case exact.exact p q =>
    rw [compare_exact, compare_lt_iff_lt, extended, extended, WithBot.coe_lt_coe,
      WithTop.coe_lt_coe]
  case exact.above q =>
    exact iff_of_true rfl (WithBot.coe_lt_coe.mpr (WithTop.coe_lt_top q))
  all_goals simp [compare, extended]

instance : Std.OrientedCmp compare where
  eq_swap {a b} := by
    cases a <;> cases b <;> try rfl
    case exact.exact p q =>
      rw [compare_exact, compare_exact]
      exact Std.OrientedOrd.eq_swap

instance : Std.TransCmp compare where
  isLE_trans {a b c} ab bc := by
    cases a <;> cases b <;> cases c <;> try first | rfl | contradiction
    case exact.exact.exact p q r =>
      rw [compare_exact] at ab bc ⊢
      exact Std.TransOrd.isLE_trans ab bc

end Magnitude

namespace Comparand

theorem compareData_eq (as bs : List UInt8) : compareData as bs = Ord.compare as bs := by
  induction as generalizing bs with
  | nil => cases bs <;> rfl
  | cons a as ih =>
    cases bs with
    | nil => rfl
    | cons b bs =>
      rw [compareData, ih, List.compare_cons_cons,
        show Ord.compare a b = compareOfLessAndEq a b from rfl, compareOfLessAndEq]
      split
      · rfl
      · split <;> rfl

theorem compareData_eq_lt_iff {as bs : List UInt8} : compareData as bs = .lt ↔ as < bs := by
  induction as generalizing bs with
  | nil => cases bs <;> simp [compareData]
  | cons a as ih =>
    cases bs with
    | nil => simp [compareData]
    | cons b bs =>
      rw [compareData, List.cons_lt_cons_iff]
      by_cases lt : a < b
      · simp [lt]
      · by_cases same : a = b
        · simp [same, ih]
        · simp [lt, same]

theorem compare_number (m n : Magnitude) : compare (.number m) (.number n) = m.compare n := rfl

theorem compare_text (s t : String) : compare (.text s) (.text t) = Ord.compare s t := rfl

theorem compare_data (as bs : List UInt8) :
    compare (.data as) (.data bs) = Ord.compare as bs := compareData_eq as bs

instance : Ord Comparand := ⟨compare⟩

instance : Std.OrientedOrd Comparand where
  eq_swap {a b} := by
    rw [show Ord.compare a b = a.compare b from rfl, show Ord.compare b a = b.compare a from rfl]
    cases a <;> cases b <;> try rfl
    case number.number m n =>
      rw [compare_number, compare_number]
      exact Std.OrientedCmp.eq_swap
    case text.text s t =>
      rw [compare_text, compare_text]
      exact Std.OrientedOrd.eq_swap
    case data.data as bs =>
      rw [compare_data, compare_data]
      exact Std.OrientedOrd.eq_swap

instance : Std.TransOrd Comparand where
  isLE_trans {a b c} ab bc := by
    rw [show Ord.compare a b = a.compare b from rfl] at ab
    rw [show Ord.compare b c = b.compare c from rfl] at bc
    rw [show Ord.compare a c = a.compare c from rfl]
    cases a <;> cases b <;> cases c <;> try first | rfl | contradiction
    case number.number.number m n o =>
      rw [compare_number] at ab bc ⊢
      exact Std.TransCmp.isLE_trans ab bc
    case text.text.text s t u =>
      rw [compare_text] at ab bc ⊢
      exact Std.TransOrd.isLE_trans ab bc
    case data.data.data as bs cs =>
      rw [compare_data] at ab bc ⊢
      exact Std.TransOrd.isLE_trans ab bc

end Comparand

/-! ### Cells of one column -/

namespace Cell

/-- Two cells that can stand in one column. -/
inductive Alike : Cell → Cell → Prop
  /-- The first is empty. -/
  | emptyLeft (c : Cell) : Alike .empty c
  /-- The second is empty. -/
  | emptyRight (c : Cell) : Alike c .empty
  /-- Both are keys. -/
  | key (u v : Uuid) : Alike (.key u) (.key v)
  /-- Both are texts. -/
  | text (s t : String) : Alike (.text s) (.text t)
  /-- The second is raw data in a column of texts. -/
  | textData (s : String) (bs : List UInt8) : Alike (.text s) (.data bs)
  /-- The first is raw data in a column of texts. -/
  | dataText (bs : List UInt8) (s : String) : Alike (.data bs) (.text s)
  /-- Both are raw data. -/
  | data (as bs : List UInt8) : Alike (.data as) (.data bs)
  /-- Both are truth values. -/
  | flag (b c : Bool) : Alike (.flag b) (.flag c)
  /-- Both are times. -/
  | moment (s t : Timestamp) : Alike (.moment s) (.moment t)
  /-- Both are amounts. -/
  | amount (x y : Binary64) : Alike (.amount x) (.amount y)

theorem alike_of_isOf {k : ColumnKind} {a b : Cell} (ha : a.isOf k = true)
    (hb : b.isOf k = true) : Alike a b := by
  cases k <;> cases a <;> first | cases ha; done | skip
  all_goals cases b <;> first | cases hb; done | constructor

theorem Alike.symm {a b : Cell} (h : Alike a b) : Alike b a := by
  cases h <;> constructor

/-- A cell comes before another of the same column. -/
inductive Below : Cell → Cell → Prop
  /-- Nothing comes before whatever there is. -/
  | empty {c : Cell} (filled : c.isEmpty = false) : Below .empty c
  /-- Keys are ordered as numbers, and so as the texts of one length that they are kept as. -/
  | key {u v : Uuid} (h : u.val < v.val) : Below (.key u) (.key v)
  /-- Texts are ordered by code points. -/
  | text {s t : String} (h : s < t) : Below (.text s) (.text t)
  /-- Raw data comes after all texts. -/
  | textData (s : String) (bs : List UInt8) : Below (.text s) (.data bs)
  /-- Raw data is ordered byte by byte. -/
  | data {as bs : List UInt8} (h : as < bs) : Below (.data as) (.data bs)
  /-- What is not so comes before what is. -/
  | flag : Below (.flag false) (.flag true)
  /-- Times are ordered by day and then by the clock. -/
  | moment {s t : Timestamp} (h : s.key < t.key) : Below (.moment s) (.moment t)
  /-- Amounts are ordered as numbers. -/
  | amount {x y : Binary64}
      (h : (Magnitude.ofBinary x).extended < (Magnitude.ofBinary y).extended) :
      Below (.amount x) (.amount y)

/-- What a cell is compared by. -/
def rank : Cell → Option Comparand
  | .key u => some (.number (.exact u.val))
  | .moment t => some (.number (.exact t.key))
  | c => c.comparand

variable {a b : Cell}

/-- Cells that can stand in one column are compared by their ranks. -/
theorem order_eq_rank (h : Alike a b) : a.order b = compare a.rank b.rank := by
  have numbers (m n : Nat) : compare m n =
      Comparand.compare (.number (.exact m)) (.number (.exact n)) := by
    simp only [Comparand.compare, Magnitude.compare, Nat.cast_lt, Nat.cast_inj]
    rfl
  cases h with
  | key u v => exact numbers u.val v.val
  | moment s t => exact numbers s.key t.key
  | emptyLeft => cases b <;> rfl
  | emptyRight => cases a <;> rfl
  | _ => rfl

theorem order_eq_swap (h : Alike a b) : b.order a = (a.order b).swap := by
  rw [order_eq_rank h, order_eq_rank h.symm]
  exact Std.OrientedOrd.eq_swap

/-- **The comparison decides the order** of the cells of a column. -/
theorem order_eq_lt_iff (h : Alike a b) : a.order b = .lt ↔ Below a b := by
  constructor
  · intro lt
    cases h with
    | emptyLeft => exact .empty (by cases b <;> first | rfl | cases lt)
    | emptyRight => cases a <;> cases lt
    | key u v => exact .key (Nat.compare_eq_lt.mp lt)
    | text s t => exact .text (compareOfLessAndEq_eq_lt.mp lt)
    | textData s bs => exact .textData s bs
    | dataText bs s => cases lt
    | data as bs => exact .data (Comparand.compareData_eq_lt_iff.mp lt)
    | flag x y =>
      cases x <;> cases y
      case false.true => exact .flag
      all_goals exact absurd lt (by decide)
    | moment s t => exact .moment (Nat.compare_eq_lt.mp lt)
    | amount x y => exact .amount (Magnitude.compare_eq_lt_iff.mp lt)
  · intro below
    cases below with
    | empty filled => cases b <;> first | rfl | cases filled
    | key less => exact Nat.compare_eq_lt.mpr less
    | text less => exact if_pos less
    | textData => rfl
    | data less => exact Comparand.compareData_eq_lt_iff.mpr less
    | flag => rfl
    | moment less => exact Nat.compare_eq_lt.mpr less
    | amount less => exact Magnitude.compare_eq_lt_iff.mpr less

end Cell

end Recordbook

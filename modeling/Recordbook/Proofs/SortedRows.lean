import Recordbook.Proofs.CellOrder
import Recordbook.Proofs.Selection

/-!
# Sorted records

An order names columns, each with a direction, and the first column counts most. Of two records, one
precedes the other by an order if it does so by the first column that tells the two apart: its cell
comes first there, or last if the direction is descending. A direction is descending if it has a
text that says `desc` in any case.

A statement sorts what it selects by a comparison of its own, which goes through the sort keys and
stops at the first that is not a tie. In a table whose columns hold what their kinds say, no record
that comes out later precedes one that comes out earlier.

## Main definitions

* `Row.Precedes` — one record precedes another by an order
* `Order.sortKeys` — the sort keys that an order makes

## Main results

* `Select.compareByAll_eq_lt_iff` — the comparison of records decides which one precedes
* `Select.pairwise_rows` — what a statement selects is sorted
-/

namespace Recordbook

/-- Whether a direction is descending. One that cannot be written is not. -/
def Value.IsDescending (v : Value) : Prop := ∃ text, v.text? = some text ∧ Text.lower text = "desc"

/-- The direction that a value asks for, ascending if it cannot be written. -/
def Direction.orAscending (v : Value) : Direction := (v.text?.map ofText).getD .ascending

theorem Direction.ofValue_of_isSome {v : Value} (h : v.text?.isSome = true) :
    ofValue v = .ok (orAscending v) := by
  obtain ⟨text, written⟩ := Option.isSome_iff_exists.mp h
  rw [ofValue, orAscending, written]
  rfl

theorem Direction.orAscending_of_descending {v : Value} (h : v.IsDescending) :
    orAscending v = .descending := by
  obtain ⟨text, written, descending⟩ := h
  rw [orAscending, written]
  exact if_pos descending

theorem Direction.orAscending_of_not_descending {v : Value} (h : ¬ v.IsDescending) :
    orAscending v = .ascending := by
  rw [orAscending]
  cases written : v.text? with
  | none => rfl
  | some text => exact if_neg fun descending => h ⟨text, written, descending⟩

/-- One cell comes before another in a direction. -/
def Cell.Ahead (direction : Value) (a b : Cell) : Prop :=
  (direction.IsDescending ∧ Below b a) ∨ (¬ direction.IsDescending ∧ Below a b)

/-- One record precedes another by an order: it does so by the first column that tells the two
apart. -/
inductive Row.Precedes : List (Field × Value) → Row → Row → Prop
  /-- By the first column. -/
  | first {f : Field} {direction : Value} {rest : List (Field × Value)} {a b : Row}
      (ahead : Cell.Ahead direction (a.cell f) (b.cell f)) : Precedes ((f, direction) :: rest) a b
  /-- By a later one, where the first does not tell the two apart. -/
  | later {f : Field} {direction : Value} {rest : List (Field × Value)} {a b : Row}
      (notAhead : ¬ Cell.Ahead direction (a.cell f) (b.cell f))
      (notBehind : ¬ Cell.Ahead direction (b.cell f) (a.cell f)) (precedes : Precedes rest a b) :
      Precedes ((f, direction) :: rest) a b

/-- The sort keys that an order makes. -/
def Order.sortKeys (order : List (Field × Value)) : List (Field × Direction) :=
  order.map fun g => (g.1, Direction.orAscending g.2)

/-- Two records have cells that can stand in one column, under some names. -/
def Row.AlikeUnder (fields : List Field) (a b : Row) : Prop :=
  ∀ f ∈ fields, Cell.Alike (a.cell f) (b.cell f)

theorem Row.Typed.alikeUnder {e : Entity} {a b : Row} (ha : a.Typed e) (hb : b.Typed e)
    {fields : List Field} (columns : ∀ f ∈ fields, ∃ c ∈ e.columns, c.field = f) :
    a.AlikeUnder fields b := by
  intro f hf
  obtain ⟨c, hc, rfl⟩ := columns f hf
  exact Cell.alike_of_isOf (ha c hc) (hb c hc)

namespace Select

/-! ### Comparing records -/

/-- The comparison by one sort key decides which record is ahead. -/
theorem compareBy_eq_lt_iff {f : Field} {direction : Value} {a b : Row}
    (alike : Cell.Alike (a.cell f) (b.cell f)) :
    compareBy (f, Direction.orAscending direction) a b = .lt ↔
      Cell.Ahead direction (a.cell f) (b.cell f) := by
  by_cases descending : direction.IsDescending
  · rw [Direction.orAscending_of_descending descending, compareBy]
    simpa [Cell.Ahead, descending] using Cell.order_eq_lt_iff alike.symm
  · rw [Direction.orAscending_of_not_descending descending, compareBy]
    simpa [Cell.Ahead, descending] using Cell.order_eq_lt_iff alike

/-- It does not depend on which of the two is taken first. -/
theorem compareBy_swap {key : Field × Direction} {a b : Row}
    (alike : Cell.Alike (a.cell key.1) (b.cell key.1)) :
    compareBy key b a = (compareBy key a b).swap := by
  obtain ⟨f, direction⟩ := key
  cases direction with
  | ascending => exact Cell.order_eq_swap alike
  | descending => exact Cell.order_eq_swap alike.symm

/-- **The comparison of records decides which one precedes** by an order. -/
theorem compareByAll_eq_lt_iff {order : List (Field × Value)} {a b : Row}
    (alike : a.AlikeUnder (order.map Prod.fst) b) :
    compareByAll (Order.sortKeys order) a b = .lt ↔ Row.Precedes order a b := by
  induction order with
  | nil =>
    constructor
    · exact nofun
    · exact nofun
  | cons g rest ih =>
    obtain ⟨f, direction⟩ := g
    rw [List.map_cons, Row.AlikeUnder, List.forall_mem_cons] at alike
    obtain ⟨here, alike⟩ := alike
    have ahead : compareBy (f, Direction.orAscending direction) a b = .lt ↔
        Cell.Ahead direction (a.cell f) (b.cell f) := compareBy_eq_lt_iff here
    have behind : compareBy (f, Direction.orAscending direction) b a = .lt ↔
        Cell.Ahead direction (b.cell f) (a.cell f) := compareBy_eq_lt_iff here.symm
    rw [compareBy_swap here, Ordering.swap_eq_lt] at behind
    rw [Order.sortKeys, List.map_cons, compareByAll, Ordering.then_eq_lt, ahead]
    constructor
    · rintro (lt | ⟨tie, lt⟩)
      · exact .first lt
      · exact .later (by rw [← ahead, tie]; exact nofun) (by rw [← behind, tie]; exact nofun)
          ((ih alike).mp lt)
    · intro precedes
      cases precedes with
      | first lt => exact .inl lt
      | later notAhead notBehind precedes =>
        refine .inr ⟨?_, (ih alike).mpr precedes⟩
        rw [← ahead] at notAhead
        rw [← behind] at notBehind
        cases h : compareBy (f, Direction.orAscending direction) a b with
        | eq => rfl
        | lt => exact absurd h notAhead
        | gt => exact absurd h notBehind

/-! ### Sorting by ranks -/

/-- The order of two records by the ranks of their cells. -/
def compareRanks : List (Field × Direction) → Row → Row → Ordering
  | [] => fun _ _ => .eq
  | (f, .ascending) :: keys =>
    compareLex (fun a b => compare (a.cell f).rank (b.cell f).rank) (compareRanks keys)
  | (f, .descending) :: keys =>
    compareLex (fun a b => compare (b.cell f).rank (a.cell f).rank) (compareRanks keys)

/-- Ranks are compared lawfully, whatever cells they belong to. -/
instance transCmp_compareRanks (keys : List (Field × Direction)) :
    Std.TransCmp (compareRanks keys) := by
  induction keys with
  | nil => exact { eq_swap := rfl, isLE_trans := fun _ _ => rfl }
  | cons key keys ih =>
    obtain ⟨f, direction⟩ := key
    have ranks : Std.TransCmp fun a b : Row => compare (a.cell f).rank (b.cell f).rank :=
      inferInstanceAs (Std.TransCmp (compareOn fun r : Row => (r.cell f).rank))
    cases direction with
    | ascending => exact inferInstanceAs (Std.TransCmp (compareLex _ _))
    | descending =>
      have flipped : Std.TransCmp fun a b : Row => compare (b.cell f).rank (a.cell f).rank :=
        inferInstanceAs (Std.TransCmp fun a b => (fun a b : Row =>
          compare (a.cell f).rank (b.cell f).rank) b a)
      exact inferInstanceAs (Std.TransCmp (compareLex _ _))

theorem compareByAll_eq_compareRanks {keys : List (Field × Direction)} {a b : Row}
    (alike : a.AlikeUnder (keys.map Prod.fst) b) :
    compareByAll keys a b = compareRanks keys a b := by
  induction keys with
  | nil => rfl
  | cons key keys ih =>
    obtain ⟨f, direction⟩ := key
    rw [List.map_cons, Row.AlikeUnder, List.forall_mem_cons] at alike
    obtain ⟨here, alike⟩ := alike
    rw [compareByAll, ih alike]
    cases direction with
    | ascending => rw [compareBy, Cell.order_eq_rank here]; rfl
    | descending => rw [compareBy, Cell.order_eq_rank here.symm]; rfl

/-- **What a statement selects is sorted**, in a table whose columns hold what their kinds say: no
record precedes one that comes before it. -/
theorem pairwise_rows {s : Store} {e : Entity} (typed : ∀ row ∈ s.rows e, row.Typed e)
    {order : List (Field × Value)} (columns : ∀ g ∈ order, ∃ c ∈ e.columns, c.field = g.1)
    (bound : List (Criterion Datum)) :
    (rows s e bound (Order.sortKeys order)).Pairwise fun a b => ¬ Row.Precedes order b a := by
  have alike {a b : Row} (ha : a ∈ matching s e bound) (hb : b ∈ matching s e bound) :
      a.AlikeUnder (order.map Prod.fst) b := by
    refine (typed a (mem_matching.mp ha).1).alikeUnder (typed b (mem_matching.mp hb).1) ?_
    simpa using columns
  have fields : (Order.sortKeys order).map Prod.fst = order.map Prod.fst := by
    rw [Order.sortKeys, List.map_map]
    rfl
  have ranked {a b : Row} (ha : a ∈ matching s e bound) (hb : b ∈ matching s e bound) :
      compareByAll (Order.sortKeys order) a b = compareRanks (Order.sortKeys order) a b :=
    compareByAll_eq_compareRanks (fields ▸ alike ha hb)
  have swap (a b : Row) : compareRanks (Order.sortKeys order) b a =
      (compareRanks (Order.sortKeys order) a b).swap := Std.OrientedCmp.eq_swap
  let le (a b : Row) : Bool := (compareRanks (Order.sortKeys order) a b).isLE
  have same : rows s e bound (Order.sortKeys order) = (matching s e bound).mergeSort le := by
    have sorts := List.map_mergeSort (f := id) (r := mayPrecede (Order.sortKeys order)) (s := le)
      (l := matching s e bound) fun a ha b hb => congrArg Ordering.isLE (ranked ha hb)
    rwa [List.map_id, List.map_id] at sorts
  have sorted : ((matching s e bound).mergeSort le).Pairwise fun a b => le a b = true := by
    refine List.pairwise_mergeSort (fun _ _ _ => Std.TransCmp.isLE_trans) (fun a b => ?_) _
    simp only [le, swap a b]
    cases compareRanks (Order.sortKeys order) a b <;> rfl
  rw [← same] at sorted
  refine sorted.imp_of_mem fun {a b} ha hb before precedes => ?_
  have ha := (rows_perm ..).mem_iff.mp ha
  have hb := (rows_perm ..).mem_iff.mp hb
  have after := (compareByAll_eq_lt_iff (alike hb ha)).mpr precedes
  rw [ranked hb ha, swap, Ordering.swap_eq_lt] at after
  simp only [le, after] at before
  cases before

end Select

end Recordbook

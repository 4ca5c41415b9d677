import Recordbook.Proofs.Keyed

/-!
# Pages partition the records

The pages of a filter, one after another, are the records that the filter finds, in the same order:
a window starts where the one before it ends, and there are as many pages as it takes to reach the
last record. That is the exact ceiling of a quotient, up to `2 ^ 53` records.

What is shown of a record includes the records found along its relations, and of these whatever was
loaded in the same answer. So a page may show less of a related record than all records at once,
though never of another one. The outline of a record leaves that out: it has all columns of the
record itself, and of the related ones the keys.

## Main definitions

* `Loaded.outline` — a shown record without the columns of related records
* `Page.part` — the items of a list that are on a page
* `Repository.Paged` — how the pages of a filter are related to all its records

## Main results

* `LoadPlan.map_outline_present` — the outline of a record does not depend on the other records
* `flatMap_pages` — the parts of a list that are on its pages make up the list
* `Repository.paged_of_reached` — the pages of a query are fetched
* `pages_partition` — the pages of a filter make up its records
-/

namespace Recordbook

/-! ### Outlines -/

namespace Loaded

mutual

/-- A shown record without its columns other than the key, and its related records likewise. -/
def bare : Loaded → Loaded
  | .record e columns relations =>
    .record e (columns.filter fun c => c.1 = .id) (bareAlong relations)
termination_by structural x => x

/-- The relations of a shown record, of whose records only the keys are left. -/
def bareAlong : List (String × Bool × List Loaded) → List (String × Bool × List Loaded)
  | [] => []
  | (name, many, items) :: rest => (name, many, bareAll items) :: bareAlong rest
termination_by structural x => x

/-- Shown records of which only the keys are left. -/
def bareAll : List Loaded → List Loaded
  | [] => []
  | x :: xs => bare x :: bareAll xs
termination_by structural x => x

end

/-- A shown record with all its columns, and of its related records the keys. -/
def outline : Loaded → Loaded
  | .record e columns relations => .record e columns (bareAlong relations)

theorem bareAll_eq_map (xs : List Loaded) : bareAll xs = xs.map bare := by
  induction xs with
  | nil => rfl
  | cons x xs ih => rw [bareAll, ih, List.map_cons]

end Loaded

namespace LoadPlan

open Loaded

/-- The key of a record is shown whatever was loaded. -/
theorem filter_shownColumns (all : List Load) (e : Entity) (row : Row) :
    (shownColumns all e row).filter (fun c => c.1 = .id) =
      (e.columns.map (·.field)).filterMap fun f =>
        if f = .id then some (f, row.value f) else none := by
  rw [shownColumns, List.filter_filterMap]
  refine List.filterMap_congr fun f _ => ?_
  by_cases key : f = .id
  · simp [key, isLoaded]
  · simp only [key, if_false]
    split <;> simp [key]

mutual

/-- Which records are shown does not depend on what was loaded. -/
theorem bare_view (s : Store) (all all' : List Load) (e : Entity) (row : Row) :
    (plan : LoadPlan) → bare (view s all e row plan) = bare (view s all' e row plan)
  | .whole branches => by
    rw [view, view, bare, bare, filter_shownColumns, filter_shownColumns,
      bareAlong_viewAlong s all all' row branches]
  | .columns fields => by
    rw [view, view, bare, bare, filter_shownColumns, filter_shownColumns]

theorem bareAlong_viewAlong (s : Store) (all all' : List Load) (row : Row) :
    (branches : List (Relation × LoadPlan)) →
      bareAlong (viewAlong s all row branches) = bareAlong (viewAlong s all' row branches)
  | [] => by rw [viewAlong, viewAlong]
  | (r, plan) :: rest => by
    rw [viewAlong, viewAlong, bareAlong, bareAlong, bareAll_eq_map, bareAll_eq_map, List.map_map,
      List.map_map, bareAlong_viewAlong s all all' row rest]
    have same : ∀ other, bare (view s all r.target other plan) =
        bare (view s all' r.target other plan) :=
      fun other => bare_view s all all' r.target other plan
    simp only [Function.comp_def, same]

end

/-- A record with all its columns, and the keys of what is found along some relations. -/
def outlineOf (s : Store) (e : Entity) (branches : List (Relation × LoadPlan)) (row : Row) :
    Loaded :=
  .record e (e.columns.map fun c => (c.field, row.value c.field))
    (bareAlong (viewAlong s [] row branches))

/-- The outline of a shown record does not depend on the records that are shown with it. -/
theorem map_outline_present (s : Store) (e : Entity) (branches : List (Relation × LoadPlan))
    (rows : List Row) :
    (present s e (.whole branches) rows).map outline = rows.map (outlineOf s e branches) := by
  rw [present, List.map_map]
  refine List.map_congr_left fun row hrow => ?_
  rw [Function.comp_apply, view, shownColumns_present s e branches hrow, outline, outlineOf,
    bareAlong_viewAlong s _ [] row branches]

end LoadPlan

/-! ### The pages of a list -/

section pages

variable {α : Type} {size : Nat}

/-- The first pages of a list are its first items. -/
theorem take_pages (xs : List α) (size count : Nat) :
    ((List.range count).flatMap fun i => (xs.drop (i * size)).take size) =
      xs.take (count * size) := by
  induction count with
  | zero => simp
  | succ count ih =>
    rw [List.range_succ, List.flatMap_append, ih, List.flatMap_singleton, Nat.succ_mul,
      List.take_add]

/-- **The pages of a list make up the list.** -/
theorem flatMap_pages (hs : 0 < size) (xs : List α) :
    ((List.range (ceilDiv xs.length size)).flatMap fun i => (xs.drop (i * size)).take size) =
      xs := by
  rw [take_pages, List.take_of_length_le (le_ceilDiv_mul xs.length hs)]

/-- Every page before the last one is full. -/
theorem length_page {xs : List α} {i : Nat} (hs : 0 < size) (h : i + 1 < ceilDiv xs.length size) :
    ((xs.drop (i * size)).take size).length = size := by
  have more := (lt_ceilDiv_iff hs).mp h
  rw [Nat.succ_mul] at more
  rw [List.length_take, List.length_drop]
  omega

/-- There is nothing on a page after the last one. -/
theorem page_eq_nil {xs : List α} {i : Nat} (hs : 0 < size) (h : ceilDiv xs.length size ≤ i) :
    (xs.drop (i * size)).take size = [] := by
  have none : xs.length ≤ i * size := Nat.not_lt.mp (mt (lt_ceilDiv_iff hs).mpr (Nat.not_lt.mpr h))
  rw [List.drop_of_length_le none, List.take_nil]

/-- The items of a list that are on a page. Pages before the first are taken as the first. -/
def Page.part (size : Nat) (xs : List α) (page : Int) : List α :=
  (xs.drop ((max page 1 - 1).toNat * size)).take size

theorem Page.part_succ (xs : List α) (i : Nat) :
    part size xs (i + 1) = (xs.drop (i * size)).take size := by
  rw [part, show (max ((i : Int) + 1) 1 - 1).toNat = i by omega]

theorem Page.part_of_nonpos (xs : List α) {page : Int} (early : page ≤ 0) :
    part size xs page = part size xs 1 := by
  rw [part, part, show max page 1 = max 1 1 by omega]

end pages

/-! ### The pages of a filter -/

/-- The pages of a filter make up all its records; `items` are what each page shows. -/
structure Repository.Paged (r : Repository) (c : Context) (s : Session) (filters : Entries)
    (order tree : Value) (perPage pages : Nat) (records : List Loaded) (items : Int → List Loaded) :
    Prop where
  /-- All records are fetched. -/
  fetched : (r.get c s (.map filters) order tree).1 = Envelope.success (.records records) 200
  /-- Every page is fetched up to the last one, and beyond it as far as its offset fits 64 bits. -/
  answered : ∀ page : Int, page ≤ pages ∨ (page - 1) * perPage < 2 ^ 63 →
    (r.getPaginated c s (.map filters) order tree (.int page) (.int perPage)).1 =
      Envelope.success (.page ⟨items page, records.length, page, perPage, pages⟩) 200
  /-- The pages make up all the records, none lost, repeated or out of order. -/
  whole : ((List.range pages).flatMap fun i : Nat => items (i + 1)).map Loaded.outline =
    records.map Loaded.outline
  /-- Every page before the last one is full. -/
  full : ∀ page : Int, 1 ≤ page → page < pages → (items page).length = perPage
  /-- There is nothing on a page after the last one. -/
  beyond : ∀ page : Int, pages < page → items page = []
  /-- Pages before the first are taken as the first. -/
  before : ∀ page : Int, page ≤ 0 → items page = items 1

/-- **Every page is fetched** up to the last one, and beyond it as far as its offset fits 64 bits.
-/
theorem Repository.paged_of_reached {r : Repository} {c : Context} {s : Session}
    {q : CompiledQuery} {criteria : List (Criterion Operand)} {bound : List (Criterion Datum)}
    {keys : List (Field × Direction)} {branches : List (Relation × LoadPlan)} {perPage : Nat}
    (active : s.isActive = true) (few : (s.working.rows r.entity).length < 2 ^ 53)
    (positive : 1 ≤ perPage) (small : perPage < 2 ^ 53)
    (hst : Select.build r.entity q = .ok ⟨r.entity, criteria, keys, .whole branches⟩)
    (hd : Criteria.bind criteria = .ok bound) {page : Int} :
    let rows := Select.rows s.working r.entity bound keys
    let pages := ceilDiv rows.length perPage
    page ≤ pages ∨ (page - 1) * perPage < 2 ^ 63 →
      r.paged c s q (.int page) (.int perPage) =
        .ok (Envelope.success (.page ⟨LoadPlan.present s.working r.entity (.whole branches)
          (Page.part perPage rows page), rows.length, page, perPage, pages⟩) 200) := by
  intro rows pages reached
  have length : rows.length = (Select.matching s.working r.entity bound).length :=
    Select.length_rows keys
  have total : rows.length < 2 ^ 53 := by
    rw [length]
    exact (Select.matching_subperm ..).length_le.trans_lt few
  have offset : (max page 1 - 1) * perPage < 2 ^ 63 := by
    obtain ⟨i, hi⟩ : ∃ i : Nat, max page 1 - 1 = i := ⟨(max page 1 - 1).toNat, by omega⟩
    rw [hi]
    rcases Nat.eq_zero_or_pos i with rfl | later
    · simp
    · rcases reached with within | fits
      · have before : i * perPage < rows.length := (lt_ceilDiv_iff positive).mp (by omega)
        exact_mod_cast before.trans (total.trans (by decide))
      · rwa [show page - 1 = i by omega] at fits
  have counted := Page.pageCount_int (show 0 < perPage by omega) (by omega) total.le
  rw [length] at counted
  rw [Repository.paged_of_build active (by omega) hst hd
    (Repository.fits_window (by omega) offset (by omega)) counted, ← length]
  rfl

/-- **The pages of a filter partition its records.** With fewer than `2 ^ 53` records in the table,
and pages that are no longer than that, whatever can be fetched at all can be fetched page by page:
the pages from the first to the last are all the records in their order, only the last one may be
short, and there is nothing beyond it. -/
theorem pages_partition (r : Repository) (c : Context) (s : Session) (filters : Entries)
    (order tree : Value) (perPage : Nat) (few : (s.working.rows r.entity).length < 2 ^ 53)
    (positive : 1 ≤ perPage) (small : perPage < 2 ^ 53)
    (answered : (r.get c s (.map filters) order tree).1.isSuccess = true) :
    ∃ pages records items, r.Paged c s filters order tree perPage pages records items := by
  obtain ⟨active, bound, keys, branches, hc, hk, hb, shown⟩ := Repository.get_success answered
  obtain ⟨q, criteria, hq, hst, hd⟩ := Repository.exists_statement hc hk hb
  let rows := Select.rows s.working r.entity bound keys
  let plan := LoadPlan.whole branches
  have shownLength (found : List Row) :
      (LoadPlan.present s.working r.entity plan found).length = found.length :=
    (LoadPlan.shows_present ..).length_eq.symm
  have outlines (found : List Row) :
      (LoadPlan.present s.working r.entity plan found).map Loaded.outline =
        found.map (LoadPlan.outlineOf s.working r.entity branches) :=
    LoadPlan.map_outline_present ..
  refine ⟨ceilDiv rows.length perPage, LoadPlan.present s.working r.entity plan rows,
    fun page => LoadPlan.present s.working r.entity plan (Page.part perPage rows page), ?_⟩
  exact {
    fetched := shown
    answered := fun page reached => by
      rw [shownLength]
      exact Repository.report_of_ok (bind_eq_ok.mpr
        ⟨q, hq, Repository.paged_of_reached active few positive small hst hd reached⟩)
    whole := by
      simp only [List.map_flatMap, outlines, Page.part_succ]
      rw [← List.map_flatMap, flatMap_pages positive]
    full := fun page first last => by
      obtain ⟨i, rfl⟩ : ∃ i : Nat, page = i + 1 := ⟨(page - 1).toNat, by omega⟩
      rw [shownLength, Page.part_succ]
      exact length_page positive (by omega)
    beyond := fun page last => by
      obtain ⟨i, rfl⟩ : ∃ i : Nat, page = i + 1 := ⟨(page - 1).toNat, by omega⟩
      rw [Page.part_succ, page_eq_nil positive (by omega)]
      rfl
    before := fun page early => by rw [Page.part_of_nonpos _ early] }

/-- The users of the sample store on pages of two, the newest first and with their memberships. -/
theorem pages_partition_sample :
    let c : Context := Script.context {} 1
    let s := Session.start Sample.store false
    let r := Repository.standard c.settings .user
    (s.working.rows r.entity).length = 5 ∧
      ∃ pages records items, r.Paged c s [] Repository.newestFirst Repository.membershipTree 2 pages
        records items := by
  intro c s r
  have answered : (r.get c s (.map []) Repository.newestFirst
      Repository.membershipTree).1.isSuccess = true := by
    rfl
  exact ⟨rfl, pages_partition r c s [] Repository.newestFirst Repository.membershipTree 2
    (by decide) (by decide) (by decide) answered⟩

end Recordbook

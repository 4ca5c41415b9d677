import Recordbook.Proofs.Selection
import Recordbook.Sample
import Recordbook.Script

/-!
# What the numbers of a page say of its items

A page is a window of the records that a filter finds, cut out by two numbers that callers choose.
The number of the page is taken as the first where it is less. The page length is replaced only if
it is falsy: a negative one is used as it is. The store reads it as no limit, and the offset that
comes of it as none, so the whole result is on every such page. The number of pages, being the
ceiling of a quotient, is then zero or negative.

With any other page length a page has no more items than that, and as long as the total is not
greater than `2 ^ 53`, only pages up to the last one have items.

## Main definitions

* `Page.Consistent` — what the numbers of a page say of its items

## Main results

* `Page.sign_of_pageCount` — the sign of the number of pages is that of the page length
* `Page.consistent_of_window` — the numbers of a window of a list
* `Repository.paged_success` — what a page of a query shows
* `page_bounds` — what a page that was fetched shows
-/

namespace Recordbook

/-! ### Signs -/

namespace Binary64

/-- The value of a binary fraction has the sign of the fraction. -/
theorem exists_toRat?_finite (negative : Bool) (m : Nat) (e : Int) :
    ∃ q : Rat, 0 ≤ q ∧ (finite negative m e).toRat? = some (if negative then -q else q) := by
  refine ⟨mkRat (scaleTwo m 1 e).1 (scaleTwo m 1 e).2, ?_, rfl⟩
  exact Rat.mkRat_nonneg (Int.natCast_nonneg _) _

theorem ceil?_sign {negative : Bool} {m : Nat} {e c : Int}
    (h : (finite negative m e).ceil? = some c) : if negative then c ≤ 0 else 0 ≤ c := by
  obtain ⟨q, positive, value⟩ := exists_toRat?_finite negative m e
  rw [ceil?, value, Option.map_some, Option.some.injEq] at h
  subst h
  cases negative with
  | true => exact Rat.ceil_le_iff.mpr (by simpa using positive)
  | false =>
    have above : q ≤ (q.ceil : Rat) := Rat.le_ceil
    exact_mod_cast positive.trans above

end Binary64

namespace Page

/-- **The sign of the number of pages** is that of the page length. -/
theorem sign_of_pageCount {total : Nat} {perPage pages : Int}
    (h : pageCount (.int total) (.int perPage) = .ok pages) :
    (0 ≤ perPage → 0 ≤ pages) ∧ (perPage < 0 → pages ≤ 0) := by
  rw [pageCount] at h
  split at h
  · have sign : (decide ((total : Int) < 0) != decide (perPage < 0)) = decide (perPage < 0) := by
      simp [Int.not_lt.mpr (Int.natCast_nonneg _)]
    obtain ⟨quotient, divided, ceiling⟩ := bind_eq_ok.mp h
    obtain ⟨x, whole, rfl⟩ :
        ∃ x, Number.wholeQuotient total perPage = .ok x ∧ .binary x = quotient :=
      map_eq_ok.mp divided
    rw [Number.wholeQuotient, sign] at whole
    rcases Binary64.ofQuotient_cases (decide (perPage < 0)) (Int.natAbs total) perPage.natAbs with
      ⟨m, e, finite⟩ | infinite
    · rw [finite] at whole
      cases whole
      have read : (Binary64.finite (decide (perPage < 0)) m e).ceil? = some pages := by
        simp only [Number.ceiling, Number.wholeOfBinary] at ceiling
        split at ceiling
        · cases ceiling
          assumption
        · cases ceiling
      have signed := Binary64.ceil?_sign read
      constructor
      · intro positive
        simpa [Int.not_lt.mpr positive] using signed
      · intro negative
        simpa [negative] using signed
    · rw [infinite] at whole
      cases whole
  · cases h
    exact ⟨fun _ => Int.le_refl 0, fun _ => Int.le_refl 0⟩

/-! ### Windows -/

namespace Window

variable {α : Type} {w : Window} {xs : List α}

/-- A window shows no more than its limit, if that is one. -/
theorem length_slice_le (h : 0 ≤ w.limit) : ((w.slice xs).length : Int) ≤ w.limit := by
  rw [slice, if_neg (Int.not_lt.mpr h), List.length_take]
  omega

/-- A window only shows what comes after its offset. -/
theorem offset_lt_of_slice_ne_nil (h : w.slice xs ≠ []) : w.offset.toNat < xs.length := by
  by_contra past
  have nothing : xs.drop w.offset.toNat = [] := List.drop_of_length_le (Nat.le_of_not_lt past)
  rw [slice, nothing, List.take_nil] at h
  exact h (ite_self _)

/-- A window without a limit and an offset shows everything. -/
theorem slice_of_neg (limit : w.limit < 0) (offset : w.offset ≤ 0) : w.slice xs = xs := by
  rw [slice, if_pos limit, Int.toNat_of_nonpos offset, List.drop_zero]

end Window

/-! ### Pages -/

/-- What the numbers of a page say of its items. -/
structure Consistent {α : Type} (p : Page α) : Prop where
  /-- The total is a number of items. -/
  total : 0 ≤ p.total
  /-- The number of pages has the sign of the page length. -/
  pages : (0 ≤ p.perPage → 0 ≤ p.pages) ∧ (p.perPage < 0 → p.pages ≤ 0)
  /-- There are no more items on a page than its length. -/
  bounded : 0 ≤ p.perPage → (p.items.length : Int) ≤ p.perPage
  /-- Only pages up to the last one have items. -/
  reached : 0 ≤ p.perPage → p.total ≤ 2 ^ 53 → p.items ≠ [] → max p.page 1 ≤ p.pages
  /-- On a page of a negative length are all items. -/
  unbounded : p.perPage < 0 → (p.items.length : Int) = p.total

/-- **The numbers of a window.** A page that shows the items of a list in a window is consistent. -/
theorem consistent_of_window {α β : Type} {xs : List α} {items : List β} {page perPage pages : Int}
    (fits : perPage < 2 ^ 63) (counted : pageCount (.int xs.length) (.int perPage) = .ok pages)
    (shown : items.length =
      ((Window.mk ((max page 1 - 1) * perPage) perPage).slice xs).length) :
    (Page.mk items xs.length page perPage pages).Consistent where
  total := Int.natCast_nonneg _
  pages := sign_of_pageCount counted
  bounded positive := by
    dsimp only at positive ⊢
    rw [shown]
    exact Window.length_slice_le positive
  reached positive few some := by
    dsimp only at positive few some ⊢
    rw [← List.length_pos_iff, shown, List.length_pos_iff] at some
    have later := Window.offset_lt_of_slice_ne_nil some
    rcases Int.lt_or_eq_of_le positive with positive | none
    · obtain ⟨size, rfl⟩ := Int.eq_ofNat_of_zero_le positive.le
      obtain ⟨i, hi⟩ : ∃ i : Nat, max page 1 - 1 = i := ⟨(max page 1 - 1).toNat, by omega⟩
      have within : i < ceilDiv xs.length size := (lt_ceilDiv_iff (by omega)).mpr (by
        dsimp only at later
        rw [hi] at later
        exact_mod_cast later)
      rw [pageCount_int (by omega) (by omega) (by omega)] at counted
      cases counted
      omega
    · subst none
      exact absurd (by simp [Window.slice]) some
  unbounded negative := by
    dsimp only at negative ⊢
    rw [shown, Window.slice_of_neg negative]
    exact Int.mul_nonpos_of_nonneg_of_nonpos (by omega) negative.le

end Page

/-! ### Answers -/

namespace Repository

variable {r : Repository} {c : Context} {s : Session}

/-- The page length that is asked for, in whole numbers: the one given unless that is zero, and the
one in the settings if none is. -/
theorem exists_pageLength (c : Context) {perPage : Value}
    (whole : perPage = .null ∨ ∃ n, perPage = .int n) :
    ∃ n, pageLength c perPage = .int n := by
  rw [pageLength]
  split
  · rcases whole with rfl | ⟨n, rfl⟩
    · rename_i truthy
      cases truthy
    · exact ⟨n, rfl⟩
  · exact ⟨_, rfl⟩

/-- **What a page of a query shows**: the records of the query in a window, beside their number. -/
theorem paged_success {q : CompiledQuery} {page n : Int} {perPage : Value} {reply : Reply}
    (length : pageLength c perPage = .int n)
    (answered : r.paged c s q (.int page) perPage = .ok reply) :
    ∃ p, reply = Envelope.success (.page p) 200 ∧ p.page = page ∧ p.perPage = n ∧ p.Consistent := by
  rw [paged, length] at answered
  obtain ⟨st, built, answered⟩ := bind_eq_ok.mp answered
  obtain ⟨_, -, answered⟩ := bind_eq_ok.mp answered
  obtain ⟨total, counted, answered⟩ := bind_eq_ok.mp answered
  obtain ⟨window, placed, answered⟩ := bind_eq_ok.mp answered
  obtain ⟨found, run, answered⟩ := bind_eq_ok.mp answered
  obtain ⟨p, made, answered⟩ := bind_eq_ok.mp answered
  cases pure_eq_ok.mp answered
  cases (mapError_eq_ok.mp placed).symm.trans (window_int page n)
  obtain ⟨criteria, -, built⟩ := bind_eq_ok.mp built
  obtain ⟨keys, -, built⟩ := bind_eq_ok.mp built
  obtain ⟨plan, -, built⟩ := bind_eq_ok.mp built
  cases pure_eq_ok.mp built
  -- the records are counted and cut out by the same criteria
  obtain ⟨bound, hd, counted⟩ := bind_eq_ok.mp counted
  cases pure_eq_ok.mp counted
  obtain ⟨bound', hd', run⟩ := bind_eq_ok.mp run
  cases hd.symm.trans hd'
  split at run
  · rename_i fits
    cases run
    obtain ⟨pages, numbered, rfl⟩ := Page.build_int_eq_ok.mp made
    refine ⟨_, rfl, rfl, rfl, ?_⟩
    rw [← Select.length_rows keys] at numbered ⊢
    refine Page.consistent_of_window ?_ numbered (List.length_map ..)
    simp only [Page.Window.fits, Bool.and_eq_true, decide_eq_true_eq] at fits
    exact fits.2.2
  · cases run

/-- A page is fetched from the parts of the call, whatever the sign of its length. -/
theorem getPaginated_of_window {filters : Entries} {bound : List (Criterion Datum)}
    {keys : List (Field × Direction)} {branches : List (Relation × LoadPlan)}
    {order tree perPage : Value} {page n pages : Int} (active : s.isActive = true)
    (hc : r.criteria? filters = some bound) (hk : r.sortKeys? order = some keys)
    (hb : r.branches? c.settings tree = some branches) (length : pageLength c perPage = .int n)
    (fits : (Page.Window.mk ((max page 1 - 1) * n) n).fits = true)
    (counted : Page.pageCount (.int (Select.matching s.working r.entity bound).length) (.int n) =
      .ok pages) :
    (r.getPaginated c s (.map filters) order tree (.int page) perPage).1 =
      Envelope.success (.page ⟨LoadPlan.present s.working r.entity (.whole branches)
        ((Page.Window.mk ((max page 1 - 1) * n) n).slice
          (Select.rows s.working r.entity bound keys)),
        (Select.matching s.working r.entity bound).length, page, n, pages⟩) 200 := by
  obtain ⟨q, criteria, hq, hst, hd⟩ := exists_statement hc hk hb
  refine report_of_ok (bind_eq_ok.mpr ⟨q, hq, ?_⟩)
  rw [paged, length]
  refine bind_eq_ok.mpr ⟨_, hst, bind_eq_ok.mpr ⟨(), Session.queryGuard_of_isActive active, ?_⟩⟩
  refine bind_eq_ok.mpr ⟨_, bind_eq_ok.mpr ⟨bound, hd, rfl⟩, ?_⟩
  refine bind_eq_ok.mpr ⟨_, mapError_eq_ok.mpr (window_int page n), ?_⟩
  refine bind_eq_ok.mpr ⟨_, bind_eq_ok.mpr ⟨bound, hd, if_pos fits⟩, ?_⟩
  exact bind_eq_ok.mpr ⟨_, Page.build_int_eq_ok.mpr ⟨pages, counted, rfl⟩, rfl⟩

/-- A page that was fetched is consistent. -/
theorem getPaginated_success {filters order tree : Value} {page n : Int} {perPage : Value}
    (length : pageLength c perPage = .int n)
    (answered : (r.getPaginated c s filters order tree (.int page) perPage).1.isSuccess = true) :
    ∃ p, (r.getPaginated c s filters order tree (.int page) perPage).1 =
        Envelope.success (.page p) 200 ∧
      p.page = page ∧ p.perPage = n ∧ p.Consistent := by
  rw [getPaginated, isSuccess_report] at answered
  cases found : (r.compile c.settings filters order tree >>=
      fun q => r.paged c s q (.int page) perPage) with
  | error f =>
    rw [found] at answered
    cases answered
  | ok reply =>
    obtain ⟨q, -, shown⟩ := bind_eq_ok.mp found
    obtain ⟨p, rfl, numbers⟩ := paged_success length shown
    exact ⟨p, report_of_ok found, numbers⟩

end Repository

/-- The sample store has five users. -/
theorem Sample.length_matching_users : (Select.matching store .user []).length = 5 :=
  ((Store.scan_perm store .user).filter _).length_eq

/-- **The bounds of a page.** Let a page be fetched by integers as the number of the page and the
page length, which may also be absent. If that is a success, then the page says what was asked for,
its total is not negative, and where the page length is not negative either,
- the page has no more items than that,
- the number of pages is not negative,
- the page has no items unless it is one of these pages, or the total is greater than `2 ^ 53`.

Where the page length is negative, all items are on the page, and the number of pages is zero or
negative. -/
theorem page_bounds (r : Repository) (c : Context) (s : Session) (filters order tree : Value)
    (page : Int) (perPage : Value) (whole : perPage = .null ∨ ∃ n, perPage = .int n)
    (answered : (r.getPaginated c s filters order tree (.int page) perPage).1.isSuccess = true) :
    ∃ p, (r.getPaginated c s filters order tree (.int page) perPage).1 =
        Envelope.success (.page p) 200 ∧
      p.page = page ∧ Repository.pageLength c perPage = .int p.perPage ∧ 0 ≤ p.total ∧
      (0 ≤ p.perPage → (p.items.length : Int) ≤ p.perPage ∧ 0 ≤ p.pages ∧
        (p.total ≤ 2 ^ 53 → p.items ≠ [] → max page 1 ≤ p.pages)) ∧
      (p.perPage < 0 → (p.items.length : Int) = p.total ∧ p.pages ≤ 0) := by
  obtain ⟨n, length⟩ := Repository.exists_pageLength c whole
  obtain ⟨p, shown, rfl, rfl, consistent⟩ := Repository.getPaginated_success length answered
  refine ⟨p, shown, rfl, length, consistent.total, fun positive => ?_,
    fun negative => ⟨consistent.unbounded negative, consistent.pages.2 negative⟩⟩
  exact ⟨consistent.bounded positive, consistent.pages.1 positive, consistent.reached positive⟩

/-- The second page of the users of the sample store, on pages of two. -/
theorem page_bounds_sample :
    let c : Context := Script.context {} 1
    let s := Session.start Sample.store false
    let r := Repository.standard c.settings .user
    (r.getPaginated c s (.map []) .null .null (.int 2) (.int 2)).1.isSuccess = true ∧
      ∃ p, (r.getPaginated c s (.map []) .null .null (.int 2) (.int 2)).1 =
          Envelope.success (.page p) 200 ∧
        p.perPage = 2 ∧ (p.items.length : Int) ≤ 2 := by
  intro c s r
  have five : (Select.matching s.working r.entity []).length = 5 := Sample.length_matching_users
  have counted : Page.pageCount (.int (Select.matching s.working r.entity []).length) (.int 2) =
      .ok 3 := by
    rw [five]
    rfl
  have answered :
      (r.getPaginated c s (.map []) .null .null (.int 2) (.int 2)).1.isSuccess = true := by
    rw [Repository.getPaginated_of_window rfl rfl rfl rfl rfl rfl counted]
    rfl
  obtain ⟨p, shown, -, length, -, bounded, -⟩ :=
    page_bounds r c s (.map []) .null .null 2 (.int 2) (.inr ⟨2, rfl⟩) answered
  have two : p.perPage = 2 := by
    injection length with same
    exact same.symm
  refine ⟨answered, p, shown, two, ?_⟩
  rw [two] at bounded
  exact (bounded (by decide)).1

/-- The first page of these users, with a page length of minus one, shows all five of them and says
that there are minus five pages. -/
theorem negative_page_unbounded :
    let c : Context := Script.context {} 1
    let s := Session.start Sample.store false
    let r := Repository.standard c.settings .user
    ∃ p, (r.getPaginated c s (.map []) .null .null (.int 1) (.int (-1))).1 =
        Envelope.success (.page p) 200 ∧
      p.perPage = -1 ∧ p.items.length = 5 ∧ p.pages = -5 := by
  intro c s r
  have five : (Select.matching s.working r.entity []).length = 5 := Sample.length_matching_users
  have counted : Page.pageCount (.int (Select.matching s.working r.entity []).length) (.int (-1)) =
      .ok (-5) := by
    rw [five]
    rfl
  refine ⟨_, Repository.getPaginated_of_window rfl rfl rfl rfl rfl rfl counted, rfl, ?_, rfl⟩
  rw [Page.Window.slice_of_neg (by decide) (by decide), LoadPlan.present, List.length_map,
    Select.length_rows, five]

end Recordbook

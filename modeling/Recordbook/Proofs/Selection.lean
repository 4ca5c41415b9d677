import Mathlib.Data.Option.Basic
import Recordbook.Proofs.PageCount
import Recordbook.Proofs.Reading

/-!
# The parts of a call that reads

A call that reads hands in a filter, an order and an include, and the three go separate ways. The
filter alone makes the criteria by which records are selected, the order alone makes the sort keys,
and the include alone makes the plan by which related records are loaded. Each part may fail for
reasons of its own, and a call fails if one of them does.

Here the three are functions of their own, and each call is put together from them: it has an answer
exactly where its parts are there, and then the answer is what they make of the store. Calls that
share a part therefore agree on it.

## Implementation notes

Failures are left out, since which of several is reported depends on the order of the steps: a part
that fails is none. The include is loaded only in calls that show records, but expanded in all of
them, so a count has an include too.

## Main definitions

* `Repository.criteria?`, `Repository.sortKeys?`, `Repository.branches?` — the three parts

## Main results

* `Repository.compile_eq_ok` — a query is compiled exactly if its parts are
* `Repository.all_eq_ok` — the records of a filter are answered exactly if the parts are there
* `Repository.get_of_parts`, `Repository.count_of_criteria`, `Repository.getOne_of_parts`,
  `Repository.getPaginated_of_parts` — the answers of the calls, from their parts
-/

namespace Recordbook

theorem toOption_eq_some {ε α : Type} {x : Except ε α} {a : α} :
    x.toOption = some a ↔ x = .ok a := by
  cases x <;> simp [Except.toOption]

theorem mapError_eq_ok {ε ε' α : Type} {x : Except ε α} {f : ε → ε'} {a : α} :
    x.mapError f = .ok a ↔ x = .ok a := by
  cases x <;> simp [Except.mapError]

/-- A step that succeeds on a list succeeds on each item, and comes to nothing else. -/
theorem mem_of_mapM_eq_ok {ε α β : Type} {f : α → Except ε β} {xs : List α} {ys : List β}
    (h : xs.mapM f = .ok ys) :
    (∀ x ∈ xs, ∃ y ∈ ys, f x = .ok y) ∧ ∀ y ∈ ys, ∃ x ∈ xs, f x = .ok y := by
  induction xs generalizing ys with
  | nil =>
    cases h
    exact ⟨fun x hx => absurd hx List.not_mem_nil, fun y hy => absurd hy List.not_mem_nil⟩
  | cons x xs ih =>
    rw [List.mapM_cons] at h
    obtain ⟨here, hh, h⟩ := bind_eq_ok.mp h
    obtain ⟨rest, hr, h⟩ := bind_eq_ok.mp h
    cases pure_eq_ok.mp h
    simp only [List.mem_cons, forall_eq_or_imp, exists_eq_or_imp]
    exact ⟨⟨.inl hh, fun w hw => .inr ((ih hr).1 w hw)⟩, .inl hh, fun y hy => .inr ((ih hr).2 y hy)⟩

/-- A step that succeeds on each item of a list succeeds on the list. -/
theorem exists_mapM_eq_ok {ε α β : Type} {f : α → Except ε β} {xs : List α}
    (h : ∀ x ∈ xs, ∃ y, f x = .ok y) : ∃ ys, xs.mapM f = .ok ys := by
  induction xs with
  | nil => exact ⟨[], rfl⟩
  | cons x xs ih =>
    obtain ⟨y, hy⟩ := h x List.mem_cons_self
    obtain ⟨ys, hys⟩ := ih fun z hz => h z (List.mem_cons_of_mem _ hz)
    exact ⟨y :: ys, by rw [List.mapM_cons, hy, hys]; rfl⟩

/-- The terms of an order as a call reads it. -/
def Order.terms? (order : Value) : Option OrderTerms := do
  let given ← order.asEntriesOrEmpty.toOption
  let asked ← (textMapping ["order"] ((Value.map given).unfold 1 [])).toOption
  (compile asked).toOption

/-- The expansion of a specification that was validated, if there is one. -/
def Include.expanded? (settings : Settings) : Option (List Place) → Option (Option Entries)
  | none => some none
  | some places => (expandCopy settings.includeMaxDepth places).toOption.map some

namespace Repository

variable {r : Repository} {c : Context} {s : Session} {filters : Entries}

/-! ### The parts -/

/-- The conditions of a filter. -/
def conditions? (r : Repository) (filters : Entries) : Option Entries := do
  let given ← (Filter.read filters).toOption
  (Filter.compile r.membership given).toOption

/-- The criteria of a filter, whose operands are not bound yet. -/
def resolved? (r : Repository) (filters : Entries) : Option (List (Criterion Operand)) := do
  let filter ← r.conditions? filters
  (Criteria.resolve r.entity filter).toOption

/-- The criteria by which a filter selects records. -/
def criteria? (r : Repository) (filters : Entries) : Option (List (Criterion Datum)) := do
  let criteria ← r.resolved? filters
  (Criteria.bind criteria).toOption

/-- The keys by which an order sorts records. -/
def sortKeys? (r : Repository) (order : Value) : Option (List (Field × Direction)) := do
  let terms ← Order.terms? order
  (Select.resolveTerms r.entity terms).toOption

/-- The expansion of an include. -/
def tree? (r : Repository) (settings : Settings) (tree : Value) : Option (Option Entries) := do
  let asked ← (r.askedTree tree).toOption
  let places ← (QuerySpec.validTree [] asked).toOption
  Include.expanded? settings places

/-- The relations along which an include loads records, each with a plan. -/
def branches? (r : Repository) (settings : Settings) (tree : Value) :
    Option (List (Relation × LoadPlan)) := do
  let expanded ← r.tree? settings tree
  (LoadPlan.resolveEntries r.entity (expanded.getD [])).toOption

/-! ### Compiling -/

theorem make_eq_ok {filters order tree : Value} {spec : QuerySpec} :
    QuerySpec.make [] filters order tree = .ok spec ↔
      textMapping ["filters"] (Filter.unfolded [] filters) = .ok spec.filters ∧
      textMapping ["order"] (order.unfold 1 []) = .ok spec.order ∧
      QuerySpec.validTree [] tree = .ok spec.tree := by
  obtain ⟨given, asked, places⟩ := spec
  simp only [QuerySpec.make, List.map_nil]
  split
  · rename_i hf ho ht
    simp [hf, ho, ht]
  · rename_i fails
    constructor
    · intro h
      cases h
    · rintro ⟨hf, ho, ht⟩
      exact absurd ht (fails _ _ _ hf ho)

theorem compile_spec_eq_ok {settings : Settings} {m : Membership} {spec : QuerySpec}
    {q : CompiledQuery} :
    spec.compile settings m = .ok q ↔
      Filter.compile m spec.filters = .ok q.filter ∧ Order.compile spec.order = .ok q.order ∧
      Include.expanded? settings spec.tree = some q.tree := by
  obtain ⟨given, asked, places⟩ := spec
  obtain ⟨filter, order, tree⟩ := q
  cases places with
  | none =>
    simp only [QuerySpec.compile, Include.expanded?, bind_eq_ok, pure_eq_ok, mapError_eq_ok]
    constructor
    · rintro ⟨filter, hf, terms, ho, tree, rfl, h⟩
      cases h
      exact ⟨hf, ho, rfl⟩
    · rintro ⟨hf, ho, ht⟩
      cases ht
      exact ⟨filter, hf, order, ho, none, rfl, rfl⟩
  | some places =>
    simp only [QuerySpec.compile, Include.expanded?, bind_eq_ok, pure_eq_ok, map_eq_ok,
      mapError_eq_ok, Option.map_eq_some_iff, toOption_eq_some]
    constructor
    · rintro ⟨filter, hf, terms, ho, tree, ht, h⟩
      cases h
      exact ⟨hf, ho, ht⟩
    · rintro ⟨hf, ho, ht⟩
      exact ⟨filter, hf, order, ho, tree, ht, rfl⟩

/-- A query is compiled exactly if its parts are. -/
theorem compile_eq_ok {settings : Settings} {order tree : Value} {q : CompiledQuery} :
    r.compile settings (.map filters) order tree = .ok q ↔
      r.conditions? filters = some q.filter ∧ Order.terms? order = some q.order ∧
      r.tree? settings tree = some q.tree := by
  simp only [compile_map, conditions?, Order.terms?, tree?, Option.bind_eq_bind,
    Option.bind_eq_some_iff, toOption_eq_some, bind_eq_ok, mapError_eq_ok, make_eq_ok,
    compile_spec_eq_ok]
  constructor
  · rintro ⟨given, hg, asked, ha, spec, ⟨hf, ho, ht⟩, compiled, terms, expanded⟩
    exact ⟨⟨spec.filters, hf, compiled⟩, ⟨given, hg, spec.order, ho, terms⟩,
      ⟨asked, ha, spec.tree, ht, expanded⟩⟩
  · rintro ⟨⟨read, hf, compiled⟩, ⟨given, hg, orders, ho, terms⟩, asked, ha, places, ht, expanded⟩
    exact ⟨given, hg, asked, ha, ⟨read, orders, places⟩, ⟨hf, ho, ht⟩, compiled, terms, expanded⟩

/-- The statement of a call is built exactly if the parts of the call are there. -/
theorem statement_eq_ok {settings : Settings} {order tree : Value} {st : Select} :
    (r.compile settings (.map filters) order tree >>= Select.build r.entity) = .ok st ↔
      ∃ criteria keys branches, r.resolved? filters = some criteria ∧
        r.sortKeys? order = some keys ∧ r.branches? settings tree = some branches ∧
        st = ⟨r.entity, criteria, keys, .whole branches⟩ := by
  simp only [Select.build, LoadPlan.resolve, resolved?, sortKeys?, branches?, bind_eq_ok,
    pure_eq_ok, map_eq_ok, compile_eq_ok, Option.bind_eq_bind, Option.bind_eq_some_iff,
    toOption_eq_some]
  constructor
  · rintro ⟨q, ⟨hf, ho, ht⟩, criteria, hc, keys, hk, plan, ⟨branches, hb, rfl⟩, rfl⟩
    exact ⟨criteria, keys, branches, ⟨q.filter, hf, hc⟩, ⟨q.order, ho, hk⟩, ⟨q.tree, ht, hb⟩, rfl⟩
  · rintro ⟨criteria, keys, branches, ⟨filter, hf, hc⟩, ⟨terms, ho, hk⟩, ⟨tree, ht, hb⟩, rfl⟩
    exact ⟨⟨filter, terms, tree⟩, ⟨hf, ho, ht⟩, criteria, hc, keys, hk, _, ⟨branches, hb, rfl⟩, rfl⟩

theorem criteria?_eq_some {bound : List (Criterion Datum)} :
    r.criteria? filters = some bound ↔
      ∃ criteria, r.resolved? filters = some criteria ∧ Criteria.bind criteria = .ok bound := by
  simp only [criteria?, Option.bind_eq_bind, Option.bind_eq_some_iff, toOption_eq_some]

/-- Conditions with a meaning make criteria with that meaning. -/
theorem criteria?_of_means {filter : Entries} {property : Row → Bool}
    (hf : r.conditions? filters = some filter)
    (means : Criteria.Means s.working r.entity filter property) :
    ∃ bound, r.criteria? filters = some bound ∧
      ∀ row, Criteria.hold s.working row bound = property row := by
  obtain ⟨criteria, bound, hc, hd, holds⟩ := means
  refine ⟨bound, criteria?_eq_some.mpr ⟨criteria, ?_, hd⟩, holds⟩
  rw [resolved?, hf]
  exact toOption_eq_some.mpr hc

@[simp] theorem sortKeys?_null : r.sortKeys? .null = some [] := rfl

/-! ### Answers -/

variable {bound : List (Criterion Datum)} {keys : List (Field × Direction)}
  {branches : List (Relation × LoadPlan)} {order tree : Value}

theorem report_of_ok {a : Action} {args : List Value} {result : Except Failure Reply}
    {reply : Reply} (h : result = .ok reply) : (r.report a args result).1 = reply := by
  rw [h]
  rfl

/-- The parts of a call make a statement. -/
theorem exists_statement (hc : r.criteria? filters = some bound)
    (hk : r.sortKeys? order = some keys) (hb : r.branches? c.settings tree = some branches) :
    ∃ q criteria, r.compile c.settings (.map filters) order tree = .ok q ∧
      Select.build r.entity q = .ok ⟨r.entity, criteria, keys, .whole branches⟩ ∧
      Criteria.bind criteria = .ok bound := by
  obtain ⟨criteria, hc, hd⟩ := criteria?_eq_some.mp hc
  obtain ⟨q, hq, hst⟩ := bind_eq_ok.mp
    (statement_eq_ok.mpr ⟨criteria, keys, branches, hc, hk, hb, rfl⟩)
  exact ⟨q, criteria, hq, hst, hd⟩

/-- The records of a filter are answered exactly if the parts of the call are there. -/
theorem all_eq_ok {reply : Reply} :
    r.all c s (.map filters) order tree = .ok reply ↔
      s.isActive = true ∧ ∃ bound keys branches, r.criteria? filters = some bound ∧
        r.sortKeys? order = some keys ∧ r.branches? c.settings tree = some branches ∧
        reply = Envelope.success (.records (LoadPlan.present s.working r.entity (.whole branches)
          (Select.rows s.working r.entity bound keys))) 200 := by
  constructor
  · intro h
    obtain ⟨q, hq, h⟩ := bind_eq_ok.mp h
    obtain ⟨⟨st, found⟩, hs, h⟩ := bind_eq_ok.mp h
    obtain ⟨st, hst, hs⟩ := bind_eq_ok.mp hs
    obtain ⟨_, ready, hs⟩ := bind_eq_ok.mp hs
    obtain ⟨found, hf, hs⟩ := bind_eq_ok.mp hs
    cases pure_eq_ok.mp hs
    cases pure_eq_ok.mp h
    obtain ⟨criteria, keys, branches, hc, hk, hb, rfl⟩ :=
      statement_eq_ok.mp (bind_eq_ok.mpr ⟨q, hq, hst⟩)
    obtain ⟨bound, hd, hf⟩ := bind_eq_ok.mp hf
    cases pure_eq_ok.mp hf
    refine ⟨?_, bound, keys, branches, criteria?_eq_some.mpr ⟨criteria, hc, hd⟩, hk, hb, rfl⟩
    by_contra inactive
    obtain ⟨f, hf⟩ := Session.queryGuard_of_not_isActive (Bool.eq_false_iff.mpr inactive)
    cases ready.symm.trans hf
  · rintro ⟨active, bound, keys, branches, hc, hk, hb, rfl⟩
    obtain ⟨q, criteria, hq, hst, hd⟩ := exists_statement hc hk hb
    refine bind_eq_ok.mpr ⟨q, hq, bind_eq_ok.mpr
      ⟨(⟨r.entity, criteria, keys, .whole branches⟩, Select.rows s.working r.entity bound keys),
        ?_, rfl⟩⟩
    refine bind_eq_ok.mpr ⟨_, hst, bind_eq_ok.mpr ⟨(), Session.queryGuard_of_isActive active, ?_⟩⟩
    exact bind_eq_ok.mpr ⟨_, bind_eq_ok.mpr ⟨bound, hd, rfl⟩, rfl⟩

/-- The records of a filter, as a call answers with them. -/
theorem get_of_parts (active : s.isActive = true) (hc : r.criteria? filters = some bound)
    (hk : r.sortKeys? order = some keys) (hb : r.branches? c.settings tree = some branches) :
    (r.get c s (.map filters) order tree).1 =
      Envelope.success (.records (LoadPlan.present s.working r.entity (.whole branches)
        (Select.rows s.working r.entity bound keys))) 200 :=
  report_of_ok (all_eq_ok.mpr ⟨active, bound, keys, branches, hc, hk, hb, rfl⟩)

/-- A call for records that is answered by a success has its parts, and shows what they make of the
store. -/
theorem get_success (h : (r.get c s (.map filters) order tree).1.isSuccess = true) :
    s.isActive = true ∧ ∃ bound keys branches, r.criteria? filters = some bound ∧
      r.sortKeys? order = some keys ∧ r.branches? c.settings tree = some branches ∧
      (r.get c s (.map filters) order tree).1 =
        Envelope.success (.records (LoadPlan.present s.working r.entity (.whole branches)
          (Select.rows s.working r.entity bound keys))) 200 := by
  rw [get, isSuccess_report] at h
  cases found : r.all c s (.map filters) order tree with
  | error f =>
    rw [found] at h
    cases h
  | ok reply =>
    obtain ⟨active, bound, keys, branches, hc, hk, hb, rfl⟩ := all_eq_ok.mp found
    exact ⟨active, bound, keys, branches, hc, hk, hb, get_of_parts active hc hk hb⟩

/-- The count of a filter, where the default include can be expanded. -/
theorem count_of_criteria (active : s.isActive = true) (hc : r.criteria? filters = some bound)
    (expanded : (r.tree? c.settings .null).isSome = true) :
    (r.count c s (.map filters)).1 =
      Envelope.success (.number (Select.matching s.working r.entity bound).length) 200 := by
  obtain ⟨criteria, hc, hd⟩ := criteria?_eq_some.mp hc
  simp only [resolved?, Option.bind_eq_bind, Option.bind_eq_some_iff, toOption_eq_some] at hc
  obtain ⟨filter, hf, hc⟩ := hc
  obtain ⟨tree, ht⟩ := Option.isSome_iff_exists.mp expanded
  refine report_of_ok (bind_eq_ok.mpr ⟨⟨filter, [], tree⟩, compile_eq_ok.mpr ⟨hf, rfl, ht⟩, ?_⟩)
  refine bind_eq_ok.mpr ⟨criteria, hc, ?_⟩
  refine bind_eq_ok.mpr ⟨(), Session.queryGuard_of_isActive active, ?_⟩
  exact bind_eq_ok.mpr ⟨_, bind_eq_ok.mpr ⟨bound, hd, rfl⟩, rfl⟩

/-- The first record of a filter, as far as the store comes upon any. -/
theorem getOne_of_parts (active : s.isActive = true) (hc : r.criteria? filters = some bound)
    (hb : r.branches? c.settings tree = some branches) :
    (Select.encountered s.working r.entity bound = [] →
      (r.getOne c s (.map filters) tree).1 =
        Envelope.failure .nothing .notFound r.notFoundMessage) ∧
    ∀ row rest, Select.encountered s.working r.entity bound = row :: rest →
      ∃ x, Loaded.Shows r.entity row x ∧
        (r.getOne c s (.map filters) tree).1 = Envelope.success (.record x) 200 := by
  obtain ⟨q, criteria, hq, hst, hd⟩ := exists_statement hc sortKeys?_null hb
  have ready := Session.queryGuard_of_isActive active
  constructor
  · intro none
    refine report_of_ok (bind_eq_ok.mpr ⟨q, hq, bind_eq_ok.mpr ⟨_, hst, ?_⟩⟩)
    refine bind_eq_ok.mpr ⟨(), ready, bind_eq_ok.mpr ⟨_, bind_eq_ok.mpr ⟨bound, hd, rfl⟩, ?_⟩⟩
    rw [none]
    rfl
  · intro row rest first
    have shows := LoadPlan.shows_present s.working r.entity branches [row]
    obtain ⟨x, others, hx, -, shown⟩ := List.forall₂_cons_left_iff.mp shows
    refine ⟨x, hx, ?_⟩
    refine report_of_ok (bind_eq_ok.mpr ⟨q, hq, bind_eq_ok.mpr ⟨_, hst, ?_⟩⟩)
    refine bind_eq_ok.mpr ⟨(), ready, bind_eq_ok.mpr ⟨_, bind_eq_ok.mpr ⟨bound, hd, rfl⟩, ?_⟩⟩
    rw [first, List.head?_cons, Option.toList_some, Select.present, shown]
    rfl

/-! ### Pages -/

/-- The window of a page in whole numbers. -/
theorem window_int (page perPage : Int) :
    Page.window (.int page) (.int perPage) = .ok ⟨(max page 1 - 1) * perPage, perPage⟩ := rfl

variable {page perPage pages : Int}

/-- The window of a page fits 64 bits if its numbers, which are not negative, are small enough. -/
theorem fits_window (positive : 1 ≤ perPage) (offset : (max page 1 - 1) * perPage < 2 ^ 63)
    (limit : perPage < 2 ^ 63) :
    (Page.Window.mk ((max page 1 - 1) * perPage) perPage).fits = true := by
  have first : 0 ≤ (max page 1 - 1) * perPage := Int.mul_nonneg (by omega) (by omega)
  simp only [Page.Window.fits, Bool.and_eq_true, decide_eq_true_eq]
  omega

/-- The part of a list that is on a page. -/
theorem slice_page {α : Type} (positive : 1 ≤ perPage) (xs : List α) :
    (Page.Window.mk ((max page 1 - 1) * perPage) perPage).slice xs =
      (xs.drop ((max page 1 - 1).toNat * perPage.toNat)).take perPage.toNat := by
  rw [Page.Window.slice, if_neg (by simpa using by omega),
    Int.toNat_mul (by omega) (by omega)]

/-- A page of the records of a query whose statement is built. -/
theorem paged_of_build {q : CompiledQuery} {criteria : List (Criterion Operand)}
    (active : s.isActive = true) (positive : 1 ≤ perPage)
    (hst : Select.build r.entity q = .ok ⟨r.entity, criteria, keys, .whole branches⟩)
    (hd : Criteria.bind criteria = .ok bound)
    (fits : (Page.Window.mk ((max page 1 - 1) * perPage) perPage).fits = true)
    (hp : Page.pageCount (.int (Select.matching s.working r.entity bound).length) (.int perPage) =
      .ok pages) :
    r.paged c s q (.int page) (.int perPage) =
      .ok (Envelope.success (.page ⟨LoadPlan.present s.working r.entity (.whole branches)
        (((Select.rows s.working r.entity bound keys).drop
          ((max page 1 - 1).toNat * perPage.toNat)).take perPage.toNat),
        (Select.matching s.working r.entity bound).length, page, perPage, pages⟩) 200) := by
  have length : pageLength c (.int perPage) = .int perPage := by
    rw [pageLength, if_pos]
    simp [Value.isTruthy]
    omega
  rw [paged, length]
  refine bind_eq_ok.mpr ⟨_, hst, bind_eq_ok.mpr ⟨(), Session.queryGuard_of_isActive active, ?_⟩⟩
  refine bind_eq_ok.mpr ⟨(Select.matching s.working r.entity bound).length, ?counted, ?_⟩
  case counted => exact bind_eq_ok.mpr ⟨bound, hd, rfl⟩
  refine bind_eq_ok.mpr ⟨⟨(max page 1 - 1) * perPage, perPage⟩, by rw [window_int]; rfl, ?_⟩
  refine bind_eq_ok.mpr ⟨_, bind_eq_ok.mpr ⟨bound, hd, if_pos fits⟩, ?_⟩
  refine bind_eq_ok.mpr ⟨_, ?_, rfl⟩
  rw [Page.build, hp, slice_page positive]
  rfl

/-- A page of the records of a filter. -/
theorem getPaginated_of_parts (active : s.isActive = true) (positive : 1 ≤ perPage)
    (hc : r.criteria? filters = some bound) (hk : r.sortKeys? order = some keys)
    (hb : r.branches? c.settings tree = some branches)
    (fits : (Page.Window.mk ((max page 1 - 1) * perPage) perPage).fits = true)
    (hp : Page.pageCount (.int (Select.matching s.working r.entity bound).length) (.int perPage) =
      .ok pages) :
    (r.getPaginated c s (.map filters) order tree (.int page) (.int perPage)).1 =
      Envelope.success (.page ⟨LoadPlan.present s.working r.entity (.whole branches)
        (((Select.rows s.working r.entity bound keys).drop
          ((max page 1 - 1).toNat * perPage.toNat)).take perPage.toNat),
        (Select.matching s.working r.entity bound).length, page, perPage, pages⟩) 200 := by
  obtain ⟨q, criteria, hq, hst, hd⟩ := exists_statement hc hk hb
  exact report_of_ok (bind_eq_ok.mpr ⟨q, hq, paged_of_build active positive hst hd fits hp⟩)

end Repository

/-! ### Which records are found -/

namespace Select

variable {s : Store} {e : Entity} {bound : List (Criterion Datum)}

theorem length_rows (keys : List (Field × Direction)) :
    (rows s e bound keys).length = (matching s e bound).length :=
  (rows_perm s e bound keys).length_eq

theorem mem_rows {keys : List (Field × Direction)} {row : Row} :
    row ∈ rows s e bound keys ↔ row ∈ s.rows e ∧ Criteria.hold s row bound = true :=
  (rows_perm s e bound keys).mem_iff.trans mem_matching

/-- The store comes upon the records that meet criteria, in whatever order. -/
theorem encountered_perm : (encountered s e bound).Perm (matching s e bound) :=
  (List.mergeSort_perm _ _).trans ((Store.scan_perm s e).symm.filter _)

end Select

end Recordbook

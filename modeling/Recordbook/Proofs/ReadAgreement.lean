import Recordbook.Proofs.Keyed

/-!
# All reads agree

The records of a filter can be fetched, counted, fetched one at a time or page by page, in any order
and with anything loaded along with them. Each of these is a statement of its own, but the records
that it is about are settled by the filter alone: whatever has the criteria of a filter finds the
same records, none of them twice.

A count expands the default include of its repository without loading it. The defaults that there
are, none and that of wallets, can be expanded wherever some include can.

## Main definitions

* `Repository.ReadsAgree` — what the reads of a filter have in common

## Main results

* `Repository.isSome_tree?_null` — a default include is no obstacle where another include is none
* `reads_agree` — if the records of a filter can be fetched at all, then all its reads agree
-/

namespace Recordbook

/-! ### The default include -/

theorem Include.pos_of_expandCopy {limit : Int} {places : List Place} {tree : Entries}
    (h : expandCopy limit places = .ok tree) : 1 ≤ limit := by
  by_contra small
  have none : limit.toNat = 0 := by omega
  simp [expandCopy, none] at h

namespace Repository

variable {r : Repository} {c : Context} {s : Session} {filters : Entries} {order tree : Value}

theorem askedTree_of_given (given : tree.isNull = false) :
    r.askedTree tree = (tree.asEntries.mapError Failure.misuse).map Value.map := by
  cases tree <;> first | rfl | cases given

/-- An include that is given has to be expanded. -/
theorem one_le_of_tree? {settings : Settings} (given : tree.isNull = false)
    (h : (r.tree? settings tree).isSome = true) : 1 ≤ settings.includeMaxDepth := by
  obtain ⟨expanded, h⟩ := Option.isSome_iff_exists.mp h
  simp only [tree?, Option.bind_eq_bind, Option.bind_eq_some_iff, toOption_eq_some] at h
  obtain ⟨asked, ha, places, hp, he⟩ := h
  rw [askedTree_of_given given] at ha
  obtain ⟨entries, -, rfl⟩ := map_eq_ok.mp ha
  obtain ⟨read, -, rfl⟩ := map_eq_ok.mp hp
  obtain ⟨inner, hi, -⟩ := Option.map_eq_some_iff.mp he
  exact Include.pos_of_expandCopy (toOption_eq_some.mp hi)

/-- Where some include can be expanded, so can the default. -/
theorem isSome_tree?_null {settings : Settings}
    (default : r.defaultTree = .null ∨ r.defaultTree = walletTree)
    (h : (r.tree? settings tree).isSome = true) : (r.tree? settings .null).isSome = true := by
  rcases default with none | wallet
  · rw [tree?, askedTree, none]
    rfl
  · cases given : tree.isNull with
    | true => cases tree <;> first | exact h | cases given
    | false =>
      have expanded := expandCopy_walletTree (one_le_of_tree? given h)
      have asked : r.tree? settings .null = Include.expanded? settings
          (some [⟨[0], [(.str "company", .list [.str "name"])]⟩]) := by
        rw [tree?, askedTree, wallet]
        rfl
      rw [asked, Include.expanded?, expanded]
      rfl

theorem isSome_tree?_of_branches? {settings : Settings} {branches : List (Relation × LoadPlan)}
    (h : r.branches? settings tree = some branches) : (r.tree? settings tree).isSome = true := by
  obtain ⟨expanded, he, -⟩ := Option.bind_eq_some_iff.mp h
  rw [he]
  rfl

/-! ### What reads have in common -/

/-- All reads of a filter are about the same records: those that are fetched in a given order and
with a given include. -/
structure ReadsAgree (r : Repository) (c : Context) (s : Session) (filters : Entries)
    (order tree : Value) (rows : List Row) : Prop where
  /-- These records are fetched, each shown with all its columns. -/
  fetched : ∃ records,
    (r.get c s (.map filters) order tree).1 = Envelope.success (.records records) 200 ∧
    List.Forall₂ (Loaded.Shows r.entity) rows records
  /-- No record is there twice. -/
  distinct : (rows.map Row.id).Nodup
  /-- In any other order and with any other include they are the same up to their order. -/
  reordered : ∀ order' tree', (r.get c s (.map filters) order' tree').1.isSuccess = true →
    ∃ rows' records,
      (r.get c s (.map filters) order' tree').1 = Envelope.success (.records records) 200 ∧
      List.Forall₂ (Loaded.Shows r.entity) rows' records ∧ rows'.Perm rows
  /-- So many are counted. -/
  counted : (r.count c s (.map filters)).1 = Envelope.success (.number rows.length) 200
  /-- One of them is fetched if there is any. -/
  found : rows ≠ [] → ∃ row ∈ rows, ∃ x, Loaded.Shows r.entity row x ∧
    (r.getOne c s (.map filters) tree).1 = Envelope.success (.record x) 200
  /-- It is an error to fetch one if there is none. -/
  notFound : rows = [] → (r.getOne c s (.map filters) tree).1 =
    Envelope.failure .nothing .notFound r.notFoundMessage
  /-- So many are reported on every page whose numbers fit 64 bits. -/
  paged : ∀ page perPage : Int, 1 ≤ perPage → (max page 1 - 1) * perPage < 2 ^ 63 →
    perPage < 2 ^ 63 → ∃ p,
      (r.getPaginated c s (.map filters) order tree (.int page) (.int perPage)).1 =
        Envelope.success (.page p) 200 ∧ p.total = rows.length
  /-- So many are reported whether they are counted by their criteria or as what a statement
  selects. -/
  totalled : ∃ q st, r.compile c.settings (.map filters) order tree = .ok q ∧
    Select.build r.entity q = .ok st ∧
    Select.count s.working r.entity st.criteria = .ok rows.length ∧
    ∀ page perPage : Int, 1 ≤ perPage → (max page 1 - 1) * perPage < 2 ^ 63 → perPage < 2 ^ 63 →
      ∃ shown, Step.windowed s st (.int page) (.int perPage) = .ok (.window shown rows.length)

variable {bound : List (Criterion Datum)} {keys : List (Field × Direction)}
  {branches : List (Relation × LoadPlan)}

/-- The records that meet the criteria of a filter, in some order, are those that are fetched in any
order. -/
theorem perm_of_get (hc : r.criteria? filters = some bound) {rows : List Row}
    (perm : rows.Perm (Select.matching s.working r.entity bound))
    (h : (r.get c s (.map filters) order tree).1.isSuccess = true) :
    ∃ rows' records,
      (r.get c s (.map filters) order tree).1 = Envelope.success (.records records) 200 ∧
      List.Forall₂ (Loaded.Shows r.entity) rows' records ∧ rows'.Perm rows := by
  obtain ⟨-, bound', keys, branches, hc', -, -, shown⟩ := get_success h
  cases hc.symm.trans hc'
  exact ⟨_, _, shown, LoadPlan.shows_present .., (Select.rows_perm ..).trans perm.symm⟩

/-- One record of a filter is fetched exactly if there is any. -/
theorem getOne_of_perm (active : s.isActive = true) (hc : r.criteria? filters = some bound)
    (hb : r.branches? c.settings tree = some branches) {rows : List Row}
    (perm : rows.Perm (Select.matching s.working r.entity bound)) :
    (rows ≠ [] → ∃ row ∈ rows, ∃ x, Loaded.Shows r.entity row x ∧
        (r.getOne c s (.map filters) tree).1 = Envelope.success (.record x) 200) ∧
      (rows = [] → (r.getOne c s (.map filters) tree).1 =
        Envelope.failure .nothing .notFound r.notFoundMessage) := by
  have same := Select.encountered_perm.trans perm.symm
  obtain ⟨missing, found⟩ := getOne_of_parts active hc hb
  cases met : Select.encountered s.working r.entity bound with
  | nil =>
    rw [met] at same
    exact ⟨fun some => absurd same.symm.eq_nil some, fun _ => missing met⟩
  | cons row rest =>
    rw [met] at same
    have member : row ∈ rows := same.mem_iff.mp List.mem_cons_self
    exact ⟨fun _ => ⟨row, member, found row rest met⟩, fun none => by simp [none] at member⟩

/-- A query that is written out and asked for a page counts what its statement selects. -/
theorem windowed_of_bind {e : Entity} {criteria : List (Criterion Operand)} {page perPage : Int}
    (active : s.isActive = true) (hd : Criteria.bind criteria = .ok bound)
    (fits : (Page.Window.mk ((max page 1 - 1) * perPage) perPage).fits = true) :
    ∃ shown, Step.windowed s ⟨e, criteria, keys, .whole branches⟩ (.int page) (.int perPage) =
      .ok (.window shown (Select.rows s.working e bound keys).length) := by
  let window : Page.Window := ⟨(max page 1 - 1) * perPage, perPage⟩
  refine ⟨LoadPlan.present s.working e (.whole branches)
    (window.slice (Select.rows s.working e bound keys)), ?_⟩
  refine bind_eq_ok.mpr ⟨(), Session.queryGuard_of_isActive active, ?_⟩
  refine bind_eq_ok.mpr ⟨_, bind_eq_ok.mpr ⟨_, bind_eq_ok.mpr ⟨bound, hd, rfl⟩, rfl⟩, ?_⟩
  refine bind_eq_ok.mpr ⟨window, by rw [window_int]; rfl, ?_⟩
  exact bind_eq_ok.mpr ⟨_, bind_eq_ok.mpr ⟨bound, hd, if_pos fits⟩, rfl⟩

end Repository

open Repository (ReadsAgree)

/-- **All reads of a filter agree.** If the records of a filter can be fetched in some order and
with some include, then they can be counted, fetched one at a time, and fetched page by page, and
each of these is about the same records, whatever the order and the include. -/
theorem reads_agree (r : Repository) (c : Context) (s : Session) (filters : Entries)
    (order tree : Value)
    (default : r.defaultTree = .null ∨ r.defaultTree = Repository.walletTree)
    (keyed : KeyedRows (s.working.rows r.entity))
    (answered : (r.get c s (.map filters) order tree).1.isSuccess = true) :
    ∃ rows, r.ReadsAgree c s filters order tree rows := by
  obtain ⟨active, bound, keys, branches, hc, hk, hb, shown⟩ := Repository.get_success answered
  have perm := Select.rows_perm s.working r.entity bound keys
  have length : (Select.rows s.working r.entity bound keys).length =
      (Select.matching s.working r.entity bound).length := Select.length_rows keys
  have expanded := Repository.isSome_tree?_null default (Repository.isSome_tree?_of_branches? hb)
  have one := Repository.getOne_of_perm active hc hb perm
  refine ⟨Select.rows s.working r.entity bound keys, ?_⟩
  exact {
    fetched := ⟨_, shown, LoadPlan.shows_present ..⟩
    distinct := keyed.distinct_of_subperm (Select.rows_subperm ..)
    reordered := fun order' tree' h => Repository.perm_of_get hc perm h
    counted := by
      rw [Repository.count_of_criteria active hc expanded, length]
    found := one.1
    notFound := one.2
    paged := fun page perPage positive offset limit => by
      have few : (Select.matching s.working r.entity bound).length ≤ 2 ^ 128 :=
        (Select.matching_subperm s.working r.entity bound).length_le.trans keyed.length_le
      have fits := Repository.fits_window positive offset limit
      obtain ⟨n, rfl⟩ := Int.eq_ofNat_of_zero_le (show 0 ≤ perPage by omega)
      obtain ⟨pages, hp⟩ := Page.exists_pageCount (show 0 < n by omega) few
      refine ⟨_, Repository.getPaginated_of_parts active positive hc hk hb fits hp, ?_⟩
      rw [length]
    totalled := by
      obtain ⟨q, criteria, hq, hst, hd⟩ := Repository.exists_statement hc hk hb
      refine ⟨q, _, hq, hst, ?_, fun page perPage positive offset limit => ?_⟩
      · rw [length]
        exact bind_eq_ok.mpr ⟨bound, hd, rfl⟩
      · exact Repository.windowed_of_bind active hd (Repository.fits_window positive offset limit) }

/-- The wallets of the first company in the sample store can be fetched, the newest first and with
their default include. -/
theorem reads_agree_sample :
    let c : Context := Script.context {} 1
    let s := Session.start Sample.store false
    let r := Repository.standard c.settings .wallet
    let filter : Entries := [(.str "company_id", .uuid (Uuid.ofNat 0x400080000000000000c1))]
    KeyedRows (s.working.rows r.entity) ∧
      (r.get c s (.map filter) Repository.newestFirst .null).1.isSuccess = true ∧
      ∃ rows, r.ReadsAgree c s filter Repository.newestFirst .null rows := by
  intro c s r filter
  have keyed : KeyedRows (s.working.rows r.entity) := Sample.keyed_store.rows .wallet
  have answered : (r.get c s (.map filter) Repository.newestFirst .null).1.isSuccess = true := by
    rfl
  exact ⟨keyed, answered,
    reads_agree r c s filter Repository.newestFirst .null (.inr rfl) keyed answered⟩

end Recordbook

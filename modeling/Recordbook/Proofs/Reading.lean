import Mathlib.Data.List.Forall2
import Mathlib.Data.List.Perm.Subperm
import Recordbook.Proofs.Call
import Recordbook.Proofs.Criteria
import Recordbook.Proofs.Mapping

/-!
# What the calls that read are about

A call that only reads answers about some records of the table: it shows each of them with all its
columns, or counts them. Which records these are is up to the filter alone. Neither the order nor
the include nor the page adds a record.

## Main definitions

* `Filter.read` — a filter as a call reads it
* `Loaded.Shows`, `Output.About` — which records an output is about
* `Repository.Selects` — that the filter of a call selects a record

## Main results

* `LoadPlan.shows_present` — the records of a statement are shown with all their columns
* `Repository.about_selected` — whatever the generic reads answer is about selected records
* `Repository.get_of_means` — a filter with a meaning is answered with the records that it means
-/

namespace Recordbook

/-- A filter as a call reads it: its references followed and its keys as texts. -/
def Filter.read (filters : Entries) : Except (List Issue) Entries :=
  textMapping ["filters"] (Filter.unfolded [] (.map filters))

/-! ### What is shown of a record -/

/-- What is shown is a record with all its columns. -/
def Loaded.Shows (e : Entity) (row : Row) (x : Loaded) : Prop :=
  ∃ relations, x = .record e (e.columns.map fun c => (c.field, row.value c.field)) relations

/-- The records that an output is about. -/
inductive Output.About (e : Entity) : Output → List Row → Prop
  /-- Nothing is about no record. -/
  | nothing : About e .nothing []
  /-- A number counts the records. -/
  | number (rows : List Row) : About e (.number rows.length) rows
  /-- A record is shown. -/
  | record {row : Row} {x : Loaded} (h : x.Shows e row) : About e (.record x) [row]
  /-- Records are shown, one after another. -/
  | records {rows : List Row} {xs : List Loaded} (h : List.Forall₂ (Loaded.Shows e) rows xs) :
    About e (.records xs) rows
  /-- The records of a page are shown, one after another. -/
  | page {rows : List Row} {p : Page Loaded} (h : List.Forall₂ (Loaded.Shows e) rows p.items) :
    About e (.page p) rows

theorem Output.About.eq_length {e : Entity} {n : Int} {rows : List Row}
    (h : Output.About e (.number n) rows) : n = rows.length := by
  cases h
  rfl

namespace LoadPlan

theorem shownColumns_of_whole {all : List Load} {e : Entity} {row : Row}
    (h : ⟨e, row.id, none⟩ ∈ all) :
    shownColumns all e row = e.columns.map fun c => (c.field, row.value c.field) := by
  have loaded : ∀ f, isLoaded all e row.id f = true := by
    intro f
    rw [isLoaded, Bool.or_eq_true]
    exact .inr (List.any_eq_true.mpr ⟨_, h, by simp⟩)
  simp only [shownColumns, loaded, if_true]
  rw [List.filterMap_map]
  exact congrFun List.filterMap_eq_map e.columns

theorem mem_loads_whole {s : Store} {e : Entity} {row : Row}
    {branches : List (Relation × LoadPlan)} :
    ⟨e, row.id, none⟩ ∈ loads s e row (.whole branches) := by
  rw [loads]
  exact List.mem_cons_self

/-- Among records that are loaded as a whole, each is shown with all its columns. -/
theorem shownColumns_present (s : Store) (e : Entity) (branches : List (Relation × LoadPlan))
    {rows : List Row} {row : Row} (hrow : row ∈ rows) :
    shownColumns (rows.flatMap fun row => loads s e row (.whole branches)) e row =
      e.columns.map fun c => (c.field, row.value c.field) := by
  exact shownColumns_of_whole (List.mem_flatMap.mpr ⟨row, hrow, mem_loads_whole⟩)

/-- Records that are loaded as a whole are shown with all their columns. -/
theorem shows_present (s : Store) (e : Entity) (branches : List (Relation × LoadPlan))
    (rows : List Row) :
    List.Forall₂ (Loaded.Shows e) rows (present s e (.whole branches) rows) := by
  rw [present, List.forall₂_map_right_iff, List.forall₂_same]
  intro row hrow
  rw [view, shownColumns_present s e branches hrow]
  exact ⟨_, rfl⟩

end LoadPlan

theorem Page.items_of_build {α : Type} {items : List α} {total page perPage : Value} {p : Page α}
    (h : Page.build items total page perPage = .ok p) : p.items = items := by
  rw [Page.build] at h
  split at h
  · cases h
  · split at h
    · cases h
      rfl
    · cases h

/-! ### Which records a filter selects -/

/-- No record meets criteria more often than it is in the table. -/
theorem Select.matching_subperm (s : Store) (e : Entity) (criteria : List (Criterion Datum)) :
    (matching s e criteria).Subperm (s.rows e) := by
  have some : (matching s e criteria).Subperm (s.scan e) := List.filter_sublist.subperm
  exact (Store.scan_perm s e).subperm_left.mp some

theorem Select.rows_subperm (s : Store) (e : Entity) (criteria : List (Criterion Datum))
    (keys : List (Field × Direction)) : (rows s e criteria keys).Subperm (s.rows e) :=
  (rows_perm s e criteria keys).subperm_right.mpr (matching_subperm s e criteria)

theorem QuerySpec.filter_of_compile {settings : Settings} {m : Membership} {spec : QuerySpec}
    {q : CompiledQuery} (h : spec.compile settings m = .ok q) :
    Filter.compile m spec.filters = .ok q.filter := by
  obtain ⟨filters, order, tree⟩ := spec
  obtain ⟨filter, hf, h⟩ := bind_eq_ok.mp h
  obtain ⟨terms, -, h⟩ := bind_eq_ok.mp h
  refine hf.trans (congrArg Except.ok ?_)
  cases tree with
  | none =>
    cases h
    rfl
  | some places =>
    obtain ⟨tree, -, h⟩ := bind_eq_ok.mp h
    cases h
    rfl

namespace Repository

variable {r : Repository} {c : Context} {s : Session} {filters : Entries}

/-- The filter of a call selects a record of the table. -/
def Selects (r : Repository) (s : Session) (filters : Entries) (row : Row) : Prop :=
  row ∈ s.working.rows r.entity ∧ ∃ given filter criteria bound, Filter.read filters = .ok given ∧
    Filter.compile r.membership given = .ok filter ∧
    Criteria.resolve r.entity filter = .ok criteria ∧ Criteria.bind criteria = .ok bound ∧
    Criteria.hold s.working row bound = true

theorem asEntriesOrEmpty_map (es : Entries) : Value.asEntriesOrEmpty (.map es) = .ok es := by
  cases es <;> rfl

/-- The include that a call asks for, or the default of the repository. -/
def askedTree (r : Repository) (tree : Value) : Except Failure Value :=
  match tree with
  | .null => .ok r.defaultTree
  | tree => (tree.asEntries.mapError Failure.misuse).map Value.map

theorem compile_map (settings : Settings) (order tree : Value) :
    r.compile settings (.map filters) order tree =
      order.asEntriesOrEmpty.mapError Failure.misuse >>= fun order =>
        r.askedTree tree >>= fun tree =>
          QuerySpec.make [] (.map filters) (.map order) tree >>= fun spec =>
            spec.compile settings r.membership := by
  rw [compile, asEntriesOrEmpty_map]
  cases tree <;> rfl

/-- A query that is compiled has the compiled filter as its conditions. -/
theorem filter_of_compile {settings : Settings} {order tree : Value} {q : CompiledQuery}
    (h : r.compile settings (.map filters) order tree = .ok q) :
    ∃ given, Filter.read filters = .ok given ∧
      Filter.compile r.membership given = .ok q.filter := by
  rw [compile_map] at h
  obtain ⟨order', -, h⟩ := bind_eq_ok.mp h
  obtain ⟨tree', -, h⟩ := bind_eq_ok.mp h
  obtain ⟨spec, hs, h⟩ := bind_eq_ok.mp h
  have read : Filter.read filters = .ok spec.filters := by
    simp only [QuerySpec.make] at hs
    split at hs
    · cases hs
      assumption
    · cases hs
  exact ⟨spec.filters, read, QuerySpec.filter_of_compile h⟩

/-- The statement of a query loads the records it returns as a whole. -/
theorem build_ok {e : Entity} {q : CompiledQuery} {st : Select} (h : Select.build e q = .ok st) :
    ∃ criteria keys branches, Criteria.resolve e q.filter = .ok criteria ∧
      st = ⟨e, criteria, keys, .whole branches⟩ := by
  obtain ⟨criteria, hc, h⟩ := bind_eq_ok.mp h
  obtain ⟨keys, -, h⟩ := bind_eq_ok.mp h
  obtain ⟨plan, hp, h⟩ := bind_eq_ok.mp h
  cases pure_eq_ok.mp h
  obtain ⟨branches, -, rfl⟩ := map_eq_ok.mp hp
  exact ⟨criteria, keys, branches, hc, rfl⟩

/-- A record that meets the criteria of the compiled filter is selected. -/
theorem selects_of_hold {settings : Settings} {order tree : Value} {q : CompiledQuery}
    {criteria : List (Criterion Operand)} {bound : List (Criterion Datum)} {row : Row}
    (hq : r.compile settings (.map filters) order tree = .ok q)
    (hc : Criteria.resolve r.entity q.filter = .ok criteria)
    (hb : Criteria.bind criteria = .ok bound)
    (hrow : row ∈ s.working.rows r.entity) (hold : Criteria.hold s.working row bound = true) :
    r.Selects s filters row := by
  obtain ⟨given, hg, hf⟩ := filter_of_compile hq
  exact ⟨hrow, given, q.filter, criteria, bound, hg, hf, hc, hb, hold⟩

/-- A reply is about records of the table, none more often than it is there, and all are selected.
-/
def Answers (r : Repository) (s : Session) (filters : Entries) (reply : Reply) : Prop :=
  ∃ rows, reply.output.About r.entity rows ∧ rows.Subperm (s.working.rows r.entity) ∧
    ∀ row ∈ rows, r.Selects s filters row

theorem answers_nothing {kind : FaultKind} {message : String} :
    r.Answers s filters (Envelope.failure .nothing kind message) :=
  ⟨[], .nothing, List.nil_subperm, fun _ h => absurd h List.not_mem_nil⟩

theorem answers_report {a : Action} {args : List Value} {result : Except Failure Reply}
    (h : ∀ reply, result = .ok reply → r.Answers s filters reply) :
    r.Answers s filters (r.report a args result).1 := by
  cases result with
  | error f => exact answers_nothing
  | ok reply => exact h reply rfl

theorem answers_getOne (tree : Value) :
    r.Answers s filters (r.getOne c s (.map filters) tree).1 := by
  refine answers_report fun reply h => ?_
  obtain ⟨q, hq, h⟩ := bind_eq_ok.mp h
  obtain ⟨st, hst, h⟩ := bind_eq_ok.mp h
  obtain ⟨-, -, h⟩ := bind_eq_ok.mp h
  obtain ⟨found, hf, h⟩ := bind_eq_ok.mp h
  obtain ⟨criteria, keys, branches, hc, rfl⟩ := build_ok hst
  obtain ⟨bound, hb, hf⟩ := bind_eq_ok.mp hf
  cases pure_eq_ok.mp hf
  have shows := LoadPlan.shows_present s.working r.entity branches
    (Select.encountered s.working r.entity bound).head?.toList
  rw [Select.present] at h
  generalize LoadPlan.present s.working r.entity (.whole branches) _ = xs at h shows
  cases hh : (Select.encountered s.working r.entity bound).head? with
  | none =>
    rw [hh] at shows
    cases shows
    cases h
    exact answers_nothing
  | some row =>
    rw [hh] at shows
    cases shows with
    | cons hx hrest =>
      cases hrest
      cases h
      obtain ⟨hrow, hold⟩ := Select.mem_encountered.mp (List.mem_of_mem_head? hh)
      refine ⟨[row], .record hx, List.singleton_subperm_iff.mpr hrow, fun other hm => ?_⟩
      cases List.mem_singleton.mp hm
      exact selects_of_hold hq hc hb hrow hold

/-- Records among those that a statement selects, in any order, are about selected records. -/
theorem selects_of_mem_rows {settings : Settings} {order tree : Value} {q : CompiledQuery}
    {criteria : List (Criterion Operand)} {bound : List (Criterion Datum)}
    {keys : List (Field × Direction)} {row : Row}
    (hq : r.compile settings (.map filters) order tree = .ok q)
    (hc : Criteria.resolve r.entity q.filter = .ok criteria)
    (hb : Criteria.bind criteria = .ok bound)
    (hrow : row ∈ Select.rows s.working r.entity bound keys) : r.Selects s filters row := by
  have matching := (Select.rows_perm s.working r.entity bound keys).mem_iff.mp hrow
  obtain ⟨hrow, hold⟩ := Select.mem_matching.mp matching
  exact selects_of_hold hq hc hb hrow hold

theorem answers_get (order tree : Value) :
    r.Answers s filters (r.get c s (.map filters) order tree).1 := by
  refine answers_report fun reply h => ?_
  obtain ⟨q, hq, h⟩ := bind_eq_ok.mp h
  obtain ⟨⟨st, found⟩, hs, h⟩ := bind_eq_ok.mp h
  obtain ⟨st, hst, hs⟩ := bind_eq_ok.mp hs
  obtain ⟨-, -, hs⟩ := bind_eq_ok.mp hs
  obtain ⟨found, hf, hs⟩ := bind_eq_ok.mp hs
  cases pure_eq_ok.mp hs
  cases pure_eq_ok.mp h
  obtain ⟨criteria, keys, branches, hc, rfl⟩ := build_ok hst
  obtain ⟨bound, hb, hf⟩ := bind_eq_ok.mp hf
  cases pure_eq_ok.mp hf
  refine ⟨_, .records (LoadPlan.shows_present ..), ?_, fun row => selects_of_mem_rows hq hc hb⟩
  exact Select.rows_subperm ..

/-- A page is about records that meet the criteria of its query. -/
theorem about_paged {q : CompiledQuery} {page perPage : Value} {reply : Reply}
    (h : r.paged c s q page perPage = .ok reply) :
    ∃ criteria bound keys rows, Criteria.resolve r.entity q.filter = .ok criteria ∧
      Criteria.bind criteria = .ok bound ∧ reply.output.About r.entity rows ∧
      rows.Sublist (Select.rows s.working r.entity bound keys) := by
  obtain ⟨st, hst, h⟩ := bind_eq_ok.mp h
  obtain ⟨-, -, h⟩ := bind_eq_ok.mp h
  obtain ⟨total, -, h⟩ := bind_eq_ok.mp h
  obtain ⟨window, -, h⟩ := bind_eq_ok.mp h
  obtain ⟨found, hf, h⟩ := bind_eq_ok.mp h
  obtain ⟨shown, hp, h⟩ := bind_eq_ok.mp h
  cases pure_eq_ok.mp h
  obtain ⟨criteria, keys, branches, hc, rfl⟩ := build_ok hst
  obtain ⟨bound, hb, hf⟩ := bind_eq_ok.mp hf
  refine ⟨criteria, bound, keys, found, hc, hb, .page ?_, ?_⟩
  · rw [Page.items_of_build hp]
    exact LoadPlan.shows_present ..
  · split at hf
    · cases pure_eq_ok.mp hf
      exact window.slice_sublist _
    · cases hf

theorem answers_getPaginated (order tree page perPage : Value) :
    r.Answers s filters (r.getPaginated c s (.map filters) order tree page perPage).1 := by
  refine answers_report fun reply h => ?_
  obtain ⟨q, hq, h⟩ := bind_eq_ok.mp h
  obtain ⟨criteria, bound, keys, rows, hc, hb, about, inRows⟩ := about_paged h
  refine ⟨rows, about, inRows.subperm.trans (Select.rows_subperm ..), fun row hm => ?_⟩
  exact selects_of_mem_rows hq hc hb (inRows.subset hm)

theorem answers_count :
    r.Answers s filters (r.count c s (.map filters)).1 := by
  refine answers_report fun reply h => ?_
  obtain ⟨q, hq, h⟩ := bind_eq_ok.mp h
  obtain ⟨criteria, hc, h⟩ := bind_eq_ok.mp h
  obtain ⟨-, -, h⟩ := bind_eq_ok.mp h
  obtain ⟨n, hn, h⟩ := bind_eq_ok.mp h
  cases pure_eq_ok.mp h
  obtain ⟨bound, hb, hn⟩ := bind_eq_ok.mp hn
  cases pure_eq_ok.mp hn
  refine ⟨_, .number _, Select.matching_subperm .., fun row hm => ?_⟩
  obtain ⟨hrow, hold⟩ := Select.mem_matching.mp hm
  exact selects_of_hold hq hc hb hrow hold

/-- The replies of the calls that look for records by a filter. -/
def replies (r : Repository) (c : Context) (s : Session) (filters : Entries)
    (order tree page perPage : Value) : List Reply := [
  (r.getOne c s (.map filters) tree).1, (r.get c s (.map filters) order tree).1,
  (r.getPaginated c s (.map filters) order tree page perPage).1, (r.count c s (.map filters)).1]

/-- **What the generic reads are about.** Whatever is looked for, in whatever order and on whatever
page, and whatever is loaded along with it, the answer is about records that the filter selects. -/
theorem about_selected (order tree page perPage : Value) :
    ∀ reply ∈ r.replies c s filters order tree page perPage, r.Answers s filters reply := by
  intro reply h
  simp only [replies, List.mem_cons, List.not_mem_nil, or_false] at h
  rcases h with rfl | rfl | rfl | rfl
  · exact answers_getOne tree
  · exact answers_get order tree
  · exact answers_getPaginated order tree page perPage
  · exact answers_count

/-! ### Filters that are answered alike -/

/-- Two filters that are compiled alike are validated alike, beside any order and include. -/
theorem make_compile_congr {others given given' : Entries} {m : Membership} {settings : Settings}
    (read : Filter.read filters = .ok given) (read' : Filter.read others = .ok given')
    (alike : Filter.compile m given = Filter.compile m given') (order tree : Value) :
    (QuerySpec.make [] (.map filters) order tree >>= fun spec => spec.compile settings m) =
      QuerySpec.make [] (.map others) order tree >>= fun spec => spec.compile settings m := by
  rw [Filter.read] at read read'
  simp only [QuerySpec.make, List.map_nil, read, read']
  cases textMapping ["order"] (order.unfold 1 []) with
  | error issues => rfl
  | ok order =>
    cases QuerySpec.validTree [] tree with
    | error issues => rfl
    | ok tree =>
      change QuerySpec.compile settings m ⟨given, order, tree⟩ =
        QuerySpec.compile settings m ⟨given', order, tree⟩
      simp only [QuerySpec.compile, alike]

theorem compile_congr {others given given' : Entries} (read : Filter.read filters = .ok given)
    (read' : Filter.read others = .ok given')
    (alike : Filter.compile r.membership given = Filter.compile r.membership given')
    (settings : Settings) (order tree : Value) :
    r.compile settings (.map filters) order tree = r.compile settings (.map others) order tree := by
  simp only [compile_map, make_compile_congr read read' alike]

theorem report_congr (a : Action) (args others : List Value) (result : Except Failure Reply) :
    (r.report a args result).1 = (r.report a others result).1 := by
  cases result <;> rfl

/-- **What a filter has influence on.** Two filters that are compiled alike have the same replies.
-/
theorem replies_congr {others given given' : Entries} (read : Filter.read filters = .ok given)
    (read' : Filter.read others = .ok given')
    (alike : Filter.compile r.membership given = Filter.compile r.membership given')
    (order tree page perPage : Value) :
    r.replies c s filters order tree page perPage =
      r.replies c s others order tree page perPage := by
  have compiled := compile_congr (r := r) read read' alike c.settings
  have one : (r.getOne c s (.map filters) tree).1 = (r.getOne c s (.map others) tree).1 := by
    rw [getOne, getOne, first, first, compiled]
    exact report_congr ..
  have every : (r.get c s (.map filters) order tree).1 =
      (r.get c s (.map others) order tree).1 := by
    rw [get, get, all, all, compiled]
    exact report_congr ..
  have page : (r.getPaginated c s (.map filters) order tree page perPage).1 =
      (r.getPaginated c s (.map others) order tree page perPage).1 := by
    rw [getPaginated, getPaginated, compiled]
    exact report_congr ..
  have number : (r.count c s (.map filters)).1 = (r.count c s (.map others)).1 := by
    rw [count, count, counted, counted, compiled]
    exact report_congr ..
  rw [replies, replies, one, every, page, number]

/-! ### Filters that are sure to be answered -/

/-- The include of wallets asks for one relation, of which it loads the name. -/
theorem expandCopy_walletTree {limit : Int} (h : 1 ≤ limit) :
    Include.expandCopy limit [⟨[0], [(.str "company", .list [.str "name"])]⟩] =
      .ok [(.str "company", .map [(.str "select", .map [(.str "name", .bool true)])])] := by
  obtain ⟨n, hn⟩ : ∃ n, limit.toNat = n + 1 := ⟨limit.toNat - 1, by omega⟩
  simp only [Include.expandCopy, hn]
  rfl

/-- A specification of a filter and an include is validated if both are. -/
theorem make_of_read {given : Entries} {tree : Value} {places : Option (List Place)}
    (read : Filter.read filters = .ok given) (valid : QuerySpec.validTree [] tree = .ok places) :
    QuerySpec.make [] (.map filters) (.map []) tree = .ok ⟨given, [], places⟩ := by
  have order : textMapping ["order"] ((Value.map []).unfold 1 []) = .ok [] := rfl
  simp only [QuerySpec.make, List.map_nil, order, valid]
  rw [show textMapping ["filters"] (Filter.unfolded [] (.map filters)) = .ok given from read]

/-- A repository compiles every filter that can be compiled, with its default include. -/
theorem compile_default {settings : Settings} {e : Entity} {given filter : Entries}
    (depth : 1 ≤ settings.includeMaxDepth) (read : Filter.read filters = .ok given)
    (compiled : Filter.compile (standard settings e).membership given = .ok filter) :
    ∃ tree branches, (standard settings e).compile settings (.map filters) .null .null =
        .ok ⟨filter, [], tree⟩ ∧ LoadPlan.resolve e tree = .ok (.whole branches) := by
  rw [compile_map]
  by_cases wallet : e = .wallet
  · subst wallet
    refine ⟨some [(.str "company", .map [(.str "select", .map [(.str "name", .bool true)])])], _,
      ?_, rfl⟩
    have spec : QuerySpec.make [] (.map filters) (.map []) walletTree =
        .ok ⟨given, [], some [⟨[0], [(.str "company", .list [.str "name"])]⟩]⟩ :=
      make_of_read read rfl
    refine bind_eq_ok.mpr ⟨[], rfl, bind_eq_ok.mpr ⟨walletTree, rfl, bind_eq_ok.mpr ⟨_, spec, ?_⟩⟩⟩
    rw [QuerySpec.compile, compiled]
    simp only [expandCopy_walletTree depth]
    rfl
  · refine ⟨none, [], ?_, rfl⟩
    have tree : (standard settings e).defaultTree = .null := if_neg wallet
    have spec : QuerySpec.make [] (.map filters) (.map []) .null = .ok ⟨given, [], none⟩ :=
      make_of_read read rfl
    refine bind_eq_ok.mpr ⟨[], rfl, bind_eq_ok.mpr ⟨.null, ?_, bind_eq_ok.mpr ⟨_, spec, ?_⟩⟩⟩
    · rw [askedTree, tree]
    · rw [QuerySpec.compile, compiled]
      rfl

/-- **A filter with a meaning is answered.** A repository whose filter is compiled to conditions
that mean a property answers with all the records of that property, in the order of their keys. -/
theorem get_of_means {e : Entity} {given filter : Entries} {property : Row → Bool}
    (depth : 1 ≤ c.settings.includeMaxDepth) (active : s.isActive = true)
    (read : Filter.read filters = .ok given)
    (compiled : Filter.compile (standard c.settings e).membership given = .ok filter)
    (means : Criteria.Means s.working e filter property) :
    ∃ records,
      ((standard c.settings e).get c s (.map filters) .null .null).1 =
        Envelope.success (.records records) 200 ∧
      List.Forall₂ (Loaded.Shows e) ((s.working.scan e).filter property) records := by
  obtain ⟨tree, branches, hq, hp⟩ := compile_default depth read compiled
  obtain ⟨criteria, bound, hc, hb, holds⟩ := means
  have matching : Select.matching s.working e bound = (s.working.scan e).filter property := by
    rw [Select.matching]
    exact List.filter_congr fun row _ => holds row
  have rows : Select.rows s.working e bound [] = (s.working.scan e).filter property := by
    rw [Select.rows, matching]
    exact List.mergeSort_of_pairwise (List.pairwise_of_forall fun _ _ => rfl)
  have build : Select.build e ⟨filter, [], tree⟩ = .ok ⟨e, criteria, [], .whole branches⟩ := by
    exact bind_eq_ok.mpr ⟨criteria, hc, bind_eq_ok.mpr ⟨[], rfl, bind_eq_ok.mpr ⟨_, hp, rfl⟩⟩⟩
  have all : (standard c.settings e).all c s (.map filters) .null .null =
      .ok (Envelope.success (.records (LoadPlan.present s.working e (.whole branches)
        ((s.working.scan e).filter property))) 200) := by
    refine bind_eq_ok.mpr ⟨_, hq, bind_eq_ok.mpr ⟨(⟨e, criteria, [], .whole branches⟩, _), ?_, rfl⟩⟩
    refine bind_eq_ok.mpr ⟨_, build, bind_eq_ok.mpr ⟨(), Session.queryGuard_of_isActive active, ?_⟩⟩
    refine bind_eq_ok.mpr ⟨(s.working.scan e).filter property, ?_, rfl⟩
    rw [← rows]
    exact bind_eq_ok.mpr ⟨bound, hb, rfl⟩
  rw [get, all]
  exact ⟨_, rfl, LoadPlan.shows_present ..⟩

end Repository

end Recordbook

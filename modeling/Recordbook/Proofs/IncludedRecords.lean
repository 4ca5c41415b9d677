import Recordbook.Proofs.IncludePlan
import Recordbook.Proofs.Keyed
import Recordbook.Script

/-!
# Records along an include

An include names paths of relations, and every record of an answer carries, along each of these
paths, the records on the other side as the store has them. A record may be reached on several
paths, and shows the columns that any of them asks for, beside its key. Along other paths it carries
nothing.

The records that the filter selects are the same whatever is loaded along with them, in the same
order.

## Implementation notes

What is loaded is gathered over all paths before any record is shown, since a record reached on two
paths is one record. It is found again by its key, so the keys have to be distinct. A call shows
only what it loads itself: nothing is left in a session from the calls before.

## Main definitions

* `Include.Mapping.Names` — an include names a path of relations
* `Store.Leads` — following a path of relations from a record leads to another
* `Include.Mapping.Takes` — an include asks for a column of a record, on some path to it
* `Loaded.Carries`, `Loaded.HasPath` — what a shown record carries along a path, and whether it
  carries anything
* `Repository.Includes` — what a call with an include answers with

## Main results

* `LoadPlan.isLoaded_iff` — the columns that are loaded are those that are asked for
* `LoadPlan.carries_of_names`, `LoadPlan.names_of_hasPath` — the paths along which records are shown
* `includes_loaded` — includes load what they say
-/

namespace Recordbook

open Include

/-! ### Paths of an include -/

namespace Include

/-- A mapping of an include names a path of relations, one name under the other. -/
inductive Mapping.Names : Mapping → List String → Form → Prop
  /-- A name alone. -/
  | here {m : Mapping} {name : String} {form : Form} (asks : m.Asks (.str name) form) :
      Names m [name] form
  /-- A name, and a path that is named under it. -/
  | further {m inner : Mapping} {name : String} {path : List String} {form last : Form}
      (asks : m.Asks (.str name) form) (leads : form.inner? = some inner)
      (names : Names inner path last) : Names m (name :: path) last

theorem Mapping.Names.cons {around : List Place} {entry : IndexedEntry} {rest : List IndexedEntry}
    {path : List String} {form : Form} (h : Names ⟨around, rest⟩ path form) :
    Names ⟨around, entry :: rest⟩ path form := by
  cases h with
  | here asks => exact .here asks.cons
  | further asks leads names => exact .further asks.cons leads names

/-- A form asks for a column of the related records. -/
def Form.Takes (f : Field) : Form → Prop
  | .columns fields => .str f.label ∈ fields
  | _ => True

theorem Form.takes_of_inner? {form : Form} {inner : Mapping} (h : form.inner? = some inner)
    (f : Field) : form.Takes f := by
  cases form with
  | columns fields => cases h
  | _ => trivial

end Include

/-! ### Paths in a store -/

/-- Only one record of a table has a certain key. -/
theorem KeyedRows.length_le_one {rows : List Row} (h : KeyedRows rows) {key : Cell}
    (same : ∀ row ∈ rows, row.id = key) : rows.length ≤ 1 := by
  have keys : rows.map Row.id = List.replicate rows.length key :=
    List.eq_replicate_iff.mpr ⟨List.length_map .., by simpa using same⟩
  have distinct := h.distinct
  rw [keys] at distinct
  exact List.nodup_replicate.mp distinct

namespace Store

variable {s : Store} {e e' : Entity} {row row' : Row}

/-- Following a path of relations from a record of a kind leads to another one. -/
def Leads (s : Store) : Entity → Row → List String → Entity → Row → Prop
  | e, row, [], e', row' => e' = e ∧ row' = row
  | e, row, name :: path, e', row' => ∃ r, e.relation? name = some r ∧
      ∃ other ∈ s.related r row, s.Leads r.target other path e' row'

theorem mem_rows_of_related {r : Relation} {other : Row} (h : other ∈ s.related r row) :
    other ∈ s.rows r.target := by
  unfold related at h
  split at h
  · cases h
  · exact List.mem_of_mem_filter h

theorem Leads.mem_rows {path : List String} (h : s.Leads e row path e' row')
    (hrow : row ∈ s.rows e) : row' ∈ s.rows e' := by
  induction path generalizing e row with
  | nil =>
    obtain ⟨rfl, rfl⟩ := h
    exact hrow
  | cons name path ih =>
    obtain ⟨r, -, other, ho, h⟩ := h
    exact ih h (mem_rows_of_related ho)

/-- A relation to one record goes by its key. -/
theorem remote_of_not_many {r : Relation} {name : String} (h : e.relation? name = some r)
    (one : r.many = false) : r.remote = .id := by
  have all : ∀ r ∈ e.relations, r.many = false → r.remote = .id := by
    cases e <;> decide
  exact all r (List.mem_of_find?_eq_some h) one

/-- Along a relation to one record there is at most one. -/
theorem Keyed.length_related_le (keyed : s.Keyed) {r : Relation} {name : String}
    (h : e.relation? name = some r) (one : r.many = false) (row : Row) :
    (s.related r row).length ≤ 1 := by
  unfold related
  split
  · exact Nat.zero_le 1
  · have same : ∀ other ∈ (s.rows r.target).filter fun other => other.cell r.remote =
        row.cell r.near, other.id = row.cell r.near := by
      intro other ho
      simpa [Row.id, remote_of_not_many h one] using (List.mem_filter.mp ho).2
    exact ((keyed.rows r.target).filter _).length_le_one same

/-- The records that are loaded along a relation are those on its other side. -/
theorem Keyed.others_perm (keyed : s.Keyed) {r : Relation} {name : String}
    (h : e.relation? name = some r) (row : Row) :
    (LoadPlan.others s r row).Perm (s.related r row) := by
  have sorted := List.mergeSort_perm (s.related r row) idLe
  unfold LoadPlan.others
  cases many : r.many with
  | true => exact sorted
  | false =>
    have short : ((s.related r row).mergeSort idLe).length ≤ 1 := by
      rw [List.length_mergeSort]
      exact keyed.length_related_le h many row
    simpa [List.take_of_length_le short] using sorted

end Store

/-! ### What is loaded -/

/-- An include asks for a column of a record: all columns of the records that it starts from, and
of others what is asked for at the end of any path that leads to them. -/
def Include.Mapping.Takes (m : Mapping) (s : Store) (e : Entity) (rows : List Row)
    (e' : Entity) (row' : Row) (f : Field) : Prop :=
  (e' = e ∧ row' ∈ rows) ∨ ∃ row ∈ rows, ∃ path form, m.Names path form ∧
    s.Leads e row path e' row' ∧ form.Takes f

namespace LoadPlan

variable {s : Store} {e e' : Entity} {row : Row} {key : Cell} {f : Field}

/-- A column of a record was loaded at one time. -/
def Load.Covers (l : Load) (e : Entity) (key : Cell) (f : Field) : Prop :=
  l.entity = e ∧ l.key = key ∧ ∀ fields, l.fields = some fields → f ∈ fields

theorem isLoaded_iff_covers {all : List Load} :
    isLoaded all e key f = true ↔ f = .id ∨ ∃ l ∈ all, l.Covers e key f := by
  rw [isLoaded, Bool.or_eq_true, decide_eq_true_iff, List.any_eq_true]
  refine or_congr_right (exists_congr fun l => and_congr_right fun _ => ?_)
  rw [Load.Covers]
  cases l.fields <;> simp [and_assoc]

theorem covers_whole_iff {other : Row} :
    Load.Covers ⟨e, other.id, none⟩ e' key f ↔ e' = e ∧ other.id = key := by
  simp [Load.Covers, eq_comm]

theorem covers_columns_iff {other : Row} {fields : List Field} :
    Load.Covers ⟨e, other.id, some fields⟩ e' key f ↔ e' = e ∧ other.id = key ∧ f ∈ fields := by
  simp [Load.Covers, eq_comm]

theorem mem_loadsAlong {branches : List (Relation × LoadPlan)} {l : Load} :
    l ∈ loadsAlong s row branches ↔
      ∃ r plan, (r, plan) ∈ branches ∧
        ∃ other ∈ others s r row, l ∈ loads s r.target other plan := by
  induction branches with
  | nil => simp [loadsAlong]
  | cons branch rest ih =>
    obtain ⟨r, plan⟩ := branch
    rw [loadsAlong, List.mem_append, List.mem_flatMap, ih]
    constructor
    · rintro (h | ⟨r', plan', hm, h⟩)
      · exact ⟨r, plan, List.mem_cons_self, h⟩
      · exact ⟨r', plan', List.mem_cons_of_mem _ hm, h⟩
    · rintro ⟨r', plan', hm, h⟩
      rcases List.mem_cons.mp hm with same | hm
      · cases same
        exact .inl h
      · exact .inr ⟨r', plan', hm, h⟩

theorem mem_loads_columns {fields : List Field} :
    ⟨e, row.id, some fields⟩ ∈ loads s e row (.columns fields) := by
  rw [loads]
  exact List.mem_cons_self

theorem mem_loads_of_along {branches : List (Relation × LoadPlan)} {l : Load}
    (h : l ∈ loadsAlong s row branches) : l ∈ loads s e row (.whole branches) := by
  rw [loads]
  exact List.mem_cons_of_mem _ h

/-- What is loaded of the records on the other side of a relation is loaded along its branch. -/
theorem mem_loadsAlong_of_related (keyed : s.Keyed) {branches : List (Relation × LoadPlan)}
    {name : String} {r : Relation} {plan : LoadPlan} (relation : e.relation? name = some r)
    (hm : (r, plan) ∈ branches) {other : Row} (ho : other ∈ s.related r row) {l : Load}
    (h : l ∈ loads s r.target other plan) : l ∈ loadsAlong s row branches :=
  mem_loadsAlong.mpr ⟨r, plan, hm, other, (keyed.others_perm relation row).mem_iff.mpr ho, h⟩

/-- Whatever is loaded along the branches of a plan is asked for on a path that leads there. The
induction is on the plan, with the record from which it starts left open. -/
theorem names_of_covers (keyed : s.Keyed) {around : List Place} {entries : List IndexedEntry}
    {branches : List (Relation × LoadPlan)} (h : Planned e around entries branches) {l : Load}
    (hl : l ∈ loadsAlong s row branches) (covers : l.Covers e' key f) :
    ∃ path form other, Mapping.Names ⟨around, entries⟩ path form ∧
      s.Leads e row path e' other ∧ other.id = key ∧ form.Takes f := by
  induction h generalizing row with
  | nil => simp [loadsAlong] at hl
  | skipped form later ih =>
    obtain ⟨path, form, other, names, found⟩ := ih hl
    exact ⟨path, form, other, names.cons, found⟩
  | columns name relation form projected later ih =>
    rw [loadsAlong, List.mem_append, List.mem_flatMap] at hl
    rcases hl with ⟨other, ho, hl⟩ | hl
    · rw [loads, List.mem_singleton] at hl
      subst hl
      obtain ⟨rfl, same, hf⟩ := covers_columns_iff.mp covers
      have related := (keyed.others_perm relation row).mem_iff.mp ho
      exact ⟨_, .columns _, other, .here (name ▸ Mapping.asks_head form),
        ⟨_, relation, other, related, rfl, rfl⟩, same, (mem_of_projection projected f).mp hf⟩
    · obtain ⟨path, form, other, names, found⟩ := ih hl
      exact ⟨path, form, other, names.cons, found⟩
  | whole name relation form leads down later below ih =>
    rw [loadsAlong, List.mem_append, List.mem_flatMap] at hl
    rcases hl with ⟨other, ho, hl⟩ | hl
    · have related := (keyed.others_perm relation row).mem_iff.mp ho
      rw [loads, List.mem_cons] at hl
      rcases hl with rfl | hl
      · obtain ⟨rfl, same⟩ := covers_whole_iff.mp covers
        exact ⟨_, _, other, .here (name ▸ Mapping.asks_head form),
          ⟨_, relation, other, related, rfl, rfl⟩, same, Form.takes_of_inner? leads f⟩
      · obtain ⟨path, last, final, names, led, found⟩ := below hl
        exact ⟨_, last, final, .further (name ▸ Mapping.asks_head form) leads names,
          ⟨_, relation, other, related, led⟩, found⟩
    · obtain ⟨path, form, other, names, found⟩ := ih hl
      exact ⟨path, form, other, names.cons, found⟩

/-- What is asked for on a path is loaded of all records to which the path leads. -/
theorem exists_covers (keyed : s.Keyed) {m : Mapping} {path : List String} {form : Form}
    (names : m.Names path form) {branches : List (Relation × LoadPlan)}
    (h : Planned e m.around m.entries branches) {other : Row}
    (leads : s.Leads e row path e' other) (takes : form.Takes f) :
    ∃ l ∈ loadsAlong s row branches, l.Covers e' other.id f := by
  induction names generalizing e row branches with
  | here asks =>
    obtain ⟨name, r, plan, same, relation, hm, realizes⟩ := h.exists_branch asks
    cases same
    obtain ⟨r', relation', _, ho, rfl, rfl⟩ := leads
    cases relation.symm.trans relation'
    rcases realizes with ⟨fields, listed, rfl, rfl, projected⟩ | ⟨inner, below, -, rfl, -⟩
    · have loaded := mem_loadsAlong_of_related keyed relation hm ho mem_loads_columns
      have listed := (mem_of_projection projected f).mpr takes
      exact ⟨_, loaded, covers_columns_iff.mpr ⟨rfl, rfl, listed⟩⟩
    · have loaded := mem_loadsAlong_of_related keyed relation hm ho mem_loads_whole
      exact ⟨_, loaded, covers_whole_iff.mpr ⟨rfl, rfl⟩⟩
  | further asks under names ih =>
    obtain ⟨name, r, plan, same, relation, hm, realizes⟩ := h.exists_branch asks
    cases same
    obtain ⟨r', relation', middle, ho, leads⟩ := leads
    cases relation.symm.trans relation'
    rcases realizes with ⟨fields, listed, rfl, rfl, -⟩ | ⟨inner, below, under', rfl, down⟩
    · cases under
    · cases under.symm.trans under'
      obtain ⟨l, hl, covers⟩ := ih down leads takes
      have loaded := mem_loads_of_along (e := r.target) hl
      exact ⟨l, mem_loadsAlong_of_related keyed relation hm ho loaded, covers⟩

/-- **What is loaded.** Of a record of the store, a column is loaded exactly if it is the key or the
include asks for it. -/
theorem isLoaded_iff (keyed : s.Keyed) {m : Mapping} {branches : List (Relation × LoadPlan)}
    (h : Planned e m.around m.entries branches) {rows : List Row} (stored : ∀ row ∈ rows,
      row ∈ s.rows e) {row : Row} (hrow : row ∈ s.rows e') :
    isLoaded (rows.flatMap fun row => loads s e row (.whole branches)) e' row.id f = true ↔
      f = .id ∨ m.Takes s e rows e' row f := by
  rw [isLoaded_iff_covers]
  refine or_congr_right ⟨?_, ?_⟩
  · rintro ⟨l, hl, covers⟩
    obtain ⟨start, hs, hl⟩ := List.mem_flatMap.mp hl
    rw [loads, List.mem_cons] at hl
    rcases hl with rfl | hl
    · obtain ⟨rfl, same⟩ := covers_whole_iff.mp covers
      have row := (keyed.rows e').eq_of_id (stored start hs) hrow same
      exact .inl ⟨rfl, row ▸ hs⟩
    · obtain ⟨path, form, other, names, leads, same, takes⟩ := names_of_covers keyed h hl covers
      have row := (keyed.rows e').eq_of_id (leads.mem_rows (stored start hs)) hrow same
      exact .inr ⟨start, hs, path, form, names, row ▸ leads, takes⟩
  · rintro (⟨rfl, hm⟩ | ⟨start, hs, path, form, names, leads, takes⟩)
    · exact ⟨_, List.mem_flatMap.mpr ⟨row, hm, mem_loads_whole⟩, covers_whole_iff.mpr ⟨rfl, rfl⟩⟩
    · obtain ⟨l, hl, covers⟩ := exists_covers keyed names h leads takes
      exact ⟨l, List.mem_flatMap.mpr ⟨start, hs, mem_loads_of_along hl⟩, covers⟩

end LoadPlan

/-! ### What is shown -/

namespace Loaded

/-- Some columns of a record are shown, in their order: its key, and those with a property. -/
def ShowsOnly (e : Entity) (row : Row) (taken : Field → Prop) (x : Loaded) : Prop :=
  ∃ columns relations, x = .record e columns relations ∧
    columns.Sublist (e.columns.map fun c => (c.field, row.value c.field)) ∧
    ∀ c ∈ e.columns, (c.field, row.value c.field) ∈ columns ↔ c.field = .id ∨ taken c.field

/-- A record is shown with the records to which a path leads in the store, all of them and each
once: at each name the records on the other side of the relation, of which there is at most one if
the relation is to one record. At the end of the path each shows its key and the columns taken. -/
def Carries (s : Store) (taken : Entity → Row → Field → Prop) :
    Entity → Row → List String → Loaded → Prop
  | e, row, [], x => x.ShowsOnly e row (taken e row)
  | e, row, name :: path, .record _ _ relations => ∃ r xs rows, e.relation? name = some r ∧
      (name, r.many, xs) ∈ relations ∧ rows.Perm (s.related r row) ∧
      (r.many = false → rows.length ≤ 1) ∧
      List.Forall₂ (fun other x => Carries s taken r.target other path x) rows xs

/-- Something is shown along a path, be it that there is no record. -/
def HasPath : List String → Loaded → Prop
  | [], _ => True
  | name :: path, .record _ _ relations => ∃ many xs, (name, many, xs) ∈ relations ∧
      (path = [] ∨ ∃ x ∈ xs, HasPath path x)

end Loaded

namespace LoadPlan

open Loaded

variable {s : Store} {all : List Load} {e : Entity} {row : Row}

theorem shownColumns_eq : shownColumns all e row =
    (e.columns.filter fun c => isLoaded all e row.id c.field).map
      fun c => (c.field, row.value c.field) := by
  rw [shownColumns, List.filterMap_map, ← List.filterMap_eq_map, List.filterMap_filter]
  rfl

/-- What is shown of a record, by any plan, is what was loaded of it. -/
theorem showsOnly_view {taken : Field → Prop}
    (loaded : ∀ f, isLoaded all e row.id f = true ↔ f = .id ∨ taken f) (plan : LoadPlan) :
    ShowsOnly e row taken (view s all e row plan) := by
  have shown : ∃ relations,
      view s all e row plan = .record e (shownColumns all e row) relations := by
    cases plan <;> exact ⟨_, by rw [view]⟩
  obtain ⟨relations, same⟩ := shown
  refine ⟨_, relations, same, ?_, fun c hc => ?_⟩
  · rw [shownColumns_eq]
    exact List.filter_sublist.map _
  · rw [shownColumns_eq, List.mem_map, ← loaded]
    constructor
    · rintro ⟨other, ho, he⟩
      have same : other.field = c.field := (Prod.ext_iff.mp he).1
      rw [← same]
      exact (List.mem_filter.mp ho).2
    · intro h
      exact ⟨c, List.mem_filter.mpr ⟨hc, h⟩, rfl⟩

theorem mem_viewAlong {branches : List (Relation × LoadPlan)} {name : String} {many : Bool}
    {xs : List Loaded} : (name, many, xs) ∈ viewAlong s all row branches ↔
      ∃ r plan, (r, plan) ∈ branches ∧ name = r.name ∧ many = r.many ∧
        xs = (others s r row).map fun other => view s all r.target other plan := by
  induction branches with
  | nil => simp [viewAlong]
  | cons branch rest ih =>
    obtain ⟨r, plan⟩ := branch
    rw [viewAlong, List.mem_cons, ih]
    constructor
    · rintro (same | ⟨r', plan', hm, h⟩)
      · cases same
        exact ⟨r, plan, List.mem_cons_self, rfl, rfl, rfl⟩
      · exact ⟨r', plan', List.mem_cons_of_mem _ hm, h⟩
    · rintro ⟨r', plan', hm, rfl, rfl, rfl⟩
      rcases List.mem_cons.mp hm with same | hm
      · cases same
        exact .inl rfl
      · exact .inr ⟨r', plan', hm, rfl, rfl, rfl⟩

variable {taken : Entity → Row → Field → Prop}

/-- Along the relation of a branch the records on its other side are shown. -/
theorem carries_cons (keyed : s.Keyed) {branches : List (Relation × LoadPlan)} {name : String}
    {r : Relation} {plan : LoadPlan} (relation : e.relation? name = some r)
    (hm : (r, plan) ∈ branches) {path : List String} (columns : List (Field × Value))
    (below : ∀ other ∈ s.related r row,
      Carries s taken r.target other path (view s all r.target other plan)) :
    Carries s taken e row (name :: path) (.record e columns (viewAlong s all row branches)) := by
  have perm := keyed.others_perm relation row
  have named := Entity.name_of_relation? relation
  refine ⟨r, _, others s r row, relation, mem_viewAlong.mpr ⟨r, plan, hm, named.symm, rfl, rfl⟩,
    perm, fun one => ?_, ?_⟩
  · rw [perm.length_eq]
    exact keyed.length_related_le relation one row
  · rw [List.forall₂_map_right_iff, List.forall₂_same]
    exact fun other ho => below other (perm.mem_iff.mp ho)

/-- **Along every path that an include names, a record carries what is in the store.** -/
theorem carries_of_names (keyed : s.Keyed)
    (loaded : ∀ e, ∀ row ∈ s.rows e, ∀ f, isLoaded all e row.id f = true ↔ f = .id ∨ taken e row f)
    {m : Mapping} {path : List String} {form : Form} (names : m.Names path form)
    {branches : List (Relation × LoadPlan)} (h : Planned e m.around m.entries branches)
    (columns : List (Field × Value)) :
    Carries s taken e row path (.record e columns (viewAlong s all row branches)) := by
  induction names generalizing e row branches columns with
  | here asks =>
    obtain ⟨name, r, plan, same, relation, hm, -⟩ := h.exists_branch asks
    cases same
    refine carries_cons keyed relation hm columns fun other ho => ?_
    exact showsOnly_view (loaded _ other (Store.mem_rows_of_related ho)) plan
  | further asks under names ih =>
    obtain ⟨name, r, plan, same, relation, hm, realizes⟩ := h.exists_branch asks
    cases same
    rcases realizes with ⟨fields, listed, rfl, rfl, -⟩ | ⟨inner, below, under', rfl, down⟩
    · cases under
    · cases under.symm.trans under'
      refine carries_cons keyed relation hm columns fun other ho => ?_
      rw [view]
      exact ih down _

/-- **A record carries nothing along any other path.** The induction is on the path. -/
theorem names_of_hasPath {m : Mapping} {branches : List (Relation × LoadPlan)}
    (h : Planned e m.around m.entries branches) {path : List String} (some : path ≠ [])
    {columns : List (Field × Value)}
    (has : HasPath path (.record e columns (viewAlong s all row branches))) :
    ∃ form, m.Names path form := by
  induction path generalizing e row m branches columns with
  | nil => exact absurd rfl some
  | cons name path ih =>
    obtain ⟨many, xs, hm, rest⟩ := has
    obtain ⟨r, plan, hb, rfl, -, rfl⟩ := mem_viewAlong.mp hm
    obtain ⟨form, asks, -, realizes⟩ := h.exists_entry hb
    by_cases last : path = []
    · subst last
      exact ⟨form, .here asks⟩
    · obtain ⟨x, hx, has⟩ := rest.resolve_left last
      obtain ⟨other, -, rfl⟩ := List.mem_map.mp hx
      rcases realizes with ⟨fields, listed, rfl, rfl, -⟩ | ⟨inner, below, under, rfl, down⟩
      · rw [view] at has
        cases path with
        | nil => exact absurd rfl last
        | cons next path =>
          obtain ⟨many, xs, hm, -⟩ := has
          cases hm
      · rw [view] at has
        obtain ⟨final, names⟩ := ih down last has
        exact ⟨final, .further asks under names⟩

end LoadPlan

/-! ### Calls -/

namespace Repository

variable {r : Repository} {c : Context} {s : Session} {filters order tree : Value}

/-- The mapping that an include is read as, the default if none is given. -/
def include? (r : Repository) (tree : Value) : Option Mapping := do
  let asked ← (r.askedTree tree).toOption
  let places ← (QuerySpec.validTree [] asked).toOption
  return Mapping.copyOf (places.getD [])

/-- The branches along which a call loads records are the plan of its include. -/
theorem planned_of_branches? {settings : Settings} {branches : List (Relation × LoadPlan)}
    (clear : ∀ m ∈ r.include? tree, ¬ m.HasBareSelect)
    (h : r.branches? settings tree = some branches) :
    ∃ m, r.include? tree = some m ∧ LoadPlan.Planned r.entity m.around m.entries branches := by
  simp only [branches?, tree?, Option.bind_eq_bind, Option.bind_eq_some_iff, toOption_eq_some]
    at h
  obtain ⟨expanded, ⟨asked, ha, places, hp, he⟩, hb⟩ := h
  have read : r.include? tree = some (Mapping.copyOf (places.getD [])) := by
    rw [include?, ha]
    show (QuerySpec.validTree [] asked).toOption.bind _ = _
    rw [hp]
    rfl
  refine ⟨_, read, ?_⟩
  cases places with
  | none =>
    cases he
    cases hb
    exact .nil
  | some places =>
    obtain ⟨tree, ht, rfl⟩ := Option.map_eq_some_iff.mp he
    have expands := expands_of_expandCopy (toOption_eq_some.mp ht)
    exact LoadPlan.planned_of_expands expands (clear _ read) hb

/-- A call that succeeds is one with a filter that is a mapping. -/
theorem exists_entries (h : (r.get c s filters order tree).1.isSuccess = true) :
    ∃ entries, filters.asEntriesOrEmpty = .ok entries := by
  cases given : filters.asEntriesOrEmpty with
  | ok entries => exact ⟨entries, rfl⟩
  | error m =>
    have failed : r.all c s filters order tree = .error (.misuse m) := by
      rw [all, compile, given]
      rfl
    rw [get, failed] at h
    cases h

theorem get_entries {entries : Entries} (given : filters.asEntriesOrEmpty = .ok entries)
    (order tree : Value) :
    (r.get c s filters order tree).1 = (r.get c s (.map entries) order tree).1 := by
  have same : r.compile c.settings filters order tree =
      r.compile c.settings (.map entries) order tree := by
    rw [compile, compile, given, asEntriesOrEmpty_map]
  rw [get, get, all, all, same]
  exact report_congr ..

end Repository

/-- Where nothing is loaded along with records, they are shown with all their columns and nothing
else. -/
theorem LoadPlan.present_alone (s : Store) (e : Entity) (rows : List Row) :
    present s e (.whole []) rows = rows.map (plain e) := by
  refine List.map_congr_left fun row hrow => ?_
  show view s _ e row (.whole []) = plain e row
  rw [view, viewAlong, shownColumns_present s e [] hrow, plain]

/-- A record of an answer carries what an include says: along every path that is named the records
of the store, with the columns that are asked for, and nothing along any other path. -/
structure Include.Mapping.Loads (m : Mapping) (s : Store) (e : Entity) (rows : List Row) (row : Row)
    (x : Loaded) : Prop where
  /-- The record itself and the records along every path. -/
  carries : ∀ path, (path = [] ∨ ∃ form, m.Names path form) →
    x.Carries s (m.Takes s e rows) e row path
  /-- There is nothing else. -/
  named : ∀ path, path ≠ [] → x.HasPath path → ∃ form, m.Names path form

/-- What a call with an include answers with: the records of a call without one, in the same order,
each with what the include says. -/
structure Repository.Includes (r : Repository) (c : Context) (s : Session)
    (filters order tree : Value) (m : Mapping) (rows : List Row) (records : List Loaded) :
    Prop where
  /-- The include is this mapping. -/
  read : r.include? tree = some m
  /-- The answer. -/
  answered : (r.get c s filters order tree).1 = Envelope.success (.records records) 200
  /-- It is about records of the store. -/
  stored : ∀ row ∈ rows, row ∈ s.working.rows r.entity
  /-- Without any include the same records are answered, in the same order. -/
  alone : ({ r with defaultTree := .null }.get c s filters order .null).1 =
    Envelope.success (.records (rows.map (LoadPlan.plain r.entity))) 200
  /-- So they are with the default include. -/
  default : ∀ others, (r.get c s filters order .null).1 = Envelope.success (.records others) 200 →
    List.Forall₂ (Loaded.Shows r.entity) rows others
  /-- Each carries what the include says. -/
  loaded : List.Forall₂ (m.Loads s.working r.entity rows) rows records

namespace Repository

/-- The records that a plan shows carry what its include says. -/
theorem loads_present {s : Store} (keyed : s.Keyed) {e : Entity} {m : Mapping}
    {branches : List (Relation × LoadPlan)}
    (planned : LoadPlan.Planned e m.around m.entries branches) {rows : List Row}
    (stored : ∀ row ∈ rows, row ∈ s.rows e) :
    List.Forall₂ (m.Loads s e rows) rows (LoadPlan.present s e (.whole branches) rows) := by
  have loaded := fun e' row (h : row ∈ s.rows e') f =>
    LoadPlan.isLoaded_iff (f := f) keyed planned stored h
  rw [LoadPlan.present, List.forall₂_map_right_iff, List.forall₂_same]
  refine fun row hrow => ⟨?_, ?_⟩
  · rintro path (rfl | ⟨form, names⟩)
    · exact LoadPlan.showsOnly_view (loaded e row (stored row hrow)) _
    · rw [LoadPlan.view]
      exact LoadPlan.carries_of_names keyed loaded names planned _
  · intro path some has
    rw [LoadPlan.view] at has
    exact LoadPlan.names_of_hasPath planned some has

end Repository

/-- **Includes load what they say.** If a call for records succeeds, and nowhere in its include a
mapping that only stands for further relations has an entry named `select`, then the call answers
with the records of the filter, in the order in which it answers with them without an include. Along
every path of relations that the include names they carry the records of the store, of which the
columns that are asked for and the key are shown, and they carry nothing else. -/
theorem includes_loaded (r : Repository) (c : Context) (s : Session) (filters order tree : Value)
    (keyed : s.working.Keyed) (clear : ∀ m ∈ r.include? tree, ¬ m.HasBareSelect)
    (answered : (r.get c s filters order tree).1.isSuccess = true) :
    ∃ m rows records, r.Includes c s filters order tree m rows records := by
  obtain ⟨entries, given⟩ := Repository.exists_entries answered
  have same := Repository.get_entries (r := r) (c := c) (s := s) given
  rw [same] at answered
  obtain ⟨active, bound, keys, branches, hc, hk, hb, shown⟩ := Repository.get_success answered
  obtain ⟨m, read, planned⟩ := Repository.planned_of_branches? clear hb
  have stored : ∀ row ∈ Select.rows s.working r.entity bound keys,
      row ∈ s.working.rows r.entity := fun row hrow => (Select.mem_rows.mp hrow).1
  refine ⟨m, Select.rows s.working r.entity bound keys, _, read, (same order tree).trans shown,
    stored, ?_, fun others found => ?_, Repository.loads_present keyed planned stored⟩
  · let alone : Repository := { r with defaultTree := .null }
    have none : alone.branches? c.settings .null = some [] := rfl
    rw [Repository.get_entries given]
    rw [Repository.get_of_parts (r := alone) active hc hk none, LoadPlan.present_alone]
  · rw [same] at found
    have success : (r.get c s (.map entries) order .null).1.isSuccess = true := by
      rw [found]
      rfl
    obtain ⟨-, bound', keys', branches', hc', hk', -, shown'⟩ := Repository.get_success success
    cases hc.symm.trans hc'
    cases hk.symm.trans hk'
    cases found.symm.trans shown'
    exact LoadPlan.shows_present ..

/-- The users of the sample store, with their memberships, of which the role is loaded as a whole
and of the company its name. -/
theorem includes_loaded_sample :
    let c : Context := Script.context {} 1
    let s := Session.start Sample.store false
    let r := Repository.standard c.settings .user
    let tree : Value := .map [(.str "user_company_roles", .map [(.str "include",
      .map [(.str "role", .bool true), (.str "company", .list [.str "name"])])])]
    s.working.Keyed ∧ (∀ m ∈ r.include? tree, ¬ m.HasBareSelect) ∧
      (r.get c s .null .null tree).1.isSuccess = true ∧
      ∃ m rows records, r.Includes c s .null .null tree m rows records := by
  intro c s r tree
  have clear : ∀ m ∈ r.include? tree, ¬ m.HasBareSelect := by
    rintro m read h
    cases read
    cases h with
    | here asks =>
      obtain ⟨entry, he, -, asks⟩ := asks
      rw [List.mem_singleton.mp he] at asks
      cases asks
    | further asks leads h =>
      obtain ⟨entry, he, -, asks⟩ := asks
      rw [List.mem_singleton.mp he] at asks
      cases asks
      cases leads
      refine Mapping.not_hasBareSelect_of_flat ?_ h
      rintro key form ⟨entry, he, -, asks⟩
      rcases List.mem_cons.mp he with rfl | he
      · cases asks
        exact .inl rfl
      · rw [List.mem_singleton.mp he] at asks
        cases asks
        exact .inr ⟨_, rfl⟩
  have answered : (r.get c s .null .null tree).1.isSuccess = true := by
    rfl
  exact ⟨Sample.keyed_store, clear, answered,
    includes_loaded r c s .null .null tree Sample.keyed_store clear answered⟩

end Recordbook

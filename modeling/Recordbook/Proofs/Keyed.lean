import Mathlib.Data.Fintype.Card
import Mathlib.Data.List.Nodup
import Mathlib.Data.Set.List
import Recordbook.Proofs.Cells

/-!
# Keys

A record is known by the key in its `id` column. That works because each record has one and no two
records of a table have the same: the store refuses a record without a key and one whose key is
taken, a column for keys holds nothing else, and what a removal does to other records leaves their
keys alone. The columns by which records refer to others hold nothing but keys either.

So having keys is kept by each write, and by everything that is made of writes: calls, units of
work and scripts. It also bounds a table, since there are only so many keys.

## Main definitions

* `Store.Keyed` — each record of each table has a key of its own, and refers to others by keys

## Main results

* `Store.keyed_kept` — no write takes that away, so nothing that is made of writes does
* `Reachable.keyed_and_typed` — so it holds in every session that is reached, and columns hold what
  their kinds say
* `KeyedRows.length_le` — the greatest number of records of a table
-/

namespace Recordbook

/-- Whether a cell holds a key. -/
def Cell.isKey : Cell → Bool
  | .key _ => true
  | _ => false

theorem Cell.isKey_iff {c : Cell} : c.isKey = true ↔ ∃ u, c = .key u := by
  cases c <;> simp [isKey]

/-- A cell holds a key, if anything. -/
def Cell.KeyIfAny (c : Cell) : Prop := c.isEmpty = false → ∃ u, c = .key u

/-- The records of a table have keys, each one of its own. -/
structure KeyedRows (rows : List Row) : Prop where
  /-- Each record has a key. -/
  key : ∀ row ∈ rows, ∃ u, row.id = .key u
  /-- No key is there twice. -/
  distinct : (rows.map Row.id).Nodup

/-- Every column of a record that is for keys holds a key, if anything. -/
def Row.HoldsKeys (e : Entity) (row : Row) : Prop :=
  ∀ c ∈ e.columns, c.kind = .uuid → (row.cell c.field).KeyIfAny

/-- The records of all tables have keys, and refer to each other by keys. -/
structure Store.Keyed (s : Store) : Prop where
  /-- Each record of a table has a key of its own. -/
  rows : ∀ e, KeyedRows (s.rows e)
  /-- Its columns for keys hold nothing else. -/
  references : ∀ e, ∀ row ∈ s.rows e, row.HoldsKeys e

/-- The cells of a record under the columns of a key. -/
def Row.under (key : List Field) (row : Row) : List Cell := key.map row.cell

/-! ### Tables

A column, or several together, that tells the records of a table apart still does so after a record
was added or replaced, if it tells the new one from the others. -/

namespace Row

variable {β : Type} {f : Row → β} {rows : List Row}

theorem nodup_map_append (h : (rows.map f).Nodup) {row : Row}
    (new : ∀ other ∈ rows, f row ≠ f other) : ((rows ++ [row]).map f).Nodup := by
  rw [List.map_append, List.map_singleton, List.nodup_append]
  refine ⟨h, List.nodup_singleton _, ?_⟩
  rintro _ ha _ hb rfl
  obtain ⟨other, hm, same⟩ := List.mem_map.mp ha
  exact new other hm (same.trans (List.mem_singleton.mp hb)).symm

theorem nodup_map_replace (h : (rows.map f).Nodup) (ids : (rows.map id).Nodup) {old next : Row}
    (new : ∀ other ∈ rows, other.id ≠ old.id → f next ≠ f other) :
    ((rows.map fun row => if row.sameId old then next else row).map f).Nodup := by
  have apart := (List.pairwise_map.mp h).and (List.pairwise_map.mp ids)
  rw [List.Nodup, List.pairwise_map, List.pairwise_map]
  refine apart.imp_of_mem fun {a b} ha hb differ => ?_
  simp only [sameId, decide_eq_true_eq]
  split <;> split
  · rename_i ha' hb'
    exact absurd (ha'.trans hb'.symm) differ.2
  · exact new b hb ‹_›
  · exact (new a ha ‹_›).symm
  · exact differ.1

end Row

namespace KeyedRows

variable {rows : List Row}

theorem eq_of_id (h : KeyedRows rows) {a b : Row} (ha : a ∈ rows) (hb : b ∈ rows)
    (same : a.id = b.id) : a = b :=
  List.inj_on_of_nodup_map h.distinct ha hb same

/-- No other record of a table has the key of a record. -/
theorem id_ne_of_append (h : KeyedRows rows) {before after : List Row} {row : Row}
    (table : rows = before ++ row :: after) : ∀ other ∈ before ++ after, other.id ≠ row.id := by
  have distinct := h.distinct
  rw [table, List.map_append, List.map_cons, List.nodup_middle, List.nodup_cons,
    ← List.map_append] at distinct
  exact fun other hm same => distinct.1 (List.mem_map.mpr ⟨other, hm, same⟩)

theorem filter (h : KeyedRows rows) (p : Row → Bool) : KeyedRows (rows.filter p) where
  key row hrow := h.key row (List.mem_filter.mp hrow).1
  distinct := (List.filter_sublist.map Row.id).nodup h.distinct

theorem map (h : KeyedRows rows) {f : Row → Row} (hf : ∀ row, (f row).id = row.id) :
    KeyedRows (rows.map f) where
  key row hrow := by
    obtain ⟨old, hold, rfl⟩ := List.mem_map.mp hrow
    rw [hf]
    exact h.key old hold
  distinct := by
    have ids : (rows.map f).map Row.id = rows.map Row.id := by
      rw [List.map_map]
      exact List.map_congr_left fun row _ => hf row
    rw [ids]
    exact h.distinct

theorem append (h : KeyedRows rows) {row : Row} (key : ∃ u, row.id = .key u)
    (new : ∀ other ∈ rows, row.id ≠ other.id) : KeyedRows (rows ++ [row]) where
  key other hother := by
    rcases List.mem_append.mp hother with hm | hm
    · exact h.key other hm
    · rwa [List.mem_singleton.mp hm]
  distinct := Row.nodup_map_append h.distinct new

/-- Records of a table, none more often than it is there, have distinct keys. -/
theorem distinct_of_subperm (h : KeyedRows rows) {some : List Row} (hs : some.Subperm rows) :
    (some.map Row.id).Nodup := by
  obtain ⟨l, perm, sublist⟩ := hs
  exact (perm.map Row.id).nodup_iff.mp ((sublist.map Row.id).nodup h.distinct)

/-- A record can be replaced by one whose key no other record has. -/
theorem replace (h : KeyedRows rows) {old next : Row} (key : ∃ u, next.id = .key u)
    (new : ∀ other ∈ rows, other.id ≠ old.id → next.id ≠ other.id) :
    KeyedRows (rows.map fun row => if row.sameId old then next else row) where
  key row hrow := by
    obtain ⟨was, hm, rfl⟩ := List.mem_map.mp hrow
    split
    · exact key
    · exact h.key was hm
  distinct := Row.nodup_map_replace h.distinct h.distinct new

/-- A table has no more records than there are keys. -/
theorem length_le (h : KeyedRows rows) : rows.length ≤ 2 ^ 128 := by
  have keys : rows.map Row.id ∈ Set.range (List.map Cell.key) := by
    rw [Set.range_list_map]
    intro cell hcell
    obtain ⟨row, hrow, rfl⟩ := List.mem_map.mp hcell
    obtain ⟨u, hu⟩ := h.key row hrow
    exact ⟨u, hu.symm⟩
  obtain ⟨keys, hkeys⟩ := keys
  have distinct : keys.Nodup := .of_map Cell.key (hkeys ▸ h.distinct)
  have numbers : (keys.map fun u => u.bits.toFin).Nodup :=
    distinct.map fun u v same => Uuid.ext_val (congrArg Fin.val same)
  calc rows.length = (keys.map fun u => u.bits.toFin).length := by
        rw [List.length_map, ← List.length_map Cell.key, hkeys, List.length_map]
    _ ≤ Fintype.card (Fin (2 ^ 128)) := numbers.length_le_card
    _ = 2 ^ 128 := Fintype.card_fin _

end KeyedRows

/-! ### Columns for keys -/

namespace Entity

variable (e : Entity)

theorem mem_keyColumn : keyColumn ∈ e.columns := by cases e <;> exact List.mem_cons_self

/-- The columns of a unique key must be filled. -/
theorem filled_of_mem_allKeys : ∀ key ∈ Store.allKeys e, ∀ f ∈ key,
    ∃ c ∈ e.columns, c.field = f ∧ c.nullable = false := by
  cases e <;> decide

/-- A column for keys has no default but a fresh one. -/
theorem default_of_uuid : ∀ c ∈ e.columns, c.kind = .uuid →
    c.default = none ∨ c.default = some .freshKey := by
  cases e <;> decide

end Entity

namespace Row.HoldsKeys

variable {e : Entity} {row : Row}

theorem id (h : row.HoldsKeys e) : row.id.KeyIfAny := h _ e.mem_keyColumn rfl

end Row.HoldsKeys

/-! ### The store -/

namespace Store

/-- The store takes a record only if each column that must be filled is. -/
theorem unfilled?_eq_none_iff {e : Entity} {row : Row} :
    unfilled? e row = none ↔
      ∀ c ∈ e.columns, c.nullable = false → (row.cell c.field).isEmpty = false := by
  simp [unfilled?]

/-- A record that the store takes has something in its key column. -/
theorem id_isEmpty_of_unfilled? {e : Entity} {row : Row} (h : unfilled? e row = none) :
    row.id.isEmpty = false := unfilled?_eq_none_iff.mp h _ e.mem_keyColumn rfl

/-- A record that the store takes differs from every other record on each unique key: the columns of
a unique key must be filled, and filled cells that are equal agree. -/
theorem under_ne_of_violation? {e : Entity} {others : List Row} {row : Row}
    (h : violation? e others row = none) {key : List Field} (hk : key ∈ allKeys e) :
    ∀ other ∈ others, row.under key ≠ other.under key := by
  obtain ⟨filled, unique⟩ := violation?_eq_none_iff.mp h
  intro other hm same
  rw [clash?, List.find?_eq_none] at unique
  refine unique key hk (List.any_eq_true.mpr ⟨other, hm, List.all_eq_true.mpr fun f hf => ?_⟩)
  obtain ⟨c, hc, rfl, must⟩ := e.filled_of_mem_allKeys key hk f hf
  have equal : row.cell c.field = other.cell c.field := List.map_inj_left.mp same c.field hf
  rw [unfilled?_eq_none_iff.mp filled c hc must, equal]
  simp

/-- A record that the store takes has a key that no other record has. -/
theorem id_ne_of_violation? {e : Entity} {others : List Row} {row : Row}
    (h : violation? e others row = none) : ∀ other ∈ others, row.id ≠ other.id := by
  intro other hm same
  exact under_ne_of_violation? h (List.mem_append_right _ (List.mem_singleton_self _)) other hm
    (congrArg ([·]) same)

end Store

/-! ### Drafts -/

/-- A column for keys gets a key or nothing, whatever is written. -/
theorem cellInvariant_keys : CellInvariant fun c cell => c.kind = .uuid → cell.KeyIfAny where
  empty _ _ := nofun
  bound c d kind := by
    rw [kind]
    cases d with
    | key u => exact fun _ => ⟨u, rfl⟩
    | _ => exact nofun
  default {e} c hc o {d} hd kind := by
    rcases e.default_of_uuid c hc kind with none | fresh
    · cases hd.symm.trans none
    · cases hd.symm.trans fresh
      exact fun _ => ⟨o.freshKey, rfl⟩
  touched {e} c hc updated t kind := by
    have other : ∀ c ∈ e.columns, c.kind = .uuid → c.field ≠ .updatedAt := by cases e <;> decide
    exact absurd updated (other c hc kind)

namespace Draft

variable {o : Occasion} {e : Entity} {row new : Row}

theorem holdsKeys_of_record {d : Draft} (h : record o e d = .ok new) : new.HoldsKeys e :=
  cellInvariant_keys.cell_of_record h

theorem holdsKeys_of_changedRecord {data : Entries} (held : row.HoldsKeys e)
    (h : changedRecord o e row (changes e row data) = .ok new) : new.HoldsKeys e :=
  cellInvariant_keys.cell_of_changedRecord held h

end Draft

/-! ### Writes -/

/-- The records of a table have keys, and refer to others by keys. -/
def KeyedTable (e : Entity) (rows : List Row) : Prop :=
  KeyedRows rows ∧ ∀ row ∈ rows, row.HoldsKeys e

theorem Store.keyed_iff {s : Store} : s.Keyed ↔ ∀ e, KeyedTable e (s.rows e) :=
  ⟨fun h e => ⟨h.rows e, h.references e⟩, fun h => ⟨fun e => (h e).1, fun e => (h e).2⟩⟩

/-- A record whose columns for keys hold such has a key once the store takes it. -/
theorem Row.HoldsKeys.key_of_violation? {e : Entity} {others : List Row} {row : Row}
    (held : row.HoldsKeys e) (sound : Store.violation? e others row = none) :
    ∃ u, row.id = .key u :=
  held.id (Store.id_isEmpty_of_unfilled? (Store.violation?_eq_none_iff.mp sound).1)

/-- What is done to a table leaves its records with keys. Dependents keep theirs, since the key of a
record may not be empty. -/
theorem keyedTable_invariant : TableInvariant KeyedTable where
  add made sound h := by
    have held := Draft.holdsKeys_of_record made
    refine ⟨h.1.append (held.key_of_violation? sound) (Store.id_ne_of_violation? sound), ?_⟩
    intro other hm
    rcases List.mem_append.mp hm with hm | hm
    · exact h.2 other hm
    · rwa [List.mem_singleton.mp hm]
  replace present made sound h := by
    have held := Draft.holdsKeys_of_changedRecord (h.2 _ present) made
    refine ⟨h.1.replace (held.key_of_violation? sound) fun other hm differs => ?_, ?_⟩
    · refine Store.id_ne_of_violation? sound other (List.mem_filter.mpr ⟨hm, ?_⟩)
      simpa [Row.sameId] using differs
    · intro other hm
      obtain ⟨was, hw, rfl⟩ := List.mem_map.mp hm
      split
      · exact held
      · exact h.2 was hw
  filter h kept := ⟨h.1.filter kept, fun row hrow => h.2 row (List.mem_filter.mp hrow).1⟩
  detach {e f rows} nullable h dependent := by
    have other : f ≠ .id := by
      rintro rfl
      cases e <;> exact absurd nullable (by decide)
    refine ⟨h.1.map fun d => ?_, fun row hm => ?_⟩
    · split
      · exact Row.cell_set_of_ne d .empty other.symm
      · rfl
    · obtain ⟨d, hd, rfl⟩ := List.mem_map.mp hm
      split
      · exact cellInvariant_keys.cell_set_empty (h.2 d hd) f
      · exact h.2 d hd

/-- **Keys are kept** by every write, and so by whatever is made of writes. -/
theorem Store.keyed_kept : Store.Kept Store.Keyed := fun _ _ _ _ rewritten h =>
  keyed_iff.mpr (keyedTable_invariant.kept rewritten (keyed_iff.mp h))

/-! ### Stores to start from -/

theorem Store.keyed_empty : Store.empty.Keyed where
  rows _ := ⟨fun _ h => absurd h List.not_mem_nil, .nil⟩
  references _ _ h := absurd h List.not_mem_nil

theorem Sample.keyed_store : Sample.store.Keyed where
  rows e := by
    refine ⟨fun row hrow => ?_, by cases e <;> decide⟩
    have keyed : ((Sample.store.rows e).all fun row => row.id.isKey) = true := by
      cases e <;> rfl
    exact Cell.isKey_iff.mp (List.all_eq_true.mp keyed row hrow)
  references e row hrow c hc kind := by
    have held : ((Sample.store.rows e).all fun row => e.columns.all fun c =>
        c.kind ≠ .uuid || (row.cell c.field).isEmpty || (row.cell c.field).isKey) = true := by
      cases e <;> rfl
    have cell := List.all_eq_true.mp (List.all_eq_true.mp held row hrow) c hc
    rw [decide_eq_false (not_not_intro kind), Bool.false_or] at cell
    intro filled
    rw [filled, Bool.false_or] at cell
    exact Cell.isKey_iff.mp cell

/-! ### Sessions that are reached -/

theorem Store.Kept.and {p q : Store → Prop} (hp : Kept p) (hq : Kept q) :
    Kept fun s => p s ∧ q s :=
  fun _ _ _ _ rewritten h => ⟨hp rewritten h.1, hq rewritten h.2⟩

/-- **Sessions are keyed and typed.** What is said of single calls is often said of stores whose
records have keys and whose columns hold what their kinds say. Such a store leads to no others, by
calls, saves, rollbacks and units of work, in any order and of any number. -/
theorem Reachable.keyed_and_typed {store : Store} {s : Session} (keyed : store.Keyed)
    (typed : store.Typed) (reached : Reachable store s) :
    s.Both fun st => st.Keyed ∧ st.Typed :=
  (Store.keyed_kept.and Store.typed_kept).reachable ⟨keyed, typed⟩ reached

/-- So it is in every session that the empty store leads to. -/
theorem Reachable.keyed_and_typed_of_empty {s : Session} (reached : Reachable .empty s) :
    s.Both fun st => st.Keyed ∧ st.Typed :=
  reached.keyed_and_typed Store.keyed_empty Store.typed_empty

end Recordbook

import Recordbook.Proofs.AddressedRow
import Recordbook.Proofs.IncludeForms
import Recordbook.Proofs.Selection

/-!
# What an include plans

An include is expanded to a tree, and the tree is read back against the relations and columns of a
kind of records. The two go down the same way: an entry of the include becomes a branch of the plan,
for the relation of its name, and what the branch loads is what the form of the entry asks for. Only
a mapping that stands for further relations and has an entry named `select` is read back as
something else than it was.

## Main definitions

* `LoadPlan.Planned` — the branches of a plan, entry by entry
* `LoadPlan.Realizes` — a plan does what a form asks for

## Main results

* `LoadPlan.planned_of_expands` — what an include is expanded to is read back as its plan
* `LoadPlan.Planned.exists_branch`, `LoadPlan.Planned.exists_entry` — entries and branches
-/

namespace Recordbook

namespace Entries

theorem has_put (k v : Value) (es : Entries) (name : String) :
    (put k v es).has name = (k.isText name || es.has name) := by
  rw [has_iff_get?_isSome, has_iff_get?_isSome, get?_put]
  cases k.isText name <;> rfl

theorem has_putAll (new es : Entries) (name : String) :
    (putAll new es).has name = (new.has name || es.has name) := by
  induction new generalizing es with
  | nil => rfl
  | cons entry rest ih =>
    have step : putAll (entry :: rest) es = putAll rest (put entry.1 entry.2 es) := rfl
    rw [step, ih, has_put]
    simp [has, Bool.or_left_comm, Bool.or_assoc]

theorem has_iff_mem {es : Entries} {name : String} :
    es.has name = true ↔ .str name ∈ es.map Prod.fst := by
  simp only [has, List.any_eq_true, Value.isText_iff, List.mem_map]

end Entries

theorem Entity.relationOf_eq_ok {e : Entity} {key : Value} {r : Relation}
    (h : e.relationOf key = .ok r) : ∃ name, key = .str name ∧ e.relation? name = some r := by
  unfold relationOf at h
  split at h
  · cases h
  · split at h
    · next name _ =>
      split at h
      · next found =>
        cases h
        exact ⟨name, rfl, found⟩
      · cases h
    · cases h

/-- A key names a column. -/
def Entity.HasColumn (e : Entity) (key : Value) : Prop :=
  ∃ name c, key = .str name ∧ e.column? name = some c

theorem Entity.hasColumn_of_columnOf {e : Entity} {key : Value} {c : Column}
    (h : e.columnOf key = .ok c) : e.HasColumn key ∧ key = .str c.field.label := by
  obtain ⟨name, rfl, found⟩ := columnOf_eq_ok h
  have label : c.field.label = name := by simpa using List.find?_some found
  exact ⟨⟨name, c, rfl, found⟩, by rw [label]⟩

theorem Entity.name_of_relation? {e : Entity} {name : String} {r : Relation}
    (h : e.relation? name = some r) : r.name = name := by
  simpa using List.find?_some h

namespace LoadPlan

variable {e : Entity}

/-! ### Reading a tree -/

theorem resolveEntries_cons_ok {key spec : Value} {rest : Entries}
    {branches : List (Relation × LoadPlan)}
    (h : resolveEntries e ((key, spec) :: rest) = .ok branches) :
    ∃ name r plan others, key = .str name ∧ e.relation? name = some r ∧
      resolveSpec r.target spec = .ok plan ∧ resolveEntries e rest = .ok others ∧
      branches = (r, plan) :: others := by
  rw [resolveEntries] at h
  obtain ⟨r, hr, h⟩ := bind_eq_ok.mp h
  obtain ⟨plan, hp, h⟩ := bind_eq_ok.mp h
  obtain ⟨others, ho, h⟩ := bind_eq_ok.mp h
  obtain ⟨name, hk, found⟩ := Entity.relationOf_eq_ok hr
  exact ⟨name, r, plan, others, hk, found, hp, ho, pure_eq_ok.mp h⟩

theorem resolveSpec_true : resolveSpec e (.bool true) = .ok (.whole []) := by
  simp [resolveSpec]

theorem resolveSpec_select (fields : Entries) :
    resolveSpec e (.map [(.str "select", .map fields)]) =
      (projection e (.map fields)).map .columns := by
  rw [resolveSpec]
  simp [Entries.get?_cons]

theorem resolveSpec_include (tree : Entries) :
    resolveSpec e (.map [(.str "include", .map tree)]) = (resolveEntries e tree).map .whole := by
  rw [resolveSpec, resolveUnder, resolveTree]
  simp [Entries.get?_cons, Entries.has]

/-- A tree with neither of the two special names is read as one. -/
theorem resolveSpec_tree {tree : Entries} (select : Entries.get? tree "select" = none)
    (under : Entries.get? tree "include" = none) :
    resolveSpec e (.map tree) = (resolveEntries e tree).map .whole := by
  rw [resolveSpec, select, Entries.has_iff_get?_isSome, under]
  rfl

/-! ### Projections -/

/-- A projection lists columns, and nothing but columns. -/
theorem projection_eq_ok {fields : Entries} {listed : List Field}
    (h : projection e (.map fields) = .ok listed) :
    (∀ key ∈ fields.map Prod.fst, e.HasColumn key) ∧
      ∀ f, f ∈ listed ↔ .str f.label ∈ fields.map Prod.fst := by
  have all := mem_of_mapM_eq_ok (show (fields.map Prod.fst).mapM
    (fun name => (e.columnOf name).map (·.field)) = .ok listed from h)
  refine ⟨fun key hk => ?_, fun f => ⟨fun hf => ?_, fun hf => ?_⟩⟩
  · obtain ⟨f, -, hf⟩ := all.1 key hk
    obtain ⟨c, hc, -⟩ := map_eq_ok.mp hf
    exact (Entity.hasColumn_of_columnOf hc).1
  · obtain ⟨key, hk, hf⟩ := all.2 f hf
    obtain ⟨c, hc, rfl⟩ := map_eq_ok.mp hf
    rw [← (Entity.hasColumn_of_columnOf hc).2]
    exact hk
  · obtain ⟨g, hg, found⟩ := all.1 _ hf
    obtain ⟨c, hc, rfl⟩ := map_eq_ok.mp found
    have label := (Entity.hasColumn_of_columnOf hc).2
    rw [Value.str.injEq] at label
    rwa [Field.label_injective label]

/-- The projection of some columns, as it stands in a tree. -/
def listing (fields : List Value) : Entries :=
  Entries.ofPairs (fields.map fun f => (f, .bool true))

theorem mem_listing {fields : List Value} {name : String} :
    .str name ∈ (listing fields).map Prod.fst ↔ .str name ∈ fields := by
  rw [← Entries.has_iff_mem, listing, Entries.ofPairs, Entries.has_putAll]
  simp [Entries.has, Value.isText_iff]

/-- The columns that a projection loads are those that it names. -/
theorem mem_of_projection {fields : List Value} {listed : List Field}
    (h : projection e (.map (listing fields)) = .ok listed) (f : Field) :
    f ∈ listed ↔ .str f.label ∈ fields :=
  ((projection_eq_ok h).2 f).trans mem_listing

/-! ### The plan of an include -/

open Include

/-- The branches of a plan are what the entries of an include ask for, one after another. -/
inductive Planned :
    Entity → List Place → List IndexedEntry → List (Relation × LoadPlan) → Prop
  /-- No entries. -/
  | nil {e : Entity} {around : List Place} : Planned e around [] []
  /-- An entry that asks for nothing. -/
  | skipped {e : Entity} {around : List Place} {entry : IndexedEntry} {rest : List IndexedEntry}
      {branches : List (Relation × LoadPlan)} (form : entryForm around entry = .ok none)
      (later : Planned e around rest branches) : Planned e around (entry :: rest) branches
  /-- An entry that asks for some columns. -/
  | columns {e : Entity} {around : List Place} {entry : IndexedEntry} {rest : List IndexedEntry}
      {branches : List (Relation × LoadPlan)} {name : String} {r : Relation} {fields : List Value}
      {listed : List Field} (key : entry.key = .str name) (relation : e.relation? name = some r)
      (form : entryForm around entry = .ok (some (.columns fields)))
      (projected : projection r.target (.map (listing fields)) = .ok listed)
      (later : Planned e around rest branches) :
      Planned e around (entry :: rest) ((r, .columns listed) :: branches)
  /-- An entry that asks for whole records, and perhaps for what is related to them. -/
  | whole {e : Entity} {around : List Place} {entry : IndexedEntry} {rest : List IndexedEntry}
      {branches below : List (Relation × LoadPlan)} {name : String} {r : Relation} {asked : Form}
      {inner : Mapping} (key : entry.key = .str name) (relation : e.relation? name = some r)
      (form : entryForm around entry = .ok (some asked)) (leads : asked.inner? = some inner)
      (down : Planned r.target inner.around inner.entries below)
      (later : Planned e around rest branches) :
      Planned e around (entry :: rest) ((r, .whole below) :: branches)

section clear

variable {around places : List Place} {entry : IndexedEntry} {rest : List IndexedEntry}
  (clear : ¬ Mapping.HasBareSelect ⟨around, entry :: rest⟩)

include clear

theorem not_hasBareSelect_under (form : entryForm around entry = .ok (some (.under places))) :
    ¬ (Mapping.ofPlaces places).HasBareSelect :=
  mt (.further (Mapping.asks_head form) rfl) clear

theorem not_hasBareSelect_bare (form : entryForm around entry = .ok (some (.bare places))) :
    ¬ (Mapping.ofPlaces places).HasBareSelect :=
  mt (.further (Mapping.asks_head form) rfl) clear

/-- What a mapping that only stands for further relations is expanded to is read as a tree. -/
theorem resolveSpec_bare (form : entryForm around entry = .ok (some (.bare places)))
    {inner : Entries} (down : Expands places (Mapping.ofPlaces places).entries inner)
    {plan : LoadPlan} (h : resolveSpec e (.map inner) = .ok plan) :
    ∃ branches, resolveEntries e inner = .ok branches ∧ .whole branches = plan := by
  have select : Entries.get? inner "select" = none :=
    down.get?_eq_none fun other ho hk => clear (.here (Mapping.asks_head form) ⟨other, ho, hk⟩)
  have under : Entries.get? inner "include" = none :=
    down.get?_eq_none fun other ho hk => not_hasName_of_bare form ⟨other, ho, hk⟩
  rw [resolveSpec_tree select under] at h
  exact map_eq_ok.mp h

end clear

/-- **An include is read back as its plan.** The induction is on what its entries are expanded to,
which is what the reading goes through. -/
theorem planned_of_expands {around : List Place} {entries : List IndexedEntry} {tree : Entries}
    (expands : Expands around entries tree) (clear : ¬ Mapping.HasBareSelect ⟨around, entries⟩)
    {branches : List (Relation × LoadPlan)} (h : resolveEntries e tree = .ok branches) :
    Planned e around entries branches := by
  induction expands generalizing e branches with
  | nil =>
    cases h
    exact .nil
  | skipped form later ih => exact .skipped form (ih (mt .cons clear) h)
  | whole form later ih =>
    obtain ⟨name, r, plan, others, key, relation, hp, ho, rfl⟩ := resolveEntries_cons_ok h
    rw [resolveSpec_true] at hp
    cases hp
    have leads : Form.whole.inner? = some .empty := rfl
    exact .whole key relation form leads .nil (ih (mt .cons clear) ho)
  | columns form later ih =>
    obtain ⟨name, r, plan, others, key, relation, hp, ho, rfl⟩ := resolveEntries_cons_ok h
    rw [resolveSpec_select] at hp
    obtain ⟨listed, projected, rfl⟩ := map_eq_ok.mp hp
    exact .columns key relation form projected (ih (mt .cons clear) ho)
  | @under _ places _ _ _ _ form down later below ih =>
    obtain ⟨name, r, plan, others, key, relation, hp, ho, rfl⟩ := resolveEntries_cons_ok h
    rw [resolveSpec_include] at hp
    obtain ⟨branches, hb, rfl⟩ := map_eq_ok.mp hp
    have leads : (Form.under places).inner? = some (.ofPlaces places) := rfl
    exact .whole key relation form leads (below (not_hasBareSelect_under clear form) hb)
      (ih (mt .cons clear) ho)
  | @bare _ places _ _ _ _ form down later below ih =>
    obtain ⟨name, r, plan, others, key, relation, hp, ho, rfl⟩ := resolveEntries_cons_ok h
    obtain ⟨branches, hb, rfl⟩ := resolveSpec_bare clear form down hp
    have leads : (Form.bare places).inner? = some (.ofPlaces places) := rfl
    exact .whole key relation form leads (below (not_hasBareSelect_bare clear form) hb)
      (ih (mt .cons clear) ho)

/-! ### Entries and branches -/

/-- A plan does for one relation what a form asks for. -/
def Realizes (e : Entity) (form : Form) (plan : LoadPlan) : Prop :=
  (∃ fields listed, form = .columns fields ∧ plan = .columns listed ∧
    projection e (.map (listing fields)) = .ok listed) ∨
  ∃ inner below, form.inner? = some inner ∧ plan = .whole below ∧
    Planned e inner.around inner.entries below

/-- What an entry asks for is done by a branch. -/
theorem Planned.exists_branch {around : List Place} {entries : List IndexedEntry}
    {branches : List (Relation × LoadPlan)} (h : Planned e around entries branches) {key : Value}
    {form : Form} (asks : Mapping.Asks ⟨around, entries⟩ key form) :
    ∃ name r plan, key = .str name ∧ e.relation? name = some r ∧ (r, plan) ∈ branches ∧
      Realizes r.target form plan := by
  obtain ⟨entry, he, rfl, asked⟩ := asks
  induction h with
  | nil => cases he
  | skipped none later ih =>
    rcases List.mem_cons.mp he with rfl | he
    · cases none.symm.trans asked
    · exact ih he asked
  | columns key relation some projected later ih =>
    rcases List.mem_cons.mp he with rfl | he
    · cases some.symm.trans asked
      exact ⟨_, _, _, key, relation, List.mem_cons_self, .inl ⟨_, _, rfl, rfl, projected⟩⟩
    · obtain ⟨name, r, plan, hk, hr, hm, realizes⟩ := ih he asked
      exact ⟨name, r, plan, hk, hr, List.mem_cons_of_mem _ hm, realizes⟩
  | whole key relation some leads down later _ ih =>
    rcases List.mem_cons.mp he with rfl | he
    · cases some.symm.trans asked
      exact ⟨_, _, _, key, relation, List.mem_cons_self, .inr ⟨_, _, leads, rfl, down⟩⟩
    · obtain ⟨name, r, plan, hk, hr, hm, realizes⟩ := ih he asked
      exact ⟨name, r, plan, hk, hr, List.mem_cons_of_mem _ hm, realizes⟩

/-- Whatever a branch does, an entry asks for it. -/
theorem Planned.exists_entry {around : List Place} {entries : List IndexedEntry}
    {branches : List (Relation × LoadPlan)} (h : Planned e around entries branches) {r : Relation}
    {plan : LoadPlan} (hm : (r, plan) ∈ branches) :
    ∃ form, Mapping.Asks ⟨around, entries⟩ (.str r.name) form ∧ e.relation? r.name = some r ∧
      Realizes r.target form plan := by
  induction h with
  | nil => cases hm
  | skipped none later ih =>
    obtain ⟨form, asks, hr, realizes⟩ := ih hm
    exact ⟨form, asks.cons, hr, realizes⟩
  | columns key relation some projected later ih =>
    rcases List.mem_cons.mp hm with same | hm
    · cases same
      have named := Entity.name_of_relation? relation
      refine ⟨_, ?_, named ▸ relation, .inl ⟨_, _, rfl, rfl, projected⟩⟩
      rw [named, ← key]
      exact Mapping.asks_head some
    · obtain ⟨form, asks, hr, realizes⟩ := ih hm
      exact ⟨form, asks.cons, hr, realizes⟩
  | whole key relation some leads down later _ ih =>
    rcases List.mem_cons.mp hm with same | hm
    · cases same
      have named := Entity.name_of_relation? relation
      refine ⟨_, ?_, named ▸ relation, .inr ⟨_, _, leads, rfl, down⟩⟩
      rw [named, ← key]
      exact Mapping.asks_head some
    · obtain ⟨form, asks, hr, realizes⟩ := ih hm
      exact ⟨form, asks.cons, hr, realizes⟩

end LoadPlan

end Recordbook

import Recordbook.Proofs.Keyed

/-!
# Constraints over whole runs

The tables declare unique keys and columns that must be filled, and nothing but the checks of single
writes enforces them. The checks look at the record that is written only, and at the others of its
table. That is enough: whatever a store without records leads to, by calls, saves, rollbacks and
units of work, has no two records that share a unique key and no empty column that must be filled.

A removal is the one write that is not checked. It leaves records out, which cannot break a
constraint, and it empties references to what is removed, which it does only in columns that may be
empty. No such column is part of a unique key.

## Main definitions

* `Store.Constrained` — the constraints, kind by kind
* `SoundTable` — the same for a table of any kind, as the checks see it

## Main results

* `soundTable_invariant` — what writes do to a table keeps it sound
* `constraints_hold` — the constraints hold in every session that the empty store leads to
-/

namespace Recordbook

/-- The constraints that the tables declare. -/
structure Store.Constrained (s : Store) : Prop where
  /-- No two records of a kind share a key. -/
  keys : ∀ e, ((s.rows e).map Row.id).Nodup
  /-- No two companies share a name. -/
  companies : ((s.rows .company).map fun r => r.cell .name).Nodup
  /-- No two roles share a name. -/
  roles : ((s.rows .role).map fun r => r.cell .name).Nodup
  /-- No two users share an address. -/
  users : ((s.rows .user).map fun r => r.cell .email).Nodup
  /-- No two memberships share user, company and role. -/
  memberships : ((s.rows .membership).map fun r =>
    (r.cell .userId, r.cell .companyId, r.cell .roleId)).Nodup
  /-- No two wallets share company and currency. -/
  wallets : ((s.rows .wallet).map fun r => (r.cell .companyId, r.cell .currency)).Nodup
  /-- No column that must be filled is empty. -/
  filled : ∀ e, ∀ row ∈ s.rows e, ∀ c ∈ e.columns, c.nullable = false → row.cell c.field ≠ .empty

/-- The records of a kind are filled where they must be, and differ on each unique key. -/
structure SoundTable (e : Entity) (rows : List Row) : Prop where
  /-- No column that must be filled is empty. -/
  filled : ∀ row ∈ rows, Store.unfilled? e row = none
  /-- No two records share a unique key. -/
  distinct : ∀ key ∈ Store.allKeys e, (rows.map (Row.under key)).Nodup

/-! ### Columns that may be empty -/

namespace Entity

variable (e : Entity)

/-- A column that may be empty is in no unique key. -/
theorem not_mem_key_of_nullable : ∀ c ∈ e.columns, c.nullable = true →
    ∀ key ∈ Store.allKeys e, c.field ∉ key := by
  cases e <;> decide

end Entity

namespace Store

variable {e : Entity} {f : Field}

theorem mayBeEmpty_iff :
    mayBeEmpty e f = true ↔ ∃ c ∈ e.columns, c.field = f ∧ c.nullable = true := by
  rw [mayBeEmpty, Option.any_eq_true]
  constructor
  · rintro ⟨c, found, nullable⟩
    exact ⟨c, List.mem_of_find?_eq_some found, by simpa using List.find?_some found, nullable⟩
  · rintro ⟨c, hc, rfl, nullable⟩
    cases found : e.columns.find? fun d => d.field = c.field with
    | none => exact absurd (List.find?_eq_none.mp found c hc) (by simp)
    | some d =>
      have same : d.field = c.field := by simpa using List.find?_some found
      exact ⟨d, rfl, e.eq_of_field d (List.mem_of_find?_eq_some found) c hc same ▸ nullable⟩

/-- Emptying a column that may be empty leaves filled what must be. -/
theorem unfilled?_set_empty (nullable : mayBeEmpty e f = true) {row : Row}
    (h : unfilled? e row = none) : unfilled? e (row.set f .empty) = none := by
  obtain ⟨emptied, he, rfl, may⟩ := mayBeEmpty_iff.mp nullable
  rw [unfilled?_eq_none_iff] at h ⊢
  intro c hc must
  have other : c.field ≠ emptied.field := by
    intro same
    rw [e.eq_of_field c hc emptied he same, may] at must
    cases must
  rw [Row.cell_set_of_ne row .empty other]
  exact h c hc must

/-- Emptying a column that may be empty leaves unique keys as they are. -/
theorem under_set_empty (nullable : mayBeEmpty e f = true) {key : List Field}
    (hk : key ∈ allKeys e) (row : Row) : (row.set f .empty).under key = row.under key := by
  obtain ⟨emptied, he, rfl, may⟩ := mayBeEmpty_iff.mp nullable
  refine List.map_congr_left fun g hg => Row.cell_set_of_ne row .empty ?_
  rintro rfl
  exact e.not_mem_key_of_nullable emptied he may key hk hg

end Store

/-! ### Tables -/

namespace SoundTable

variable {e : Entity} {rows : List Row}

/-- What tells records apart at least as well as a unique key tells the records of a table apart. -/
theorem nodup {β : Type} (h : SoundTable e rows) (key : List Field) (hk : key ∈ Store.allKeys e)
    {f : Row → β} (finer : ∃ g : β → List Cell, ∀ row, g (f row) = row.under key) :
    (rows.map f).Nodup := by
  obtain ⟨g, hg⟩ := finer
  have keys : (rows.map f).map g = rows.map (Row.under key) := by
    rw [List.map_map]
    exact List.map_congr_left fun row _ => hg row
  refine .of_map g ?_
  rw [keys]
  exact h.distinct key hk

theorem ids (h : SoundTable e rows) : (rows.map Row.id).Nodup :=
  h.nodup [.id] (List.mem_append_right _ (List.mem_singleton_self _)) ⟨([·]), fun _ => rfl⟩

end SoundTable

/-- What is done to a table leaves it sound. A record that is added or put in another's place was
checked beside all the others. -/
theorem soundTable_invariant : TableInvariant SoundTable where
  add made sound h := by
    refine ⟨fun row hm => ?_, fun key hk => ?_⟩
    · rcases List.mem_append.mp hm with hm | hm
      · exact h.filled row hm
      · rw [List.mem_singleton.mp hm]
        exact (Store.violation?_eq_none_iff.mp sound).1
    · exact Row.nodup_map_append (h.distinct key hk) (Store.under_ne_of_violation? sound hk)
  replace present made sound h := by
    refine ⟨fun row hm => ?_, fun key hk => ?_⟩
    · obtain ⟨was, hw, rfl⟩ := List.mem_map.mp hm
      split
      · exact (Store.violation?_eq_none_iff.mp sound).1
      · exact h.filled was hw
    · refine Row.nodup_map_replace (h.distinct key hk) h.ids fun other hm differs => ?_
      refine Store.under_ne_of_violation? sound hk other (List.mem_filter.mpr ⟨hm, ?_⟩)
      simpa [Row.sameId] using differs
  filter h kept := by
    refine ⟨fun row hm => h.filled row (List.mem_filter.mp hm).1, fun key hk => ?_⟩
    exact (List.filter_sublist.map (Row.under key)).nodup (h.distinct key hk)
  detach nullable h dependent := by
    refine ⟨fun row hm => ?_, fun key hk => ?_⟩
    · obtain ⟨was, hw, rfl⟩ := List.mem_map.mp hm
      split
      · exact Store.unfilled?_set_empty nullable (h.filled was hw)
      · exact h.filled was hw
    · rw [List.map_map, List.map_congr_left (g := Row.under key)]
      · exact h.distinct key hk
      · intro row _
        dsimp only [Function.comp_apply]
        split
        · exact Store.under_set_empty nullable hk row
        · rfl

/-! ### Stores -/

theorem Store.constrained_of_sound {s : Store} (h : ∀ e, SoundTable e (s.rows e)) :
    s.Constrained where
  keys e := (h e).ids
  companies := (h .company).nodup [.name] (by decide) ⟨([·]), fun _ => rfl⟩
  roles := (h .role).nodup [.name] (by decide) ⟨([·]), fun _ => rfl⟩
  users := (h .user).nodup [.email] (by decide) ⟨([·]), fun _ => rfl⟩
  memberships := (h .membership).nodup [.userId, .companyId, .roleId] (by decide)
    ⟨fun c => [c.1, c.2.1, c.2.2], fun _ => rfl⟩
  wallets := (h .wallet).nodup [.companyId, .currency] (by decide)
    ⟨fun c => [c.1, c.2], fun _ => rfl⟩
  filled e row hrow c hc must empty := by
    have filled := Store.unfilled?_eq_none_iff.mp ((h e).filled row hrow) c hc must
    rw [empty] at filled
    cases filled

/-- **Constraints hold over whole runs.** In every session that the empty store leads to, by calls,
saves, rollbacks and units of work, in any order and of any number, the constraints hold of what was
saved and of what the session sees. -/
theorem constraints_hold {s : Session} (h : Reachable .empty s) :
    s.saved.Constrained ∧ s.working.Constrained := by
  have empty : ∀ e, SoundTable e (Store.empty.rows e) := fun e => ⟨nofun, fun key _ => .nil⟩
  have sound := soundTable_invariant.kept.reachable empty h
  exact ⟨Store.constrained_of_sound sound.saved, Store.constrained_of_sound sound.working⟩

/-- A unit of work that adds a company, a user, and a card of the company for the user. -/
def foundingUnit : Callback Unit :=
  let fresh (n : Nat) : Value := .uuid (Script.occasion n).freshKey
  let create (n : Nat) (e : Entity) (data : Entries) (next : Callback Unit) : Callback Unit :=
    .call (Script.context {} n) (.write (.create (Repository.standard {} e) (.map data)))
      fun _ => next
  create 1 .company [(.str "name", .str "Initech")] <|
  create 2 .user [(.str "email", .str "ann@initech.example"), (.str "first_name", .str "Ann"),
    (.str "last_name", .str "Lee")] <|
  create 3 .card [(.str "company_id", fresh 1), (.str "user_id", fresh 2),
    (.str "masked_number", .str "4000 **** 0001")] <|
  .finish (.ok ())

/-- The session in which the user of `foundingUnit` is removed again. The card stays, and is
nobody's any more. -/
def foundedSession : Session :=
  let founded := (Repository.standard {} .company).operation .empty foundingUnit.run
  let removal : Call := .write (.delete (Repository.standard {} .user)
    (.map [(.str "email", .str "ann@initech.example")]))
  (removal.run (Script.context {} 4) (Session.start founded.store false)).session

/-- The constraints hold after a unit of work and a removal that empties a reference. -/
theorem constraints_hold_founded :
    Reachable .empty foundedSession ∧
      (foundedSession.saved.rows .card).map (fun r => (r.cell .userId).isEmpty) = [false] ∧
      (foundedSession.working.rows .card).map (fun r => (r.cell .userId).isEmpty) = [true] ∧
      foundedSession.saved.Constrained ∧ foundedSession.working.Constrained := by
  have reached : Reachable .empty foundedSession :=
    ((Reachable.start true).operation _ foundingUnit false).call _ _
  exact ⟨reached, by decide +kernel, by decide +kernel, constraints_hold reached⟩

end Recordbook

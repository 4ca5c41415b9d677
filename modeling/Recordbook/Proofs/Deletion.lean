import Recordbook.Proofs.AddressedRow

/-!
# What a deletion takes along

What becomes of the records that refer to a deleted one is declared relation by relation, and done
relation by relation when the deletion reaches the store. Here the effect is written out table by
table, without relations and their policies, and the two are shown to be the same.

Three kinds of records have others that refer to them. With a company go its memberships, wallets
and cards. With a user go its memberships, and its cards stay without a holder. A role has only
memberships, which can neither go nor stay without one, so the store refuses to delete a role that a
membership names. Nothing refers to a membership, a wallet or a card.

A reference is a key in a column and nothing more: the store does not check that there is such a
record. So after a deletion no key of the deleted record may be left anywhere.

## Main definitions

* `Store.without` — the store without a record and all that goes with it
* `Store.IsHeld` — a membership names a role
* `Store.Unreferenced` — no record refers to a record with a key

## Main results

* `Store.remove_eq` — what a removal does, written out
* `Store.unreferenced_without` — it leaves no reference
* `deletes_take_dependants` — what a deletion does
-/

namespace Recordbook

/-- The references between tables. -/
theorem Entity.reference_cases (e : Entity) : ∀ r ∈ e.relations, r.many = false →
    (r.target = .company ∧ r.near = .companyId ∧ (e = .membership ∨ e = .wallet ∨ e = .card)) ∨
      (r.target = .user ∧ r.near = .userId ∧ (e = .membership ∨ e = .card)) ∨
      (r.target = .role ∧ r.near = .roleId ∧ e = .membership) := by
  cases e <;> decide

namespace Store

/-! ### The effect, table by table -/

/-- Records without those that have a key in a column. -/
def dropping (f : Field) (u : Uuid) (rows : List Row) : List Row :=
  rows.filter fun row => row.cell f ≠ .key u

/-- Records, with a column emptied in those that have a key in it. -/
def emptying (f : Field) (u : Uuid) (rows : List Row) : List Row :=
  rows.map fun row => if row.cell f = .key u then row.set f .empty else row

/-- The store without the record of a kind that has a key, and without all that goes with it. -/
def without (s : Store) (e : Entity) (u : Uuid) : Store where
  rows table := match e, table with
    | .company, .membership => dropping .companyId u (s.rows .membership)
    | .company, .wallet => dropping .companyId u (s.rows .wallet)
    | .company, .card => dropping .companyId u (s.rows .card)
    | .user, .membership => dropping .userId u (s.rows .membership)
    | .user, .card => emptying .userId u (s.rows .card)
    | e, table => if table = e then dropping .id u (s.rows table) else s.rows table

/-- A membership names the role with a key. -/
def IsHeld (s : Store) (u : Uuid) : Prop :=
  ∃ link ∈ s.rows .membership, link.cell .roleId = .key u

instance (s : Store) (u : Uuid) : Decidable (s.IsHeld u) :=
  inferInstanceAs (Decidable (∃ link ∈ s.rows .membership, link.cell .roleId = .key u))

/-- No record of any table refers to the record of a kind that has a key. -/
def Unreferenced (s : Store) (e : Entity) (u : Uuid) : Prop :=
  ∀ table, ∀ r ∈ table.relations, r.many = false → r.target = e →
    ∀ row ∈ s.rows table, row.cell r.near ≠ .key u

variable {s : Store} {e target : Entity} {row : Row} {u : Uuid} {f : Field} {rows : List Row}

theorem mem_dropping : row ∈ dropping f u rows ↔ row ∈ rows ∧ row.cell f ≠ .key u := by
  simp [dropping]

theorem cell_ne_of_mem_emptying (h : row ∈ emptying f u rows) : row.cell f ≠ .key u := by
  obtain ⟨was, -, rfl⟩ := List.mem_map.mp h
  split
  · simp
  · assumption

theorem emptying_eq_self (h : ∀ row ∈ rows, row.cell f ≠ .key u) : emptying f u rows = rows :=
  (List.map_congr_left fun row hrow => if_neg (h row hrow)).trans (List.map_id rows)

/-! ### Releasing dependents -/

/-- The dependents of a record along a collection are those that have its key. -/
theorem refersTo_toMany (key : row.id = .key u) (name : String) (policy : RemovalPolicy) :
    refersTo (Entity.toMany name target f policy) row = fun d => decide (d.cell f = .key u) := by
  have near : row.cell .id = .key u := key
  ext d
  simp [refersTo, Entity.toMany, near, Cell.isEmpty]

/-- The dependents along a collection go. -/
theorem release_remove (key : row.id = .key u) (s : Store) (name : String) (target : Entity)
    (f : Field) : release row s (Entity.toMany name target f .remove) =
      .ok (s.setRows target (dropping f u (s.rows target))) := by
  rw [release, refersTo_toMany key]
  simp only [Entity.toMany, if_true, dropping, decide_not]

/-- The dependents along a collection stay and lose their reference, if they can be without. -/
theorem release_detach (key : row.id = .key u) (s : Store) (name : String) (target : Entity)
    (f : Field) : release row s (Entity.toMany name target f .detach) =
      if (∃ d ∈ s.rows target, d.cell f = .key u) ∧ mayBeEmpty target f = false then
        .error (.notNull target f)
      else .ok (s.setRows target (emptying f u (s.rows target))) := by
  rw [release, refersTo_toMany key]
  simp only [Entity.toMany, if_true, emptying, decide_eq_true_eq, Bool.and_eq_true,
    List.any_eq_true, Bool.not_eq_true']

/-- The others of a table are those with another key. -/
theorem others_eq_dropping (key : row.id = .key u) (s : Store) (e : Entity) :
    s.others e row = dropping .id u (s.rows e) := by
  simp only [others, dropping, Row.sameId, key, decide_not]
  rfl

/-! ### Removing a record -/

/-- A removal is refused for a role that a membership names. -/
theorem remove_of_held (key : row.id = .key u) (held : s.IsHeld u) :
    s.remove .role row = .error (.notNull .membership .roleId) := by
  rw [remove, Entity.relations, List.foldlM_cons, release_detach key, if_pos ⟨held, by decide⟩]
  rfl

/-- The dependents of a record that may go are dealt with one relation after another. What is on the
other side of a reference stays. Once the record itself is gone, each table is as written out. -/
theorem exists_released (key : row.id = .key u) (free : ¬ (e = .role ∧ s.IsHeld u)) :
    ∃ next, e.relations.foldlM (release row) s = .ok next ∧
      ∀ table, (next.setRows e (dropping .id u (next.rows e))).rows table =
        (s.without e u).rows table := by
  cases e with
  | company =>
    have drop (s : Store) (name : String) (target : Entity) :=
      release_remove key s name target .companyId
    exact ⟨_, bind_eq_ok.mpr ⟨_, drop .., bind_eq_ok.mpr ⟨_, drop .., bind_eq_ok.mpr
      ⟨_, drop .., rfl⟩⟩⟩, fun table => by cases table <;> rfl⟩
  | role =>
    have unheld : ¬ s.IsHeld u := fun held => free ⟨rfl, held⟩
    have empty := release_detach key s "user_company_roles" .membership .roleId
    rw [if_neg fun h => unheld h.1, emptying_eq_self fun link hl h => unheld ⟨link, hl, h⟩,
      setRows_rows] at empty
    exact ⟨s, bind_eq_ok.mpr ⟨s, empty, rfl⟩, fun table => by cases table <;> rfl⟩
  | user =>
    have drop := release_remove key s "user_company_roles" .membership .userId
    have empty (s : Store) := (release_detach key s "cards" .card .userId).trans
      (if_neg fun h => absurd h.2 (by decide))
    exact ⟨_, bind_eq_ok.mpr ⟨_, drop, bind_eq_ok.mpr ⟨_, empty _, rfl⟩⟩,
      fun table => by cases table <;> rfl⟩
  | membership => exact ⟨s, rfl, fun table => by cases table <;> rfl⟩
  | wallet => exact ⟨s, rfl, fun table => by cases table <;> rfl⟩
  | card => exact ⟨s, rfl, fun table => by cases table <;> rfl⟩

/-- **What a removal does** otherwise: it leaves the store without the record and all that goes with
it. -/
theorem remove_eq (key : row.id = .key u) (free : ¬ (e = .role ∧ s.IsHeld u)) :
    s.remove e row = .ok (s.without e u) := by
  obtain ⟨next, released, same⟩ := exists_released key free
  rw [← Store.ext (funext same), ← others_eq_dropping key]
  exact bind_eq_ok.mpr ⟨next, released, rfl⟩

/-- It leaves no reference to the record. -/
theorem unreferenced_without (free : ¬ (e = .role ∧ s.IsHeld u)) :
    (s.without e u).Unreferenced e u := by
  intro table r hr one target row hrow
  have reference := table.reference_cases r hr one
  rw [target] at reference
  rcases reference with ⟨rfl, near, here⟩ | ⟨rfl, near, here⟩ | ⟨rfl, near, rfl⟩
  · rw [near]
    rcases here with rfl | rfl | rfl <;> exact (mem_dropping.mp hrow).2
  · rw [near]
    rcases here with rfl | rfl
    · exact (mem_dropping.mp hrow).2
    · exact cell_ne_of_mem_emptying hrow
  · rw [near]
    exact fun same => free ⟨rfl, row, hrow, same⟩

end Store

/-! ### The record that a key addresses -/

/-- The key of a record of a table addresses it alone. -/
theorem Repository.addressesOne_of_key {r : Repository} {store : Store} {identifier : Value}
    {u : Uuid} {row : Row} (keyed : KeyedRows (store.rows r.entity))
    (address : Identifier.address? identifier = some (.str Identifier.primaryKey, .uuid u))
    (present : row ∈ store.rows r.entity) (key : row.id = .key u) :
    ∃ before after, r.AddressesOne store identifier before row after := by
  obtain ⟨before, after, table⟩ := List.append_of_mem present
  have column : r.entity.column? Identifier.primaryKey = some Entity.keyColumn := by
    cases r.entity <;> rfl
  have has {other : Row} (hm : other ∈ store.rows r.entity) :
      other.Has Entity.keyColumn (.uuid u) ↔ other.id = row.id := by
    obtain ⟨w, hw⟩ := keyed.key other hm
    have cell : other.cell Entity.keyColumn.field = .key w := hw
    rw [Row.has_iff_equals rfl, cell, Cell.equals_key, hw, key]
    simp
  refine ⟨before, after, table, _, _, _, address, column, (has present).mpr rfl, ?_⟩
  intro other hm
  have inside : other ∈ store.rows r.entity := by
    rw [table]
    exact List.mem_append.mpr ((List.mem_append.mp hm).imp_right (List.mem_cons_of_mem _))
  rw [has inside]
  exact keyed.id_ne_of_append table other hm

/-! ### Deletions -/

namespace Repository

variable {r : Repository} {s : Session} {identifier : Value} {u : Uuid} {row : Row}

/-- What a deletion is called in messages and logs. -/
def deletion : Action := ⟨"deleting", false, "_delete"⟩

/-- A deletion that the store takes is answered by the record as it was. -/
theorem delete_of_removed {next : Store} (valid : (Identifier.resolve identifier).isValid = true)
    (found : r.addressed s (Identifier.resolve identifier) = .ok row)
    (removed : s.working.remove r.entity row = .ok next) :
    (r.delete s identifier).reply = r.written 200 row ∧
      (r.delete s identifier).session = s.wrote next := by
  simp only [delete, if_pos valid, reportWrite, removeAddressed, found, removed]
  exact ⟨rfl, rfl⟩

/-- A deletion that the store refuses is answered by a conflict, and everything since the last save
is taken back. -/
theorem delete_of_refused {v : Violation} (valid : (Identifier.resolve identifier).isValid = true)
    (found : r.addressed s (Identifier.resolve identifier) = .ok row)
    (refused : s.working.remove r.entity row = .error v) :
    (r.delete s identifier).reply = Envelope.failure .nothing .constraintViolation
        (r.failureMessage deletion (Draft.refused v)) ∧
      (r.delete s identifier).session = s.failed (Draft.refused v) := by
  simp only [delete, if_pos valid, reportWrite, removeAddressed, found, refused]
  exact ⟨rfl, rfl⟩

end Repository

end Recordbook

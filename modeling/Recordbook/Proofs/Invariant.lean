import Recordbook.Proofs.Selection
import Recordbook.Proofs.UnitOfWork

/-!
# Invariants of the store

A write does one of three things to a store: it adds a record that a draft makes, it replaces a
record by a changed one, or it removes a record and deals with its dependents. `Store.Rewritten`
says which, with all that is known of the records, and every write that the store accepts is one of
these. A property that the three keep is therefore kept by whatever is made of writes.

What is made of writes is the other half: sessions in which calls are made, which are saved and
rolled back, units of work that are concluded, and new sessions on the store that they leave.
`Reachable` is closed under all of them, so callbacks and scripts need no induction of their own for
each property.

## Main definitions

* `Store.Rewritten` — what a write makes of a store
* `Store.Kept` — a property that no write takes away
* `Reachable` — the sessions that come of calls, saves, rollbacks and units of work
* `TableInvariant` — a property of tables that is kept by what writes do to a table

## Main results

* `WriteCall.rewritten_of_flush` — there are no other writes
* `Reachable.callback_run`, `Reachable.operation`, `Reachable.runSteps` — what is made of calls
* `Store.Kept.reachable` — a property that writes keep holds wherever a store with it leads
* `TableInvariant.kept` — properties of tables, one by one, are such
-/

namespace Recordbook

/-- What a write to a table makes of a store. -/
inductive Store.Rewritten (o : Occasion) (e : Entity) (s : Store) : Store → Prop
  /-- There was nothing to change. -/
  | unchanged : Rewritten o e s s
  /-- A record that a draft makes was added. -/
  | inserted {d : Draft} {row : Row} {next : Store} (made : Draft.record o e d = .ok row)
      (written : s.insert e row = .ok next) : Rewritten o e s next
  /-- A record was replaced by what data makes of it. -/
  | replaced {old new : Row} {data : Entries} {next : Store} (present : old ∈ s.rows e)
      (made : Draft.changedRecord o e old (Draft.changes e old data) = .ok new)
      (written : s.replace e old new = .ok next) : Rewritten o e s next
  /-- A record was removed. -/
  | removed {row : Row} {next : Store} (present : row ∈ s.rows e)
      (written : s.remove e row = .ok next) : Rewritten o e s next

/-! ### Writes -/

namespace Draft

variable {o : Occasion} {e : Entity} {s next : Store} {row new : Row}

theorem rewritten_insert {d : Draft} (written : d.insert o e s = .ok (next, new)) :
    s.Rewritten o e next := by
  obtain ⟨row, made, written⟩ := bind_eq_ok.mp written
  obtain ⟨stored, accepted, written⟩ := bind_eq_ok.mp written
  split at written
  · cases written
  · cases pure_eq_ok.mp written
    exact .inserted made (mapError_eq_ok.mp accepted)

theorem rewritten_applyChanges {data : Entries} (present : row ∈ s.rows e)
    (written : applyChanges o e row data s = .ok (next, new)) : s.Rewritten o e next := by
  rw [applyChanges] at written
  split at written
  · cases written
  · split at written
    · cases written
      exact .unchanged
    · obtain ⟨changed, made, written⟩ := bind_eq_ok.mp written
      obtain ⟨stored, accepted, written⟩ := bind_eq_ok.mp written
      cases pure_eq_ok.mp written
      exact .replaced present made (mapError_eq_ok.mp accepted)

end Draft

namespace Repository

variable {r : Repository} {s : Session} {row : Row}

/-- The one record that meets criteria is in the table. -/
theorem mem_of_findUnique {criteria : List (Criterion Operand)}
    (h : r.findUnique s criteria = .ok (some row)) : row ∈ s.working.rows r.entity := by
  obtain ⟨-, -, h⟩ := bind_eq_ok.mp h
  obtain ⟨bound, -, h⟩ := bind_eq_ok.mp h
  split at h
  · cases h
  · rename_i found hf
    cases h
    have member : row ∈ Select.matching s.working r.entity bound := by
      rw [hf]
      exact List.mem_singleton_self _
    exact (Select.mem_matching.mp member).1
  · cases h

theorem mem_of_addressed {i : Identifier} (h : r.addressed s i = .ok row) :
    row ∈ s.working.rows r.entity := by
  obtain ⟨column, -, h⟩ := bind_eq_ok.mp h
  obtain ⟨found, hf, h⟩ := bind_eq_ok.mp h
  cases found with
  | none => cases h
  | some found =>
    cases h
    exact mem_of_findUnique hf

theorem mem_of_addressedIn {store : Store} {identifier : Value}
    (h : r.addressedIn store identifier = some row) : row ∈ store.rows r.entity := by
  simp only [addressedIn] at h
  split at h
  · exact mem_of_addressed (toOption_eq_some.mp h)
  · cases h

theorem mem_of_search {values : Value} {entries : Entries}
    (h : r.search s values = .ok (entries, some row)) : row ∈ s.working.rows r.entity := by
  obtain ⟨given, -, h⟩ := bind_eq_ok.mp h
  obtain ⟨criteria, -, h⟩ := bind_eq_ok.mp h
  obtain ⟨found, hf, h⟩ := bind_eq_ok.mp h
  cases pure_eq_ok.mp h
  exact mem_of_findUnique hf

end Repository

/-- What a write hands to a store and the store accepts is one of the ways to write. -/
theorem WriteCall.rewritten_of_flush {c : Context} {k : WriteCall} {s next : Store}
    (flush : k.flush? c s = some (.ok next)) : ∃ e, s.Rewritten c.occasion e next := by
  cases k with
  | create r data =>
    obtain ⟨draft, -, flush⟩ := Option.bind_eq_some_iff.mp flush
    obtain ⟨⟨stored, new⟩, written, rfl⟩ := map_eq_ok.mp (Option.some_inj.mp flush)
    exact ⟨r.entity, Draft.rewritten_insert written⟩
  | update r identifier data =>
    obtain ⟨row, hrow, flush⟩ := Option.bind_eq_some_iff.mp flush
    obtain ⟨entries, -, flush⟩ := Option.bind_eq_some_iff.mp flush
    obtain ⟨⟨stored, new⟩, written, rfl⟩ := map_eq_ok.mp (Option.some_inj.mp flush)
    exact ⟨r.entity, Draft.rewritten_applyChanges (Repository.mem_of_addressedIn hrow) written⟩
  | delete r identifier =>
    obtain ⟨row, hrow, flush⟩ := Option.bind_eq_some_iff.mp flush
    have written := mapError_eq_ok.mp (Option.some_inj.mp flush)
    exact ⟨r.entity, .removed (Repository.mem_of_addressedIn hrow) written⟩
  | upsert r values created updated =>
    obtain ⟨⟨entries, found⟩, search, flush⟩ := Option.bind_eq_some_iff.mp flush
    cases found with
    | none =>
      obtain ⟨draft, -, flush⟩ := Option.bind_eq_some_iff.mp flush
      obtain ⟨⟨stored, new⟩, written, rfl⟩ := map_eq_ok.mp (Option.some_inj.mp flush)
      exact ⟨r.entity, Draft.rewritten_insert written⟩
    | some row =>
      have hrow := Repository.mem_of_search (toOption_eq_some.mp search)
      obtain ⟨data, -, flush⟩ := Option.bind_eq_some_iff.mp flush
      obtain ⟨⟨stored, new⟩, written, rfl⟩ := map_eq_ok.mp (Option.some_inj.mp flush)
      exact ⟨r.entity, Draft.rewritten_applyChanges hrow written⟩

/-! ### Sequences of calls -/

/-- The sessions that a store leads to. A unit of work runs on a session of its own and is concluded
with a result or a failure, whatever was done in it. -/
inductive Reachable (store : Store) : Session → Prop
  /-- A session on the store itself. -/
  | start (oneUnit : Bool) : Reachable store (Session.start store oneUnit)
  /-- A session in which a call was made. -/
  | call {s : Session} (c : Context) (k : Call) (before : Reachable store s) :
      Reachable store (k.run c s).session
  /-- A session that was saved. -/
  | save {s : Session} (before : Reachable store s) : Reachable store s.save.2
  /-- A session that was rolled back. -/
  | rollback {s : Session} (before : Reachable store s) : Reachable store s.rollback
  /-- A new session on the store that another saved. -/
  | restart {s : Session} (oneUnit : Bool) (before : Reachable store s) :
      Reachable store (Session.start s.saved oneUnit)
  /-- A new session on the store that a unit of work left. -/
  | concluded {α : Type} {s : Session} (r : Repository) (result : Except Failure α)
      (oneUnit : Bool) (before : Reachable store s) :
      Reachable store (Session.start (r.conclude (result, s)).store oneUnit)

namespace Reachable

variable {store : Store} {s : Session}

/-- A callback leads from one session to another by its calls. -/
theorem callback_run {α : Type} (before : Reachable store s) (work : Callback α) :
    Reachable store (work.run s).2 := by
  induction work generalizing s with
  | finish result => exact before
  | call c k next ih => exact ih _ (before.call c k)

/-- A unit of work, whatever calls its callback makes and whatever becomes of it. -/
theorem operation {α : Type} (before : Reachable store s) (r : Repository) (work : Callback α)
    (oneUnit : Bool) :
    Reachable store (Session.start (r.operation s.saved work.run).store oneUnit) :=
  ((before.restart true).callback_run work).concluded r _ oneUnit

/-- Steps of scripts are calls, saves and rollbacks, or leave their session alone. -/
theorem step_run (before : Reachable store s) (c : Context) (step : Step) :
    Reachable store (step.run c s).session := by
  have queried (result : Except Failure Answer) :
      Reachable store (Step.queried s result).session := by
    cases result <;> exact before
  have called (k : Call) : Reachable store (Step.called (k.run c s)).session := by
    rw [Step.session_called]
    exact before.call c k
  have read (r : Reply × Log) : Reachable store (Step.read s r).session := by
    rwa [Step.session_read]
  cases step with
  | create r data => exact called (.write (.create r data))
  | update r identifier data => exact called (.write (.update r identifier data))
  | delete r identifier => exact called (.write (.delete r identifier))
  | upsert r values created updated => exact called (.write (.upsert r values created updated))
  | byCompanyAndCurrency r companyId currency =>
    rw [Step.run]
    split
    · exact read _
    · exact before
  | describe => exact before
  | compile => exact queried _
  | select => exact queried _
  | countSelected => exact queried _
  | paginate => exact queried _
  | dump => exact queried _
  | save =>
    have saved := before.save
    rw [Step.run]
    split
    · rename_i hs
      rwa [hs] at saved
    · rename_i hs
      rwa [hs] at saved
  | rollback => exact before.rollback
  | _ => exact read _

theorem runSteps (before : Reachable store s) (settings : Settings) {n : Nat} {steps : List Step} :
    Reachable store (Script.runSteps settings n s steps).2 := by
  induction steps generalizing n s with
  | nil => exact before
  | cons step rest ih => exact ih (before.step_run _ step)

theorem runUntilError (before : Reachable store s) (settings : Settings) {n : Nat}
    {steps : List Step} : Reachable store (Script.runUntilError settings n s steps).2.2 := by
  induction steps generalizing n s with
  | nil => exact before
  | cons step rest ih =>
    rw [Script.runUntilError]
    split
    · exact before.step_run _ step
    · exact ih (before.step_run _ step)

theorem runUnit (before : Reachable store s) (settings : Settings) {n : Nat} {steps : List Step}
    (raised : Option Failure) (stopOnError : Bool) :
    Reachable store (Script.runUnit settings n s steps raised stopOnError).2.2 := by
  cases stopOnError with
  | false => exact before.runSteps settings
  | true => exact before.runUntilError settings

end Reachable

/-! ### Properties that writes keep -/

/-- A property of stores that no write takes away. -/
def Store.Kept (p : Store → Prop) : Prop :=
  ∀ ⦃o : Occasion⦄ ⦃e : Entity⦄ ⦃s next : Store⦄, s.Rewritten o e next → p s → p next

/-- Both stores of a session have a property. -/
structure Session.Both (p : Store → Prop) (s : Session) : Prop where
  /-- The one that was saved. -/
  saved : p s.saved
  /-- The one that the session sees. -/
  working : p s.working

theorem Outcome.both {p : Store → Prop} {s after : Session}
    {flush : Option (Except Failure Store)} {answered : Bool}
    (outcome : Outcome s flush answered after) (h : s.Both p)
    (stored : ∀ next, flush = some (.ok next) → p next) : after.Both p := by
  cases outcome with
  | turnedAway => exact h
  | refused f => exact ⟨h.saved, h.saved⟩
  | stored next => exact ⟨h.saved, stored next rfl⟩

namespace Store.Kept

variable {p : Store → Prop} {store : Store} {s : Session}

theorem call_run (kept : Kept p) (h : s.Both p) (c : Context) (k : Call) :
    (k.run c s).session.Both p := by
  cases active : s.isActive with
  | false => rwa [k.session_of_not_isActive c active]
  | true =>
    cases k with
    | read k => exact h
    | write k =>
      refine (k.outcome c active).both h fun next flush => ?_
      obtain ⟨e, rewritten⟩ := WriteCall.rewritten_of_flush flush
      exact kept rewritten h.working

theorem conclude {α : Type} (r : Repository) {ended : Except Failure α × Session}
    (h : ended.2.Both p) : p (r.conclude ended).store := by
  rcases r.conclude_cases ended with ⟨a, -, -, -, store⟩ | ⟨f, -, -, store⟩
  · exact store ▸ h.working
  · exact store ▸ h.saved

/-- **Invariants.** A property of stores that no write takes away holds in every session that a
store with it leads to, of what was saved and of what the session sees. -/
theorem reachable (kept : Kept p) (h : p store) (reached : Reachable store s) : s.Both p := by
  induction reached with
  | start oneUnit => exact ⟨h, h⟩
  | call c k before ih => exact kept.call_run ih c k
  | @save s before ih =>
    rw [Session.save]
    cases s.writeGuard with
    | error f => exact ih
    | ok => exact ⟨ih.working, ih.working⟩
  | rollback before ih => exact ⟨ih.saved, ih.saved⟩
  | restart oneUnit before ih => exact ⟨ih.saved, ih.saved⟩
  | concluded r result oneUnit before ih => exact ⟨conclude r ih, conclude r ih⟩

/-- A block of a script leaves a store with the property if it found one. -/
theorem runBlock (kept : Kept p) (h : p store) (settings : Settings) {n : Nat}
    (block : Block) : p (Script.runBlock settings n store block).2.1 := by
  cases block with
  | single step =>
    have reached := kept.reachable h
      ((Reachable.start false).step_run (Script.context settings n) step)
    rw [Script.runBlock]
    dsimp only
    split
    · exact reached.working
    · exact reached.saved
  | session steps => exact (kept.reachable h ((Reachable.start false).runSteps settings)).saved
  | unit r steps raised stopOnError =>
    exact conclude r
      (kept.reachable h ((Reachable.start true).runUnit settings raised stopOnError))

end Store.Kept

/-! ### Properties of tables

Most properties of a store are properties of its tables, one by one. Then a removal needs to be
looked at only as far as it leaves out records or empties columns: what becomes of the dependents
along a relation is one of the two. -/

/-- A property of the records of a kind that is kept by what writes do to a table. -/
structure TableInvariant (p : Entity → List Row → Prop) : Prop where
  /-- A record is added that breaks no constraint. -/
  add {o : Occasion} {e : Entity} {d : Draft} {rows : List Row} {row : Row}
    (made : Draft.record o e d = .ok row) (sound : Store.violation? e rows row = none)
    (h : p e rows) : p e (rows ++ [row])
  /-- A record is replaced by one that breaks no constraint beside the others. -/
  replace {o : Occasion} {e : Entity} {rows : List Row} {old new : Row} {data : Entries}
    (present : old ∈ rows)
    (made : Draft.changedRecord o e old (Draft.changes e old data) = .ok new)
    (sound : Store.violation? e (rows.filter fun r => !r.sameId old) new = none) (h : p e rows) :
    p e (rows.map fun r => if r.sameId old then new else r)
  /-- Records are left out. -/
  filter {e : Entity} {rows : List Row} (h : p e rows) (kept : Row → Bool) :
    p e (rows.filter kept)
  /-- A column that may be empty is emptied in some records. -/
  detach {e : Entity} {f : Field} {rows : List Row} (nullable : Store.mayBeEmpty e f = true)
    (h : p e rows) (dependent : Row → Bool) :
    p e (rows.map fun r => if dependent r then r.set f .empty else r)

namespace Store

/-- What becomes of the dependents of a record along a relation. -/
theorem release_cases {row : Row} {r : Relation} {s next : Store}
    (released : release row s r = .ok next) :
    next = s ∨ (∃ kept, next = s.setRows r.target ((s.rows r.target).filter kept)) ∨
      (mayBeEmpty r.target r.remote = true ∧ ∃ dependent : Row → Bool,
        next = s.setRows r.target ((s.rows r.target).map fun d =>
          if dependent d then d.set r.remote .empty else d)) := by
  rw [release] at released
  split at released
  · split at released
    · cases released
      exact .inr (.inl ⟨_, rfl⟩)
    · dsimp only at released
      split at released
      · cases released
      · rename_i allowed
        cases released
        cases nullable : mayBeEmpty r.target r.remote with
        | true => exact .inr (.inr ⟨rfl, _, rfl⟩)
        | false =>
          have unreferred : ∀ d ∈ s.rows r.target, refersTo r row d = false := by
            simpa [nullable] using allowed
          refine .inr (.inl ⟨fun _ => true, ?_⟩)
          rw [List.filter_true,
            List.map_congr_left fun d hd => if_neg (by simp [unreferred d hd])]
          exact congrArg _ (List.map_id _)
  · cases released
    exact .inl rfl

end Store

namespace TableInvariant

variable {p : Entity → List Row → Prop} {s next : Store}

theorem setRows (h : ∀ e, p e (s.rows e)) {e : Entity} {rows : List Row} (here : p e rows) :
    ∀ f, p f ((s.setRows e rows).rows f) := by
  intro f
  by_cases hf : f = e
  · subst hf
    rwa [Store.rows_setRows_self]
  · rw [Store.rows_setRows_of_ne s rows hf]
    exact h f

theorem release (invariant : TableInvariant p) (h : ∀ e, p e (s.rows e)) {row : Row}
    {r : Relation} (released : Store.release row s r = .ok next) : ∀ e, p e (next.rows e) := by
  rcases Store.release_cases released with rfl | ⟨kept, rfl⟩ | ⟨nullable, dependent, rfl⟩
  · exact h
  · exact setRows h (invariant.filter (h r.target) kept)
  · exact setRows h (invariant.detach nullable (h r.target) dependent)

theorem releaseAll (invariant : TableInvariant p) (h : ∀ e, p e (s.rows e)) {row : Row}
    {rs : List Relation} (released : rs.foldlM (Store.release row) s = .ok next) :
    ∀ e, p e (next.rows e) := by
  induction rs generalizing s with
  | nil =>
    cases released
    exact h
  | cons r rs ih =>
    obtain ⟨here, hr, released⟩ := bind_eq_ok.mp released
    exact ih (invariant.release h hr) released

/-- A property that is kept table by table is kept by writes. -/
theorem kept (invariant : TableInvariant p) : Store.Kept fun s => ∀ e, p e (s.rows e) := by
  intro o e s next rewritten h
  cases rewritten with
  | unchanged => exact h
  | inserted made written =>
    rw [Store.insert] at written
    split at written
    · cases written
    · rename_i sound
      cases written
      exact setRows h (invariant.add made sound (h e))
  | replaced present made written =>
    rw [Store.replace] at written
    split at written
    · cases written
    · rename_i sound
      cases written
      exact setRows h (invariant.replace present made sound (h e))
  | removed present written =>
    obtain ⟨released, hr, written⟩ := bind_eq_ok.mp written
    cases pure_eq_ok.mp written
    have left := invariant.releaseAll h hr
    exact setRows left (invariant.filter (left e) _)

end TableInvariant

end Recordbook

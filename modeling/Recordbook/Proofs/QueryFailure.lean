import Recordbook.Proofs.Selection
import Recordbook.Repository.Read

/-!
# How queries fail

A query that finds nothing does not fail. So no query fails as one that is missing a record: the
faults that say so are made by the calls themselves, where a record was looked for and is not there.
Everything that a query goes through is followed here, from the reading of its arguments to the
binding of its operands.

## Main definitions

* `NeverMissing` — a computation that does not fail for want of a record

## Main results

* `Repository.neverMissing_first` — neither does the look-up of one record
-/

namespace Recordbook

/-- A computation that does not fail as a look-up that matches no record. -/
structure NeverMissing {α : Type} (x : Except Failure α) : Prop where
  /-- A failure is of another kind. -/
  kind_ne : ∀ f, x = .error f → f.toFault.kind ≠ .notFound

namespace NeverMissing

variable {α β : Type}

theorem ok (a : α) : NeverMissing (.ok a : Except Failure α) := ⟨nofun⟩

theorem error {f : Failure} (h : f.faultKind ≠ .notFound) :
    NeverMissing (.error f : Except Failure α) := by
  constructor
  rintro _ ⟨⟩
  rw [Failure.kind_toFault]
  split
  · exact h
  · exact nofun

/-- It does not matter what else a computation that failed was to come to. -/
theorem of_error {f : Failure} (h : NeverMissing (.error f : Except Failure α)) :
    NeverMissing (.error f : Except Failure β) := by
  constructor
  rintro _ ⟨⟩
  exact h.kind_ne f rfl

theorem spec (p : SpecProblem) : NeverMissing (.error (.spec p) : Except Failure α) :=
  error (by simp [Failure.faultKind])

theorem misuse (m : Misuse) : NeverMissing (.error (.misuse m) : Except Failure α) :=
  error (by simp [Failure.faultKind])

theorem invalid (r : Invalid) : NeverMissing (.error (.invalid r) : Except Failure α) :=
  error (by simp [Failure.faultKind])

theorem session (p : SessionProblem) : NeverMissing (.error (.session p) : Except Failure α) :=
  error (by simp [Failure.faultKind])

theorem store (p : StoreProblem) : NeverMissing (.error (.store p) : Except Failure α) := by
  refine error ?_
  rw [Failure.faultKind]
  split <;> simp

theorem mapError {ε : Type} {wrap : ε → Failure}
    (h : ∀ e, NeverMissing (.error (wrap e) : Except Failure α)) (x : Except ε α) :
    NeverMissing (x.mapError wrap) := by
  cases x with
  | ok a => exact ok a
  | error e => exact h e

theorem bind {x : Except Failure α} {next : α → Except Failure β} (hx : NeverMissing x)
    (h : ∀ a, NeverMissing (next a)) : NeverMissing (x >>= next) := by
  cases x with
  | ok a => exact h a
  | error f => exact of_error hx

theorem map {x : Except Failure α} (hx : NeverMissing x) (f : α → β) : NeverMissing (x.map f) := by
  cases x with
  | ok a => exact ok (f a)
  | error failure => exact of_error hx

theorem mapM {f : α → Except Failure β} (h : ∀ a, NeverMissing (f a)) (items : List α) :
    NeverMissing (items.mapM f) := by
  induction items with
  | nil => exact ok []
  | cons a as ih =>
    rw [List.mapM_cons]
    exact bind (h a) fun _ => bind ih fun _ => ok _

end NeverMissing

open NeverMissing

/-! ### Compiling -/

theorem Filter.neverMissing_compileEntry (key v : Value) : NeverMissing (compileEntry key v) := by
  unfold compileEntry
  split
  · exact .ok _
  · split
    · split
      · exact .ok _
      · exact .spec _
    · exact .ok _

theorem Filter.neverMissing_compileEntries (done entries : Entries) :
    NeverMissing (compileEntries done entries) := by
  induction entries generalizing done with
  | nil => exact .ok done
  | cons e es ih => exact .bind (neverMissing_compileEntry e.1 e.2) fun _ => ih _

theorem Filter.neverMissing_compile (m : Membership) (filters : Entries) :
    NeverMissing (compile m filters) := by
  rw [compile]
  split <;> exact neverMissing_compileEntries _ _

namespace Include

theorem neverMissing_selection (fields : List Value) : NeverMissing (selection fields) := by
  rw [selection]
  split
  · exact .misuse _
  · exact .ok _

theorem neverMissing_listedFields (around : List Place) (index : Nat) (v : Value) :
    NeverMissing (listedFields around index v) := by
  unfold listedFields
  split
  · exact .ok _
  · split
    · split
      · exact .ok _
      · exact .misuse _
    · exact .ok _

section

variable {next : List Place → Except Failure Entries} (h : ∀ places, NeverMissing (next places))
include h

theorem neverMissing_expandInner (around : List Place) (entries : Entries) (v : Value) :
    NeverMissing (expandInner next around entries v) := by
  unfold expandInner
  split
  · exact .bind (h _) fun _ => .ok _
  · exact .spec _

theorem neverMissing_expandKind (around : List Place) (entries : Entries) (key kind : Value) :
    NeverMissing (expandKind next around entries key kind) := by
  unfold expandKind
  split
  · exact .misuse _
  · split
    · exact .ok _
    · split
      · exact .bind (neverMissing_listedFields ..) fun _ => neverMissing_selection _
      · split
        · dsimp only
          split
          · exact neverMissing_expandInner h ..
          · exact .bind (h _) fun _ => .ok _
        · exact .spec _

theorem neverMissing_expandMapping (key : Value) (places : List Place) :
    NeverMissing (expandMapping next key places) := by
  unfold expandMapping
  split
  · exact .ok _
  · split
    · exact neverMissing_expandKind h ..
    · split
      · exact neverMissing_expandInner h ..
      · exact .bind (h _) fun _ => .ok _

theorem neverMissing_expandEntry (around : List Place) (index : Nat) (key v : Value) :
    NeverMissing (expandEntry next around index key v) := by
  unfold expandEntry
  split
  · exact .ok _
  · exact .map (neverMissing_selection _) _
  · exact .map (neverMissing_selection _) _
  · split
    · exact .map (neverMissing_expandMapping h ..) _
    · exact .ok _

theorem neverMissing_expandEntries (around : List Place) (entries : List IndexedEntry) :
    NeverMissing (expandEntries next around entries) := by
  induction entries with
  | nil => exact .ok []
  | cons e rest ih =>
    exact .bind (neverMissing_expandEntry h ..) fun _ => .bind ih fun _ => .ok _

end

theorem neverMissing_expandAt (limit : Int) (levels : Nat) (path : List (List Nat))
    (places : List Place) : NeverMissing (expandAt limit levels path places) := by
  induction levels generalizing path places with
  | zero =>
    unfold expandAt
    split <;> exact .spec _
  | succ levels ih =>
    unfold expandAt
    split
    · exact .spec _
    · cases places with
      | nil => exact .ok []
      | cons place around => exact neverMissing_expandEntries (ih _) _ _

theorem neverMissing_expandCopy (limit : Int) (places : List Place) :
    NeverMissing (expandCopy limit places) := by
  unfold expandCopy
  split
  · exact .spec _
  · exact .ok _
  · exact neverMissing_expandEntries (neverMissing_expandAt limit _ _) _ _

end Include

theorem QuerySpec.neverMissing_make (around : List Place) (filters order tree : Value) :
    NeverMissing (make around filters order tree) := by
  unfold make
  dsimp only
  split
  · exact .ok _
  · exact .invalid _

theorem QuerySpec.neverMissing_compile (s : Settings) (m : Membership) (q : QuerySpec) :
    NeverMissing (q.compile s m) := by
  refine .bind (Filter.neverMissing_compile m q.filters) fun filter =>
    .bind (.mapError .misuse _) fun order => ?_
  cases q.tree with
  | none => exact .ok _
  | some places => exact .bind (.map (Include.neverMissing_expandCopy ..) _) fun _ => .ok _

/-! ### Resolving -/

theorem Entity.neverMissing_columnOf (e : Entity) (name : Value) :
    NeverMissing (e.columnOf name) := by
  unfold columnOf
  split
  · exact .misuse _
  · split
    · split
      · exact .ok _
      · exact .spec _
    · exact .spec _

theorem Entity.neverMissing_relationOf (e : Entity) (name : Value) :
    NeverMissing (e.relationOf name) := by
  unfold relationOf
  split
  · exact .misuse _
  · split
    · split
      · exact .ok _
      · exact .spec _
    · exact .spec _

namespace Criteria

theorem neverMissing_noList (v : Value) : NeverMissing (.error (noList v) : Except Failure α) := by
  unfold noList
  split
  · exact .store _
  · exact .misuse _

theorem neverMissing_listItems (v : Value) : NeverMissing (listItems v) := by
  unfold listItems
  split
  · exact neverMissing_noList _
  · exact neverMissing_noList _
  · split
    · exact .ok _
    · exact neverMissing_noList _

theorem neverMissing_ordering (c : Column) (comparison : Comparison) (v : Value) :
    NeverMissing (ordering c comparison v) := by
  unfold ordering
  split
  · exact .store _
  · exact .store _
  · exact .ok _

theorem neverMissing_operator (c : Column) (name v : Value) :
    NeverMissing (operator c name v) := by
  unfold operator
  split
  · exact .bind (neverMissing_listItems v) fun _ => .ok _
  · split
    · exact .bind (neverMissing_listItems v) fun _ => .ok _
    · split
      · exact .ok _
      · split
        · split
          · exact neverMissing_ordering ..
          · exact .spec _
        · exact .spec _

theorem neverMissing_ofColumn (c : Column) (condition : Value) :
    NeverMissing (ofColumn c condition) := by
  unfold ofColumn
  split
  · exact .mapM (fun e : Value × Value => neverMissing_operator c e.1 e.2) _
  · exact .ok _

mutual

theorem neverMissing_resolveEntries (e : Entity) :
    ∀ entries : List (Value × Value), NeverMissing (resolveEntries e entries)
  | [] => .ok []
  | (key, condition) :: rest => by
    have others (here : List (Criterion Operand)) : NeverMissing (do
        let others ← resolveEntries e rest
        return here ++ others) := .bind (neverMissing_resolveEntries e rest) fun _ => .ok _
    rw [resolveEntries]
    split
    · exact .bind (neverMissing_resolveRelation _ condition) others
    · exact .bind (.bind (e.neverMissing_columnOf key) fun c => neverMissing_ofColumn c condition)
        others

theorem neverMissing_resolveRelation (r : Relation) :
    ∀ condition : Value, NeverMissing (resolveRelation r condition)
  | .map entries => by
    rw [resolveRelation]
    split
    · exact neverMissing_resolveQuantified r entries
    · exact .spec _
  | .null | .bool _ | .int _ | .float _ | .str _ | .list _ | .tuple _ | .decimal _ | .uuid _
  | .datetime _ | .date _ | .bytes _ | .object | .model .. | .up _ => by
    simp only [resolveRelation]
    exact .spec _

theorem neverMissing_resolveQuantified (r : Relation) :
    ∀ entries : List (Value × Value), NeverMissing (resolveQuantified r entries)
  | [] => .ok []
  | (quantifier, condition) :: rest => by
    rw [resolveQuantified]
    exact .bind (neverMissing_resolveCondition r.target condition) fun _ =>
      .bind (neverMissing_resolveQuantified r rest) fun _ => .ok _

theorem neverMissing_resolveCondition (e : Entity) :
    ∀ condition : Value, NeverMissing (resolveCondition e condition)
  | .map entries => by
    rw [resolveCondition]
    exact neverMissing_resolveEntries e entries
  | .null | .bool _ | .int _ | .float _ | .str _ | .list _ | .tuple _ | .decimal _ | .uuid _
  | .datetime _ | .date _ | .bytes _ | .object | .model .. | .up _ => by
    simp only [resolveCondition]
    split
    · exact .misuse _
    · exact .ok _

end

end Criteria

namespace LoadPlan

theorem neverMissing_projection (e : Entity) (listed : Value) :
    NeverMissing (projection e listed) := by
  unfold projection
  split
  · exact .misuse _
  · exact .mapM (fun name => .map (e.neverMissing_columnOf name) _) _

mutual

theorem neverMissing_resolveEntries (e : Entity) :
    ∀ entries : List (Value × Value), NeverMissing (resolveEntries e entries)
  | [] => .ok []
  | (name, spec) :: rest => by
    rw [resolveEntries]
    exact .bind (e.neverMissing_relationOf name) fun r =>
      .bind (neverMissing_resolveSpec r.target spec) fun _ =>
        .bind (neverMissing_resolveEntries e rest) fun _ => .ok _

theorem neverMissing_resolveSpec (e : Entity) :
    ∀ spec : Value, NeverMissing (resolveSpec e spec)
  | .map entries => by
    rw [resolveSpec]
    split
    · exact .map (neverMissing_projection ..) _
    · split
      · exact .map (neverMissing_resolveUnder e entries) _
      · exact .map (neverMissing_resolveEntries e entries) _
  | .null | .bool _ | .int _ | .float _ | .str _ | .list _ | .tuple _ | .decimal _ | .uuid _
  | .datetime _ | .date _ | .bytes _ | .object | .model .. | .up _ => by
    simp only [resolveSpec]
    exact .ok _

theorem neverMissing_resolveUnder (e : Entity) :
    ∀ entries : List (Value × Value), NeverMissing (resolveUnder e entries)
  | [] => .ok []
  | (name, spec) :: rest => by
    rw [resolveUnder]
    split
    · exact neverMissing_resolveTree e spec
    · exact neverMissing_resolveUnder e rest

theorem neverMissing_resolveTree (e : Entity) :
    ∀ tree : Value, NeverMissing (resolveTree e tree)
  | .map entries => by
    rw [resolveTree]
    exact neverMissing_resolveEntries e entries
  | .null | .bool _ | .int _ | .float _ | .str _ | .list _ | .tuple _ | .decimal _ | .uuid _
  | .datetime _ | .date _ | .bytes _ | .object | .model .. | .up _ => by
    simp only [resolveTree]
    exact .misuse _

end

end LoadPlan

theorem Select.neverMissing_build (e : Entity) (q : CompiledQuery) :
    NeverMissing (Select.build e q) :=
  .bind (Criteria.neverMissing_resolveEntries e q.filter) fun _ =>
    .bind (.mapM (fun t : Value × Direction => .map (e.neverMissing_columnOf t.1) _) _) fun _ =>
      .bind (.map (LoadPlan.neverMissing_resolveEntries ..) _) fun _ => .ok _

/-! ### Running -/

theorem Session.neverMissing_queryGuard (s : Session) : NeverMissing s.queryGuard := by
  unfold queryGuard
  split
  · exact .ok _
  · split <;> exact .session _
  · exact .session _

namespace Criteria

mutual

theorem neverMissing_mapOperands {α β : Type} {f : α → Except Failure β}
    (h : ∀ a, NeverMissing (f a)) : ∀ c : Criterion α, NeverMissing (mapOperands f c)
  | .absent .. => by
    rw [mapOperands]
    exact .ok _
  | .compare _ _ operand => by
    rw [mapOperands]
    exact .map (h operand) _
  | .within _ _ operands => by
    rw [mapOperands]
    exact .map (.mapM h operands) _
  | .related _ _ criteria => by
    rw [mapOperands]
    exact .map (neverMissing_mapAll h criteria) _

theorem neverMissing_mapAll {α β : Type} {f : α → Except Failure β}
    (h : ∀ a, NeverMissing (f a)) : ∀ cs : List (Criterion α), NeverMissing (mapAll f cs)
  | [] => .ok []
  | c :: cs => by
    rw [mapAll]
    exact .bind (neverMissing_mapOperands h c) fun _ =>
      .bind (neverMissing_mapAll h cs) fun _ => .ok _

end

theorem neverMissing_bind (criteria : List (Criterion Operand)) :
    NeverMissing (Criteria.bind criteria) := by
  refine .bind (neverMissing_mapAll (fun operand => .mapError (fun _ => .store _) _) criteria)
    fun processed => neverMissing_mapAll (fun parameter => ?_) processed
  cases parameter with
  | bound datum => exact .ok datum
  | unsupported kind => exact .store _
  | oversized => exact .store _

end Criteria

/-! ### Looking records up -/

namespace Repository

theorem neverMissing_compile (r : Repository) (s : Settings) (filters order tree : Value) :
    NeverMissing (r.compile s filters order tree) := by
  refine .bind (.mapError .misuse _) fun filters => .bind (.mapError .misuse _) fun order => ?_
  have rest (tree : Value) : NeverMissing (do
      let spec ← QuerySpec.make [] (.map filters) (.map order) tree
      spec.compile s r.membership) :=
    .bind (QuerySpec.neverMissing_make ..) fun q => q.neverMissing_compile ..
  dsimp only
  split
  · exact rest _
  · exact .bind (.map (.mapError .misuse _) _) rest

/-- The look-up of one record does not fail for want of it: it comes to an envelope that says so. -/
theorem neverMissing_first (r : Repository) (c : Context) (s : Session) (filters tree : Value) :
    NeverMissing (r.first c s filters tree) := by
  refine .bind (r.neverMissing_compile ..) fun q => .bind (Select.neverMissing_build ..) fun st =>
    .bind s.neverMissing_queryGuard fun _ =>
      .bind (.bind (Criteria.neverMissing_bind st.criteria) fun _ => .ok _) fun found => ?_
  split <;> exact .ok _

end Repository

end Recordbook

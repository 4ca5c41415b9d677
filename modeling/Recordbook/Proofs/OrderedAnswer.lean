import Recordbook.Proofs.AddressedRow
import Recordbook.Proofs.SortedRows
import Recordbook.Proofs.Writable

/-!
# What an order changes

A call that fetches records may be given an order. The order takes no part in the choice of the
records or in what is loaded along with them: it is validated beside the filter and the include and
compiled apart from both, and all that it adds to the statement are sort keys. So the answer is the
one without the order, put into another sequence.

Directions are not validated at all. Whatever is given as one is written, and only its text is
looked at. So a direction with an integer in it that is too long to be written makes the call fail,
whatever it would have been answered otherwise. No other direction does. References in a direction
are followed before it is written, which changes the text of one that is made of other values but
never makes it descending: such a text has a bracket or an equals sign in it, or is empty.

## Main definitions

* `Order.asked` — an order of columns as a call gives it
* `Order.IsWritable` — the directions of an order can be written

## Main results

* `Value.isDescending_unfold` — following references leaves a direction what it was
* `LoadPlan.present_perm` — in another sequence, the same is shown of each record
* `Repository.compile_asked`, `Repository.build_asked` — what an order adds to query and statement
* `Repository.isWritable_of_compile` — no query is made of an order that cannot be written
* `order_only_sorts` — an order that can be written sorts the answer and changes nothing else
-/

namespace Recordbook

/-! ### Directions -/

namespace Text

/-- A character without another case is there in lower case too. -/
theorem mem_lower {c : Char} (plain : lowerChar c = [c]) (sigma : c.toNat ≠ 0x3a3) {s : String}
    (h : c ∈ s.toList) : c ∈ (lower s).toList := by
  have from_ (before cs : List Char) (h : c ∈ cs) : c ∈ lowerFrom before cs := by
    induction cs generalizing before with
    | nil => cases h
    | cons d cs ih =>
      rw [lowerFrom, List.mem_append]
      rcases List.mem_cons.mp h with rfl | h
      · rw [if_neg sigma, plain]
        exact .inl List.mem_cons_self
      · exact .inr (ih _ h)
  rw [lower, String.toList_ofList]
  exact from_ [] s.toList h

end Text

theorem mem_joinTexts {c : Char} {separator part : String} (rest : List String)
    (h : c ∈ part.toList) : c ∈ (joinTexts separator (part :: rest)).toList := by
  cases rest with
  | nil => simpa [joinTexts] using h
  | cons next rest =>
    rw [joinTexts, String.intercalate_cons_cons, String.toList_append, String.toList_append]
    exact List.mem_append_left _ (List.mem_append_left _ h)

namespace Value

/-- The text of a field has an equals sign in it. -/
theorem mem_of_displayField? {given : Entries} {field shown : String}
    (h : displayField? (displayGiven given) field = some shown) : '=' ∈ shown.toList := by
  rw [displayField?_displayGiven] at h
  split at h
  · cases h
    simp
  · obtain ⟨text, -, rfl⟩ := Option.map_eq_some_iff.mp h
    simp

/-- The text of a value that is made of others is empty or has a character that is in no direction.
-/
theorem text_of_isComposite {v : Value} {text : String} (h : v.isComposite = true)
    (written : v.text? = some text) :
    text = "" ∨ ∃ c ∈ ['[', '(', '\x7b', '='], c ∈ text.toList := by
  cases v with
  | list items =>
    obtain ⟨parts, -, rfl⟩ := Option.map_eq_some_iff.mp written
    exact .inr ⟨'[', by decide, by simp⟩
  | tuple items =>
    obtain ⟨parts, -, rfl⟩ := Option.map_eq_some_iff.mp written
    refine .inr ⟨'(', by decide, ?_⟩
    split <;> simp
  | map entries =>
    obtain ⟨parts, -, rfl⟩ := Option.map_eq_some_iff.mp written
    exact .inr ⟨'\x7b', by decide, by simp⟩
  | up levels =>
    cases written
    exact .inr ⟨'\x7b', by decide, by simp⟩
  | model fields given =>
    obtain ⟨parts, shown, rfl⟩ := Option.map_eq_some_iff.mp written
    cases fields with
    | nil =>
      cases shown
      exact .inl rfl
    | cons name rest =>
      rw [List.mapM_cons] at shown
      obtain ⟨first, here, shown⟩ := Option.bind_eq_some_iff.mp shown
      obtain ⟨others, -, shown⟩ := Option.bind_eq_some_iff.mp shown
      cases shown
      exact .inr ⟨'=', by decide, mem_joinTexts _ (mem_of_displayField? here)⟩
  | _ => cases h

/-- So it is no descending direction. -/
theorem not_isDescending_of_isComposite {v : Value} (h : v.isComposite = true) :
    ¬ v.IsDescending := by
  rintro ⟨text, written, descending⟩
  rcases text_of_isComposite h written with rfl | ⟨c, hc, inText⟩
  · exact absurd descending (by decide)
  · have plain : Text.lowerChar c = [c] ∧ c.toNat ≠ 0x3a3 ∧ c ∉ "desc".toList := by
      simp only [List.mem_cons, List.not_mem_nil, or_false] at hc
      rcases hc with rfl | rfl | rfl | rfl <;> decide
    obtain ⟨same, sigma, foreign⟩ := plain
    have inLower := Text.mem_lower same sigma inText
    rw [descending] at inLower
    exact foreign inLower

/-- Following references in a direction does not change whether it is descending. -/
theorem isDescending_unfold {times : Nat} {around : List Entries} {v : Value} :
    (v.unfold times around).IsDescending ↔ v.IsDescending := by
  cases unfolded : (v.unfold times around).isComposite with
  | false => rw [eq_of_unfold unfolded]
  | true =>
    refine iff_of_false (not_isDescending_of_isComposite unfolded) ?_
    cases composite : v.isComposite with
    | true => exact not_isDescending_of_isComposite composite
    | false =>
      have same : v.unfold times around = v := by
        cases v <;> first | cases composite; done | simp [unfold, replaceReferences]
      rw [same, composite] at unfolded
      cases unfolded

end Value

/-! ### What is shown of records in another order -/

namespace LoadPlan

variable {s : Store} {all all' : List Load}

mutual

/-- What is shown of a record depends only on which columns were loaded. -/
theorem view_congr (loaded : ∀ e key f, isLoaded all e key f = isLoaded all' e key f) (e : Entity)
    (row : Row) : (plan : LoadPlan) → view s all e row plan = view s all' e row plan
  | .whole branches => by
    rw [view, view, shownColumns, shownColumns, viewAlong_congr loaded row branches]
    simp only [loaded]
  | .columns fields => by
    rw [view, view, shownColumns, shownColumns]
    simp only [loaded]

theorem viewAlong_congr (loaded : ∀ e key f, isLoaded all e key f = isLoaded all' e key f)
    (row : Row) : (branches : List (Relation × LoadPlan)) →
      viewAlong s all row branches = viewAlong s all' row branches
  | [] => by rw [viewAlong, viewAlong]
  | (r, plan) :: rest => by
    rw [viewAlong, viewAlong, viewAlong_congr loaded row rest]
    have same (other : Row) : view s all r.target other plan = view s all' r.target other plan :=
      view_congr loaded r.target other plan
    simp only [same]

end

/-- In another order, the same is shown of each record. -/
theorem present_perm (s : Store) (e : Entity) (plan : LoadPlan) {rows rows' : List Row}
    (h : rows.Perm rows') : (present s e plan rows).Perm (present s e plan rows') := by
  have loads := h.flatMap_right fun row => plan.loads s e row
  have loaded (e' : Entity) (key : Cell) (f : Field) :
      isLoaded (rows.flatMap fun row => plan.loads s e row) e' key f =
        isLoaded (rows'.flatMap fun row => plan.loads s e row) e' key f := by
    rw [isLoaded, isLoaded, loads.any_eq]
  have same (row : Row) := view_congr (s := s) loaded e row plan
  rw [present, present]
  simp only [same]
  exact h.map _

end LoadPlan

/-! ### Asking for an order -/

namespace Order

/-- An order, as a call gives it. -/
def asked (order : List (Field × Value)) : Value :=
  .map (Entries.named (order.map fun g => (g.1.label, g.2)))

/-- Every direction of an order can be written. -/
def IsWritable (order : List (Field × Value)) : Prop := ∀ g ∈ order, g.2.IsWritable

/-- The terms of an order. -/
def terms (order : List (Field × Value)) : OrderTerms :=
  order.map fun g => (.str g.1.label, Direction.orAscending g.2)

variable {order : List (Field × Value)}

/-- Directions that are compiled can be written. -/
theorem isWritable_of_compile {read : Entries} {compiled : OrderTerms}
    (h : compile read = .ok compiled) : ∀ e ∈ read, e.2.IsWritable := by
  intro e he
  obtain ⟨term, -, term_eq⟩ := (mem_of_mapM_eq_ok h).1 e he
  obtain ⟨direction, asked, -⟩ := map_eq_ok.mp term_eq
  rw [← Value.isSome_text?_iff]
  cases written : e.2.text? with
  | some text => rfl
  | none =>
    rw [Direction.ofValue, written] at asked
    cases asked

/-- An order is read as its terms if its directions can be written, and not compiled otherwise. -/
theorem read_asked (distinct : (order.map Prod.fst).Nodup) :
    ∃ read, textMapping ["order"] ((asked order).unfold 1 []) = .ok read ∧
      (IsWritable order → compile read = .ok (terms order)) ∧
      ∀ compiled, compile read = .ok compiled → IsWritable order := by
  have labels : ((order.map fun g => (g.1.label, g.2)).map Prod.fst).Nodup := by
    have names := distinct.map Field.label_injective
    rw [List.map_map] at names ⊢
    exact names
  have same (v : Value) (around : List Entries) :
      Direction.orAscending (v.unfold 1 around) = Direction.orAscending v := by
    by_cases descending : v.IsDescending
    · rw [Direction.orAscending_of_descending descending,
        Direction.orAscending_of_descending (Value.isDescending_unfold.mpr descending)]
    · rw [Direction.orAscending_of_not_descending descending,
        Direction.orAscending_of_not_descending (mt Value.isDescending_unfold.mp descending)]
  have followed := @Value.isWritable_unfold_iff 1 (order.map fun g => (g.1.label, g.2))
  simp only [List.forall_mem_map] at followed
  rw [asked, Value.unfold_named]
  refine ⟨_, textMapping_named ["order"] ?_, fun writable => ?_, fun compiled h => ?_⟩
  · rw [Entries.mapValues, List.map_map]
    exact labels
  · simp only [compile, terms, Entries.named, Entries.mapValues, List.mapM_map]
    refine mapM_eq_ok fun g hg => ?_
    have written := Value.isSome_text?_iff.mpr (followed.mpr writable g hg)
    rw [← same g.2 [Entries.named (order.map fun g => (g.1.label, g.2))]]
    exact congrArg (Except.map _) (Direction.ofValue_of_isSome written)
  · have written := isWritable_of_compile h
    simp only [Entries.named, Entries.mapValues, List.forall_mem_map] at written
    exact followed.mp written

/-- The terms of an order of columns are resolved. -/
theorem resolveTerms_terms {e : Entity} (columns : ∀ g ∈ order, ∃ c ∈ e.columns, c.field = g.1) :
    Select.resolveTerms e (terms order) = .ok (sortKeys order) := by
  rw [Select.resolveTerms, terms, List.mapM_map]
  refine mapM_eq_ok fun g hg => ?_
  obtain ⟨c, hc, field⟩ := columns g hg
  have named : e.columnOf (.str g.1.label) = .ok c := by
    rw [← field]
    simp [Entity.columnOf, Value.keyProblem?, e.column?_label c hc]
  rw [Function.comp_apply, named, ← field]
  rfl

end Order

/-! ### Calls with an order -/

namespace Repository

variable {r : Repository} {c : Context} {s : Session} {order : List (Field × Value)}

/-- An order is validated beside a filter and an include without a change to either. -/
theorem make_asked {read : Entries} (filters tree : Value)
    (hr : textMapping ["order"] ((Order.asked order).unfold 1 []) = .ok read) :
    QuerySpec.make [] filters (Order.asked order) tree =
      (QuerySpec.make [] filters (.map []) tree).map fun spec => { spec with order := read } := by
  have none : textMapping ["order"] ((Value.map []).unfold 1 []) = .ok [] := rfl
  simp only [QuerySpec.make, List.map_nil, hr, none]
  cases textMapping ["filters"] (Filter.unfolded [] filters) <;>
    cases QuerySpec.validTree [] tree <;> rfl

/-- An order that is compiled is so beside a filter and an include without a change to either. -/
theorem compile_spec_order (settings : Settings) (m : Membership) {spec : QuerySpec}
    (unordered : spec.order = []) {read : Entries} {terms : OrderTerms}
    (compiled : Order.compile read = .ok terms) :
    QuerySpec.compile settings m { spec with order := read } =
      (spec.compile settings m).map fun q => { q with order := terms } := by
  obtain ⟨filters, order, tree⟩ := spec
  cases unordered
  simp only [QuerySpec.compile, compiled, Order.compile_nil]
  cases Filter.compile m filters with
  | error f => rfl
  | ok filter =>
    cases tree with
    | none => rfl
    | some places =>
      cases hp : Include.expandCopy settings.includeMaxDepth places <;> simp [hp] <;> rfl

/-- The steps by which a query is made, once the order is read as a mapping. -/
theorem compile_of_order {given : Value} {entries : Entries}
    (h : given.asEntriesOrEmpty = .ok entries) (settings : Settings) (filters tree : Value) :
    r.compile settings filters given tree =
      filters.asEntriesOrEmpty.mapError Failure.misuse >>= fun filters =>
        r.askedTree tree >>= fun tree =>
          QuerySpec.make [] (.map filters) (.map entries) tree >>= fun spec =>
            spec.compile settings r.membership := by
  rw [compile, h]
  cases filters.asEntriesOrEmpty with
  | error m => rfl
  | ok filters => cases tree <;> rfl

/-- An order that can be written adds its terms to the compiled query, and nothing else. -/
theorem compile_asked (distinct : (order.map Prod.fst).Nodup) (writable : Order.IsWritable order)
    (settings : Settings) (filters tree : Value) :
    r.compile settings filters (Order.asked order) tree =
      (r.compile settings filters .null tree).map fun q =>
        { q with order := Order.terms order } := by
  obtain ⟨read, hr, terms, -⟩ := Order.read_asked distinct
  have given : (Order.asked order).asEntriesOrEmpty = .ok _ := asEntriesOrEmpty_map _
  have none : Value.null.asEntriesOrEmpty = .ok [] := rfl
  rw [compile_of_order given, compile_of_order none]
  cases filters.asEntriesOrEmpty with
  | error m => rfl
  | ok filters =>
    cases r.askedTree tree with
    | error f => rfl
    | ok tree =>
      change (QuerySpec.make [] (.map filters) (Order.asked order) tree >>= fun spec =>
          spec.compile settings r.membership) =
        (QuerySpec.make [] (.map filters) (.map []) tree >>= fun spec =>
          spec.compile settings r.membership).map _
      rw [make_asked _ _ hr]
      cases made : QuerySpec.make [] (.map filters) (.map []) tree with
      | error f => rfl
      | ok spec =>
        have unordered : Except.ok [] = Except.ok spec.order := (make_eq_ok.mp made).2.1
        change QuerySpec.compile settings r.membership { spec with order := read } = _
        rw [compile_spec_order settings r.membership (Except.ok.inj unordered).symm
          (terms writable)]
        rfl

/-- The order of a compiled query is compiled from the order that was given. -/
theorem order_of_compile {settings : Settings} {filters given tree : Value} {entries : Entries}
    (h : given.asEntriesOrEmpty = .ok entries) {q : CompiledQuery}
    (hq : r.compile settings filters given tree = .ok q) :
    ∃ read, textMapping ["order"] ((Value.map entries).unfold 1 []) = .ok read ∧
      Order.compile read = .ok q.order := by
  rw [compile_of_order h] at hq
  obtain ⟨filters, -, hq⟩ := bind_eq_ok.mp hq
  obtain ⟨tree, -, hq⟩ := bind_eq_ok.mp hq
  obtain ⟨spec, made, hq⟩ := bind_eq_ok.mp hq
  exact ⟨spec.order, (make_eq_ok.mp made).2.1, (compile_spec_eq_ok.mp hq).2.1⟩

/-- No query is made of an order that cannot be written. -/
theorem isWritable_of_compile (distinct : (order.map Prod.fst).Nodup) {settings : Settings}
    {filters tree : Value} {q : CompiledQuery}
    (h : r.compile settings filters (Order.asked order) tree = .ok q) :
    Order.IsWritable order := by
  obtain ⟨read, hr, -, writable⟩ := Order.read_asked distinct
  obtain ⟨read', hr', compiled⟩ := order_of_compile (asEntriesOrEmpty_map _) h
  cases hr.symm.trans hr'
  exact writable _ compiled

/-- A query is compiled without an order if none is given. -/
theorem order_of_compile_null {settings : Settings} {filters tree : Value} {q : CompiledQuery}
    (h : r.compile settings filters .null tree = .ok q) : q.order = [] := by
  obtain ⟨read, hr, compiled⟩ := order_of_compile rfl h
  have unordered : Except.ok [] = Except.ok read := hr
  cases unordered
  exact (Except.ok.inj compiled).symm

/-- A statement is built with sort keys exactly if it is built without. -/
theorem build_asked {e : Entity} (columns : ∀ g ∈ order, ∃ c ∈ e.columns, c.field = g.1)
    {q : CompiledQuery} (hq : q.order = []) :
    Select.build e { q with order := Order.terms order } =
      (Select.build e q).map fun st => { st with sortKeys := Order.sortKeys order } := by
  obtain ⟨filter, terms, tree⟩ := q
  cases hq
  simp only [Select.build, Order.resolveTerms_terms columns]
  cases Criteria.resolve e filter with
  | error f => rfl
  | ok criteria =>
    change (LoadPlan.resolve e tree >>= fun plan => _) =
      (LoadPlan.resolve e tree >>= fun plan => _).map _
    cases LoadPlan.resolve e tree <;> rfl

/-- So is its statement. -/
theorem keys_of_build {e : Entity} {q : CompiledQuery} (hq : q.order = []) {st : Select}
    (h : Select.build e q = .ok st) : st.sortKeys = [] := by
  rw [Select.build, hq] at h
  obtain ⟨criteria, -, h⟩ := bind_eq_ok.mp h
  obtain ⟨keys, hk, h⟩ := bind_eq_ok.mp h
  obtain ⟨plan, -, h⟩ := bind_eq_ok.mp h
  cases hk
  cases pure_eq_ok.mp h
  rfl

/-- The records that a query selects, as an answer. -/
def answered (r : Repository) (s : Session) (q : CompiledQuery) : Except Failure Reply := do
  let (st, found) ← r.select s q
  return Envelope.success (.records (st.present s.working found)) 200

/-- The answer of records that meet criteria, sorted. -/
def sortedReply (r : Repository) (s : Session) (branches : List (Relation × LoadPlan))
    (bound : List (Criterion Datum)) (keys : List (Field × Direction)) : Reply :=
  Envelope.success (.records (LoadPlan.present s.working r.entity (.whole branches)
    (Select.rows s.working r.entity bound keys))) 200

/-- With an order a query fails as it does without, or is answered with the same records sorted. -/
theorem answered_asked (columns : ∀ g ∈ order, ∃ c ∈ r.entity.columns, c.field = g.1)
    {q : CompiledQuery} (hq : q.order = []) :
    (∃ f, r.answered s q = .error f ∧
      r.answered s { q with order := Order.terms order } = .error f) ∨
    ∃ branches bound, r.answered s q = .ok (r.sortedReply s branches bound []) ∧
      r.answered s { q with order := Order.terms order } =
        .ok (r.sortedReply s branches bound (Order.sortKeys order)) := by
  simp only [answered, select, build_asked columns hq]
  cases hst : Select.build r.entity q with
  | error f => exact .inl ⟨f, rfl, rfl⟩
  | ok st =>
    obtain ⟨criteria, keys, branches, hc, rfl⟩ := build_ok hst
    obtain rfl : keys = [] := keys_of_build hq hst
    cases s.queryGuard with
    | error f => exact .inl ⟨f, rfl, rfl⟩
    | ok ready =>
      have run (keys : List (Field × Direction)) :
          Select.run ⟨r.entity, criteria, keys, .whole branches⟩ s.working =
            (Criteria.bind criteria).map fun bound =>
              Select.rows s.working r.entity bound keys := by
        rw [Select.run]
        cases Criteria.bind criteria <;> rfl
      simp only [bind, Except.bind, Except.map, run]
      cases Criteria.bind criteria with
      | error f => exact .inl ⟨f, rfl, rfl⟩
      | ok bound => exact .inr ⟨branches, bound, rfl, rfl⟩

theorem all_eq (filters order tree : Value) :
    r.all c s filters order tree = r.compile c.settings filters order tree >>= r.answered s := rfl

/-- With an order that can be written a call fails as it does without, or answers with the same
records sorted. -/
theorem all_asked (columns : ∀ g ∈ order, ∃ c ∈ r.entity.columns, c.field = g.1)
    (distinct : (order.map Prod.fst).Nodup) (writable : Order.IsWritable order)
    (filters tree : Value) :
    (∃ f, r.all c s filters .null tree = .error f ∧
      r.all c s filters (Order.asked order) tree = .error f) ∨
    ∃ branches bound, r.all c s filters .null tree = .ok (r.sortedReply s branches bound []) ∧
      r.all c s filters (Order.asked order) tree =
        .ok (r.sortedReply s branches bound (Order.sortKeys order)) := by
  simp only [all_eq, compile_asked distinct writable]
  cases hq : r.compile c.settings filters .null tree with
  | error f => exact .inl ⟨f, rfl, rfl⟩
  | ok q => exact answered_asked columns (order_of_compile_null hq)

/-- With any other order a call fails. -/
theorem all_unwritable (distinct : (order.map Prod.fst).Nodup)
    (unwritable : ¬ Order.IsWritable order) (filters tree : Value) :
    ∃ f, r.all c s filters (Order.asked order) tree = .error f := by
  rw [all_eq]
  cases hq : r.compile c.settings filters (Order.asked order) tree with
  | error f => exact ⟨f, rfl⟩
  | ok q => exact absurd (isWritable_of_compile distinct hq) unwritable

end Repository

/-- **An order sorts and changes nothing else.** An order names columns, each with a direction. If
the directions can be written, a call with the order fails exactly where the call without it does,
in the same way. Where both answer, the one with the order shows the same records of the table, and
none of them precedes one before it. If a direction cannot be written the call fails. -/
theorem order_only_sorts (r : Repository) (c : Context) (s : Session) (filters tree : Value)
    (order : List (Field × Value))
    (columns : ∀ g ∈ order, ∃ column ∈ r.entity.columns, column.field = g.1)
    (distinct : (order.map Prod.fst).Nodup)
    (typed : ∀ row ∈ s.working.rows r.entity, row.Typed r.entity) :
    let plain := (r.get c s filters .null tree).1
    let sorted := (r.get c s filters (Order.asked order) tree).1
    (Order.IsWritable order →
      (plain.isSuccess = false → sorted = plain) ∧
      (plain.isSuccess = true → ∃ rows shown shown',
        plain = Envelope.success (.records shown) 200 ∧
        sorted = Envelope.success (.records shown') 200 ∧ shown'.Perm shown ∧
        rows.Subperm (s.working.rows r.entity) ∧
        List.Forall₂ (Loaded.Shows r.entity) rows shown' ∧
        rows.Pairwise fun a b => ¬ Row.Precedes order b a)) ∧
    (¬ Order.IsWritable order → sorted.isSuccess = false) := by
  intro plain sorted
  constructor
  · intro writable
    rcases r.all_asked columns distinct writable filters tree with
      ⟨f, unordered, ordered⟩ | ⟨branches, bound, unordered, ordered⟩
    · have hp : plain = Envelope.failure .nothing f.toFault.kind
          (r.failureMessage ⟨"fetching", true, "get"⟩ f) :=
        congrArg (fun result => (r.report _ [filters, .null, tree] result).1) unordered
      have hs : sorted = Envelope.failure .nothing f.toFault.kind
          (r.failureMessage ⟨"fetching", true, "get"⟩ f) :=
        congrArg (fun result => (r.report _ [filters, Order.asked order, tree] result).1) ordered
      refine ⟨fun _ => hs.trans hp.symm, fun success => ?_⟩
      rw [hp] at success
      cases success
    · have hp : plain = r.sortedReply s branches bound [] := Repository.report_of_ok unordered
      have hs : sorted = r.sortedReply s branches bound (Order.sortKeys order) :=
        Repository.report_of_ok ordered
      refine ⟨fun failed => ?_, fun _ => ?_⟩
      · rw [hp] at failed
        cases failed
      · have perm : (Select.rows s.working r.entity bound (Order.sortKeys order)).Perm
            (Select.rows s.working r.entity bound []) :=
          (Select.rows_perm ..).trans (Select.rows_perm ..).symm
        exact ⟨_, _, _, hp, hs, LoadPlan.present_perm s.working r.entity _ perm,
          Select.rows_subperm .., LoadPlan.shows_present ..,
          Select.pairwise_rows typed columns bound⟩
  · intro unwritable
    obtain ⟨f, ordered⟩ := r.all_unwritable distinct unwritable filters tree
    exact (r.isSuccess_report _ _ _).trans (congrArg Repository.succeeded ordered)

/-- The users of the sample store by last name and, where that is the same, the newest first. Two of
them share a last name. -/
theorem order_only_sorts_sample :
    let c : Context := Script.context {} 1
    let s := Session.start Sample.store false
    let r := Repository.standard c.settings .user
    let order : List (Field × Value) := [(.lastName, .bool true), (.createdAt, .str "DESC")]
    let plain := (r.get c s .null .null .null).1
    let sorted := (r.get c s .null (Order.asked order) .null).1
    (∀ g ∈ order, ∃ column ∈ r.entity.columns, column.field = g.1) ∧
      (order.map Prod.fst).Nodup ∧ (∀ row ∈ s.working.rows r.entity, row.Typed r.entity) ∧
      Order.IsWritable order ∧ plain.isSuccess = true ∧ ∃ rows shown shown',
        plain = Envelope.success (.records shown) 200 ∧
        sorted = Envelope.success (.records shown') 200 ∧ shown'.Perm shown ∧
        rows.Subperm (s.working.rows r.entity) ∧
        List.Forall₂ (Loaded.Shows r.entity) rows shown' ∧
        rows.Pairwise fun a b => ¬ Row.Precedes order b a := by
  intro c s r order plain sorted
  have columns : ∀ g ∈ order, ∃ column ∈ r.entity.columns, column.field = g.1 := by decide
  have distinct : (order.map Prod.fst).Nodup := by decide
  have typed : ∀ row ∈ s.working.rows r.entity, row.Typed r.entity := Sample.typed_store .user
  have writable : Order.IsWritable order := by
    intro g hg
    rw [← Value.isSome_text?_iff]
    revert g
    decide
  have success : plain.isSuccess = true := by rfl
  exact ⟨columns, distinct, typed, writable, success,
    ((order_only_sorts r c s .null .null order columns distinct typed).1 writable).2 success⟩

/-- The users of the sample store can be fetched, and not by last name in a direction that is an
integer too long to be written. -/
theorem order_unwritable_sample :
    let c : Context := Script.context {} 1
    let s := Session.start Sample.store false
    let r := Repository.standard c.settings .user
    let order : List (Field × Value) := [(.lastName, .int (10 ^ digitLimit : Nat))]
    (∀ g ∈ order, ∃ column ∈ r.entity.columns, column.field = g.1) ∧
      (r.get c s .null .null .null).1.isSuccess = true ∧
      (r.get c s .null (Order.asked order) .null).1.isSuccess = false := by
  refine ⟨by decide, by rfl, by decide +kernel⟩

end Recordbook

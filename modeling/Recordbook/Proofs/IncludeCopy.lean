import Recordbook.Proofs.IncludeOutcome
import Recordbook.Proofs.IncludeReferences
import Recordbook.Query.Compiled

/-!
# The include of a query

A query validates its include by copying the outermost mapping, and it is the copy that is expanded.
References back lead to the mapping itself and never to the copy. So where an include goes round
through its outermost mapping, this mapping is entered once more before it is met again.

Nothing comes of the round. The entries in front of the one through which the include goes round
were expanded already, with more levels and inside of fewer mappings, so now they are expanded again
or refused; and that entry leads to a mapping that is being expanded. So the query is refused where
the include is, though perhaps for the levels that it takes to get there.

## Implementation notes

In a query the include is an entry of another mapping, which changes the position of everything in
it. Changing positions alone has no effect, as long as every reference leads to a mapping of the
include.

## Main definitions

* `Include.copied` — the outermost mapping of an include where a query has it
* `Include.relocate` — mappings of an include where a query has them

## Main results

* `Include.indexedCopy_named` — the copy of a mapping has its entries
* `Include.expandAt_relocate` — a mapping is expanded alike wherever it is
* `Include.follows_of_round` — what comes of entering the outermost mapping once more
* `compiled_as_expanded` — a query accepts an include exactly if it can be expanded by itself
-/

namespace Recordbook

namespace Include

/-! ### The copy -/

/-- The name of an entry tells its place. -/
theorem lastIndexOf_named {given : List (String × Value)} (distinct : (given.map Prod.fst).Nodup)
    {name : String} {v : Value} {index : Nat}
    (h : ((.str name, v), index) ∈ (Entries.named given).zipIdx) :
    lastIndexOf (Entries.named given) (.str name) = index := by
  have nameAt {key w : Value} {i : Nat} (h : ((key, w), i) ∈ (Entries.named given).zipIdx) :
      ∃ n, key = .str n ∧ (given.map Prod.fst)[i]? = some n := by
    have entry := List.mem_zipIdx_iff_getElem?.mp h
    rw [Entries.named, List.getElem?_map] at entry
    obtain ⟨g, hg, same⟩ := Option.map_eq_some_iff.mp entry
    cases same
    exact ⟨g.1, rfl, by rw [List.getElem?_map, hg]; rfl⟩
  rw [lastIndexOf]
  generalize hn : (Entries.named given).zipIdx.filter _ = named
  have mem : ((.str name, v), index) ∈ named := by
    rw [← hn, List.mem_filter]
    exact ⟨h, by simp [Value.asText]⟩
  obtain ⟨⟨⟨key, w⟩, i⟩, last⟩ :=
    Option.ne_none_iff_exists'.mp (mt List.getLast?_eq_none_iff.mp (List.ne_nil_of_mem mem))
  rw [last]
  have found := List.mem_of_getLast? last
  rw [← hn, List.mem_filter] at found
  obtain ⟨n, rfl, hi⟩ := nameAt found.1
  obtain ⟨_, same, hindex⟩ := nameAt h
  cases same
  have text : name = n := by simpa [Value.asText] using found.2
  rw [← text] at hi
  exact (List.getElem?_inj (List.getElem?_eq_some_iff.mp hi).1 distinct).mp (hi.trans hindex.symm)

/-- The copy of a mapping from distinct texts has its entries. -/
theorem indexedCopy_named {given : List (String × Value)} (distinct : (given.map Prod.fst).Nodup) :
    indexedCopy (Entries.named given) = indexed (Entries.named given) := by
  rw [indexedCopy, textKeyed_named distinct, indexed]
  refine List.ext_getElem? fun i => ?_
  rw [List.getElem?_map, List.getElem?_map, List.getElem?_zipIdx]
  cases h : (Entries.named given)[i]? with
  | none => rfl
  | some e =>
    have entry := h
    rw [Entries.named, List.getElem?_map] at entry
    obtain ⟨g, -, rfl⟩ := Option.map_eq_some_iff.mp entry
    have place := lastIndexOf_named distinct (List.mem_zipIdx_iff_getElem?.mpr h)
    simp [place]

/-! ### Elsewhere -/

/-- Mappings of an include as those of an include that is the first entry of another mapping. -/
def relocate (outer : Place) (p : List Place) : List Place :=
  p.map (fun place => ⟨place.position ++ [0], place.entries⟩) ++ [outer]

section relocate

variable {outer : Place} {p : List Place}

theorem positionOf_relocate (h : p ≠ []) : positionOf (relocate outer p) = positionOf p ++ [0] := by
  cases p with
  | nil => exact absurd rfl h
  | cons place around => rfl

theorem entriesOf_relocate (h : p ≠ []) : entriesOf (relocate outer p) = entriesOf p := by
  cases p with
  | nil => exact absurd rfl h
  | cons place around => rfl

theorem relocate_drop (outer : Place) {n : Nat} (h : n ≤ p.length) :
    (relocate outer p).drop n = relocate outer (p.drop n) := by
  rw [relocate, List.drop_append_of_le_length (by rwa [List.length_map]), ← List.map_drop, relocate]

/-- As long as every reference leads to a mapping of the include, so do the entries elsewhere. -/
theorem coherent_relocate (outer : Place) :
    Coherent fun p q => q = relocate outer p ∧ p ≠ [] ∧ Closed p where
  entries := by
    rintro p _ ⟨rfl, ne, -⟩
    exact (entriesOf_relocate ne).symm
  enter := by
    rintro p _ ⟨rfl, ne, closed⟩ index key v entry
    have kept := (kept_allReferences _).enter closed index key v entry
    cases v with
    | map entries =>
      refine .some ⟨?_, List.cons_ne_nil _ _, kept _ rfl⟩
      rw [positionOf_relocate ne]
      rfl
    | up levels =>
      have value := closed.of_entry entry
      have inside : levels ≤ p.length := by simpa [Value.allReferences] using value
      have pos := List.length_pos_iff.mpr ne
      have ne' : p.drop (levels - 1) ≠ [] := by
        rw [List.ne_nil_iff_length_pos, List.length_drop]
        omega
      have elsewhere := relocate_drop outer (show levels - 1 ≤ p.length by omega)
      have ne'' : (relocate outer p).drop (levels - 1) ≠ [] := by
        rw [elsewhere]
        simp [relocate]
      rw [enter?_up index ne', enter?_up index ne'', elsewhere]
      exact .some ⟨rfl, ne', kept _ (enter?_up index ne')⟩
    | _ => exact .none
  fresh := by
    rintro p _ ⟨rfl, ne, closed⟩
    refine ⟨?_, List.cons_ne_nil _ _, (kept_allReferences _).fresh closed⟩
    rw [freshPlaces, entriesOf_relocate ne, positionOf_relocate ne]
    rfl

/-- Entries are expanded alike elsewhere, if the mappings that they lead to are. -/
theorem expandEntries_relocate {next next' : List Place → Except Failure Entries}
    (below : ∀ q, q ≠ [] → Closed q → next' (relocate outer q) = next q) (ne : p ≠ [])
    (closed : Closed p) :
    expandEntries next' (relocate outer p) (indexed (entriesOf p)) =
      expandEntries next p (indexed (entriesOf p)) := by
  have alike := (coherent_relocate outer).readAlike_indexed ⟨rfl, ne, closed⟩
  rw [entriesOf_relocate ne] at alike
  refine (eq_of_follows (Follows.expandEntries (fun q q' h => ?_) alike)).symm
  obtain ⟨rfl, ne, closed⟩ := h
  rw [below q ne closed]
  exact .same _

theorem positionOf_relocate_mem (ne : p ≠ []) {path : List (List Nat)} :
    positionOf (relocate outer p) ∈ path.map (· ++ [0]) ↔ positionOf p ∈ path := by
  rw [positionOf_relocate ne]
  exact List.mem_map_of_injective (List.append_left_injective [0])

/-- **A mapping is expanded alike wherever it is.** -/
theorem expandAt_relocate (outer : Place) {limit : Int} {levels : Nat} (path : List (List Nat))
    (ne : p ≠ []) (closed : Closed p) :
    expandAt limit levels (path.map (· ++ [0])) (relocate outer p) =
      expandAt limit levels path p := by
  induction levels generalizing path p with
  | zero =>
    by_cases inside : positionOf p ∈ path
    · rw [expandAt_of_mem inside, expandAt_of_mem ((positionOf_relocate_mem ne).mpr inside)]
    · rw [expandAt_zero inside, expandAt_zero (mt (positionOf_relocate_mem ne).mp inside)]
  | succ levels ih =>
    by_cases inside : positionOf p ∈ path
    · rw [expandAt_of_mem inside, expandAt_of_mem ((positionOf_relocate_mem ne).mpr inside)]
    · rw [expandAt_succ inside, expandAt_succ (mt (positionOf_relocate_mem ne).mp inside),
        entriesOf_relocate ne, positionOf_relocate ne]
      exact expandEntries_relocate (fun q => ih (positionOf p :: path)) ne closed

end relocate

/-! ### One round more -/

/-- The mapping at hand is inside of the outermost mapping of an include, which alone has its
position. -/
def Rooted (entries : Entries) (p : List Place) : Prop :=
  ∃ upper, p = upper ++ root entries ∧ ∀ place ∈ upper, place.position ≠ []

/-- A failure that comes of one round more: the outermost mapping is refused where it is met again,
or else there is a refusal later. -/
def RoundLater (limit : Int) (f g : Failure) : Prop := f = .spec .cyclicInclude ∧ Refusal limit g

section round

variable {entries : Entries} {limit : Int} {levels : Nat}

theorem Rooted.eq_root {p : List Place} (h : Rooted entries p) (outermost : positionOf p = []) :
    p = root entries := by
  obtain ⟨upper, rfl, inner⟩ := h
  cases upper with
  | nil => rfl
  | cons place upper => exact absurd outermost (inner place List.mem_cons_self)

theorem kept_rooted (entries : Entries) : Kept (Rooted entries) where
  enter := by
    rintro p ⟨upper, rfl, inner⟩ index key v - q found
    have ne := enter?_ne_nil found
    rcases enter?_eq_some found with ⟨es, rfl, rfl⟩ | ⟨levels, rfl, rfl⟩
    · exact ⟨⟨_, es⟩ :: upper, rfl, List.forall_mem_cons.mpr ⟨List.cons_ne_nil _ _, inner⟩⟩
    · refine ⟨upper.drop (levels - 1), ?_, fun place h => inner place (List.mem_of_mem_drop h)⟩
      -- further up than the outermost mapping there is nothing that a reference could lead to
      refine List.drop_append_of_le_length ?_
      by_contra past
      refine ne (List.drop_eq_nil_of_le ?_)
      rw [List.length_append]
      exact Nat.lt_of_not_le past
  fresh := by
    rintro p ⟨upper, rfl, inner⟩
    refine ⟨_ :: upper, rfl, ?_⟩
    exact List.forall_mem_cons.mpr ⟨List.cons_ne_nil _ _, inner⟩

/-- The outermost mapping is refused if it is entered again inside of a mapping, with no more than
so many levels. -/
def RefusedInside (entries : Entries) (limit : Int) (levels : Nat) (first : List Place) : Prop :=
  ∀ fewer ≤ levels, ∀ path, positionOf first ∈ [] :: path →
    ∃ g, Refusal limit g ∧ expandAt limit fewer path (root entries) = .error g

/-- The outermost mapping is refused when it is entered again inside of a mapping that one of its
entries leads to, if the entries in front of that one were expanded. -/
theorem refusedInside_of_entry {front back : List IndexedEntry} {e : IndexedEntry}
    {first : List Place} (split : indexed entries = front ++ e :: back) {done : Entries}
    (before : expandEntries (expandAt limit levels [[]]) (root entries) front = .ok done)
    (leads : enteredBy? (root entries) e = some first) :
    RefusedInside entries limit levels first := by
  intro fewer le path inside
  by_cases again : positionOf (root entries) ∈ path
  · exact ⟨_, .inl rfl, expandAt_of_mem again⟩
  · cases fewer with
    | zero => exact ⟨_, .inr rfl, expandAt_zero again⟩
    | succ fewer =>
      -- those in front were expanded with more levels and inside of fewer mappings
      have tightened (q q' : List Place) (h : q = q') : Follows (Refusal limit) (fun _ _ => False)
          (expandAt limit levels [[]] q) (expandAt limit fewer ([] :: path) q') := by
        rw [h]
        exact expandAt_tightened (Nat.le_of_succ_le le)
          (List.cons_subset_cons _ (List.nil_subset path)) q'
      have alike : List.Forall₂ (ReadAlike Eq (root entries) (root entries)) front front :=
        List.forall₂_same.mpr fun d _ => (readAlike_self _ d).mono fun _ _ h => h.1
      -- and this one leads to a mapping that is being expanded
      have stops : expandEntries (expandAt limit fewer ([] :: path)) (root entries) (e :: back) =
          .error (.spec .cyclicInclude) := by
        rw [expandEntries, expandEntry_of_enteredBy? _ leads (expandAt_of_mem inside)]
        rfl
      have refused : ∃ g, Refusal limit g ∧
          expandEntries (expandAt limit fewer ([] :: path)) (root entries)
            (front ++ e :: back) = .error g := by
        rw [expandEntries_append, stops]
        have follows := Follows.expandEntries tightened alike
        rw [before] at follows
        generalize expandEntries (expandAt limit fewer ([] :: path)) (root entries) front = y
          at follows
        cases follows with
        | same => exact ⟨_, .inl rfl, rfl⟩
        | any refusal => exact ⟨_, refusal, rfl⟩
      rw [expandAt_succ again]
      change ∃ g, _ ∧ expandEntries _ _ (indexed entries) = _
      rw [split]
      exact refused

section follows

variable {first p : List Place} {path path' : List (List Nat)}

/-- A mapping that is refused inside of the outermost mapping is refused outside of it as well. It
may be the outermost mapping itself, which is then entered again. -/
theorem follows_of_mem (again : RefusedInside entries limit levels first)
    (same : ∀ x, x ∈ path ↔ x = [] ∨ x ∈ path') (rooted : Rooted entries p)
    (inside : positionOf first ∈ [] :: positionOf p :: path') (met : positionOf p ∈ path) :
    Follows (fun _ => False) (RoundLater limit) (expandAt limit levels path p)
      (expandAt limit levels path' p) := by
  rw [expandAt_of_mem met]
  rcases (same _).mp met with outermost | met
  · rw [outermost] at inside
    obtain ⟨g, refusal, h⟩ := again levels (Nat.le_refl _) path' (by simpa using inside)
    rw [rooted.eq_root outermost, h]
    exact .instead ⟨rfl, refusal⟩
  · rw [expandAt_of_mem met]
    exact .same _

/-- **What comes of entering the outermost mapping once more**: the same, or a refusal later. One
expansion is inside of the outermost mapping and the other one is not; both came here through the
first mapping. -/
theorem follows_of_round (again : RefusedInside entries limit levels first)
    (same : ∀ x, x ∈ path ↔ x = [] ∨ x ∈ path') (rooted : Rooted entries p)
    (inside : positionOf first ∈ [] :: positionOf p :: path') :
    Follows (fun _ => False) (RoundLater limit) (expandAt limit levels path p)
      (expandAt limit levels path' p) := by
  induction levels generalizing path path' p with
  | zero =>
    by_cases met : positionOf p ∈ path
    · exact follows_of_mem again same rooted inside met
    · rw [expandAt_zero met, expandAt_zero fun met' => met ((same _).mpr (.inr met'))]
      exact .same _
  | succ levels ih =>
    by_cases met : positionOf p ∈ path
    · exact follows_of_mem again same rooted inside met
    · rw [expandAt_succ met, expandAt_succ fun met' => met ((same _).mpr (.inr met'))]
      have same' (x : List Nat) :
          x ∈ positionOf p :: path ↔ x = [] ∨ x ∈ positionOf p :: path' := by
        simp only [List.mem_cons, same x]
        exact or_left_comm
      have below (q q' : List Place) (h : q = q' ∧ Rooted entries q) :
          Follows (fun _ => False) (RoundLater limit)
            (expandAt limit levels (positionOf p :: path) q)
            (expandAt limit levels (positionOf p :: path') q') := by
        obtain ⟨rfl, rooted⟩ := h
        refine ih (fun fewer le => again fewer (Nat.le_succ_of_le le)) same' rooted ?_
        rcases List.mem_cons.mp inside with outermost | inside
        · exact List.mem_cons.mpr (.inl outermost)
        · exact List.mem_cons_of_mem _ (List.mem_cons_of_mem _ inside)
      exact Follows.expandEntries below
        ((kept_rooted entries).coherent.readAlike_indexed ⟨rfl, rooted⟩)

end follows

/-- The entries of the outermost mapping, expanded inside of it and outside of it. Entry by entry,
those in front are expanded when the next one is. -/
theorem follows_of_entries (entries : Entries) (limit : Int) (levels : Nat) :
    Follows (fun _ => False) (RoundLater limit)
      (expandEntries (expandAt limit levels [[]]) (root entries) (indexed entries))
      (expandEntries (expandAt limit levels []) (root entries) (indexed entries)) := by
  have from_here {front back : List IndexedEntry} (split : indexed entries = front ++ back)
      (before : ∃ done,
        expandEntries (expandAt limit levels [[]]) (root entries) front = .ok done) :
      Follows (fun _ => False) (RoundLater limit)
        (expandEntries (expandAt limit levels [[]]) (root entries) back)
        (expandEntries (expandAt limit levels []) (root entries) back) := by
    induction back generalizing front with
    | nil => exact .same _
    | cons e back ih =>
      obtain ⟨done, before⟩ := before
      have below (p q : List Place) (h : p = q ∧ enteredBy? (root entries) e = some p) :
          Follows (fun _ => False) (RoundLater limit) (expandAt limit levels [[]] p)
            (expandAt limit levels [] q) := by
        obtain ⟨rfl, leads⟩ := h
        have step : p ∈ entered (root entries) := by
          refine mem_entered.mpr ⟨e, ?_, leads⟩
          change e ∈ indexed entries
          rw [split]
          exact List.mem_append_right _ List.mem_cons_self
        exact follows_of_round (refusedInside_of_entry split before leads) (fun x => by simp)
          ((kept_rooted entries).entered ⟨[], rfl, nofun⟩ step)
          (List.mem_cons_of_mem _ List.mem_cons_self)
      refine (Follows.expandEntry below (readAlike_self _ e)).bind fun here ok => ?_
      have next : ∃ done,
          expandEntries (expandAt limit levels [[]]) (root entries) (front ++ [e]) = .ok done := by
        rw [expandEntries_append, before, expandEntries, ok]
        exact ⟨_, rfl⟩
      exact (ih (by simpa using split) next).bind fun _ _ => .same _
  exact from_here (List.nil_append _).symm ⟨[], rfl⟩

end round

/-! ### Queries -/

/-- The mapping of a query that is nothing but an include. -/
def queryPlace (entries : Entries) : Place := ⟨[], [(.str "include", .map entries)]⟩

/-- A query that is nothing but an include. -/
def compiledInclude (s : Settings) (m : Membership) (tree : Value) :
    Except Failure CompiledQuery := do
  let query ← QuerySpec.ofValue (.map [(.str "include", tree)])
  query.compile s m

theorem compiledInclude_eq {given : List (String × Value)} (distinct : (given.map Prod.fst).Nodup)
    (s : Settings) (m : Membership) :
    compiledInclude s m (.map (Entries.named given)) =
      (expandCopy s.includeMaxDepth
        (relocate (queryPlace (Entries.named given)) (root (Entries.named given)))).map
          fun tree => ⟨[], [], some tree⟩ := by
  generalize hp : relocate (queryPlace (Entries.named given)) (root (Entries.named given)) = places
  have valid : QuerySpec.validTree [queryPlace (Entries.named given)] (.map (Entries.named given)) =
      .ok (some places) := by
    change (textMapping ["include"] (.map (Entries.named given))).map _ = _
    rw [textMapping_named _ distinct, ← hp]
    rfl
  have filters (outer : List Entries) :
      textMapping ["filters"] (Filter.unfolded outer (.map [])) = .ok [] := rfl
  have order (outer : List Entries) :
      textMapping ["order"] (Value.unfold 1 outer (.map [])) = .ok [] := rfl
  have query : QuerySpec.ofValue (.map [(.str "include", .map (Entries.named given))]) =
      .ok ⟨[], [], some places⟩ := by
    change QuerySpec.make [queryPlace (Entries.named given)] (.map []) (.map [])
      (.map (Entries.named given)) = _
    rw [QuerySpec.make]
    simp only [filters, order, valid]
  have filter : Filter.compile m [] = .ok [] := by
    rw [Filter.compile, show Filter.membershipEntries [] = [] from rfl]
    simp only [List.isEmpty_nil, Bool.not_true, Bool.and_false, Bool.false_eq_true, if_false]
    rfl
  rw [compiledInclude, query]
  change (Filter.compile m [] >>= _) = _
  rw [filter]
  cases h : expandCopy s.includeMaxDepth places with
  | error f => simp [bind, Except.bind, Except.map, Except.mapError, h]
  | ok tree => simp [bind, Except.bind, Except.map, Except.mapError, pure, Except.pure, h]

/-- The copy of the outermost mapping is expanded as the mapping is outside of itself. -/
theorem follows_expandCopy {given : List (String × Value)} (distinct : (given.map Prod.fst).Nodup)
    (closed : (Value.map (Entries.named given)).isClosed = true) (limit : Int) (outer : Place) :
    Follows (fun _ => False) (RoundLater limit) (expand limit (.map (Entries.named given)))
      (expandCopy limit (relocate outer (root (Entries.named given)))) := by
  have inside := allReferences_root closed
  have ne : root (Entries.named given) ≠ [] := List.cons_ne_nil _ _
  unfold expandCopy
  change Follows _ _ (expandAt limit limit.toNat [] (root (Entries.named given))) _
  cases limit.toNat with
  | zero =>
    rw [expandAt_zero List.not_mem_nil]
    exact .same _
  | succ levels =>
    have elsewhere : expandEntries (expandAt limit levels [])
        (relocate outer (root (Entries.named given))) (indexedCopy (Entries.named given)) =
        expandEntries (expandAt limit levels []) (root (Entries.named given))
          (indexed (Entries.named given)) := by
      rw [indexedCopy_named distinct]
      exact expandEntries_relocate (fun q => expandAt_relocate outer []) ne inside
    rw [expandAt_succ List.not_mem_nil]
    change Follows _ _ _ (expandEntries (expandAt limit levels [])
      (relocate outer (root (Entries.named given))) (indexedCopy (Entries.named given)))
    rw [elsewhere]
    exact follows_of_entries _ limit levels

end Include

open Include

/-- **A query accepts an include exactly if it can be expanded by itself**, and then it has the same
tree. Where both fail, they fail alike: with the same failure, or with two that are both those of a
malformed include, the include going round through its outermost mapping and the query going down
too far before it gets there again. -/
theorem compiled_as_expanded {given : List (String × Value)}
    (distinct : (given.map Prod.fst).Nodup)
    (closed : (Value.map (Entries.named given)).isClosed = true) (s : Settings) (m : Membership) :
    (∀ tree, compiledInclude s m (.map (Entries.named given)) = .ok ⟨[], [], some tree⟩ ↔
      expand s.includeMaxDepth (.map (Entries.named given)) = .ok tree) ∧
    (∀ f, expand s.includeMaxDepth (.map (Entries.named given)) = .error f →
      ∃ g, compiledInclude s m (.map (Entries.named given)) = .error g ∧
        g.faultKind = f.faultKind ∧
        (g = f ∨ f = .spec .cyclicInclude ∧ g = .spec (.deepInclude s.includeMaxDepth))) := by
  rw [compiledInclude_eq distinct]
  have follows := follows_expandCopy distinct closed s.includeMaxDepth
    (queryPlace (Entries.named given))
  generalize expand s.includeMaxDepth (.map (Entries.named given)) = x at follows ⊢
  generalize expandCopy s.includeMaxDepth _ = y at follows ⊢
  cases follows with
  | same =>
    constructor
    · intro tree
      cases x <;> simp [Except.map]
    · rintro f rfl
      exact ⟨f, rfl, rfl, .inl rfl⟩
  | any h => exact h.elim
  | instead h =>
    obtain ⟨rfl, refusal⟩ := h
    refine ⟨fun tree => by simp [Except.map], ?_⟩
    rintro f same
    cases same
    rcases refusal with rfl | rfl
    · exact ⟨_, rfl, rfl, .inl rfl⟩
    · exact ⟨_, rfl, rfl, .inr ⟨rfl, rfl⟩⟩

/-- An entry that has the outermost mapping under `include`. -/
def outermostInEntry : List (String × Value) := [("a", .up 1)]

/-- Settings under which an include has one level. -/
def oneLevel : Settings := { includeMaxDepth := 1 }

theorem compiled_as_expanded_outermostInEntry :
    (outermostInEntry.map Prod.fst).Nodup ∧
    (Value.map (Entries.named outermostInEntry)).isClosed = true ∧
    (∀ tree, compiledInclude oneLevel (.make oneLevel "" true)
        (.map (Entries.named outermostInEntry)) = .ok ⟨[], [], some tree⟩ ↔
      expand 1 (.map (Entries.named outermostInEntry)) = .ok tree) ∧
    ∃ g, compiledInclude oneLevel (.make oneLevel "" true)
        (.map (Entries.named outermostInEntry)) = .error g ∧
      g.faultKind = .invalidQuerySpec ∧
      (g = .spec .cyclicInclude ∨
        Failure.spec .cyclicInclude = .spec .cyclicInclude ∧ g = .spec (.deepInclude 1)) := by
  have distinct : (outermostInEntry.map Prod.fst).Nodup := by decide
  have closed : (Value.map (Entries.named outermostInEntry)).isClosed = true := by decide
  have agree := compiled_as_expanded distinct closed oneLevel (.make oneLevel "" true)
  have failed : expand 1 (.map (Entries.named outermostInEntry)) =
      .error (.spec .cyclicInclude) := by rfl
  exact ⟨distinct, closed, agree.1, agree.2 _ failed⟩

example : compiledInclude oneLevel (.make oneLevel "" true)
    (.map (Entries.named outermostInEntry)) = .error (.spec (.deepInclude 1)) := by rfl

end Recordbook

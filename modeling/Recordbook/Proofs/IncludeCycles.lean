import Mathlib.Data.List.Nodup
import Mathlib.Data.List.Perm.Subperm
import Recordbook.Proofs.IncludeOutcome

/-!
# Includes that go round

An include may refer back to a mapping around the reference, and then the mappings that it enters go
round. Its expansion ends all the same: a mapping that is being expanded is not entered again, and
there are only so many mappings. So it never goes down further than there are mappings, and a limit
beyond that makes no difference.

An include that goes round is never expanded. It is refused, unless something that is misused is met
on the way.

## Implementation notes

The measure is the number of mappings that are not being expanded. An empty mapping taken where
there is none counts apart, since it is none of the include, but nothing is entered from it.

## Main definitions

* `Include.positionsIn`, `Include.mappingCount` — the mappings of an include that can be entered
* `Include.Located` — mappings that are some of these

## Main results

* `Include.length_le_of_chain` — how many mappings are entered one inside of the other
* `Include.expandAt_of_enough` — enough levels are as good as any number
* `Include.expandAt_ok_of_enough` — and only what is wrong or goes round is not expanded
* `expansion_ends` — expansion ends, and an include that goes round is not expanded
-/

namespace Recordbook

namespace Include

/-! ### The mappings of an include -/

mutual

/-- The positions of the mappings in a value: its own, and those of the mappings in its entries. -/
def positionsIn (position : List Nat) : Value → List (List Nat)
  | .map entries => position :: positionsUnder position 0 entries
  | _ => []
termination_by structural v => v

/-- The positions of the mappings in entries, from an index on. -/
def positionsUnder (position : List Nat) (index : Nat) : List (Value × Value) → List (List Nat)
  | [] => []
  | (_, v) :: rest => positionsIn (index :: position) v ++ positionsUnder position (index + 1) rest
termination_by structural rest => rest

end

/-- How many mappings there are in an include, itself counted. -/
def mappingCount (entries : Entries) : Nat := (positionsIn [] (.map entries)).length

/-- The mapping at hand and those around it are among some mappings, with all that is in them,
unless they are empty. -/
def Located (all : List (List Nat)) (p : List Place) : Prop :=
  ∀ place ∈ p, place.entries = [] ∨
    place.position :: positionsUnder place.position 0 place.entries ⊆ all

theorem positionsIn_subset {position : List Nat} {start index : Nat} {entries : Entries}
    {key v : Value} (h : entries[index]? = some (key, v)) :
    positionsIn ((start + index) :: position) v ⊆ positionsUnder position start entries := by
  induction entries generalizing start index with
  | nil => simp at h
  | cons e rest ih =>
    obtain ⟨k, w⟩ := e
    rw [positionsUnder]
    cases index with
    | zero =>
      simp only [List.getElem?_cons_zero, Option.some.injEq, Prod.mk.injEq] at h
      rw [h.2]
      exact List.subset_append_left _ _
    | succ index =>
      have inside : positionsIn ((start + 1 + index) :: position) v ⊆
          positionsUnder position (start + 1) rest := ih (by simpa using h)
      rw [Nat.add_right_comm] at inside
      exact List.subset_append_of_subset_right _ inside

theorem located_root (entries : Entries) :
    Located (positionsIn [] (.map entries)) (root entries) := by
  intro place h
  rw [List.mem_singleton.mp h]
  right
  rw [positionsIn]
  exact List.Subset.refl _

/-- Going down stays among the mappings. -/
theorem kept_located (all : List (List Nat)) : Kept (Located all) where
  enter := by
    intro p located index key v entry q found
    rcases enter?_eq_some found with ⟨entries, rfl, rfl⟩ | ⟨levels, rfl, rfl⟩
    · intro place hp
      rcases List.mem_cons.mp hp with rfl | hp
      · right
        cases p with
        | nil => simp [entriesOf] at entry
        | cons outer around =>
          rcases located outer List.mem_cons_self with empty | inside
          · simp [entriesOf, empty] at entry
          · have below : positionsIn ((0 + index) :: outer.position) (.map entries) ⊆
                positionsUnder outer.position 0 outer.entries := positionsIn_subset entry
            rw [Nat.zero_add, positionsIn] at below
            exact List.Subset.trans below (List.subset_of_cons_subset inside)
      · exact located place hp
    · exact fun place hp => located place (List.mem_of_mem_drop hp)
  fresh := by
    intro p located place hp
    rcases List.mem_cons.mp hp with rfl | hp
    · exact .inl rfl
    · exact located place hp

theorem entered_of_no_entries {p : List Place} (h : entriesOf p = []) : entered p = [] := by
  rw [entered, h]
  rfl

theorem Located.position_mem {all : List (List Nat)} {p : List Place} (located : Located all p)
    (h : entriesOf p ≠ []) : positionOf p ∈ all := by
  cases p with
  | nil => exact absurd rfl h
  | cons place around =>
    rcases located place List.mem_cons_self with empty | inside
    · exact absurd empty h
    · exact inside List.mem_cons_self

/-! ### Mappings one inside of the other -/

theorem position_mem_of_chain {all : List (List Nat)} {p : List Place} {rest : List (List Place)}
    (located : Located all p) (chain : List.IsChain (fun p q => q ∈ entered p) (p :: rest)) :
    ∀ q ∈ (p :: rest).dropLast, positionOf q ∈ all := by
  induction rest generalizing p with
  | nil => simp
  | cons q rest ih =>
    obtain ⟨step, chain⟩ := List.isChain_cons_cons.mp chain
    rw [List.dropLast_cons_cons, List.forall_mem_cons]
    refine ⟨located.position_mem fun empty => ?_,
      ih ((kept_located all).entered located step) chain⟩
    rw [entered_of_no_entries empty] at step
    cases step

/-- Mappings that are entered one inside of the other without going round are no more than there
are, and at most one that is taken where there is none. -/
theorem length_le_of_chain {entries : Entries} {rest : List (List Place)}
    (chain : List.IsChain (fun p q => q ∈ entered p) (root entries :: rest))
    (distinct : ((root entries :: rest).map positionOf).Nodup) :
    (root entries :: rest).length ≤ mappingCount entries + 1 := by
  have inside : (root entries :: rest).dropLast.map positionOf ⊆ positionsIn [] (.map entries) := by
    intro position h
    obtain ⟨q, hq, rfl⟩ := List.mem_map.mp h
    exact position_mem_of_chain (located_root entries) chain q hq
  have short := ((distinct.sublist ((List.dropLast_sublist _).map _)).subperm inside).length_le
  rw [List.length_map, List.length_dropLast] at short
  exact Nat.le_add_of_sub_le short

/-- **Enough levels are as good as any number.** The induction is on the levels that are left; all
the while, those that are left and the mappings being expanded are more than there are mappings. -/
theorem expandAt_of_enough {all : List (List Nat)} {limit limit' : Int} {levels levels' : Nat}
    {path : List (List Nat)} {p : List Place} (located : Located all p) (distinct : path.Nodup)
    (inside : path ⊆ all) (enough : all.length < path.length + levels)
    (enough' : all.length < path.length + levels') :
    expandAt limit levels path p = expandAt limit' levels' path p := by
  induction levels generalizing levels' path p with
  | zero =>
    have short : path.length ≤ all.length := (distinct.subperm inside).length_le
    omega
  | succ levels ih =>
    cases levels' with
    | zero =>
      have short : path.length ≤ all.length := (distinct.subperm inside).length_le
      omega
    | succ levels' =>
      by_cases again : positionOf p ∈ path
      · rw [expandAt_of_mem again, expandAt_of_mem again]
      · rw [expandAt_succ again, expandAt_succ again]
        by_cases empty : entriesOf p = []
        · rw [empty]
          rfl
        · have distinct' : (positionOf p :: path).Nodup := List.nodup_cons.mpr ⟨again, distinct⟩
          have inside' : positionOf p :: path ⊆ all :=
            List.cons_subset.mpr ⟨located.position_mem empty, inside⟩
          have below (q q' : List Place) (h : q = q' ∧ Located all q) :
              Follows (fun _ => False) (fun _ _ => False)
                (expandAt limit levels (positionOf p :: path) q)
                (expandAt limit' levels' (positionOf p :: path) q') := by
            obtain ⟨rfl, located⟩ := h
            have fewer : (positionOf p :: path).length = path.length + 1 := rfl
            have same : expandAt limit levels (positionOf p :: path) q =
                expandAt limit' levels' (positionOf p :: path) q :=
              ih located distinct' inside' (by omega) (by omega)
            rw [same]
            exact .same _
          exact eq_of_follows (Follows.expandEntries below
            ((kept_located all).coherent.readAlike_indexed ⟨rfl, located⟩))

/-- With enough levels, a mapping is expanded in which nothing is wrong and nothing goes round. The
induction is as before. -/
theorem expandAt_ok_of_enough {all : List (List Nat)} {limit : Int} {levels : Nat}
    {path : List (List Nat)} {p : List Place} (located : Located all p) (distinct : path.Nodup)
    (inside : path ⊆ all) (enough : all.length < path.length + levels) (acyclic : ¬ Cyclic p)
    (sound : ∀ q, Reaches p q → Sound q) (outside : ∀ q, Reaches p q → positionOf q ∉ path) :
    ∃ tree, expandAt limit levels path p = .ok tree := by
  induction levels generalizing path p with
  | zero =>
    have short : path.length ≤ all.length := (distinct.subperm inside).length_le
    omega
  | succ levels ih =>
    refine expandAt_ok_iff.mpr ⟨outside p .refl, levels, rfl, sound p .refl, fun q step => ?_⟩
    have entries : entriesOf p ≠ [] := by
      intro empty
      rw [entered_of_no_entries empty] at step
      cases step
    have fewer : (positionOf p :: path).length = path.length + 1 := rfl
    exact ih ((kept_located all).entered located step)
      (List.nodup_cons.mpr ⟨outside p .refl, distinct⟩)
      (List.cons_subset.mpr ⟨located.position_mem entries, inside⟩) (by omega)
      (fun cyclic => acyclic (cyclic.of_reaches (.single step)))
      (fun r reaches => sound r (.head step reaches)) (not_mem_of_entered acyclic step outside)

end Include

open Include

/-- **Expansion ends, and an include that goes round is not expanded.** However large the limit is,
no more mappings are ever entered one inside of the other than the include has, and one more that is
empty. A limit beyond that makes no difference: then the include is expanded exactly if no mapping
is entered again from itself and nothing is wrong with the entries that are met. If some mapping is
entered again from itself, there is no tree under any limit: the include is malformed, unless a kind
or a column that cannot be a key is met, or columns that cannot be listed. -/
theorem expansion_ends (entries : Entries) :
    (∀ rest, List.IsChain (fun p q => q ∈ entered p) (root entries :: rest) →
      ((root entries :: rest).map positionOf).Nodup →
        (root entries :: rest).length ≤ mappingCount entries + 1) ∧
    (∀ limit : Int, mappingCount entries + 1 ≤ limit →
      expand limit (.map entries) = expand (mappingCount entries + 1) (.map entries) ∧
      ((∃ tree, expand limit (.map entries) = .ok tree) ↔
        ¬ Cyclic (root entries) ∧ ∀ p, Reaches (root entries) p → Sound p)) ∧
    (Cyclic (root entries) → ∀ limit : Int, ∃ f, expand limit (.map entries) = .error f ∧
      (f.faultKind = .invalidQuerySpec ∨ ∃ m, f = .misuse m ∧
        ∃ p, Reaches (root entries) p ∧ ∃ e ∈ indexed (entriesOf p), Misused p e m)) := by
  have located := located_root entries
  refine ⟨fun rest => length_le_of_chain, fun limit enough => ?_, fun cyclic limit => ?_⟩
  · have more {levels : Nat} (h : mappingCount entries < levels) :
        (positionsIn [] (.map entries)).length < ([] : List (List Nat)).length + levels := by
      simpa [mappingCount] using h
    have enough' : mappingCount entries < limit.toNat := by omega
    constructor
    · exact expandAt_of_enough located List.nodup_nil (List.nil_subset _) (more enough')
        (more (Nat.lt_succ_self _))
    · constructor
      · intro ok
        exact ⟨not_cyclic_of_expandAt ok, fun p => sound_of_expandAt ok⟩
      · rintro ⟨acyclic, sound⟩
        exact expandAt_ok_of_enough located List.nodup_nil (List.nil_subset _) (more enough')
          acyclic sound fun _ _ => List.not_mem_nil
  · cases h : expand limit (.map entries) with
    | ok tree => exact absurd cyclic (not_cyclic_of_expandAt ⟨tree, h⟩)
    | error f =>
      refine ⟨f, rfl, ?_⟩
      rcases failure_of_expandAt h with ⟨problem, rfl⟩ | misused
      · exact .inl rfl
      · exact .inr misused

/-- An entry of the kind `nested` that has itself under `include`. -/
def nestedInItself : Entries :=
  [(.str "users", .map [(.str "kind", .str "nested"), (.str "include", .up 1)])]

theorem expansion_ends_nestedInItself :
    (root nestedInItself :: entered (root nestedInItself)).length ≤
      mappingCount nestedInItself + 1 ∧
    (expand 1000000 (.map nestedInItself) = expand 3 (.map nestedInItself) ∧
      ((∃ tree, expand 1000000 (.map nestedInItself) = .ok tree) ↔
        ¬ Cyclic (root nestedInItself) ∧ ∀ p, Reaches (root nestedInItself) p → Sound p)) ∧
    Cyclic (root nestedInItself) ∧
    ∃ f, expand 1000000 (.map nestedInItself) = .error f ∧
      (f.faultKind = .invalidQuerySpec ∨ ∃ m, f = .misuse m ∧
        ∃ p, Reaches (root nestedInItself) p ∧ ∃ e ∈ indexed (entriesOf p), Misused p e m) := by
  let entry : Place := ⟨[0], [(.str "kind", .str "nested"), (.str "include", .up 1)]⟩
  have first : [entry, ⟨[], nestedInItself⟩] ∈ entered (root nestedInItself) :=
    List.mem_singleton.mpr rfl
  have again : [entry, ⟨[], nestedInItself⟩] ∈ entered [entry, ⟨[], nestedInItself⟩] :=
    List.mem_singleton.mpr rfl
  have cyclic : Cyclic (root nestedInItself) := ⟨_, _, .single first, .single again, rfl⟩
  have ends := expansion_ends nestedInItself
  exact ⟨ends.1 _ (List.isChain_cons_cons.mpr ⟨first, .singleton _⟩) (by decide),
    ends.2.1 1000000 (by decide), cyclic, ends.2.2 cyclic 1000000⟩

end Recordbook

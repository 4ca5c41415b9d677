import Mathlib.Data.List.Chain
import Recordbook.Proofs.IncludeCycles
import Recordbook.Proofs.IncludeReferences

/-!
# The depth of an include

An include that does not go round has a depth: one more than the largest depth of the mappings that
its entries lead to. It is exactly the least limit that is no obstacle, whatever form the entries
have in which the deepest mappings are met. Above it, the limit has no part in what the include is
expanded to.

## Implementation notes

The depth is a relation, since it is only there if the include does not go round. That there is one
follows from the bound on how many mappings are entered one inside of the other.

## Main definitions

* `Include.HasDepth` — a mapping has a depth

## Main results

* `Include.HasDepth.unique`, `Include.exists_hasDepth` — there is exactly one
* `Include.HasDepth.expandAt_ok_iff` — the expansion succeeds exactly if there are enough levels
* `expansion_threshold` — the depth is the least limit
-/

namespace Recordbook

namespace Include

/-- A mapping has a depth: one more than the largest depth of the mappings that it enters, one if it
enters none. -/
inductive HasDepth : List Place → Nat → Prop
  /-- From the depths of the mappings that it enters. -/
  | intro {p : List Place} (of : List Place → Nat) (below : ∀ q ∈ entered p, HasDepth q (of q)) :
      HasDepth p (((entered p).map of).foldr max 0 + 1)

section depth

variable {p : List Place} {depth : Nat}

theorem foldr_max_le_iff {of : List Place → Nat} {ps : List (List Place)} {n : Nat} :
    (ps.map of).foldr max 0 ≤ n ↔ ∀ q ∈ ps, of q ≤ n := by
  induction ps with
  | nil => simp
  | cons q ps ih => rw [List.map_cons, List.foldr_cons, Nat.max_le, ih, List.forall_mem_cons]

theorem HasDepth.pos (h : HasDepth p depth) : 0 < depth := by
  cases h
  exact Nat.succ_pos _

/-- There is at most one depth. -/
theorem HasDepth.unique {depth' : Nat} (h : HasDepth p depth) (h' : HasDepth p depth') :
    depth = depth' := by
  induction h generalizing depth' with
  | intro of below ih =>
    cases h' with
    | intro of' below' =>
      rw [List.map_congr_left fun q hq => ih q hq (below' q hq)]

/-! ### There is a depth -/

/-- Without going round, no mapping is entered twice. -/
theorem nodup_of_chain {rest : List (List Place)} (acyclic : ¬ Cyclic p)
    (chain : List.IsChain (fun p q => q ∈ entered p) (p :: rest)) :
    ((p :: rest).map positionOf).Nodup := by
  induction rest generalizing p with
  | nil => exact List.nodup_singleton _
  | cons q rest ih =>
    rw [List.map_cons, List.nodup_cons]
    constructor
    · intro again
      obtain ⟨r, hr, same⟩ := List.mem_map.mp again
      have onward : List.IsChain (Relation.TransGen fun p q => q ∈ entered p) (p :: q :: rest) :=
        chain.imp fun _ _ step => .single step
      exact acyclic ⟨p, r, .refl, onward.rel_cons hr, same⟩
    · obtain ⟨step, chain⟩ := List.isChain_cons_cons.mp chain
      exact ih (fun cyclic => acyclic (cyclic.of_reaches (.single step))) chain

/-- Where all the mappings that are entered one inside of the other are so many at most, there is a
depth. -/
theorem exists_hasDepth_of_chains {bound : Nat}
    (short : ∀ rest, List.IsChain (fun p q => q ∈ entered p) (p :: rest) →
      (p :: rest).length ≤ bound) : ∃ depth, HasDepth p depth := by
  induction bound generalizing p with
  | zero => exact absurd (short [] (.singleton p)) (by simp)
  | succ bound ih =>
    have below (q : List Place) (hq : q ∈ entered p) : ∃ depth, HasDepth q depth := by
      refine ih fun rest chain => ?_
      exact Nat.le_of_succ_le_succ (short (q :: rest) (List.isChain_cons_cons.mpr ⟨hq, chain⟩))
    choose! of below using below
    exact ⟨_, .intro of below⟩

/-- An include that does not go round has a depth. -/
theorem exists_hasDepth {entries : Entries} (acyclic : ¬ Cyclic (root entries)) :
    ∃ depth, HasDepth (root entries) depth :=
  exists_hasDepth_of_chains fun _ chain => length_le_of_chain chain (nodup_of_chain acyclic chain)

/-! ### The depth is the least limit -/

variable {limit : Int} {levels : Nat} {path : List (List Nat)}

/-- An expansion that succeeds has as many levels as the mapping is deep. -/
theorem HasDepth.le_of_expandAt (h : HasDepth p depth)
    (ok : ∃ tree, expandAt limit levels path p = .ok tree) : depth ≤ levels := by
  induction h generalizing levels path with
  | intro of below ih =>
    obtain ⟨-, rest, rfl, -, ok⟩ := Include.expandAt_ok_iff.mp ok
    exact Nat.succ_le_succ (foldr_max_le_iff.mpr fun q hq => ih q hq (ok q hq))

/-- With as many levels as it is deep, a mapping in which nothing is wrong is expanded. The mappings
being expanded are never met again, since none is entered again from itself. -/
theorem HasDepth.expandAt_ok (h : HasDepth p depth) (le : depth ≤ levels) (acyclic : ¬ Cyclic p)
    (sound : ∀ q, Reaches p q → Sound q) (outside : ∀ q, Reaches p q → positionOf q ∉ path) :
    ∃ tree, expandAt limit levels path p = .ok tree := by
  induction h generalizing levels path with
  | @intro p of below ih =>
    obtain ⟨rest, rfl⟩ := Nat.exists_eq_add_one.mpr ((Nat.succ_pos _).trans_le le)
    refine Include.expandAt_ok_iff.mpr ⟨outside p .refl, rest, rfl, sound p .refl, fun q hq => ?_⟩
    exact ih q hq (foldr_max_le_iff.mp (Nat.le_of_succ_le_succ le) q hq)
      (fun cyclic => acyclic (cyclic.of_reaches (.single hq)))
      (fun r reaches => sound r (.head hq reaches)) (not_mem_of_entered acyclic hq outside)

/-- **The expansion succeeds exactly if there are enough levels**, and nothing is wrong with what is
met. -/
theorem HasDepth.expandAt_ok_iff (h : HasDepth p depth) (acyclic : ¬ Cyclic p) :
    (∃ tree, expandAt limit levels [] p = .ok tree) ↔
      (∀ q, Reaches p q → Sound q) ∧ depth ≤ levels := by
  constructor
  · intro ok
    exact ⟨fun q => sound_of_expandAt ok, h.le_of_expandAt ok⟩
  · rintro ⟨sound, le⟩
    exact h.expandAt_ok le acyclic sound fun _ _ => List.not_mem_nil

end depth

/-- A tree does not depend on the limit. -/
theorem eq_of_expand_ok {limit limit' : Int} {spec : Value} {tree tree' : Entries}
    (h : expand limit spec = .ok tree) (h' : expand limit' spec = .ok tree') : tree = tree' := by
  cases spec with
  | map entries =>
    have agree {limit limit' : Int} (le : limit'.toNat ≤ limit.toNat) {tree tree' : Entries}
        (h : expand limit (.map entries) = .ok tree)
        (h' : expand limit' (.map entries) = .ok tree') : tree = tree' := by
      have follows : Follows _ _ (expand limit (.map entries)) (expand limit' (.map entries)) :=
        expandAt_tightened le (List.Subset.refl []) (root entries)
      rw [h'] at follows
      exact Except.ok.inj (h.symm.trans follows.eq_ok)
    rcases Nat.le_total limit.toNat limit'.toNat with le | le
    · exact (agree le h' h).symm
    · exact agree le h h'
  | _ => cases h

end Include

open Include

/-- **The depth is the least limit.** An include that does not go round has exactly one depth. For
every limit, it is expanded exactly if nothing is wrong with the entries of the mappings that are
entered and its depth is no more than the limit. The tree is the same for every limit; it has the
entries that ask for something, in their order, each expanded by its form. -/
theorem expansion_threshold {entries : Entries} (acyclic : ¬ Cyclic (root entries)) :
    ∃ depth, (∀ n, HasDepth (root entries) n ↔ n = depth) ∧
      (∀ limit : Int, (∃ tree, expand limit (.map entries) = .ok tree) ↔
        (∀ p, Reaches (root entries) p → Sound p) ∧ (depth : Int) ≤ limit) ∧
      (∀ (limit : Int) tree, expand limit (.map entries) = .ok tree →
        Expands (root entries) (indexed entries) tree ∧
          ∀ limit', (∃ tree', expand limit' (.map entries) = .ok tree') →
            expand limit' (.map entries) = .ok tree) := by
  obtain ⟨depth, h⟩ := exists_hasDepth acyclic
  refine ⟨depth, fun n => ⟨fun h' => h'.unique h, fun same => same ▸ h⟩, fun limit => ?_,
    fun limit tree ok => ⟨expands_of_expandAt ok, ?_⟩⟩
  · have enough : (depth : Int) ≤ limit ↔ depth ≤ limit.toNat := by
      have pos := h.pos
      omega
    rw [enough]
    exact h.expandAt_ok_iff acyclic
  · rintro limit' ⟨tree', ok'⟩
    rw [ok', eq_of_expand_ok ok' ok]

/-- An include that goes down through an entry of the kind `nested` and one that stands for further
relations itself. -/
def threeDeep : Entries :=
  [(.str "author", .map [(.str "kind", .str "nested"),
    (.str "include", .map [(.str "posts", .map [(.str "tags", .bool true)])])]),
   (.str "labels", .list [.str "name"])]

theorem expansion_threshold_threeDeep : ¬ Cyclic (root threeDeep) ∧
    ∃ depth, (∀ n, HasDepth (root threeDeep) n ↔ n = depth) ∧
      (∀ limit : Int, (∃ tree, expand limit (.map threeDeep) = .ok tree) ↔
        (∀ p, Reaches (root threeDeep) p → Sound p) ∧ (depth : Int) ≤ limit) ∧
      (∀ (limit : Int) tree, expand limit (.map threeDeep) = .ok tree →
        Expands (root threeDeep) (indexed threeDeep) tree ∧
          ∀ limit', (∃ tree', expand limit' (.map threeDeep) = .ok tree') →
            expand limit' (.map threeDeep) = .ok tree) := by
  have acyclic : ¬ Cyclic (root threeDeep) := not_cyclic_of_hasNoReference (by decide)
  exact ⟨acyclic, expansion_threshold acyclic⟩

example : expand 2 (.map threeDeep) = .error (.spec (.deepInclude 2)) := by rfl

example : (expand 3 (.map threeDeep)).isOk = true := by rfl

end Recordbook

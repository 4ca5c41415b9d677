import Recordbook.Proofs.IncludeSteps

/-!
# References in an include

A reference back leads to one of the mappings around it, so what it leads to depends on how many
there are. Two properties of an include are of interest: that there is no reference in it at all,
and that every reference in it leads to one of its own mappings. Both are kept on the way down.

An include without references never goes round: whatever is entered from a mapping is further down.

## Main definitions

* `Value.allReferences` — something holds of every reference, given the mappings around it
* `Value.hasNoReference`, `Value.isClosed` — the two properties
* `Include.AllReferences` — something holds of every reference in some mappings

## Main results

* `Include.kept_allReferences` — what holds of the references is kept on the way down
* `Include.not_cyclic_of_hasNoReference` — an include without references does not go round
-/

namespace Recordbook

namespace Value

mutual

/-- Something holds of the levels of every reference in a value and the number of mappings around
it, of which there are some around the value. -/
def allReferences (holds : Nat → Nat → Bool) (around : Nat) : Value → Bool
  | .up levels => holds levels around
  | .list items => allReferencesIn holds around items
  | .tuple items => allReferencesIn holds around items
  | .map entries => allReferencesUnder holds (around + 1) entries
  | .model _ given => allReferencesUnder holds around given
  | _ => true
termination_by structural v => v

/-- The same for values. -/
def allReferencesIn (holds : Nat → Nat → Bool) (around : Nat) : List Value → Bool
  | [] => true
  | v :: rest => allReferences holds around v && allReferencesIn holds around rest
termination_by structural rest => rest

/-- The same for entries. -/
def allReferencesUnder (holds : Nat → Nat → Bool) (around : Nat) : List (Value × Value) → Bool
  | [] => true
  | (_, v) :: rest => allReferences holds around v && allReferencesUnder holds around rest
termination_by structural rest => rest

end

/-- There is no reference in a value. -/
def hasNoReference (v : Value) : Bool := v.allReferences (fun _ _ => false) 0

/-- Every reference in a value leads to one of the mappings in it. -/
def isClosed (v : Value) : Bool := v.allReferences (fun levels around => levels ≤ around) 0

theorem allReferencesUnder_iff {holds : Nat → Nat → Bool} {around : Nat} {entries : Entries} :
    allReferencesUnder holds around entries = true ↔
      ∀ e ∈ entries, e.2.allReferences holds around = true := by
  induction entries with
  | nil => simp [allReferencesUnder]
  | cons e rest ih =>
    obtain ⟨k, v⟩ := e
    rw [allReferencesUnder, Bool.and_eq_true, ih, List.forall_mem_cons]

mutual

/-- Where there is no reference, it does not matter how many mappings are around. -/
theorem allReferences_none (around : Nat) : ∀ v : Value,
    v.allReferences (fun _ _ => false) around = v.hasNoReference
  | .list items => (allReferencesIn_none around items).trans (allReferencesIn_none 0 items).symm
  | .tuple items => (allReferencesIn_none around items).trans (allReferencesIn_none 0 items).symm
  | .map entries =>
    (allReferencesUnder_none (around + 1) entries).trans (allReferencesUnder_none 1 entries).symm
  | .model _ given =>
    (allReferencesUnder_none around given).trans (allReferencesUnder_none 0 given).symm
  | .null | .bool _ | .int _ | .float _ | .str _ | .decimal _ | .uuid _ | .datetime _ | .date _
  | .bytes _ | .object | .up _ => rfl
termination_by structural v => v

/-- The same for values. -/
theorem allReferencesIn_none (around : Nat) : ∀ vs : List Value,
    allReferencesIn (fun _ _ => false) around vs = vs.all hasNoReference
  | [] => rfl
  | v :: vs => congrArg₂ and (allReferences_none around v) (allReferencesIn_none around vs)
termination_by structural vs => vs

/-- The same for entries. -/
theorem allReferencesUnder_none (around : Nat) : ∀ es : List (Value × Value),
    allReferencesUnder (fun _ _ => false) around es = es.all fun e => e.2.hasNoReference
  | [] => rfl
  | (_, v) :: es => congrArg₂ and (allReferences_none around v) (allReferencesUnder_none around es)
termination_by structural es => es

end

@[simp] theorem hasNoReference_map (entries : Entries) :
    (Value.map entries).hasNoReference = entries.all fun e => e.2.hasNoReference :=
  allReferencesUnder_none 1 entries

end Value

namespace Include

open Value

/-- Something holds of every reference in the mapping at hand and those around it. -/
def AllReferences (holds : Nat → Nat → Bool) : List Place → Prop
  | [] => True
  | place :: around =>
    allReferencesUnder holds (around.length + 1) place.entries = true ∧ AllReferences holds around

/-- Every reference in the mapping at hand and those around it leads to one of them. -/
abbrev Closed : List Place → Prop := AllReferences fun levels around => levels ≤ around

theorem AllReferences.drop {holds : Nat → Nat → Bool} {p : List Place} (h : AllReferences holds p)
    (n : Nat) : AllReferences holds (p.drop n) := by
  induction n generalizing p with
  | zero => exact h
  | succ n ih =>
    cases p with
    | nil => exact h
    | cons place around => exact ih h.2

theorem AllReferences.of_entry {holds : Nat → Nat → Bool} {p : List Place}
    (h : AllReferences holds p) {index : Nat} {key v : Value}
    (entry : (entriesOf p)[index]? = some (key, v)) : v.allReferences holds p.length = true := by
  cases p with
  | nil => simp [entriesOf] at entry
  | cons place around =>
    exact allReferencesUnder_iff.mp h.1 (key, v) (List.mem_of_getElem? entry)

/-- What holds of the references is kept on the way down. -/
theorem kept_allReferences (holds : Nat → Nat → Bool) : Kept (AllReferences holds) where
  enter := by
    intro p h index key v entry q found
    have value := h.of_entry entry
    rcases enter?_eq_some found with ⟨entries, rfl, rfl⟩ | ⟨levels, rfl, rfl⟩
    · exact ⟨value, h⟩
    · exact h.drop _
  fresh h := ⟨rfl, h⟩

theorem allReferences_root {holds : Nat → Nat → Bool} {entries : Entries}
    (h : (Value.map entries).allReferences holds 0 = true) :
    AllReferences holds (root entries) :=
  ⟨h, trivial⟩

/-! ### No references -/

section noReference

variable {p q : List Place}

/-- Below a mapping without references, everything is at least as far down. -/
theorem kept_deeper (depth : Nat) :
    Kept fun p => AllReferences (fun _ _ => false) p ∧ depth ≤ (positionOf p).length where
  enter := by
    rintro p ⟨h, deep⟩ index key v entry q found
    refine ⟨(kept_allReferences _).enter h index key v entry q found, ?_⟩
    rcases enter?_eq_some found with ⟨entries, rfl, rfl⟩ | ⟨levels, rfl, -⟩
    · exact Nat.le_succ_of_le deep
    · cases h.of_entry entry
  fresh := by
    rintro p ⟨h, deep⟩
    exact ⟨(kept_allReferences _).fresh h, Nat.le_succ_of_le deep⟩

/-- What a mapping without references enters is further down. -/
theorem length_lt_of_entered (h : AllReferences (fun _ _ => false) p) (step : q ∈ entered p) :
    (positionOf p).length < (positionOf q).length := by
  obtain ⟨⟨index, key, v⟩, he, step⟩ := mem_entered.mp step
  obtain ⟨places, found, step⟩ := Option.bind_eq_some_iff.mp step
  have entry := getElem?_of_mem_indexed he
  have below := (kept_allReferences _).enter h _ _ _ entry places found
  refine ((kept_deeper _).onward ⟨below, ?_⟩ step).2
  rcases enter?_eq_some found with ⟨entries, -, rfl⟩ | ⟨levels, rfl, -⟩
  · exact Nat.le_refl _
  · cases h.of_entry entry

/-- **An include without references does not go round.** -/
theorem not_cyclic_of_hasNoReference {entries : Entries}
    (h : (Value.map entries).hasNoReference = true) : ¬ Cyclic (root entries) := by
  rintro ⟨p, q, reaches, reachesOn, same⟩
  have hp := (kept_allReferences _).reaches (allReferences_root h) reaches
  obtain ⟨r, step, reaches⟩ := Relation.TransGen.head'_iff.mp reachesOn
  have hr := (kept_allReferences _).entered hp step
  have below := ((kept_deeper _).reaches ⟨hr, length_lt_of_entered hp step⟩ reaches).2
  rw [same] at below
  exact Nat.lt_irrefl _ below

end noReference

end Include

end Recordbook

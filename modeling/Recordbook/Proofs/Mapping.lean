import Recordbook.Query.Filter

/-!
# Mappings whose keys are texts

A mapping from texts, as the list of its names and values. Reading one as a filter changes nothing
about its names: putting an entry under a new name adds it at the end, and following references
touches values only.

## Main definitions

* `Entries.named` — the mapping of names and values

## Main results

* `Entries.put_of_fresh`, `Entries.get?_put` — putting an entry, and what is found afterwards
* `textMapping_named` — a mapping from distinct texts is read as it is
* `Filter.unfolded_named` — its references are followed value by value
-/

namespace Recordbook

namespace Entries

/-- The mapping of names and values. -/
def named (given : List (String × Value)) : Entries := given.map fun g => (.str g.1, g.2)

@[simp] theorem named_nil : named [] = [] := rfl

@[simp] theorem named_cons (name : String) (v : Value) (rest : List (String × Value)) :
    named ((name, v) :: rest) = (.str name, v) :: named rest := rfl

theorem mem_of_get? {es : Entries} {name : String} {v : Value} (h : es.get? name = some v) :
    (.str name, v) ∈ es := by
  obtain ⟨⟨key, w⟩, he, rfl⟩ := Option.map_eq_some_iff.mp h
  have text : key.isText name = true := by simpa using List.find?_some he
  rw [Value.isText_iff] at text
  rw [← text]
  exact List.mem_of_find?_eq_some he

theorem get?_append (es ds : Entries) (name : String) :
    get? (es ++ ds) name = (get? es name).or (get? ds name) := by
  rw [get?, List.find?_append, Option.map_or]
  rfl

theorem get?_named (given : List (String × Value)) (name : String) :
    (named given).get? name = given.lookup name := by
  induction given with
  | nil => rfl
  | cons g rest ih =>
    obtain ⟨n, v⟩ := g
    rw [named_cons, get?_cons, ih, Value.isText_str, List.lookup_cons]
    by_cases h : n = name
    · subst h
      simp
    · have other : (name == n) = false := beq_eq_false_iff_ne.mpr (Ne.symm h)
      simp [h, other]

theorem mem_of_lookup {given : List (String × Value)} {name : String} {v : Value}
    (h : given.lookup name = some v) : (name, v) ∈ given := by
  obtain ⟨before, after, rfl, -⟩ := List.lookup_eq_some_iff.mp h
  exact List.mem_append_right _ List.mem_cons_self

/-- In a mapping that gives no name twice, the value of an entry is what its name is looked up to.
-/
theorem lookup_of_mem {given : List (String × Value)} (distinct : (given.map Prod.fst).Nodup)
    {name : String} {v : Value} (h : (name, v) ∈ given) : given.lookup name = some v := by
  induction given with
  | nil => cases h
  | cons g rest ih =>
    obtain ⟨n, w⟩ := g
    obtain ⟨new, distinct⟩ := List.nodup_cons.mp distinct
    rcases List.mem_cons.mp h with he | hm
    · cases he
      simp
    · have other : (name == n) = false := by
        rw [beq_eq_false_iff_ne]
        intro same
        exact new (List.mem_map.mpr ⟨(name, v), hm, same⟩)
      rw [List.lookup_cons, other]
      exact ih distinct hm

/-- Names and values with something done to each value. -/
def mapValues (f : Value → Value) (given : List (String × Value)) : List (String × Value) :=
  given.map fun g => (g.1, f g.2)

theorem lookup_mapValues (f : Value → Value) (given : List (String × Value)) (name : String) :
    (mapValues f given).lookup name = (given.lookup name).map f := by
  induction given with
  | nil => rfl
  | cons g rest ih =>
    obtain ⟨n, v⟩ := g
    simp only [mapValues, List.map_cons, List.lookup_cons] at ih ⊢
    cases name == n with
    | true => rfl
    | false => exact ih

/-- An entry is put at the end if its key is new. -/
theorem put_of_fresh (k v : Value) (es : Entries) (h : ∀ e ∈ es, e.1.same k = false) :
    put k v es = es ++ [(k, v)] := by
  induction es with
  | nil => rfl
  | cons e es ih =>
    rw [put, if_neg (by simp [h e List.mem_cons_self]),
      ih fun d hd => h d (List.mem_cons_of_mem _ hd), List.cons_append]

/-- Equal keys name the same. -/
theorem isText_of_same {a b : Value} (h : a.same b = true) (name : String) :
    a.isText name = b.isText name := by
  have left {s : String} {v : Value} (h : (Value.str s).same v = true) : v = .str s := by
    cases v with
    | str t =>
      rw [Value.same_str, decide_eq_true_iff] at h
      rw [h]
    | _ => cases h
  have right {s : String} {v : Value} (h : v.same (.str s) = true) : v = .str s := by
    -- a text has no quantity, so what it is compared with need not be known
    have other : v.sameQuantity (.str s) = false := by
      rw [Value.sameQuantity, show Value.quantity? (.str s) = none from rfl]
      cases v.quantity? with
      | none => rfl
      | some q => cases q <;> rfl
    cases v with
    | str t =>
      rw [Value.same_str, decide_eq_true_iff] at h
      rw [h]
    | _ => cases other.symm.trans h
  rw [Bool.eq_iff_iff, Value.isText_iff, Value.isText_iff]
  constructor
  · rintro rfl
    exact left h
  · rintro rfl
    exact right h

theorem get?_put (k v : Value) (es : Entries) (name : String) :
    (put k v es).get? name = if k.isText name then some v else es.get? name := by
  induction es with
  | nil => rw [put, get?_cons]
  | cons e es ih =>
    obtain ⟨key, w⟩ := e
    rw [put]
    cases same : key.same k with
    | true =>
      simp only [if_true, get?_cons, isText_of_same same]
      split <;> rfl
    | false =>
      have text : key.isText name = true → k.isText name = false := by
        intro hk
        rw [Value.isText_iff] at hk
        subst hk
        rw [Bool.eq_false_iff]
        intro hk
        rw [Value.isText_iff] at hk
        subst hk
        simp at same
      simp only [Bool.false_eq_true, if_false, get?_cons, ih]
      cases hk : key.isText name with
      | false => rfl
      | true => simp [text hk]

theorem putAll_named {given : List (String × Value)} {es : Entries}
    (distinct : (given.map Prod.fst).Nodup)
    (fresh : ∀ g ∈ given, ∀ e ∈ es, e.1.same (.str g.1) = false) :
    putAll (named given) es = es ++ named given := by
  induction given generalizing es with
  | nil => exact (List.append_nil es).symm
  | cons g rest ih =>
    obtain ⟨name, v⟩ := g
    have new : name ∉ rest.map Prod.fst := (List.nodup_cons.mp distinct).1
    have step : putAll (named ((name, v) :: rest)) es =
        putAll (named rest) (put (.str name) v es) := rfl
    rw [step, put_of_fresh _ _ _ (fresh _ List.mem_cons_self),
      ih (List.nodup_cons.mp distinct).2 ?_, List.append_assoc]
    · rfl
    · intro g hg e he
      rcases List.mem_append.mp he with he | he
      · exact fresh g (List.mem_cons_of_mem _ hg) e he
      · rw [List.mem_singleton.mp he, Value.same_str, decide_eq_false_iff_not]
        rintro rfl
        exact new (List.mem_map_of_mem hg)

end Entries

theorem textKeyed_named {given : List (String × Value)} (distinct : (given.map Prod.fst).Nodup) :
    textKeyed (Entries.named given) = Entries.named given := by
  rw [textKeyed, Entries.named, List.map_map]
  exact Entries.putAll_named distinct fun _ _ _ he => absurd he List.not_mem_nil

/-- A mapping from distinct texts is read as it is. -/
theorem textMapping_named {given : List (String × Value)} (path : List String)
    (distinct : (given.map Prod.fst).Nodup) :
    textMapping path (.map (Entries.named given)) = .ok (Entries.named given) := by
  have noIssues : keyIssues path (Entries.named given) = [] := by
    rw [keyIssues, List.flatMap_eq_nil_iff]
    intro e he
    obtain ⟨g, -, rfl⟩ := List.mem_map.mp he
    rfl
  simp only [textMapping, noIssues, List.isEmpty_nil, if_true, textKeyed_named distinct]

/-! ### References -/

namespace Value

variable {follow : List Entries → Value} {around : List Entries}

theorem replaceInEntries_eq_map (es : Entries) :
    replaceInEntries follow around es =
      es.map fun e => (e.1, replaceReferences follow around e.2) := by
  induction es with
  | nil => rfl
  | cons e es ih =>
    obtain ⟨k, v⟩ := e
    rw [replaceInEntries, ih, List.map_cons]

theorem replaceInItems_eq_map (xs : List Value) :
    replaceInItems follow around xs = xs.map (replaceReferences follow around) := by
  induction xs with
  | nil => rfl
  | cons x xs ih => rw [replaceInItems, ih, List.map_cons]

/-- Looking a name up after references were replaced is replacing them in what is found. -/
theorem get?_replaceInEntries (es : Entries) (name : String) :
    Entries.get? (replaceInEntries follow around es) name =
      (Entries.get? es name).map (replaceReferences follow around) := by
  induction es with
  | nil => rfl
  | cons e es ih =>
    obtain ⟨k, v⟩ := e
    rw [replaceInEntries, Entries.get?_cons, Entries.get?_cons, ih]
    split <;> rfl

/-- There is no reference in a scalar. -/
theorem replaceReferences_of_isScalar {v : Value} (h : Filter.isScalar v = true) :
    replaceReferences follow around v = v := by
  cases v <;> simp_all [Filter.isScalar, replaceReferences]

@[simp] theorem replaceReferences_null : replaceReferences follow around .null = .null := by
  simp [replaceReferences]

end Value

/-- The references in a mapping are followed value by value. -/
theorem Value.unfold_named (times : Nat) (around : List Entries) (given : List (String × Value)) :
    (Value.map (Entries.named given)).unfold times around =
      .map (Entries.named (Entries.mapValues
        (fun v => v.unfold times (Entries.named given :: around)) given)) := by
  rw [unfold, replaceReferences, replaceInEntries_eq_map]
  simp only [Entries.named, Entries.mapValues, List.map_map]
  rfl

/-- So are those in a filter. -/
theorem Filter.unfolded_named (given : List (String × Value)) :
    Filter.unfolded [] (.map (Entries.named given)) =
      .map (Entries.named (Entries.mapValues (Value.replaceReferences
        (Value.unfoldPlace Filter.timesFollowed) [Entries.named given]) given)) :=
  Value.unfold_named Filter.timesFollowed [] given

end Recordbook

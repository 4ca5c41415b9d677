import Recordbook.Proofs.IncludeSteps

/-!
# When an include is expanded

An expansion succeeds exactly if nothing is wrong with any of the entries that are met and no
mapping is refused. It fails for one of three reasons: the include is malformed, it goes round or
down too far, or something in an entry of a mapping that is reached is misused.

## Main results

* `Include.expandAt_ok_iff` — when the expansion of a mapping succeeds
* `Include.failure_of_expandAt` — why it fails
* `Include.expandAt_of_reaches` — an expansion that succeeds enters everything that can be reached
* `Include.not_cyclic_of_expandAt` — and enters nothing again from itself
-/

namespace Recordbook

namespace Include

/-! ### When an expansion succeeds -/

theorem selection_ok_iff {fields : List Value} :
    (∃ v, selection fields = .ok v) ↔ ∀ f ∈ fields, f.keyProblem? = none := by
  rw [← List.findSome?_eq_none_iff, selection]
  cases fields.findSome? Value.keyProblem? <;> simp

theorem selection_error {fields : List Value} {f : Failure} (h : selection fields = .error f) :
    ∃ m, f = .misuse m ∧ ∃ v ∈ fields, v.keyProblem? = some m := by
  rw [selection] at h
  cases found : fields.findSome? Value.keyProblem? with
  | some m =>
    rw [found] at h
    cases h
    exact ⟨m, rfl, List.exists_of_findSome?_eq_some found⟩
  | none =>
    rw [found] at h
    cases h

theorem exists_ok_bind_pure {α β : Type} {x : Except Failure α} {f : α → β} :
    (∃ b, (x >>= fun a => pure (f a)) = .ok b) ↔ ∃ a, x = .ok a := by
  constructor
  · rintro ⟨b, h⟩
    obtain ⟨a, ha, -⟩ := bind_eq_ok.mp h
    exact ⟨a, ha⟩
  · rintro ⟨a, rfl⟩
    exact ⟨f a, rfl⟩

section expansion

variable (next : List Place → Except Failure Entries)

theorem Form.expand_ok_iff (form : Form) :
    (∃ v, form.expand next = .ok v) ↔
      (∀ fields, form = .columns fields → ∀ f ∈ fields, f.keyProblem? = none) ∧
        ∀ q, form.entered? = some q → ∃ tree, next q = .ok tree := by
  cases form with
  | whole => simp [Form.expand, entered?]
  | columns fields => simp [Form.expand, entered?, selection_ok_iff]
  | under q =>
    rw [Form.expand, exists_ok_bind_pure]
    simp [entered?]
  | bare q =>
    rw [Form.expand, exists_ok_bind_pure]
    simp [entered?]

/-- An entry is expanded exactly if nothing is wrong with it and the mapping that it leads to is. -/
theorem expandEntry_ok_iff (around : List Place) (e : IndexedEntry) :
    (∃ tree?, expandEntry next around e.index e.key e.value = .ok tree?) ↔
      SoundEntry around e ∧ ∀ q, enteredBy? around e = some q → ∃ tree, next q = .ok tree := by
  have read := entryRead around e
  rw [expandEntry_eq]
  constructor
  · rintro ⟨tree?, h⟩
    obtain ⟨form?, hf, h⟩ := bind_eq_ok.mp h
    rw [read.enteredBy?_eq hf]
    cases form? with
    | none => exact ⟨read.sound hf nofun, nofun⟩
    | some form =>
      obtain ⟨v, hv, -⟩ := map_eq_ok.mp h
      obtain ⟨fields, below⟩ := (form.expand_ok_iff next).mp ⟨v, hv⟩
      exact ⟨read.sound hf fun _ same => fields _ (Option.some.inj same), below⟩
  · rintro ⟨sound, below⟩
    obtain ⟨form?, hf, fields⟩ := sound.read read
    rw [read.enteredBy?_eq hf] at below
    rw [hf]
    cases form? with
    | none => exact ⟨none, rfl⟩
    | some form =>
      obtain ⟨v, hv⟩ :=
        (form.expand_ok_iff next).mpr ⟨fun _ same => fields _ (congrArg some same), below⟩
      exact ⟨some v, map_eq_ok.mpr ⟨v, hv, rfl⟩⟩

/-- An entry that leads to a mapping fails as the mapping does. -/
theorem expandEntry_of_enteredBy? {around q : List Place} {e : IndexedEntry} {f : Failure}
    (leads : enteredBy? around e = some q) (failed : next q = .error f) :
    expandEntry next around e.index e.key e.value = .error f := by
  obtain ⟨form, hf, leads⟩ := (entryRead around e).entered?_eq leads
  rw [expandEntry_eq, hf]
  cases form with
  | whole | columns => cases leads
  | under p | bare p =>
    cases leads
    simp [bind, Except.bind, Except.map, Form.expand, failed]

theorem expandEntries_ok_iff (around : List Place) (es : List IndexedEntry) :
    (∃ tree, expandEntries next around es = .ok tree) ↔
      ∀ e ∈ es, ∃ tree?, expandEntry next around e.index e.key e.value = .ok tree? := by
  induction es with
  | nil => simp [expandEntries]
  | cons e es ih =>
    rw [List.forall_mem_cons, ← ih]
    constructor
    · rintro ⟨tree, h⟩
      obtain ⟨here, hh, h⟩ := bind_eq_ok.mp h
      obtain ⟨others, ho, -⟩ := bind_eq_ok.mp h
      exact ⟨⟨here, hh⟩, ⟨others, ho⟩⟩
    · rintro ⟨⟨here, hh⟩, ⟨others, ho⟩⟩
      exact ⟨_, bind_eq_ok.mpr ⟨here, hh, bind_eq_ok.mpr ⟨others, ho, rfl⟩⟩⟩

theorem expandEntries_append (around : List Place) (es ds : List IndexedEntry) :
    expandEntries next around (es ++ ds) = do
      let front ← expandEntries next around es
      let back ← expandEntries next around ds
      return front ++ back := by
  induction es with
  | nil =>
    change expandEntries next around ds = _
    cases h : expandEntries next around ds <;> rfl
  | cons e es ih =>
    rw [List.cons_append, expandEntries, expandEntries, ih]
    cases expandEntry next around e.index e.key e.value with
    | error f => rfl
    | ok here =>
      cases expandEntries next around es with
      | error f => rfl
      | ok front =>
        cases expandEntries next around ds with
        | error f => rfl
        | ok back => cases here <;> rfl

/-- **When the expansion of a mapping succeeds**: nothing is wrong with its entries, and the
mappings that they lead to are expanded. -/
theorem expandAt_ok_iff {limit : Int} {levels : Nat} {path : List (List Nat)} {p : List Place} :
    (∃ tree, expandAt limit levels path p = .ok tree) ↔
      positionOf p ∉ path ∧ ∃ rest, levels = rest + 1 ∧ Sound p ∧
        ∀ q ∈ entered p, ∃ tree, expandAt limit rest (positionOf p :: path) q = .ok tree := by
  by_cases inside : positionOf p ∈ path
  · simp [expandAt_of_mem inside, inside]
  · cases levels with
    | zero => simp [expandAt_zero inside]
    | succ levels =>
      rw [expandAt_succ inside, expandEntries_ok_iff]
      simp only [expandEntry_ok_iff, mem_entered, Sound]
      constructor
      · intro h
        refine ⟨inside, levels, rfl, fun e he => (h e he).1, ?_⟩
        rintro q ⟨e, he, hq⟩
        exact (h e he).2 q hq
      · rintro ⟨-, rest, same, sound, below⟩ e he
        cases same
        exact ⟨sound e he, fun q hq => below q ⟨e, he, hq⟩⟩

end expansion

/-! ### Why an expansion fails -/

section failure

variable {next : List Place → Except Failure Entries} {f : Failure}

theorem bind_eq_error {α β : Type} {x : Except Failure α} {g : α → Except Failure β} :
    (x >>= g) = .error f ↔ x = .error f ∨ ∃ a, x = .ok a ∧ g a = .error f := by
  cases x with
  | error e => simp [bind, Except.bind]
  | ok a => simp [bind, Except.bind]

theorem Form.failure_of_expand {form : Form} (h : form.expand next = .error f) :
    (∃ fields, form = .columns fields ∧ selection fields = .error f) ∨
      ∃ q, form.entered? = some q ∧ next q = .error f := by
  cases form with
  | whole => cases h
  | columns fields => exact .inl ⟨fields, rfl, h⟩
  | under q =>
    rcases bind_eq_error.mp h with h | ⟨_, _, h⟩
    · exact .inr ⟨q, rfl, h⟩
    · cases h
  | bare q =>
    rcases bind_eq_error.mp h with h | ⟨_, _, h⟩
    · exact .inr ⟨q, rfl, h⟩
    · cases h

/-- The expansion of an entry fails where it is malformed, where something in it is misused, or in
the mapping that it leads to. -/
theorem failure_of_expandEntry {around : List Place} {e : IndexedEntry}
    (h : expandEntry next around e.index e.key e.value = .error f) :
    ((∃ problem, f = .spec problem) ∨ ∃ m, f = .misuse m ∧ Misused around e m) ∨
      ∃ q, enteredBy? around e = some q ∧ next q = .error f := by
  have read := entryRead around e
  rw [expandEntry_eq] at h
  rcases bind_eq_error.mp h with hf | ⟨form?, hf, h⟩
  · exact .inl (read.failure hf)
  · rw [read.enteredBy?_eq hf]
    cases form? with
    | none => cases h
    | some form =>
      have h : form.expand next = .error f := by
        cases hv : form.expand next with
        | ok v => simp [hv, Except.map] at h
        | error g => simpa [hv, Except.map] using h
      rcases Form.failure_of_expand h with ⟨fields, rfl, h⟩ | below
      · obtain ⟨m, rfl, v, hv, problem⟩ := selection_error h
        exact .inl (.inr ⟨m, rfl, read.misused hf hv problem⟩)
      · exact .inr below

theorem failure_of_expandEntries {around : List Place} {es : List IndexedEntry}
    (h : expandEntries next around es = .error f) :
    ∃ e ∈ es, expandEntry next around e.index e.key e.value = .error f := by
  induction es with
  | nil => cases h
  | cons e es ih =>
    rcases bind_eq_error.mp h with h | ⟨here, _, h⟩
    · exact ⟨e, List.mem_cons_self, h⟩
    · rcases bind_eq_error.mp h with h | ⟨others, _, h⟩
      · obtain ⟨d, hd, h⟩ := ih h
        exact ⟨d, List.mem_cons_of_mem _ hd, h⟩
      · cases h

/-- **Why an expansion fails**: the include is malformed, or something in an entry of a mapping that
is reached is misused. -/
theorem failure_of_expandAt {limit : Int} {levels : Nat} {path : List (List Nat)} {p : List Place}
    (h : expandAt limit levels path p = .error f) :
    (∃ problem, f = .spec problem) ∨
      ∃ m, f = .misuse m ∧ ∃ q, Reaches p q ∧ ∃ e ∈ indexed (entriesOf q), Misused q e m := by
  induction levels generalizing path p with
  | zero =>
    by_cases inside : positionOf p ∈ path
    · rw [expandAt_of_mem inside] at h
      cases h
      exact .inl ⟨_, rfl⟩
    · rw [expandAt_zero inside] at h
      cases h
      exact .inl ⟨_, rfl⟩
  | succ levels ih =>
    by_cases inside : positionOf p ∈ path
    · rw [expandAt_of_mem inside] at h
      cases h
      exact .inl ⟨_, rfl⟩
    · rw [expandAt_succ inside] at h
      obtain ⟨e, he, h⟩ := failure_of_expandEntries h
      rcases failure_of_expandEntry h with (spec | ⟨m, rfl, misused⟩) | ⟨q, hq, h⟩
      · exact .inl spec
      · exact .inr ⟨m, rfl, p, .refl, e, he, misused⟩
      · rcases ih h with spec | ⟨m, rfl, r, reaches, misused⟩
        · exact .inl spec
        · exact .inr ⟨m, rfl, r, .head (mem_entered.mpr ⟨e, he, hq⟩) reaches, misused⟩

end failure

/-! ### What an expansion enters -/

section reaches

variable {limit : Int} {levels : Nat} {path : List (List Nat)} {p q : List Place}

/-- **An expansion that succeeds enters everything that can be reached**, inside of everything that
it is inside of itself. -/
theorem expandAt_of_reaches (reaches : Reaches p q)
    (h : ∃ tree, expandAt limit levels path p = .ok tree) :
    ∃ levels' path', path ⊆ path' ∧ ∃ tree, expandAt limit levels' path' q = .ok tree := by
  induction reaches using Relation.ReflTransGen.head_induction_on generalizing levels path with
  | refl => exact ⟨levels, path, List.Subset.refl _, h⟩
  | head step _ ih =>
    obtain ⟨-, rest, -, -, below⟩ := expandAt_ok_iff.mp h
    obtain ⟨levels', path', sub, h⟩ := ih (below _ step)
    exact ⟨levels', path', List.subset_of_cons_subset sub, h⟩

/-- What is reached in at least one step is entered inside of the mapping itself. -/
theorem expandAt_of_reachesOn (reaches : ReachesOn p q)
    (h : ∃ tree, expandAt limit levels path p = .ok tree) :
    ∃ levels' path', positionOf p ∈ path' ∧ ∃ tree, expandAt limit levels' path' q = .ok tree := by
  obtain ⟨r, step, reaches⟩ := Relation.TransGen.head'_iff.mp reaches
  obtain ⟨-, rest, -, -, below⟩ := expandAt_ok_iff.mp h
  obtain ⟨levels', path', sub, h⟩ := expandAt_of_reaches reaches (below r step)
  exact ⟨levels', path', sub List.mem_cons_self, h⟩

/-- Where an expansion succeeds, nothing is wrong with any entry that it meets. -/
theorem sound_of_expandAt (h : ∃ tree, expandAt limit levels path p = .ok tree)
    (reaches : Reaches p q) : Sound q := by
  obtain ⟨_, _, -, h⟩ := expandAt_of_reaches reaches h
  obtain ⟨-, _, -, sound, -⟩ := expandAt_ok_iff.mp h
  exact sound

/-- Where an expansion succeeds, no mapping is entered again from itself. -/
theorem not_cyclic_of_expandAt (h : ∃ tree, expandAt limit levels path p = .ok tree) :
    ¬ Cyclic p := by
  rintro ⟨q, r, reaches, reachesOn, same⟩
  obtain ⟨_, _, -, hq⟩ := expandAt_of_reaches reaches h
  obtain ⟨_, path', inside, hr⟩ := expandAt_of_reachesOn reachesOn hq
  have outside := (expandAt_ok_iff.mp hr).1
  rw [same] at outside
  exact outside inside

end reaches

end Include

end Recordbook

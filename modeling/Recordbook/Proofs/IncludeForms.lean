import Recordbook.Proofs.Criteria
import Recordbook.Proofs.Mapping

/-!
# The forms of an include

An include is written in many ways: `true` or an explicit entry without more, a list of names or an
explicit entry that lists them, and three ways to go on to further relations. Each entry has one of
four forms, and what it is expanded to depends on its form alone. The form is read without expanding
anything, so it is known before it is known whether the expansion succeeds.

## Implementation notes

The mapping at hand is known by its `Place`, from which references back start. The outermost mapping
is copied before it is expanded, which keeps its entries but not always their number, so its entries
are a part of their own here.

## Main definitions

* `Include.Form` — the forms of an entry, and `Include.entryForm`, the form that an entry has
* `Include.Mapping` — a mapping of an include, `Include.Mapping.Asks` for what its entries ask
* `Include.Mapping.HasBareSelect` — whether a mapping that only stands for further relations has an
  entry named `select`
* `Include.Expands` — what entries are expanded to, form by form

## Main results

* `Include.expandEntry_eq` — an entry is expanded by its form
* `Include.expands_of_expandCopy` — what an include is expanded to
-/

namespace Recordbook

namespace Include

/-! ### Forms -/

/-- What an entry asks for. -/
inductive Form
  /-- The related records. -/
  | whole
  /-- Some columns of the related records. -/
  | columns (fields : List Value)
  /-- The related records and what is related to those in turn, which stands under `include`. -/
  | under (inner : List Place)
  /-- The same, where the mapping at the entry stands for it alone. -/
  | bare (inner : List Place)

/-- The form of an entry that has something under `include`. -/
def innerForm (around : List Place) (entries : Entries) (v : Value) : Except Failure Form :=
  match enter? around (indexOf entries "include") v with
  | some places => .ok (.under places)
  | none => .error (.spec (.includeNotMapping v.kindName))

/-- The form of an explicit entry. -/
def kindForm (around : List Place) (entries : Entries) (key kind : Value) : Except Failure Form :=
  match kind.keyProblem? with
  | some p => .error (.misuse p)
  | none =>
    if kind.isText "shallow" then .ok .whole
    else if kind.isText "select" then
      (listedFields around (indexOf entries "fields") (entries.getD "fields")).map .columns
    else if kind.isText "nested" then
      if (entries.getD "include").isTruthy then innerForm around entries (entries.getD "include")
      else .ok (.under (⟨entries.length :: positionOf around, []⟩ :: around))
    else .error (.spec (.unknownIncludeKind kind key))

/-- The form of an entry whose value is a mapping, the first of the places. -/
def mappingForm (key : Value) (places : List Place) : Except Failure Form :=
  match places with
  | [] => .ok .whole
  | place :: _ => match place.entries.get? "kind" with
    | some kind => kindForm places place.entries key kind
    | none => match place.entries.get? "include" with
      | some inner => innerForm places place.entries inner
      | none => .ok (.bare places)

/-- The form of an entry, none if it asks for nothing. -/
def entryForm (around : List Place) (e : IndexedEntry) : Except Failure (Option Form) :=
  match e.value with
  | .bool true => .ok (some .whole)
  | .list fields => .ok (some (.columns fields))
  | .tuple fields => .ok (some (.columns fields))
  | v => match enter? around e.index v with
    | some places => (mappingForm e.key places).map some
    | none => .ok none

/-- What a form is expanded to. -/
def Form.expand (next : List Place → Except Failure Entries) : Form → Except Failure Value
  | .whole => .ok (.bool true)
  | .columns fields => selection fields
  | .under places => do
    let tree ← next places
    return .map [(.str "include", .map tree)]
  | .bare places => do
    let tree ← next places
    return .map tree

theorem enter?_ne_nil {around places : List Place} {index : Nat} {v : Value}
    (h : enter? around index v = some places) : places ≠ [] := by
  unfold enter? at h
  split at h
  · cases h
    exact List.cons_ne_nil _ _
  · split at h
    · cases h
    · next ne =>
      cases h
      exact ne
  · cases h

section expansion

variable (next : List Place → Except Failure Entries)

theorem expandInner_eq (around : List Place) (entries : Entries) (v : Value) :
    expandInner next around entries v = innerForm around entries v >>= Form.expand next := by
  rw [expandInner, innerForm]
  cases enter? around (indexOf entries "include") v <;> rfl

theorem expandKind_eq (around : List Place) (entries : Entries) (key kind : Value) :
    expandKind next around entries key kind =
      kindForm around entries key kind >>= Form.expand next := by
  rw [expandKind, kindForm]
  cases kind.keyProblem? with
  | some p => rfl
  | none =>
    cases kind.isText "shallow" with
    | true => rfl
    | false =>
      cases kind.isText "select" with
      | true =>
        cases listedFields around (indexOf entries "fields") (entries.getD "fields") <;> rfl
      | false =>
        cases kind.isText "nested" with
        | false => rfl
        | true =>
          dsimp only
          cases (entries.getD "include").isTruthy with
          | true => exact expandInner_eq next ..
          | false => rfl

theorem expandMapping_eq (key : Value) {places : List Place} (h : places ≠ []) :
    expandMapping next key places = mappingForm key places >>= Form.expand next := by
  cases places with
  | nil => exact absurd rfl h
  | cons place around =>
    rw [expandMapping, mappingForm]
    cases place.entries.get? "kind" with
    | some kind => exact expandKind_eq next ..
    | none =>
      cases place.entries.get? "include" with
      | some inner => exact expandInner_eq next ..
      | none => rfl

/-- **An entry is expanded by its form.** -/
theorem expandEntry_eq (around : List Place) (e : IndexedEntry) :
    expandEntry next around e.index e.key e.value =
      entryForm around e >>= fun form? => match form? with
        | none => .ok none
        | some form => (form.expand next).map some := by
  obtain ⟨index, key, v⟩ := e
  have entered : (match enter? around index v with
        | some places => (expandMapping next key places).map some
        | none => .ok none) =
      (match enter? around index v with
        | some places => (mappingForm key places).map some
        | none => .ok none) >>= fun form? => match form? with
          | none => .ok none
          | some form => (Form.expand next form).map some := by
    cases h : enter? around index v with
    | none => rfl
    | some places =>
      dsimp only
      rw [expandMapping_eq next key (enter?_ne_nil h)]
      cases mappingForm key places <;> rfl
  cases v with
  | bool b =>
    cases b with
    | true => rfl
    | false => exact entered
  | list fields => rfl
  | tuple fields => rfl
  | _ => exact entered

end expansion

/-! ### Mappings -/

/-- A mapping of an include. -/
structure Mapping where
  /-- The mapping itself and those around it. -/
  around : List Place
  /-- Its entries. -/
  entries : List IndexedEntry

namespace Mapping

/-- The mapping without entries. -/
def empty : Mapping := ⟨[], []⟩

/-- The mapping at a place. -/
def ofPlaces (places : List Place) : Mapping :=
  ⟨places, match places with
    | [] => []
    | place :: _ => indexed place.entries⟩

/-- The copy of the mapping at a place, whose keys are texts. -/
def copyOf (places : List Place) : Mapping :=
  ⟨places, match places with
    | [] => []
    | place :: _ => indexedCopy place.entries⟩

/-- An entry under a key asks for something. -/
def Asks (m : Mapping) (key : Value) (form : Form) : Prop :=
  ∃ entry ∈ m.entries, entry.key = key ∧ entryForm m.around entry = .ok (some form)

/-- There is an entry under a name. -/
def HasName (m : Mapping) (name : String) : Prop := ∃ entry ∈ m.entries, entry.key = .str name

end Mapping

/-- The mapping of further relations that a form leads to, none if it leads to some columns. -/
def Form.inner? : Form → Option Mapping
  | .whole => some .empty
  | .columns _ => none
  | .under places => some (.ofPlaces places)
  | .bare places => some (.ofPlaces places)

/-- Somewhere on the way down from a mapping, a mapping that only stands for further relations has
an entry named `select`. Such a mapping would be taken for a list of columns once it is expanded. -/
inductive Mapping.HasBareSelect : Mapping → Prop
  /-- An entry is such a mapping. -/
  | here {m : Mapping} {key : Value} {places : List Place} (asks : m.Asks key (.bare places))
      (select : (Mapping.ofPlaces places).HasName "select") : HasBareSelect m
  /-- An entry leads to a mapping from which there is one further down. -/
  | further {m inner : Mapping} {key : Value} {form : Form} (asks : m.Asks key form)
      (leads : form.inner? = some inner) (h : HasBareSelect inner) : HasBareSelect m

namespace Mapping

variable {around : List Place} {entry : IndexedEntry} {rest : List IndexedEntry}

theorem Asks.cons {key : Value} {form : Form} (h : Asks ⟨around, rest⟩ key form) :
    Asks ⟨around, entry :: rest⟩ key form := by
  obtain ⟨e, he, asks⟩ := h
  exact ⟨e, List.mem_cons_of_mem _ he, asks⟩

theorem asks_head {form : Form} (h : entryForm around entry = .ok (some form)) :
    Asks ⟨around, entry :: rest⟩ entry.key form :=
  ⟨entry, List.mem_cons_self, rfl, h⟩

/-- Where only whole records and columns are asked for, there is no such mapping. -/
theorem not_hasBareSelect_of_flat {m : Mapping}
    (flat : ∀ key form, m.Asks key form → form = .whole ∨ ∃ fields, form = .columns fields) :
    ¬ m.HasBareSelect := by
  intro h
  cases h with
  | here asks select =>
    rcases flat _ _ asks with same | ⟨fields, same⟩ <;> cases same
  | further asks leads h =>
    rcases flat _ _ asks with rfl | ⟨fields, rfl⟩
    · cases leads
      cases h with
      | here asks => exact absurd asks.choose_spec.1 List.not_mem_nil
      | further asks => exact absurd asks.choose_spec.1 List.not_mem_nil
    · cases leads

theorem HasBareSelect.cons (h : HasBareSelect ⟨around, rest⟩) :
    HasBareSelect ⟨around, entry :: rest⟩ := by
  cases h with
  | here asks select => exact .here asks.cons select
  | further asks leads h => exact .further asks.cons leads h

end Mapping

/-! ### Expansion -/

/-- What the entries of a mapping are expanded to: those that ask for something, in their order. -/
inductive Expands : List Place → List IndexedEntry → Entries → Prop
  /-- No entries. -/
  | nil {around : List Place} : Expands around [] []
  /-- An entry that asks for nothing. -/
  | skipped {around : List Place} {entry : IndexedEntry} {rest : List IndexedEntry} {tree : Entries}
      (form : entryForm around entry = .ok none) (later : Expands around rest tree) :
      Expands around (entry :: rest) tree
  /-- An entry that asks for the related records. -/
  | whole {around : List Place} {entry : IndexedEntry} {rest : List IndexedEntry} {tree : Entries}
      (form : entryForm around entry = .ok (some .whole)) (later : Expands around rest tree) :
      Expands around (entry :: rest) ((entry.key, .bool true) :: tree)
  /-- An entry that asks for some columns. -/
  | columns {around : List Place} {entry : IndexedEntry} {rest : List IndexedEntry} {tree : Entries}
      {fields : List Value} (form : entryForm around entry = .ok (some (.columns fields)))
      (later : Expands around rest tree) :
      Expands around (entry :: rest) ((entry.key, .map [(.str "select",
        .map (Entries.ofPairs (fields.map fun f => (f, .bool true))))]) :: tree)
  /-- An entry that has further relations under `include`. -/
  | under {around places : List Place} {entry : IndexedEntry} {rest : List IndexedEntry}
      {tree inner : Entries} (form : entryForm around entry = .ok (some (.under places)))
      (down : Expands places (Mapping.ofPlaces places).entries inner)
      (later : Expands around rest tree) :
      Expands around (entry :: rest) ((entry.key, .map [(.str "include", .map inner)]) :: tree)
  /-- An entry that stands for further relations itself. -/
  | bare {around places : List Place} {entry : IndexedEntry} {rest : List IndexedEntry}
      {tree inner : Entries} (form : entryForm around entry = .ok (some (.bare places)))
      (down : Expands places (Mapping.ofPlaces places).entries inner)
      (later : Expands around rest tree) :
      Expands around (entry :: rest) ((entry.key, .map inner) :: tree)

theorem selection_eq_ok {fields : List Value} {v : Value} (h : selection fields = .ok v) :
    v = .map [(.str "select", .map (Entries.ofPairs (fields.map fun f => (f, .bool true))))] := by
  rw [selection] at h
  cases hp : fields.findSome? Value.keyProblem? with
  | some p =>
    rw [hp] at h
    cases h
  | none =>
    rw [hp] at h
    cases h
    rfl

/-- Entries are expanded form by form, if the mappings that they lead to are. -/
theorem expands_of_expandEntries {next : List Place → Except Failure Entries}
    (below : ∀ places tree, next places = .ok tree →
      Expands places (Mapping.ofPlaces places).entries tree)
    {around : List Place} {entries : List IndexedEntry} {tree : Entries}
    (h : expandEntries next around entries = .ok tree) : Expands around entries tree := by
  induction entries generalizing tree with
  | nil =>
    cases h
    exact .nil
  | cons entry rest ih =>
    obtain ⟨here, hh, h⟩ := bind_eq_ok.mp h
    obtain ⟨others, ho, h⟩ := bind_eq_ok.mp h
    rw [expandEntry_eq] at hh
    obtain ⟨form?, hf, hh⟩ := bind_eq_ok.mp hh
    cases form? with
    | none =>
      cases hh
      cases pure_eq_ok.mp h
      exact .skipped hf (ih ho)
    | some form =>
      obtain ⟨v, hv, rfl⟩ := map_eq_ok.mp hh
      cases pure_eq_ok.mp h
      cases form with
      | whole =>
        cases hv
        exact .whole hf (ih ho)
      | columns fields =>
        rw [selection_eq_ok hv]
        exact .columns hf (ih ho)
      | under places =>
        obtain ⟨inner, hi, hv⟩ := bind_eq_ok.mp hv
        cases pure_eq_ok.mp hv
        exact .under hf (below places inner hi) (ih ho)
      | bare places =>
        obtain ⟨inner, hi, hv⟩ := bind_eq_ok.mp hv
        cases pure_eq_ok.mp hv
        exact .bare hf (below places inner hi) (ih ho)

/-- The induction is on the levels that are left. -/
theorem expands_of_expandAt {limit : Int} {levels : Nat} {path : List (List Nat)}
    {places : List Place} {tree : Entries} (h : expandAt limit levels path places = .ok tree) :
    Expands places (Mapping.ofPlaces places).entries tree := by
  induction levels generalizing path places tree with
  | zero =>
    unfold expandAt at h
    split at h <;> cases h
  | succ levels ih =>
    unfold expandAt at h
    split at h
    · cases h
    · cases places with
      | nil =>
        cases h
        exact .nil
      | cons place around => exact expands_of_expandEntries (fun _ _ => ih) h

/-- **What an include is expanded to.** -/
theorem expands_of_expandCopy {limit : Int} {places : List Place} {tree : Entries}
    (h : expandCopy limit places = .ok tree) :
    Expands places (Mapping.copyOf places).entries tree := by
  unfold expandCopy at h
  split at h
  · cases h
  · cases h
    exact .nil
  · exact expands_of_expandEntries (fun _ _ => expands_of_expandAt) h

/-- Only keys of the mapping are keys of what it is expanded to. -/
theorem Expands.exists_entry {around : List Place} {entries : List IndexedEntry} {tree : Entries}
    (h : Expands around entries tree) {key v : Value} (hm : (key, v) ∈ tree) :
    ∃ entry ∈ entries, entry.key = key := by
  induction h with
  | nil => cases hm
  | skipped form later ih =>
    obtain ⟨e, he, hk⟩ := ih hm
    exact ⟨e, List.mem_cons_of_mem _ he, hk⟩
  | whole form later ih | columns form later ih | under form down later _ ih
  | bare form down later _ ih =>
    rcases List.mem_cons.mp hm with same | hm
    · cases same
      exact ⟨_, List.mem_cons_self, rfl⟩
    · obtain ⟨e, he, hk⟩ := ih hm
      exact ⟨e, List.mem_cons_of_mem _ he, hk⟩

/-- A name that no entry has is none of what they are expanded to. -/
theorem Expands.get?_eq_none {around : List Place} {entries : List IndexedEntry} {tree : Entries}
    (h : Expands around entries tree) {name : String}
    (absent : ∀ entry ∈ entries, entry.key ≠ .str name) : Entries.get? tree name = none := by
  rw [Option.eq_none_iff_forall_ne_some]
  intro v found
  obtain ⟨entry, he, hk⟩ := h.exists_entry (Entries.mem_of_get? found)
  exact absent entry he hk

/-- The entries of a mapping are those of its value. -/
theorem mem_indexed {entries : Entries} {entry : IndexedEntry} (h : entry ∈ indexed entries) :
    (entry.key, entry.value) ∈ entries := by
  obtain ⟨⟨⟨key, v⟩, index⟩, hm, rfl⟩ := List.mem_map.mp h
  exact List.fst_mem_of_mem_zipIdx hm

theorem exists_under_of_innerForm {around : List Place} {entries : Entries} {v : Value}
    {form : Form} (h : innerForm around entries v = .ok form) : ∃ places, form = .under places := by
  unfold innerForm at h
  split at h
  · cases h
    exact ⟨_, rfl⟩
  · cases h

/-- An explicit entry never stands for further relations itself. -/
theorem kindForm_ne_bare {around places : List Place} {entries : Entries} {key kind : Value} :
    kindForm around entries key kind ≠ .ok (.bare places) := by
  intro h
  unfold kindForm at h
  split at h
  · cases h
  · split at h
    · cases h
    · split at h
      · obtain ⟨fields, -, hf⟩ := map_eq_ok.mp h
        cases hf
      · split at h
        · split at h
          · obtain ⟨_, hu⟩ := exists_under_of_innerForm h
            cases hu
          · cases h
        · cases h

/-- A mapping that only stands for further relations has no entry named `include`. -/
theorem not_hasName_of_bare {around places : List Place} {entry : IndexedEntry}
    (h : entryForm around entry = .ok (some (.bare places))) :
    ¬ (Mapping.ofPlaces places).HasName "include" := by
  have absent : ∃ place outer, places = place :: outer ∧ place.entries.get? "include" = none := by
    unfold entryForm at h
    split at h
    · cases h
    · cases h
    · cases h
    · split at h
      · obtain ⟨form, hm, hf⟩ := map_eq_ok.mp h
        cases hf
        unfold mappingForm at hm
        split at hm
        · cases hm
        · split at hm
          · exact absurd hm kindForm_ne_bare
          · split at hm
            · obtain ⟨_, hu⟩ := exists_under_of_innerForm hm
              cases hu
            · next absent =>
              cases hm
              exact ⟨_, _, rfl, absent⟩
      · cases h
  obtain ⟨place, outer, rfl, absent⟩ := absent
  rintro ⟨entry, he, hk⟩
  have found : place.entries.has "include" = true :=
    List.any_eq_true.mpr ⟨_, mem_indexed he, by simp [hk]⟩
  rw [Entries.has_iff_get?_isSome, absent] at found
  cases found

end Include

end Recordbook

import Mathlib.Logic.Relation
import Recordbook.Proofs.IncludeComparison

/-!
# The mappings that an include enters

Expansion goes from mapping to mapping. An entry that is a mapping itself leads on in one of three
ways: to what stands under `include`, where there is no `kind`; for the kind `nested` also to that,
or to an empty mapping where it is falsy; and to itself where it has neither name. All other entries
lead nowhere.

What can be wrong with an entry by itself is said apart from expansion, and apart from the form that
the entry has. The two are brought together by the list of all the ways in which an entry is read.

## Implementation notes

A mapping is known by its position, so a mapping is entered again if a place of the same position
is.

## Main definitions

* `Include.onward?`, `Include.entered` — where an entry leads, and what a mapping enters
* `Include.Reaches`, `Include.ReachesOn` — the mappings that are entered in any number of steps, and
  in at least one
* `Include.Cyclic` — some mapping is entered again from itself
* `Include.Sound` — nothing is wrong with the entries of a mapping themselves
* `Include.Misused` — something in an entry is used as what it is not
* `Include.EntryRead` — the ways in which an entry is read

## Main results

* `Include.EntryRead.enteredBy?_eq` — an entry leads to the mapping that its form leads to
* `Include.EntryRead.sound`, `Include.SoundEntry.read` — an entry is read if it is sound
* `Include.EntryRead.failure` — why it is not read
-/

namespace Recordbook

namespace Include

/-! ### Steps -/

/-- The outermost mapping of an include. -/
def root (entries : Entries) : List Place := [⟨[], entries⟩]

/-- Where an entry leads whose value is the mapping at hand. -/
def onward? (places : List Place) : Option (List Place) :=
  let entries := entriesOf places
  match entries.get? "kind" with
  | some kind =>
    if kind.isText "nested" then
      if (entries.getD "include").isTruthy then
        enter? places (indexOf entries "include") (entries.getD "include")
      else some (freshPlaces places)
    else none
  | none => match entries.get? "include" with
    | some inner => enter? places (indexOf entries "include") inner
    | none => some places

/-- The mapping that an entry leads to. -/
def enteredBy? (around : List Place) (e : IndexedEntry) : Option (List Place) :=
  (enter? around e.index e.value).bind onward?

/-- The mappings that the entries of a mapping lead to. -/
def entered (p : List Place) : List (List Place) := (indexed (entriesOf p)).filterMap (enteredBy? p)

/-- A mapping leads to another one in any number of steps. -/
def Reaches : List Place → List Place → Prop := Relation.ReflTransGen fun p q => q ∈ entered p

/-- A mapping leads to another one in at least one step. -/
def ReachesOn : List Place → List Place → Prop := Relation.TransGen fun p q => q ∈ entered p

/-- Some mapping that is reached is entered again from itself. -/
def Cyclic (root : List Place) : Prop :=
  ∃ p q, Reaches root p ∧ ReachesOn p q ∧ positionOf q = positionOf p

theorem mem_entered {p q : List Place} :
    q ∈ entered p ↔ ∃ e ∈ indexed (entriesOf p), enteredBy? p e = some q :=
  List.mem_filterMap

theorem Cyclic.of_reaches {p q : List Place} (h : Reaches p q) (cyclic : Cyclic q) : Cyclic p := by
  obtain ⟨r, t, hr, ht, same⟩ := cyclic
  exact ⟨r, t, h.trans hr, ht, same⟩

/-- Inside of a mapping that is not entered again from itself, nothing is met again. -/
theorem not_mem_of_entered {p q : List Place} {path : List (List Nat)} (acyclic : ¬ Cyclic p)
    (step : q ∈ entered p) (outside : ∀ r, Reaches p r → positionOf r ∉ path) :
    ∀ r, Reaches q r → positionOf r ∉ positionOf p :: path := by
  intro r reaches again
  rcases List.mem_cons.mp again with same | again
  · exact acyclic ⟨p, r, .refl, .head' step reaches, same⟩
  · exact outside r (.head step reaches) again

section kept

variable {property : List Place → Prop} (kept : Kept property) {p q : List Place}

include kept

/-- A property that is kept on the way down is one of the mapping that an entry leads to, if it is
one of the entry. -/
theorem Kept.onward (hp : property p) (h : onward? p = some q) : property q := by
  have below {v : Value} (found : (entriesOf p).get? "include" = some v)
      (enters : enter? p (indexOf (entriesOf p) "include") v = some q) : property q := by
    obtain ⟨key, entry⟩ := getElem?_indexOf found
    exact kept.enter hp _ key v entry q enters
  unfold onward? at h
  dsimp only at h
  split at h
  · split at h
    · split at h
      · rw [Entries.getD] at h
        cases found : (entriesOf p).get? "include" with
        | none =>
          rw [found] at h
          cases h
        | some v =>
          rw [found] at h
          exact below found h
      · cases h
        exact kept.fresh hp
    · cases h
  · split at h
    · next found => exact below found h
    · cases h
      exact hp

/-- It is one of every mapping that is entered. -/
theorem Kept.entered (hp : property p) (h : q ∈ entered p) : property q := by
  obtain ⟨e, he, h⟩ := mem_entered.mp h
  obtain ⟨places, value, h⟩ := Option.bind_eq_some_iff.mp h
  exact kept.onward (kept.enter hp _ _ _ (getElem?_of_mem_indexed he) places value) h

theorem Kept.reaches (hp : property p) (h : Reaches p q) : property q := by
  induction h with
  | refl => exact hp
  | tail _ step ih => exact kept.entered ih step

end kept

/-! ### What can be wrong with an entry -/

/-- What stands under `include` in an entry that leads to it, the entry being the mapping at hand.
-/
def inner? (places : List Place) : Option Value :=
  let entries := entriesOf places
  match entries.get? "kind" with
  | some kind =>
    if kind.isText "nested" && (entries.getD "include").isTruthy then some (entries.getD "include")
    else none
  | none => entries.get? "include"

/-- The columns of an entry of the kind `select`, the entry being the mapping at hand. -/
def selectedFields (places : List Place) : Except Failure (List Value) :=
  listedFields places (indexOf (entriesOf places) "fields") ((entriesOf places).getD "fields")

/-- Nothing is wrong with an entry that is the mapping at hand. -/
structure SoundMapping (places : List Place) : Prop where
  /-- The kind is one of the three. -/
  kind : ∀ kind, (entriesOf places).get? "kind" = some kind →
    kind = .str "shallow" ∨ kind = .str "select" ∨ kind = .str "nested"
  /-- What is entered is a mapping. -/
  inner : ∀ v, inner? places = some v →
    ∃ q, enter? places (indexOf (entriesOf places) "include") v = some q
  /-- The columns can be listed, and each of them can be a key. -/
  fields : (entriesOf places).get? "kind" = some (.str "select") →
    ∃ fields, selectedFields places = .ok fields ∧ ∀ f ∈ fields, f.keyProblem? = none

/-- Nothing is wrong with an entry. -/
structure SoundEntry (around : List Place) (e : IndexedEntry) : Prop where
  /-- Each of the listed columns can be a key. -/
  listed : ∀ fields, e.value = .list fields ∨ e.value = .tuple fields →
    ∀ f ∈ fields, f.keyProblem? = none
  /-- Nothing is wrong with it as a mapping. -/
  mapping : ∀ places, enter? around e.index e.value = some places → SoundMapping places

/-- Nothing is wrong with the entries of a mapping. -/
def Sound (p : List Place) : Prop := ∀ e ∈ indexed (entriesOf p), SoundEntry p e

/-- Something in an entry, which is the mapping at hand, is used as what it is not. -/
inductive MisusedMapping (places : List Place) : Misuse → Prop
  /-- A kind that cannot be looked up. -/
  | kind {kind : Value} {m : Misuse} (given : (entriesOf places).get? "kind" = some kind)
      (problem : kind.keyProblem? = some m) : MisusedMapping places m
  /-- Columns that cannot be listed. -/
  | source {kind : String} (select : (entriesOf places).get? "kind" = some (.str "select"))
      (problem : selectedFields places = .error (.misuse (.notIterable kind))) :
      MisusedMapping places (.notIterable kind)
  /-- A column that cannot be a key. -/
  | field {fields : List Value} {f : Value} {m : Misuse}
      (select : (entriesOf places).get? "kind" = some (.str "select"))
      (listed : selectedFields places = .ok fields) (mem : f ∈ fields)
      (problem : f.keyProblem? = some m) : MisusedMapping places m

/-- Something in an entry is used as what it is not. -/
inductive Misused (around : List Place) (e : IndexedEntry) : Misuse → Prop
  /-- A listed column that cannot be a key. -/
  | listed {fields : List Value} {f : Value} {m : Misuse}
      (list : e.value = .list fields ∨ e.value = .tuple fields) (mem : f ∈ fields)
      (problem : f.keyProblem? = some m) : Misused around e m
  /-- Something in an entry that is a mapping. -/
  | mapping {places : List Place} {m : Misuse}
      (value : enter? around e.index e.value = some places) (problem : MisusedMapping places m) :
      Misused around e m

/-! ### How an entry is read -/

/-- Every way in which an entry is read whose value is the mapping at hand. -/
inductive MappingRead (key : Value) (places : List Place) : Except Failure Form → Prop
  /-- It stands for further relations itself. -/
  | bare (kind : (entriesOf places).get? "kind" = none)
      (inner : (entriesOf places).get? "include" = none) :
      MappingRead key places (.ok (.bare places))
  /-- It has a mapping under `include`. -/
  | under {v : Value} {q : List Place} (kind : (entriesOf places).get? "kind" = none)
      (inner : (entriesOf places).get? "include" = some v)
      (enters : enter? places (indexOf (entriesOf places) "include") v = some q) :
      MappingRead key places (.ok (.under q))
  /-- It has something else under `include`. -/
  | astray {v : Value} (kind : (entriesOf places).get? "kind" = none)
      (inner : (entriesOf places).get? "include" = some v)
      (enters : enter? places (indexOf (entriesOf places) "include") v = none) :
      MappingRead key places (.error (.spec (.includeNotMapping v.kindName)))
  /-- It is of the kind `shallow`. -/
  | shallow (kind : (entriesOf places).get? "kind" = some (.str "shallow")) :
      MappingRead key places (.ok .whole)
  /-- It is of the kind `select`. -/
  | select {fields : List Value} (kind : (entriesOf places).get? "kind" = some (.str "select"))
      (listed : selectedFields places = .ok fields) : MappingRead key places (.ok (.columns fields))
  /-- It is of the kind `select`, with columns that cannot be listed. -/
  | unlisted {name : String} (kind : (entriesOf places).get? "kind" = some (.str "select"))
      (listed : selectedFields places = .error (.misuse (.notIterable name))) :
      MappingRead key places (.error (.misuse (.notIterable name)))
  /-- It is of the kind `nested`, with a mapping under `include`. -/
  | nested {q : List Place} (kind : (entriesOf places).get? "kind" = some (.str "nested"))
      (truthy : ((entriesOf places).getD "include").isTruthy = true)
      (enters : enter? places (indexOf (entriesOf places) "include")
        ((entriesOf places).getD "include") = some q) : MappingRead key places (.ok (.under q))
  /-- It is of the kind `nested`, with something else under `include`. -/
  | nestedAstray (kind : (entriesOf places).get? "kind" = some (.str "nested"))
      (truthy : ((entriesOf places).getD "include").isTruthy = true)
      (enters : enter? places (indexOf (entriesOf places) "include")
        ((entriesOf places).getD "include") = none) :
      MappingRead key places
        (.error (.spec (.includeNotMapping ((entriesOf places).getD "include").kindName)))
  /-- It is of the kind `nested`, with nothing under `include`. -/
  | fresh (kind : (entriesOf places).get? "kind" = some (.str "nested"))
      (falsy : ((entriesOf places).getD "include").isTruthy = false) :
      MappingRead key places (.ok (.under (freshPlaces places)))
  /-- Its kind cannot be looked up. -/
  | unhashable {kind : Value} {m : Misuse} (given : (entriesOf places).get? "kind" = some kind)
      (problem : kind.keyProblem? = some m) : MappingRead key places (.error (.misuse m))
  /-- Its kind is not known. -/
  | unknown {kind : Value} (given : (entriesOf places).get? "kind" = some kind)
      (other : kind ≠ .str "shallow" ∧ kind ≠ .str "select" ∧ kind ≠ .str "nested") :
      MappingRead key places (.error (.spec (.unknownIncludeKind kind key)))

theorem items_error {v : Value} {m : Misuse} (h : v.items = .error m) :
    ∃ kind, m = .notIterable kind := by
  unfold Value.items at h
  split at h <;> cases h
  exact ⟨_, rfl⟩

theorem listedFields_error {around : List Place} {index : Nat} {v : Value} {f : Failure}
    (h : listedFields around index v = .error f) : ∃ kind, f = .misuse (.notIterable kind) := by
  unfold listedFields at h
  split at h
  · cases h
  · split at h
    · split at h
      · cases h
      · next m items =>
        obtain ⟨kind, rfl⟩ := items_error items
        cases h
        exact ⟨kind, rfl⟩
    · cases h

theorem kindRead {places : List Place} {key kind : Value}
    (given : (entriesOf places).get? "kind" = some kind) :
    MappingRead key places (kindForm places (entriesOf places) key kind) := by
  unfold kindForm
  cases problem : kind.keyProblem? with
  | some m => exact .unhashable given problem
  | none =>
    dsimp only
    split
    · next shallow => exact .shallow (given.trans (congrArg some (Value.eq_str_of_isText shallow)))
    · next noShallow =>
      split
      · next select =>
        have kind := given.trans (congrArg some (Value.eq_str_of_isText select))
        cases listed : selectedFields places with
        | ok fields =>
          unfold selectedFields at listed
          rw [listed]
          exact .select kind listed
        | error f =>
          obtain ⟨name, rfl⟩ := listedFields_error listed
          have unlisted := listed
          unfold selectedFields at listed
          rw [listed]
          exact .unlisted kind unlisted
      · next noSelect =>
        split
        · next nested =>
          have kind := given.trans (congrArg some (Value.eq_str_of_isText nested))
          split
          · next truthy =>
            unfold innerForm
            cases enters : enter? places (indexOf (entriesOf places) "include")
              ((entriesOf places).getD "include") with
            | some q => exact .nested kind truthy enters
            | none => exact .nestedAstray kind truthy enters
          · next falsy => exact .fresh kind (Bool.eq_false_iff.mpr falsy)
        · next noNested =>
          simp only [Value.isText_iff] at noShallow noSelect noNested
          exact .unknown given ⟨noShallow, noSelect, noNested⟩

theorem mappingRead (key : Value) {places : List Place} (h : places ≠ []) :
    MappingRead key places (mappingForm key places) := by
  obtain ⟨place, outer, rfl⟩ := List.exists_cons_of_ne_nil h
  rw [mappingForm]
  cases kind : place.entries.get? "kind" with
  | some k => exact kindRead kind
  | none =>
    cases inner : place.entries.get? "include" with
    | none => exact .bare kind inner
    | some v =>
      dsimp only
      unfold innerForm
      cases enters : enter? (place :: outer) (indexOf place.entries "include") v with
      | some q => exact .under kind inner enters
      | none => exact .astray kind inner enters

/-- The mapping that a form leads to. -/
def Form.entered? : Form → Option (List Place)
  | .whole => none
  | .columns _ => none
  | .under places => some places
  | .bare places => some places

section read

variable {key : Value} {places : List Place} {x : Except Failure Form}

theorem MappingRead.onward?_eq (h : MappingRead key places x) {form : Form} (hx : x = .ok form) :
    onward? places = form.entered? := by
  cases h <;> cases hx <;> simp_all [onward?, Form.entered?]

theorem keyProblem?_str (s : String) : (Value.str s).keyProblem? = none := by
  simp [Value.keyProblem?]

/-- A mapping of another kind than `nested` leads nowhere. -/
theorem onward?_of_kind {kind : Value} (given : (entriesOf places).get? "kind" = some kind)
    (other : kind ≠ .str "nested") : onward? places = none := by
  simp only [onward?, given, if_neg (mt Value.isText_iff.mp other)]

/-- A mapping that is not read leads nowhere. -/
theorem MappingRead.onward?_eq_none (h : MappingRead key places x) {f : Failure}
    (hx : x = .error f) : onward? places = none := by
  cases h with
  | bare | under | shallow | select | nested | fresh => cases hx
  | astray kind inner enters => simp only [onward?, kind, inner, enters]
  | unlisted kind => exact onward?_of_kind kind (by simp)
  | nestedAstray kind truthy enters =>
    simp only [onward?, kind, Value.isText_str, decide_true, if_true, truthy, enters]
  | unhashable given problem =>
    refine onward?_of_kind given ?_
    rintro rfl
    cases problem.symm.trans (keyProblem?_str _)
  | unknown given other => exact onward?_of_kind given other.2.2

/-- An entry without a kind is sound if what stands under `include` is a mapping. -/
theorem soundMapping_of_no_kind (kind : (entriesOf places).get? "kind" = none)
    (inner : ∀ v, (entriesOf places).get? "include" = some v →
      ∃ q, enter? places (indexOf (entriesOf places) "include") v = some q) :
    SoundMapping places where
  kind k given := by
    rw [kind] at given
    cases given
  inner v hv := by
    simp only [inner?, kind] at hv
    exact inner v hv
  fields given := by
    rw [kind] at given
    cases given

/-- An entry of a known kind is sound if what this kind needs is there. -/
theorem soundMapping_of_kind {name : String}
    (kind : (entriesOf places).get? "kind" = some (.str name))
    (known : name = "shallow" ∨ name = "select" ∨ name = "nested")
    (inner : name = "nested" → ((entriesOf places).getD "include").isTruthy = true →
      ∃ q, enter? places (indexOf (entriesOf places) "include")
        ((entriesOf places).getD "include") = some q)
    (fields : name = "select" →
      ∃ fields, selectedFields places = .ok fields ∧ ∀ f ∈ fields, f.keyProblem? = none) :
    SoundMapping places where
  kind k given := by
    rw [kind] at given
    cases given
    simpa using known
  inner v hv := by
    simp only [inner?, kind, Value.isText_str, Bool.and_eq_true, decide_eq_true_eq] at hv
    split at hv
    · next h =>
      cases hv
      exact inner h.1 h.2
    · cases hv
  fields given := by
    rw [kind] at given
    cases given
    exact fields rfl

/-- An entry that is read is sound, if its columns can be keys. -/
theorem MappingRead.sound {form : Form} (h : MappingRead key places (.ok form))
    (fields : ∀ fields, form = .columns fields → ∀ f ∈ fields, f.keyProblem? = none) :
    SoundMapping places := by
  cases h with
  | bare kind inner =>
    refine soundMapping_of_no_kind kind fun v hv => ?_
    rw [inner] at hv
    cases hv
  | under kind inner enters =>
    refine soundMapping_of_no_kind kind fun v hv => ?_
    rw [inner] at hv
    cases hv
    exact ⟨_, enters⟩
  | shallow kind =>
    exact soundMapping_of_kind kind (.inl rfl) (fun h => absurd h (by decide))
      fun h => absurd h (by decide)
  | select kind listed =>
    exact soundMapping_of_kind kind (.inr (.inl rfl)) (fun h => absurd h (by decide))
      fun _ => ⟨_, listed, fields _ rfl⟩
  | nested kind truthy enters =>
    exact soundMapping_of_kind kind (.inr (.inr rfl)) (fun _ _ => ⟨_, enters⟩)
      fun h => absurd h (by decide)
  | fresh kind falsy =>
    refine soundMapping_of_kind kind (.inr (.inr rfl)) (fun _ truthy => ?_)
      fun h => absurd h (by decide)
    rw [falsy] at truthy
    cases truthy

/-- A sound entry is read, and its columns can be keys. -/
theorem SoundMapping.read (sound : SoundMapping places) (h : MappingRead key places x) :
    ∃ form, x = .ok form ∧
      ∀ fields, form = .columns fields → ∀ f ∈ fields, f.keyProblem? = none := by
  cases h with
  | bare | under | shallow | nested | fresh => exact ⟨_, rfl, fun _ h => by cases h⟩
  | astray kind inner enters =>
    obtain ⟨q, hq⟩ := sound.inner _ (by simpa [inner?, kind] using inner)
    cases hq.symm.trans enters
  | select kind listed =>
    obtain ⟨fields, hf, keys⟩ := sound.fields kind
    cases hf.symm.trans listed
    refine ⟨_, rfl, fun _ same => ?_⟩
    cases same
    exact keys
  | unlisted kind listed =>
    obtain ⟨fields, hf, -⟩ := sound.fields kind
    cases hf.symm.trans listed
  | nestedAstray kind truthy enters =>
    obtain ⟨q, hq⟩ := sound.inner ((entriesOf places).getD "include")
      (by simp [inner?, kind, truthy])
    cases hq.symm.trans enters
  | unhashable given problem =>
    rcases sound.kind _ given with rfl | rfl | rfl
    all_goals cases problem.symm.trans (keyProblem?_str _)
  | unknown given other =>
    rcases sound.kind _ given with rfl | rfl | rfl
    · exact absurd rfl other.1
    · exact absurd rfl other.2.1
    · exact absurd rfl other.2.2

/-- An entry that is not read is a malformed include, or something in it is misused. -/
theorem MappingRead.failure {f : Failure} (h : MappingRead key places (.error f)) :
    (∃ problem, f = .spec problem) ∨ ∃ m, f = .misuse m ∧ MisusedMapping places m := by
  cases h with
  | astray | nestedAstray | unknown => exact .inl ⟨_, rfl⟩
  | unlisted kind listed => exact .inr ⟨_, rfl, .source kind listed⟩
  | unhashable given problem => exact .inr ⟨_, rfl, .kind given problem⟩

theorem MappingRead.selected {fields : List Value}
    (h : MappingRead key places (.ok (.columns fields))) :
    (entriesOf places).get? "kind" = some (.str "select") ∧ selectedFields places = .ok fields := by
  cases h with
  | select kind listed => exact ⟨kind, listed⟩

end read

/-- Every way in which an entry is read. -/
inductive EntryRead (around : List Place) (e : IndexedEntry) : Except Failure (Option Form) → Prop
  /-- It is `true`. -/
  | whole (value : e.value = .bool true) : EntryRead around e (.ok (some .whole))
  /-- It lists columns. -/
  | columns {fields : List Value} (value : e.value = .list fields ∨ e.value = .tuple fields) :
      EntryRead around e (.ok (some (.columns fields)))
  /-- It is a mapping. -/
  | mapping {places : List Place} {x : Except Failure Form}
      (value : enter? around e.index e.value = some places) (read : MappingRead e.key places x) :
      EntryRead around e (x.map some)
  /-- It is nothing of these. -/
  | skipped (noList : ∀ fields, e.value ≠ .list fields ∧ e.value ≠ .tuple fields)
      (value : enter? around e.index e.value = none) : EntryRead around e (.ok none)

theorem entryRead (around : List Place) (e : IndexedEntry) :
    EntryRead around e (entryForm around e) := by
  obtain ⟨index, key, v⟩ := e
  have other (noList : ∀ fields, v ≠ .list fields ∧ v ≠ .tuple fields) :
      EntryRead around ⟨index, key, v⟩ (valueForm key (enter? around index v)) := by
    cases value : enter? around index v with
    | none => exact .skipped noList value
    | some places => exact .mapping value (mappingRead key (enter?_ne_nil value))
  cases v with
  | bool b =>
    cases b with
    | true => exact .whole rfl
    | false => exact other fun _ => ⟨nofun, nofun⟩
  | list fields => exact .columns (.inl rfl)
  | tuple fields => exact .columns (.inr rfl)
  | _ => exact other fun _ => ⟨nofun, nofun⟩

/-- A list is no mapping. -/
theorem enter?_of_list {around : List Place} {index : Nat} {v : Value} {fields : List Value}
    (h : v = .list fields ∨ v = .tuple fields) : enter? around index v = none := by
  rcases h with rfl | rfl <;> rfl

section read

variable {around : List Place} {e : IndexedEntry} {x : Except Failure (Option Form)}

/-- The mapping that an entry leads to is the one that its form leads to. -/
theorem EntryRead.enteredBy?_eq (h : EntryRead around e x) {form? : Option Form}
    (hx : x = .ok form?) : enteredBy? around e = form?.bind Form.entered? := by
  cases h with
  | whole value =>
    cases hx
    rw [enteredBy?, value]
    rfl
  | columns value =>
    cases hx
    rw [enteredBy?, enter?_of_list value]
    rfl
  | mapping value read =>
    obtain ⟨form, rfl, rfl⟩ := map_eq_ok.mp hx
    rw [enteredBy?, value]
    exact read.onward?_eq rfl
  | skipped noList value =>
    cases hx
    rw [enteredBy?, value]
    rfl

/-- The form of an entry that leads to a mapping leads to this mapping. -/
theorem EntryRead.entered?_eq (h : EntryRead around e x) {q : List Place}
    (leads : enteredBy? around e = some q) :
    ∃ form, x = .ok (some form) ∧ form.entered? = some q := by
  cases h with
  | whole value => simp [enteredBy?, value, enter?] at leads
  | columns value => simp [enteredBy?, enter?_of_list value] at leads
  | @mapping places y value read =>
    rw [enteredBy?, value] at leads
    cases y with
    | error f =>
      rw [Option.bind_some, read.onward?_eq_none rfl] at leads
      cases leads
    | ok form => exact ⟨form, rfl, (read.onward?_eq rfl).symm.trans leads⟩
  | skipped noList value => simp [enteredBy?, value] at leads

theorem EntryRead.sound {form? : Option Form} (h : EntryRead around e x) (hx : x = .ok form?)
    (fields : ∀ fields, form? = some (.columns fields) → ∀ f ∈ fields, f.keyProblem? = none) :
    SoundEntry around e := by
  cases h with
  | whole value => exact ⟨fun _ h => by simp [value] at h, fun _ h => by simp [value, enter?] at h⟩
  | columns value =>
    cases hx
    refine ⟨fun listed h => ?_, fun _ h => by simp [enter?_of_list value] at h⟩
    refine fields listed ?_
    rcases value with hv | hv <;> simp_all
  | mapping value read =>
    obtain ⟨form, rfl, rfl⟩ := map_eq_ok.mp hx
    refine ⟨fun listed h => ?_, fun places h => ?_⟩
    · rw [enter?_of_list h] at value
      cases value
    · cases h.symm.trans value
      exact read.sound fun _ same => fields _ (congrArg some same)
  | skipped noList value =>
    refine ⟨fun listed h => ?_, fun _ h => by simp [value] at h⟩
    rcases h with h | h
    · exact absurd h (noList listed).1
    · exact absurd h (noList listed).2

theorem SoundEntry.read (sound : SoundEntry around e) (h : EntryRead around e x) :
    ∃ form?, x = .ok form? ∧
      ∀ fields, form? = some (.columns fields) → ∀ f ∈ fields, f.keyProblem? = none := by
  cases h with
  | whole value => exact ⟨_, rfl, nofun⟩
  | columns value =>
    refine ⟨_, rfl, fun _ same => ?_⟩
    cases same
    exact sound.listed _ value
  | mapping value read =>
    obtain ⟨form, rfl, fields⟩ := (sound.mapping _ value).read read
    exact ⟨some form, rfl, fun _ same => fields _ (Option.some.inj same)⟩
  | skipped noList value => exact ⟨none, rfl, nofun⟩

theorem EntryRead.failure {f : Failure} (h : EntryRead around e x) (hx : x = .error f) :
    (∃ problem, f = .spec problem) ∨ ∃ m, f = .misuse m ∧ Misused around e m := by
  cases h with
  | whole | columns | skipped => cases hx
  | @mapping places y value read =>
    cases y with
    | ok form => cases hx
    | error g =>
      cases hx
      rcases read.failure with spec | ⟨m, rfl, misused⟩
      · exact .inl spec
      · exact .inr ⟨m, rfl, .mapping value misused⟩

theorem EntryRead.misused {fields : List Value} {f : Value} {m : Misuse}
    (h : EntryRead around e x) (hx : x = .ok (some (.columns fields))) (mem : f ∈ fields)
    (problem : f.keyProblem? = some m) : Misused around e m := by
  cases h with
  | whole => cases hx
  | columns value =>
    cases hx
    exact .listed value mem problem
  | mapping value read =>
    obtain ⟨form, rfl, same⟩ := map_eq_ok.mp hx
    cases same
    obtain ⟨select, listed⟩ := read.selected
    exact .mapping value (.field select listed mem problem)
  | skipped => cases hx

end read

/-- An entry is read like itself, up to the mapping that it leads to. -/
theorem readAlike_self (around : List Place) (e : IndexedEntry) :
    ReadAlike (fun p q => p = q ∧ enteredBy? around e = some p) around around e e := by
  refine ⟨rfl, ?_⟩
  have read := entryRead around e
  cases h : entryForm around e with
  | error f => exact .failed f
  | ok form? =>
    have leads := read.enteredBy?_eq h
    cases form? with
    | none => exact .came .none
    | some form =>
      refine .came (.some ?_)
      cases form with
      | whole => exact .whole
      | columns fields => exact .columns fields
      | under q => exact .under ⟨rfl, leads⟩
      | bare q => exact .bare ⟨rfl, leads⟩

end Include

end Recordbook

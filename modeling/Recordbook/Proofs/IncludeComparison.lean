import Mathlib.Data.List.Forall2
import Recordbook.Proofs.IncludeForms

/-!
# Expansions side by side

Two expansions are compared entry by entry. As long as two entries are read alike, what becomes of
them is decided by the mappings that they lead to. So whatever holds between the expansions of these
holds between the expansions of all the entries, and a comparison comes down to saying which
mappings are compared with which.

How far down an expansion may still go, and which mappings it is inside of, only ever matters for
refusing: with fewer levels left, or inside of more mappings, an expansion comes to the same or is
refused.

## Implementation notes

An outcome may differ from another one in two ways. A failure may take the place of anything, as a
refusal does when there are fewer levels; or it may only take the place of certain failures.

## Main definitions

* `Include.Follows` — an outcome is another one, up to failures that may take its place
* `Include.Alike` — two outcomes are the same failure or related results
* `Include.Coherent` — a relation between mappings with the same entries that is kept on the way
  down, and `Include.Kept`, a property that is kept
* `Include.Refusal` — an include that goes round or goes down too far

## Main results

* `Include.Follows.expandEntries` — entries that are read alike are expanded alike
* `Include.Coherent.readAlike` — under a coherent relation, entries are read alike
* `Include.expandAt_tightened` — fewer levels and more mappings around can only lead to a refusal
-/

namespace Recordbook

namespace Include

/-! ### Outcomes -/

/-- The second outcome is the first one, or a failure that may take its place: some may take any
place, others only that of certain failures. -/
inductive Follows {α : Type} (anyPlace : Failure → Prop) (itsPlace : Failure → Failure → Prop) :
    Except Failure α → Except Failure α → Prop
  /-- The same outcome. -/
  | same (x : Except Failure α) : Follows anyPlace itsPlace x x
  /-- A failure that may take any place. -/
  | any {x : Except Failure α} {g : Failure} (h : anyPlace g) :
      Follows anyPlace itsPlace x (.error g)
  /-- A failure that may take the place of another one. -/
  | instead {f g : Failure} (h : itsPlace f g) : Follows anyPlace itsPlace (.error f) (.error g)

/-- No failure takes the place of anything. -/
theorem eq_of_follows {α : Type} {x y : Except Failure α}
    (h : Follows (fun _ => False) (fun _ _ => False) x y) : x = y := by
  cases h with
  | same => rfl
  | any h => exact h.elim
  | instead h => exact h.elim

/-- Only a failure takes the place of anything. -/
theorem Follows.eq_ok {α : Type} {anyPlace : Failure → Prop} {itsPlace : Failure → Failure → Prop}
    {x : Except Failure α} {a : α} (h : Follows anyPlace itsPlace x (.ok a)) : x = .ok a := by
  cases h
  rfl

/-- Two outcomes are the same failure, or results in a relation. -/
inductive Alike {α β : Type} (related : α → β → Prop) : Except Failure α → Except Failure β → Prop
  /-- The same failure. -/
  | failed (f : Failure) : Alike related (.error f) (.error f)
  /-- Related results. -/
  | came {a : α} {b : β} (h : related a b) : Alike related (.ok a) (.ok b)

theorem Alike.map {α β γ δ : Type} {related : α → β → Prop} {related' : γ → δ → Prop} {f : α → γ}
    {g : β → δ} {x : Except Failure α} {y : Except Failure β} (h : Alike related x y)
    (maps : ∀ a b, related a b → related' (f a) (g b)) : Alike related' (x.map f) (y.map g) := by
  cases h with
  | failed f => exact .failed f
  | came h => exact .came (maps _ _ h)

section follows

variable {α β : Type} {anyPlace : Failure → Prop} {itsPlace : Failure → Failure → Prop}

theorem Follows.bind {x y : Except Failure α} {f g : α → Except Failure β}
    (h : Follows anyPlace itsPlace x y)
    (later : ∀ a, x = .ok a → Follows anyPlace itsPlace (f a) (g a)) :
    Follows anyPlace itsPlace (x >>= f) (y >>= g) := by
  cases h with
  | same =>
    cases x with
    | error e => exact .same _
    | ok a => exact later a rfl
  | any h => exact .any h
  | instead h => exact .instead h

theorem Follows.map {x y : Except Failure α} (f : α → β) (h : Follows anyPlace itsPlace x y) :
    Follows anyPlace itsPlace (x.map f) (y.map f) := by
  cases h with
  | same => exact .same _
  | any h => exact .any h
  | instead h => exact .instead h

end follows

/-! ### Entries -/

/-- Two forms ask for the same, up to the mappings that they lead to. -/
inductive Form.Matches (related : List Place → List Place → Prop) : Form → Form → Prop
  /-- Whole records. -/
  | whole : Matches related .whole .whole
  /-- The same columns. -/
  | columns (fields : List Value) : Matches related (.columns fields) (.columns fields)
  /-- Related mappings under `include`. -/
  | under {p q : List Place} (h : related p q) : Matches related (.under p) (.under q)
  /-- Related mappings that stand for further relations themselves. -/
  | bare {p q : List Place} (h : related p q) : Matches related (.bare p) (.bare q)

/-- Two entries, each in its mapping, are read alike. -/
def ReadAlike (related : List Place → List Place → Prop) (p q : List Place)
    (e d : IndexedEntry) : Prop :=
  e.key = d.key ∧ Alike (Option.Rel (Form.Matches related)) (entryForm p e) (entryForm q d)

theorem Form.Matches.mono {related related' : List Place → List Place → Prop} {f g : Form}
    (h : f.Matches related g) (le : ∀ p q, related p q → related' p q) : f.Matches related' g := by
  cases h with
  | whole => exact .whole
  | columns fields => exact .columns fields
  | under h => exact .under (le _ _ h)
  | bare h => exact .bare (le _ _ h)

theorem ReadAlike.mono {related related' : List Place → List Place → Prop} {p q : List Place}
    {e d : IndexedEntry} (h : ReadAlike related p q e d)
    (le : ∀ p q, related p q → related' p q) : ReadAlike related' p q e d := by
  obtain ⟨key, h⟩ := h
  refine ⟨key, ?_⟩
  generalize entryForm p e = x at h ⊢
  generalize entryForm q d = y at h ⊢
  cases h with
  | failed f => exact .failed f
  | came h =>
    cases h with
    | none => exact .came .none
    | some h => exact .came (.some (h.mono le))

section expansion

variable {related : List Place → List Place → Prop} {anyPlace : Failure → Prop}
  {itsPlace : Failure → Failure → Prop} {next next' : List Place → Except Failure Entries}
  (below : ∀ p q, related p q → Follows anyPlace itsPlace (next p) (next' q))

include below

theorem Follows.expandForm {f g : Form} (h : f.Matches related g) :
    Follows anyPlace itsPlace (f.expand next) (g.expand next') := by
  cases h with
  | whole => exact .same _
  | columns fields => exact .same _
  | under h => exact (below _ _ h).bind fun _ _ => .same _
  | bare h => exact (below _ _ h).bind fun _ _ => .same _

theorem Follows.expandEntry {p q : List Place} {e d : IndexedEntry}
    (h : ReadAlike related p q e d) :
    Follows anyPlace itsPlace (expandEntry next p e.index e.key e.value)
      (expandEntry next' q d.index d.key d.value) := by
  rw [expandEntry_eq, expandEntry_eq]
  obtain ⟨-, h⟩ := h
  generalize entryForm p e = x at h
  generalize entryForm q d = y at h
  cases h with
  | failed f => exact .same _
  | came h =>
    cases h with
    | none => exact .same _
    | some h => exact (expandForm below h).map some

/-- **Entries that are read alike are expanded alike.** -/
theorem Follows.expandEntries {p q : List Place} {es ds : List IndexedEntry}
    (h : List.Forall₂ (ReadAlike related p q) es ds) :
    Follows anyPlace itsPlace (expandEntries next p es) (expandEntries next' q ds) := by
  induction h with
  | nil => exact .same _
  | cons head _ ih =>
    refine (expandEntry below head).bind fun tree _ => ih.bind fun others _ => ?_
    rw [head.1]
    exact .same _

end expansion

/-! ### Reading entries in two places -/

/-- The entries of the mapping at hand. -/
def entriesOf : List Place → Entries
  | [] => []
  | place :: _ => place.entries

/-- The form of an entry whose value is neither `true` nor a list, by the mapping that it is. -/
def valueForm (key : Value) : Option (List Place) → Except Failure (Option Form)
  | some places => (mappingForm key places).map some
  | none => .ok none

/-- The place of a mapping without entries, taken where nothing stands under `include`. -/
def freshPlaces (p : List Place) : List Place := ⟨(entriesOf p).length :: positionOf p, []⟩ :: p

/-- The two ways to get to a mapping: it is the value, or the value refers back to it. -/
theorem enter?_eq_some {around places : List Place} {index : Nat} {v : Value}
    (h : enter? around index v = some places) :
    (∃ entries, v = .map entries ∧ places = ⟨index :: positionOf around, entries⟩ :: around) ∨
      ∃ levels, v = .up levels ∧ places = around.drop (levels - 1) := by
  unfold enter? at h
  split at h
  · next entries =>
    cases h
    exact .inl ⟨entries, rfl, rfl⟩
  · next levels =>
    split at h
    · cases h
    · cases h
      exact .inr ⟨levels, rfl, rfl⟩
  · cases h

/-- A reference leads to a mapping if there are enough around it. -/
theorem enter?_up {around : List Place} {levels : Nat} (index : Nat)
    (ne : around.drop (levels - 1) ≠ []) :
    enter? around index (.up levels) = some (around.drop (levels - 1)) := by
  rw [enter?]
  split
  · contradiction
  · rfl

/-- An entry stands in its mapping at its index. -/
theorem getElem?_of_mem_indexed {es : Entries} {e : IndexedEntry} (h : e ∈ indexed es) :
    es[e.index]? = some (e.key, e.value) := by
  obtain ⟨⟨⟨key, v⟩, index⟩, hm, rfl⟩ := List.mem_map.mp h
  exact List.mem_zipIdx_iff_getElem?.mp hm

/-- What is found under a name stands in the mapping at the index of the name. -/
theorem getElem?_indexOf {es : Entries} {name : String} {v : Value} (h : es.get? name = some v) :
    ∃ key, es[indexOf es name]? = some (key, v) := by
  obtain ⟨⟨key, w⟩, found, rfl⟩ := Option.map_eq_some_iff.mp h
  refine ⟨key, ?_⟩
  rw [indexOf, ← List.find?_eq_getElem?_findIdx]
  exact found

/-- A relation between mappings with the same entries, kept on the way down: where one entry leads
to a mapping, so does the other, and these are related again. -/
structure Coherent (related : List Place → List Place → Prop) : Prop where
  /-- Related mappings have the same entries. -/
  entries : ∀ {p q}, related p q → entriesOf p = entriesOf q
  /-- The values of the entries lead to related mappings. -/
  enter : ∀ {p q}, related p q → ∀ index key v, (entriesOf p)[index]? = some (key, v) →
    Option.Rel related (enter? p index v) (enter? q index v)
  /-- Mappings taken where there is none are related. -/
  fresh : ∀ {p q}, related p q → related (freshPlaces p) (freshPlaces q)

namespace Coherent

variable {related : List Place → List Place → Prop} (coherent : Coherent related) {p q : List Place}

include coherent

/-- So does what stands under a name. -/
theorem enter_get? (h : related p q) {name : String} {v : Value}
    (found : (entriesOf p).get? name = some v) :
    Option.Rel related (enter? p (indexOf (entriesOf p) name) v)
      (enter? q (indexOf (entriesOf p) name) v) := by
  obtain ⟨key, entry⟩ := getElem?_indexOf found
  exact coherent.enter h _ key v entry

theorem enter_getD (h : related p q) (name : String) :
    Option.Rel related (enter? p (indexOf (entriesOf p) name) ((entriesOf p).getD name))
      (enter? q (indexOf (entriesOf p) name) ((entriesOf p).getD name)) := by
  rw [Entries.getD]
  cases found : (entriesOf p).get? name with
  | none => exact .none
  | some v => exact coherent.enter_get? h found

omit coherent in
theorem alike_innerForm {entries : Entries} {v : Value}
    (h : Option.Rel related (enter? p (indexOf entries "include") v)
      (enter? q (indexOf entries "include") v)) :
    Alike (Form.Matches related) (innerForm p entries v) (innerForm q entries v) := by
  unfold innerForm
  generalize enter? p (indexOf entries "include") v = x at h ⊢
  generalize enter? q (indexOf entries "include") v = y at h ⊢
  cases h with
  | none => exact .failed _
  | some h => exact .came (.under h)

theorem listedFields_eq (h : related p q) (name : String) :
    listedFields p (indexOf (entriesOf p) name) ((entriesOf p).getD name) =
      listedFields q (indexOf (entriesOf p) name) ((entriesOf p).getD name) := by
  have entered := coherent.enter_getD h name
  unfold listedFields
  generalize hx : enter? p (indexOf (entriesOf p) name) ((entriesOf p).getD name) = x at entered ⊢
  generalize hy : enter? q (indexOf (entriesOf p) name) ((entriesOf p).getD name) = y at entered ⊢
  cases entered with
  | none => rfl
  | @some a b h =>
    have same := coherent.entries h
    cases a with
    | nil => exact absurd rfl (enter?_ne_nil hx)
    | cons place outer =>
      cases b with
      | nil => exact absurd rfl (enter?_ne_nil hy)
      | cons place' outer' => exact congrArg (fun es => Except.ok (List.map Prod.fst es)) same

theorem alike_kindForm (h : related p q) (key kind : Value) :
    Alike (Form.Matches related) (kindForm p (entriesOf p) key kind)
      (kindForm q (entriesOf p) key kind) := by
  unfold kindForm
  cases kind.keyProblem? with
  | some problem => exact .failed _
  | none =>
    dsimp only
    split
    · exact .came .whole
    · split
      · rw [coherent.listedFields_eq h]
        cases listedFields q (indexOf (entriesOf p) "fields") ((entriesOf p).getD "fields") with
        | error f => exact .failed f
        | ok fields => exact .came (.columns fields)
      · split
        · split
          · exact alike_innerForm (coherent.enter_getD h _)
          · have fresh := coherent.fresh h
            unfold freshPlaces at fresh
            rw [← coherent.entries h] at fresh
            exact .came (.under fresh)
        · exact .failed _

theorem alike_mappingForm (key : Value) (hp : p ≠ []) (hq : q ≠ []) (h : related p q) :
    Alike (Form.Matches related) (mappingForm key p) (mappingForm key q) := by
  have same := coherent.entries h
  have kind := coherent.alike_kindForm h key
  have inner {v : Value} (found : (entriesOf p).get? "include" = some v) :=
    alike_innerForm (coherent.enter_get? h found)
  cases p with
  | nil => exact absurd rfl hp
  | cons place outer =>
    cases q with
    | nil => exact absurd rfl hq
    | cons place' outer' =>
      change place.entries = place'.entries at same
      change ∀ v, Alike _ (kindForm _ place.entries key v) (kindForm _ place.entries key v) at kind
      rw [mappingForm, mappingForm, ← same]
      cases place.entries.get? "kind" with
      | some v => exact kind v
      | none =>
        cases found : place.entries.get? "include" with
        | some v => exact inner found
        | none => exact .came (.bare h)

/-- **Under a coherent relation, entries are read alike**, wherever what they lead to is related. -/
theorem readAlike (index : Nat) (key v : Value) (around around' : List Place)
    (h : Option.Rel related (enter? around index v) (enter? around' index v)) :
    ReadAlike related around around' ⟨index, key, v⟩ ⟨index, key, v⟩ := by
  refine ⟨rfl, ?_⟩
  have entered : Alike (Option.Rel (Form.Matches related))
      (valueForm key (enter? around index v)) (valueForm key (enter? around' index v)) := by
    generalize hx : enter? around index v = x at h
    generalize hy : enter? around' index v = y at h
    cases h with
    | none => exact .came .none
    | some h =>
      exact (coherent.alike_mappingForm key (enter?_ne_nil hx) (enter?_ne_nil hy) h).map
        fun _ _ => .some
  cases v with
  | bool b =>
    cases b with
    | true => exact .came (.some .whole)
    | false => exact entered
  | list fields => exact .came (.some (.columns fields))
  | tuple fields => exact .came (.some (.columns fields))
  | _ => exact entered

/-- The entries of related mappings are read alike. -/
theorem readAlike_indexed (h : related p q) :
    List.Forall₂ (ReadAlike related p q) (indexed (entriesOf p)) (indexed (entriesOf q)) := by
  rw [← coherent.entries h, List.forall₂_same]
  rintro ⟨index, key, v⟩ he
  exact coherent.readAlike index key v p q
    (coherent.enter h index key v (getElem?_of_mem_indexed he))

end Coherent

/-- A property of mappings that is kept on the way down. -/
structure Kept (property : List Place → Prop) : Prop where
  /-- It is kept by the values of the entries. -/
  enter : ∀ {p}, property p → ∀ index key v, (entriesOf p)[index]? = some (key, v) →
    ∀ q, enter? p index v = some q → property q
  /-- It is kept by a mapping that is taken where there is none. -/
  fresh : ∀ {p}, property p → property (freshPlaces p)

/-- A property that is kept, as a relation of each mapping to itself. -/
theorem Kept.coherent {property : List Place → Prop} (kept : Kept property) :
    Coherent fun p q => p = q ∧ property p where
  entries h := congrArg entriesOf h.1
  enter := by
    rintro p _ ⟨rfl, hp⟩ index key v entry
    cases found : enter? p index v with
    | none => exact .none
    | some q => exact .some ⟨rfl, kept.enter hp index key v entry q found⟩
  fresh := by
    rintro p _ ⟨rfl, hp⟩
    exact ⟨rfl, kept.fresh hp⟩

theorem kept_true : Kept fun _ => True where
  enter _ _ _ _ _ _ _ := trivial
  fresh _ := trivial

/-! ### One mapping -/

/-- An include goes round, or goes down too far. -/
def Refusal (limit : Int) (f : Failure) : Prop :=
  f = .spec .cyclicInclude ∨ f = .spec (.deepInclude limit)

section expandAt

variable {limit : Int} {levels : Nat} {path : List (List Nat)} {p : List Place}

/-- A mapping that is being expanded already is refused. -/
theorem expandAt_of_mem (h : positionOf p ∈ path) :
    expandAt limit levels path p = .error (.spec .cyclicInclude) := by
  unfold expandAt
  rw [if_pos (List.contains_iff_mem.mpr h)]

/-- A mapping is refused where no levels are left. -/
theorem expandAt_zero (h : positionOf p ∉ path) :
    expandAt limit 0 path p = .error (.spec (.deepInclude limit)) := by
  unfold expandAt
  rw [if_neg (mt List.contains_iff_mem.mp h)]

/-- Otherwise its entries are expanded, inside of it and with one level less. -/
theorem expandAt_succ (h : positionOf p ∉ path) :
    expandAt limit (levels + 1) path p =
      expandEntries (expandAt limit levels (positionOf p :: path)) p (indexed (entriesOf p)) := by
  cases p with
  | nil =>
    rw [expandAt, if_neg (mt List.contains_iff_mem.mp h)]
    rfl
  | cons place outer =>
    rw [expandAt, if_neg (mt List.contains_iff_mem.mp h)]
    rfl

end expandAt

/-- **Fewer levels and more mappings around can only lead to a refusal.** -/
theorem expandAt_tightened {limit limit' : Int} {levels levels' : Nat} (le : levels' ≤ levels)
    {path path' : List (List Nat)} (sub : path ⊆ path') (p : List Place) :
    Follows (Refusal limit') (fun _ _ => False) (expandAt limit levels path p)
      (expandAt limit' levels' path' p) := by
  induction levels generalizing levels' path path' p with
  | zero =>
    obtain rfl := Nat.le_zero.mp le
    by_cases inside : positionOf p ∈ path'
    · rw [expandAt_of_mem inside]
      exact .any (.inl rfl)
    · rw [expandAt_zero inside]
      exact .any (.inr rfl)
  | succ levels ih =>
    by_cases inside : positionOf p ∈ path'
    · rw [expandAt_of_mem inside]
      exact .any (.inl rfl)
    · cases levels' with
      | zero =>
        rw [expandAt_zero inside]
        exact .any (.inr rfl)
      | succ levels' =>
        rw [expandAt_succ inside, expandAt_succ fun h => inside (sub h)]
        have below (q q' : List Place) (h : q = q' ∧ True) :
            Follows (Refusal limit') (fun _ _ => False)
              (expandAt limit levels (positionOf p :: path) q)
              (expandAt limit' levels' (positionOf p :: path') q') := by
          obtain ⟨rfl, -⟩ := h
          exact ih (Nat.le_of_succ_le_succ le) (List.cons_subset_cons _ sub) q
        exact Follows.expandEntries below (kept_true.coherent.readAlike_indexed ⟨rfl, trivial⟩)

end Include

end Recordbook

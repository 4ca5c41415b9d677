import Recordbook.Proofs.IncludeReferences

/-!
# Explicit entries of an include

An entry of an include may name its kind or leave it to the form of its value: `true` is of the kind
`shallow`, a list of columns of the kind `select`, and a mapping under `include` of the kind
`nested`. Either spelling may be used for any entry of any mapping that is entered, and an include
is expanded to the same whichever is used, or refused for the same reason.

## Implementation notes

An include is acyclic if no mapping in it contains itself, and that is one without references: a
mapping that is used in several places is given in each of them. Two spellings have their mappings
in different positions, which matters only to references. Without any, a mapping is further down
than all those around it, so it is none of the mappings being expanded in either spelling.

## Main definitions

* `Include.Respelling` — the two spellings of an entry
* `Include.RespelledOnce` — two includes that differ in the spelling of one entry

## Main results

* `Include.Paired.readAlike` — respelled entries are read alike
* `Include.expandAt_respelled` — respelled mappings are expanded alike
* `kinds_interchangeable` — how the entries of an include are spelled makes no difference
-/

namespace Recordbook

namespace Include

/-! ### Spellings -/

/-- The two spellings of an entry: with the kind left to the form of the value, and with the kind,
which may be given first or last. -/
inductive Respelling : Value → Value → Prop
  /-- The related records. -/
  | shallow : Respelling (.bool true) (.map [(.str "kind", .str "shallow")])
  /-- Some columns of them. -/
  | select {fields : List Value} {v : Value} {explicit : Entries}
      (lists : v = .list fields ∨ v = .tuple fields)
      (either : explicit = [(.str "kind", .str "select"), (.str "fields", v)] ∨
        explicit = [(.str "fields", v), (.str "kind", .str "select")]) :
      Respelling v (.map explicit)
  /-- Records related to them in turn. -/
  | nested {inner explicit : Entries}
      (either : explicit = [(.str "kind", .str "nested"), (.str "include", .map inner)] ∨
        explicit = [(.str "include", .map inner), (.str "kind", .str "nested")]) :
      Respelling (.map [(.str "include", .map inner)]) (.map explicit)

/-- The second include is the first one with the kind of one entry spelled out, the entry being one
of a mapping that is entered. -/
inductive RespelledOnce : Entries → Entries → Prop
  /-- The entry is one of the mapping itself. -/
  | here (front back : Entries) {key v v' : Value} (h : Respelling v v') :
      RespelledOnce (front ++ (key, v) :: back) (front ++ (key, v') :: back)
  /-- The entry is in a mapping that stands for further relations itself. -/
  | bare (front back : Entries) {key : Value} {inner inner' : Entries}
      (noKind : inner.get? "kind" = none) (noInclude : inner.get? "include" = none)
      (h : RespelledOnce inner inner') :
      RespelledOnce (front ++ (key, .map inner) :: back) (front ++ (key, .map inner') :: back)
  /-- The entry is in a mapping under `include`, where there is no kind or the kind is `nested`. -/
  | under (front back before after : Entries) {key : Value} {inner inner' : Entries}
      (first : Entries.get? before "include" = none)
      (kind : Entries.get? (before ++ after) "kind" = none ∨
        Entries.get? (before ++ after) "kind" = some (.str "nested"))
      (h : RespelledOnce inner inner') :
      RespelledOnce (front ++ (key, .map (before ++ (.str "include", .map inner) :: after)) :: back)
        (front ++ (key, .map (before ++ (.str "include", .map inner') :: after)) :: back)

/-- The values of an entry in which two such includes differ. -/
inductive RespelledValue : Value → Value → Prop
  /-- It is the entry that is spelled out. -/
  | spelling {v v' : Value} (h : Respelling v v') : RespelledValue v v'
  /-- It stands for further relations itself, one of which is spelled out. -/
  | bare {inner inner' : Entries} (noKind : inner.get? "kind" = none)
      (noInclude : inner.get? "include" = none) (h : RespelledOnce inner inner') :
      RespelledValue (.map inner) (.map inner')
  /-- It has further relations under `include`, one of which is spelled out. -/
  | under {before after inner inner' : Entries} (first : Entries.get? before "include" = none)
      (kind : Entries.get? (before ++ after) "kind" = none ∨
        Entries.get? (before ++ after) "kind" = some (.str "nested"))
      (h : RespelledOnce inner inner') :
      RespelledValue (.map (before ++ (.str "include", .map inner) :: after))
        (.map (before ++ (.str "include", .map inner') :: after))

section spelling

variable {spec spec' : Entries}

/-- Two such includes differ in the value of one entry. -/
theorem RespelledOnce.exists_entry (h : RespelledOnce spec spec') :
    ∃ front key v v' back, spec = front ++ (key, v) :: back ∧ spec' = front ++ (key, v') :: back ∧
      RespelledValue v v' := by
  cases h with
  | here front back h => exact ⟨front, _, _, _, back, rfl, rfl, .spelling h⟩
  | bare front back noKind noInclude h =>
    exact ⟨front, _, _, _, back, rfl, rfl, .bare noKind noInclude h⟩
  | under front back before after first kind h =>
    exact ⟨front, _, _, _, back, rfl, rfl, .under first kind h⟩

theorem RespelledOnce.ne_nil (h : RespelledOnce spec spec') : spec ≠ [] ∧ spec' ≠ [] := by
  obtain ⟨front, key, v, v', back, rfl, rfl, -⟩ := h.exists_entry
  exact ⟨by simp, by simp⟩

/-- They have the same names. -/
theorem RespelledOnce.get?_eq_none (h : RespelledOnce spec spec') {name : String}
    (absent : spec.get? name = none) : spec'.get? name = none := by
  obtain ⟨front, key, v, v', back, rfl, rfl, -⟩ := h.exists_entry
  rw [Entries.get?_append, Option.or_eq_none_iff, Entries.get?_cons] at absent ⊢
  obtain ⟨absent, here⟩ := absent
  split at here
  · cases here
  · next other => exact ⟨absent, by rwa [if_neg other]⟩

theorem Respelling.hasNoReference_eq {v v' : Value} (h : Respelling v v') :
    v.hasNoReference = v'.hasNoReference := by
  have text (s : String) : (Value.str s).hasNoReference = true := rfl
  cases h with
  | shallow => rfl
  | select lists either => rcases either with rfl | rfl <;> simp [text]
  | nested either => rcases either with rfl | rfl <;> simp [text]

/-- There is a reference in the one if there is one in the other. -/
theorem RespelledOnce.hasNoReference_eq (h : RespelledOnce spec spec') :
    (Value.map spec).hasNoReference = (Value.map spec').hasNoReference := by
  induction h with
  | here front back h =>
    simp only [Value.hasNoReference_map, List.all_append, List.all_cons, h.hasNoReference_eq]
  | bare _ _ _ _ _ ih | under _ _ _ _ _ _ _ ih =>
    simp only [Value.hasNoReference_map, List.all_append, List.all_cons] at ih ⊢
    rw [ih]

end spelling

/-! ### Reading entries -/

/-- Two mappings whose entries are alike and have no references, each so far down. -/
structure Paired (alike : Entries → Entries → Prop) (depth depth' : Nat) (p q : List Place) :
    Prop where
  /-- The entries are alike. -/
  entries : alike (entriesOf p) (entriesOf q)
  /-- There is no reference in them. -/
  plain : (Value.map (entriesOf p)).hasNoReference = true
  /-- The first mapping is so far down. -/
  deep : depth ≤ (positionOf p).length
  /-- The second mapping is so far down. -/
  deep' : depth' ≤ (positionOf q).length

/-- Two mappings that differ in the spelling of one entry at most. -/
abbrev Respelled : Nat → Nat → List Place → List Place → Prop :=
  Paired (Relation.ReflGen RespelledOnce)

section reading

variable {depth depth' : Nat} {p q : List Place}

theorem Paired.respelled (h : Paired Eq depth depth' p q) : Respelled depth depth' p q :=
  ⟨(Relation.reflGen_iff _ _ _).mpr (.inl h.entries.symm), h.plain, h.deep, h.deep'⟩

/-- A value without references leads to mappings further down that have the same entries. -/
theorem paired_of_enter {v : Value} (plain : v.hasNoReference = true) (index : Nat)
    (deep : depth ≤ (positionOf p).length + 1) (deep' : depth' ≤ (positionOf q).length + 1) :
    Option.Rel (Paired Eq depth depth') (enter? p index v) (enter? q index v) := by
  cases v with
  | map entries => exact .some ⟨rfl, plain, deep, deep'⟩
  | up levels => cases plain
  | _ => exact .none

theorem coherent_paired (depth depth' : Nat) : Coherent (Paired Eq depth depth') where
  entries h := h.entries
  enter := by
    intro p q h index key v entry
    have plain := h.plain
    rw [Value.hasNoReference_map, List.all_eq_true] at plain
    exact paired_of_enter (plain (key, v) (List.mem_of_getElem? entry)) index
      (Nat.le_succ_of_le h.deep) (Nat.le_succ_of_le h.deep')
  fresh h := ⟨rfl, rfl, Nat.le_succ_of_le h.deep, Nat.le_succ_of_le h.deep'⟩

/-- An entry without references is read alike in two mappings. -/
theorem readAlike_of_hasNoReference {v : Value} (plain : v.hasNoReference = true) (index : Nat)
    (key : Value) (p q : List Place) :
    ReadAlike (Respelled ((positionOf p).length + 1) ((positionOf q).length + 1)) p q
      ⟨index, key, v⟩ ⟨index, key, v⟩ :=
  ((coherent_paired _ _).readAlike index key v p q
    (paired_of_enter plain index (Nat.le_refl _) (Nat.le_refl _))).mono fun _ _ => Paired.respelled

/-- An entry has a mapping with such entries under `include`. -/
def HasUnder (p : List Place) (e : IndexedEntry) (inner : Entries) : Prop :=
  ∃ q, entryForm p e = .ok (some (.under q)) ∧ entriesOf q = inner ∧
    (positionOf q).length = (positionOf p).length + 2

theorem HasUnder.readAlike {key v v' : Value} {index : Nat} {inner inner' : Entries}
    (h : HasUnder p ⟨index, key, v⟩ inner) (h' : HasUnder q ⟨index, key, v'⟩ inner')
    (entries : Relation.ReflGen RespelledOnce inner inner')
    (plain : (Value.map inner).hasNoReference = true) :
    ReadAlike (Respelled ((positionOf p).length + 1) ((positionOf q).length + 1)) p q
      ⟨index, key, v⟩ ⟨index, key, v'⟩ := by
  obtain ⟨p', form, rfl, deep⟩ := h
  obtain ⟨q', form', rfl, deep'⟩ := h'
  refine ⟨rfl, ?_⟩
  rw [form, form']
  exact .came (.some (.under ⟨entries, plain, by omega, by omega⟩))

/-- What is under `include` in an entry without a kind, or of the kind `nested`. -/
theorem hasUnder_of_include (p : List Place) (index : Nat) (key : Value) {entries inner : Entries}
    (found : entries.get? "include" = some (.map inner)) (ne : inner ≠ [])
    (kind : entries.get? "kind" = none ∨ entries.get? "kind" = some (.str "nested")) :
    HasUnder p ⟨index, key, .map entries⟩ inner := by
  have leads : mappingForm key (⟨index :: positionOf p, entries⟩ :: p) =
      .ok (.under (⟨indexOf entries "include" :: index :: positionOf p, inner⟩ ::
        ⟨index :: positionOf p, entries⟩ :: p)) := by
    rw [mappingForm]
    rcases kind with kind | kind
    · simp only [kind, found]
      rfl
    · have truthy : (Value.map inner).isTruthy = true := by simpa [Value.isTruthy] using ne
      simp only [kind, kindForm, keyProblem?_str, Value.isText_str, Entries.getD, found,
        Option.getD_some, truthy]
      rfl
  have form : entryForm p ⟨index, key, .map entries⟩ =
      .ok (some (.under (⟨indexOf entries "include" :: index :: positionOf p, inner⟩ ::
        ⟨index :: positionOf p, entries⟩ :: p))) := by
    change (mappingForm key (⟨index :: positionOf p, entries⟩ :: p)).map some = _
    rw [leads]
    rfl
  exact ⟨_, form, rfl, rfl⟩

/-- The two spellings of an entry are read alike. -/
theorem Respelling.readAlike {v v' : Value} (h : Respelling v v') (plain : v.hasNoReference = true)
    (index : Nat) (key : Value) (p q : List Place) :
    ReadAlike (Respelled ((positionOf p).length + 1) ((positionOf q).length + 1)) p q
      ⟨index, key, v⟩ ⟨index, key, v'⟩ := by
  cases h with
  | shallow => exact ⟨rfl, .came (.some .whole)⟩
  | @select fields v explicit lists either =>
    have implicit : entryForm p ⟨index, key, v⟩ = .ok (some (.columns fields)) := by
      rcases lists with rfl | rfl <;> rfl
    have spelled : entryForm q ⟨index, key, .map explicit⟩ = .ok (some (.columns fields)) := by
      -- an empty list is falsy, and then it is not looked at
      rcases lists with rfl | rfl <;> rcases either with rfl | rfl <;> cases fields <;> rfl
    refine ⟨rfl, ?_⟩
    rw [implicit, spelled]
    exact .came (.some (.columns fields))
  | @nested inner explicit either =>
    have implicit : HasUnder p ⟨index, key, .map [(.str "include", .map inner)]⟩ inner :=
      ⟨_, rfl, rfl, rfl⟩
    have spelled : HasUnder q ⟨index, key, .map explicit⟩ inner := by
      -- an empty mapping is falsy, and then one is taken that is empty as well
      rcases either with rfl | rfl <;> cases inner <;> exact ⟨_, rfl, rfl, rfl⟩
    exact implicit.readAlike spelled .refl (by simpa using plain)

/-- The values in which two includes differ are read alike. -/
theorem RespelledValue.readAlike {v v' : Value} (h : RespelledValue v v')
    (plain : v.hasNoReference = true) (index : Nat) (key : Value) (p q : List Place) :
    ReadAlike (Respelled ((positionOf p).length + 1) ((positionOf q).length + 1)) p q
      ⟨index, key, v⟩ ⟨index, key, v'⟩ := by
  cases h with
  | spelling h => exact h.readAlike plain index key p q
  | bare noKind noInclude h =>
    have form {entries : Entries} (noKind : entries.get? "kind" = none)
        (noInclude : entries.get? "include" = none) (p : List Place) :
        entryForm p ⟨index, key, .map entries⟩ =
          .ok (some (.bare (⟨index :: positionOf p, entries⟩ :: p))) := by
      change (mappingForm key (⟨index :: positionOf p, entries⟩ :: p)).map some = _
      rw [mappingForm]
      simp only [noKind, noInclude]
      rfl
    refine ⟨rfl, ?_⟩
    rw [form noKind noInclude, form (h.get?_eq_none noKind) (h.get?_eq_none noInclude)]
    exact .came (.some (.bare ⟨.single h, plain, Nat.le_refl _, Nat.le_refl _⟩))
  | @under before after inner inner' first kind h =>
    have found (inner : Entries) :
        Entries.get? (before ++ (.str "include", .map inner) :: after) "include" =
          some (.map inner) := by
      rw [Entries.get?_append, first, Entries.get?_cons]
      rfl
    have sameKind (inner : Entries) :
        Entries.get? (before ++ (.str "include", .map inner) :: after) "kind" =
          Entries.get? (before ++ after) "kind" := by
      rw [Entries.get?_append, Entries.get?_append, Entries.get?_cons]
      rfl
    rw [Value.hasNoReference_map, List.all_append, List.all_cons, Bool.and_eq_true,
      Bool.and_eq_true] at plain
    exact (hasUnder_of_include p index key (found inner) h.ne_nil.1 (by rwa [sameKind])).readAlike
      (hasUnder_of_include q index key (found inner') h.ne_nil.2 (by rwa [sameKind])) (.single h)
      plain.2.1

/-- The places of the entries around one of them. -/
theorem indexed_append_cons (front back : Entries) (key v : Value) :
    indexed (front ++ (key, v) :: back) =
      indexed front ++ ⟨front.length, key, v⟩ ::
        (back.zipIdx (front.length + 1)).map fun e => ⟨e.2, e.1.1, e.1.2⟩ := by
  simp [indexed, List.zipIdx_append]

/-- **Respelled entries are read alike.** -/
theorem Paired.readAlike (h : Respelled depth depth' p q) :
    List.Forall₂ (ReadAlike (Respelled ((positionOf p).length + 1) ((positionOf q).length + 1)) p q)
      (indexed (entriesOf p)) (indexed (entriesOf q)) := by
  have plain := h.plain
  rw [Value.hasNoReference_map, List.all_eq_true] at plain
  rcases (Relation.reflGen_iff _ _ _).mp h.entries with same | once
  · rw [same, List.forall₂_same]
    rintro ⟨index, key, v⟩ he
    exact readAlike_of_hasNoReference (plain _ (mem_indexed he)) index key p q
  · obtain ⟨front, key, v, v', back, first, second, h⟩ := once.exists_entry
    rw [first] at plain ⊢
    rw [second, indexed_append_cons, indexed_append_cons]
    refine List.rel_append ?_ (.cons ?_ ?_)
    · rw [List.forall₂_same]
      rintro ⟨index, key, v⟩ he
      exact readAlike_of_hasNoReference
        (plain _ (List.mem_append_left _ (mem_indexed he))) index key p q
    · exact h.readAlike (plain _ (List.mem_append_right _ List.mem_cons_self)) _ key p q
    · rw [List.forall₂_same, List.forall_mem_map]
      rintro ⟨⟨key, v⟩, index⟩ he
      exact readAlike_of_hasNoReference (plain _ (List.mem_append_right _
        (List.mem_cons_of_mem _ (List.fst_mem_of_mem_zipIdx he)))) index key p q

/-- **Respelled mappings are expanded alike.** The induction is on the levels that are left; all the
while, each of the mappings is further down than those that it is inside of. -/
theorem expandAt_respelled {limit : Int} {levels : Nat} {path path' : List (List Nat)}
    (h : Respelled depth depth' p q) (inside : ∀ x ∈ path, x.length < (positionOf p).length)
    (inside' : ∀ x ∈ path', x.length < (positionOf q).length) :
    expandAt limit levels path p = expandAt limit levels path' q := by
  have outside {position : List Nat} {path : List (List Nat)}
      (h : ∀ x ∈ path, x.length < position.length) : position ∉ path :=
    fun again => Nat.lt_irrefl _ (h _ again)
  induction levels generalizing path path' p q depth depth' with
  | zero => rw [expandAt_zero (outside inside), expandAt_zero (outside inside')]
  | succ levels ih =>
    rw [expandAt_succ (outside inside), expandAt_succ (outside inside')]
    refine eq_of_follows (Follows.expandEntries (fun p' q' below => ?_) h.readAlike)
    rw [ih below ?_ ?_]
    · exact .same _
    · exact List.forall_mem_cons.mpr
        ⟨below.deep, fun x hx => Nat.lt_trans (inside x hx) below.deep⟩
    · exact List.forall_mem_cons.mpr
        ⟨below.deep', fun x hx => Nat.lt_trans (inside' x hx) below.deep'⟩

/-- Two includes that differ in the spelling of one entry are expanded alike. -/
theorem RespelledOnce.expand_eq {spec spec' : Entries} (h : RespelledOnce spec spec')
    (plain : (Value.map spec).hasNoReference = true) (limit : Int) :
    expand limit (.map spec) = expand limit (.map spec') := by
  have alike : Respelled 0 0 (root spec) (root spec') :=
    ⟨.single h, plain, Nat.zero_le _, Nat.zero_le _⟩
  exact expandAt_respelled alike (fun _ => nofun) fun _ => nofun

end reading

end Include

open Include

/-- **How the entries of an include are spelled makes no difference.** The kind of any number of
entries, at any depth of the mappings that are entered, may be spelled out or left out: the include
is expanded to the same tree, or fails for the same reason, whatever the limit. -/
theorem kinds_interchangeable {spec spec' : Entries}
    (acyclic : (Value.map spec).hasNoReference = true)
    (respelled : Relation.EqvGen RespelledOnce spec spec') (limit : Int) :
    expand limit (.map spec) = expand limit (.map spec') := by
  have references {spec spec' : Entries} (h : Relation.EqvGen RespelledOnce spec spec') :
      (Value.map spec).hasNoReference = (Value.map spec').hasNoReference := by
    induction h with
    | rel _ _ once => exact once.hasNoReference_eq
    | refl => rfl
    | symm _ _ _ ih => exact ih.symm
    | trans _ _ _ _ _ ih ih' => exact ih.trans ih'
  induction respelled with
  | rel _ _ once => exact once.expand_eq acyclic limit
  | refl => rfl
  | symm _ _ respelled ih => exact (ih ((references respelled).trans acyclic)).symm
  | trans _ _ _ respelled _ ih ih' =>
    exact (ih acyclic).trans (ih' ((references respelled).symm.trans acyclic))

/-- An include whose entries leave their kinds to their values. -/
def implicitKinds : Entries :=
  [(.str "company", .bool true),
   (.str "roles", .map [(.str "include", .map [(.str "role", .list [.str "name"])])])]

/-- The same include with all kinds spelled out. -/
def explicitKinds : Entries :=
  [(.str "company", .map [(.str "kind", .str "shallow")]),
   (.str "roles", .map [(.str "kind", .str "nested"), (.str "include", .map [(.str "role",
     .map [(.str "kind", .str "select"), (.str "fields", .list [.str "name"])])])])]

theorem kinds_interchangeable_explicitKinds :
    (Value.map implicitKinds).hasNoReference = true ∧
    Relation.EqvGen RespelledOnce implicitKinds explicitKinds ∧
    expand 2 (.map implicitKinds) = expand 2 (.map explicitKinds) := by
  have acyclic : (Value.map implicitKinds).hasNoReference = true := by decide
  have columns : RespelledOnce [(.str "role", .list [.str "name"])] [(.str "role",
      .map [(.str "kind", .str "select"), (.str "fields", .list [.str "name"])])] :=
    .here [] [] (.select (.inl rfl) (.inl rfl))
  have respelled : Relation.EqvGen RespelledOnce implicitKinds explicitKinds := by
    refine .trans _ _ _ (.rel _ _ (.here [] _ .shallow)) ?_
    refine .trans _ _ _ (.rel _ _ (.under [_] [] [] [] rfl (.inl rfl) columns)) ?_
    exact .rel _ _ (.here [_] [] (.nested (.inl rfl)))
  exact ⟨acyclic, respelled, kinds_interchangeable acyclic respelled 2⟩

example : (expand 2 (.map explicitKinds)).isOk = true := by rfl

end Recordbook

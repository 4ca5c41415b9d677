import Recordbook.Query.Select

/-!
# What resolving and binding make of conditions

Resolving a condition mapping and binding its operands both go through everything there is and stop
at the first failure. Where they succeed they work piece by piece: the criteria of two parts
together are those of the one and those of the other. So the meaning of a condition mapping can be
put together from the meanings of its entries, and what holds under a whole mapping holds under each
part of it.

## Implementation notes

Failures of the whole are not failures of the parts, since all operands go through the first step of
binding before any goes through the second. The equations here are about success only, where the
order of the steps does not matter.

## Main definitions

* `Criteria.Means` — a condition mapping can be run and selects the records with a property

## Main results

* `Criteria.resolveEntries_append_ok`, `Criteria.bind_append_ok` — parts and the whole
* `Criteria.Means.append` — meanings are put together
* `Criteria.hold_of_mem` — what an entry of a condition mapping asks for holds of what is selected
-/

namespace Recordbook

/-! ### Steps that may fail -/

section steps

variable {ε α β : Type}

/-- A step that is followed by another comes to a result exactly if both do. -/
theorem bind_eq_ok {x : Except ε α} {f : α → Except ε β} {b : β} :
    (x >>= f) = .ok b ↔ ∃ a, x = .ok a ∧ f a = .ok b := by
  cases x with
  | error g =>
    constructor
    · intro h
      cases h
    · rintro ⟨a, ha, -⟩
      cases ha
  | ok a =>
    constructor
    · intro h
      exact ⟨a, rfl, h⟩
    · rintro ⟨_, ha, h⟩
      cases ha
      exact h

theorem pure_eq_ok {a b : α} : (pure a : Except ε α) = .ok b ↔ b = a := by
  constructor
  · intro h
    cases h
    rfl
  · rintro rfl
    rfl

theorem map_eq_ok {x : Except ε α} {f : α → β} {b : β} :
    x.map f = .ok b ↔ ∃ a, x = .ok a ∧ f a = b := by
  cases x <;> simp [Except.map]

/-- A step that succeeds on every item succeeds on all of them. -/
theorem mapM_eq_ok {f : α → Except ε β} {g : α → β} {xs : List α}
    (h : ∀ x ∈ xs, f x = .ok (g x)) : xs.mapM f = .ok (xs.map g) := by
  induction xs with
  | nil => rfl
  | cons x xs ih =>
    have rest := ih fun y hy => h y (List.mem_cons_of_mem _ hy)
    rw [List.mapM_cons, h x List.mem_cons_self, rest]
    rfl

end steps

namespace Criteria

/-! ### Binding -/

section mapAll

variable {α β : Type} (f : α → Except Failure β)

theorem mapAll_cons_ok {c : Criterion α} {cs : List (Criterion α)} {ds : List (Criterion β)} :
    mapAll f (c :: cs) = .ok ds ↔
      ∃ d rest, mapOperands f c = .ok d ∧ mapAll f cs = .ok rest ∧ ds = d :: rest := by
  rw [mapAll, bind_eq_ok]
  simp only [bind_eq_ok, pure_eq_ok]
  constructor
  · rintro ⟨d, hd, rest, hrest, rfl⟩
    exact ⟨d, rest, hd, hrest, rfl⟩
  · rintro ⟨d, rest, hd, hrest, rfl⟩
    exact ⟨d, hd, rest, hrest, rfl⟩

theorem mapAll_append_ok {cs cs' : List (Criterion α)} {ds : List (Criterion β)} :
    mapAll f (cs ++ cs') = .ok ds ↔
      ∃ xs ys, mapAll f cs = .ok xs ∧ mapAll f cs' = .ok ys ∧ ds = xs ++ ys := by
  induction cs generalizing ds with
  | nil =>
    simp only [List.nil_append, mapAll]
    constructor
    · intro h
      exact ⟨[], ds, rfl, h, rfl⟩
    · rintro ⟨xs, ys, hx, hy, rfl⟩
      cases hx
      exact hy
  | cons c cs ih =>
    rw [List.cons_append, mapAll_cons_ok]
    constructor
    · rintro ⟨d, rest, hd, hrest, rfl⟩
      obtain ⟨xs, ys, hx, hy, rfl⟩ := ih.mp hrest
      exact ⟨d :: xs, ys, (mapAll_cons_ok f).mpr ⟨d, xs, hd, hx, rfl⟩, hy, rfl⟩
    · rintro ⟨xs, ys, hx, hy, rfl⟩
      obtain ⟨d, rest, hd, hrest, rfl⟩ := (mapAll_cons_ok f).mp hx
      exact ⟨d, rest ++ ys, hd, ih.mpr ⟨rest, ys, hrest, hy, rfl⟩, rfl⟩

theorem mapAll_singleton_ok {c : Criterion α} {ds : List (Criterion β)} :
    mapAll f [c] = .ok ds ↔ ∃ d, mapOperands f c = .ok d ∧ ds = [d] := by
  rw [mapAll_cons_ok, mapAll]
  constructor
  · rintro ⟨d, rest, hd, hrest, rfl⟩
    cases hrest
    exact ⟨d, hd, rfl⟩
  · rintro ⟨d, hd, rfl⟩
    exact ⟨d, [], hd, rfl, rfl⟩

end mapAll

theorem bind_ok {cs : List (Criterion Operand)} {ds : List (Criterion Datum)} :
    bind cs = .ok ds ↔
      ∃ ps, mapAll Operand.process cs = .ok ps ∧ mapAll Parameter.accept ps = .ok ds := by
  rw [bind, bind_eq_ok]
  rfl

@[simp] theorem bind_nil : bind [] = .ok [] := by
  simp [bind_ok, mapAll]

/-- The criteria of two parts are bound exactly if those of each part are. -/
theorem bind_append_ok {cs cs' : List (Criterion Operand)} {ds : List (Criterion Datum)} :
    bind (cs ++ cs') = .ok ds ↔ ∃ xs ys, bind cs = .ok xs ∧ bind cs' = .ok ys ∧ ds = xs ++ ys := by
  simp only [bind_ok, mapAll_append_ok]
  constructor
  · rintro ⟨ps, ⟨ps₁, ps₂, h₁, h₂, rfl⟩, h⟩
    obtain ⟨xs, ys, hx, hy, rfl⟩ := (mapAll_append_ok _).mp h
    exact ⟨xs, ys, ⟨ps₁, h₁, hx⟩, ⟨ps₂, h₂, hy⟩, rfl⟩
  · rintro ⟨xs, ys, ⟨ps₁, h₁, hx⟩, ⟨ps₂, h₂, hy⟩, rfl⟩
    exact ⟨ps₁ ++ ps₂, ⟨ps₁, ps₂, h₁, h₂, rfl⟩, (mapAll_append_ok _).mpr ⟨xs, ys, hx, hy, rfl⟩⟩

/-- The store takes a parameter exactly if it is a datum already. -/
theorem accept_ok {p : Parameter} {d : Datum} : p.accept = .ok d ↔ p = .bound d := by
  cases p <;> simp [Parameter.accept]

/-- One criterion is bound in two steps of its own. -/
theorem bind_singleton_ok {c : Criterion Operand} {ds : List (Criterion Datum)} :
    bind [c] = .ok ds ↔ ∃ p d, mapOperands Operand.process c = .ok p ∧
      mapOperands Parameter.accept p = .ok d ∧ ds = [d] := by
  simp only [bind_ok, mapAll_singleton_ok]
  constructor
  · rintro ⟨_, ⟨p, hp, rfl⟩, h⟩
    obtain ⟨d, hd, rfl⟩ := (mapAll_singleton_ok _).mp h
    exact ⟨p, d, hp, hd, rfl⟩
  · rintro ⟨p, d, hp, hd, rfl⟩
    exact ⟨[p], ⟨p, hp, rfl⟩, (mapAll_singleton_ok _).mpr ⟨d, hd, rfl⟩⟩

theorem bind_absent_ok {field : Field} {wanted : Bool} {ds : List (Criterion Datum)} :
    bind [.absent field wanted] = .ok ds ↔ ds = [.absent field wanted] := by
  rw [bind_singleton_ok]
  simp [mapOperands]

/-- A comparison is bound exactly if its operand is. -/
theorem bind_compare_ok {field : Field} {comparison : Comparison} {o : Operand}
    {ds : List (Criterion Datum)} :
    bind [.compare field comparison o] = .ok ds ↔
      ∃ d, o.process = .ok (.bound d) ∧ ds = [.compare field comparison d] := by
  simp only [bind_singleton_ok, mapOperands, map_eq_ok]
  constructor
  · rintro ⟨_, d, ⟨p, hp, rfl⟩, hd, rfl⟩
    obtain ⟨x, hx, rfl⟩ := map_eq_ok.mp hd
    exact ⟨x, hp.trans (congrArg Except.ok (accept_ok.mp hx)), rfl⟩
  · rintro ⟨d, hd, rfl⟩
    exact ⟨_, _, ⟨_, hd, rfl⟩, rfl, rfl⟩

/-- The condition on a relation is bound exactly if the criteria under it are. -/
theorem bind_related_ok {r : Relation} {wanted : Bool} {cs : List (Criterion Operand)}
    {ds : List (Criterion Datum)} :
    bind [.related r wanted cs] = .ok ds ↔
      ∃ inner, bind cs = .ok inner ∧ ds = [.related r wanted inner] := by
  simp only [bind_singleton_ok, mapOperands, map_eq_ok]
  constructor
  · rintro ⟨_, d, ⟨ps, hp, rfl⟩, hd, rfl⟩
    obtain ⟨inner, hi, rfl⟩ := map_eq_ok.mp hd
    exact ⟨inner, bind_ok.mpr ⟨ps, hp, hi⟩, rfl⟩
  · rintro ⟨inner, h, rfl⟩
    obtain ⟨ps, hp, hi⟩ := bind_ok.mp h
    exact ⟨_, _, ⟨ps, hp, rfl⟩, map_eq_ok.mpr ⟨inner, hi, rfl⟩, rfl⟩

/-- A list of operands is bound if each of them is. -/
theorem bind_within {field : Field} {wanted : Bool} {os : List Operand} {g : Operand → Datum}
    (h : ∀ o ∈ os, o.process = .ok (.bound (g o))) :
    bind [.within field wanted os] = .ok [.within field wanted (os.map g)] := by
  refine bind_singleton_ok.mpr ⟨.within field wanted (os.map fun o => .bound (g o)), _, ?_, ?_, rfl⟩
  · rw [mapOperands, mapM_eq_ok h]
    rfl
  · rw [mapOperands, mapM_eq_ok (g := fun p => match p with
      | .bound d => d
      | _ => .null)]
    · simp [Except.map]
    · intro p hp
      obtain ⟨o, -, rfl⟩ := List.mem_map.mp hp
      rfl

/-! ### Resolving -/

/-- The criteria of one entry of a condition mapping. -/
def ofEntry (e : Entity) (key condition : Value) : Except Failure (List (Criterion Operand)) :=
  match e.relationNamed? key with
  | some r => resolveRelation r condition
  | none => (e.columnOf key).bind fun c => ofColumn c condition

theorem resolveEntries_cons_ok {e : Entity} {key condition : Value} {rest : Entries}
    {cs : List (Criterion Operand)} :
    resolveEntries e ((key, condition) :: rest) = .ok cs ↔
      ∃ xs ys, ofEntry e key condition = .ok xs ∧ resolveEntries e rest = .ok ys ∧
        cs = xs ++ ys := by
  have both : resolveEntries e ((key, condition) :: rest) =
      ofEntry e key condition >>= fun xs =>
        resolveEntries e rest >>= fun ys => pure (xs ++ ys) := by
    rw [resolveEntries, ofEntry]
    cases e.relationNamed? key <;> rfl
  simp only [both, bind_eq_ok, pure_eq_ok]
  constructor
  · rintro ⟨xs, hx, ys, hy, rfl⟩
    exact ⟨xs, ys, hx, hy, rfl⟩
  · rintro ⟨xs, ys, hx, hy, rfl⟩
    exact ⟨xs, hx, ys, hy, rfl⟩

/-- The criteria of two parts of a condition mapping are found exactly if those of each part are. -/
theorem resolveEntries_append_ok {e : Entity} {xs ys : Entries} {cs : List (Criterion Operand)} :
    resolveEntries e (xs ++ ys) = .ok cs ↔
      ∃ as bs, resolveEntries e xs = .ok as ∧ resolveEntries e ys = .ok bs ∧ cs = as ++ bs := by
  induction xs generalizing cs with
  | nil =>
    rw [List.nil_append, resolveEntries]
    constructor
    · intro h
      exact ⟨[], cs, rfl, h, rfl⟩
    · rintro ⟨as, bs, ha, hb, rfl⟩
      cases ha
      exact hb
  | cons x xs ih =>
    obtain ⟨key, condition⟩ := x
    rw [List.cons_append, resolveEntries_cons_ok]
    constructor
    · rintro ⟨here, others, hh, ho, rfl⟩
      obtain ⟨as, bs, ha, hb, rfl⟩ := ih.mp ho
      exact ⟨here ++ as, bs, resolveEntries_cons_ok.mpr ⟨here, as, hh, ha, rfl⟩, hb,
        (List.append_assoc ..).symm⟩
    · rintro ⟨as, bs, ha, hb, rfl⟩
      obtain ⟨here, others, hh, ho, rfl⟩ := resolveEntries_cons_ok.mp ha
      exact ⟨here, others ++ bs, hh, ih.mpr ⟨others, bs, ho, hb, rfl⟩, List.append_assoc ..⟩

/-- The condition that some related record meets a condition mapping. -/
theorem ofEntry_some_ok {e : Entity} {name : String} {r : Relation} {filter : Entries}
    {cs : List (Criterion Operand)} (hr : e.relation? name = some r) :
    ofEntry e (.str name) (.map [(.str "some", .map filter)]) = .ok cs ↔
      ∃ inner, resolve r.target filter = .ok inner ∧ cs = [.related r true inner] := by
  have quantified : ofEntry e (.str name) (.map [(.str "some", .map filter)]) =
      resolve r.target filter >>= fun inner => pure [.related r true inner] := by
    simp only [ofEntry, Entity.relationNamed?, hr]
    rw [resolveRelation, if_pos (by rfl), resolveQuantified, resolveCondition, resolveQuantified]
    rfl
  simp only [quantified, bind_eq_ok, pure_eq_ok]

/-- Only a mapping is a condition on a relation. -/
theorem isMap_of_ofEntry {e : Entity} {name : String} {r : Relation} {condition : Value}
    {cs : List (Criterion Operand)} (hr : e.relation? name = some r)
    (h : ofEntry e (.str name) condition = .ok cs) : condition.isMap = true := by
  simp only [ofEntry, Entity.relationNamed?, hr] at h
  cases condition with
  | map entries => rfl
  | _ =>
    rw [resolveRelation] at h
    · cases h
    · intro entries h
      cases h

/-! ### What a condition mapping means -/

/-- A condition mapping can be run, and selects the records of a store that have a property. -/
def Means (s : Store) (e : Entity) (filter : Entries) (property : Row → Bool) : Prop :=
  ∃ criteria bound, resolve e filter = .ok criteria ∧ bind criteria = .ok bound ∧
    ∀ row, hold s row bound = property row

variable {s : Store} {e : Entity}

theorem Means.nil : Means s e [] fun _ => true :=
  ⟨[], [], rfl, bind_nil, fun _ => hold_nil ..⟩

/-- Meanings are put together. -/
theorem Means.append {xs ys : Entries} {p q : Row → Bool} (hx : Means s e xs p)
    (hy : Means s e ys q) : Means s e (xs ++ ys) fun row => p row && q row := by
  obtain ⟨as, ds, ha, hd, hp⟩ := hx
  obtain ⟨bs, ds', hb, hd', hq⟩ := hy
  refine ⟨as ++ bs, ds ++ ds', resolveEntries_append_ok.mpr ⟨as, bs, ha, hb, rfl⟩,
    bind_append_ok.mpr ⟨ds, ds', hd, hd', rfl⟩, fun row => ?_⟩
  rw [hold_append, hp, hq]

/-- The meaning of one entry. -/
theorem Means.singleton {key condition : Value} {cs : List (Criterion Operand)}
    {ds : List (Criterion Datum)} {p : Row → Bool} (hc : ofEntry e key condition = .ok cs)
    (hd : bind cs = .ok ds) (hp : ∀ row, hold s row ds = p row) :
    Means s e [(key, condition)] p := by
  refine ⟨cs, ds, ?_, hd, hp⟩
  exact resolveEntries_cons_ok.mpr ⟨cs, [], hc, rfl, (List.append_nil cs).symm⟩

theorem Means.congr {filter : Entries} {p q : Row → Bool} (h : Means s e filter p)
    (hpq : ∀ row, p row = q row) : Means s e filter q := by
  obtain ⟨cs, ds, hc, hd, hp⟩ := h
  exact ⟨cs, ds, hc, hd, fun row => (hp row).trans (hpq row)⟩

/-- Records that a condition mapping selects meet the criteria of each of its entries. -/
theorem hold_of_mem {filter : Entries} {cs : List (Criterion Operand)} {ds : List (Criterion Datum)}
    (hc : resolve e filter = .ok cs) (hd : bind cs = .ok ds) {key condition : Value}
    (hm : (key, condition) ∈ filter) :
    ∃ as bs, ofEntry e key condition = .ok as ∧ bind as = .ok bs ∧
      ∀ row, hold s row ds = true → hold s row bs = true := by
  obtain ⟨before, after, rfl⟩ := List.append_of_mem hm
  obtain ⟨xs, ys, -, hy, rfl⟩ := resolveEntries_append_ok.mp hc
  obtain ⟨as, zs, ha, -, rfl⟩ := resolveEntries_cons_ok.mp hy
  obtain ⟨us, vs, -, hv, rfl⟩ := bind_append_ok.mp hd
  obtain ⟨bs, ws, hb, -, rfl⟩ := bind_append_ok.mp hv
  refine ⟨as, bs, ha, hb, fun row h => ?_⟩
  rw [hold_append, hold_append, Bool.and_eq_true, Bool.and_eq_true] at h
  exact h.2.1

/-- So they have the property that an entry means. -/
theorem Means.of_mem {key condition : Value} {p : Row → Bool}
    (means : Means s e [(key, condition)] p) {filter : Entries} {cs : List (Criterion Operand)}
    {ds : List (Criterion Datum)}
    (hc : resolve e filter = .ok cs) (hd : bind cs = .ok ds) (hm : (key, condition) ∈ filter)
    {row : Row} (h : hold s row ds = true) : p row = true := by
  obtain ⟨as, bs, ha, hb, hold⟩ := hold_of_mem hc hd hm
  obtain ⟨as', bs', ha', hb', hp⟩ := means
  obtain ⟨xs, ys, hx, hy, rfl⟩ := resolveEntries_cons_ok.mp ha'
  cases hy
  cases ha.symm.trans hx
  rw [List.append_nil] at hb'
  cases hb.symm.trans hb'
  rw [← hp]
  exact hold row h

end Criteria

end Recordbook

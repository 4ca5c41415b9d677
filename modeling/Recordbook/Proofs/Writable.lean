import Recordbook.Proofs.Mapping
import Recordbook.Redaction

/-!
# Values that can be written

A value has a text exactly if every integer that stands in the text is short. Which integers those
are is said by `Value.Shows`: the items of lists and tuples are in the text, the keys and the values
of mappings, and the values of declared fields of payloads. A reference back is written without what
it leads to.

Following references adds to a text only what stands in the mappings around the value, and masking a
value for a log adds nothing else either.

## Main definitions

* `Value.Shows` — an integer stands in the text of a value
* `Value.IsWritable` — the integers in the text of a value are all short

## Main results

* `Value.isSome_display?_iff`, `Value.isSome_text?_iff`, `Redaction.isSome_safeText_iff` — which
  values have a text
* `Value.shows_or_of_unfold`, `Redaction.shows_or_of_maskAt` — where integers in the text come from
-/

namespace Recordbook

namespace Value

/-- An integer stands in the text of a value. -/
inductive Shows (n : Int) : Value → Prop
  /-- It is the value. -/
  | int : Shows n (.int n)
  /-- It is in an item of a list. -/
  | listed {items : List Value} {x : Value} (mem : x ∈ items) (inside : Shows n x) :
      Shows n (.list items)
  /-- It is in an item of a tuple. -/
  | tupled {items : List Value} {x : Value} (mem : x ∈ items) (inside : Shows n x) :
      Shows n (.tuple items)
  /-- It is in a key of a mapping. -/
  | key {entries : Entries} {e : Value × Value} (mem : e ∈ entries) (inside : Shows n e.1) :
      Shows n (.map entries)
  /-- It is in a value of a mapping. -/
  | entry {entries : Entries} {e : Value × Value} (mem : e ∈ entries) (inside : Shows n e.2) :
      Shows n (.map entries)
  /-- It is in a declared field of a payload. -/
  | field {fields : List String} {given : Entries} {f : String} {v : Value} (declared : f ∈ fields)
      (found : given.get? f = some v) (inside : Shows n v) : Shows n (.model fields given)

/-- Every integer in the text of a value is short. -/
def IsWritable (v : Value) : Prop := ∀ n, Shows n v → IsShort n

/-! ### Which values have a text -/

@[simp] theorem isSome_wholeText? {n : Int} : (wholeText? n).isSome = true ↔ IsShort n := by
  rw [wholeText?]
  split <;> simp [*]

theorem isSome_displayItems? {items : List Value} :
    (displayItems? items).isSome = true ↔ ∀ x ∈ items, (display? x).isSome = true := by
  induction items with
  | nil => simp [displayItems?]
  | cons x xs ih =>
    rw [List.forall_mem_cons, ← ih, displayItems?]
    cases display? x <;> cases displayItems? xs <;> simp

theorem isSome_displayEntries? {entries : Entries} :
    (displayEntries? entries).isSome = true ↔
      ∀ e ∈ entries, (display? e.1).isSome = true ∧ (display? e.2).isSome = true := by
  induction entries with
  | nil => simp [displayEntries?]
  | cons e es ih =>
    rw [List.forall_mem_cons, ← ih, displayEntries?]
    cases display? e.1 <;> cases display? e.2 <;> cases displayEntries? es <;> simp

theorem displayField?_displayGiven (given : Entries) (f : String) :
    displayField? (displayGiven given) f = match given.get? f with
      | none => some (f ++ "=None")
      | some v => (display? v).map fun shown => f ++ "=" ++ shown := by
  induction given with
  | nil => rfl
  | cons e es ih =>
    obtain ⟨k, v⟩ := e
    rw [Entries.get?_cons, displayGiven, displayField?]
    by_cases h : k.isText f = true
    · simp [h]
    · rw [if_neg h, ← ih, displayField?]
      simp [h]

theorem isSome_fields {fields : List String} {given : Entries} :
    (fields.mapM (displayField? (displayGiven given))).isSome = true ↔
      ∀ f ∈ fields, ∀ v, given.get? f = some v → (display? v).isSome = true := by
  induction fields with
  | nil => simp
  | cons f fs ih =>
    rw [List.forall_mem_cons, ← ih, List.mapM_cons, displayField?_displayGiven]
    cases given.get? f with
    | none => cases fs.mapM (displayField? (displayGiven given)) <;> simp
    | some v =>
      cases hv : display? v <;> cases fs.mapM (displayField? (displayGiven given)) <;> simp [hv]

mutual

theorem isSome_display?_of_isWritable : ∀ v : Value, v.IsWritable → (display? v).isSome = true
  | .int n, h => isSome_wholeText?.mpr (h n .int)
  | .list items, h => by
    rw [display?, Option.isSome_map]
    exact isSome_displayItems?.mpr (items_written items fun x hx n hn => h n (.listed hx hn))
  | .tuple items, h => by
    rw [display?, Option.isSome_map]
    exact isSome_displayItems?.mpr (items_written items fun x hx n hn => h n (.tupled hx hn))
  | .map entries, h => by
    rw [display?, Option.isSome_map]
    exact isSome_displayEntries?.mpr (entries_written entries fun e he =>
      ⟨fun n hn => h n (.key he hn), fun n hn => h n (.entry he hn)⟩)
  | .model fields given, h => by
    rw [display?, Option.isSome_map]
    exact isSome_fields.mpr fun f hf v hv =>
      given_written given f v hv fun n hn => h n (.field hf hv hn)
  | .null, _ | .bool _, _ | .float _, _ | .str _, _ | .decimal _, _ | .uuid _, _ | .datetime _, _
  | .date _, _ | .bytes _, _ | .object, _ | .up _, _ => by simp [display?]

theorem items_written : ∀ items : List Value, (∀ x ∈ items, x.IsWritable) →
    ∀ x ∈ items, (display? x).isSome = true
  | [], _ => nofun
  | x :: xs, h => by
    rw [List.forall_mem_cons] at h ⊢
    exact ⟨isSome_display?_of_isWritable x h.1, items_written xs h.2⟩

theorem entries_written : ∀ entries : List (Value × Value),
    (∀ e ∈ entries, e.1.IsWritable ∧ e.2.IsWritable) →
      ∀ e ∈ entries, (display? e.1).isSome = true ∧ (display? e.2).isSome = true
  | [], _ => nofun
  | (k, v) :: es, h => by
    rw [List.forall_mem_cons] at h ⊢
    exact ⟨⟨isSome_display?_of_isWritable k h.1.1, isSome_display?_of_isWritable v h.1.2⟩,
      entries_written es h.2⟩

theorem given_written : ∀ (given : List (Value × Value)) (f : String) (v : Value),
    Entries.get? given f = some v → v.IsWritable → (display? v).isSome = true
  | [], _, _, found, _ => by cases found
  | (k, w) :: es, f, v, found, h => by
    rw [Entries.get?_cons] at found
    split at found
    · cases found
      exact isSome_display?_of_isWritable w h
    · exact given_written es f v found h

end

/-- In a text that is written there are no other integers. -/
theorem isShort_of_shows {n : Int} {v : Value} (h : Shows n v) :
    (display? v).isSome = true → IsShort n := by
  induction h with
  | int => exact isSome_wholeText?.mp
  | listed mem inside ih =>
    rw [display?, Option.isSome_map]
    exact fun written => ih (isSome_displayItems?.mp written _ mem)
  | tupled mem inside ih =>
    rw [display?, Option.isSome_map]
    exact fun written => ih (isSome_displayItems?.mp written _ mem)
  | key mem inside ih =>
    rw [display?, Option.isSome_map]
    exact fun written => ih (isSome_displayEntries?.mp written _ mem).1
  | entry mem inside ih =>
    rw [display?, Option.isSome_map]
    exact fun written => ih (isSome_displayEntries?.mp written _ mem).2
  | field declared found inside ih =>
    rw [display?, Option.isSome_map]
    exact fun written => ih (isSome_fields.mp written _ declared _ found)

/-- **A value has a text exactly if the integers in it are short.** -/
theorem isSome_display?_iff {v : Value} : (display? v).isSome = true ↔ v.IsWritable :=
  ⟨fun written _ h => isShort_of_shows h written, isSome_display?_of_isWritable v⟩

/-- The text of a value by itself needs no more. -/
theorem isSome_text?_iff {v : Value} : (text? v).isSome = true ↔ v.IsWritable := by
  rw [← isSome_display?_iff]
  cases v <;> simp [text?, display?]

/-! ### Following references back -/

/-- An integer is in the text of a mapping if it is in that of one of its keys or values. -/
theorem shows_map_iff {n : Int} {entries : Entries} :
    Shows n (.map entries) ↔ ∃ e ∈ entries, Shows n e.1 ∨ Shows n e.2 := by
  constructor
  · intro h
    cases h with
    | key mem inside => exact ⟨_, mem, .inl inside⟩
    | entry mem inside => exact ⟨_, mem, .inr inside⟩
  · rintro ⟨e, mem, inside | inside⟩
    · exact .key mem inside
    · exact .entry mem inside

section References

variable {n : Int} {follow : List Entries → Value}

/-- What is in the text of a value stays in it when references are replaced. -/
theorem shows_replaceReferences {v : Value} (h : Shows n v) (around : List Entries) :
    Shows n (replaceReferences follow around v) := by
  induction h generalizing around with
  | int => simpa [replaceReferences] using .int
  | listed mem inside ih =>
    rw [replaceReferences, replaceInItems_eq_map]
    exact .listed (List.mem_map_of_mem mem) (ih around)
  | tupled mem inside ih =>
    rw [replaceReferences, replaceInItems_eq_map]
    exact .tupled (List.mem_map_of_mem mem) (ih around)
  | @key entries e mem inside ih =>
    rw [replaceReferences, replaceInEntries_eq_map]
    exact .key (List.mem_map_of_mem mem) inside
  | entry mem inside ih =>
    rw [replaceReferences, replaceInEntries_eq_map]
    exact .entry (List.mem_map_of_mem mem) (ih _)
  | field declared found inside ih =>
    rw [replaceReferences]
    exact .field declared (by rw [get?_replaceInEntries, found]; rfl) (ih around)

mutual

/-- Replacing references adds to the text only what is in the mappings around the value, if that is
so of what they are replaced by. -/
theorem shows_or_of_replaceReferences
    (h : ∀ places, Shows n (follow places) → ∃ es ∈ places, Shows n (.map es)) :
    ∀ (v : Value) (around : List Entries), Shows n (replaceReferences follow around v) →
      Shows n v ∨ ∃ es ∈ around, Shows n (.map es)
  | .up levels, around, shown => by
    rw [replaceReferences] at shown
    split at shown
    · cases shown
    · next places _ =>
      obtain ⟨es, mem, inside⟩ := h _ shown
      exact .inr ⟨es, List.mem_of_mem_drop mem, inside⟩
  | .list items, around, shown => by
    rw [replaceReferences] at shown
    cases shown with
    | listed mem inside =>
      refine (shows_or_of_replaceInItems h items around mem inside).imp_left ?_
      rintro ⟨x, hx, inside⟩
      exact .listed hx inside
  | .tuple items, around, shown => by
    rw [replaceReferences] at shown
    cases shown with
    | tupled mem inside =>
      refine (shows_or_of_replaceInItems h items around mem inside).imp_left ?_
      rintro ⟨x, hx, inside⟩
      exact .tupled hx inside
  | .map entries, around, shown => by
    rw [replaceReferences, shows_map_iff] at shown
    obtain ⟨e, mem, inside⟩ := shown
    rcases shows_or_of_replaceInEntries h entries (entries :: around) mem inside with
      own | ⟨es, hes, outer⟩
    · exact .inl (shows_map_iff.mpr own)
    · rcases List.mem_cons.mp hes with rfl | hes
      · exact .inl outer
      · exact .inr ⟨es, hes, outer⟩
  | .model fields given, around, shown => by
    rw [replaceReferences] at shown
    cases shown with
    | field declared found inside =>
      rw [get?_replaceInEntries, Option.map_eq_some_iff] at found
      obtain ⟨v, found, rfl⟩ := found
      exact (shows_or_of_get? h given around found inside).imp_left (.field declared found)
  | .int m, _, shown => .inl (by simpa [replaceReferences] using shown)
  | .null, _, shown | .bool _, _, shown | .float _, _, shown | .str _, _, shown
  | .decimal _, _, shown | .uuid _, _, shown | .datetime _, _, shown | .date _, _, shown
  | .bytes _, _, shown | .object, _, shown => by
    simp only [replaceReferences] at shown
    cases shown

theorem shows_or_of_replaceInItems
    (h : ∀ places, Shows n (follow places) → ∃ es ∈ places, Shows n (.map es)) :
    ∀ (items : List Value) (around : List Entries) {x : Value},
      x ∈ replaceInItems follow around items → Shows n x →
        (∃ x ∈ items, Shows n x) ∨ ∃ es ∈ around, Shows n (.map es)
  | [], _, _, mem, _ => by cases mem
  | x :: xs, around, _, mem, inside => by
    rw [replaceInItems] at mem
    rcases List.mem_cons.mp mem with rfl | mem
    · refine (shows_or_of_replaceReferences h x around inside).imp_left fun own => ?_
      exact ⟨x, List.mem_cons_self, own⟩
    · refine (shows_or_of_replaceInItems h xs around mem inside).imp_left ?_
      rintro ⟨y, hy, own⟩
      exact ⟨y, List.mem_cons_of_mem _ hy, own⟩

theorem shows_or_of_replaceInEntries
    (h : ∀ places, Shows n (follow places) → ∃ es ∈ places, Shows n (.map es)) :
    ∀ (entries : List (Value × Value)) (around : List Entries) {e : Value × Value},
      e ∈ replaceInEntries follow around entries → Shows n e.1 ∨ Shows n e.2 →
        (∃ e ∈ entries, Shows n e.1 ∨ Shows n e.2) ∨ ∃ es ∈ around, Shows n (.map es)
  | [], _, _, mem, _ => by cases mem
  | (k, v) :: es, around, _, mem, inside => by
    rw [replaceInEntries] at mem
    rcases List.mem_cons.mp mem with rfl | mem
    · rcases inside with key | value
      · exact .inl ⟨(k, v), List.mem_cons_self, .inl key⟩
      · refine (shows_or_of_replaceReferences h v around value).imp_left fun own => ?_
        exact ⟨(k, v), List.mem_cons_self, .inr own⟩
    · refine (shows_or_of_replaceInEntries h es around mem inside).imp_left ?_
      rintro ⟨e, he, own⟩
      exact ⟨e, List.mem_cons_of_mem _ he, own⟩

theorem shows_or_of_get?
    (h : ∀ places, Shows n (follow places) → ∃ es ∈ places, Shows n (.map es)) :
    ∀ (given : List (Value × Value)) (around : List Entries) {f : String} {v : Value},
      Entries.get? given f = some v → Shows n (replaceReferences follow around v) →
        Shows n v ∨ ∃ es ∈ around, Shows n (.map es)
  | [], _, _, _, found, _ => by cases found
  | (k, w) :: es, around, f, v, found, inside => by
    rw [Entries.get?_cons] at found
    split at found
    · cases found
      exact shows_or_of_replaceReferences h w around inside
    · exact shows_or_of_get? h es around found inside

end

end References

theorem shows_of_unfoldPlace {n : Int} (times : Nat) (places : List Entries) :
    Shows n (unfoldPlace times places) → ∃ es ∈ places, Shows n (.map es) := by
  induction times generalizing places with
  | zero => exact fun shown => by cases places <;> cases shown
  | succ times ih =>
    cases places with
    | nil => exact fun shown => by cases shown
    | cons entries around =>
      rw [unfoldPlace, shows_map_iff]
      rintro ⟨e, mem, inside⟩
      rcases shows_or_of_replaceInEntries ih entries (entries :: around) mem inside with own | outer
      · exact ⟨entries, List.mem_cons_self, shows_map_iff.mpr own⟩
      · exact outer

/-- Where references are followed, the text has what was in it and at most what is in the mappings
around. -/
theorem shows_or_of_unfold {n : Int} {times : Nat} {around : List Entries} {v : Value}
    (h : Shows n (v.unfold times around)) : Shows n v ∨ ∃ es ∈ around, Shows n (.map es) :=
  shows_or_of_replaceReferences (shows_of_unfoldPlace times) v around h

/-- The values of a mapping can all be written exactly if they can once references in them, which
may lead to the mapping, are followed. -/
theorem isWritable_unfold_iff {times : Nat} {given : List (String × Value)} :
    (∀ g ∈ given, (g.2.unfold times [Entries.named given]).IsWritable) ↔
      ∀ g ∈ given, g.2.IsWritable := by
  constructor
  · exact fun h g hg n hn => h g hg n (shows_replaceReferences hn _)
  · intro h g hg n hn
    rcases shows_or_of_unfold hn with own | ⟨es, hes, outer⟩
    · exact h g hg n own
    · rw [List.mem_singleton.mp hes, shows_map_iff] at outer
      obtain ⟨e, he, inside⟩ := outer
      obtain ⟨d, hd, rfl⟩ := List.mem_map.mp he
      rcases inside with key | value
      · cases key
      · exact h d hd n value

end Value

namespace Redaction

open Value (Shows IsWritable shows_map_iff)

/-! ### What a log shows -/

/-- Masking adds nothing to the text of a value but what stands in the mappings around it. -/
theorem shows_or_of_maskAt {n : Int} (levels : Nat) (around : List Entries) (v : Value)
    (h : Shows n (maskAt levels around v)) : Shows n v ∨ ∃ es ∈ around, Shows n (.map es) := by
  induction levels generalizing around v with
  | zero => cases h
  | succ levels ih =>
    have entries (around : List Entries) (es : Entries) (h : Shows n (.map (es.map fun e =>
        (e.1, if isSensitiveKey e.1 then hidden else maskAt levels (es :: around) e.2)))) :
        ∃ es' ∈ es :: around, Shows n (.map es') := by
      obtain ⟨_, masked, inside⟩ := shows_map_iff.mp h
      obtain ⟨e, he, rfl⟩ := List.mem_map.mp masked
      rcases inside with key | value
      · exact ⟨es, List.mem_cons_self, .key he key⟩
      · dsimp only at value
        split at value
        · cases value
        · rcases ih _ _ value with own | outer
          · exact ⟨es, List.mem_cons_self, .entry he own⟩
          · exact outer
    have items (xs : List Value) {shown : Value}
        (mem : shown ∈ (xs.take shownItems).map (maskAt levels around)) (inside : Shows n shown) :
        (∃ x ∈ xs, Shows n x) ∨ ∃ es ∈ around, Shows n (.map es) := by
      obtain ⟨x, hx, rfl⟩ := List.mem_map.mp mem
      exact (ih around x inside).imp_left fun own => ⟨x, List.mem_of_mem_take hx, own⟩
    cases v with
    | map es =>
      obtain ⟨es', mem, inside⟩ := entries around es h
      rcases List.mem_cons.mp mem with rfl | mem
      · exact .inl inside
      · exact .inr ⟨es', mem, inside⟩
    | up n =>
      simp only [maskAt] at h
      split at h
      · next es rest places =>
        obtain ⟨es', mem, inside⟩ := entries rest es h
        exact .inr ⟨es', List.mem_of_mem_drop (places ▸ mem), inside⟩
      · exact .inl h
    | list xs =>
      cases h with
      | listed mem inside =>
        refine (items xs mem inside).imp_left ?_
        rintro ⟨x, hx, own⟩
        exact .listed hx own
    | tuple xs =>
      cases h with
      | listed mem inside =>
        refine (items xs mem inside).imp_left ?_
        rintro ⟨x, hx, own⟩
        exact .tupled hx own
    | _ => exact .inl h

theorem shows_of_mask {n : Int} {v : Value} (h : Shows n (mask v)) : Shows n v := by
  rcases shows_or_of_maskAt _ _ v h with own | ⟨_, mem, _⟩
  · exact own
  · cases mem

/-- A value has a text for a log exactly if what is left of it can be written. -/
theorem isSome_safeText_iff {v : Value} : (safeText v).isSome = true ↔ (mask v).IsWritable := by
  rw [safeText, Option.isSome_map, ← Value.isSome_display?_iff]
  cases mask v <;> simp [plainText, Value.display?]

end Redaction

end Recordbook

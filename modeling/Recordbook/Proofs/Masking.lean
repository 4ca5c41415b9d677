import Recordbook.Redaction
import Recordbook.Value.Payload

/-!
# Masking

What a log shows of a value does not depend on what is under sensitive names in it. To say so, the
sensitive parts of a value are crossed out, at any depth and in payloads too, and nothing else is
done to it: two values that differ only under sensitive names are two values of which the same is
left. Masking goes less deep. It does not look into payloads, and so the text of a value is the text
of what is left of it as long as no payload that it leads to holds anything sensitive.

## Main definitions

* `Redaction.scrub` — a value with everything sensitive in it crossed out
* `Redaction.exposes` — whether masking may leave something sensitive, inside a payload

## Main results

* `Redaction.mask_scrub`, `Redaction.safeText_scrub` — what is shown of a value is what is shown of
  it once it is crossed out
* `Redaction.scrub_unfold`, `Redaction.scrub_plain` — crossing out after references back are
  followed, or payloads read as mappings, is crossing out before
-/

namespace Recordbook

namespace Redaction

/-! ### Crossing out -/

mutual

/-- A value with whatever is under a sensitive name in it crossed out, in payloads too. -/
def scrub : Value → Value
  | .list items => .list (scrubItems items)
  | .tuple items => .tuple (scrubItems items)
  | .map entries => .map (scrubEntries entries)
  | .model fields given => .model fields (scrubEntries given)
  | v => v
termination_by structural x => x

/-- Values with whatever is sensitive in them crossed out. -/
def scrubItems : List Value → List Value
  | [] => []
  | x :: xs => scrub x :: scrubItems xs
termination_by structural x => x

/-- Entries with the values under sensitive names crossed out, and whatever is sensitive in the
others. -/
def scrubEntries : List (Value × Value) → List (Value × Value)
  | [] => []
  | (k, v) :: es => (k, if isSensitiveKey k then hidden else scrub v) :: scrubEntries es
termination_by structural x => x

end

/-- An entry with its value crossed out under a sensitive name, and otherwise whatever is sensitive
in it. -/
def scrubEntry (e : Value × Value) : Value × Value :=
  (e.1, if isSensitiveKey e.1 then hidden else scrub e.2)

theorem scrubItems_eq_map (items : List Value) : scrubItems items = items.map scrub := by
  induction items with
  | nil => rfl
  | cons x xs ih => simp [scrubItems, ih]

theorem scrubEntries_eq_map (entries : Entries) :
    scrubEntries entries = entries.map scrubEntry := by
  induction entries with
  | nil => rfl
  | cons e es ih => simp [scrubEntries, scrubEntry, ih]

@[simp] theorem isNull_scrub (v : Value) : (scrub v).isNull = v.isNull := by
  cases v <;> simp [scrub, Value.isNull]

/-! ### Payloads that hold something sensitive -/

mutual

/-- Whether a value holds something sensitive at any depth. A reference back leads to a mapping
around it, which may. -/
def holdsSecret : Value → Bool
  | .list items => itemsHoldSecret items
  | .tuple items => itemsHoldSecret items
  | .map entries => entriesHoldSecret entries
  | .model _ given => entriesHoldSecret given
  | .up _ => true
  | _ => false
termination_by structural x => x

/-- Whether some of the values hold something sensitive. -/
def itemsHoldSecret : List Value → Bool
  | [] => false
  | x :: xs => holdsSecret x || itemsHoldSecret xs
termination_by structural x => x

/-- Whether some of the entries hold something sensitive. -/
def entriesHoldSecret : List (Value × Value) → Bool
  | [] => false
  | (k, v) :: es => isSensitiveKey k || holdsSecret v || entriesHoldSecret es
termination_by structural x => x

end

mutual

/-- Whether masking may leave something sensitive: a payload that holds it and is not under a
sensitive name itself. -/
def exposes : Value → Bool
  | .list items => itemsExpose items
  | .tuple items => itemsExpose items
  | .map entries => entriesExpose entries
  | .model _ given => entriesHoldSecret given
  | _ => false
termination_by structural x => x

/-- Whether masking may leave something sensitive in some of the values. -/
def itemsExpose : List Value → Bool
  | [] => false
  | x :: xs => exposes x || itemsExpose xs
termination_by structural x => x

/-- Whether masking may leave something sensitive in some of the entries. -/
def entriesExpose : List (Value × Value) → Bool
  | [] => false
  | (k, v) :: es => (!isSensitiveKey k && exposes v) || entriesExpose es
termination_by structural x => x

end

theorem itemsExpose_eq_false {items : List Value} :
    itemsExpose items = false ↔ ∀ x ∈ items, exposes x = false := by
  induction items with
  | nil => simp [itemsExpose]
  | cons x xs ih => simp [itemsExpose, ih]

theorem entriesExpose_eq_false {entries : Entries} :
    entriesExpose entries = false ↔
      ∀ e ∈ entries, isSensitiveKey e.1 = false → exposes e.2 = false := by
  induction entries with
  | nil => simp [entriesExpose]
  | cons e es ih => simp [entriesExpose, ih]

mutual

/-- In a value that holds nothing sensitive there is nothing to cross out. -/
theorem scrub_of_not_holdsSecret : ∀ v : Value, holdsSecret v = false → scrub v = v
  | .list items, h => by
    rw [scrub, scrubItems_of_not_holdSecret items (by simpa [holdsSecret] using h)]
  | .tuple items, h => by
    rw [scrub, scrubItems_of_not_holdSecret items (by simpa [holdsSecret] using h)]
  | .map entries, h => by
    rw [scrub, scrubEntries_of_not_holdSecret entries (by simpa [holdsSecret] using h)]
  | .model fields given, h => by
    rw [scrub, scrubEntries_of_not_holdSecret given (by simpa [holdsSecret] using h)]
  | .up n, h => by simp [holdsSecret] at h
  | .null, _ | .bool _, _ | .int _, _ | .float _, _ | .str _, _ | .decimal _, _ | .uuid _, _
  | .datetime _, _ | .date _, _ | .bytes _, _ | .object, _ => by simp [scrub]

theorem scrubItems_of_not_holdSecret :
    ∀ items : List Value, itemsHoldSecret items = false → scrubItems items = items
  | [], _ => rfl
  | x :: xs, h => by
    obtain ⟨first, rest⟩ : holdsSecret x = false ∧ itemsHoldSecret xs = false := by
      simpa [itemsHoldSecret] using h
    rw [scrubItems, scrub_of_not_holdsSecret x first, scrubItems_of_not_holdSecret xs rest]

theorem scrubEntries_of_not_holdSecret :
    ∀ entries : List (Value × Value), entriesHoldSecret entries = false →
      scrubEntries entries = entries
  | [], _ => rfl
  | (k, v) :: es, h => by
    obtain ⟨⟨key, value⟩, rest⟩ : (isSensitiveKey k = false ∧ holdsSecret v = false) ∧
        entriesHoldSecret es = false := by
      simpa [entriesHoldSecret] using h
    rw [scrubEntries, if_neg (by simp [key]), scrub_of_not_holdsSecret v value,
      scrubEntries_of_not_holdSecret es rest]

end

/-! ### Masking what is crossed out -/

/-- What masking makes of a mapping, where the values are masked by `inner`. -/
private theorem masked_scrubEntries {inner inner' : Value → Value} {es : Entries}
    (h : ∀ e ∈ es, isSensitiveKey e.1 = false → inner' (scrub e.2) = inner e.2) :
    ((scrubEntries es).map fun e => (e.1, if isSensitiveKey e.1 then hidden else inner' e.2)) =
      es.map fun e => (e.1, if isSensitiveKey e.1 then hidden else inner e.2) := by
  rw [scrubEntries_eq_map, List.map_map]
  refine List.map_congr_left fun e he => ?_
  cases sensitive : isSensitiveKey e.1 with
  | true => simp [scrubEntry, sensitive]
  | false => simp [scrubEntry, sensitive, h e he sensitive]

/-- What is shown of a value at some level is what is shown of it once it and the mappings around it
are crossed out. The induction is on the levels that are left, since a reference back leads outwards
and not into the value. -/
theorem maskAt_scrub (levels : Nat) (around : List Entries) (v : Value)
    (outside : ∀ es ∈ around, entriesExpose es = false) (inside : exposes v = false) :
    maskAt levels (around.map scrubEntries) (scrub v) = maskAt levels around v := by
  induction levels generalizing around v with
  | zero => rfl
  | succ levels ih =>
    have items (xs : List Value) (h : itemsExpose xs = false) :
        ((scrubItems xs).take shownItems).map (maskAt levels (around.map scrubEntries)) =
          (xs.take shownItems).map (maskAt levels around) := by
      rw [scrubItems_eq_map, ← List.map_take, List.map_map]
      exact List.map_congr_left fun x hx =>
        ih around x outside (itemsExpose_eq_false.mp h x (List.mem_of_mem_take hx))
    have entries (around : List Entries) (es : Entries)
        (outside : ∀ es ∈ around, entriesExpose es = false) (h : entriesExpose es = false) :
        ((scrubEntries es).map fun e => (e.1, if isSensitiveKey e.1 then hidden else
            maskAt levels (scrubEntries es :: around.map scrubEntries) e.2)) =
          es.map fun e => (e.1, if isSensitiveKey e.1 then hidden else
            maskAt levels (es :: around) e.2) :=
      masked_scrubEntries fun e he shown => ih (es :: around) e.2
        (by simpa using ⟨h, outside⟩) (entriesExpose_eq_false.mp h e he shown)
    cases v with
    | list xs => simp only [scrub, maskAt, items xs (by simpa [exposes] using inside)]
    | tuple xs => simp only [scrub, maskAt, items xs (by simpa [exposes] using inside)]
    | map es =>
      simp only [scrub, maskAt, entries around es outside (by simpa [exposes] using inside)]
    | model fields given =>
      have nothing : entriesHoldSecret given = false := by simpa [exposes] using inside
      simp only [scrub, maskAt, scrubEntries_of_not_holdSecret given nothing]
    | up n =>
      simp only [scrub, maskAt, ← List.map_drop]
      cases places : around.drop (n - 1) with
      | nil => rfl
      | cons es rest =>
        have kept : ∀ es' ∈ es :: rest, entriesExpose es' = false := fun es' he =>
          outside es' (List.mem_of_mem_drop (places ▸ he))
        simp only [List.map_cons]
        rw [entries rest es (fun es' he => kept es' (by simp [he])) (kept es (by simp))]
    | _ => simp [scrub, maskAt]

/-- **Masking hides what is sensitive.** What is shown of a value is what is shown of it once
everything sensitive is crossed out, unless there is something sensitive inside a payload. -/
theorem mask_scrub {v : Value} (h : exposes v = false) : mask (scrub v) = mask v :=
  maskAt_scrub shownLevels [] v nofun h

/-- The text of a value for a log is that of what is left of it. -/
theorem safeText_scrub {v : Value} (h : exposes v = false) : safeText (scrub v) = safeText v := by
  rw [safeText, mask_scrub h, safeText]

/-! ### Following references back -/

section References

variable {follow follow' : List Entries → Value}

mutual

/-- Replacing references back in what is left of a value is crossing out what they are replaced by,
if that is so of the mappings that they lead to. -/
theorem scrub_replaceReferences
    (h : ∀ places, follow' (places.map scrubEntries) = scrub (follow places)) :
    ∀ (around : List Entries) (v : Value),
      Value.replaceReferences follow' (around.map scrubEntries) (scrub v) =
        scrub (Value.replaceReferences follow around v)
  | around, .up n => by
    simp only [scrub, Value.replaceReferences, ← List.map_drop]
    cases around.drop (n - 1) with
    | nil => simp [scrub]
    | cons es rest => exact h (es :: rest)
  | around, .list items => by
    simp only [scrub, Value.replaceReferences, scrub_replaceInItems h around items]
  | around, .tuple items => by
    simp only [scrub, Value.replaceReferences, scrub_replaceInItems h around items]
  | around, .map entries => by
    simp only [scrub, Value.replaceReferences, ← List.map_cons,
      scrub_replaceInEntries h (entries :: around) entries]
  | around, .model fields given => by
    simp only [scrub, Value.replaceReferences, scrub_replaceInEntries h around given]
  | _, .null | _, .bool _ | _, .int _ | _, .float _ | _, .str _ | _, .decimal _ | _, .uuid _
  | _, .datetime _ | _, .date _ | _, .bytes _ | _, .object => by
    simp [scrub, Value.replaceReferences]

theorem scrub_replaceInItems
    (h : ∀ places, follow' (places.map scrubEntries) = scrub (follow places)) :
    ∀ (around : List Entries) (items : List Value),
      Value.replaceInItems follow' (around.map scrubEntries) (scrubItems items) =
        scrubItems (Value.replaceInItems follow around items)
  | _, [] => rfl
  | around, x :: xs => by
    simp only [scrubItems, Value.replaceInItems, scrub_replaceReferences h around x,
      scrub_replaceInItems h around xs]

theorem scrub_replaceInEntries
    (h : ∀ places, follow' (places.map scrubEntries) = scrub (follow places)) :
    ∀ (around : List Entries) (entries : List (Value × Value)),
      Value.replaceInEntries follow' (around.map scrubEntries) (scrubEntries entries) =
        scrubEntries (Value.replaceInEntries follow around entries)
  | _, [] => rfl
  | around, (k, v) :: es => by
    simp only [scrubEntries, Value.replaceInEntries, scrub_replaceInEntries h around es]
    cases isSensitiveKey k with
    | true => simp [hidden, Value.replaceReferences]
    | false => simp [scrub_replaceReferences h around v]

end

end References

theorem scrub_unfoldPlace (times : Nat) (places : List Entries) :
    Value.unfoldPlace times (places.map scrubEntries) = scrub (Value.unfoldPlace times places) := by
  induction times generalizing places with
  | zero => cases places <;> simp [Value.unfoldPlace, scrub]
  | succ times ih =>
    cases places with
    | nil => simp [Value.unfoldPlace, scrub]
    | cons entries around =>
      simp only [List.map_cons, Value.unfoldPlace, scrub]
      rw [← List.map_cons, scrub_replaceInEntries ih (entries :: around) entries]

/-- Crossing out a value in which references back have been followed is following them in what is
left of it. -/
theorem scrub_unfold (times : Nat) (around : List Entries) (v : Value) :
    scrub (v.unfold times around) = (scrub v).unfold times (around.map scrubEntries) :=
  (scrub_replaceReferences (scrub_unfoldPlace times) around v).symm

/-! ### Reading payloads as mappings -/

mutual

/-- Crossing out a value in which payloads are read as mappings is reading them so in what is left
of it. -/
theorem scrub_plain : ∀ v : Value, scrub v.plain = (scrub v).plain
  | .list items => by simp only [scrub, Value.plain, scrub_plainItems items]
  | .tuple items => by simp only [scrub, Value.plain, scrub_plainItems items]
  | .map entries => by simp only [scrub, Value.plain, scrub_plainEntries entries]
  | .model _ given => by simp only [scrub, Value.plain, scrub_plainEntries given]
  | .null | .bool _ | .int _ | .float _ | .str _ | .decimal _ | .uuid _ | .datetime _ | .date _
  | .bytes _ | .object | .up _ => by simp [scrub, Value.plain]

theorem scrub_plainItems :
    ∀ items : List Value, scrubItems (Value.plainItems items) = Value.plainItems (scrubItems items)
  | [] => rfl
  | x :: xs => by simp only [scrubItems, Value.plainItems, scrub_plain x, scrub_plainItems xs]

theorem scrub_plainEntries : ∀ entries : List (Value × Value),
    scrubEntries (Value.plainEntries entries) = Value.plainEntries (scrubEntries entries)
  | [] => rfl
  | (k, v) :: es => by
    simp only [scrubEntries, Value.plainEntries, scrub_plainEntries es]
    cases isSensitiveKey k with
    | true => simp [hidden]
    | false => simp [scrub_plain v]

end

end Redaction

end Recordbook

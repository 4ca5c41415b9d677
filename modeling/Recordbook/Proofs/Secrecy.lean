import Mathlib.Data.List.Forall2
import Recordbook.Proofs.IncludeReferences
import Recordbook.Redaction

/-!
# What is under the names of secrets

Two values may be equal except for what they hold under the names of secrets, at any depth. Nothing
that is logged of two such values tells the one from the other: they are masked to the same value,
and so their texts are the same wherever they are cut.

That two values are so related is said without masking, by the names of the secrets and the shape of
the values alone. Lists, fixed sequences and mappings are gone into. A payload is not; it is data
like any other and has to be the same in both.

## Main definitions

* `Redaction.NamesSecret` — a key is the name of a secret
* `Redaction.EqualButSecrets` — two values are equal except for what is under such names

## Main results

* `Redaction.maskAt_eq_of_equalButSecrets` — such values are masked alike, at any level
* `masking_keeps_secrets` — neither the masked value nor the text depends on secrets
-/

namespace Recordbook

namespace Redaction

/-! ### Names of secrets -/

/-- A key is the name of a secret: a text with a sensitive word anywhere in it, in letters of any
case. -/
def NamesSecret (key : Value) : Prop :=
  ∃ name, key = .str name ∧ ∃ word ∈ sensitiveWords, word.toList <:+: name.toList.map fold

theorem occursIn_iff {word cs : List Char} : occursIn word cs = true ↔ word <:+: cs := by
  induction cs with
  | nil => simp [occursIn]
  | cons c cs ih => simp [occursIn, ih, List.infix_cons_iff]

theorem isSensitiveKey_iff {key : Value} : isSensitiveKey key = true ↔ NamesSecret key := by
  cases key with
  | str name => simp [isSensitiveKey, isSensitive, NamesSecret, occursIn_iff]
  | _ => simp [isSensitiveKey, NamesSecret]

/-! ### Equality except for secrets -/

/-- Whether a value is data that is not gone into. A payload is, unless it leads back to a mapping
around it: then it is only as much the same as that mapping is. -/
def isData : Value → Bool
  | .list _ => false
  | .tuple _ => false
  | .map _ => false
  | .up _ => false
  | v => v.isClosed

mutual

/-- Two values are equal except for what they hold under the names of secrets. -/
inductive EqualButSecrets : Value → Value → Prop
  /-- The same data. -/
  | data {v : Value} (whole : isData v = true) : EqualButSecrets v v
  /-- References back to mappings that are in the same places. -/
  | back (levels : Nat) : EqualButSecrets (.up levels) (.up levels)
  /-- Lists. -/
  | list {vs ws : List Value} (items : EqualButSecretsIn vs ws) :
      EqualButSecrets (.list vs) (.list ws)
  /-- Fixed sequences. -/
  | tuple {vs ws : List Value} (items : EqualButSecretsIn vs ws) :
      EqualButSecrets (.tuple vs) (.tuple ws)
  /-- Mappings. -/
  | map {es fs : List (Value × Value)} (entries : EqualButSecretsUnder es fs) :
      EqualButSecrets (.map es) (.map fs)

/-- So are two sequences, item by item. -/
inductive EqualButSecretsIn : List Value → List Value → Prop
  /-- There are no items. -/
  | nil : EqualButSecretsIn [] []
  /-- The first items and the others. -/
  | cons {v w : Value} {vs ws : List Value} (first : EqualButSecrets v w)
      (others : EqualButSecretsIn vs ws) : EqualButSecretsIn (v :: vs) (w :: ws)

/-- So are the entries of two mappings, key by key. -/
inductive EqualButSecretsUnder : List (Value × Value) → List (Value × Value) → Prop
  /-- There are no entries. -/
  | nil : EqualButSecretsUnder [] []
  /-- The first entries are under the name of a secret, with any two values. -/
  | secret {key v w : Value} {es fs : List (Value × Value)} (name : NamesSecret key)
      (others : EqualButSecretsUnder es fs) : EqualButSecretsUnder ((key, v) :: es) ((key, w) :: fs)
  /-- The first entries are under any key, with values that are equal except for secrets. -/
  | entry {key v w : Value} {es fs : List (Value × Value)} (value : EqualButSecrets v w)
      (others : EqualButSecretsUnder es fs) : EqualButSecretsUnder ((key, v) :: es) ((key, w) :: fs)

end

/-! ### Masking -/

theorem maskAt_of_isData {v : Value} (h : isData v = true) (levels : Nat) (around : List Entries) :
    maskAt (levels + 1) around v = v := by
  cases v <;> first | rfl | cases h

section

variable {inner inner' : Value → Value}

/-- Of sequences that are equal except for secrets the same is shown, if it is of their items. -/
theorem EqualButSecretsIn.map_take
    (same : ∀ {v w : Value}, EqualButSecrets v w → inner v = inner' w) :
    ∀ {vs ws : List Value}, EqualButSecretsIn vs ws →
      ∀ shown : Nat, (vs.take shown).map inner = (ws.take shown).map inner'
  | _, _, .nil, _ => by simp
  | _, _, .cons _ _, 0 => rfl
  | _, _, .cons first others, shown + 1 => by
    simp only [List.take_succ_cons, List.map_cons, same first, others.map_take same shown]

/-- Of entries that are equal except for secrets the same is shown, if it is of their values. Where
the key is the name of a secret, the values are not looked at. -/
theorem EqualButSecretsUnder.map_hidden
    (same : ∀ {v w : Value}, EqualButSecrets v w → inner v = inner' w) :
    ∀ {es fs : List (Value × Value)}, EqualButSecretsUnder es fs →
      (es.map fun e => (e.1, if isSensitiveKey e.1 then hidden else inner e.2)) =
        fs.map fun f => (f.1, if isSensitiveKey f.1 then hidden else inner' f.2)
  | _, _, .nil => rfl
  | _, _, .secret name others => by
    simp only [List.map_cons, isSensitiveKey_iff.mpr name, if_true, others.map_hidden same]
  | _, _, .entry value others => by
    simp only [List.map_cons, same value, others.map_hidden same]

end

/-- Values that are equal except for secrets are masked alike, if the mappings around them are equal
except for secrets too. The induction is on the levels that are left, since a reference back leads
to one of the mappings around. -/
theorem maskAt_eq_of_equalButSecrets (levels : Nat) {around around' : List Entries} {v w : Value}
    (outside : List.Forall₂ EqualButSecretsUnder around around') (h : EqualButSecrets v w) :
    maskAt levels around v = maskAt levels around' w := by
  induction levels generalizing around around' v w with
  | zero => rfl
  | succ levels ih =>
    have entries {around around' : List Entries} {es fs : Entries}
        (outside : List.Forall₂ EqualButSecretsUnder around around')
        (h : EqualButSecretsUnder es fs) :
        (es.map fun e => (e.1, if isSensitiveKey e.1 then hidden else
            maskAt levels (es :: around) e.2)) =
          fs.map fun f => (f.1, if isSensitiveKey f.1 then hidden else
            maskAt levels (fs :: around') f.2) :=
      h.map_hidden fun value => ih (.cons h outside) value
    cases h with
    | data whole => rw [maskAt_of_isData whole, maskAt_of_isData whole]
    | list items => simp only [maskAt, items.map_take (ih outside) shownItems]
    | tuple items => simp only [maskAt, items.map_take (ih outside) shownItems]
    | map given => simp only [maskAt, entries outside given]
    | back n =>
      have places := List.forall₂_drop (n - 1) outside
      simp only [maskAt]
      cases left : around.drop (n - 1) with
      | nil =>
        rw [left, List.forall₂_nil_left_iff] at places
        rw [places]
      | cons es rest =>
        rw [left, List.forall₂_cons_left_iff] at places
        obtain ⟨fs, rest', given, further, right⟩ := places
        simp only [right, entries further given]

end Redaction

open Redaction

/-- **Masking keeps secrets.** Two values that are equal except for what they hold under the names
of secrets, whatever that is in each and however deep it is, are masked to the same value at every
level, and have the same text in a log. -/
theorem masking_keeps_secrets {v w : Value} (h : EqualButSecrets v w) :
    (∀ levels, maskAt levels [] v = maskAt levels [] w) ∧ mask v = mask w ∧
      safeText v = safeText w := by
  have masked (levels : Nat) : maskAt levels [] v = maskAt levels [] w :=
    maskAt_eq_of_equalButSecrets levels .nil h
  have shown : mask v = mask w := masked shownLevels
  refine ⟨masked, shown, ?_⟩
  rw [safeText, shown, safeText]

/-- A user's access token, in a mapping inside of a pair in a list. -/
def withToken (token : Value) : Value :=
  .map [(.str "user", .str "ada"),
    (.str "sessions", .list [.tuple [.int 7, .map [(.str "X-Acceſſ-TOKEN", token)]]])]

/-- A token that is a text and one that is a list are not told apart. -/
theorem masking_keeps_secrets_token :
    let v := withToken (.str "hunter2")
    let w := withToken (.list [.null, .int 1])
    EqualButSecrets v w ∧ mask v = mask w ∧ safeText v = safeText w ∧
      safeText w =
        some "\x7b'user': 'ada', 'sessions': [[7, \x7b'X-Acceſſ-TOKEN': '***'\x7d]]\x7d" := by
  intro v w
  have named : NamesSecret (.str "X-Acceſſ-TOKEN") := isSensitiveKey_iff.mp (by rfl)
  have pair (token token' : Value) : EqualButSecrets
      (.tuple [.int 7, .map [(.str "X-Acceſſ-TOKEN", token)]])
      (.tuple [.int 7, .map [(.str "X-Acceſſ-TOKEN", token')]]) :=
    .tuple (.cons (.data rfl) (.cons (.map (.secret named .nil)) .nil))
  have same : EqualButSecrets v w :=
    .map (.entry (.data rfl) (.entry (.list (.cons (pair _ _) .nil)) .nil))
  have text : safeText w =
      some "\x7b'user': 'ada', 'sessions': [[7, \x7b'X-Acceſſ-TOKEN': '***'\x7d]]\x7d" := by
    decide +kernel
  obtain ⟨-, masked, logged⟩ := masking_keeps_secrets same
  exact ⟨same, masked, logged, text⟩

end Recordbook

import Recordbook.Value.Basic

/-!
# References back

What a reference back stands for depends on where it is: it leads to one of the mappings around it.
A value that is taken out of its place has its references followed first, so many times over that
whoever looks at it meets mappings only. Further down, references are left as they are.

## Implementation notes

Following a reference leads to a mapping that is larger than the value at hand, so `unfold` recurs
on the number of times that references are still followed. Replacing the references of one value,
given what they stand for, is structural.
-/

namespace Recordbook

namespace Value

mutual

/-- A value with each reference back replaced by what `follow` makes of the mappings from the one
that it leads to outwards; `around` are the mappings around the value, nearest first. -/
def replaceReferences (follow : List Entries → Value) (around : List Entries) : Value → Value
  | .up levels => match around.drop (levels - 1) with
    | [] => .up levels
    | places => follow places
  | .list items => .list (replaceInItems follow around items)
  | .tuple items => .tuple (replaceInItems follow around items)
  | .map entries => .map (replaceInEntries follow (entries :: around) entries)
  | .model fields given => .model fields (replaceInEntries follow around given)
  | v => v
termination_by structural x => x

/-- Values with each reference back in them replaced. -/
def replaceInItems (follow : List Entries → Value) (around : List Entries) :
    List Value → List Value
  | [] => []
  | x :: xs => replaceReferences follow around x :: replaceInItems follow around xs
termination_by structural x => x

/-- Entries with each reference back in their values replaced. -/
def replaceInEntries (follow : List Entries → Value) (around : List Entries) :
    List (Value × Value) → List (Value × Value)
  | [] => []
  | (k, v) :: es => (k, replaceReferences follow around v) :: replaceInEntries follow around es
termination_by structural x => x

end

/-- The mapping at hand, the first of the places, with references followed so many times over. -/
def unfoldPlace : Nat → List Entries → Value
  | times + 1, entries :: around =>
    .map (replaceInEntries (unfoldPlace times) (entries :: around) entries)
  | _, _ => .up 1

/-- A value with references back followed so many times over; `around` are the mappings around it.
-/
def unfold (times : Nat) (around : List Entries) (v : Value) : Value :=
  replaceReferences (unfoldPlace times) around v

@[simp] theorem unfold_str (times : Nat) (around : List Entries) (s : String) :
    unfold times around (.str s) = .str s := by simp [unfold, replaceReferences]

end Value

end Recordbook

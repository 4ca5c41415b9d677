import Recordbook.Query.Criterion

/-!
# The way to a record

Which of several records a store comes upon first. It looks through a table in the order in which
the records were added, unless the criteria narrow down one of the unique keys, starting with its
first column: then it goes along that key, in the order of its columns. Of several such keys it
takes the one for which it expects the fewest records.

What is expected says nothing about the records that are there. It counts the values and bounds in
the criteria, and takes one value of the first columns of a longer key to stand for a few records.

## Main definitions

* `Access.path` — the key along which a store goes, empty if it goes through the whole table
-/

namespace Recordbook

namespace Access

variable {α : Type}

/-- How many values of a column a criterion leaves, if it lists them. -/
def listed? (f : Field) : Criterion α → Option Nat
  | .compare g .eq _ => if g = f then some 1 else none
  | .within g true operands => if g = f then some operands.length else none
  | _ => none

/-- How many values of a column some criteria leave, if any of them lists them. -/
def valueCount? (f : Field) (criteria : List (Criterion α)) : Option Nat :=
  (criteria.filterMap (listed? f)).min?

/-- Whether a criterion bounds a column from below. -/
def isLowerBound (f : Field) : Criterion α → Bool
  | .compare g .gt _ => g = f
  | .compare g .ge _ => g = f
  | _ => false

/-- Whether a criterion bounds a column from above. -/
def isUpperBound (f : Field) : Criterion α → Bool
  | .compare g .lt _ => g = f
  | .compare g .le _ => g = f
  | _ => false

/-- From how many sides some criteria bound a column. -/
def sides (f : Field) (criteria : List (Criterion α)) : Nat :=
  (criteria.any (isLowerBound f)).toNat + (criteria.any (isUpperBound f)).toNat

/-- The number of records that a table is expected to have. -/
def tableSize : Nat := 2 ^ 20

/-- The number of records expected for one value of each of the first columns of a key of which so
many are left. -/
def rest (used left : Nat) : Nat :=
  if left = 0 then 1 else if used = 0 then tableSize else 11 - used

/-- The number of records expected along a key, in sixteenths; none if nothing is known of its first
column. The columns of which values are listed have been counted in `used` and `product`. -/
def expected? (criteria : List (Criterion α)) (used product : Nat) : List Field → Option Nat
  | [] => some (16 * product * rest used 0)
  | f :: fs => match valueCount? f criteria with
    | some n => expected? criteria (used + 1) (product * n) fs
    | none =>
      let bounds := sides f criteria
      if used = 0 ∧ bounds = 0 then none
      else some (16 * product * rest used (fs.length + 1) / 4 ^ bounds)

/-- The better of two ways, each with the number of records expected along it. -/
def better (a b : List Field × Nat) : List Field × Nat := if b.2 < a.2 then b else a

/-- The key along which a store goes to the records of a kind that meet criteria. -/
def path (e : Entity) (criteria : List (Criterion α)) : List Field :=
  let ways := ([.id] :: e.uniqueKeys).filterMap fun key =>
    (expected? criteria 0 1 key).map fun n => (key, n)
  match ways with
  | [] => []
  | way :: others => (others.foldl better way).1

end Access

end Recordbook

import Recordbook.Text.Digit

/-!
# Whole numbers in text

The lenient reader of integers that validated fields use. A plain integer is read at once. Otherwise
the text is tidied first: blanks around the number, a sign, zeros in front, single underscores
between digits, and a fraction of zeros are all accepted. Digits are ASCII.

A plain integer may have 4300 characters. More of them in a row are reported as such, whatever
follows, but only where no tidying was needed to find them.

## Main definitions

* `Text.readPlain` — an integer in its plain form
* `Text.tidy?` — the text that is left when all that is accepted around an integer is dropped
* `Text.readWholeNumber` — the reader
-/

namespace Recordbook

namespace Text

/-- What a text holds where an integer is wanted. -/
inductive WholeNumber
  /-- An integer. -/
  | whole (n : Int)
  /-- More digits than an integer may have. -/
  | tooLong
  /-- No integer. -/
  | unreadable
deriving DecidableEq

/-- The most characters of a plain integer. -/
def wholeNumberLimit : Nat := 4300

/-- The number that ASCII digits stand for. -/
def plainNat (cs : List Char) : Nat := cs.foldl (fun n c => 10 * n + (c.toNat - 48)) 0

/-- Whether some digits are zero, written with more than one digit. -/
def isPadded : List Char → Bool
  | '0' :: _ :: _ => true
  | _ => false

/-- An integer in its plain form: perhaps a minus sign, then digits, the first of them not a zero
unless it is the only one. -/
def readPlain (cs : List Char) : WholeNumber :=
  let negative := cs.head? = some '-'
  let unsigned := if negative then cs.drop 1 else cs
  let digits := unsigned.takeWhile Char.isDigit
  if digits.isEmpty ∨ isPadded unsigned then .unreadable
  else if wholeNumberLimit < cs.length - (unsigned.length - digits.length) then .tooLong
  else if digits.length < unsigned.length then .unreadable
  else .whole (if negative then -(plainNat digits : Int) else plainNat digits)

/-- A sign in front is dropped, unless another sign follows it; with it, whether it is a minus
sign. A minus sign may follow a plus sign no more than another plus sign may. -/
def dropSign? : List Char → Option (Bool × List Char)
  | c :: d :: cs =>
    if c = '+' ∨ c = '-' then
      if d = '+' ∨ d = '-' then none else some (c = '-', d :: cs)
    else some (false, c :: d :: cs)
  | [c] => if c = '+' ∨ c = '-' then none else some (false, [c])
  | [] => none

/-- Zeros and underscores in front of what counts, which is a digit, a minus sign or a point. The
last of them is kept if nothing follows it or a point does. -/
def dropLeadingZeros? : List Char → Option (List Char)
  | [] => none
  | c :: cs =>
    if c = '0' then
      match cs.dropWhile fun d => d = '0' || d = '_' with
      | [] => some [(c :: cs).getLast (List.cons_ne_nil c cs)]
      | d :: rest =>
        if ('1' ≤ d ∧ d ≤ '9') ∨ d = '-' then some (d :: rest)
        else if d = '.' then
          some ((c :: cs.takeWhile fun d => d = '0' || d = '_').getLast (List.cons_ne_nil _ _) ::
            d :: rest)
        else none
    else if ('1' ≤ c ∧ c ≤ '9') ∨ c = '-' then some (c :: cs)
    else none

/-- The part before a point, if zeros and nothing else follow it. -/
def dropZeroFraction (cs : List Char) : List Char :=
  match cs.dropWhile (· ≠ '.') with
  | _ :: zero :: zeros =>
    if (zero :: zeros).all (· = '0') then cs.takeWhile (· ≠ '.') else cs
  | _ => cs

/-- Whether two underscores follow each other. -/
def hasDoubleUnderscore : List Char → Bool
  | '_' :: '_' :: _ => true
  | _ :: cs => hasDoubleUnderscore cs
  | [] => false

/-- The text without underscores, if each stands alone between other characters. -/
def dropUnderscores (cs : List Char) : List Char :=
  if cs.head? = some '_' ∨ cs.getLast? = some '_' ∨ hasDoubleUnderscore cs then cs
  else cs.filter (· ≠ '_')

/-- What is left of a text when all that is accepted around an integer is dropped. -/
def tidy? (cs : List Char) : Option (List Char) := do
  let (negative, unsigned) ← dropSign? (trimBlanks cs)
  let significant ← dropLeadingZeros? unsigned
  let digits := dropUnderscores (dropZeroFraction significant)
  return if negative then '-' :: digits else digits

/-- An integer written leniently. -/
def readWholeNumber (s : String) : WholeNumber :=
  match readPlain s.toList with
  | .unreadable => match (tidy? s.toList).map readPlain with
    | some (.whole n) => .whole n
    | _ => .unreadable
  | reading => reading

end Text

end Recordbook

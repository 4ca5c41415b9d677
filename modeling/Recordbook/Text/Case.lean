import Recordbook.Text.CaseTable

/-!
# Upper and lower case

The full case mappings of Unicode on whole texts. All but one look at a single character; the
capital sigma has two lower cases, and which one is right depends on the letters around it.
-/

namespace Recordbook

namespace Text

/-- The code point that a run of simple mappings gives a character. -/
def applyRuns (runs : List (Nat × Nat × Nat × Int)) (n : Nat) : Option Nat :=
  (runs.find? fun r => r.1 ≤ n && n ≤ r.2.1 && (n - r.1) % r.2.2.1 = 0).map
    fun r => ((n : Int) + r.2.2.2).toNat

/-- Whether a code point lies in one of the intervals. -/
def inRanges (ranges : List (Nat × Nat)) (n : Nat) : Bool :=
  ranges.any fun r => r.1 ≤ n && n ≤ r.2

/-- Whether the final sigma rule passes the character over. -/
def isCaseIgnorable (c : Char) : Bool := inRanges caseIgnorableRanges c.toNat

/-- Whether the character has case. -/
def isCased (c : Char) : Bool := inRanges casedRanges c.toNat

/-- Whether the first character that is not passed over has case. -/
def nextIsCased (cs : List Char) : Bool :=
  match cs.dropWhile isCaseIgnorable with
  | c :: _ => isCased c
  | [] => false

/-- The lower case of one character, the capital sigma apart. -/
def lowerChar (c : Char) : List Char :=
  if c.toNat < 0x80 then [c.toLower]
  else if c.toNat = 0x130 then ['i', Char.ofNat 0x307]
  else match applyRuns lowerRuns c.toNat with
    | some n => [Char.ofNat n]
    | none => [c]

/-- Lower case from a place inside a text. The characters before it are given in reverse, for the
final sigma: a capital sigma that ends a word. -/
def lowerFrom : List Char → List Char → List Char
  | _, [] => []
  | before, c :: after =>
    let here :=
      if c.toNat = 0x3a3 then
        if nextIsCased before && !nextIsCased after then [Char.ofNat 0x3c2] else [Char.ofNat 0x3c3]
      else lowerChar c
    here ++ lowerFrom (c :: before) after

/-- The text in lower case. -/
def lower (s : String) : String := String.ofList (lowerFrom [] s.toList)

/-- The upper case of one character. -/
def upperChar (c : Char) : List Char :=
  if c.toNat < 0x80 then [c.toUpper]
  else match upperTexts.find? (·.1 = c.toNat) with
    | some r => r.2.toList
    | none => match applyRuns upperRuns c.toNat with
      | some n => [Char.ofNat n]
      | none => [c]

/-- The text in upper case. -/
def upper (s : String) : String := String.ofList (s.toList.flatMap upperChar)

/-- The title case of one character. -/
def titleChar (c : Char) : List Char :=
  match titleTexts.find? (·.1 = c.toNat) with
  | some r => r.2.toList
  | none => upperChar c

/-- The text with its first character in title case and the others in lower case. -/
def capitalize (s : String) : String :=
  match s.toList with
  | [] => ""
  | c :: cs => String.ofList (titleChar c ++ lowerFrom [c] cs)

/-- A name in words: a blank before each ASCII capital that is not the first character, and all of
it in lower case. -/
def humanize (name : String) : String :=
  match name.toList with
  | [] => ""
  | c :: cs =>
    lower (String.ofList (c :: cs.flatMap fun d => if d.isUpper then [' ', d] else [d]))

end Text

end Recordbook

import Recordbook.Text.Printable
import Recordbook.Uuid

/-!
# Quoted text

A text inside another value is shown in quotes: single ones, unless the text holds a single quote
and no double one. Characters that are not printable are shown by their code, in the shortest of
three lengths.
-/

namespace Recordbook

namespace Text

/-- The quotation mark around a text that holds the given characters. -/
def quoteMark (single double : Bool) : Char := if single && !double then '"' else '\''

/-- A character by its code: two, four or eight hexadecimal digits. -/
def codeEscape (n : Nat) : List Char :=
  if n < 0x100 then '\\' :: 'x' :: Uuid.hexDigits 2 n
  else if n < 0x10000 then '\\' :: 'u' :: Uuid.hexDigits 4 n
  else '\\' :: 'U' :: Uuid.hexDigits 8 n

/-- A character of a quoted text. -/
def quoteChar (mark c : Char) : List Char :=
  if c = mark ∨ c = '\\' then ['\\', c]
  else if c = '\n' then ['\\', 'n']
  else if c = '\r' then ['\\', 'r']
  else if c = '\t' then ['\\', 't']
  else if isPrintable c then [c]
  else codeEscape c.toNat

/-- A text in quotes. -/
def quote (s : String) : String :=
  let cs := s.toList
  let mark := quoteMark (cs.contains '\'') (cs.contains '"')
  String.ofList (mark :: cs.flatMap (quoteChar mark) ++ [mark])

/-- A byte of quoted raw data: shown as the ASCII character it is, or by its code. -/
def quoteByte (mark : Char) (b : UInt8) : List Char :=
  let c := Char.ofNat b.toNat
  if 0x7f ≤ b.toNat then codeEscape b.toNat else quoteChar mark c

/-- Raw data in quotes, marked as such. -/
def quoteBytes (bs : List UInt8) : String :=
  let mark := quoteMark (bs.contains 39) (bs.contains 34)
  String.ofList ('b' :: mark :: bs.flatMap (quoteByte mark) ++ [mark])

end Text

end Recordbook

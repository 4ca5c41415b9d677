import Recordbook.Value.Text

/-!
# Redaction

What may be shown of arguments in a log. The values under sensitive names are replaced, deep nesting
and long lists are cut, and the text as a whole is limited. What is left is written before the text
is cut, so an integer that is too long to be written leaves no text, wherever it would have stood.

A name is sensitive if it contains one of a few words, whatever the case of its letters. Case is
compared one character at a time, by the simple case folding of Unicode, under which the long s is
an s and the sign for kelvin is a k, and both the dotted capital and the dotless small i are an i.
-/

namespace Recordbook

namespace Redaction

/-- The words that make a name sensitive. -/
def sensitiveWords : List String := [
  "password", "passwd", "secret", "token", "authorization", "api_key", "apikey", "credential", "cvv"]

/-- A character without regard to case, as far as the sensitive words need it. -/
def fold (c : Char) : Char :=
  if c = '\u017f' then 's'
  else if c = '\u212a' then 'k'
  else if c = '\u0130' ∨ c = '\u0131' then 'i'
  else c.toLower

/-- Whether a text occurs in another as a run of characters. -/
def occursIn (word : List Char) : List Char → Bool
  | [] => word.isEmpty
  | c :: cs => word.isPrefixOf (c :: cs) || occursIn word cs

/-- Whether a name is sensitive. -/
def isSensitive (name : String) : Bool :=
  let folded := name.toList.map fold
  sensitiveWords.any fun w => occursIn w.toList folded

/-- Whether a key of a mapping is a sensitive name. -/
def isSensitiveKey : Value → Bool
  | .str s => isSensitive s
  | _ => false

/-- What stands for a sensitive value. -/
def hidden : Value := .str "***"

/-- What stands for everything that is nested too deeply. -/
def elided : Value := .str "..."

/-- The number of nested levels that are shown. -/
def shownLevels : Nat := 6

/-- The number of items of a list that are shown. -/
def shownItems : Nat := 20

/-- A value with so many levels shown; `around` are the mappings around it, for references back. -/
def maskAt : Nat → List Entries → Value → Value
  | 0, _, _ => elided
  | levels + 1, around, v =>
    let entries (around : List Entries) (es : Entries) : Value :=
      .map (es.map fun e =>
        (e.1, if isSensitiveKey e.1 then hidden else maskAt levels (es :: around) e.2))
    match v with
    | .map es => entries around es
    | .up n => match around.drop (n - 1) with
      | es :: rest => entries rest es
      | [] => v
    | .list xs => .list ((xs.take shownItems).map (maskAt levels around))
    | .tuple xs => .list ((xs.take shownItems).map (maskAt levels around))
    | v => v

/-- A value without what may not be shown. -/
def mask (v : Value) : Value := maskAt shownLevels [] v

/-- A value's text by itself if it is one, as it is shown otherwise. -/
def plainText : Value → Option String
  | .str s => some s
  | v => v.display?

/-- A text cut to a number of characters, with a note if something was cut. A negative number counts
from the end. -/
def truncateText (limit : Int) (text : String) : String :=
  let cs := text.toList
  let count : Int := cs.length
  if limit < count then
    let kept := if limit < 0 then (count + limit).toNat else limit.toNat
    String.ofList (cs.take kept) ++ "...(truncated)"
  else text

/-- The number of characters of a shown value. -/
def shownLength : Int := 2000

/-- The text of a value for a log, if it can be written. -/
def safeText (v : Value) : Option String := (plainText (mask v)).map (truncateText shownLength)

/-- The name of the root of all loggers. -/
def loggerRoot : String := "querystore"

/-- The name of a logger, under the common root. -/
def loggerName (name : String) : String :=
  if name.startsWith loggerRoot then name else loggerRoot ++ "." ++ name

end Redaction

end Recordbook

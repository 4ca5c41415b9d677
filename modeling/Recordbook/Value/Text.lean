import Recordbook.Text.Quoted
import Recordbook.Value.Mapping

/-!
# Texts of values

Two texts of a value. `Value.display?` is the text shown inside another container and in logs: texts
are quoted there. `Value.text?` is the text of the value by itself, in which a text is just itself.

There is not always one. An integer is written with so many digits at most, and a value that holds a
longer one, at whatever depth, has no text at all.
-/

namespace Recordbook

/-- Texts with a separator between them. -/
def joinTexts (separator : String) (parts : List String) : String :=
  String.intercalate separator parts

/-- A span of microseconds, less than a day from zero either way, as days, seconds and
microseconds. -/
def displaySpan (span : Int) : String :=
  let days := span.fdiv 86400000000
  let seconds := (span.fmod 86400000000) / 1000000
  let micro := span.fmod 1000000
  let part (name : String) (n : Int) : List String :=
    if n = 0 then [] else [name ++ "=" ++ toString n]
  let parts := part "days" days ++ part "seconds" seconds ++ part "microseconds" micro
  "datetime.timedelta(" ++ (if parts.isEmpty then "0" else joinTexts ", " parts) ++ ")"

/-- A day, as shown inside a container. -/
def Date.display (d : Date) : String :=
  "datetime.date(" ++ joinTexts ", " ([d.year, d.month, d.day].map toString) ++ ")"

/-- A time, as shown inside a container: seconds and microseconds only if they are needed. -/
def DateTime.display (t : DateTime) : String :=
  let w := t.wall
  let small :=
    if w.microsecond ≠ 0 then [w.second, w.microsecond]
    else if w.second ≠ 0 then [w.second] else []
  let numbers := [w.date.year, w.date.month, w.date.day, w.hour, w.minute] ++ small
  let zone := match t.offset with
    | none => []
    | some 0 => ["tzinfo=datetime.timezone.utc"]
    | some n => ["tzinfo=datetime.timezone(" ++ displaySpan n ++ ")"]
  "datetime.datetime(" ++ joinTexts ", " (numbers.map toString ++ zone) ++ ")"

namespace Value

/-- An integer that does not have too many digits to be written. -/
def IsShort (n : Int) : Prop := n.natAbs < 10 ^ digitLimit

instance (n : Int) : Decidable (IsShort n) := inferInstanceAs (Decidable (_ < _))

/-- An integer in digits, if it does not have too many. -/
def wholeText? (n : Int) : Option String := if IsShort n then some (toString n) else none

/-- A field of a payload with its shown value, which is null if it was not given. -/
def displayField? (given : List (Value × Option String)) (field : String) : Option String :=
  match given.find? fun e => e.1.isText field with
  | none => some (field ++ "=None")
  | some e => e.2.map fun shown => field ++ "=" ++ shown

mutual

/-- The text of a value inside a container. -/
def display? : Value → Option String
  | .null => some "None"
  | .bool b => some (if b then "True" else "False")
  | .int n => wholeText? n
  | .float x => some x.shortestText
  | .str s => some (Text.quote s)
  | .list items => (displayItems? items).map fun parts => "[" ++ joinTexts ", " parts ++ "]"
  | .tuple items => (displayItems? items).map fun
    | [one] => "(" ++ one ++ ",)"
    | parts => "(" ++ joinTexts ", " parts ++ ")"
  | .map entries => (displayEntries? entries).map fun parts =>
    "\x7b" ++ joinTexts ", " parts ++ "\x7d"
  | .decimal d => some ("Decimal('" ++ d.text ++ "')")
  | .uuid u => some ("UUID('" ++ u.text ++ "')")
  | .datetime t => some t.display
  | .date d => some d.display
  | .bytes bs => some (Text.quoteBytes bs)
  | .object => some "<opaque>"
  | .model fields given => (fields.mapM (displayField? (displayGiven given))).map fun parts =>
    "Model(" ++ joinTexts ", " parts ++ ")"
  | .up _ => some "\x7b...\x7d"
termination_by structural x => x

/-- The texts of some values. -/
def displayItems? : List Value → Option (List String)
  | [] => some []
  | x :: xs => do
    let shown ← display? x
    let others ← displayItems? xs
    return shown :: others
termination_by structural x => x

/-- The texts of some entries. -/
def displayEntries? : List (Value × Value) → Option (List String)
  | [] => some []
  | (k, v) :: es => do
    let key ← display? k
    let shown ← display? v
    let others ← displayEntries? es
    return (key ++ ": " ++ shown) :: others
termination_by structural x => x

/-- The given fields of a payload with the texts of their values. -/
def displayGiven : List (Value × Value) → List (Value × Option String)
  | [] => []
  | (k, v) :: es => (k, display? v) :: displayGiven es
termination_by structural x => x

end

/-- The text of a value by itself. -/
def text? : Value → Option String
  | .str s => some s
  | .decimal d => some d.text
  | .uuid u => some u.text
  | .datetime t => some (t.text " ")
  | .date d => some d.text
  | .model fields given =>
    (fields.mapM (displayField? (displayGiven given))).map (joinTexts " ")
  | v => v.display?

end Value

end Recordbook

import Recordbook.Number.DecimalArithmetic
import Recordbook.Text.Octets
import Recordbook.Text.Whole
import Recordbook.Value.Text

/-!
# Validated fields

Reading a value as a field of a fixed type. Reading is lenient: an integer may be given as a
fraction without a fractional part or as a text, a text as raw data. What cannot be read is
reported, one issue for each fault found, with the path to it.

Reports have two forms: `Invalid.brief` on one line, and `Invalid.report` with the offending input.
-/

namespace Recordbook

/-- What is wrong with an input. -/
inductive Complaint
  /-- Not a number at all. -/
  | notWhole
  /-- A text that is no integer. -/
  | unreadableWhole
  /-- A number too large for the way it was given. -/
  | oversizedWhole
  /-- A number with a fractional part. -/
  | fractional
  /-- An infinity, or not a number. -/
  | notFinite
  /-- A text that is no truth value. -/
  | unreadableFlag
  /-- Not a text. -/
  | notText
  /-- Raw data that is no text. -/
  | undecodable
  /-- Not a mapping. -/
  | notMapping
  /-- Not a mapping that could be a set of operators. -/
  | notOperators
  /-- Not a list. -/
  | notList
  /-- None of the values allowed. -/
  | notOneOf (allowed : List String)
  /-- A required field is absent. -/
  | missing
  /-- The fields do not fit together. -/
  | incoherent (reason : String)
  /-- The value may not be changed any more. -/
  | frozen
deriving DecidableEq, Repr

namespace Complaint

/-- Allowed texts, in quotes, as a phrase. -/
def allowedPhrase (allowed : List String) : String :=
  joinTexts " or " (allowed.map fun s => "'" ++ s ++ "'")

/-- The message. -/
def message : Complaint → String
  | .notWhole => "Input should be a valid integer"
  | .unreadableWhole => "Input should be a valid integer, unable to parse string as an integer"
  | .oversizedWhole => "Unable to parse input string as an integer, exceeded maximum size"
  | .fractional => "Input should be a valid integer, got a number with a fractional part"
  | .notFinite => "Input should be a finite number"
  | .unreadableFlag => "Input should be a valid boolean, unable to interpret input"
  | .notText => "Input should be a valid string"
  | .undecodable => "Input should be a valid string, unable to parse raw data as a unicode string"
  | .notMapping => "Input should be a valid dictionary"
  | .notOperators => "Input should be a valid dictionary or instance of OperatorFilter"
  | .notList => "Input should be a valid list"
  | .notOneOf allowed => "Input should be " ++ allowedPhrase allowed
  | .missing => "Field required"
  | .incoherent reason => "Value error, " ++ reason
  | .frozen => "Instance is frozen"

/-- The short name in a report. -/
def tag : Complaint → String
  | .notWhole => "int_type"
  | .unreadableWhole => "int_parsing"
  | .oversizedWhole => "int_parsing_size"
  | .fractional => "int_from_float"
  | .notFinite => "finite_number"
  | .unreadableFlag => "bool_parsing"
  | .notText => "string_type"
  | .undecodable => "string_unicode"
  | .notMapping => "dict_type"
  | .notOperators => "model_type"
  | .notList => "list_type"
  | .notOneOf _ => "literal_error"
  | .missing => "missing"
  | .incoherent _ => "value_error"
  | .frozen => "frozen_instance"

end Complaint

/-- A complaint about one input. -/
structure Issue where
  /-- The path to the input. -/
  path : List String
  /-- What is wrong. -/
  complaint : Complaint
  /-- The input. -/
  input : Value

/-- A validation that failed. -/
structure Invalid where
  /-- The name of what was to be built. -/
  subject : String
  /-- The issues, in order of the fields. -/
  issues : List Issue

/-- A value's text in a report, which names the kind of the value where there is no other text. -/
def Value.reportText (v : Value) : String :=
  v.display?.getD ("<unprintable " ++ v.kindName ++ " object>")

namespace Issue

/-- The path, with points between its parts. -/
def location (i : Issue) : String := joinTexts "." i.path

/-- A part of a path in a report: one that holds a point is marked off. -/
def reportPart (part : String) : String :=
  if part.toList.contains '.' then "\x60" ++ part ++ "\x60" else part

/-- The path in a report, on a line of its own if it has any parts. -/
def reportLocation (i : Issue) : String :=
  if i.path.isEmpty then "" else joinTexts "." (i.path.map reportPart) ++ "\n"

/-- The greatest number of octets of an input that a report shows in full. -/
def inputLimit : Nat := 50

/-- An input's text in a report. Of one that is too long only the two ends are shown, of 25 and of
24 octets, or fewer where a character would be cut. -/
def inputText (v : Value) : String :=
  let cs := v.reportText.toList
  if inputLimit < Text.octets cs then
    String.ofList (Text.takeOctets 25 cs ++ ['.', '.', '.'] ++ Text.takeLastOctets 24 cs)
  else v.reportText

/-- The lines of a report on an issue. -/
def report (i : Issue) : String :=
  i.reportLocation ++ "  " ++ i.complaint.message ++ " [type=" ++ i.complaint.tag ++ ", input_value=" ++
    inputText i.input ++ ", input_type=" ++ i.input.kindName ++ "]"

end Issue

namespace Invalid

/-- All issues on one line. -/
def brief (r : Invalid) : String :=
  joinTexts "; " (r.issues.map fun i => i.location ++ ": " ++ i.complaint.message)

/-- All issues with their inputs. -/
def report (r : Invalid) : String :=
  let n := r.issues.length
  toString n ++ " validation error" ++ (if n = 1 then "" else "s") ++ " for " ++ r.subject ++ "\n" ++
    joinTexts "\n" (r.issues.map Issue.report)

end Invalid

/-! ### Fields -/

/-- Raw data as text. -/
def decodeText? (bs : List UInt8) : Option String := String.fromUTF8? ⟨bs.toArray⟩

/-- A number without a fractional part. -/
def wholeOfRat (x : Rat) : Except Complaint Int :=
  if x.den = 1 then .ok x.num else .error .fractional

/-- An integer written in a text. -/
def wholeOfText (s : String) : Except Complaint Int :=
  match Text.readWholeNumber s with
  | .whole n => .ok n
  | .tooLong => .error .oversizedWhole
  | .unreadable => .error .unreadableWhole

/-- A value as an integer field. -/
def Value.asWhole : Value → Except Complaint Int
  | .bool b => .ok (if b then 1 else 0)
  | .int n => .ok n
  | .float x => match x.toRat? with
    | none => .error .notFinite
    | some q => do
      let n ← wholeOfRat q
      if n.natAbs < 2 ^ 63 then .ok n else .error .oversizedWhole
  | .decimal d => match d with
    | .finite .. =>
      if d.hasFraction then .error .fractional
      else match d.truncate? with
        | some n => .ok n
        | none => .error .oversizedWhole
    | _ => .error .notFinite
  | .str s => wholeOfText s
  | .bytes bs => match decodeText? bs with
    | some s => wholeOfText s
    | none => .error .unreadableWhole
  | _ => .error .notWhole

/-- A value as a text field. -/
def Value.asText : Value → Except Complaint String
  | .str s => .ok s
  | .bytes bs => match decodeText? bs with
    | some s => .ok s
    | none => .error .undecodable
  | _ => .error .notText

/-- A text as a truth value. -/
def flagOfText (s : String) : Except Complaint Bool :=
  let word := String.ofList (s.toList.map Char.toLower)
  if ["1", "true", "t", "yes", "y", "on"].contains word then .ok true
  else if ["0", "false", "f", "no", "n", "off"].contains word then .ok false
  else .error .unreadableFlag

/-- The issues of a field that could not be read. -/
def issuesAt {α : Type} (path : List String) (input : Value) : Except Complaint α → List Issue
  | .ok _ => []
  | .error c => [⟨path, c, input⟩]

/-- The issue of a field, if there is one. -/
def issueOf {α : Type} : Except Issue α → List Issue
  | .ok _ => []
  | .error i => [i]

/-- A key as part of a path: numbers and texts as they are, all others as they are shown. -/
def keyPart : Value → String
  | .str s => s
  | .bool b => if b then "1" else "0"
  | v => v.reportText

/-- The keys of a mapping that should all be texts, as issues if they are not. -/
def keyIssues (path : List String) (entries : Entries) : List Issue :=
  entries.flatMap fun e => issuesAt (path ++ [keyPart e.1, "[key]"]) e.1 e.1.asText

/-- The entries with each key as a text; later entries win over earlier ones of the same name. -/
def textKeyed (entries : Entries) : Entries :=
  Entries.ofPairs (entries.map fun e => match e.1.asText with
    | .ok s => (.str s, e.2)
    | .error _ => e)

/-- A value as a mapping from texts: its entries, or the issues it has. -/
def textMapping (path : List String) (v : Value) : Except (List Issue) Entries :=
  match v with
  | .map entries =>
    let issues := keyIssues path entries
    if issues.isEmpty then .ok (textKeyed entries) else .error issues
  | _ => .error [⟨path, .notMapping, v⟩]

end Recordbook

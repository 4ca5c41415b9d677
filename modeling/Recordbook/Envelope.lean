import Recordbook.Failure

/-!
# Envelopes

The uniform answer of a call: a status, a code, a message, an output, and an error detail that is
there exactly when the status says error. That rule is part of the type, so an envelope that breaks
it cannot be built.
-/

namespace Recordbook

/-- How a call ended. -/
inductive Status
  /-- It did what it was asked to. -/
  | success
  /-- It did not. -/
  | error
deriving DecidableEq, Repr

/-- The written form. -/
def Status.label : Status → String
  | .success => "success"
  | .error => "error"

/-- An answer with an output of some type. -/
structure Envelope (α : Type) where
  /-- How the call ended. -/
  status : Status
  /-- The numeric code. -/
  code : Int
  /-- The message. -/
  message : String
  /-- The result. -/
  output : α
  /-- The error detail, null if there is none. -/
  error : Value
  /-- The status is success exactly when there is no error detail. -/
  coherent : status = .success ↔ error.isNull = true

namespace Envelope

variable {α : Type}

/-- Whether the call succeeded. -/
def isSuccess (e : Envelope α) : Bool := e.error.isNull

/-- The message of a success. -/
def successMessage : String := "Successful operation"

/-- The message of an error when none is given. -/
def errorMessage : String := "Something went wrong"

/-- A success. -/
def success (output : α) (code : Int) : Envelope α :=
  ⟨.success, code, successMessage, output, .null, by simp [Value.isNull]⟩

/-- The error detail of a fault. -/
def detail (message : String) (kind : FaultKind) : Value :=
  .map [(.str "message", .str message), (.str "fault", .str kind.name)]

/-- An error that a fault of a kind makes, with its message. -/
def failure (output : α) (kind : FaultKind) (message : String) : Envelope α :=
  ⟨.error, kind.code, message, output, detail message kind, by simp [detail, Value.isNull]⟩

/-! ### Building from named arguments -/

/-- The codes that have names. -/
def namedCodes : List (String × Int) := [
  ("BAD_ENTRY", 400), ("NOT_AUTHORIZED", 401), ("ERROR", 500), ("FORBIDDEN", 403),
  ("NOT_FOUND", 404)]

/-- A code given as a number or by its name, and the default for anything else. -/
def resolveCode (default : Int) : Value → Int
  | .int n => n
  | .str s => ((namedCodes.find? fun c => c.1 = s).map (·.2)).getD default
  | _ => default

/-- A status written out. -/
def statusOf : Value → Except Complaint Status
  | .str "success" => .ok .success
  | .str "error" => .ok .error
  | _ => .error (.notOneOf ["success", "error"])

/-- A required field among the arguments. -/
def requiredField {β : Type} (args : Entries) (name : String) (read : Value → Except Complaint β) :
    Except Issue β :=
  match args.get? name with
  | none => .error ⟨[name], .missing, .map args⟩
  | some v => match read v with
    | .ok b => .ok b
    | .error c => .error ⟨[name], c, v⟩

/-- What is said of fields that break the rule of envelopes. -/
def incoherence : String := "status must be 'success' exactly when error is absent"

/-- An envelope from named fields. Each field is validated, and then the rule that joins them. -/
def ofFields (args : Entries) : Except Failure (Envelope Value) :=
  let status := requiredField args "status" statusOf
  let code := requiredField args "code" Value.asWhole
  let message := requiredField args "message" Value.asText
  match status, code, message with
  | .ok status, .ok code, .ok message =>
    let error := args.getD "error"
    if h : status = .success ↔ error.isNull = true then
      .ok ⟨status, code, message, args.getD "output", error, h⟩
    else .error (.invalid ⟨"Envelope", [⟨[], .incoherent incoherence, .map args⟩]⟩)
  | status, code, message =>
    .error (.invalid ⟨"Envelope", issueOf status ++ issueOf code ++ issueOf message⟩)

/-- The ways to build an envelope from named arguments. -/
inductive Builder
  /-- A success. -/
  | success
  /-- An error. -/
  | error
  /-- Each field as it is given. -/
  | fields
deriving DecidableEq, Repr

namespace Builder

/-- The name in messages. -/
def label : Builder → String
  | .success => "success"
  | .error => "error"
  | .fields => "Envelope"

/-- The names of the arguments, if only those are allowed. -/
def argumentNames? : Builder → Option (List String)
  | .success => some ["output", "message", "code"]
  | .error => some ["output", "message", "code", "error"]
  | .fields => none

/-- The first argument that the builder does not have. -/
def unexpected? (b : Builder) (args : Entries) : Option String :=
  b.argumentNames?.bind fun names => args.findSome? fun e => match e.1 with
    | .str name => if names.contains name then none else some name
    | _ => none

/-- A message given, or the default for null. -/
def messageOr (default : String) (args : Entries) : Value :=
  match args.getD "message" with
  | .null => .str default
  | v => v

/-- The fields that the builder makes of its arguments. -/
def fieldsOf (b : Builder) (args : Entries) : Entries :=
  match b with
  | .fields => args
  | .success => [(.str "status", .str "success"),
      (.str "code", .int (resolveCode 200 (args.getD "code"))),
      (.str "message", messageOr successMessage args), (.str "output", args.getD "output")]
  | .error =>
    let message := messageOr errorMessage args
    let error := match args.getD "error" with
      | .null => .map [(.str "message", message)]
      | v => v
    [(.str "status", .str "error"), (.str "code", .int (resolveCode 500 (args.getD "code"))),
      (.str "message", message), (.str "output", args.getD "output"), (.str "error", error)]

/-- The envelope that the builder makes of named arguments. -/
def build (b : Builder) (args : Entries) : Except Failure (Envelope Value) :=
  if args.any fun e => !e.1.isString then .error (.misuse .keyNotText)
  else match b.unexpected? args with
    | some name => .error (.misuse (.unexpectedArgument b.label name))
    | none => ofFields (b.fieldsOf args)

end Builder

/-- What comes of an attempt to change a field: an envelope is never changed. A name that starts
with an underscore is no field; a value put there is beside the envelope, except for the guarded
names. -/
def assign (e : Envelope Value) (field : String) (v : Value) : Except Failure (Envelope Value) :=
  if field.toList.head? ≠ some '_' then .error (.invalid ⟨"Envelope", [⟨[field], .frozen, v⟩]⟩)
  else match Attribute.guarded.lookup field with
    | some .kind => .error (.misuse (.kindGiven v.longKindName))
    | some .contents => .error (.misuse (if v.isMap then .noMember "Envelope" "status"
        else .contentsNotMapping v.longKindName))
    | some _ => .error (.misuse (.readOnly field "Envelope"))
    | none => .ok e

end Envelope

end Recordbook

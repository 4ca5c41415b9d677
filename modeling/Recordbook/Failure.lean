import Recordbook.Fault
import Recordbook.Schema.Attribute
import Recordbook.Validation

/-!
# Failures

Everything that can go wrong, by cause. The wording of each cause is said once, in `message`, and
`Failure.toFault` says which fault a cause is reported as. A malformed query is described by the
names and kinds in it, and where these cannot be written it has no wording. What is reported then is
that it has none, as a fault of no particular kind.

A failure of the store has two texts. `Failure.message` names the place where the store noticed it;
`Failure.cause` is the store's own words alone, and it is what envelopes carry. The statement that
failed and its parameters are left out of both.
-/

namespace Recordbook

/-- What is wrong with a filter, an order or an include. -/
inductive SpecProblem
  /-- A name that is no column. -/
  | unknownField (name : Value) (entity : Entity)
  /-- A name that is no relation. -/
  | unknownRelation (name : Value) (entity : Entity)
  /-- An operator that is not known. -/
  | unknownOperator (name : Value) (field : Field)
  /-- A condition on a relation that does not say for how many records it should hold. -/
  | unquantified (relation : String)
  /-- Operators that cannot be read. -/
  | badOperators (field : Value) (reason : Complaint)
  /-- An include that is no mapping. -/
  | includeNotMapping (kind : String)
  /-- An include that contains itself. -/
  | cyclicInclude
  /-- An include of too many levels. -/
  | deepInclude (limit : Int)
  /-- An include entry of an unknown kind. -/
  | unknownIncludeKind (kind relation : Value)

/-- The message, if it can be written. -/
def SpecProblem.message? : SpecProblem → Option String
  | .unknownField name e => do
    let name ← name.text?
    return "Unknown field \"" ++ name ++ "\" on " ++ e.typeName
  | .unknownRelation name e => do
    let name ← name.text?
    return "Unknown relation \"" ++ name ++ "\" on " ++ e.typeName
  | .unknownOperator name f => do
    let name ← name.text?
    return "Unknown operator \"" ++ name ++ "\" on field \"" ++ f.label ++ "\""
  | .unquantified relation =>
    some ("Relation filter on \"" ++ relation ++ "\" must use \"some\" or \"none\"")
  | .badOperators field reason => do
    let field ← field.text?
    return "Invalid operators for field \"" ++ field ++ "\": " ++ reason.message
  | .includeNotMapping kind => some ("Include specification must be a mapping, got " ++ kind)
  | .cyclicInclude => some "Cyclic include specification"
  | .deepInclude limit => do
    let limit ← Value.wholeText? limit
    return "Include specification nested deeper than " ++ limit ++ " levels"
  | .unknownIncludeKind kind relation => do
    let kind ← kind.text?
    let relation ← relation.text?
    return "Unknown include kind \"" ++ kind ++ "\" for relation \"" ++ relation ++ "\""

/-- An operation applied to a value that does not have it. -/
inductive Misuse
  /-- The value has no items. -/
  | notIterable (kind : String)
  /-- The value is no mapping. -/
  | notMapping (kind : String)
  /-- The value has no such member. -/
  | noMember (kind member : String)
  /-- The value is no operation. -/
  | notCallable (kind : String)
  /-- The value cannot be a key. -/
  | notAKey (kind : String)
  /-- This number cannot be a key. -/
  | signalingKey
  /-- An item that should be a pair has another length. -/
  | pairLength (index length : Nat)
  /-- An item that should be a pair has no items. -/
  | pairItems (index : Nat)
  /-- An argument that a builder does not have. -/
  | unexpectedArgument (builder name : String)
  /-- A key that is neither a column nor a relation of a new record. -/
  | unexpectedKey (key : String) (entity : Entity)
  /-- A key of a new record that is no text. -/
  | keyNotText
  /-- A value for an argument that is given already. -/
  | givenTwice (argument : String)
  /-- A value for the kind of a record. -/
  | kindGiven (kind : String)
  /-- A value for something that cannot be given. -/
  | readOnly (name owner : String)
  /-- The contents of a record that are no mapping. -/
  | contentsNotMapping (kind : String)
  /-- A record that is not known as one. -/
  | unknownRecord (entity : Entity)
  /-- A collection of a new record that is no list. -/
  | notCollection (kind : String)
  /-- An absent name in a mapping. -/
  | absentKey (name : String)
  /-- Two values that an operation cannot combine. -/
  | operands (operation left right : String)
  /-- Two values without an order. -/
  | unordered (left right : String)
  /-- A sequence repeated by something that is no integer. -/
  | repetition (kind : String)
  /-- A value that is not the number wanted. -/
  | notANumber (reader kind : String)
  /-- A sequence repeated more often than anything can be counted. -/
  | uncountable
  /-- A repeated sequence whose length cannot be counted. -/
  | repeatedTooLong (sequence : String)
  /-- A repeated sequence that nothing could hold. -/
  | noRoom
  /-- A text that is not the integer wanted. -/
  | notAWholeText (text : String)
  /-- A text with more digits than an integer is read from. -/
  | tooManyDigits (limit digits : Nat)
  /-- An integer with more digits than one is written with. -/
  | unwritable (limit : Nat)
  /-- A number that is no integer: not a number. -/
  | wholeOfNan (kind : String)
  /-- A number that is no integer: an infinity. -/
  | wholeOfInfinity (kind : String)
  /-- An integer beyond the binary fractions. -/
  | wholeTooLarge
  /-- A quotient beyond the binary fractions. -/
  | quotientTooLarge
  /-- An operation on decimals that has no result. -/
  | noDecimalResult (problem : DecimalProblem)
deriving DecidableEq, Repr

/-- The message. -/
def Misuse.message : Misuse → String
  | .notIterable kind => "'" ++ kind ++ "' object is not iterable"
  | .notMapping kind => "'" ++ kind ++ "' object is not a mapping"
  | .noMember kind member => "'" ++ kind ++ "' object has no attribute '" ++ member ++ "'"
  | .notCallable kind => "'" ++ kind ++ "' object is not callable"
  | .notAKey kind => "unhashable type: '" ++ kind ++ "'"
  | .signalingKey => "Cannot hash a signaling NaN value"
  | .pairLength index length =>
    "dictionary update sequence element #" ++ toString index ++ " has length " ++ toString length ++
      "; 2 is required"
  | .pairItems index =>
    "cannot convert dictionary update sequence element #" ++ toString index ++ " to a sequence"
  | .unexpectedArgument builder name =>
    builder ++ "() got an unexpected keyword argument '" ++ name ++ "'"
  | .unexpectedKey key e => Text.quote key ++ " is an invalid keyword argument for " ++ e.typeName
  | .keyNotText => "keywords must be strings"
  | .givenTwice argument => "__init__() got multiple values for argument '" ++ argument ++ "'"
  | .kindGiven kind => "__class__ must be set to a class, not '" ++ kind ++ "' object"
  | .readOnly name owner =>
    "attribute '" ++ name ++ "' of '" ++ owner ++ "' objects is not writable"
  | .contentsNotMapping kind => "__dict__ must be set to a dictionary, not a '" ++ kind ++ "'"
  | .unknownRecord e =>
    "Class '" ++ e.qualifiedName ++ "' is mapped, but this instance lacks instrumentation.  " ++
      "This occurs when the instance is created before sqlalchemy.orm.mapper(" ++
      e.qualifiedName ++ ") was called."
  | .notCollection kind => "Incompatible collection type: " ++ kind ++ " is not list-like"
  | .absentKey name => Text.quote name
  | .operands operation left right =>
    "unsupported operand type(s) for " ++ operation ++ ": '" ++ left ++ "' and '" ++ right ++ "'"
  | .unordered left right =>
    "'>' not supported between instances of '" ++ left ++ "' and '" ++ right ++ "'"
  | .repetition kind => "can't multiply sequence by non-int of type '" ++ kind ++ "'"
  | .notANumber reader kind => reader ++ ", not '" ++ kind ++ "'"
  | .uncountable => "cannot fit 'int' into an index-sized integer"
  | .repeatedTooLong sequence => "repeated " ++ sequence ++ " too long"
  | .noRoom => ""
  | .notAWholeText text => "invalid literal for int() with base 10: " ++ text
  | .tooManyDigits limit digits =>
    "Exceeds the limit (" ++ toString limit ++ " digits) for integer string conversion: value has " ++
      toString digits ++ " digits; use sys.set_int_max_str_digits() to increase the limit"
  | .unwritable limit =>
    "Exceeds the limit (" ++ toString limit ++ " digits) for integer string conversion; " ++
      "use sys.set_int_max_str_digits() to increase the limit"
  | .wholeOfNan kind => "cannot convert " ++ kind ++ " to integer"
  | .wholeOfInfinity kind => "cannot convert " ++ kind ++ " to integer"
  | .wholeTooLarge => "int too large to convert to float"
  | .quotientTooLarge => "integer division result too large for a float"
  | .noDecimalResult problem => "[<class 'decimal." ++ problem.name ++ "'>]"

/-- A text that was to be written, if there is one. There is none of an integer that is too long. -/
def Misuse.written : Option String → Except Misuse String
  | some text => .ok text
  | none => .error (.unwritable digitLimit)

/-- A value that a column's type cannot take. -/
inductive Unfit
  /-- A value without the member that the type reads. -/
  | noMember (kind member : String)
  /-- No number. -/
  | notReal (kind : String)
  /-- A text that is no number. -/
  | unreadableReal (text : String)
  /-- An integer beyond the binary fractions. -/
  | wholeTooLarge
  /-- No truth value. -/
  | notFlag (shown : String)
  /-- A number that is no truth value. -/
  | numberNotFlag (shown : String)
  /-- A value that cannot be looked up among the truth values. -/
  | noLookup (m : Misuse)
  /-- A number that is no truth value and cannot be written. -/
  | unwritable (m : Misuse)
  /-- No time. -/
  | notMoment
  /-- No day. -/
  | notDay
  /-- No raw data. -/
  | notData (kind : String)
  /-- A signaling number where it would have to be converted. -/
  | signaling
deriving DecidableEq, Repr

/-- The message, with the kind of the problem in front. -/
def Unfit.message : Unfit → String
  | .noMember kind member =>
    "(builtins.AttributeError) '" ++ kind ++ "' object has no attribute '" ++ member ++ "'"
  | .notReal kind =>
    "(builtins.TypeError) float() argument must be a string or a real number, not '" ++ kind ++ "'"
  | .unreadableReal text => "(builtins.ValueError) could not convert string to float: " ++ text
  | .wholeTooLarge => "(builtins.OverflowError) int too large to convert to float"
  | .notFlag shown => "(builtins.TypeError) Not a boolean value: " ++ shown
  | .numberNotFlag shown =>
    "(builtins.ValueError) Value " ++ shown ++ " is not None, True, or False"
  | .noLookup m => "(builtins.TypeError) " ++ m.message
  | .unwritable m => "(builtins.ValueError) " ++ m.message
  | .notDay => "(builtins.TypeError) SQLite Date type only accepts Python date objects as input."
  | .notData kind =>
    "(builtins.TypeError) memoryview: a bytes-like object is required, not '" ++ kind ++ "'"
  | .notMoment =>
    "(builtins.TypeError) SQLite DateTime type only accepts Python datetime and date objects as input."
  | .signaling => "(builtins.ValueError) cannot convert signaling NaN to float"

/-- A constraint that a write would break. -/
inductive Violation
  /-- A column that may not be empty. -/
  | notNull (entity : Entity) (field : Field)
  /-- Columns that may not be given twice together. -/
  | unique (entity : Entity) (fields : List Field)
deriving DecidableEq, Repr

/-- The message. -/
def Violation.message : Violation → String
  | .notNull e f => "NOT NULL constraint failed: " ++ e.table ++ "." ++ f.label
  | .unique e fs =>
    "UNIQUE constraint failed: " ++ joinTexts ", " (fs.map fun f => e.table ++ "." ++ f.label)

/-- What the store refuses. -/
inductive StoreProblem
  /-- A broken constraint. -/
  | violation (v : Violation)
  /-- A value that a column's type cannot take. -/
  | unfit (u : Unfit)
  /-- A value of a kind that the store does not know. -/
  | unsupported (kind : String)
  /-- An integer beyond 64 bits. -/
  | wholeTooLarge
  /-- Several records where one was wanted. -/
  | severalRecords
  /-- An order comparison with null or a truth value. -/
  | literalComparison
  /-- A membership test in something that is no list. -/
  | notAList (shown : String)
  /-- An absent record in a collection of a new record. -/
  | absentMember (entity : Entity) (relation : String)
  /-- A failure reported from outside with the store's own words, and perhaps the place where it was
  noticed; the flag says whether a constraint was broken. -/
  | reported (constraint : Bool) (place : Option String) (text : String)
deriving DecidableEq, Repr

namespace StoreProblem

/-- The store's own words. -/
def cause : StoreProblem → String
  | .violation v => v.message
  | .unfit u => u.message
  | .unsupported kind => "Error binding parameter: type '" ++ kind ++ "' is not supported"
  | .wholeTooLarge => "Python int too large to convert to SQLite INTEGER"
  | .severalRecords => "Multiple rows were found when one or none was required"
  | .literalComparison =>
    "Only '=', '!=', 'is_()', 'is_not()', 'is_distinct_from()', 'is_not_distinct_from()' " ++
      "operators can be used with None/True/False"
  | .notAList shown =>
    "IN expression list, SELECT construct, or bound parameter object expected, got " ++ shown ++ "."
  | .absentMember e relation =>
    "Can't flush None value found in collection " ++ e.typeName ++ "." ++ relation
  | .reported _ _ text => text

/-- The store's words and the place where it noticed. -/
def message (p : StoreProblem) : String :=
  match p with
  | .violation _ => "(sqlite3.IntegrityError) " ++ p.cause
  | .unsupported _ => "(sqlite3.ProgrammingError) " ++ p.cause
  | .reported _ (some place) text => "(" ++ place ++ ") " ++ text
  | _ => p.cause

/-- Whether a constraint was broken. -/
def isConstraint : StoreProblem → Bool
  | .violation _ => true
  | .reported constraint _ _ => constraint
  | _ => false

end StoreProblem

/-- A session that cannot be used at the moment. -/
inductive SessionProblem
  /-- A write failed and nothing was taken back yet. -/
  | broken (cause : String)
  /-- The unit of work has already ended, perhaps because of a failed write. -/
  | ended (cause : Option String)
deriving DecidableEq, Repr

/-- The message. -/
def SessionProblem.message : SessionProblem → String
  | .broken cause =>
    "This Session's transaction has been rolled back due to a previous exception during flush. " ++
      "To begin a new transaction with this Session, first issue Session.rollback(). " ++
      "Original exception was: " ++ cause
  | .ended cause =>
    "Can't operate on closed transaction inside context manager.  " ++
      ((cause.map fun c => "The transaction was rolled back due to an exception: " ++ c ++
        ".  ").getD "") ++
      "Please complete the context manager before emitting further commands."

/-- A failure, by cause. -/
inductive Failure
  /-- A malformed query. -/
  | spec (p : SpecProblem)
  /-- A value used as something that it is not. -/
  | misuse (m : Misuse)
  /-- Fields that could not be validated. -/
  | invalid (r : Invalid)
  /-- Something that the store refused. -/
  | store (p : StoreProblem)
  /-- A session that cannot be used. -/
  | session (p : SessionProblem)
  /-- A fault raised as such. -/
  | fault (f : Fault)
  /-- A failure from outside, of which only the text is known. -/
  | foreign (text : String)

instance : Inhabited Failure := ⟨.foreign ""⟩

namespace Failure

/-- What stands for the message of a failure that has none: that an integer in it is too long. -/
def unworded : Misuse := .unwritable digitLimit

/-- Whether there is a wording of a failure. -/
def isWorded : Failure → Bool
  | .spec p => p.message?.isSome
  | _ => true

/-- The full text. -/
def message : Failure → String
  | .spec p => p.message?.getD unworded.message
  | .misuse m => m.message
  | .invalid r => r.report
  | .store p => p.message
  | .session p => p.message
  | .fault f => f.message
  | .foreign text => text

/-- The text that envelopes carry. -/
def cause : Failure → String
  | .store p => p.cause
  | f => f.message

/-- The kind of fault that a failure is, and that it is reported as where it can be worded. -/
def faultKind : Failure → FaultKind
  | .spec _ => .invalidQuerySpec
  | .store p => if p.isConstraint then .constraintViolation else .generic
  | .fault f => f.kind
  | _ => .generic

/-- The fault that a failure is reported as. -/
def toFault (f : Failure) : Fault :=
  match f with
  | .fault known => known
  | other => Fault.make (if other.isWorded then other.faultKind else .generic) (some other.cause)

theorem kind_toFault (f : Failure) :
    f.toFault.kind = if f.isWorded then f.faultKind else .generic := by
  cases f with
  | fault known => rfl
  | _ => simp only [toFault, Fault.kind_make]

end Failure

end Recordbook

import Recordbook.Store.Cell
import Recordbook.Value.Shape

/-!
# Binding values

How a value becomes a datum of the store. A value is bound by a rule of its own: by the rule of the
column where it is to be kept, and in a comparison by the rule of its own kind, unless it has none
or the column wants it otherwise.

Binding has two steps that may fail. The rule may find the value unfit, and then the store may
refuse the result. All values of a statement go through the first step before any goes through the
second.
-/

namespace Recordbook

/-- The rules by which values are bound. -/
inductive Binding
  /-- By the digits of a key. -/
  | uuid
  /-- As it is. -/
  | plain
  /-- As a binary fraction. -/
  | real
  /-- As a truth value. -/
  | flag
  /-- As a time. -/
  | moment
  /-- As a day. -/
  | day
  /-- As raw data. -/
  | data
deriving DecidableEq, Repr

/-- A value after the first step of binding. -/
inductive Parameter
  /-- Something that the store knows. -/
  | bound (d : Datum)
  /-- Something of a kind that it does not know. -/
  | unsupported (kind : String)
  /-- An integer beyond 64 bits. -/
  | oversized
deriving DecidableEq

namespace Parameter

/-- The second step of binding. -/
def accept : Parameter → Except Failure Datum
  | .bound d => .ok d
  | .unsupported kind => .error (.store (.unsupported kind))
  | .oversized => .error (.store .wholeTooLarge)

/-- An integer for the store. -/
def ofInt (n : Int) : Parameter :=
  if -(2 ^ 63) ≤ n ∧ n < 2 ^ 63 then .bound (.whole n) else .oversized

/-- A truth value for the store. -/
def ofBool (b : Bool) : Parameter := .bound (.whole (if b then 1 else 0))

end Parameter

namespace Binding

/-- The rule of a column. -/
def ofColumn : ColumnKind → Binding
  | .uuid => .uuid
  | .text _ => .plain
  | .flag => .flag
  | .moment => .moment
  | .money => .real

/-- The rule of an operand beside a column. -/
def ofOperand (k : ColumnKind) : Value → Binding
  | .bool _ => .flag
  | .int _ => .plain
  | .float _ => .real
  | .decimal _ => .real
  | .str _ => if k = .uuid then .uuid else .plain
  | .datetime _ => .moment
  | .date _ => .day
  | .bytes _ => .data
  | .uuid _ => .uuid
  | _ => ofColumn k

/-- A value bound by the digits of a key. -/
def processUuid : Value → Except Unfit Parameter
  | .uuid u => .ok (.bound (.key u))
  | .float _ => .ok (.unsupported "builtin_function_or_method")
  | .bytes _ => .ok (.unsupported "builtin_function_or_method")
  | v => .error (.noMember v.longKindName "hex")

/-- A value bound as it is. -/
def processPlain : Value → Except Unfit Parameter
  | .bool b => .ok (.ofBool b)
  | .int n => .ok (.ofInt n)
  | .float x => .ok (.bound (.ofBinary x))
  | .str s => .ok (.bound (.text s))
  | .bytes bs => .ok (.bound (.data bs))
  | .datetime t => .ok (.bound (.text (t.text " ")))
  | .date d => .ok (.bound (.text d.text))
  | v => .ok (.unsupported v.longKindName)

/-- A value bound as a binary fraction. -/
def processReal : Value → Except Unfit Parameter
  | .bool b => .ok (.bound (.real (Binary64.ofInt (if b then 1 else 0))))
  | .int n => match Binary64.ofInt n with
    | .infinite _ => .error .wholeTooLarge
    | x => .ok (.bound (.real x))
  | .float x => .ok (.bound (.ofBinary x))
  | .decimal (.nan _ true _) => .error .signaling
  | .decimal d => .ok (.bound (.ofBinary d.toBinary64))
  | .str s => match readBinary64? s with
    | some x => .ok (.bound (.ofBinary x))
    | none => .error (.unreadableReal (Text.quote s))
  | .bytes bs => match (asciiText? bs).bind readBinary64? with
    | some x => .ok (.bound (.ofBinary x))
    | none => .error (.unreadableReal (Text.quoteBytes bs))
  | v => .error (.notReal v.longKindName)

/-- A value bound as a truth value. Numbers that are equal to 0 or 1 are truth values. -/
def processFlag (v : Value) : Except Unfit Parameter :=
  if v.same (.bool true) then .ok (.ofBool true)
  else if v.same (.bool false) then .ok (.ofBool false)
  else match v.keyProblem? with
    | some m => .error (.noLookup m)
    | none => match Misuse.written v.display? with
      | .error m => .error (.unwritable m)
      | .ok shown => match v with
        | .int _ => .error (.numberNotFlag shown)
        | _ => .error (.notFlag shown)

/-- A value bound as a time. -/
def processMoment : Value → Except Unfit Parameter
  | .datetime t => .ok (.bound (.moment t.wall))
  | .date d => .ok (.bound (.moment (Timestamp.midnight d)))
  | _ => .error .notMoment

/-- A value bound as a day. -/
def processDay : Value → Except Unfit Parameter
  | .datetime t => .ok (.bound (.text t.wall.date.text))
  | .date d => .ok (.bound (.text d.text))
  | _ => .error .notDay

/-- A value bound as raw data. -/
def processData : Value → Except Unfit Parameter
  | .bytes bs => .ok (.bound (.data bs))
  | v => .error (.notData v.longKindName)

/-- The first step of binding a value. Null is bound as nothing by every rule. -/
def process (b : Binding) (v : Value) : Except Unfit Parameter :=
  match v with
  | .null => .ok (.bound .null)
  | v => match b with
    | .uuid => processUuid v
    | .plain => processPlain v
    | .real => processReal v
    | .flag => processFlag v
    | .moment => processMoment v
    | .day => processDay v
    | .data => processData v

end Binding

/-- A value with the rule by which it is bound. -/
structure Operand where
  /-- The rule. -/
  binding : Binding
  /-- The value. -/
  value : Value

namespace Operand

/-- The operand of a comparison with a column. -/
def beside (k : ColumnKind) (v : Value) : Operand := ⟨.ofOperand k v, v⟩

/-- The first step of binding an operand. -/
def process (o : Operand) : Except Failure Parameter :=
  (o.binding.process o.value).mapError fun u => .store (.unfit u)

end Operand

end Recordbook

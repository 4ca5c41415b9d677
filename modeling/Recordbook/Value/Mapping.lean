import Recordbook.Value.Equality

/-!
# Mappings

The operations on the entries of a mapping. An entry that is put under a key already present keeps
its place and takes the new value; a new key goes to the end.

Most look-ups are by a name, and for those `Entries.get?` compares texts only. Putting an entry
compares keys as values, since keys of different kinds may be equal.
-/

namespace Recordbook

namespace Entries

/-- The value under a name. -/
def get? (es : Entries) (name : String) : Option Value :=
  (es.find? fun e => e.1.isText name).map (·.2)

/-- The value under a name, null if there is none. -/
def getD (es : Entries) (name : String) : Value := (es.get? name).getD .null

/-- Whether a name is a key. -/
def has (es : Entries) (name : String) : Bool := es.any fun e => e.1.isText name

/-- Put a value under a key. -/
def put (k v : Value) : Entries → Entries
  | [] => [(k, v)]
  | e :: es => if e.1.same k then (e.1, v) :: es else e :: put k v es

/-- Put a value under a name. -/
def putText (name : String) (v : Value) (es : Entries) : Entries := put (.str name) v es

/-- Put entries one after another. -/
def putAll (new : Entries) (es : Entries) : Entries := new.foldl (fun acc e => put e.1 e.2 acc) es

/-- The mapping that a list of pairs makes. -/
def ofPairs (pairs : List (Value × Value)) : Entries := putAll pairs []

/-- The mapping without a name. -/
def erase (name : String) (es : Entries) : Entries := es.filter fun e => !e.1.isText name

@[simp] theorem get?_nil (name : String) : get? [] name = none := rfl

theorem get?_cons (k v : Value) (es : Entries) (name : String) :
    get? ((k, v) :: es) name = if k.isText name then some v else get? es name := by
  unfold get?
  by_cases h : k.isText name = true
  · simp [List.find?, h]
  · simp [List.find?, h]

theorem has_iff_get?_isSome (es : Entries) (name : String) :
    es.has name = (es.get? name).isSome := by
  induction es with
  | nil => rfl
  | cons e es ih =>
    obtain ⟨k, v⟩ := e
    rw [get?_cons]
    by_cases h : k.isText name = true
    · simp [has, h]
    · simp only [has, List.any_cons, h, Bool.false_or]
      simpa [has] using ih

end Entries

end Recordbook

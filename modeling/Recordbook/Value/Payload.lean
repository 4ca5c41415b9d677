import Recordbook.Value.Reference

/-!
# Payloads

A payload with declared fields is read as the mapping of the fields that were given. Payloads inside
its values are read the same way, however deep they are. References back are left as they are.
-/

namespace Recordbook

namespace Value

mutual

/-- A value with every payload in it replaced by the mapping of its given fields. -/
def plain : Value → Value
  | .list items => .list (plainItems items)
  | .tuple items => .tuple (plainItems items)
  | .map entries => .map (plainEntries entries)
  | .model _ given => .map (plainEntries given)
  | v => v
termination_by structural x => x

/-- Values with every payload in them replaced. -/
def plainItems : List Value → List Value
  | [] => []
  | x :: xs => plain x :: plainItems xs
termination_by structural x => x

/-- Entries with every payload in their values replaced. -/
def plainEntries : List (Value × Value) → List (Value × Value)
  | [] => []
  | (k, v) :: es => (k, plain v) :: plainEntries es
termination_by structural x => x

end

@[simp] theorem plain_str (s : String) : plain (.str s) = .str s := by simp [plain]

end Value

end Recordbook

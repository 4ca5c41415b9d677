import Recordbook.Proofs.Criteria
import Recordbook.Proofs.FilterMeaning

/-!
# What conditions on columns ask

The condition on a column becomes criteria with operands, each bound by a rule of its own: truth
values in an equality, items of a list and everything else go different ways. For operands that fit
the column all rules come to the same, and the criteria ask of a cell what the condition means.

## Main definitions

* `Criteria.Ask` — criteria can be bound, and ask something of one cell

## Main results

* `Operand.process_beside`, `Operand.process_like` — operands that fit are bound as what they are
* `Criteria.ask_equality`, `Criteria.ask_difference`, `Criteria.ordering_ask`,
  `Criteria.membership_ask` — what each sort of criterion asks
* `OperatorFilter.condition_asks` — an operator object that fits asks what it means
-/

namespace Recordbook

/-! ### Binding operands that fit -/

/-- The scalars that a column takes, by what it holds. -/
theorem ColumnKind.takes_cases {k : ColumnKind} {v : Value} (h : k.takes v = true) :
    (k = .uuid ∧ ∃ u, v = .uuid u) ∨ (∃ n s, k = .text n ∧ v = .str s) ∨
      (k = .flag ∧ ∃ b, v = .bool b) ∨ (k = .moment ∧ ∃ t, v = .datetime t) ∨
      (k = .money ∧ ∃ n, v = .int n ∧ -(2 ^ 63) ≤ n ∧ n < 2 ^ 63) ∨
      (k = .money ∧ ∃ s n x, v = .decimal (.finite s n x)) ∨
      (k = .money ∧ ∃ s n x, v = .float (.finite s n x)) := by
  unfold takes at h
  split at h
  all_goals simp_all

theorem ColumnKind.isNull_of_takes {k : ColumnKind} {v : Value} (h : k.takes v = true) :
    v.isNull = false := by
  rcases takes_cases h with ⟨-, u, rfl⟩ | ⟨n, s, -, rfl⟩ | ⟨-, b, rfl⟩ | ⟨-, t, rfl⟩ |
    ⟨-, n, rfl, -⟩ | ⟨-, s, n, x, rfl⟩ | ⟨-, s, n, x, rfl⟩ <;> rfl

theorem ColumnKind.isScalar_of_takes {k : ColumnKind} {v : Value} (h : k.takes v = true) :
    Filter.isScalar v = true := by
  rcases takes_cases h with ⟨-, u, rfl⟩ | ⟨n, s, -, rfl⟩ | ⟨-, b, rfl⟩ | ⟨-, t, rfl⟩ |
    ⟨-, n, rfl, -⟩ | ⟨-, s, n, x, rfl⟩ | ⟨-, s, n, x, rfl⟩ <;> rfl

/-- A scalar that fits a column is bound by the rule of that column, unless it is an integer. -/
theorem Binding.ofOperand_of_takes {k : ColumnKind} {v : Value} (h : k.takes v = true) :
    ofOperand k v = if v.isInteger then .plain else ofColumn k := by
  rcases ColumnKind.takes_cases h with ⟨rfl, u, rfl⟩ | ⟨n, s, rfl, rfl⟩ | ⟨rfl, b, rfl⟩ |
    ⟨rfl, t, rfl⟩ | ⟨rfl, n, rfl, -⟩ | ⟨rfl, s, n, x, rfl⟩ | ⟨rfl, s, n, x, rfl⟩ <;> rfl

namespace Operand

/-- A scalar that fits a column is bound as what it is to the store. -/
theorem process_beside {k : ColumnKind} {v : Value} (h : k.takes v = true) :
    (beside k v).process = .ok (.bound (.ofScalar v)) := by
  rcases ColumnKind.takes_cases h with ⟨rfl, u, rfl⟩ | ⟨n, s, rfl, rfl⟩ | ⟨rfl, b, rfl⟩ |
    ⟨rfl, t, rfl⟩ | ⟨rfl, n, rfl, hn⟩ | ⟨rfl, s, n, x, rfl⟩ | ⟨rfl, s, n, x, rfl⟩
  · rfl
  · rfl
  · cases b <;> rfl
  · rfl
  · have fits : Parameter.ofInt n = .bound (.whole n) := if_pos hn
    simp only [process, beside, Binding.ofOperand, Binding.process, Binding.processPlain, fits]
    rfl
  · rfl
  · rfl

/-- So it is in a list of which the first item is of the same sort. -/
theorem process_like {k : ColumnKind} {v w : Value} (hv : k.takes v = true) (hw : k.takes w = true)
    (sort : v.isInteger = w.isInteger) :
    process ⟨.ofOperand k w, v⟩ = .ok (.bound (.ofScalar v)) := by
  rw [Binding.ofOperand_of_takes hw, ← sort, ← Binding.ofOperand_of_takes hv]
  exact process_beside hv

end Operand

namespace Criteria

/-- Criteria can be bound, and ask something of the cell in a column. -/
def Ask (field : Field) (cs : List (Criterion Operand)) (p : Cell → Bool) : Prop :=
  ∃ ds, bind cs = .ok ds ∧ ∀ s row, hold s row ds = p (row.cell field)

theorem Ask.nil (field : Field) : Ask field [] fun _ => true :=
  ⟨[], bind_nil, fun _ _ => hold_nil ..⟩

theorem Ask.append {field : Field} {cs cs' : List (Criterion Operand)} {p q : Cell → Bool}
    (hp : Ask field cs p) (hq : Ask field cs' q) : Ask field (cs ++ cs') fun c => p c && q c := by
  obtain ⟨xs, hx, hp⟩ := hp
  obtain ⟨ys, hy, hq⟩ := hq
  refine ⟨xs ++ ys, bind_append_ok.mpr ⟨xs, ys, hx, hy, rfl⟩, fun s row => ?_⟩
  rw [hold_append, hp, hq]

theorem Ask.congr {field : Field} {cs : List (Criterion Operand)} {p q : Cell → Bool}
    (h : Ask field cs p) (hpq : ∀ cell, p cell = q cell) : Ask field cs q := by
  obtain ⟨ds, hd, hp⟩ := h
  exact ⟨ds, hd, fun s row => (hp s row).trans (hpq _)⟩

/-- A comparison with an operand that is bound as a scalar asks for that comparison. -/
theorem Ask.compare {field : Field} {comparison : Comparison} {o : Operand} {v : Value}
    (h : o.process = .ok (.bound (.ofScalar v))) :
    Ask field [.compare field comparison o] fun c => c.versus comparison v := by
  refine ⟨_, bind_compare_ok.mpr ⟨_, h, rfl⟩, fun s row => ?_⟩
  rw [hold_cons, hold_nil, Bool.and_true, holds]
  rfl

theorem Ask.absent (field : Field) (wanted : Bool) :
    Ask field [.absent field wanted] fun c => c.isEmpty == wanted := by
  refine ⟨_, bind_absent_ok.mpr rfl, fun s row => ?_⟩
  rw [hold_cons, hold_nil, Bool.and_true, holds]

variable {c : Column} {v : Value}

/-- Truth values in an equality are bound like the numbers that they are, with the same result. -/
theorem process_equalityOperand (h : c.kind.takes v = true) :
    (equalityOperand c v).process = .ok (.bound (.ofScalar v)) := by
  cases v with
  | bool b => rfl
  | _ => exact Operand.process_beside h

/-- The criterion of equality asks for equality. -/
theorem ask_equality (h : v = .null ∨ c.kind.takes v = true) :
    Ask c.field [equality c v] fun cell => cell.equals v := by
  rcases h with rfl | h
  · simpa [Cell.equals, Value.isNull, equality] using Ask.absent c.field true
  · have criterion : equality c v = .compare c.field .eq (equalityOperand c v) := by
      cases v with
      | null => cases ColumnKind.isNull_of_takes h
      | _ => rfl
    simp only [criterion, Cell.equals, ColumnKind.isNull_of_takes h]
    exact Ask.compare (process_equalityOperand h)

/-- A scalar on a column is the criterion of equality. -/
theorem ofColumn_scalar (h : v = .null ∨ c.kind.takes v = true) :
    ofColumn c v = .ok [equality c v] := by
  rcases h with rfl | h
  · rfl
  · have scalar := ColumnKind.isScalar_of_takes h
    cases v with
    | map entries => cases scalar
    | _ => rfl

/-- The criterion of difference asks for difference. -/
theorem ask_difference (h : v = .null ∨ c.kind.takes v = true) :
    Ask c.field [difference c v] fun cell => cell.differs v := by
  rcases h with rfl | h
  · simpa [Cell.differs, Value.isNull, difference] using Ask.absent c.field false
  · have criterion : difference c v = .compare c.field .ne (equalityOperand c v) := by
      cases v with
      | null => cases ColumnKind.isNull_of_takes h
      | _ => rfl
    simp only [criterion, Cell.differs, ColumnKind.isNull_of_takes h]
    exact Ask.compare (process_equalityOperand h)

/-- The criterion of an order asks for that order. -/
theorem ordering_ask {comparison : Comparison} (h : c.kind.takes v = true)
    (order : c.kind ≠ .flag) :
    ∃ criterion, ordering c comparison v = .ok criterion ∧
      Ask c.field [criterion] (·.versus comparison v) := by
  refine ⟨.compare c.field comparison (.beside c.kind v), ?_, ?ask⟩
  case ask => exact Ask.compare (Operand.process_beside h)
  cases v with
  | null => cases ColumnKind.isNull_of_takes h
  | bool b =>
    have flag : c.kind = .flag := by
      revert h
      cases c.kind <;> simp [ColumnKind.takes]
    exact absurd flag order
  | _ => rfl

/-- The criterion of a list asks for one of its items, or for none of them. -/
theorem membership_ask {vs : List Value} (wanted : Bool) (h : c.kind.takesAll vs) :
    ∃ criterion, membership c wanted (.list vs) = .ok criterion ∧
      Ask c.field [criterion] fun cell =>
        if wanted then cell.isOneOf (.list vs) else cell.isNoneOf (.list vs) := by
  refine ⟨_, rfl, _, bind_within (g := fun o => .ofScalar o.value) ?_, fun s row => ?_⟩
  · intro o ho
    obtain ⟨v, hv, rfl⟩ := List.mem_map.mp ho
    cases vs with
    | nil => cases hv
    | cons w vs =>
      exact Operand.process_like (h.1 v hv) (h.1 w List.mem_cons_self)
        (h.2 v hv w List.mem_cons_self)
  · rw [hold_cons, hold_nil, Bool.and_true, holds, List.map_map]
    cases wanted with
    | true => exact List.any_map
    | false => exact List.all_map

/-! ### Operators -/

/-- Operators can be resolved and bound, and ask something of the cell in the column. -/
def OperatorsAsk (c : Column) (operators : Entries) (p : Cell → Bool) : Prop :=
  ∃ cs, operators.mapM (fun e => operator c e.1 e.2) = .ok cs ∧ Ask c.field cs p

theorem OperatorsAsk.nil (c : Column) : OperatorsAsk c [] fun _ => true :=
  ⟨[], rfl, Ask.nil _⟩

theorem OperatorsAsk.append {xs ys : Entries} {p q : Cell → Bool} (hp : OperatorsAsk c xs p)
    (hq : OperatorsAsk c ys q) : OperatorsAsk c (xs ++ ys) fun cell => p cell && q cell := by
  obtain ⟨as, ha, hp⟩ := hp
  obtain ⟨bs, hb, hq⟩ := hq
  refine ⟨as ++ bs, ?_, hp.append hq⟩
  rw [List.mapM_append, ha, hb]
  rfl

theorem OperatorsAsk.singleton {name : String} {criterion : Criterion Operand} {p : Cell → Bool}
    (h : operator c (.str name) v = .ok criterion) (hp : Ask c.field [criterion] p) :
    OperatorsAsk c [(.str name, v)] p := by
  refine ⟨[criterion], ?_, hp⟩
  rw [List.mapM_cons, h]
  rfl

open OperatorFilter in
/-- A list operator asks what its operand does, if there is one. -/
theorem listEntry_asks (name : String) (wanted : Bool) (given : Option Value)
    (known : ∀ v, operator c (.str name) v = membership c wanted v)
    (fits : ∀ v, given = some v → v = .null ∨ ∃ vs, v = .list vs ∧ c.kind.takesAll vs) :
    ∃ operand,
      (∀ entries key, Entries.get? entries key = given → readList entries key = .ok operand) ∧
      OperatorsAsk c (listEntry name operand) fun cell =>
        given.all fun v => if wanted then cell.isOneOf v else cell.isNoneOf v := by
  cases given with
  | none =>
    refine ⟨none, fun entries key h => ?_, OperatorsAsk.nil c⟩
    rw [readList, h]
  | some v =>
    rcases fits v rfl with rfl | ⟨vs, rfl, h⟩
    · refine ⟨some none, fun entries key h => ?_, ?_⟩
      · rw [readList, h]
        rfl
      · have all : (fun cell : Cell => (some Value.null).all fun v =>
            if wanted then cell.isOneOf v else cell.isNoneOf v) = fun _ => true := by
          funext cell
          cases wanted <;> rfl
        rw [all]
        exact OperatorsAsk.nil c
    · refine ⟨some (some vs), fun entries key h => ?_, ?_⟩
      · rw [readList, h]
        rfl
      · obtain ⟨criterion, hc, asks⟩ := membership_ask wanted h
        exact OperatorsAsk.singleton ((known _).trans hc) asks

/-- An operator beside one operand asks what its criterion does, if there is one. -/
theorem valueEntry_asks {name : String} {given : Option Value} {p : Cell → Value → Bool}
    (asks : ∀ v, given = some v → ∃ criterion, operator c (.str name) v = .ok criterion ∧
      Ask c.field [criterion] fun cell => p cell v) :
    OperatorsAsk c (OperatorFilter.valueEntry name given) fun cell => given.all (p cell) := by
  cases given with
  | none => exact OperatorsAsk.nil c
  | some v =>
    obtain ⟨criterion, hc, ask⟩ := asks v rfl
    exact OperatorsAsk.singleton hc ask

end Criteria

open Criteria

theorem OperatorFilter.get?_withinName (operators : Entries) :
    operators.get? (withinName operators) =
      (operators.get? "in").or (operators.get? "in_") := by
  rw [withinName, Entries.has_iff_get?_isSome]
  cases h : operators.get? "in" with
  | none => rfl
  | some v => exact h

/-- Operators that fit a column can be read, and mean what they ask of its cells. -/
theorem OperatorFilter.condition_asks {c : Column} {operators : Entries}
    (fits : Fits c.kind operators) :
    ∃ f, ofEntries operators = .ok f ∧ ∃ cs, ofColumn c f.condition = .ok cs ∧
      Ask c.field cs fun cell => cell.meetsOperators operators := by
  obtain ⟨within, readWithin, asksWithin⟩ := listEntry_asks "in" true
    ((operators.get? "in").or (operators.get? "in_")) (by intro v; simp [operator]) (by
      intro v hv
      rcases Option.or_eq_some_iff.mp hv with hv | ⟨-, hv⟩
      · exact fits.listed "in" (by simp) v hv
      · exact fits.listed "in_" (by simp) v hv)
  obtain ⟨without, readWithout, asksWithout⟩ := listEntry_asks "not_in" false
    (operators.get? "nin") (by intro v; simp [operator]) (fits.listed "nin" (by simp))
  have asksDifference : OperatorsAsk c (valueEntry "not" (operators.get? "neq")) fun cell =>
      (operators.get? "neq").all cell.differs :=
    valueEntry_asks fun v hv =>
      ⟨_, by simp [operator], ask_difference (fits.equal "neq" (by simp) v hv)⟩
  have asksOrder : ∀ name ∈ ["gt", "lt", "gte", "lte"], ∀ comparison,
      Comparison.ordered? name = some comparison →
      OperatorsAsk c (valueEntry name (operators.get? name)) fun cell =>
        (operators.get? name).all (cell.versus comparison) := by
    intro name hn comparison hc
    refine valueEntry_asks fun v hv => ?_
    obtain ⟨takes, flag⟩ := fits.ordered name hn v hv
    obtain ⟨criterion, hcr, asks⟩ := ordering_ask takes flag
    refine ⟨criterion, ?_, asks⟩
    rw [← hcr]
    simp only [List.mem_cons, List.not_mem_nil, or_false] at hn
    rcases hn with rfl | rfl | rfl | rfl <;> simp [operator, hc]
  refine ⟨_, by rw [ofEntries, readWithin _ _ (get?_withinName _), readWithout _ _ rfl], ?_⟩
  cases he : operators.get? "eq" with
  | some v =>
    have fit := fits.equal "eq" (by simp) v he
    refine ⟨[equality c v], ofColumn_scalar fit, (ask_equality fit).congr fun cell => ?_⟩
    rw [Cell.meetsOperators, he]
  | none =>
    have asks := asksWithin.append asksWithout |>.append asksDifference
      |>.append (asksOrder "gt" (by simp) .gt rfl) |>.append (asksOrder "lt" (by simp) .lt rfl)
      |>.append (asksOrder "gte" (by simp) .ge rfl) |>.append (asksOrder "lte" (by simp) .le rfl)
    obtain ⟨cs, hcs, asks⟩ := asks
    refine ⟨cs, hcs, asks.congr fun cell => ?_⟩
    rw [Cell.meetsOperators, he]
    rfl

end Recordbook

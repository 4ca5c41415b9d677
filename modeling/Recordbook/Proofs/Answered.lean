import Recordbook.Proofs.FailureLog
import Recordbook.Proofs.Writable

/-!
# Answers

A call is answered by an envelope of one of two shapes, unless the record of its failure cannot be
written. The log comes before the envelope, and nothing stands between it and the caller: what is
raised there is raised by the call. Whatever else the call did is done by then.

It is the only thing that a call raises, and it takes an argument with an integer too long for a
text. Masking may hide that integer, and then the call is answered like any other.

## Main definitions

* `Answer.unlogged` — the answer of a call that raises something

## Main results

* `Call.log_eq_error_iff` — which calls have no log
* `calls_answered_unless_unlogged` — the answer of a call, and when it is no envelope
-/

namespace Recordbook

/-- The answer of a call whose log cannot be written. -/
def Answer.unlogged : Answer := .failure (.misuse (.unwritable digitLimit))

/-! ### Logs that cannot be written -/

namespace Notice

variable {n : Notice} {reply : Reply}

theorem text_eq_none_iff : n.text = none ↔ ¬ (Redaction.mask n.shown).IsWritable := by
  rw [text, ← Redaction.isSome_safeText_iff, Option.not_isSome_iff_eq_none]

/-- A failure has no log exactly if it is to be logged and what is shown of it cannot be written. -/
theorem records_eq_error_iff {m : Misuse} :
    n.records reply = .error m ↔ m = .unwritable digitLimit ∧ ¬ n.IsSilent reply ∧
      ¬ (Redaction.mask n.shown).IsWritable := by
  rw [records, record, ← text_eq_none_iff]
  by_cases silent : n.IsSilent reply
  · simp [silent]
  · cases n.text <;> simp [silent, Misuse.written, Except.map, eq_comm]

end Notice

namespace Repository

variable (r : Repository)

/-- Nothing is logged of a success. -/
theorem log_report_of_isSuccess {a : Action} {args : List Value} {result : Except Failure Reply}
    (success : (r.report a args result).1.isSuccess = true) :
    (r.report a args result).2 = .ok [] := by
  cases result with
  | ok reply => rfl
  | error f => cases success

end Repository

theorem ReadCall.log_of_isSuccess (c : Context) (s : Session) (k : ReadCall)
    (success : (k.run c s).1.isSuccess = true) : (k.run c s).2 = .ok [] := by
  cases k <;> exact Repository.log_report_of_isSuccess _ success

theorem WriteCall.log_of_isSuccess (c : Context) (s : Session) (k : WriteCall)
    (success : (k.run c s).reply.isSuccess = true) : (k.run c s).log = .ok [] := by
  cases k with
  | create r data => exact r.log_report_of_isSuccess success
  | update r identifier data =>
    rw [run, Repository.update] at success ⊢
    split at success
    · rw [if_pos ‹_›]
      exact r.log_report_of_isSuccess success
    · cases success
  | delete r identifier =>
    rw [run, Repository.delete] at success ⊢
    split at success
    · rw [if_pos ‹_›]
      exact r.log_report_of_isSuccess success
    · cases success
  | upsert r values created updated => exact r.log_report_of_isSuccess success

theorem Call.log_of_isSuccess (c : Context) (s : Session) (k : Call)
    (success : (k.run c s).reply.isSuccess = true) : (k.run c s).log = .ok [] := by
  cases k with
  | read k => exact k.log_of_isSuccess c s success
  | write k => exact k.log_of_isSuccess c s success

/-- **Which calls have no log.** They failed, the failure is one that is logged, and an integer in
what is left of their arguments is too long to be written. -/
theorem Call.log_eq_error_iff {c : Context} {s : Session} {k : Call} {m : Misuse} :
    (k.run c s).log = .error m ↔ m = .unwritable digitLimit ∧ (k.run c s).reply.isSuccess = false ∧
      ¬ k.notice.IsSilent (k.run c s).reply ∧ ¬ (Redaction.mask k.notice.shown).IsWritable := by
  cases ended : (k.run c s).reply.isSuccess with
  | true => simp [k.log_of_isSuccess c s ended]
  | false => rw [k.log_eq c s ended, Notice.records_eq_error_iff, eq_self, true_and]

/-! ### Answers of calls -/

theorem Call.answer_of_log {c : Context} {s : Session} {k : Call} {log : List LogRecord}
    (h : (k.run c s).log = .ok log) : (k.step.run c s).answer = .reply (k.run c s).reply := by
  rw [run_step, Step.called, h]

theorem Call.answer_of_no_log {c : Context} {s : Session} {k : Call} {m : Misuse}
    (h : (k.run c s).log = .error m) : (k.step.run c s).answer = .failure (.misuse m) := by
  rw [run_step, Step.called, h]

/-- A call that fails, of which something is to be logged that cannot be written, is not answered by
an envelope. -/
theorem Call.answer_of_unwritable {c : Context} {s : Session} {k : Call}
    (failed : (k.run c s).reply.isSuccess = false) (logged : ¬ k.notice.IsSilent (k.run c s).reply)
    (unwritable : ¬ (Redaction.mask k.notice.shown).IsWritable) :
    (k.step.run c s).answer = .unlogged :=
  answer_of_no_log (log_eq_error_iff.mpr ⟨rfl, failed, logged, unwritable⟩)

/-- **Calls are answered, unless the log cannot be written.** Whatever a call is given and whatever
state its session is in, it makes an envelope. Without an error detail the envelope is a success,
with the code of one. Otherwise it is an error, its detail holds its message and the name of a kind
of fault, and its code is the code of that kind.

The envelope is the answer of the call, or one failure is raised in its place: that an integer is
too long to be written. That happens only if the call fails and such an integer is among its
arguments, and it does happen if the failure is logged and the integer is shown. -/
theorem calls_answered_unless_unlogged (c : Context) (s : Session) (k : Call) :
    let reply := (k.run c s).reply
    let answer := (k.step.run c s).answer
    (reply.error.isNull = true →
      reply.status = .success ∧ (reply.code = 200 ∨ reply.code = 201 ∨ reply.code = 204)) ∧
    (reply.error.isNull = false →
      reply.status = .error ∧ ∃ kind : FaultKind,
        reply.error = .map [(.str "message", .str reply.message), (.str "fault", .str kind.name)] ∧
        reply.code = kind.code) ∧
    (answer = .reply reply ∨
      answer = .unlogged ∧ reply.isSuccess = false ∧ ¬ k.notice.shown.IsWritable) ∧
    (reply.isSuccess = false → ¬ k.notice.IsSilent reply →
      ¬ (Redaction.mask k.notice.shown).IsWritable → answer = .unlogged) := by
  intro reply answer
  have regular : reply.Regular := k.regular_run c s
  refine ⟨fun absent => ?_, regular.of_error, ?_, Call.answer_of_unwritable⟩
  · obtain ⟨status, code⟩ := regular.of_no_error absent
    exact ⟨status, by simpa [Envelope.successCodes] using code⟩
  · cases log : (k.run c s).log with
    | ok records => exact .inl (Call.answer_of_log log)
    | error m =>
      obtain ⟨rfl, failed, -, unwritable⟩ := Call.log_eq_error_iff.mp log
      refine .inr ⟨Call.answer_of_no_log log, failed, fun writable => unwritable fun n shown => ?_⟩
      exact writable n (Redaction.shows_of_mask shown)

/-- A user is looked up by a name that no column has, with an integer that is too long to be
written, and another is addressed by such an integer in a list. Neither call is answered by an
envelope. -/
theorem calls_unanswered_sample :
    let c := Script.context {} 1
    let s := Session.start .empty false
    let users := Repository.standard {} .user
    let long : Value := .int (10 ^ digitLimit : Nat)
    let lookUp : Call := .read (.get users (.map [(.str "nickname", long)]) .null .null)
    let change : Call := .write (.update users (.list [long]) (.map []))
    (lookUp.step.run c s).answer = .unlogged ∧ (change.step.run c s).answer = .unlogged := by
  intro c s users long lookUp change
  have unwritable {v : Value} (h : Redaction.safeText v = none) :
      ¬ (Redaction.mask v).IsWritable := by
    rw [← Redaction.isSome_safeText_iff, h]
    exact Bool.false_ne_true
  constructor
  · exact Call.answer_of_unwritable (by rfl) (by decide)
      (unwritable (by decide +kernel))
  · exact Call.answer_of_unwritable (by rfl) (by decide)
      (unwritable (by decide +kernel))

end Recordbook

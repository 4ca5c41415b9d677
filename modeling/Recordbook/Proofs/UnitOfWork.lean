import Mathlib.Tactic.ByContra
import Recordbook.Proofs.Call

/-!
# Units of work

A unit of work is given as a callback: a program that makes calls of repositories on the session it
was handed, each of which may depend on the answers before, and that comes to a result or raises a
failure in the end. A callback is a tree that branches over answers, so every run of it makes
finitely many calls, of any number.

As long as no flush fails, the session that a callback leaves is the one it was handed, with the
effects of the writes that were stored. From the first flush that fails on, nothing changes any more
and every call is answered by an error. A unit of work looks at its session once, at the end, and
that is enough to notice every failed flush, however many calls were made after it.

It is not enough to notice every failed write. A write that is turned away before it hands anything
to the store leaves the session under way, and a callback that ignores its answer is saved.

## Main definitions

* `Callback`, `Callback.run`, `Callback.trace` — a callback, its run, and the calls made in it
* `Made.flushFailed`, `Made.turnedAway`, `Made.isStored` — what became of a call
* `replay` — the effects of calls on a store, one after another
* `Callback.ofCalls` — the callback that makes the calls of a group of steps in a script

## Main results

* `Callback.session_of_no_failed_flush`, `Callback.isActive_of_failed_flush` — what a run leaves
* `Script.runBlock_unit_calls` — a group of calls in a script is such a unit of work
* `operation_all_or_nothing` — a unit of work is saved as a whole or not at all
* `ignored_failure_rolls_back_iff` — which ignored failures take a unit of work back
-/

namespace Recordbook

/-- A program that makes calls on a session, for a unit of work. -/
inductive Callback (α : Type)
  /-- Come to a result, or raise a failure. -/
  | finish (result : Except Failure α)
  /-- Make a call, and go on by its answer or by what it raised. -/
  | call (c : Context) (k : Call) (next : Except Failure Reply → Callback α)

/-- A call that was made. -/
structure Made where
  /-- What it knew besides its arguments. -/
  context : Context
  /-- The call. -/
  call : Call
  /-- The session on which it was made. -/
  before : Session

namespace Made

/-- The envelope. -/
def reply (m : Made) : Reply := (m.call.run m.context m.before).reply

/-- What the call hands to the store, if it gets that far. A call that only reads hands over
nothing. -/
def flush? (m : Made) : Option (Except Failure Store) :=
  match m.call with
  | .read _ => none
  | .write k => k.flush? m.context m.before.working

/-- The call wrote to the store, which refused it. -/
def flushFailed (m : Made) : Prop :=
  m.before.isActive = true ∧ ∃ f, m.flush? = some (.error f)

/-- The call failed on a session under way before it wrote anything. -/
def turnedAway (m : Made) : Prop := m.before.isActive = true ∧ m.flush? = none

/-- Whether the call is a write that was answered by a success. -/
def isStored (m : Made) : Bool := m.call.isWrite && m.reply.isSuccess

end Made

namespace Callback

variable {α : Type}

/-- What a callback comes to, and the session it leaves. -/
def run : Callback α → Session → Except Failure α × Session
  | .finish result, s => (result, s)
  | .call c k next, s => (next (k.run c s).answer).run (k.run c s).session

/-- The calls that a callback makes, in order. -/
def trace : Callback α → Session → List Made
  | .finish _, _ => []
  | .call c k next, s => ⟨c, k, s⟩ :: (next (k.run c s).answer).trace (k.run c s).session

end Callback

/-- The store that a call leaves when it is made on its own. -/
def Call.effect (c : Context) (k : Call) (store : Store) : Store :=
  (k.run c (Session.start store true)).session.working

/-- The effects of calls on a store, one after another. -/
def replay (store : Store) (made : List Made) : Store :=
  made.foldl (fun st m => m.call.effect m.context st) store

/-- What a unit of work came to, as its caller sees it. -/
def Repository.Concluded.answer {α : Type} (e : Repository.Concluded α) : Except Fault α :=
  e.result.mapError Repository.transactionFault

/-! ### One call -/

theorem Session.isActive_start (store : Store) (oneUnit : Bool) :
    (Session.start store oneUnit).isActive = true := rfl

@[simp] theorem Session.isActive_failed (s : Session) (f : Failure) :
    (s.failed f).isActive = false := by
  simp [Session.isActive, Session.failed]

/-- An envelope that is no success says so. -/
theorem Envelope.status_eq_error {α : Type} {e : Envelope α} (h : e.isSuccess = false) :
    e.status = .error := by
  have hs : e.status ≠ .success := fun hs => by simp [Envelope.isSuccess, e.coherent.mp hs] at h
  cases he : e.status with
  | success => exact absurd he hs
  | error => rfl

theorem Envelope.isSuccess_eq_false {α : Type} {e : Envelope α} (h : e.status = .error) :
    e.isSuccess = false := by
  rw [Bool.eq_false_iff]
  intro hs
  rw [e.coherent.mpr hs] at h
  cases h

/-- A write that the store accepts has the store that comes of it as its effect. -/
theorem WriteCall.effect_of_flush {c : Context} {k : WriteCall} {store next : Store}
    (h : k.flush? c store = some (.ok next)) : (Call.write k).effect c store = next := by
  have outcome := k.outcome c (Session.isActive_start store true)
  rw [show (Session.start store true).working = store from rfl, h] at outcome
  rw [Call.effect, Call.run, outcome.of_ok.2]
  rfl

/-- No call saves anything. -/
theorem Call.saved_run (c : Context) (s : Session) (k : Call) :
    (k.run c s).session.saved = s.saved := by
  cases ha : s.isActive with
  | false => rw [k.session_of_not_isActive c ha]
  | true =>
    cases k with
    | read k => rfl
    | write k => exact (k.outcome c ha).saved

namespace Made

/-- A call on a session under way whose flush did not fail leaves that session, with the effect of
the call if it is a write that was stored. -/
theorem session_of_not_flushFailed {m : Made} (active : m.before.isActive = true)
    (h : ¬ m.flushFailed) :
    (m.call.run m.context m.before).session =
      m.before.wrote (replay m.before.working ([m].filter isStored)) := by
  obtain ⟨c, k, s⟩ := m
  cases k with
  | read k => rfl
  | write k =>
    have outcome := k.outcome c active
    cases hf : k.flush? c s.working with
    | none =>
      rw [hf] at outcome
      have kept : isStored ⟨c, .write k, s⟩ = false := outcome.of_none.1
      rw [List.filter_cons_of_neg (by simp [kept])]
      exact outcome.of_none.2
    | some flushed =>
      cases flushed with
      | error f => exact absurd ⟨active, f, hf⟩ h
      | ok next =>
        rw [hf] at outcome
        have stored : isStored ⟨c, .write k, s⟩ = true := outcome.of_ok.1
        rw [List.filter_cons_of_pos stored]
        refine outcome.of_ok.2.trans (congrArg s.wrote ?_)
        exact (WriteCall.effect_of_flush hf).symm

/-- A flush that failed is the flush of a write, which is answered by an error and leaves a session
that is not under way. -/
theorem of_flushFailed {m : Made} (h : m.flushFailed) :
    m.call.isWrite = true ∧ m.reply.isSuccess = false ∧
      (m.call.run m.context m.before).session.isActive = false := by
  obtain ⟨c, k, s⟩ := m
  obtain ⟨active, f, hf⟩ := h
  cases k with
  | read k => cases hf
  | write k =>
    have outcome := k.outcome c active
    rw [show k.flush? c s.working = some (.error f) from hf] at outcome
    refine ⟨rfl, outcome.of_error.1, ?_⟩
    rw [show (Call.run c s (.write k)).session = s.failed f from outcome.of_error.2]
    exact Session.isActive_failed s f

/-- A write on a session under way that is answered by an error was turned away, unless its flush
failed. -/
theorem turnedAway_of_failed {m : Made} (active : m.before.isActive = true)
    (write : m.call.isWrite = true) (failed : m.reply.isSuccess = false) (h : ¬ m.flushFailed) :
    m.turnedAway := by
  obtain ⟨c, k, s⟩ := m
  cases k with
  | read k => cases write
  | write k =>
    have outcome := k.outcome c active
    cases hf : k.flush? c s.working with
    | none => exact ⟨active, hf⟩
    | some flushed =>
      cases flushed with
      | error f => exact absurd ⟨active, f, hf⟩ h
      | ok next =>
        rw [hf] at outcome
        exact absurd (outcome.of_ok.1.symm.trans failed) (by decide)

end Made

/-! ### Runs -/

namespace Callback

variable {α : Type} {s : Session}

/-- Nothing is saved during a run. -/
theorem saved_run (work : Callback α) (s : Session) : (work.run s).2.saved = s.saved := by
  induction work generalizing s with
  | finish result => rfl
  | call c k next ih => rw [run, ih, Call.saved_run]

/-- On a session that is not under way a callback changes nothing. -/
theorem session_of_not_isActive (work : Callback α) (h : s.isActive = false) :
    (work.run s).2 = s := by
  induction work with
  | finish result => rfl
  | call c k next ih => rw [run, k.session_of_not_isActive c h, ih]

/-- On a session that is not under way every call of a callback is answered by an error, and none of
them reaches the store. -/
theorem trace_of_not_isActive (work : Callback α) (h : s.isActive = false) :
    ∀ m ∈ work.trace s, m.before.isActive = false ∧ m.reply.isSuccess = false := by
  induction work with
  | finish result => intro m hm; cases hm
  | call c k next ih =>
    intro m hm
    rw [trace, k.session_of_not_isActive c h] at hm
    rcases List.mem_cons.mp hm with rfl | hm
    · exact ⟨h, k.isSuccess_of_not_isActive c h⟩
    · exact ih _ m hm

/-- **A run without a failed flush.** The session it leaves is the one it was handed, with the
effects of the writes that were stored. -/
theorem session_of_no_failed_flush (work : Callback α) (active : s.isActive = true)
    (h : ∀ m ∈ work.trace s, ¬ m.flushFailed) :
    (work.run s).2 = s.wrote (replay s.working ((work.trace s).filter Made.isStored)) := by
  induction work generalizing s with
  | finish result => rfl
  | call c k next ih =>
    have here : (k.run c s).session =
        s.wrote (replay s.working ([⟨c, k, s⟩].filter Made.isStored)) :=
      Made.session_of_not_flushFailed active (h ⟨c, k, s⟩ List.mem_cons_self)
    have active' : (k.run c s).session.isActive = true := by
      rw [here]
      exact active
    rw [run, ih _ active' fun m hm => h m (List.mem_cons_of_mem _ hm)]
    rw [trace, ← List.singleton_append, List.filter_append, replay, replay, List.foldl_append]
    rw [here]
    rfl

/-- As long as no flush fails, every call finds the session under way. -/
theorem isActive_before_of_no_failed_flush (work : Callback α) (active : s.isActive = true)
    (h : ∀ m ∈ work.trace s, ¬ m.flushFailed) : ∀ m ∈ work.trace s, m.before.isActive = true := by
  induction work generalizing s with
  | finish result => intro m hm; cases hm
  | call c k next ih =>
    intro m hm
    rcases List.mem_cons.mp hm with rfl | hm
    · exact active
    · refine ih _ ?_ (fun n hn => h n (List.mem_cons_of_mem _ hn)) m hm
      rw [Made.session_of_not_flushFailed active (h ⟨c, k, s⟩ List.mem_cons_self)]
      exact active

/-- A flush failed in a run exactly if a write failed in it that was not turned away. -/
theorem exists_flushFailed_iff (work : Callback α) (active : s.isActive = true) :
    (∃ m ∈ work.trace s, m.flushFailed) ↔
      ∃ m ∈ work.trace s, m.call.isWrite = true ∧ m.reply.status = .error ∧ ¬ m.turnedAway := by
  constructor
  · rintro ⟨m, hm, h⟩
    obtain ⟨write, failed, -⟩ := Made.of_flushFailed h
    refine ⟨m, hm, write, Envelope.status_eq_error failed, fun away => ?_⟩
    obtain ⟨-, f, hf⟩ := h
    cases away.2.symm.trans hf
  · rintro ⟨m, hm, write, failed, h⟩
    by_contra none
    have sound : ∀ m ∈ work.trace s, ¬ m.flushFailed := fun m hm hf => none ⟨m, hm, hf⟩
    have before := work.isActive_before_of_no_failed_flush active sound m hm
    have failed := Envelope.isSuccess_eq_false failed
    exact h (Made.turnedAway_of_failed before write failed (sound m hm))

/-- **A run with a failed flush.** The session it leaves is not under way any more. -/
theorem isActive_of_failed_flush (work : Callback α) {m : Made} (hm : m ∈ work.trace s)
    (h : m.flushFailed) : (work.run s).2.isActive = false := by
  induction work generalizing s with
  | finish result => cases hm
  | call c k next ih =>
    rw [run]
    rcases List.mem_cons.mp hm with rfl | hm
    · have broken := (Made.of_flushFailed h).2.2
      rw [session_of_not_isActive _ broken]
      exact broken
    · exact ih _ hm

/-- After a failed flush every call is answered by an error. -/
theorem isSuccess_of_failed_flush (work : Callback α) {earlier later : List Made} {m : Made}
    (hm : work.trace s = earlier ++ m :: later) (h : m.flushFailed) :
    ∀ n ∈ later, n.reply.isSuccess = false := by
  induction work generalizing s earlier with
  | finish result => simp [trace] at hm
  | call c k next ih =>
    cases earlier with
    | nil =>
      obtain ⟨rfl, rfl⟩ := List.cons.inj hm
      intro n hn
      exact (trace_of_not_isActive _ (Made.of_flushFailed h).2.2 n hn).2
    | cons first earlier => exact ih _ (List.cons.inj hm).2

end Callback

/-! ### The end of a unit of work -/

namespace Repository

variable {α : Type} (r : Repository)

/-- The two ways in which a unit of work can end. -/
theorem conclude_cases (ended : Except Failure α × Session) :
    (∃ a, ended.1 = .ok a ∧ ended.2.isActive = true ∧
        (r.conclude ended).answer = .ok a ∧ (r.conclude ended).store = ended.2.working) ∨
      ∃ f, (ended.1 = .error f ∨ f = ignoredFailure ∧ ended.2.isActive = false) ∧
        (r.conclude ended).answer = .error (transactionFault f) ∧
        (r.conclude ended).store = ended.2.saved := by
  obtain ⟨result, after⟩ := ended
  cases result with
  | error f => exact .inr ⟨f, .inl rfl, rfl, rfl⟩
  | ok a =>
    cases ha : after.isActive with
    | true =>
      refine .inl ⟨a, rfl, rfl, ?_⟩
      simp only [conclude, ha]
      exact ⟨rfl, rfl⟩
    | false =>
      refine .inr ⟨ignoredFailure, .inr ⟨rfl, rfl⟩, ?_⟩
      simp only [conclude, ha]
      exact ⟨rfl, rfl⟩

variable (store : Store) (work : Callback α)

/-- A unit of work whose callback comes to a result without a failed flush is saved. -/
theorem operation_of_no_failed_flush {a : α}
    (returned : (work.run (Session.start store true)).1 = .ok a)
    (h : ∀ m ∈ work.trace (Session.start store true), ¬ m.flushFailed) :
    (r.operation store work.run).answer = .ok a ∧
      (r.operation store work.run).store =
        replay store ((work.trace (Session.start store true)).filter Made.isStored) := by
  have after := work.session_of_no_failed_flush (Session.isActive_start store true) h
  have active : (work.run (Session.start store true)).2.isActive = true := by
    rw [after]
    rfl
  rcases r.conclude_cases (work.run (Session.start store true)) with
    ⟨b, hb, -, answer, saved⟩ | ⟨f, hf | ⟨-, broken⟩, -⟩
  · rw [returned] at hb
    cases hb
    refine ⟨answer, saved.trans ?_⟩
    rw [after]
    rfl
  · rw [returned] at hf
    cases hf
  · rw [active] at broken
    cases broken

/-- A unit of work in which a flush failed is taken back, whatever its callback comes to. -/
theorem operation_of_failed_flush {m : Made} (hm : m ∈ work.trace (Session.start store true))
    (h : m.flushFailed) :
    ∃ f, ((work.run (Session.start store true)).1 = .error f ∨ f = ignoredFailure) ∧
      (r.operation store work.run).answer = .error (transactionFault f) ∧
      (r.operation store work.run).store = store := by
  have broken := work.isActive_of_failed_flush hm h
  rcases r.conclude_cases (work.run (Session.start store true)) with
    ⟨b, -, active, -⟩ | ⟨f, hf, answer, saved⟩
  · rw [broken] at active
    cases active
  · refine ⟨f, hf.imp_right And.left, answer, saved.trans ?_⟩
    exact work.saved_run (Session.start store true)

end Repository

/-! ### Units of work in scripts -/

/-- The callback that makes the calls of a group of steps. It may raise a failure at the end, and it
may raise one at the first error envelope. -/
def Callback.ofCalls (settings : Settings) (raised : Option Failure) (stopOnError : Bool) :
    Nat → List Call → Callback Unit
  | _, [] => .finish (match raised with
    | some f => .error f
    | none => .ok ())
  | n, k :: rest => .call (Script.context settings n) k fun
    | .ok reply =>
      if stopOnError && !reply.isSuccess then
        .finish (.error (.fault (Fault.make .store (some reply.message))))
      else ofCalls settings raised stopOnError (n + 1) rest
    | .error _ => ofCalls settings raised stopOnError (n + 1) rest

namespace Script

variable (settings : Settings) (raised : Option Failure)

theorem runSteps_calls (n : Nat) (s : Session) (ks : List Call) :
    (Callback.ofCalls settings raised false n ks).run s =
      (resultOf (match raised with
        | some f => .raised f
        | none => .done), (runSteps settings n s (ks.map Call.step)).2) := by
  induction ks generalizing n s with
  | nil => cases raised <;> rfl
  | cons k rest ih =>
    simp only [Callback.ofCalls, Callback.run, Bool.false_and, List.map_cons, runSteps,
      Call.run_step, Step.session_called]
    cases (k.run (context settings n) s).answer <;> exact ih (n + 1) _

theorem runUntilError_calls (n : Nat) (s : Session) (ks : List Call) :
    let ran := runUntilError settings n s (ks.map Call.step)
    (Callback.ofCalls settings raised true n ks).run s =
      (resultOf (match ran.2.1, raised with
        | some message, _ => .stopped (.fault (Fault.make .store (some message)))
        | none, some f => .raised f
        | none, none => .done), ran.2.2) := by
  induction ks generalizing n s with
  | nil => cases raised <;> rfl
  | cons k rest ih =>
    simp only [Callback.ofCalls, Callback.run, Bool.true_and, List.map_cons, runUntilError,
      Call.run_step, Step.called]
    cases logged : (k.run (context settings n) s).log with
    | error m =>
      rw [Repository.Written.answer_of_unlogged logged]
      exact ih (n + 1) _
    | ok log =>
      simp only [Repository.Written.answer_of_logged logged, errorMessage?]
      cases hs : (k.run (context settings n) s).reply.isSuccess with
      | false => rfl
      | true => exact ih (n + 1) _

/-- What a unit of calls in a script leaves is what the callback that makes these calls leaves. -/
theorem runUnit_calls (stopOnError : Bool) (n : Nat) (s : Session) (ks : List Call) :
    let ran := runUnit settings n s (ks.map Call.step) raised stopOnError
    (resultOf ran.2.1, ran.2.2) = (Callback.ofCalls settings raised stopOnError n ks).run s := by
  cases stopOnError with
  | false =>
    rw [runSteps_calls]
    cases raised <;> rfl
  | true => exact (runUntilError_calls settings raised n s ks).symm

/-- A unit of calls in a script is a unit of work: it leaves the store that the unit leaves. -/
theorem runBlock_unit_calls (n : Nat) (store : Store) (r : Repository) (ks : List Call)
    (stopOnError : Bool) :
    (runBlock settings n store (.unit r (ks.map Call.step) raised stopOnError)).2.1 =
      (r.operation store
        (Callback.ofCalls settings raised stopOnError (n + 1) ks).run).store := by
  rw [Repository.operation, ← runUnit_calls]
  rfl

end Script

/-! ### All or nothing -/

open Repository (transactionFault ignoredFailure)

/-- **Which ignored failures take a unit of work back.** A unit whose callback came to a result is
taken back exactly if a write in it failed that was not turned away. Where every write that failed
was turned away, which is before it handed anything to the store, the unit is saved with the effects
of the others. -/
theorem ignored_failure_rolls_back_iff {α : Type} (r : Repository) (store : Store)
    (work : Callback α) (a : α) (returned : (work.run (Session.start store true)).1 = .ok a) :
    let made := work.trace (Session.start store true)
    let ended := r.operation store work.run
    (ended.answer = .error (transactionFault ignoredFailure) ∧ ended.store = store ↔
      ∃ m ∈ made, m.call.isWrite = true ∧ m.reply.status = .error ∧ ¬ m.turnedAway) ∧
    ((∀ m ∈ made, m.call.isWrite = true → m.reply.status = .error → m.turnedAway) →
      ended.answer = .ok a ∧ ended.store = replay store (made.filter Made.isStored)) := by
  intro made ended
  have active := Session.isActive_start store true
  have saved : (∀ m ∈ made, ¬ m.flushFailed) →
      ended.answer = .ok a ∧ ended.store = replay store (made.filter Made.isStored) :=
    r.operation_of_no_failed_flush store work returned
  rw [← work.exists_flushFailed_iff active]
  refine ⟨⟨fun taken => ?_, fun h => ?_⟩, fun h => saved fun m hm hf => ?_⟩
  · by_contra none
    have kept := (saved fun m hm hf => none ⟨m, hm, hf⟩).1
    cases taken.1.symm.trans kept
  · obtain ⟨m, hm, hf⟩ := h
    obtain ⟨f, hf | rfl, answer⟩ := r.operation_of_failed_flush store work hm hf
    · cases returned.symm.trans hf
    · exact answer
  · obtain ⟨n, hn, write, failed, away⟩ := (work.exists_flushFailed_iff active).mp ⟨m, hm, hf⟩
    exact away (h n hn write failed)

/-- A callback that adds a company and goes on as if an update without an identifier had not
failed. -/
def carelessUnit : Callback Unit :=
  let companies := Repository.standard {} .company
  let c := Script.context {} 1
  .call c (.write (.create companies (.map [(.str "name", .str "Initech")]))) fun _ =>
    .call c (.write (.update companies .null (.map [(.str "name", .str "Hooli")]))) fun _ =>
      .finish (.ok ())

/-- The careless unit is saved with the company it added. -/
theorem carelessUnit_saved :
    let made := carelessUnit.trace (Session.start .empty true)
    let ended := (Repository.standard {} .company).operation .empty carelessUnit.run
    (carelessUnit.run (Session.start .empty true)).1 = .ok () ∧
      ended.answer = .ok () ∧ ended.store = replay .empty (made.filter Made.isStored) := by
  intro made ended
  refine ⟨rfl, (ignored_failure_rolls_back_iff _ .empty carelessUnit () rfl).2 ?_⟩
  intro m hm write failed
  rcases List.mem_cons.mp hm with rfl | hm
  · exact absurd failed (by decide +kernel)
  · rcases List.mem_cons.mp hm with rfl | hm
    · exact ⟨by decide +kernel, rfl⟩
    · cases hm

/-- A write of the careless unit failed, and all the same the unit answers with a result and leaves
another store. -/
theorem carelessUnit_not_taken_back :
    let made := carelessUnit.trace (Session.start .empty true)
    let ended := (Repository.standard {} .company).operation .empty carelessUnit.run
    (∃ m ∈ made, m.call.isWrite = true ∧ m.reply.status = .error) ∧
      ended.answer.toOption = some () ∧ ended.store ≠ .empty := by
  intro made ended
  refine ⟨⟨_, List.mem_cons_of_mem _ List.mem_cons_self, rfl, rfl⟩, by decide +kernel, fun h => ?_⟩
  have added : (ended.store.rows .company).length = 1 := by decide +kernel
  rw [h] at added
  cases added

end Recordbook

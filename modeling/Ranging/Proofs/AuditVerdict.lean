import Ranging.Proofs.Audit

-- The audit as a judge of any snapshot, a broken one as well. It passes those that keep all the rules and no others,
-- and of the rules that are broken it reports the first.
namespace Ranging

-- The wakeup that is waited for is that of the operation which is with the hardware. Otherwise none is.
inductive Snapshot.TimerAgrees (s : Snapshot) : Prop
  | dispatched (op : Operation) (cid : CorrelationId) (due : Time) : s.active = some (op, .dispatched) →
      op.state = .dispatched → op.correlation = some cid → s.deadline = .armed cid due → TimerAgrees s
  | resolving (op : Operation) : s.active = some (op, .resolving) → op.correlation = none →
      s.deadline = .unarmed → TimerAgrees s
  | idle : s.active = none → s.deadline = .unarmed → TimerAgrees s

theorem Deadline.isArmed_eq_false_iff (d : Deadline) : d.isArmed = false ↔ d = .unarmed := by
  cases d <;> simp [isArmed, armedFor?]

namespace Violation

def all : List Violation := [.queuedOperationDispatched, .timerMismatch, .livenessUnbalanced, .duplicateOperation]

def Avoided (s : Snapshot) : Violation → Prop
  | .queuedOperationDispatched => ∀ op ∈ s.queue, op.state = .queued ∧ op.correlation = none
  | .timerMismatch => s.TimerAgrees
  | .livenessUnbalanced => ∀ token, (∃ op ∈ s.live, op.token = token) ↔ token ∈ s.registry.tokens
  | .duplicateOperation => (s.live.map Operation.id).Nodup

def test (s : Snapshot) : Violation → Bool
  | .queuedOperationDispatched => s.queuedNotDispatched
  | .timerMismatch => s.timerMatchesDispatch
  | .livenessUnbalanced => s.livenessBalanced
  | .duplicateOperation => s.uniqueOperations

theorem mem_all (v : Violation) : v ∈ all := by cases v <;> simp [all]

end Violation

namespace Snapshot
variable (s : Snapshot)

structure Judged : Prop where
  passed : s.check = .ok () ↔ ∀ v : Violation, v.Avoided s
  reported : ∀ v, s.check = .error v ↔ ¬ v.Avoided s ∧
    ∃ before after, Violation.all = before ++ v :: after ∧ ∀ earlier ∈ before, earlier.Avoided s

theorem timerMatchesDispatch_iff : s.timerMatchesDispatch = true ↔ s.TimerAgrees := by
  constructor
  · intro tested
    unfold timerMatchesDispatch at tested
    split at tested
    · next op active =>
        simp only [Bool.and_eq_true, decide_eq_true_eq] at tested
        obtain ⟨⟨state, given⟩, armed⟩ := tested
        obtain ⟨cid, correlation⟩ := Option.isSome_iff_exists.1 given
        cases deadline : s.deadline with
        | unarmed => simp [deadline, correlation, Deadline.armedFor?] at armed
        | armed other due =>
            have same : other = cid := by simpa [deadline, correlation, Deadline.armedFor?] using armed
            exact .dispatched op cid due active state correlation (same ▸ deadline)
    · next op active =>
        simp only [Bool.and_eq_true, Bool.not_eq_true', Option.isNone_iff_eq_none] at tested
        exact .resolving op active tested.1 ((Deadline.isArmed_eq_false_iff _).1 tested.2)
    · next active => exact .idle active ((Deadline.isArmed_eq_false_iff _).1 (by simpa using tested))
  · intro timed
    cases timed with
    | dispatched op cid due active state correlation armed =>
        simp [timerMatchesDispatch, active, state, correlation, armed, Deadline.armedFor?]
    | resolving op active correlation unarmed =>
        simp [timerMatchesDispatch, active, correlation, unarmed, Deadline.isArmed, Deadline.armedFor?]
    | idle active unarmed => simp [timerMatchesDispatch, active, unarmed, Deadline.isArmed, Deadline.armedFor?]

-- Each test decides its rule. Of the tokens only one inclusion is tested and a count, and the ids are gone through one
-- by one; `livenessBalanced_iff` and `distinctIds_iff` say why that is enough.
theorem test_iff (v : Violation) : v.test s = true ↔ v.Avoided s := by
  cases v with
  | queuedOperationDispatched => exact s.queuedNotDispatched_iff
  | timerMismatch => exact s.timerMatchesDispatch_iff
  | livenessUnbalanced =>
      refine s.livenessBalanced_iff.trans (forall_congr' fun token => ?_)
      rw [Registry.tokens, Table.mem_keys_iff]
      exact iff_comm
  | duplicateOperation => exact distinctIds_iff _

def violation? (s : Snapshot) : Option Violation := Violation.all.find? fun v => !v.test s

theorem violation?_eq_none_iff : s.violation? = none ↔ ∀ v : Violation, v.Avoided s := by
  simp only [violation?, List.find?_eq_none, Bool.not_eq_true', Bool.not_eq_false, test_iff]
  exact forall_congr' fun v => imp_iff_right v.mem_all

theorem violation?_eq_some_iff (v : Violation) : s.violation? = some v ↔ ¬ v.Avoided s ∧
    ∃ before after, Violation.all = before ++ v :: after ∧ ∀ earlier ∈ before, earlier.Avoided s := by
  simp only [violation?, List.find?_eq_some_iff_append, Bool.not_eq_true', ← test_iff, Bool.not_eq_true, Bool.not_not]

theorem check_eq : s.check = match s.violation? with
    | some v => .error v
    | none => .ok () := by
  cases queued : s.queuedNotDispatched <;> cases timer : s.timerMatchesDispatch <;>
    cases balanced : s.livenessBalanced <;> cases unique : s.uniqueOperations <;>
      simp [check, violation?, Violation.all, Violation.test, queued, timer, balanced, unique]

theorem snapshot_judged : s.Judged := by
  refine ⟨?_, fun v => ?_⟩
  · rw [← s.violation?_eq_none_iff, check_eq]
    cases s.violation? <;> simp
  · rw [← s.violation?_eq_some_iff, check_eq]
    cases s.violation? <;> simp

-- Nobody is tracked here either, but the timer is looked at before.
example : ({ History.sample.scheduler.snapshot with registry := .empty, deadline := .unarmed } : Snapshot).check =
    .error .timerMismatch := by decide

end Snapshot
end Ranging

import Ranging.Proofs.CancelAndDeath

-- The shutdown is for good. Nobody is live from then on, so no call has anything to act on, and whoever
-- still submits is turned away at once.
namespace Ranging

def Effect.isDismissal : Effect → Bool
  | .permission _ _ => true
  | .clock _ => true
  | .failure _ _ _ => true
  | _ => false

def FailureKind.dismissal (granted : Bool) : FailureKind := if granted then .resourceUnavailable else .permissionDenied

-- A submission fails on the spot, and that is the one thing its submitter ever hears.
structure History.Dismisses (h : History) (answers : Answers) (sub : Submission) (kind : FailureKind)
    (number : Nat) : Prop where
  number : kind.code.number = number
  effects : (h.scheduler.step answers (.submit sub)).effects =
    [.clock answers.admissionClock, .permission sub.requester (answers.permits sub.requester),
      .failure h.scheduler.nextOperation sub.replyTo kind.code]
  ended : (h.scheduler.step answers (.submit sub)).ended = [(h.scheduler.operationOf answers sub, .failed kind)]
  told : ∀ later, ((h.next answers (.submit sub)).run later).repliesTo h.scheduler.nextOperation =
    [.failure h.scheduler.nextOperation sub.replyTo kind.code]

structure History.Closed (h : History) : Prop where
  queue : h.scheduler.queue = []
  slot : h.scheduler.slot = .idle
  unavailable : h.scheduler.available = false
  deaf : ∀ answers call, h.scheduler.admits answers call = [] →
    (h.scheduler.step answers call).effects = [] ∧ (h.scheduler.step answers call).ended = []
  denied : ∀ answers sub, sub.request.validate h.scheduler.settings.maxPeers = .ok () →
    answers.permits sub.requester = false → h.Dismisses answers sub .permissionDenied 1
  refused : ∀ answers sub, sub.request.validate h.scheduler.settings.maxPeers = .ok () →
    answers.permits sub.requester = true → h.Dismisses answers sub .resourceUnavailable 2

structure History.Absorbs (h : History) (answers : Answers) (calls : List (Answers × Call)) : Prop where
  closed : ((h.next answers .shutdown).run calls).Closed
  said : ∃ said, ((h.next answers .shutdown).run calls).effects = (h.next answers .shutdown).effects ++ said ∧
    ∀ effect ∈ said, effect.isDismissal = true
  ledger : ((h.next answers .shutdown).run calls).scheduler.ledger = h.scheduler.ledger

namespace Scheduler
variable (answers : Answers) (s : Scheduler)

theorem verdict_unavailable (op : Operation) (unavailable : s.available = false) : s.verdict answers op =
    (some (.dismissal (answers.permits op.requester)), [.permission op.requester (answers.permits op.requester)]) := by
  cases granted : answers.permits op.requester <;> simp [verdict, granted, unavailable, FailureKind.dismissal]

theorem accept_dismisses (sub : Submission) (unavailable : s.available = false)
    (absent : ¬ s.registry.Holds sub.token s.nextOperation) :
    (s.accept answers sub).effects =
      [.clock answers.admissionClock, .permission sub.requester (answers.permits sub.requester),
        .failure s.nextOperation sub.replyTo (FailureKind.dismissal (answers.permits sub.requester)).code] ∧
    (s.accept answers sub).ended =
      [(s.operationOf answers sub, .failed (.dismissal (answers.permits sub.requester)))] := by
  have verdict := verdict_unavailable answers s.counted (s.operationOf answers sub) unavailable
  have unheld : s.registry.detach sub.token s.nextOperation = (false, s.registry) :=
    Registry.detach_absent _ _ _ absent
  rw [accept_refused answers sub s _ (congrArg Prod.fst verdict)]
  constructor
  · rw [Turn.andThen_effects, interview, verdict]
    simp [retire, counted, operationOf, Operation.new, unheld, reply]
  · rfl

end Scheduler

section
variable (settings : Settings) (h : History) (path : History.Reached settings h) (answers : Answers)
include path

theorem shut_deaf (shut : h.scheduler.shutDown = true) (call : Call) (nobody : h.scheduler.admits answers call = []) :
    (h.scheduler.step answers call).effects = [] ∧ (h.scheduler.step answers call).ended = [] := by
  have unavailable : ∀ s : Scheduler, s.shutDown = true → s.available = false := by
    intro s closed
    simp [Scheduler.available, closed]
  have rested := reached_slotSettled settings h path
  have slot := rested.unavailable (unavailable h.scheduler shut)
  have unarmed : h.scheduler.deadline = .unarmed := (reached_sound h settings path).slotMatches.idle slot
  have unlived : ∀ op, op ∉ h.scheduler.live := by simp [shut_live settings h path shut]
  suffices same : ∃ s : Scheduler, h.scheduler.step answers call = s.still by
    obtain ⟨s, same⟩ := same
    rw [same]
    exact ⟨rfl, rfl⟩
  cases call with
  | submit sub =>
      cases formed : sub.request.validate h.scheduler.settings.maxPeers with
      | error e => exact ⟨h.scheduler, by simp [Scheduler.step, Scheduler.submit, formed]⟩
      | ok _ => simp [Scheduler.admits, Scheduler.submit, formed] at nobody
  | cancel a =>
      exact ⟨_, Scheduler.withdraw_nobody answers h.scheduler _ fun op here => absurd here (unlived op)⟩
  | measured cid report =>
      exact ⟨_, measured_discards answers cid report h.scheduler fun op taken => by simp [slot] at taken⟩
  | wake cid => exact ⟨_, wake_ignores answers cid h.scheduler (by simp [unarmed, Deadline.armedFor?])⟩
  | resolved id answer =>
      exact ⟨_, resolved_ignores answers id answer h.scheduler fun op taken => by simp [slot] at taken⟩
  | requesterDied token =>
      exact ⟨_, died_unknown settings h path answers token fun op here => absurd here (unlived op)⟩
  | setHardware ready =>
      exact ⟨_, if_pos ((unavailable { h.scheduler with hardwareReady := ready } shut).trans
        (unavailable h.scheduler shut).symm)⟩
  | setIdle idle =>
      exact ⟨_, if_pos ((unavailable { h.scheduler with deviceIdle := idle } shut).trans
        (unavailable h.scheduler shut).symm)⟩
  | shutdown => exact ⟨_, if_pos shut⟩

theorem unavailable_dismisses (unavailable : h.scheduler.available = false) (sub : Submission)
    (formed : sub.request.validate h.scheduler.settings.maxPeers = .ok ()) (kind : FailureKind) (number : Nat)
    (numbered : kind.code.number = number) (same : FailureKind.dismissal (answers.permits sub.requester) = kind) :
    h.Dismisses answers sub kind number := by
  have stepped : h.scheduler.step answers (.submit sub) = h.scheduler.accept answers sub := by
    simp [Scheduler.step, Scheduler.submit, formed]
  have absent := fresh_unheld sub.token h (reached_sound h settings path)
  obtain ⟨effects, ended⟩ := Scheduler.accept_dismisses answers h.scheduler sub unavailable absent
  rw [← stepped, same] at effects ended
  refine ⟨numbered, effects, ended, fun later => ?_⟩
  have reached := History.run_reached settings later _ (.next answers (.submit sub) h path)
  have listed : (h.scheduler.operationOf answers sub, .failed kind) ∈ (h.next answers (.submit sub)).ended :=
    List.mem_append_right _ (ended ▸ List.mem_cons_self)
  have admitted : (h.scheduler.nextOperation, sub) ∈ (h.next answers (.submit sub)).admitted := by
    simp [History.next, Scheduler.admits, Scheduler.submit, formed]
  exact (reached_settled settings _ reached _ (History.run_ended later _ listed) _
    (History.run_admitted later _ admitted) rfl).told

theorem shut_closed (shut : h.scheduler.shutDown = true) : h.Closed := by
  have rested := reached_slotSettled settings h path
  have unavailable : h.scheduler.available = false := by simp [Scheduler.available, shut]
  have slot := rested.unavailable unavailable
  refine ⟨rested.idle slot, slot, unavailable, fun answers => shut_deaf settings h path answers shut, ?_, ?_⟩
  · intro answers sub formed denied
    exact unavailable_dismisses settings h path answers unavailable sub formed _ _ rfl (by rw [denied]; rfl)
  · intro answers sub formed granted
    exact unavailable_dismisses settings h path answers unavailable sub formed _ _ rfl (by rw [granted]; rfl)

end

theorem History.Closed.dismissals (h : History) (closed : h.Closed) (answers : Answers) (call : Call) :
    (h.scheduler.step answers call).Only Effect.isDismissal := by
  by_cases nobody : h.scheduler.admits answers call = []
  · intro effect said
    rw [(closed.deaf answers call nobody).1] at said
    cases said
  · cases call with
    | submit sub =>
        cases formed : sub.request.validate h.scheduler.settings.maxPeers with
        | error e => simp [Scheduler.admits, Scheduler.submit, formed] at nobody
        | ok _ =>
            refine List.all_eq_true.1 ?_
            cases granted : answers.permits sub.requester with
            | false =>
                rw [(closed.denied answers sub formed granted).effects]
                rfl
            | true =>
                rw [(closed.refused answers sub formed granted).effects]
                rfl
    | _ => exact absurd rfl nobody

theorem run_dismissals (settings : Settings) (calls : List (Answers × Call)) (h : History)
    (path : History.Reached settings h) (asked : .shutdown ∈ h.calls) :
    (∃ said, (h.run calls).effects = h.effects ++ said ∧ ∀ effect ∈ said, effect.isDismissal = true) ∧
    (h.run calls).scheduler.ledger = h.scheduler.ledger := by
  induction calls generalizing h with
  | nil => exact ⟨⟨[], (List.append_nil _).symm, nofun⟩, rfl⟩
  | cons entry rest ih =>
      obtain ⟨answers, call⟩ := entry
      have dismissals := (shut_closed settings h path (reached_closed settings h path asked)).dismissals h answers call
      have still : .shutdown ∈ (h.next answers call).calls := by simp [History.next_calls, asked]
      obtain ⟨⟨said, whole, quiet⟩, ledger⟩ := ih _ (.next answers call h path) still
      refine ⟨⟨(h.scheduler.step answers call).effects ++ said, ?_, ?_⟩, ?_⟩
      · rw [← List.append_assoc, ← History.next_effects]
        exact whole
      · intro effect told
        rcases List.mem_append.1 told with first | later
        · exact dismissals effect first
        · exact quiet effect later
      · have clerical : (h.scheduler.step answers call).effects.all Effect.isClerical = true := by
          refine List.all_eq_true.2 fun effect told => ?_
          have dismissal := dismissals effect told
          cases effect <;> first | rfl | cases dismissal
        exact ledger.trans (untaken_ledger settings h path answers call (clerical_untaken call _ clerical))

theorem reached_absorbing (settings : Settings) (h : History) (path : History.Reached settings h) (answers : Answers)
    (calls : List (Answers × Call)) : h.Absorbs answers calls := by
  have next := History.Reached.next answers .shutdown h path
  have asked : .shutdown ∈ (h.next answers .shutdown).calls := by simp [History.next_calls]
  obtain ⟨said, ledger⟩ := run_dismissals settings calls _ next asked
  have shut : ((h.next answers .shutdown).run calls).scheduler.shutDown = true := by
    refine reached_closed settings _ (History.run_reached settings calls _ next) ?_
    rw [History.run_calls]
    exact List.mem_append_left _ asked
  exact ⟨shut_closed settings _ (History.run_reached settings calls _ next) shut, said,
    ledger.trans (Scheduler.shutdown_ledger h.scheduler)⟩

-- The hardware becomes ready again, and reports what it was working on as the scheduler was shut down.
def Call.afterwards : List (Answers × Call) := List.map (Prod.mk Answers.sample)
  [.setHardware false, .setHardware true, .measured ⟨4⟩ [], .submit (.sample 7 (.sample 7))]

theorem sample_absorbing : History.Reached .standard History.sample ∧
    History.sample.scheduler.live.map Operation.id = [⟨6⟩, ⟨4⟩] ∧
    ((History.sample.next Answers.sample .shutdown).run Call.afterwards).repliesTo ⟨7⟩ =
      [.failure ⟨7⟩ ⟨7⟩ .unavailable] ∧ History.sample.Absorbs Answers.sample Call.afterwards :=
  ⟨sample_reached, by decide, by decide,
    reached_absorbing .standard History.sample sample_reached Answers.sample Call.afterwards⟩

end Ranging

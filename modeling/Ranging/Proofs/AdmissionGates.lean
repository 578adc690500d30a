import Ranging.Proofs.Registrations
import Ranging.Proofs.LedgerStamps
import Ranging.Proofs.Audit
import Mathlib.Logic.ExistsUnique

-- Four gates stand between a submission and the queue. Each is reached through those before it only, and whoever is
-- turned away at one of them leaves nothing behind but a name that is taken, two counts and one reply.
namespace Ranging

-- How a submission fares at the gates: it is turned away at one of them, or it passes all four.
inductive Scheduler.Decides (answers : Answers) (sub : Submission) (s : Scheduler) : Option FailureKind → Prop
  | denied : answers.permits sub.requester = false → s.Decides answers sub (some .permissionDenied)
  | unavailable : answers.permits sub.requester = true → s.available = false →
      s.Decides answers sub (some .resourceUnavailable)
  | crowded : answers.permits sub.requester = true → s.available = true →
      (∀ uid ∈ sub.payers, s.settings.maxQueued ≤ s.liveBilledTo uid) → s.Decides answers sub (some .queueFull)
  | throttled (payer : Uid) : answers.permits sub.requester = true → s.available = true →
      payer ∈ sub.payers → s.liveBilledTo payer < s.settings.maxQueued →
      answers.foreground sub.requester.uid = false →
      (∀ uid ∈ sub.payers, ∃ stamp, s.ledger.last? uid = some stamp ∧
        answers.admissionClock ≤ stamp + s.settings.backgroundGap) → s.Decides answers sub (some .throttled)
  | foreground (payer : Uid) : answers.permits sub.requester = true → s.available = true →
      payer ∈ sub.payers → s.liveBilledTo payer < s.settings.maxQueued →
      answers.foreground sub.requester.uid = true → s.Decides answers sub none
  | rested (payer uid : Uid) : answers.permits sub.requester = true → s.available = true →
      payer ∈ sub.payers → s.liveBilledTo payer < s.settings.maxQueued → uid ∈ sub.payers →
      (∀ stamp, s.ledger.last? uid = some stamp → stamp + s.settings.backgroundGap < answers.admissionClock) →
      s.Decides answers sub none

-- What has been asked by then. How important a requester is does not matter before the last gate.
def Submission.asked (answers : Answers) (sub : Submission) : Option FailureKind → List Effect
  | none => [.permission sub.requester true, .importance sub.requester.uid (answers.foreground sub.requester.uid)]
  | some .permissionDenied => [.permission sub.requester false]
  | some .throttled => [.permission sub.requester true, .importance sub.requester.uid false]
  | some _ => [.permission sub.requester true]

namespace Scheduler

def refusal (answers : Answers) (sub : Submission) (kind : FailureKind) (s : Scheduler) : Turn :=
  ⟨{ s with
      nextOperation := s.nextOperation.next
      counters := { s.counters with submitted := s.counters.submitted + 1 }.countFailure kind },
    .clock answers.admissionClock :: sub.asked answers (some kind) ++ [.failure s.nextOperation sub.replyTo kind.code],
    [(s.operationOf answers sub, .failed kind)]⟩

def admission (answers : Answers) (sub : Submission) (s : Scheduler) : Turn :=
  .did
    { s with
      nextOperation := s.nextOperation.next
      counters := { s.counters with submitted := s.counters.submitted + 1 }
      registry := (s.registry.attach sub.token s.nextOperation).2
      queue := s.queue ++ [s.operationOf answers sub] }
    (.clock answers.admissionClock :: sub.asked answers none ++
      if s.registry.isTracked sub.token then [] else [.register sub.token])

end Scheduler

structure History.Gated (settings : Settings) (answers : Answers) (sub : Submission) (h : History) : Prop where
  empty : sub.request.peers = [] → h.scheduler.submit answers sub = .error .emptyRequest
  large : settings.maxPeers < sub.request.size →
    h.scheduler.submit answers sub = .error (.tooManyPeers sub.request.size settings.maxPeers)
  -- a call that is an error has been heard, and that is all
  malformed : ∀ e, h.scheduler.submit answers sub = .error e →
    (sub.request.peers = [] ∨ settings.maxPeers < sub.request.size) ∧
      h.next answers (.submit sub) = h.hear (.submit sub)
  decided : ∃! verdict, h.scheduler.Decides answers sub verdict
  refused : sub.request.peers ≠ [] → sub.request.size ≤ settings.maxPeers → ∀ kind,
    h.scheduler.Decides answers sub (some kind) →
    h.scheduler.submit answers sub = .ok (h.scheduler.nextOperation, h.scheduler.refusal answers sub kind)
  admitted : sub.request.peers ≠ [] → sub.request.size ≤ settings.maxPeers →
    h.scheduler.Decides answers sub none → h.scheduler.submit answers sub =
      .ok (h.scheduler.nextOperation, (h.scheduler.admission answers sub).andThen (Scheduler.fill answers))

namespace Scheduler
variable (answers : Answers) (sub : Submission) (s : Scheduler)

theorem isFull_iff (a : Attribution) : s.isFull a = true ↔ ∀ uid ∈ a, s.settings.maxQueued ≤ s.liveBilledTo uid := by
  simp [isFull, Attribution.mem_def]

theorem isFull_false (a : Attribution) (payer : Uid) (billed : payer ∈ a)
    (room : s.liveBilledTo payer < s.settings.maxQueued) : s.isFull a = false := by
  refine Bool.eq_false_iff.2 fun full => ?_
  exact Nat.not_le_of_gt room ((s.isFull_iff a).1 full payer billed)

theorem decides_verdict (gap : s.ledger.gap = s.settings.backgroundGap) (kind : Option FailureKind)
    (decides : s.Decides answers sub kind) :
    s.counted.verdict answers (s.operationOf answers sub) = (kind, sub.asked answers kind) := by
  have requester : (s.operationOf answers sub).requester = sub.requester := rfl
  have payers : (s.operationOf answers sub).attribution = sub.payers := rfl
  have clock : (s.operationOf answers sub).submittedAt = answers.admissionClock := rfl
  have ready : s.counted.available = s.available := rfl
  have ledger : s.counted.ledger = s.ledger := rfl
  unfold verdict
  rw [requester, payers, clock, ready, ledger]
  cases decides with
  | denied denied => simp [denied, Submission.asked]
  | unavailable granted unavailable => simp [granted, unavailable, Submission.asked]
  | crowded granted available full =>
      have full : s.counted.isFull sub.payers = true := (isFull_iff _ _).2 full
      simp [granted, available, full, Submission.asked]
  | throttled payer granted available billed room background early =>
      have room : s.counted.isFull sub.payers = false := isFull_false _ _ payer billed room
      have held : s.ledger.allows sub.payers false answers.admissionClock = false :=
        (s.ledger.allows_eq_false_iff _ _ _).2 ⟨rfl, gap ▸ early⟩
      simp [granted, available, room, background, held, Submission.asked]
  | foreground payer granted available billed room foreground =>
      have room : s.counted.isFull sub.payers = false := isFull_false _ _ payer billed room
      simp [granted, available, room, foreground, Ledger.allows, Submission.asked]
  | rested payer uid granted available billed room listed late =>
      have room : s.counted.isFull sub.payers = false := isFull_false _ _ payer billed room
      have rested :
          s.ledger.allows sub.payers (answers.foreground sub.requester.uid) answers.admissionClock = true := by
        refine Bool.of_not_eq_false fun held => ?_
        obtain ⟨stamp, found, early⟩ := ((s.ledger.allows_eq_false_iff _ _ _).1 held).2 uid listed
        exact Nat.not_le_of_gt (late stamp found) (gap ▸ early)
      simp [granted, available, room, rested, Submission.asked]

theorem decides_some (gap : s.ledger.gap = s.settings.backgroundGap) : ∃ kind, s.Decides answers sub kind := by
  cases granted : answers.permits sub.requester with
  | false => exact ⟨_, .denied granted⟩
  | true =>
  cases available : s.available with
  | false => exact ⟨_, .unavailable granted available⟩
  | true =>
  cases full : s.isFull sub.payers with
  | true => exact ⟨_, .crowded granted available ((s.isFull_iff _).1 full)⟩
  | false =>
  obtain ⟨payer, billed, room⟩ := s.not_isFull sub.payers full
  cases foreground : answers.foreground sub.requester.uid with
  | true => exact ⟨_, .foreground payer granted available billed room foreground⟩
  | false =>
  cases allowed : s.ledger.allows sub.payers false answers.admissionClock with
  | false =>
      have early := ((s.ledger.allows_eq_false_iff _ _ _).1 allowed).2
      exact ⟨_, .throttled payer granted available billed room foreground (gap ▸ early)⟩
  | true =>
      obtain ⟨uid, listed, late⟩ := s.ledger.allows_rested _ _ allowed
      exact ⟨_, .rested payer uid granted available billed room listed (gap ▸ late)⟩

-- The name is new to the registry, so the end of its operation is no end of anybody's watch.
theorem accept_refusal (gap : s.ledger.gap = s.settings.backgroundGap)
    (absent : ¬ s.registry.Holds sub.token s.nextOperation) (kind : FailureKind)
    (decides : s.Decides answers sub (some kind)) : s.accept answers sub = s.refusal answers sub kind := by
  have verdict := s.decides_verdict answers sub gap _ decides
  have unheld : s.registry.detach sub.token s.nextOperation = (false, s.registry) :=
    Registry.detach_absent _ _ _ absent
  rw [accept_refused answers sub s kind (congrArg Prod.fst verdict), interview, verdict]
  simp [retire, counted, operationOf, Operation.new, unheld, reply, refusal, Turn.andThen, Turn.did,
    Counters.countOutcome]

theorem accept_admission (gap : s.ledger.gap = s.settings.backgroundGap) (tidy : s.registry.Tidy)
    (decides : s.Decides answers sub none) :
    s.accept answers sub = (s.admission answers sub).andThen (fill answers) := by
  have verdict := s.decides_verdict answers sub gap _ decides
  have first := s.registry.attach_first sub.token s.nextOperation tidy
  rw [accept_joined answers sub s (congrArg Prod.fst verdict), interview, verdict]
  congr 1
  cases known : s.registry.isTracked sub.token <;>
    simp [enqueue, counted, operationOf, Operation.new, admission, Turn.andThen, Turn.did, first, known]

end Scheduler

theorem submission_gated (settings : Settings) (h : History) (path : History.Reached settings h) (answers : Answers)
    (sub : Submission) : h.Gated settings answers sub := by
  have settled : h.scheduler.settings = settings := (reached_conserved settings h path).settled
  have gap : h.scheduler.ledger.gap = h.scheduler.settings.backgroundGap :=
    (reached_stamped settings h path).gap.trans (congrArg Settings.backgroundGap settled.symm)
  have sound := reached_sound h settings path
  have absent := fresh_unheld sub.token h sound
  have formed : sub.request.peers ≠ [] → sub.request.size ≤ settings.maxPeers →
      h.scheduler.submit answers sub = .ok (h.scheduler.nextOperation, h.scheduler.accept answers sub) := by
    intro inhabited small
    have valid : sub.request.validate h.scheduler.settings.maxPeers = .ok () :=
      (sub.request.validate_ok_iff _).2 ⟨inhabited, settled ▸ small⟩
    simp [Scheduler.submit, valid]
  refine ⟨?_, ?_, ?_, ?_, ?_, ?_⟩
  · intro none
    simp [Scheduler.submit, Request.validate, none]
  · intro large
    have inhabited : sub.request.peers ≠ [] := by
      intro none
      simp [Request.size, none] at large
    simp [Scheduler.submit, Request.validate, inhabited, settled, large]
  · intro e refused
    constructor
    · by_cases none : sub.request.peers = []
      · exact .inl none
      · refine .inr (Nat.lt_of_not_le fun small => ?_)
        rw [formed none small] at refused
        cases refused
    · have unnamed : h.scheduler.admits answers (.submit sub) = [] := by simp [Scheduler.admits, refused]
      have still : h.scheduler.step answers (.submit sub) = h.scheduler.still := by simp [Scheduler.step, refused]
      rw [History.next, unnamed, still, List.append_nil]
      exact (h.hear (.submit sub)).work_still
  · obtain ⟨verdict, decides⟩ := h.scheduler.decides_some answers sub gap
    refine ⟨verdict, decides, fun other decided => ?_⟩
    have one := h.scheduler.decides_verdict answers sub gap _ decides
    exact congrArg Prod.fst ((h.scheduler.decides_verdict answers sub gap _ decided).symm.trans one)
  · intro inhabited small kind decides
    rw [formed inhabited small, h.scheduler.accept_refusal answers sub gap absent kind decides]
  · intro inhabited small decides
    rw [formed inhabited small, h.scheduler.accept_admission answers sub gap sound.tracked.tidy decides]

-- The fourth requester is served already. A second submission for the sake of its life is turned away, and its life
-- stays watched.
theorem sample_turned_away :
    History.Reached .standard History.sample ∧
    History.sample.scheduler.registry.isTracked ⟨4⟩ = true ∧
    History.sample.scheduler.Decides { Answers.sample with permits := fun _ => false } (.sample 4 (.sample 9))
      (some .permissionDenied) ∧
    History.sample.Gated .standard { Answers.sample with permits := fun _ => false } (.sample 4 (.sample 9)) :=
  ⟨sample_reached, by decide, .denied rfl,
    submission_gated .standard History.sample sample_reached _ (.sample 4 (.sample 9))⟩

end Ranging

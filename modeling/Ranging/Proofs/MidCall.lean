import Ranging.Scheduler.History

-- What a scheduler does in the middle of a call, one move at a time. An operation that has been taken out of the queue
-- or the slot is kept aside until it is put back or retired. Every call is a sequence of moves.
namespace Ranging

-- The operation as it was submitted, without the marks of its way through the scheduler.
def Operation.file (op : Operation) : Operation :=
  { op with translation := none, correlation := none, state := .queued }

def Operation.Untouched (op : Operation) : Prop :=
  op.state = .queued ∧ op.correlation = none ∧ op.translation = none

def Operation.handedOver (op : Operation) (cid : CorrelationId) : Operation :=
  { op with correlation := some cid, state := .dispatched }

namespace Scheduler

def counted (s : Scheduler) : Scheduler :=
  { s with
    nextOperation := s.nextOperation.next
    counters := { s.counters with submitted := s.counters.submitted + 1 } }

def interview (answers : Answers) (sub : Submission) (s : Scheduler) : Turn :=
  let op := s.operationOf answers sub
  .did s.counted (.clock op.submittedAt :: (s.counted.verdict answers op).2)

def proclaim (before : Bool) (s : Scheduler) : Turn :=
  .did s (if s.available = before then [] else [.announce (.ofBool s.available)])

def engaged (op : Operation) (now : Time) (s : Scheduler) : Turn :=
  let cid := s.nextCorrelation
  let due := now.after s.settings.hardwareTimeout
  .did
    { s with
      nextCorrelation := cid.next
      ledger := s.ledger.record op.attribution now
      counters := { s.counters with dispatched := s.counters.dispatched + 1 }
      slot := .dispatched (op.handedOver cid)
      deadline := .armed cid due }
    [.submit op.id cid op.hardwarePeers true, .clock now, .arm due cid]

def rebuffed (op : Operation) (s : Scheduler) : Turn :=
  .did { s with nextCorrelation := s.nextCorrelation.next }
    [.submit op.id s.nextCorrelation op.hardwarePeers false]

-- Calls that by themselves change nothing. What a withdrawal or a death leads to comes in
-- moves of its own.
def Plain (s : Scheduler) : Call → Prop
  | .submit sub => ∃ e, sub.request.validate s.settings.maxPeers = .error e
  | .cancel _ => True
  | .measured _ _ => False
  | .wake cid => s.deadline.armedFor? ≠ some cid
  | .resolved id _ => ∀ op, s.slot = .resolving op → op.id ≠ id
  | .requesterDied _ => True
  | .setHardware _ => False
  | .setIdle _ => False
  | .shutdown => s.shutDown = true

theorem interview_aside (answers : Answers) (sub : Submission) (s : Scheduler) :
    (s.interview answers sub).effects.all Effect.isAside = true :=
  verdict_aside answers (s.operationOf answers sub) s.counted

theorem interview_clerical (answers : Answers) (sub : Submission) (s : Scheduler) :
    (s.interview answers sub).effects.all Effect.isClerical = true := by
  rcases verdict_asks answers (s.operationOf answers sub) s.counted with asked | asked
  all_goals simp [interview, asked, Effect.isClerical]

theorem refuse_clerical (answers : Answers) (sub : Submission) (kind : FailureKind) (s : Scheduler) :
    ((s.interview answers sub).andThen (retire (s.operationOf answers sub) (.failed kind))).effects.all
      Effect.isClerical = true := by
  rw [Turn.andThen_effects, List.all_append, interview_clerical, retire_clerical]
  rfl

theorem join_clerical (answers : Answers) (sub : Submission) (s : Scheduler) :
    ((s.interview answers sub).andThen (enqueue (s.operationOf answers sub))).effects.all
      Effect.isClerical = true := by
  rw [Turn.andThen_effects, List.all_append, interview_clerical, enqueue_clerical]
  rfl

theorem proclaim_clerical (before : Bool) (s : Scheduler) :
    (s.proclaim before).effects.all Effect.isClerical = true := by
  unfold proclaim
  split
  · rfl
  · rfl

theorem proclaim_aside (before : Bool) (s : Scheduler) : (s.proclaim before).effects.all Effect.isAside = true := by
  unfold proclaim
  split
  · rfl
  · rfl

end Scheduler

structure MidCall extends History where
  -- out of the queue or provided with its addresses, and about to be handed to the hardware
  poised : Option Operation
  -- taken out for good, to be retired one after the other
  leaving : List Operation
  -- all that depended on this life was forgotten at once, before the operations themselves go
  buried : Option LivenessToken

namespace MidCall

def clear (h : History) : MidCall := ⟨h, none, [], none⟩

def hear (call : Call) (d : MidCall) : MidCall := { d with toHistory := d.toHistory.hear call }

def work (turn : Turn) (d : MidCall) : MidCall := { d with toHistory := d.toHistory.work turn }

section
variable (d : MidCall) (turn : Turn) (call : Call) (sub : Submission)

@[simp] theorem work_scheduler : (d.work turn).scheduler = turn.scheduler := rfl
@[simp] theorem work_log : (d.work turn).log = d.log ++ turn.effects.map .did := rfl
@[simp] theorem work_effects : (d.work turn).effects = d.effects ++ turn.effects := History.effects_work _ _
@[simp] theorem work_admitted : (d.work turn).admitted = d.admitted := rfl
@[simp] theorem work_ended : (d.work turn).ended = d.ended ++ turn.ended := rfl
@[simp] theorem work_poised : (d.work turn).poised = d.poised := rfl
@[simp] theorem work_leaving : (d.work turn).leaving = d.leaving := rfl
@[simp] theorem work_buried : (d.work turn).buried = d.buried := rfl
@[simp] theorem hear_scheduler : (d.hear call).scheduler = d.scheduler := rfl
@[simp] theorem hear_log : (d.hear call).log = d.log ++ [.heard call] := rfl
@[simp] theorem hear_effects : (d.hear call).effects = d.effects := History.effects_hear _ _
@[simp] theorem hear_admitted : (d.hear call).admitted = d.admitted := rfl
@[simp] theorem hear_ended : (d.hear call).ended = d.ended := rfl
@[simp] theorem hear_poised : (d.hear call).poised = d.poised := rfl
@[simp] theorem hear_leaving : (d.hear call).leaving = d.leaving := rfl
@[simp] theorem hear_buried : (d.hear call).buried = d.buried := rfl

theorem heard_log : ((d.hear call).work turn).log = d.log ++ .heard call :: turn.effects.map .did := by simp

theorem heard_effects : ((d.hear call).work turn).effects = d.effects ++ turn.effects := by simp

end

def standing (d : MidCall) : List Operation :=
  d.scheduler.slot.operation?.toList ++ d.poised.toList ++ d.scheduler.queue

def present (d : MidCall) : List Operation := d.leaving ++ d.standing

end MidCall

inductive Move : MidCall → MidCall → Prop where
  | hear (d : MidCall) (call : Call) : d.scheduler.Plain call → Move d (d.hear call)
  | discard (d : MidCall) (cid : CorrelationId) (report : List Reading) :
      (∀ op, d.scheduler.slot = .dispatched op → op.correlation ≠ some cid) →
      Move d ((d.hear (.measured cid report)).work d.scheduler.discard)
  | report (d : MidCall) (cid : CorrelationId) (report : List Reading) (op : Operation) (due : Time) (granted : Bool) :
      d.leaving = [] → d.scheduler.slot = .dispatched op → op.correlation = some cid →
      d.scheduler.deadline = .armed cid due →
      Move d { (d.hear (.measured cid report)).work
        (.did { d.scheduler with slot := .idle, deadline := .unarmed }
          [.disarm cid, .permission op.requester granted]) with leaving := [op] }
  | expire (d : MidCall) (cid : CorrelationId) (op : Operation) (due : Time) :
      d.leaving = [] → d.scheduler.slot = .dispatched op → op.correlation = some cid →
      d.scheduler.deadline = .armed cid due →
      Move d { (d.hear (.wake cid)).work
        (.did { d.scheduler with slot := .idle, deadline := .unarmed } [.cancel cid op.hardwarePeers])
        with leaving := [op] }
  | translate (d : MidCall) (answer : AddressBook) (op : Operation) :
      d.poised = none → d.scheduler.slot = .resolving op →
      Move d { (d.hear (.resolved op.id answer)).work (.did { d.scheduler with slot := .idle } []) with
        poised := some { op with translation := some (.ofAnswer op.request answer) } }
  | refuse (d : MidCall) (answers : Answers) (sub : Submission) (kind : FailureKind) :
      sub.request.validate d.scheduler.settings.maxPeers = .ok () →
      (d.scheduler.counted.verdict answers (d.scheduler.operationOf answers sub)).1 = some kind →
      Move d { (d.hear (.submit sub)).work ((d.scheduler.interview answers sub).andThen
          (Scheduler.retire (d.scheduler.operationOf answers sub) (.failed kind))) with
        admitted := d.admitted ++ [(d.scheduler.nextOperation, sub)] }
  | join (d : MidCall) (answers : Answers) (sub : Submission) :
      sub.request.validate d.scheduler.settings.maxPeers = .ok () →
      (d.scheduler.counted.verdict answers (d.scheduler.operationOf answers sub)).1 = none →
      d.buried = none →
      Move d { (d.hear (.submit sub)).work ((d.scheduler.interview answers sub).andThen
          (Scheduler.enqueue (d.scheduler.operationOf answers sub))) with
        admitted := d.admitted ++ [(d.scheduler.nextOperation, sub)] }
  | hardware (d : MidCall) (ready : Bool) :
      Move d ((d.hear (.setHardware ready)).work
        ({ d.scheduler with hardwareReady := ready }.proclaim d.scheduler.available))
  | idleness (d : MidCall) (idle : Bool) :
      Move d ((d.hear (.setIdle idle)).work
        ({ d.scheduler with deviceIdle := idle }.proclaim d.scheduler.available))
  | close (d : MidCall) : d.scheduler.shutDown = false →
      Move d ((d.hear .shutdown).work (.did { d.scheduler with shutDown := true } []))
  | bury (d : MidCall) (token : LivenessToken) (ids : List OperationId) (registry : Registry) :
      d.buried = none → d.scheduler.registry.purge? token = some (ids, registry) →
      Move d { d.work (.did { d.scheduler with registry := registry } [.unregister token]) with
        buried := some token }
  | forget (d : MidCall) (token : LivenessToken) : d.buried = some token →
      (∀ op ∈ d.present, op.token ≠ token) → Move d { d with buried := none }
  | pull (d : MidCall) (chosen : Operation → Bool) : d.leaving = [] →
      Move d { d.work (.did { d.scheduler with queue := d.scheduler.queue.filter fun op => !chosen op } [])
        with leaving := d.scheduler.queue.filter chosen }
  | release (d : MidCall) (op : Operation) : d.leaving = [] → d.scheduler.slot = .resolving op →
      Move d { d.work (.did { d.scheduler with slot := .idle } []) with leaving := [op] }
  | revoke (d : MidCall) (cid : CorrelationId) (op : Operation) (due : Time) :
      d.leaving = [] → d.scheduler.slot = .dispatched op → op.correlation = some cid →
      d.scheduler.deadline = .armed cid due →
      Move d { d.work (.did { d.scheduler with slot := .idle, deadline := .unarmed }
        [.disarm cid, .cancel cid op.hardwarePeers]) with leaving := [op] }
  | retire (d : MidCall) (op : Operation) (rest : List Operation) (outcome : Outcome) :
      d.leaving = op :: rest →
      Move d { d.work (d.scheduler.retire op outcome) with leaving := rest }
  | take (d : MidCall) (op : Operation) (rest : List Operation) :
      d.poised = none → d.scheduler.slot = .idle → d.scheduler.available = true →
      d.scheduler.queue = op :: rest →
      Move d { d.work (.did { d.scheduler with queue := rest } []) with poised := some op }
  | park (d : MidCall) (op : Operation) :
      d.poised = some op → d.scheduler.slot = .idle → op.needsTranslation = true →
      Move d { d.work (.did { d.scheduler with slot := .resolving op }
        [.resolve op.requester.uid op.request.handles op.id]) with poised := none }
  | bare (d : MidCall) (op : Operation) :
      d.leaving = [] → d.poised = some op → d.scheduler.slot = .idle → op.needsTranslation = false →
      op.hardwarePeers = [] → Move d { d with poised := none, leaving := [op] }
  | reject (d : MidCall) (op : Operation) :
      d.leaving = [] → d.poised = some op → d.scheduler.slot = .idle → op.needsTranslation = false →
      op.hardwarePeers ≠ [] →
      Move d { d.work (d.scheduler.rebuffed op) with
        poised := none, leaving := [op.handedOver d.scheduler.nextCorrelation] }
  | engage (d : MidCall) (op : Operation) (now : Time) :
      d.poised = some op → d.scheduler.slot = .idle → d.scheduler.deadline = .unarmed →
      op.needsTranslation = false → op.hardwarePeers ≠ [] →
      Move d { d.work (d.scheduler.engaged op now) with poised := none }

inductive Moves : MidCall → MidCall → Prop where
  | none (d : MidCall) : Moves d d
  | step (d e f : MidCall) : Moves d e → Move e f → Moves d f

namespace Moves
variable {d e f : MidCall}

theorem trans (first : Moves d e) (second : Moves e f) : Moves d f := by
  induction second with
  | none => exact first
  | step middle last _ move ih => exact .step _ _ _ ih move

theorem one (move : Move d e) : Moves d e := .step _ _ _ (.none d) move

theorem kept (law : MidCall → Prop) (keeps : ∀ d e, law d → Move d e → law e)
    (path : Moves d e) (holds : law d) : law e := by
  induction path with
  | none => exact holds
  | step middle last _ move ih => exact keeps _ _ ih move

end Moves
end Ranging

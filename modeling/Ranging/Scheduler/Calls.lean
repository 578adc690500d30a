import Ranging.Scheduler.Admission

-- The calls that a scheduler understands beside a submission.
namespace Ranging
namespace Scheduler

-- A report counts only for the operation that the hardware works on. The permission is asked
-- again, because it may have been taken away since the submission.
def complete (answers : Answers) (op : Operation) (report : List Reading) (s : Scheduler) : Turn :=
  let granted := answers.permits op.requester
  ({ s with slot := .idle }).disarm.andThen fun s =>
    (Turn.did s [.permission op.requester granted]).andThen fun s =>
      (s.retire op (if granted then .delivered (correlate op.request op.translation report)
        else .failed .permissionDenied)).andThen (fill answers)

def discard (s : Scheduler) : Turn :=
  ({ s with counters := { s.counters with staleResults := s.counters.staleResults + 1 } }).still

def measured (answers : Answers) (cid : CorrelationId) (report : List Reading) (s : Scheduler) : Turn :=
  match s.slot with
  | .dispatched op => if op.correlation = some cid then s.complete answers op report else s.discard
  | _ => s.discard

-- A wakeup that is not the armed one changes nothing. The armed one is spent, so it needs no disarming.
def wake (answers : Answers) (cid : CorrelationId) (s : Scheduler) : Turn :=
  match s.deadline.fire? cid with
  | none => s.still
  | some deadline =>
      let s := { s with deadline := deadline }
      match s.slot with
      | .dispatched _ => (s.retireActive (.failed .timeout)).andThen (fill answers)
      | _ => s.still

-- An answer counts only while its operation waits for one, and only for the handles it names.
def resolved (answers : Answers) (id : OperationId) (answer : AddressBook) (s : Scheduler) : Turn :=
  match s.slot with
  | .resolving op =>
      if op.id = id then
        let op := { op with translation := some (.ofAnswer op.request answer) }
        (({ s with slot := .idle }).dispatch answers op).andThen (fill answers)
      else s.still
  | _ => s.still

-- Drops operations without a reply, those in the queue first. The queue moves up only if the slot
-- was emptied.
def withdraw (answers : Answers) (chosen : Operation → Bool) (s : Scheduler) : Turn :=
  (retireAll (s.queue.filter chosen) .withdrawn { s with queue := s.queue.filter fun op => !chosen op }).andThen
    fun s =>
      if s.slot.operation?.any chosen then (s.retireActive .withdrawn).andThen (fill answers) else s.still

-- Covers every operation that is billed to no uid outside the attribution.
def cancel (answers : Answers) (a : Attribution) (s : Scheduler) : Turn :=
  s.withdraw answers fun op => decide (op.attribution ⊆ a)

def requesterDied (answers : Answers) (token : LivenessToken) (s : Scheduler) : Turn :=
  match s.registry.purge? token with
  | none => s.still
  | some (_, registry) =>
      (Turn.did { s with registry := registry } [.unregister token]).andThen
        (withdraw answers fun op => op.token = token)

-- Only a change of what is available is announced. What is live when ranging becomes unavailable fails.
def reconsider (answers : Answers) (before : Bool) (s : Scheduler) : Turn :=
  if s.available = before then s.still
  else
    (Turn.did s [.announce (.ofBool s.available)]).andThen fun s =>
      if s.available then s.fill answers else s.failAll .resourceUnavailable

def setHardware (answers : Answers) (ready : Bool) (s : Scheduler) : Turn :=
  ({ s with hardwareReady := ready }).reconsider answers s.available

def setIdle (answers : Answers) (idle : Bool) (s : Scheduler) : Turn :=
  ({ s with deviceIdle := idle }).reconsider answers s.available

-- For good: what is submitted later fails as unavailable.
def shutdown (s : Scheduler) : Turn :=
  if s.shutDown then s.still else ({ s with shutDown := true }).failAll .resourceUnavailable

end Scheduler

inductive Call
  | submit (sub : Submission)
  | cancel (a : Attribution)
  | measured (cid : CorrelationId) (report : List Reading)
  | wake (cid : CorrelationId)
  | resolved (id : OperationId) (answer : AddressBook)
  | requesterDied (token : LivenessToken)
  | setHardware (ready : Bool)
  | setIdle (idle : Bool)
  | shutdown

-- A malformed submission is dropped.
def Scheduler.step (answers : Answers) (call : Call) (s : Scheduler) : Turn :=
  match call with
  | .submit sub => match s.submit answers sub with
    | .ok (_, turn) => turn
    | .error _ => s.still
  | .cancel a => s.cancel answers a
  | .measured cid report => s.measured answers cid report
  | .wake cid => s.wake answers cid
  | .resolved id answer => s.resolved answers id answer
  | .requesterDied token => s.requesterDied answers token
  | .setHardware ready => s.setHardware answers ready
  | .setIdle idle => s.setIdle answers idle
  | .shutdown => s.shutdown

namespace Scheduler
variable (answers : Answers) (s : Scheduler)

theorem measured_available (cid : CorrelationId) (report : List Reading) :
    (s.measured answers cid report).scheduler.available = s.available := by
  unfold measured
  split
  · split
    · refine (fill_available answers _).trans ?_
      exact disarm_available _
    · rfl
  · rfl

theorem wake_available (cid : CorrelationId) : (s.wake answers cid).scheduler.available = s.available := by
  unfold wake
  split
  · rfl
  · dsimp only
    split
    · refine (fill_available answers _).trans ?_
      exact retireActive_available _ _
    · rfl

theorem resolved_available (id : OperationId) (answer : AddressBook) :
    (s.resolved answers id answer).scheduler.available = s.available := by
  unfold resolved
  split
  · split
    · refine (fill_available answers _).trans ?_
      exact dispatch_available _ _ _
    · rfl
  · rfl

theorem withdraw_available (chosen : Operation → Bool) :
    (s.withdraw answers chosen).scheduler.available = s.available := by
  have spared := retireAll_available (s.queue.filter chosen) .withdrawn
    { s with queue := s.queue.filter fun op => !chosen op }
  unfold withdraw
  rw [Turn.andThen_scheduler]
  split
  · refine (fill_available answers _).trans ?_
    exact (retireActive_available _ _).trans spared
  · exact spared

theorem requesterDied_available (token : LivenessToken) :
    (s.requesterDied answers token).scheduler.available = s.available := by
  unfold requesterDied
  split
  · rfl
  · exact withdraw_available answers _ _

theorem reconsider_available (before : Bool) : (s.reconsider answers before).scheduler.available = s.available := by
  unfold reconsider
  split
  · rfl
  · rw [Turn.andThen_scheduler]
    split
    · exact fill_available answers s
    · exact failAll_available _ s

theorem shutdown_available : s.shutdown.scheduler.available = false := by
  unfold shutdown
  split
  · next closed => simp [still, available, closed]
  · exact (failAll_available _ _).trans rfl

theorem step_available (call : Call) : (s.step answers call).scheduler.available =
    match call with
    | .setHardware ready => { s with hardwareReady := ready }.available
    | .setIdle idle => { s with deviceIdle := idle }.available
    | .shutdown => false
    | _ => s.available := by
  cases call with
  | submit sub =>
      cases formed : sub.request.validate s.settings.maxPeers with
      | error e => simp [step, submit, formed, still]
      | ok _ => simpa [step, submit, formed] using accept_available answers sub s
  | cancel a => exact withdraw_available answers s _
  | measured cid report => exact measured_available answers s cid report
  | wake cid => exact wake_available answers s cid
  | resolved id answer => exact resolved_available answers s id answer
  | requesterDied token => exact requesterDied_available answers s token
  | setHardware ready => exact reconsider_available answers _ _
  | setIdle idle => exact reconsider_available answers _ _
  | shutdown => exact shutdown_available s

end Scheduler
end Ranging

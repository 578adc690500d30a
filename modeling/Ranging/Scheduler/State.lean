import Ranging.Audit
import Ranging.Effect
import Ranging.Outcome
import Ranging.Settings.Basic
import Ranging.Throttle

-- The scheduler between two calls: one hardware slot, and a queue for all who wait for it.
namespace Ranging

inductive Slot
  | idle
  -- waits for the addresses of its handles
  | resolving (op : Operation)
  -- handed over to the hardware
  | dispatched (op : Operation)
deriving DecidableEq

namespace Slot

def operation? : Slot → Option Operation
  | .idle => none
  | .resolving op => some op
  | .dispatched op => some op

def occupant? : Slot → Option (Operation × Phase)
  | .idle => none
  | .resolving op => some (op, .resolving)
  | .dispatched op => some (op, .dispatched)

def isIdle (s : Slot) : Bool := s.operation?.isNone

theorem isIdle_iff (s : Slot) : s.isIdle = true ↔ s = .idle := by
  cases s <;> simp [isIdle, operation?]

end Slot

structure Scheduler where
  settings : Settings
  queue : List Operation
  slot : Slot
  ledger : Ledger
  registry : Registry
  deadline : Deadline
  hardwareReady : Bool
  deviceIdle : Bool
  shutDown : Bool
  nextOperation : OperationId
  nextCorrelation : CorrelationId
  counters : Counters
deriving DecidableEq

-- What the surroundings answer during one call. A call reads the clock at most twice: when it
-- admits an operation, and when the hardware accepts one. All other questions carry arguments,
-- and no call asks the same one twice. The hardware is not told the operation; it stands there
-- because a call may hand over more operations than there are correlation ids.
structure Answers where
  permits : Requester → Bool
  foreground : Uid → Bool
  accepts : OperationId → CorrelationId → List MacAddress → Bool
  admissionClock : Time
  dispatchClock : Time

def Answers.at (a : Answers) (now : Time) : Answers := { a with admissionClock := now, dispatchClock := now }

structure Turn where
  scheduler : Scheduler
  effects : List Effect
  -- the operations that the work brought to an end, in order
  ended : List (Operation × Outcome)

namespace Turn

def did (s : Scheduler) (effects : List Effect) : Turn := ⟨s, effects, []⟩

def andThen (t : Turn) (next : Scheduler → Turn) : Turn :=
  ⟨(next t.scheduler).scheduler, t.effects ++ (next t.scheduler).effects,
   t.ended ++ (next t.scheduler).ended⟩

@[simp] theorem did_scheduler (s : Scheduler) (effects : List Effect) : (did s effects).scheduler = s := rfl

@[simp] theorem did_effects (s : Scheduler) (effects : List Effect) : (did s effects).effects = effects := rfl

@[simp] theorem did_ended (s : Scheduler) (effects : List Effect) : (did s effects).ended = [] := rfl

@[simp] theorem andThen_scheduler (t : Turn) (next : Scheduler → Turn) :
    (t.andThen next).scheduler = (next t.scheduler).scheduler := rfl

@[simp] theorem andThen_effects (t : Turn) (next : Scheduler → Turn) :
    (t.andThen next).effects = t.effects ++ (next t.scheduler).effects := rfl

@[simp] theorem andThen_ended (t : Turn) (next : Scheduler → Turn) :
    (t.andThen next).ended = t.ended ++ (next t.scheduler).ended := rfl

theorem andThen_assoc (t : Turn) (f g : Scheduler → Turn) :
    (t.andThen f).andThen g = t.andThen fun s => (f s).andThen g := by
  simp [andThen, List.append_assoc]

end Turn

namespace Scheduler

def still (s : Scheduler) : Turn := .did s []

def available (s : Scheduler) : Bool := !s.shutDown && s.hardwareReady && !s.deviceIdle

def live (s : Scheduler) : List Operation := s.queue ++ s.slot.operation?.toList

theorem slot_live (s : Scheduler) (op : Operation) (taken : s.slot.operation? = some op) : op ∈ s.live := by
  simp [live, taken]

def fresh (settings : Settings) (ready : Bool) : Scheduler where
  settings := settings
  queue := []
  slot := .idle
  ledger := .new settings.backgroundGap
  registry := .empty
  deadline := .unarmed
  hardwareReady := ready
  deviceIdle := false
  shutDown := false
  nextOperation := .first
  nextCorrelation := .first
  counters := .zero

-- The hardware is asked once whether it is ready; later it tells by itself.
def new (settings : Settings) (ready : Bool) : Except SettingsError Turn :=
  (settings.validate).map fun settings => .did (fresh settings ready) [.readiness ready]

structure Active where
  operation : OperationId
  uid : Uid
  attribution : Attribution
  phase : Phase
  correlation : Option CorrelationId
  peers : Nat
deriving DecidableEq

structure Status where
  available : Bool
  hardwareReady : Bool
  deviceIdle : Bool
  queued : Nat
  active : Option Active
  trackedRequesters : Nat
  throttleEntries : Nat
  armedDeadline : Option Time
  counters : Counters
deriving DecidableEq

def active? (s : Scheduler) : Option Active :=
  s.slot.occupant?.map fun (op, phase) =>
    ⟨op.id, op.requester.uid, op.attribution, phase, op.correlation, op.request.size⟩

def status (s : Scheduler) : Status where
  available := s.available
  hardwareReady := s.hardwareReady
  deviceIdle := s.deviceIdle
  queued := s.queue.length
  active := s.active?
  trackedRequesters := s.registry.tokenCount
  throttleEntries := s.ledger.size
  armedDeadline := s.deadline.due?
  counters := s.counters

def snapshot (s : Scheduler) : Snapshot := ⟨s.queue, s.slot.occupant?, s.registry, s.deadline⟩

end Scheduler
end Ranging

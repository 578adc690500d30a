import Ranging.Deadline
import Ranging.Liveness
import Ranging.Operation

-- Checks a snapshot of the scheduler against the rules that tie queue, slot, wakeup and
-- liveness together. It looks at plain operations, so it can also judge a broken snapshot.
namespace Ranging

inductive Phase
  | resolving
  | dispatched
deriving DecidableEq, Repr

inductive Violation
  | queuedOperationDispatched
  | timerMismatch
  | livenessUnbalanced
  | duplicateOperation
deriving DecidableEq, Repr

def Violation.message : Violation → String
  | .queuedOperationDispatched => "queued operation carries dispatch state"
  | .timerMismatch => "armed timer does not match the dispatched operation"
  | .livenessUnbalanced => "liveness registrations do not match live operations"
  | .duplicateOperation => "operation id appears more than once"

structure Snapshot where
  queue : List Operation
  active : Option (Operation × Phase)
  registry : Registry
  deadline : Deadline

namespace Snapshot

def live (s : Snapshot) : List Operation := s.queue ++ (s.active.map Prod.fst).toList

def queuedNotDispatched (s : Snapshot) : Bool :=
  s.queue.all fun op => op.state = .queued && op.correlation.isNone

def timerMatchesDispatch (s : Snapshot) : Bool :=
  match s.active with
  | some (op, .dispatched) =>
      op.state = .dispatched && op.correlation.isSome && s.deadline.armedFor? = op.correlation
  | some (op, .resolving) => op.correlation.isNone && !s.deadline.isArmed
  | none => !s.deadline.isArmed

def livenessBalanced (s : Snapshot) : Bool :=
  let tokens := (s.live.map Operation.token).eraseDups
  tokens.all s.registry.isTracked && tokens.length = s.registry.tokenCount

def distinctIds : List OperationId → Bool
  | [] => true
  | id :: rest => !rest.contains id && distinctIds rest

def uniqueOperations (s : Snapshot) : Bool := distinctIds (s.live.map Operation.id)

-- The first rule that is broken, in this order, is the one reported.
def check (s : Snapshot) : Except Violation Unit :=
  if !s.queuedNotDispatched then .error .queuedOperationDispatched
  else if !s.timerMatchesDispatch then .error .timerMismatch
  else if !s.livenessBalanced then .error .livenessUnbalanced
  else if !s.uniqueOperations then .error .duplicateOperation
  else .ok ()

end Snapshot
end Ranging

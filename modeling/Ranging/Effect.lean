import Ranging.Outcome
import Ranging.Identity

-- Everything that the scheduler does outside itself, with the answer where one is given. The
-- order of the effects of a call is the order in which its surroundings see them. An effect on
-- behalf of one operation names it, also where the surroundings are not told.
namespace Ranging

inductive Availability
  | enabled
  | disabled
deriving DecidableEq, Repr

def Availability.ofBool (available : Bool) : Availability := if available then .enabled else .disabled

def wakeupTag : String := "rtt-scheduler.ranging-timeout"

inductive Effect
  -- questions
  | readiness (ready : Bool)
  | permission (requester : Requester) (granted : Bool)
  | importance (uid : Uid) (foreground : Bool)
  | clock (now : Time)
  | submit (operation : OperationId) (cid : CorrelationId) (peers : List MacAddress) (accepted : Bool)
  -- orders, which are not answered
  | cancel (cid : CorrelationId) (peers : List MacAddress)
  | arm (due : Time) (cid : CorrelationId)
  | disarm (cid : CorrelationId)
  | register (token : LivenessToken)
  | unregister (token : LivenessToken)
  | resolve (uid : Uid) (handles : List PeerHandle) (operation : OperationId)
  | announce (state : Availability)
  -- replies to the submitter
  | results (operation : OperationId) (replyTo : ReplyTo) (measurements : List Measurement)
  | failure (operation : OperationId) (replyTo : ReplyTo) (code : FailureCode)
deriving DecidableEq, Repr

namespace Effect

def repliesTo? : Effect → Option OperationId
  | .results operation _ _ => some operation
  | .failure operation _ _ => some operation
  | _ => none

def isReply (e : Effect) : Bool := e.repliesTo?.isSome

def isResults : Effect → Bool
  | .results _ _ _ => true
  | _ => false

def isFailure : Effect → Bool
  | .failure _ _ _ => true
  | _ => false

def isFailureWith (number : Nat) : Effect → Bool
  | .failure _ _ code => code.number = number
  | _ => false

def isAccepted : Effect → Bool
  | .submit _ _ _ accepted => accepted
  | _ => false

def isAside : Effect → Bool
  | .submit _ _ _ _ => false
  | .cancel _ _ => false
  | .results _ _ _ => false
  | .failure _ _ _ => false
  | _ => true

-- Questions, notices and replies: no order to the hardware, and none about a wakeup or an address.
def isClerical : Effect → Bool
  | .submit _ _ _ _ => false
  | .cancel _ _ => false
  | .arm _ _ => false
  | .disarm _ => false
  | .resolve _ _ _ => false
  | _ => true

theorem aside_silent (e : Effect) (aside : e.isAside = true) : e.isReply = false ∧ e.isAccepted = false := by
  cases e <;> first | exact ⟨rfl, rfl⟩ | cases aside

end Effect
end Ranging

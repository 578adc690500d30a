import Ranging.Attribution
import Ranging.Correlation

-- One accepted submission on its way through the scheduler.
namespace Ranging

inductive OperationState
  | queued
  | dispatched
deriving DecidableEq, Repr

def OperationState.text : OperationState → String
  | .queued => "Queued"
  | .dispatched => "Dispatched"

structure Operation where
  id : OperationId
  requester : Requester
  attribution : Attribution
  request : Request
  token : LivenessToken
  replyTo : ReplyTo
  submittedAt : Time
  translation : Option Translation
  correlation : Option CorrelationId
  state : OperationState
deriving DecidableEq

namespace Operation

def new (id : OperationId) (requester : Requester) (attribution : Attribution) (request : Request)
    (token : LivenessToken) (replyTo : ReplyTo) (submittedAt : Time) : Operation :=
  ⟨id, requester, attribution, request, token, replyTo, submittedAt, none, none, .queued⟩

-- A resolver is asked once: what it left unresolved stays so.
def needsTranslation (op : Operation) : Bool := op.translation.isNone && op.request.hasHandles

def hardwarePeers (op : Operation) : List MacAddress := op.request.hardwarePeers op.translation

def correlationText (op : Operation) : String :=
  match op.correlation with
  | none => "None"
  | some cid => "Some(" ++ cid.detail ++ ")"

def detail (op : Operation) : String :=
  "RangingOperation \x7b id: " ++ op.id.detail ++ ", requester: " ++ op.requester.detail ++
    ", attribution: " ++ op.attribution.detail ++ ", peers: " ++ toString op.request.size ++
    ", liveness: " ++ op.token.detail ++ ", correlation_id: " ++ op.correlationText ++
    ", state: " ++ op.state.text ++ " \x7d"

end Operation
end Ranging

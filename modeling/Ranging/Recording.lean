import Ranging.Effect

-- What was asked of each part of the surroundings, picked out of a list of effects.
namespace Ranging

inductive Reply
  | results (measurements : List Measurement)
  | failure (code : FailureCode)
deriving DecidableEq, Repr

structure Recording where
  effects : List Effect

namespace Recording

def lookups (r : Recording) : List (Uid × List PeerHandle × OperationId) :=
  r.effects.filterMap fun | .resolve uid handles operation => some (uid, handles, operation) | _ => none

def lastLookup? (r : Recording) : Option OperationId := r.lookups.getLast?.map fun l => l.2.2

-- Rejected submissions are among them.
def submitted (r : Recording) : List (CorrelationId × List MacAddress) :=
  r.effects.filterMap fun | .submit _ cid peers _ => some (cid, peers) | _ => none

def lastSubmitted? (r : Recording) : Option (CorrelationId × List MacAddress) := r.submitted.getLast?

def cancelled (r : Recording) : List (CorrelationId × List MacAddress) :=
  r.effects.filterMap fun | .cancel cid peers => some (cid, peers) | _ => none

def armed (r : Recording) : List (Time × CorrelationId) :=
  r.effects.filterMap fun | .arm due cid => some (due, cid) | _ => none

def disarmed (r : Recording) : List CorrelationId :=
  r.effects.filterMap fun | .disarm cid => some cid | _ => none

def registered (r : Recording) : List LivenessToken :=
  r.effects.filterMap fun | .register token => some token | _ => none

def unregistered (r : Recording) : List LivenessToken :=
  r.effects.filterMap fun | .unregister token => some token | _ => none

def outstanding (r : Recording) : Nat := r.registered.length - r.unregistered.length

def announced (r : Recording) : List Availability :=
  r.effects.filterMap fun | .announce state => some state | _ => none

def repliesTo (r : Recording) (target : ReplyTo) : List Reply :=
  r.effects.filterMap fun
    | .results _ replyTo measurements => if replyTo = target then some (.results measurements) else none
    | .failure _ replyTo code => if replyTo = target then some (.failure code) else none
    | _ => none

def resultsTo? (r : Recording) (target : ReplyTo) : Option (List Measurement) :=
  (r.repliesTo target).findSome? fun | .results measurements => some measurements | .failure _ => none

def failureTo? (r : Recording) (target : ReplyTo) : Option FailureCode :=
  (r.repliesTo target).findSome? fun | .failure code => some code | .results _ => none

def withoutServices (r : Recording) : Recording :=
  ⟨r.effects.filter fun
    | .resolve .. => false
    | .arm .. => false
    | .disarm _ => false
    | .register _ => false
    | .unregister _ => false
    | .announce _ => false
    | _ => true⟩

end Recording
end Ranging

import Ranging.Measurement

-- How an operation can end, and the counts that are kept of it.
namespace Ranging

inductive FailureKind
  | permissionDenied
  | resourceUnavailable
  | throttled
  | queueFull
  | hardwareRejected
  | timeout
deriving DecidableEq, Repr

-- The coarser code that a requester gets to see.
inductive FailureCode
  | fail
  | unavailable
deriving DecidableEq, Repr

def FailureCode.number : FailureCode → Nat
  | .fail => 1
  | .unavailable => 2

namespace FailureKind

def code : FailureKind → FailureCode
  | .resourceUnavailable => .unavailable
  | _ => .fail

def message : FailureKind → String
  | .permissionDenied => "requester lacks ranging permission"
  | .resourceUnavailable => "ranging is not available"
  | .throttled => "background requester throttled"
  | .queueFull => "per-uid queue limit reached"
  | .hardwareRejected => "hardware rejected the dispatch"
  | .timeout => "hardware did not answer before the deadline"

end FailureKind

-- A withdrawn operation ends without a word to its requester.
inductive Outcome
  | delivered (results : List Measurement)
  | failed (kind : FailureKind)
  | withdrawn
deriving DecidableEq, Repr

namespace Outcome

def isDelivered : Outcome → Bool
  | .delivered _ => true
  | _ => false

def isFailed : Outcome → Bool
  | .failed _ => true
  | _ => false

end Outcome

structure Counters where
  submitted : Nat
  dispatched : Nat
  delivered : Nat
  withdrawn : Nat
  failedPermission : Nat
  failedUnavailable : Nat
  failedThrottled : Nat
  failedQueueFull : Nat
  failedHardware : Nat
  failedTimeout : Nat
  staleResults : Nat
deriving DecidableEq, Repr

namespace Counters

def zero : Counters := ⟨0, 0, 0, 0, 0, 0, 0, 0, 0, 0, 0⟩

def countFailure (c : Counters) : FailureKind → Counters
  | .permissionDenied => { c with failedPermission := c.failedPermission + 1 }
  | .resourceUnavailable => { c with failedUnavailable := c.failedUnavailable + 1 }
  | .throttled => { c with failedThrottled := c.failedThrottled + 1 }
  | .queueFull => { c with failedQueueFull := c.failedQueueFull + 1 }
  | .hardwareRejected => { c with failedHardware := c.failedHardware + 1 }
  | .timeout => { c with failedTimeout := c.failedTimeout + 1 }

def countOutcome (c : Counters) : Outcome → Counters
  | .delivered _ => { c with delivered := c.delivered + 1 }
  | .failed kind => c.countFailure kind
  | .withdrawn => { c with withdrawn := c.withdrawn + 1 }

def totalFailed (c : Counters) : Nat :=
  c.failedPermission + c.failedUnavailable + c.failedThrottled + c.failedQueueFull + c.failedHardware +
    c.failedTimeout

theorem totalFailed_countFailure (c : Counters) (kind : FailureKind) :
    (c.countFailure kind).totalFailed = c.totalFailed + 1 := by
  cases kind <;> simp [countFailure, totalFailed] <;> omega

section
variable (c : Counters) (outcome : Outcome)

theorem countOutcome_submitted : (c.countOutcome outcome).submitted = c.submitted := by
  cases outcome with
  | delivered results => rfl
  | failed kind => cases kind <;> rfl
  | withdrawn => rfl

theorem countOutcome_dispatched : (c.countOutcome outcome).dispatched = c.dispatched := by
  cases outcome with
  | delivered results => rfl
  | failed kind => cases kind <;> rfl
  | withdrawn => rfl

theorem countOutcome_delivered :
    (c.countOutcome outcome).delivered = c.delivered + if outcome.isDelivered then 1 else 0 := by
  cases outcome with
  | delivered results => rfl
  | failed kind => cases kind <;> rfl
  | withdrawn => rfl

theorem countOutcome_withdrawn :
    (c.countOutcome outcome).withdrawn = c.withdrawn + if outcome = .withdrawn then 1 else 0 := by
  cases outcome with
  | delivered results => rfl
  | failed kind => cases kind <;> rfl
  | withdrawn => rfl

theorem countOutcome_unavailable : (c.countOutcome outcome).failedUnavailable =
    c.failedUnavailable + if outcome = .failed .resourceUnavailable then 1 else 0 := by
  cases outcome with
  | delivered results => rfl
  | failed kind => cases kind <;> rfl
  | withdrawn => rfl

theorem countOutcome_totalFailed :
    (c.countOutcome outcome).totalFailed = c.totalFailed + if outcome.isFailed then 1 else 0 := by
  cases outcome with
  | delivered results => rfl
  | failed kind => exact totalFailed_countFailure c kind
  | withdrawn => rfl

end

end Counters
end Ranging

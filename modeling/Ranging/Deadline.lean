import Ranging.Identity

-- The one wakeup that the scheduler waits for, if any.
namespace Ranging

inductive Deadline
  | unarmed
  | armed (cid : CorrelationId) (due : Time)
deriving DecidableEq, Repr

structure AlreadyArmed where
  armedFor : CorrelationId
  requested : CorrelationId
deriving DecidableEq, Repr

def AlreadyArmed.message (e : AlreadyArmed) : String :=
  "deadline already armed for " ++ e.armedFor.text ++ ", refusing " ++ e.requested.text

namespace Deadline

def armedFor? : Deadline → Option CorrelationId
  | .unarmed => none
  | .armed cid _ => some cid

def due? : Deadline → Option Time
  | .unarmed => none
  | .armed _ due => some due

def isArmed (d : Deadline) : Bool := d.armedFor?.isSome

def arm (d : Deadline) (cid : CorrelationId) (due : Time) : Except AlreadyArmed Deadline :=
  match d with
  | .unarmed => .ok (.armed cid due)
  | .armed other _ => .error ⟨other, cid⟩

-- A wakeup counts only while it is the one that is waited for; then the wait is over.
def fire? (d : Deadline) (cid : CorrelationId) : Option Deadline :=
  if d.armedFor? = some cid then some .unarmed else none

theorem isArmed_iff (d : Deadline) : d.isArmed = true ↔ ∃ cid, d.armedFor? = some cid := Option.isSome_iff_exists

theorem arm_eq_ok_iff (d next : Deadline) (cid : CorrelationId) (due : Time) :
    d.arm cid due = .ok next ↔ d = .unarmed ∧ next = .armed cid due := by
  cases d <;> simp [arm, eq_comm]

theorem fire?_eq_some_iff (d next : Deadline) (cid : CorrelationId) :
    d.fire? cid = some next ↔ d.armedFor? = some cid ∧ next = .unarmed := by
  unfold fire?
  split <;> simp_all [eq_comm]

end Deadline
end Ranging

import Ranging.Translation
import Ranging.Identity

-- What waits for a moment to come, or for its turn: wakeups, lookups and their answers, watches.
namespace Ranging

-- How long a wait lasts that is to have that length.
structure Timer where
  lasts : Time → Time

namespace Timer

def exact : Timer := ⟨id⟩

-- Nothing waits longer than thirty years of 365 days: what would come later comes then.
def capped : Timer := ⟨fun span => min span (30 * 365 * 24 * 60 * 60 * 1000)⟩

def Exact (timer : Timer) : Prop := ∀ span, timer.lasts span = span

theorem Exact.eq {timer : Timer} (accurate : timer.Exact) : timer = exact := by
  obtain ⟨lasts⟩ := timer
  exact congrArg Timer.mk (funext accurate)

end Timer

inductive Job
  | wakeup (cid : CorrelationId)
  | lookup (operation : OperationId)
  | answer (operation : OperationId) (book : AddressBook)
  -- look whether a watched requester still lives, and tell if it does not
  | watch (token : LivenessToken)
deriving DecidableEq

structure Task where
  due : Time
  job : Job
deriving DecidableEq

-- In the order in which the tasks were begun, which is the order of those that are due together.
abbrev Agenda := List Task

namespace Agenda

def isWakeup : Job → Bool
  | .wakeup _ => true
  | _ => false

def pendingWakeups (a : Agenda) : Nat := a.countP fun task => isWakeup task.job

def without (job : Job) (a : Agenda) : Agenda := a.filter fun task => decide (task.job ≠ job)

-- A dispatch has one wakeup: a later one takes the place of an earlier. A moment that has passed is now.
def armWakeup (timer : Timer) (now due : Time) (cid : CorrelationId) (a : Agenda) : Agenda :=
  a.without (.wakeup cid) ++ [⟨now + timer.lasts (due - now), .wakeup cid⟩]

def begin (now : Time) (job : Job) (a : Agenda) : Agenda := a ++ [⟨now, job⟩]

def awaits (job : Job) (a : Agenda) : Bool := a.any fun task => decide (task.job = job)

-- A job that still awaits its turn keeps its place.
def beginOnce (now : Time) (job : Job) (a : Agenda) : Agenda := if a.awaits job then a else a.begin now job

def hasDue (now : Time) (a : Agenda) : Bool := a.any fun task => task.due ≤ now

def nextDue? (a : Agenda) : Option Time := (a.map Task.due).min?

end Agenda
end Ranging

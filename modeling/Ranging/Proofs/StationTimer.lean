import Ranging.Proofs.CallTimes
import Ranging.Proofs.ShiftHistory
import Ranging.Proofs.CorrelationOrder

-- The timer against the deadline. A wakeup is kept from its arming until it is called off or rings, and one that
-- has rung is on the channel until the loop hears of it. By then its operation may be gone, but no other has been
-- given its name.
namespace Ranging

def Task.wakeup? (task : Task) : Option (CorrelationId × Time) :=
  match task.job with
  | .wakeup cid => some (cid, task.due)
  | _ => none

namespace Agenda

def wakeups (a : Agenda) : List (CorrelationId × Time) := a.filterMap Task.wakeup?

end Agenda

def Effect.reset (now : Time) (kept : List (CorrelationId × Time)) : Effect → List (CorrelationId × Time)
  | .arm due cid => kept.filter (fun wakeup => wakeup.1 ≠ cid) ++ [(cid, max now due)]
  | .disarm cid => kept.filter fun wakeup => wakeup.1 ≠ cid
  | _ => kept

namespace Station
variable (s : Station)

end Station

-- What a call leaves of the wakeups, seen by the log and by the timer: what was there, nothing, or one that the
-- call has set.
inductive Reset (now : Time) (said : List Effect) (waited kept : List (CorrelationId × Time)) :
    List (CorrelationId × Time) → List (CorrelationId × Time) → Prop where
  | same : Reset now said waited kept waited kept
  | cleared : Reset now said waited kept [] []
  | again (due : Time) (cid : CorrelationId) : .arm due cid ∈ said →
      Reset now said waited kept [(cid, due)] [(cid, max now due)]

namespace Reset
variable {now : Time} {said : List Effect} {waited kept known held : List (CorrelationId × Time)}

theorem armed (reset : Reset now said waited kept known held)
    (names : ∀ wakeup ∈ kept, ∃ due, (wakeup.1, due) ∈ waited) (free : known = []) (due : Time) (cid : CorrelationId)
    (made : .arm due cid ∈ said) :
    Reset now said waited kept [(cid, due)] ((Effect.arm due cid).reset now held) := by
  have empty : held = [] := by
    cases reset with
    | cleared => rfl
    | again => cases free
    | same =>
        refine List.eq_nil_iff_forall_not_mem.2 fun wakeup listed => ?_
        obtain ⟨_, here⟩ := names wakeup listed
        rw [free] at here
        cases here
  rw [empty]
  exact .again due cid made

theorem disarmed (reset : Reset now said waited kept known held)
    (names : ∀ wakeup ∈ kept, ∃ due, (wakeup.1, due) ∈ waited) (due : Time) (cid : CorrelationId)
    (only : known = [(cid, due)]) : Reset now said waited kept [] ((Effect.disarm cid).reset now held) := by
  have empty : held.filter (fun wakeup => wakeup.1 ≠ cid) = [] := by
    cases reset with
    | cleared => rfl
    | again =>
        cases only
        simp
    | same =>
        refine List.filter_eq_nil_iff.2 fun wakeup listed => ?_
        obtain ⟨_, here⟩ := names wakeup listed
        rw [only] at here
        cases List.mem_singleton.1 here
        simp
  rw [Effect.reset, empty]
  exact .cleared

end Reset

def Event.wake? : Event → Option CorrelationId
  | .call (.wake cid) => some cid
  | _ => none

namespace Shift

-- What the timer will keep when all that is ordered is done.
def expected (s : Shift) : List (CorrelationId × Time) :=
  s.left.foldl (Effect.reset s.station.clock) s.station.agenda.wakeups

-- The submissions that the hardware has not seen, on the channel and with the scheduler.
def unnamedSubmissions (s : Shift) : Nat := s.pending.countP Event.isSubmission + s.history.waiting

-- Nobody but the timer tells of wakeups, and nobody but the resolver's tasks of addresses. Calls read the station's
-- clock. Tasks have their turns between two calls, and time passes only where nothing else can go on.
def paced (s : Shift) (incident : Incident) : Bool :=
  match incident with
  | .send (.call (.wake _)) => false
  | .send (.call (.resolved _ _)) => false
  | .work answers => decide (answers.admissionClock = s.station.now ∧ answers.dispatchClock = s.station.now)
  | .perform _ => s.orders.isEmpty
  | .pass _ => s.resting
  | _ => true

-- Besides, fewer submissions wait for a name at once than there are names.
def timed (s : Shift) (incident : Incident) : Bool :=
  s.paced incident && match incident with
  | .send (.call (.submit _)) => decide (s.unnamedSubmissions < 4294967295)
  | _ => true

variable (settings : Settings) (s t : Shift)

-- How the deadline, the timer and the channel stand to each other.
inductive WakeupPhase : Prop where
  | unset : s.history.scheduler.deadline = .unarmed → s.expected = [] → WakeupPhase
  | set (cid : CorrelationId) (due since : Time) : s.history.scheduler.deadline = .armed cid due →
      since ≤ s.station.clock → s.expected = [(cid, max since due)] → .call (.wake cid) ∉ s.pending → WakeupPhase
  | rung (cid : CorrelationId) (due : Time) : s.history.scheduler.deadline = .armed cid due →
      due ≤ s.station.clock → s.expected = [] → .call (.wake cid) ∈ s.pending → WakeupPhase

structure TimerInvariant : Prop where
  wakeupPhase : WakeupPhase s
  -- until a wakeup is heard of, its name is not given to anybody else
  fresh : ∀ ahead cid behind, s.pending = ahead ++ .call (.wake cid) :: behind → ∃ past id later,
    s.history.submissions = past ++ (id, cid) :: later ∧
    later.length + s.history.waiting + ahead.countP Event.isSubmission < 4294967296
  room : s.history.waiting + s.pending.countP Event.isSubmission < 4294967296

theorem TimerInvariant.posted (more : List Event) (timerInvariant : s.TimerInvariant) (history : t.history = s.history)
    (clock : s.station.clock ≤ t.station.clock) (expected : t.expected = s.expected)
    (pending : t.pending = s.pending ++ more) (mute : ∀ event ∈ more, event.wake? = none)
    (room : s.history.waiting + s.pending.countP Event.isSubmission + more.countP Event.isSubmission < 4294967296) :
    t.TimerInvariant := by
  have waking : ∀ cid, .call (.wake cid) ∈ t.pending ↔ .call (.wake cid) ∈ s.pending := by
    intro cid
    rw [pending, List.mem_append]
    refine or_iff_left fun told => ?_
    cases mute _ told
  refine ⟨?_, ?_, ?_⟩
  · cases timerInvariant.wakeupPhase with
    | unset unarmed none => exact .unset (history ▸ unarmed) (expected ▸ none)
    | set cid due since armed past kept waits =>
        exact .set cid due since (history ▸ armed) (Nat.le_trans past clock) (expected ▸ kept)
          ((waking cid).not.2 waits)
    | rung cid due armed past none told =>
        exact .rung cid due (history ▸ armed) (Nat.le_trans past clock) (expected ▸ none) ((waking cid).2 told)
  · intro ahead cid behind split
    rw [pending] at split
    rcases split_append _ _ _ _ _ split with ⟨rest, before, _⟩ | ⟨said, _, after⟩
    · rw [history]
      exact timerInvariant.fresh ahead cid rest before
    · cases mute _ (after ▸ List.mem_append_right said List.mem_cons_self)
  · rw [history, pending, List.countP_append, ← Nat.add_assoc]
    exact room

theorem TimerInvariant.unchanged (timerInvariant : s.TimerInvariant) (history : t.history = s.history)
    (clock : s.station.clock ≤ t.station.clock) (expected : t.expected = s.expected) (pending : t.pending = s.pending) :
    t.TimerInvariant :=
  timerInvariant.posted s t [] history clock expected (pending.trans (List.append_nil _).symm) nofun timerInvariant.room

structure Called (answers : Answers) (call : Call) (s t : Shift) : Prop where
  clock : t.station.clock = s.station.clock
  history : t.history = s.history.next answers call
  expected : t.expected =
    (s.history.scheduler.step answers call).effects.foldl (Effect.reset s.station.clock) s.expected
  first : ∃ first, s.pending = first ++ t.pending ∧
    first.countP Event.isSubmission = (if (Event.call call).isSubmission then 1 else 0) ∧
    ∀ cid, .call (.wake cid) ∈ first ↔ call = .wake cid

section
variable (answers : Answers) (call : Call)

end

end Shift
end Ranging

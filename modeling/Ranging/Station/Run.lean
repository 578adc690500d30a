import Ranging.Station.Basic

-- Runs a station until nothing is left to do, and through time.
namespace Ranging.Station

def handleMany (answers : Answers) : Nat → Station → Station × List Output
  | 0, s => (s, [])
  | n + 1, s =>
      let first := s.handleNext answers
      let others := handleMany answers n first.1
      (others.1, first.2 ++ others.2)

-- Handles what is on the channel, and then what that put there: registrations may report deaths,
-- and deaths register nothing.
def drain (answers : Answers) (s : Station) : Station × List Output :=
  let first := s.handleMany answers s.loop.pending.length
  let second := first.1.handleMany answers first.1.loop.pending.length
  (second.1, first.2 ++ second.2)

-- The loop empties its channel before any task has its turn; then all tasks that are due have theirs.
def settleWithin (answers : Answers) : Nat → Station → Station × List Output
  | 0, s => (s, [])
  | rounds + 1, s =>
      let drained := s.drain answers
      if drained.1.quiet then drained
      else
        let others := settleWithin answers rounds drained.1.performAll
        (others.1, drained.2 ++ others.2)

-- Tasks that are due at once come from what is on the channel and from operations that enter the
-- slot, and each enters it once.
def rounds (s : Station) : Nat :=
  2 * (s.loop.pending.length + s.loop.scheduler.queue.length + s.agenda.length + 2)

def settle (answers : Answers) (s : Station) : Station × List Output := s.settleWithin answers s.rounds

def passWithin (answers : Answers) (till : Time) : Nat → Station → Station × List Output
  | 0, s => ({ s with clock := till }, [])
  | stops + 1, s =>
      match s.agenda.nextDue? with
      | none => ({ s with clock := till }, [])
      | some due =>
          if till < due then ({ s with clock := till }, [])
          else
            let here := ({ s with clock := max due s.clock }).settle answers
            let others := passWithin answers till stops here.1
            (others.1, here.2 ++ others.2)

def pass (answers : Answers) (span : Time) (s : Station) : Station × List Output :=
  s.passWithin answers (s.clock + span) (2 * s.rounds)

end Ranging.Station

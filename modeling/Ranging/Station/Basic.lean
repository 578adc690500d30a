import Ranging.EventLoop
import Ranging.Station.Agenda
import Ranging.Station.Hub

-- The event loop together with what serves it: a clock that stands still until it is moved, the
-- wakeups, the hub that watches requesters, and a resolver that takes its time. They answer the
-- scheduler's orders by posting events, never by a call.
namespace Ranging

inductive LookupError
  | unavailable (reason : String)
  | timedOut (limit : Time)
deriving DecidableEq, Repr

def LookupError.message : LookupError → String
  | .unavailable reason => "peer resolver unavailable: " ++ reason
  | .timedOut limit => "peer resolver timed out after " ++ toString limit ++ " ms"

inductive Delay
  | after (span : Time)
  | never
deriving DecidableEq

instance : Coe Time Delay := ⟨.after⟩

-- How the resolver behaves. It answers with all that it knows, asked for or not.
structure Resolver where
  book : AddressBook
  delay : Delay
  failure : Option String
deriving DecidableEq

namespace Resolver

def prompt : Resolver := ⟨∅, .after 0, none⟩

def wait (timer : Timer) (limit : Time) (r : Resolver) : Time :=
  match r.delay with
  | .after span => min (timer.lasts span) (timer.lasts limit)
  | .never => timer.lasts limit

-- Of an answer and the limit that come together the answer counts.
def inTime (timer : Timer) (limit : Time) (r : Resolver) : Bool :=
  match r.delay with
  | .after span => timer.lasts span ≤ timer.lasts limit
  | .never => false

def outcome (timer : Timer) (limit : Time) (r : Resolver) : Except LookupError AddressBook :=
  if r.inTime timer limit then
    match r.failure with
    | some reason => .error (.unavailable reason)
    | none => .ok r.book
  else .error (.timedOut limit)

-- What the scheduler is told: of a lookup that failed or was given up, nothing is resolved.
def told (timer : Timer) (limit : Time) (r : Resolver) : AddressBook :=
  match r.outcome timer limit with
  | .ok book => book
  | .error _ => ∅

end Resolver

structure Station where
  loop : EventLoop
  clock : Time
  agenda : Agenda
  hub : Hub
  resolver : Resolver
  timer : Timer

namespace Station

def new (s : Scheduler) : Station := ⟨.new s, 0, [], .new, .prompt, .capped⟩

def now (s : Station) : Time := min s.clock Time.last

-- An event that comes after the loop has closed its channel is lost.
def post (event : Event) (s : Station) : Station :=
  match s.loop.post event with
  | .ok loop => { s with loop := loop }
  | .error _ => s

-- The wakeup is set by the clock that the deadline was computed with.
def armWakeup (due : Time) (cid : CorrelationId) (s : Station) : Station :=
  { s with agenda := s.agenda.armWakeup s.timer s.clock due cid }

def cancelWakeup (cid : CorrelationId) (s : Station) : Station :=
  { s with agenda := s.agenda.without (.wakeup cid) }

-- A requester that is known to be dead is reported at once. A watch first looks at its turn.
def register (t : LivenessToken) (s : Station) : Station :=
  let registered := s.hub.register t
  let s := { s with hub := registered.2 }
  match registered.1 with
  | .nothing => s
  | .dead => s.post (.call (.requesterDied t))
  | .watching => { s with agenda := s.agenda.begin s.clock (.watch t) }

-- A death that has not been reported yet never will be.
def unregister (t : LivenessToken) (s : Station) : Station :=
  { s with hub := s.hub.unregister t, agenda := s.agenda.without (.watch t) }

def connect (s : Station) : LivenessToken × Station :=
  (s.hub.connect.1, { s with hub := s.hub.connect.2 })

def leave (t : LivenessToken) (s : Station) : Station := { s with hub := s.hub.leave t }

-- A watch looks again when the channel is closed; one that awaits its first turn will see it then.
def closeGuard (t : LivenessToken) (s : Station) : Station :=
  let closed := s.hub.close t
  let s := { s with hub := closed.2 }
  if closed.1 then { s with agenda := s.agenda.beginOnce s.clock (.watch t) } else s

-- A drop that nothing comes between. False if there was no guard any more.
def dropGuard (t : LivenessToken) (s : Station) : Bool × Station := (s.hub.isOpen t, (s.leave t).closeGuard t)

def serve (s : Station) : Effect → Station
  | .arm due cid => s.armWakeup due cid
  | .disarm cid => s.cancelWakeup cid
  | .register t => s.register t
  | .unregister t => s.unregister t
  | .resolve _ _ operation => { s with agenda := s.agenda.begin s.clock (.lookup operation) }
  | _ => s

def serveOutput (s : Station) : Output → Station
  | .effect e => s.serve e
  | .status _ => s

def handleNext (answers : Answers) (s : Station) : Station × List Output :=
  let handled := s.loop.next (answers.at s.now)
  (handled.2.foldl serveOutput { s with loop := handled.1 }, handled.2)

def perform (s : Station) (task : Task) : Option Task × Option Event :=
  if s.clock < task.due then (some task, none)
  else match task.job with
    | .wakeup cid => (none, some (.call (.wake cid)))
    | .watch t => (none, if s.hub.hasLost t then some (.call (.requesterDied t)) else none)
    | .answer operation book => (none, some (.call (.resolved operation book)))
    | .lookup operation =>
        let limit := s.loop.scheduler.settings.resolverTimeout
        let wait := s.resolver.wait s.timer limit
        let book := s.resolver.told s.timer limit
        if wait = 0 then (none, some (.call (.resolved operation book)))
        else (some ⟨s.clock + wait, .answer operation book⟩, none)

def performAll (s : Station) : Station :=
  let performed := s.agenda.map s.perform
  (performed.filterMap Prod.snd).foldl (fun s event => s.post event)
    { s with agenda := performed.filterMap Prod.fst }

def quiet (s : Station) : Bool := s.loop.pending.isEmpty && !s.agenda.hasDue s.clock

end Station
end Ranging

import Ranging.Scheduler.History
import Ranging.Station.Basic

-- A station at work, one small thing after another and in any order. Events are sent, guards are taken, a guard goes
-- out of its entry and then out of its channel, the loop takes its next step, one of its orders is carried out, one
-- task has its turn, time passes. What is handed to the scheduler, and what is made of it, is written down beside.
namespace Ranging

inductive Incident
  | send (event : Event)
  | connect
  -- a guard's drop begins, and ends
  | leave (token : LivenessToken)
  | close (token : LivenessToken)
  | instruct (resolver : Resolver)
  -- the next step of the loop, with what the surroundings answer in it
  | work (answers : Answers)
  | serve
  | perform (place : Nat)
  | pass (till : Time)

structure Shift where
  station : Station
  history : History
  -- what the loop has ordered, and nobody has carried out yet
  orders : List Output
  -- what was carried out, and when
  shown : List (Time × Output)
  -- the guards that are held, and those whose drop has begun
  guards : List LivenessToken
  leaving : List LivenessToken
  -- the lookups that have begun, each with the time and with what the resolver was like
  lookups : List (OperationId × Time × Resolver)
  -- what the tasks have told the loop, whether it still listened or not
  posted : List Event

def History.attend (answers : Answers) (event : Option Event) (h : History) : History :=
  match event with
  | some (.call call) => h.next answers call
  | _ => h

def Event.isSubmission : Event → Bool
  | .call (.submit _) => true
  | _ => false

namespace Shift

def begin (timer : Timer) (h : History) : Shift :=
  ⟨{ Station.new h.scheduler with timer := timer }, h, [], h.effects.map fun effect => (0, .effect effect),
    [], [], [], []⟩

def start (settings : Settings) (timer : Timer) (ready : Bool) : Except SettingsError Shift :=
  (History.start settings ready).map (begin timer)

-- The loop goes on only when all that it has ordered is done.
def work (answers : Answers) (s : Shift) : Shift :=
  match s.orders with
  | _ :: _ => s
  | [] =>
      let advanced := s.station.loop.advance answers
      { s with
        station := { s.station with loop := advanced.1 }
        history := s.history.attend answers s.station.loop.look.1
        orders := advanced.2 }

def serve (s : Shift) : Shift :=
  match s.orders with
  | [] => s
  | order :: rest =>
      { s with
        station := s.station.serveOutput order
        orders := rest
        shown := s.shown ++ [(s.station.clock, order)] }

def begun (s : Station) (task : Task) : List (OperationId × Time × Resolver) :=
  match task.job with
  | .lookup operation => if s.clock < task.due then [] else [(operation, s.clock, s.resolver)]
  | _ => []

def perform (place : Nat) (s : Shift) : Shift :=
  match s.station.agenda[place]? with
  | none => s
  | some task =>
      let performed := s.station.perform task
      let agenda := s.station.agenda.take place ++ performed.1.toList ++ s.station.agenda.drop (place + 1)
      { s with
        station := performed.2.toList.foldl (fun s event => s.post event) { s.station with agenda := agenda }
        lookups := s.lookups ++ begun s.station task
        posted := s.posted ++ performed.2.toList }

-- Only a guard that is held can be dropped.
def leave (token : LivenessToken) (s : Shift) : Shift :=
  if token ∈ s.guards then
    { s with
      station := s.station.leave token
      guards := s.guards.erase token
      leaving := s.leaving ++ [token] }
  else s

def close (token : LivenessToken) (s : Shift) : Shift :=
  if token ∈ s.leaving then { s with station := s.station.closeGuard token, leaving := s.leaving.erase token }
  else s

def act (incident : Incident) (s : Shift) : Shift :=
  match incident with
  | .send event => { s with station := s.station.post event }
  | .connect => { s with station := s.station.connect.2, guards := s.guards ++ [s.station.connect.1] }
  | .leave token => s.leave token
  | .close token => s.close token
  | .instruct resolver => { s with station := { s.station with resolver := resolver } }
  | .work answers => s.work answers
  | .serve => s.serve
  | .perform place => s.perform place
  | .pass till => { s with station := { s.station with clock := max s.station.clock till } }

def resting (s : Shift) : Bool :=
  s.orders.isEmpty && s.leaving.isEmpty && s.station.quiet && !s.station.loop.hurries

inductive Reached (settings : Settings) (allowed : Shift → Incident → Bool) : Shift → Prop where
  | start (timer : Timer) (ready : Bool) (s : Shift) : Shift.start settings timer ready = .ok s →
      Reached settings allowed s
  | next (incident : Incident) (s : Shift) : Reached settings allowed s → allowed s incident = true →
      Reached settings allowed (s.act incident)

def run (incidents : List Incident) (s : Shift) : Shift := incidents.foldl (fun s incident => s.act incident) s

def permits (allowed : Shift → Incident → Bool) : List Incident → Shift → Bool
  | [], _ => true
  | incident :: rest, s => allowed s incident && permits allowed rest (s.act incident)

variable (settings : Settings) (allowed : Shift → Incident → Bool) (s : Shift)

theorem run_reached (incidents : List Incident) (path : Reached settings allowed s)
    (permitted : permits allowed incidents s = true) : Reached settings allowed (s.run incidents) := by
  induction incidents generalizing s with
  | nil => exact path
  | cons incident rest ih =>
      obtain ⟨here, onward⟩ := Bool.and_eq_true_iff.1 permitted
      exact ih _ (.next incident s path here) onward

theorem reached_wider (wider : Shift → Incident → Bool)
    (within : ∀ s incident, allowed s incident = true → wider s incident = true) (path : Reached settings allowed s) :
    Reached settings wider s := by
  induction path with
  | start timer ready s made => exact .start timer ready s made
  | next incident s _ permitted ih => exact .next incident s ih (within s incident permitted)

theorem start_eq_ok_iff (timer : Timer) (ready : Bool) : start settings timer ready = .ok s ↔
    (∀ l, 0 < settings.get l) ∧ s = begin timer (.fresh settings ready) := by
  cases made : History.start settings ready with
  | error e =>
      have unusable : ¬ ∀ l, 0 < settings.get l := by
        intro positive
        rw [(History.start_eq_ok_iff settings ready _).2 ⟨positive, rfl⟩] at made
        cases made
      simp [start, made, Except.map, unusable]
  | ok h =>
      obtain ⟨positive, rfl⟩ := (History.start_eq_ok_iff settings ready h).1 made
      simp [start, made, Except.map, positive, eq_comm]

theorem resting_iff : s.resting = true ↔ s.orders = [] ∧ s.leaving = [] ∧ s.station.loop.pending = [] ∧
    (∀ task ∈ s.station.agenda, s.station.clock < task.due) ∧ s.station.loop.hurries = false := by
  simp [resting, Station.quiet, Agenda.hasDue, and_assoc]

end Shift
end Ranging

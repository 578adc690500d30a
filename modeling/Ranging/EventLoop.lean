import Ranging.Channel
import Ranging.Scheduler.Calls

-- One scheduler behind one channel. Whatever happens outside becomes an event on the channel,
-- and events are handled one at a time in the order in which they were sent.
namespace Ranging

inductive Event
  | call (call : Call)
  | status

def Event.isShutdown : Event → Bool
  | .call .shutdown => true
  | _ => false

-- What the handling of events shows outside: effects of the scheduler, and answers to questions
-- for its status.
inductive Output
  | effect (effect : Effect)
  | status (status : Scheduler.Status)

def Scheduler.attend (answers : Answers) (event : Event) (s : Scheduler) : Scheduler × List Output :=
  match event with
  | .status => (s, [.status s.status])
  | .call call => ((s.step answers call).scheduler, (s.step answers call).effects.map .effect)

inductive Errand
  | submit (sub : Submission)
  | cancel (a : Attribution)
  | measured (cid : CorrelationId) (report : List Reading)
  | setHardware (ready : Bool)
  | setIdle (idle : Bool)
  | status
  | shutdown

namespace Errand

def event : Errand → Event
  | .submit sub => .call (.submit sub)
  | .cancel a => .call (.cancel a)
  | .measured cid report => .call (.measured cid report)
  | .setHardware ready => .call (.setHardware ready)
  | .setIdle idle => .call (.setIdle idle)
  | .status => .status
  | .shutdown => .call .shutdown

-- A client's submission is looked at before it is sent, so that its own error comes first.
def checked (maxPeers : Nat) : Errand → Except CallError Unit
  | .submit sub => sub.request.validate maxPeers
  | _ => .ok ()

end Errand

inductive Stage
  -- takes one event after the other, and waits where there is none
  | receiving
  -- was told to stop, or has nobody left who could send
  | stopping
  -- the scheduler is shut down, and the channel is open still
  | closing
  -- the channel is closed, and what was sent before is handled
  | draining
  | ended
deriving DecidableEq, Repr

def Stage.isOpen : Stage → Bool
  | .draining => false
  | .ended => false
  | _ => true

structure Loop (c : Channel Event) where
  scheduler : Scheduler
  inbox : c.State
  stage : Stage
  -- the limit as the clients know it
  maxPeers : Nat

namespace Loop
variable {c : Channel Event}

def new (s : Scheduler) : Loop c := ⟨s, c.fresh, .receiving, s.settings.maxPeers⟩

def accepting (l : Loop c) : Bool := l.stage.isOpen

def stopped (l : Loop c) : Bool := decide (l.stage = .ended)

def post (event : Event) (l : Loop c) : Except CallError (Loop c) :=
  match c.send event l.inbox with
  | some inbox => .ok { l with inbox := inbox }
  | none => .error .closed

def call (errand : Errand) (l : Loop c) : Except CallError (Loop c) :=
  match errand.checked l.maxPeers with
  | .error e => .error e
  | .ok () => l.post errand.event

def submit (sub : Submission) (l : Loop c) : Except CallError (Loop c) := l.call (.submit sub)

def join (l : Loop c) : Loop c := { l with inbox := c.addSender l.inbox }

def abandon (l : Loop c) : Loop c := { l with inbox := c.dropSender l.inbox }

-- The next thing that the loop does by itself, with the event that the scheduler has to attend to. The first
-- shutdown only ends the receiving, and the scheduler hears of it after that; later ones are passed over.
def look (l : Loop c) : Option Event × Loop c :=
  match l.stage with
  | .receiving =>
      match c.receive l.inbox with
      | .waiting => (none, l)
      | .ended => (none, { l with stage := .stopping })
      | .item event rest =>
          if event.isShutdown then (none, { l with inbox := rest, stage := .stopping })
          else (some event, { l with inbox := rest })
  | .stopping => (some (.call .shutdown), { l with stage := .closing })
  | .closing => (none, { l with inbox := c.close l.inbox, stage := .draining })
  | .draining =>
      match c.tryReceive l.inbox with
      | none => (none, { l with stage := .ended })
      | some (event, rest) => (if event.isShutdown then none else some event, { l with inbox := rest })
  | .ended => (none, l)

def advance (answers : Answers) (l : Loop c) : Loop c × List Output :=
  match l.look with
  | (none, l) => (l, [])
  | (some event, l) =>
      let attended := l.scheduler.attend answers event
      ({ l with scheduler := attended.1 }, attended.2)

def advanceMany (answers : Answers) : Nat → Loop c → Loop c × List Output
  | 0, l => (l, [])
  | n + 1, l =>
      let first := l.advance answers
      let others := advanceMany answers n first.1
      (others.1, first.2 ++ others.2)

def hurries (l : Loop c) : Bool :=
  match l.stage with
  | .stopping => true
  | .closing => true
  | .draining => (c.tryReceive l.inbox).isNone
  | _ => false

def proceed (answers : Answers) : Nat → Loop c → Loop c × List Output
  | 0, l => (l, [])
  | n + 1, l =>
      if l.hurries then
        let first := l.advance answers
        let others := proceed answers n first.1
        (others.1, first.2 ++ others.2)
      else (l, [])

-- Handles one event, and does all that follows before the next.
def next (answers : Answers) (l : Loop c) : Loop c × List Output :=
  let first := l.advance answers
  let others := first.1.proceed answers 3
  (others.1, first.2 ++ others.2)

end Loop

abbrev EventLoop := Loop (.plain Event)

namespace EventLoop

def pending (l : EventLoop) : List Event := Contents.queued l.inbox

-- Four steps lie between the last event and the end.
def drain (answers : Answers) (l : EventLoop) : EventLoop × List Output := l.advanceMany answers (l.pending.length + 4)

end EventLoop
end Ranging

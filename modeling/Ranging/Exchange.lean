import Ranging.EventLoop

-- The loop together with its clients. Any number of handles call whenever they like, also in the middle of
-- what the loop does by itself, and it is kept what every call returned and what the scheduler attended to.
namespace Ranging

inductive Action
  | call (errand : Errand)
  | clone
  | drop
  -- the loop does the next thing, with what the surroundings answer in it
  | work (answers : Answers)

structure Exchange (c : Channel Event) where
  loop : Loop c
  handles : Nat
  returned : List (Errand × Except CallError Unit)
  handled : List (Answers × Event)
  outputs : List Output

namespace Exchange
variable {c : Channel Event}

def start (c : Channel Event) (settings : Settings) (ready : Bool) : Except SettingsError (Exchange c) :=
  (Scheduler.new settings ready).map fun turn => ⟨.new turn.scheduler, 1, [], [], turn.effects.map .effect⟩

def call (errand : Errand) (x : Exchange c) : Exchange c :=
  match x.loop.call errand with
  | .ok loop => { x with loop := loop, returned := x.returned ++ [(errand, .ok ())] }
  | .error e => { x with returned := x.returned ++ [(errand, .error e)] }

def work (answers : Answers) (x : Exchange c) : Exchange c :=
  { x with
    loop := (x.loop.advance answers).1
    handled := x.handled ++ x.loop.look.1.toList.map (Prod.mk answers)
    outputs := x.outputs ++ (x.loop.advance answers).2 }

-- Without a handle nobody can call, nor get a handle.
def act (action : Action) (x : Exchange c) : Exchange c :=
  match action with
  | .call errand => if x.handles = 0 then x else x.call errand
  | .clone => if x.handles = 0 then x else { x with loop := x.loop.join, handles := x.handles + 1 }
  | .drop => if x.handles = 0 then x else { x with loop := x.loop.abandon, handles := x.handles - 1 }
  | .work answers => x.work answers

def run (actions : List Action) (x : Exchange c) : Exchange c := actions.foldl (fun x action => x.act action) x

def sent (x : Exchange c) : List Event :=
  x.returned.filterMap fun entry => match entry.2 with
    | .ok _ => some entry.1.event
    | .error _ => none

def attended (x : Exchange c) : List Event := x.handled.map Prod.snd

end Exchange

def Scheduler.attendAll (handled : List (Answers × Event)) (s : Scheduler) : Scheduler × List Output :=
  handled.foldl (fun so asked => ((so.1.attend asked.1 asked.2).1, so.2 ++ (so.1.attend asked.1 asked.2).2)) (s, [])

def later (queued : List Event) : List Event := queued.filter fun event => !event.isShutdown

-- What is put to it in the end: a shutdown in the place of the first one that was sent, or last if none was
-- sent, and no other.
def script : List Event → List Event
  | [] => [.call .shutdown]
  | event :: rest => if event.isShutdown then event :: later rest else event :: script rest

end Ranging

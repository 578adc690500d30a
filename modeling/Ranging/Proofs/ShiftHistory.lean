import Ranging.Proofs.ReplyCounts
import Ranging.Proofs.StationSteps
import Ranging.Proofs.LoopSteps
import Ranging.Station.Shift

-- What every shift at a station keeps: the loop has the scheduler of the history that is written down, what was
-- ordered is what the history tells, and a channel is closed only after the shutdown.
namespace Ranging

theorem LoopStep.takes {contents rest : Contents Event} {stage after : Stage} {event : Option Event}
    (loopStep : LoopStep contents stage event after rest) :
    (rest.queued = contents.queued ∧ (event = none ∨ event = some (.call .shutdown))) ∨
    (contents.queued = .call .shutdown :: rest.queued ∧ event = none) ∨
    ∃ head, event = some head ∧ contents.queued = head :: rest.queued := by
  cases loopStep with
  | told rest queued => exact .inr (.inl ⟨queued, rfl⟩)
  | taken event rest queued plain => exact .inr (.inr ⟨event, rfl, queued⟩)
  | shut => exact .inl ⟨rfl, .inr rfl⟩
  | passed rest queued => exact .inr (.inl ⟨queued, rfl⟩)
  | drained event rest queued plain => exact .inr (.inr ⟨event, rfl, queued⟩)
  | _ => exact .inl ⟨rfl, .inl rfl⟩

theorem LoopStep.isOpen {contents rest : Contents Event} {stage after : Stage} {event : Option Event}
    (loopStep : LoopStep contents stage event after rest) (isOpen : contents.isOpen = stage.isOpen) :
    rest.isOpen = after.isOpen := by
  cases loopStep with
  | closed => rfl
  | _ => exact isOpen

theorem LoopStep.closing {contents rest : Contents Event} {stage after : Stage} {event : Option Event}
    (loopStep : LoopStep contents stage event after rest) (taken : after ≠ .receiving) (stopped : after ≠ .stopping) :
    (stage ≠ .receiving ∧ stage ≠ .stopping) ∨ event = some (.call .shutdown) := by
  cases loopStep with
  | waiting => exact absurd rfl taken
  | unoccupied => exact absurd rfl stopped
  | told => exact absurd rfl stopped
  | taken => exact absurd rfl taken
  | shut => exact .inr rfl
  | _ => exact .inl ⟨by simp, by simp⟩

namespace EventLoop
variable (answers : Answers) (l : EventLoop)

theorem advance_aside : (l.advance answers).1.stage = l.look.2.stage ∧
    (l.advance answers).1.inbox = l.look.2.inbox := by
  rcases l.advance_cases answers with ⟨_, advanced⟩ | ⟨_, _, advanced⟩ <;> rw [advanced] <;> exact ⟨rfl, rfl⟩

theorem advance_listens (listens : l.listens = l.stage.isOpen) :
    EventLoop.listens (l.advance answers).1 = (l.advance answers).1.stage.isOpen := by
  have loopStep := l.look_cases (.plain Event) listens
  rw [EventLoop.listens, (advance_aside answers l).1, (advance_aside answers l).2]
  exact loopStep.isOpen listens

end EventLoop

theorem attend_calls (h : History) (answers : Answers) (event : Option Event) :
    h.calls ⊆ (h.attend answers event).calls := by
  intro call heard
  unfold History.attend
  split
  · rw [History.calls, History.next_log, List.filterMap_append]
    exact List.mem_append_left _ heard
  · exact heard

namespace Shift

-- What was ordered so far, whether it is carried out or not.
def ordered (s : Shift) : List Effect := (s.shown.map Prod.snd ++ s.orders).filterMap Output.effect?

def done (s : Shift) : List Effect := (s.shown.map Prod.snd).filterMap Output.effect?

def left (s : Shift) : List Effect := s.orders.filterMap Output.effect?

structure HistoryAgrees (settings : Settings) (s : Shift) : Prop where
  reached : History.Reached settings s.history
  scheduler : s.station.loop.scheduler = s.history.scheduler
  effects : s.history.effects = s.ordered
  listens : s.station.loop.listens = s.station.loop.stage.isOpen
  closing : s.station.loop.stage ≠ .receiving → s.station.loop.stage ≠ .stopping → .shutdown ∈ s.history.calls

variable (settings : Settings) (s : Shift)

theorem HistoryAgrees.unchanged (t : Shift) (agrees : s.HistoryAgrees settings) (history : t.history = s.history)
    (ordered : t.ordered = s.ordered) (scheduler : t.station.loop.scheduler = s.station.loop.scheduler)
    (stage : t.station.loop.stage = s.station.loop.stage)
    (listens : t.station.loop.listens = s.station.loop.listens) : t.HistoryAgrees settings := by
  refine ⟨?_, ?_, ?_, ?_, ?_⟩
  · rw [history]
    exact agrees.reached
  · rw [scheduler, history]
    exact agrees.scheduler
  · rw [history, ordered]
    exact agrees.effects
  · rw [listens, stage]
    exact agrees.listens
  · rw [stage, history]
    exact agrees.closing

theorem HistoryAgrees.closed (agrees : s.HistoryAgrees settings) (deaf : s.station.loop.listens = false) :
    s.history.scheduler.live = [] := by
  have stage := agrees.listens.symm.trans deaf
  have told : .shutdown ∈ s.history.calls := by
    apply agrees.closing
    · intro same
      rw [same] at stage
      cases stage
    · intro same
      rw [same] at stage
      cases stage
  have shut := reached_closed settings s.history agrees.reached told
  have rested := reached_slotSettled settings s.history agrees.reached
  have unavailable : s.history.scheduler.available = false := by simp [Scheduler.available, shut]
  have idle := rested.unavailable unavailable
  simp [Scheduler.live, rested.idle idle, idle, Slot.operation?]

def pending (s : Shift) : List Event := s.station.loop.pending

-- What the scheduler hears of next is on the channel, or it is the shutdown that was taken off it before.
theorem HistoryAgrees.look_pending (agrees : s.HistoryAgrees settings) (event : Event)
    (found : s.station.loop.look.1 = some event) :
    event = .call .shutdown ∨ event ∈ s.pending := by
  have takes := (s.station.loop.look_cases (.plain Event) agrees.listens).takes
  rw [found] at takes
  rcases takes with ⟨_, none | shut⟩ | ⟨_, none⟩ | ⟨head, some, queued⟩
  · cases none
  · exact .inl (Option.some.inj shut)
  · cases none
  · cases some
    refine .inr ?_
    have queued : s.pending = _ := queued
    rw [queued]
    exact List.mem_cons_self

-- What a step of the loop comes to. A shutdown on the channel is taken off it before the scheduler hears of one.
inductive Works (answers : Answers) (s t : Shift) : Prop where
  | idle : t.history = s.history → t.orders.filterMap Output.effect? = [] → t.pending = s.pending → Works answers s t
  | passed (event : Event) : event = .status ∨ event = .call .shutdown → t.history = s.history →
      t.orders.filterMap Output.effect? = [] → s.pending = event :: t.pending → Works answers s t
  | called (call : Call) : t.history = s.history.next answers call →
      t.orders.filterMap Output.effect? = (s.history.scheduler.step answers call).effects →
      s.pending = .call call :: t.pending ∨ call = .shutdown ∧ t.pending = s.pending → Works answers s t

section
variable (answers : Answers)

@[simp] theorem work_clock : (s.work answers).station.clock = s.station.clock := by
  unfold work
  split <;> rfl

@[simp] theorem work_agenda : (s.work answers).station.agenda = s.station.agenda := by
  unfold work
  split <;> rfl

@[simp] theorem work_hub : (s.work answers).station.hub = s.station.hub := by
  unfold work
  split <;> rfl

@[simp] theorem work_shown : (s.work answers).shown = s.shown := by
  unfold work
  split <;> rfl

@[simp] theorem work_guards : (s.work answers).guards = s.guards := by
  unfold work
  split <;> rfl

@[simp] theorem work_leaving : (s.work answers).leaving = s.leaving := by
  unfold work
  split <;> rfl

theorem work_busy (busy : s.orders ≠ []) : s.work answers = s := by
  unfold work
  cases orders : s.orders with
  | nil => exact absurd orders busy
  | cons order rest => rfl

theorem work_eq (free : s.orders = []) : s.work answers = { s with
    station := { s.station with loop := (s.station.loop.advance answers).1 }
    history := s.history.attend answers s.station.loop.look.1
    orders := (s.station.loop.advance answers).2 } := by
  unfold work
  rw [free]

theorem attend_effects (scheduler : Scheduler) (call : Call) :
    (scheduler.attend answers (.call call)).2.filterMap Output.effect? = (scheduler.step answers call).effects := by
  simp [Scheduler.attend, List.filterMap_map, Function.comp_def, Output.effect?]

theorem work_cases (agrees : s.HistoryAgrees settings) (free : s.orders = []) : Works answers s (s.work answers) := by
  have loopStep := s.station.loop.look_cases (.plain Event) agrees.listens
  have takes := loopStep.takes
  have worked := work_eq s answers free
  rcases s.station.loop.advance_cases answers with ⟨nothing, advanced⟩ | ⟨event, found, advanced⟩
  · rw [worked, nothing, advanced]
    rcases takes with ⟨same, _⟩ | ⟨taken, _⟩ | ⟨head, some, _⟩
    · exact .idle rfl rfl same
    · exact .passed (.call .shutdown) (.inr rfl) rfl rfl taken
    · rw [nothing] at some
      cases some
  · rw [worked, found, advanced]
    cases event with
    | status =>
        rcases takes with ⟨_, none | shut⟩ | ⟨_, none⟩ | ⟨head, some, taken⟩
        · rw [found] at none
          cases none
        · rw [found] at shut
          cases shut
        · rw [found] at none
          cases none
        · rw [found] at some
          cases some
          exact .passed .status (.inl rfl) rfl rfl taken
    | call call =>
        have said := attend_effects answers s.station.loop.scheduler call
        rw [agrees.scheduler] at said
        refine .called call rfl (by rw [agrees.scheduler]; exact said) ?_
        rcases takes with ⟨same, none | shut⟩ | ⟨_, none⟩ | ⟨head, some, taken⟩
        · rw [found] at none
          cases none
        · rw [found] at shut
          cases shut
          exact .inr ⟨rfl, same⟩
        · rw [found] at none
          cases none
        · rw [found] at some
          cases some
          exact .inl taken

theorem work_listens (listens : s.station.loop.listens = s.station.loop.stage.isOpen) :
    (s.work answers).station.loop.listens = (s.work answers).station.loop.stage.isOpen := by
  unfold work
  split
  · exact listens
  · exact EventLoop.advance_listens answers s.station.loop listens

end

theorem perform_nothing (place : Nat) (nobody : s.station.agenda[place]? = none) : s.perform place = s := by
  unfold perform
  rw [nobody]

-- Of what a task does, only what it tells the loop is seen from outside.
theorem perform_cases (place : Nat) : s.perform place = s ∨ ∃ task, s.station.agenda[place]? = some task ∧
    s.perform place = { s with
      station := (s.station.perform task).2.toList.foldl (fun s event => s.post event) { s.station with
        agenda := s.station.agenda.take place ++ (s.station.perform task).1.toList ++
          s.station.agenda.drop (place + 1) }
      lookups := s.lookups ++ begun s.station task
      posted := s.posted ++ (s.station.perform task).2.toList } := by
  unfold perform
  cases found : s.station.agenda[place]? with
  | none => exact .inl rfl
  | some task => exact .inr ⟨task, rfl, rfl⟩

section
variable (place : Nat)

@[simp] theorem perform_clock : (s.perform place).station.clock = s.station.clock := by
  rcases s.perform_cases place with same | ⟨task, _, same⟩
  · rw [same]
  · rw [same]
    cases (s.station.perform task).2 with
    | none => rfl
    | some event => exact Station.post_clock _ event

@[simp] theorem perform_hub : (s.perform place).station.hub = s.station.hub := by
  rcases s.perform_cases place with same | ⟨task, _, same⟩
  · rw [same]
  · rw [same]
    cases (s.station.perform task).2 with
    | none => rfl
    | some event => exact Station.post_hub _ event

@[simp] theorem perform_resolver : (s.perform place).station.resolver = s.station.resolver := by
  rcases s.perform_cases place with same | ⟨task, _, same⟩
  · rw [same]
  · rw [same]
    cases (s.station.perform task).2 with
    | none => rfl
    | some event => exact Station.post_resolver _ event

@[simp] theorem perform_timer : (s.perform place).station.timer = s.station.timer := by
  rcases s.perform_cases place with same | ⟨task, _, same⟩
  · rw [same]
  · rw [same]
    cases (s.station.perform task).2 with
    | none => rfl
    | some event => exact Station.post_timer _ event

@[simp] theorem perform_history : (s.perform place).history = s.history := by
  rcases s.perform_cases place with same | ⟨task, _, same⟩ <;> rw [same]

@[simp] theorem perform_orders : (s.perform place).orders = s.orders := by
  rcases s.perform_cases place with same | ⟨task, _, same⟩ <;> rw [same]

@[simp] theorem perform_shown : (s.perform place).shown = s.shown := by
  rcases s.perform_cases place with same | ⟨task, _, same⟩ <;> rw [same]

@[simp] theorem perform_guards : (s.perform place).guards = s.guards := by
  rcases s.perform_cases place with same | ⟨task, _, same⟩ <;> rw [same]

@[simp] theorem perform_leaving : (s.perform place).leaving = s.leaving := by
  rcases s.perform_cases place with same | ⟨task, _, same⟩ <;> rw [same]

@[simp] theorem perform_listens : (s.perform place).station.loop.listens = s.station.loop.listens := by
  rcases s.perform_cases place with same | ⟨task, _, same⟩
  · rw [same]
  · rw [same]
    cases (s.station.perform task).2 with
    | none => rfl
    | some event => exact Station.post_listens _ event

@[simp] theorem perform_scheduler : (s.perform place).station.loop.scheduler = s.station.loop.scheduler := by
  rcases s.perform_cases place with same | ⟨task, _, same⟩
  · rw [same]
  · rw [same]
    cases (s.station.perform task).2 with
    | none => rfl
    | some event => exact Station.post_scheduler _ event

variable (task : Task) (found : s.station.agenda[place]? = some task)
include found

theorem perform_station : (s.perform place).station =
    { (s.station.perform task).2.toList.foldl (fun s event => s.post event) s.station with
      agenda := s.station.agenda.take place ++ (s.station.perform task).1.toList ++
        s.station.agenda.drop (place + 1) } := by
  rw [perform, found]
  exact s.station.posted_apart _ _

theorem perform_agenda : s.station.agenda = s.station.agenda.take place ++ task :: s.station.agenda.drop (place + 1) ∧
    (s.perform place).station.agenda = s.station.agenda.take place ++ (s.station.perform task).1.toList ++
      s.station.agenda.drop (place + 1) := by
  obtain ⟨within, same⟩ := List.getElem?_eq_some_iff.1 found
  constructor
  · rw [← same, ← List.drop_eq_getElem_cons within, List.take_append_drop]
  · rw [perform_station s place task found]

theorem perform_pending : (s.perform place).pending =
    s.pending ++ if s.station.loop.listens then (s.station.perform task).2.toList else [] := by
  rw [pending, pending, perform_station s place task found]
  cases (s.station.perform task).2 with
  | none => simp
  | some event => exact s.station.post_pending event

end

theorem work_closing (answers : Answers) (agrees : s.HistoryAgrees settings) (free : s.orders = [])
    (taken : (s.work answers).station.loop.stage ≠ .receiving)
    (stopped : (s.work answers).station.loop.stage ≠ .stopping) : .shutdown ∈ (s.work answers).history.calls := by
  have loopStep := s.station.loop.look_cases (.plain Event) agrees.listens
  have worked := work_eq s answers free
  have stage : (s.work answers).station.loop.stage = s.station.loop.look.2.stage := by
    rw [worked]
    exact (EventLoop.advance_aside answers s.station.loop).1
  rw [stage] at taken stopped
  rw [worked]
  show .shutdown ∈ (s.history.attend answers s.station.loop.look.1).calls
  rcases loopStep.closing taken stopped with ⟨before, earlier⟩ | shut
  · exact attend_calls s.history answers _ (agrees.closing before earlier)
  · rw [shut]
    simp [History.attend, History.calls, History.next_log, History.spoken, Entry.call?]

theorem work_historyAgrees (answers : Answers) (agrees : s.HistoryAgrees settings) :
    (s.work answers).HistoryAgrees settings := by
  by_cases free : s.orders = []
  · have worked := work_eq s answers free
    have works := work_cases settings s answers agrees free
    refine ⟨?_, ?_, ?_, work_listens s answers agrees.listens, ?_⟩
    · cases works with
      | idle history _ _ => exact history ▸ agrees.reached
      | passed event _ history _ _ => exact history ▸ agrees.reached
      | called call history _ _ =>
          rw [history]
          exact .next answers call s.history agrees.reached
    · rw [worked]
      rcases s.station.loop.advance_cases answers with ⟨nothing, advanced⟩ | ⟨event, found, advanced⟩
      · rw [nothing, advanced]
        exact s.station.loop.look_aside.1.trans agrees.scheduler
      · rw [found, advanced]
        show (s.station.loop.scheduler.attend answers event).1 = _
        rw [agrees.scheduler]
        cases event <;> rfl
    · have said : ∀ orders : List Output, (s.shown.map Prod.snd ++ orders).filterMap Output.effect? =
          s.history.effects ++ orders.filterMap Output.effect? := by
        intro orders
        rw [agrees.effects, ordered, free, List.append_nil, List.filterMap_append]
      rw [ordered, work_shown, said]
      cases works with
      | idle history silent _ => rw [history, silent, List.append_nil]
      | passed event _ history silent _ => rw [history, silent, List.append_nil]
      | called call history told _ => rw [history, told, History.next_effects]
    · exact work_closing settings s answers agrees free
  · rw [work_busy s answers free]
    exact agrees

theorem perform_historyAgrees (place : Nat) (agrees : s.HistoryAgrees settings) :
    (s.perform place).HistoryAgrees settings := by
  rcases s.perform_cases place with same | ⟨task, _, same⟩
  · rw [same]
    exact agrees
  · rw [same]
    cases (s.station.perform task).2 with
    | none => exact agrees.unchanged settings s _ rfl rfl rfl rfl rfl
    | some event => exact agrees.unchanged settings s _ rfl rfl (by simp) (by simp) (by simp)

theorem serve_nothing (free : s.orders = []) : s.serve = s := by
  unfold serve
  rw [free]

theorem serve_eq (order : Output) (rest : List Output) (orders : s.orders = order :: rest) :
    s.serve = { s with
      station := s.station.serveOutput order
      orders := rest
      shown := s.shown ++ [(s.station.clock, order)] } := by
  unfold serve
  rw [orders]

@[simp] theorem serve_clock : s.serve.station.clock = s.station.clock := by
  unfold serve
  split
  · rfl
  · exact (s.station.serveOutput_serves _).clock

theorem serve_historyAgrees (agrees : s.HistoryAgrees settings) : s.serve.HistoryAgrees settings := by
  unfold serve
  cases orders : s.orders with
  | nil => exact agrees
  | cons order rest =>
      have serves := s.station.serveOutput_serves order
      refine agrees.unchanged settings s _ rfl ?_ serves.scheduler serves.stage serves.listens
      simp [ordered, orders]

theorem leave_historyAgrees (token : LivenessToken) (agrees : s.HistoryAgrees settings) :
    (s.leave token).HistoryAgrees settings := by
  unfold leave
  split
  · exact agrees.unchanged settings s _ rfl rfl rfl rfl rfl
  · exact agrees

theorem close_historyAgrees (token : LivenessToken) (agrees : s.HistoryAgrees settings) :
    (s.close token).HistoryAgrees settings := by
  unfold close
  split
  · have serves := s.station.closeGuard_serves token
    exact agrees.unchanged settings s _ rfl rfl serves.scheduler serves.stage serves.listens
  · exact agrees

theorem act_historyAgrees (incident : Incident) (agrees : s.HistoryAgrees settings) :
    (s.act incident).HistoryAgrees settings := by
  cases incident with
  | send event =>
      have same := (s.station.post_stage event)
      exact agrees.unchanged settings s _ rfl rfl (s.station.post_scheduler event) same (s.station.post_listens event)
  | connect => exact agrees.unchanged settings s _ rfl rfl rfl rfl rfl
  | leave token => exact leave_historyAgrees settings s token agrees
  | close token => exact close_historyAgrees settings s token agrees
  | instruct resolver => exact agrees.unchanged settings s _ rfl rfl rfl rfl rfl
  | work answers => exact work_historyAgrees settings s answers agrees
  | serve => exact serve_historyAgrees settings s agrees
  | perform place => exact perform_historyAgrees settings s place agrees
  | pass till => exact agrees.unchanged settings s _ rfl rfl rfl rfl rfl

theorem begin_historyAgrees (timer : Timer) (ready : Bool) (positive : ∀ l, 0 < settings.get l) :
    (begin timer (.fresh settings ready)).HistoryAgrees settings :=
  ⟨History.fresh_reached settings ready positive, rfl, rfl, rfl, fun taken _ => absurd rfl taken⟩

theorem reached_historyAgrees (allowed : Shift → Incident → Bool) (path : Reached settings allowed s) :
    s.HistoryAgrees settings := by
  induction path with
  | start timer ready s made =>
      obtain ⟨positive, rfl⟩ := (start_eq_ok_iff settings s timer ready).1 made
      exact begin_historyAgrees settings timer ready positive
  | next incident s path permitted ih => exact act_historyAgrees settings s incident ih

end Shift
end Ranging

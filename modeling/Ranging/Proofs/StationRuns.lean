import Ranging.Proofs.StationTimer
import Ranging.Proofs.TokenPhases
import Ranging.Station.Run

-- The station settles and lets time pass in an order of its own: first the channel, then the tasks, then the clock.
-- Whatever it comes to that way, a shift comes to as well, with the same orders carried out, so what holds of every
-- shift holds of the station as it runs.
namespace Ranging

theorem LoopStep.deaf {contents rest : Contents Event} {stage after : Stage} {event : Option Event}
    (loopStep : LoopStep contents stage event after rest) (deaf : stage.isOpen = false) : after.isOpen = false := by
  cases loopStep with
  | waiting => cases deaf
  | unoccupied => cases deaf
  | told => cases deaf
  | taken => cases deaf
  | shut => cases deaf
  | _ => rfl

theorem LoopStep.follows {contents rest : Contents Event} {stage after : Stage} {event : Event}
    (loopStep : LoopStep contents stage (some event) after rest) :
    after = .receiving ∨ event = .call .shutdown ∨ after.isOpen = false := by
  cases loopStep with
  | taken => exact .inl rfl
  | shut => exact .inr (.inl rfl)
  | drained => exact .inr (.inr rfl)

namespace EventLoop
variable (answers : Answers) (l : EventLoop)

theorem advance_deaf (listens : l.listens = l.stage.isOpen) (deaf : l.stage.isOpen = false) :
    (l.advance answers).1.stage.isOpen = false := by
  have loopStep := l.look_cases (.plain Event) listens
  rw [(advance_aside answers l).1]
  exact loopStep.deaf deaf

theorem proceed_deaf (steps : Nat) (listens : l.listens = l.stage.isOpen) (deaf : l.stage.isOpen = false) :
    EventLoop.listens (l.proceed answers steps).1 = false := by
  induction steps generalizing l with
  | zero => exact listens.trans deaf
  | succ steps ih =>
      rw [Loop.proceed]
      split
      · exact ih _ (advance_listens answers l listens) (advance_deaf answers l listens deaf)
      · exact listens.trans deaf

theorem shutdown_silent (s : Scheduler) :
    ∀ order ∈ (s.attend answers (.call .shutdown)).2, order.isRegister = false := by
  intro order said
  obtain ⟨effect, told, rfl⟩ := List.mem_map.1 said
  have kind := s.shutdown_routine effect told
  cases effect with
  | register token => cases kind
  | _ => rfl

-- Where the loop has more to do before the next event, the step before watches nobody, or nobody hears of it.
theorem advance_apart (listens : l.listens = l.stage.isOpen) (hurries : (l.advance answers).1.hurries = true) :
    (∀ order ∈ (l.advance answers).2, order.isRegister = false) ∨ (l.advance answers).1.stage.isOpen = false := by
  have loopStep := l.look_cases (.plain Event) listens
  rcases l.advance_cases answers with ⟨_, advanced⟩ | ⟨event, found, advanced⟩
  · rw [advanced]
    exact .inl (by simp)
  · rw [found] at loopStep
    rcases loopStep.follows with receiving | rfl | closed
    · rw [← (advance_aside answers l).1] at receiving
      simp [Loop.hurries, receiving] at hurries
    · rw [advanced]
      exact .inl (shutdown_silent answers l.scheduler)
    · rw [← (advance_aside answers l).1] at closed
      exact .inr closed

end EventLoop

-- What the loop orders before it hurries on does not reach it, so it makes no odds whether that is carried out
-- before or after.
theorem Station.hurried_apart (s : Station) (answers : Answers) (steps : Nat)
    (listens : s.loop.listens = s.loop.stage.isOpen) (hurries : (s.loop.advance answers).1.hurries = true) :
    let first := s.loop.advance answers
    let middle := first.2.foldl serveOutput { s with loop := first.1 }
    middle.loop = first.1 ∧ first.2.foldl serveOutput { s with loop := (first.1.proceed answers steps).1 } =
      { middle with loop := (first.1.proceed answers steps).1 } := by
  intro first middle
  have alike : ∀ l : EventLoop, (first.1.stage.isOpen = false → l.listens = false) →
      first.2.foldl serveOutput { s with loop := l } = { middle with loop := l } := by
    intro l deaf
    refine serveAll_apart { s with loop := first.1 } l first.2 ?_
    refine (EventLoop.advance_apart answers s.loop listens hurries).imp_right fun closed => ⟨?_, deaf closed⟩
    exact (EventLoop.advance_listens answers s.loop listens).trans closed
  constructor
  · refine congrArg Station.loop (alike first.1 ?_)
    exact fun closed => (EventLoop.advance_listens answers s.loop listens).trans closed
  · refine alike _ fun closed => ?_
    exact EventLoop.proceed_deaf answers first.1 steps (EventLoop.advance_listens answers s.loop listens) closed

namespace Shift

-- What a shift does by itself without time passing: every call reads the station's clock, and the tasks have their
-- turns between two calls.
def ownSteps (s : Shift) (incident : Incident) : Bool :=
  match incident with
  | .work answers => decide (answers.admissionClock = s.station.now ∧ answers.dispatchClock = s.station.now)
  | .serve => true
  | .perform _ => s.orders.isEmpty
  | _ => false

-- While only what is allowed happens the shift comes to that station, with that carried out on the way.
def Reaches (allowed : Shift → Incident → Bool) (s : Shift) (after : Station) (said : List Output) : Prop :=
  ∃ incidents, permits allowed incidents s = true ∧ (s.run incidents).station = after ∧
    (s.run incidents).orders = [] ∧ (s.run incidents).shown.map Prod.snd = s.shown.map Prod.snd ++ said

variable (settings : Settings) (allowed : Shift → Incident → Bool) (s : Shift)

theorem run_append (first second : List Incident) : s.run (first ++ second) = (s.run first).run second :=
  List.foldl_append

theorem permits_append (first second : List Incident) : permits allowed (first ++ second) s =
    (permits allowed first s && permits allowed second (s.run first)) := by
  induction first generalizing s with
  | nil => rfl
  | cons incident rest ih =>
      show (allowed s incident && permits allowed (rest ++ second) (s.act incident)) = _
      rw [ih, ← Bool.and_assoc]
      rfl

theorem run_historyAgrees (incidents : List Incident) (agrees : s.HistoryAgrees settings) :
    (s.run incidents).HistoryAgrees settings := by
  induction incidents generalizing s with
  | nil => exact agrees
  | cons incident rest ih => exact ih _ (act_historyAgrees settings s incident agrees)

namespace Reaches

theorem refl (free : s.orders = []) : s.Reaches allowed s.station [] := ⟨[], rfl, rfl, free, by simp [run]⟩

theorem cons (incident : Incident) (after : Station) (said : List Output) (here : allowed s incident = true)
    (shown : (s.act incident).shown = s.shown) (onward : (s.act incident).Reaches allowed after said) :
    s.Reaches allowed after said := by
  obtain ⟨incidents, permitted, station, free, told⟩ := onward
  refine ⟨incident :: incidents, ?_, station, free, ?_⟩
  · exact Bool.and_eq_true_iff.2 ⟨here, permitted⟩
  · rw [← shown]
    exact told

theorem andThen (middle after : Station) (said more : List Output) (agrees : s.HistoryAgrees settings)
    (first : s.Reaches allowed middle said)
    (second : ∀ t : Shift, t.HistoryAgrees settings → t.orders = [] → t.station = middle →
      t.Reaches allowed after more) :
    s.Reaches allowed after (said ++ more) := by
  obtain ⟨incidents, permitted, station, free, shown⟩ := first
  obtain ⟨others, permitted', station', free', shown'⟩ :=
    second (s.run incidents) (run_historyAgrees settings s incidents agrees) free station
  refine ⟨incidents ++ others, ?_, ?_, ?_, ?_⟩
  · rw [permits_append, permitted, permitted']
    rfl
  · rw [run_append, station']
  · rw [run_append, free']
  · rw [run_append, shown', shown, List.append_assoc]

end Reaches

theorem serveAll_reaches (orders : List Output) (ordered : s.orders = orders) :
    s.Reaches ownSteps (orders.foldl Station.serveOutput s.station) orders := by
  induction orders generalizing s with
  | nil => exact .refl ownSteps s ordered
  | cons order rest ih =>
      have served := serve_eq s order rest ordered
      obtain ⟨incidents, permitted, station, free, shown⟩ := ih s.serve (by rw [served])
      refine ⟨.serve :: incidents, permitted, ?_, free, ?_⟩
      · refine station.trans ?_
        rw [served]
        rfl
      · refine shown.trans ?_
        rw [served]
        simp

section
variable (answers : Answers)
  (reads : answers.admissionClock = s.station.now ∧ answers.dispatchClock = s.station.now)
include reads

theorem work_reaches (free : s.orders = []) : s.Reaches ownSteps ((s.station.loop.advance answers).2.foldl
      Station.serveOutput { s.station with loop := (s.station.loop.advance answers).1 })
    (s.station.loop.advance answers).2 := by
  have worked := work_eq s answers free
  have served := serveAll_reaches (s.work answers) (s.station.loop.advance answers).2 (by rw [worked])
  have station : (s.work answers).station = { s.station with loop := (s.station.loop.advance answers).1 } := by
    rw [worked]
  rw [station] at served
  exact .cons ownSteps s (.work answers) _ _ (decide_eq_true reads) (work_shown s answers) served

-- One event, and all that follows before the next. The loop orders all of it before any of it is carried out.
theorem proceed_reaches (steps : Nat) (agrees : s.HistoryAgrees settings) (free : s.orders = []) :
    let first := s.station.loop.advance answers
    let others := first.1.proceed answers steps
    s.Reaches ownSteps ((first.2 ++ others.2).foldl Station.serveOutput { s.station with loop := others.1 })
      (first.2 ++ others.2) := by
  induction steps generalizing s with
  | zero =>
      simp only [Loop.proceed, List.append_nil]
      exact work_reaches s answers reads free
  | succ steps ih =>
      intro first others
      by_cases hurries : first.1.hurries = true
      · have proceeds : others = (((first.1.advance answers).1.proceed answers steps).1, (first.1.advance answers).2 ++
            ((first.1.advance answers).1.proceed answers steps).2) := if_pos hurries
        let middle := first.2.foldl Station.serveOutput { s.station with loop := first.1 }
        have loop : middle.loop = first.1 := (s.station.hurried_apart answers (steps + 1) agrees.listens hurries).1
        have alike : first.2.foldl Station.serveOutput { s.station with loop := others.1 } =
            { middle with loop := others.1 } := (s.station.hurried_apart answers (steps + 1) agrees.listens hurries).2
        have clock : middle.clock = s.station.clock := (Station.serveAll_serves _ first.2).clock
        rw [List.foldl_append, alike]
        refine .andThen settings ownSteps s middle _ _ _ agrees (work_reaches s answers reads free) ?_
        intro t duty' free' station
        have onward := ih t (by rw [station, Station.now, clock]; exact reads) duty' free'
        rw [station, loop] at onward
        rw [proceeds]
        exact onward
      · have waits : others = (first.1, []) := if_neg hurries
        rw [waits, List.append_nil]
        exact work_reaches s answers reads free

end

variable (answers : Answers)

theorem handleNext_reaches (agrees : s.HistoryAgrees settings) (free : s.orders = []) :
    s.Reaches ownSteps (s.station.handleNext answers).1 (s.station.handleNext answers).2 :=
  proceed_reaches settings s (answers.at s.station.now) ⟨rfl, rfl⟩ 3 agrees free

theorem handleMany_reaches (many : Nat) (agrees : s.HistoryAgrees settings) (free : s.orders = []) :
    s.Reaches ownSteps (s.station.handleMany answers many).1 (s.station.handleMany answers many).2 := by
  induction many generalizing s with
  | zero => exact .refl ownSteps s free
  | succ many ih =>
      refine .andThen settings ownSteps s _ _ _ _ agrees (handleNext_reaches settings s answers agrees free) ?_
      intro t agrees free station
      have onward := ih t agrees free
      rw [station] at onward
      exact onward

theorem drain_reaches (agrees : s.HistoryAgrees settings) (free : s.orders = []) :
    s.Reaches ownSteps (s.station.drain answers).1 (s.station.drain answers).2 := by
  refine .andThen settings ownSteps s _ _ _ _ agrees (handleMany_reaches settings s answers _ agrees free) ?_
  intro t agrees free station
  have onward := handleMany_reaches settings t answers t.station.loop.pending.length agrees free
  rw [station] at onward
  exact onward

-- The tasks have their turns one after the other, those in front of `kept` are done. What they tell the loop
-- comes onto the channel at once, and no other task looks there.
theorem performAll_reaches (kept rest : Agenda) (agenda : s.station.agenda = kept ++ rest) (free : s.orders = []) :
    s.Reaches ownSteps (((rest.map s.station.perform).filterMap Prod.snd).foldl (fun s event => s.post event)
      { s.station with agenda := kept ++ (rest.map s.station.perform).filterMap Prod.fst }) [] := by
  induction rest generalizing s kept with
  | nil =>
      have same : s.station = { s.station with agenda := kept ++ [] } := by rw [← agenda]
      exact same ▸ .refl ownSteps s free
  | cons task rest ih =>
      have found : s.station.agenda[kept.length]? = some task := by simp [agenda]
      have after : (s.perform kept.length).station.agenda = kept ++ (s.station.perform task).1.toList ++ rest := by
        rw [(perform_agenda s kept.length task found).2, agenda]
        simp
      have told : ∀ agenda, (s.station.perform task).2.toList.foldl (fun s event => s.post event)
          { s.station with agenda := agenda } = { (s.perform kept.length).station with agenda := agenda } := by
        intro agenda
        rw [perform_station s kept.length task found]
        exact s.station.posted_apart _ agenda
      have alike : (s.perform kept.length).station.perform = s.station.perform := by
        funext other
        exact s.station.perform_alike _ other (perform_clock s _) (perform_hub s _) (perform_resolver s _)
          (perform_timer s _) (perform_scheduler s _)
      have onward := ih (s.perform kept.length) _ after (by rw [perform_orders, free])
      rw [alike, ← told, List.append_assoc, ← List.foldl_append] at onward
      have left : ((task :: rest).map s.station.perform).filterMap Prod.fst =
          (s.station.perform task).1.toList ++ (rest.map s.station.perform).filterMap Prod.fst := by
        cases left : (s.station.perform task).1 <;> simp [left]
      have events : ((task :: rest).map s.station.perform).filterMap Prod.snd =
          (s.station.perform task).2.toList ++ (rest.map s.station.perform).filterMap Prod.snd := by
        cases event : (s.station.perform task).2 <;> simp [event]
      rw [left, events]
      exact .cons ownSteps s (.perform kept.length) _ _ (by simp [ownSteps, free]) (perform_shown s _) onward

theorem settleWithin_reaches (rounds : Nat) (agrees : s.HistoryAgrees settings) (free : s.orders = []) :
    s.Reaches ownSteps (s.station.settleWithin answers rounds).1 (s.station.settleWithin answers rounds).2 := by
  induction rounds generalizing s with
  | zero => exact .refl ownSteps s free
  | succ rounds ih =>
      have drained := drain_reaches settings s answers agrees free
      rw [Station.settleWithin]
      dsimp only
      split
      · exact drained
      · refine .andThen settings ownSteps s _ _ _ _ agrees drained ?_
        intro t agrees free station
        have performed := performAll_reaches t [] t.station.agenda rfl free
        refine .andThen settings ownSteps t _ _ [] _ agrees performed ?_
        intro u agrees free station'
        have onward := ih u agrees free
        rw [station', station] at onward
        exact onward

theorem settle_reaches (agrees : s.HistoryAgrees settings) (free : s.orders = []) :
    s.Reaches ownSteps (s.station.settle answers).1 (s.station.settle answers).2 :=
  settleWithin_reaches settings s answers s.station.rounds agrees free

def ownStepsOrPassing (s : Shift) (incident : Incident) : Bool :=
  match incident with
  | .pass _ => true
  | other => s.ownSteps other

theorem ownSteps_ownStepsOrPassing (incident : Incident) (ownSteps : s.ownSteps incident = true) :
    s.ownStepsOrPassing incident = true := by
  cases incident with
  | pass till => rfl
  | _ => exact ownSteps

theorem ownSteps_vouched (incident : Incident) (ownSteps : s.ownSteps incident = true) : s.vouched incident = true := by
  cases incident with
  | send event => cases ownSteps
  | _ => rfl

theorem ownSteps_timed (incident : Incident) (ownSteps : s.ownSteps incident = true) : s.timed incident = true := by
  cases incident with
  | send event => cases ownSteps
  | work answers => exact Bool.and_eq_true_iff.2 ⟨ownSteps, rfl⟩
  | perform place => exact Bool.and_eq_true_iff.2 ⟨ownSteps, rfl⟩
  | pass till => cases ownSteps
  | _ => rfl

theorem ownStepsOrPassing_vouched (incident : Incident) (ownStepsOrPassing : s.ownStepsOrPassing incident = true) :
    s.vouched incident = true := by
  cases incident with
  | pass till => rfl
  | _ => exact ownSteps_vouched s _ ownStepsOrPassing

theorem permits_wider (wider : Shift → Incident → Bool) (incidents : List Incident)
    (within : ∀ s incident, allowed s incident = true → wider s incident = true)
    (permitted : permits allowed incidents s = true) : permits wider incidents s = true := by
  induction incidents generalizing s with
  | nil => rfl
  | cons incident rest ih =>
      obtain ⟨here, onward⟩ := Bool.and_eq_true_iff.1 permitted
      exact Bool.and_eq_true_iff.2 ⟨within s incident here, ih _ onward⟩

theorem run_clock (incidents : List Incident) (permitted : permits ownSteps incidents s = true) :
    (s.run incidents).station.clock = s.station.clock := by
  induction incidents generalizing s with
  | nil => rfl
  | cons incident rest ih =>
      obtain ⟨here, onward⟩ := Bool.and_eq_true_iff.1 permitted
      refine (ih _ onward).trans ?_
      cases incident with
      | work answers => exact work_clock s answers
      | serve => exact serve_clock s
      | perform place => exact perform_clock s place
      | _ => cases here

namespace Reaches
variable (after : Station) (said : List Output)

theorem mono (wider : Shift → Incident → Bool) (reaching : s.Reaches allowed after said)
    (within : ∀ s incident, allowed s incident = true → wider s incident = true) : s.Reaches wider after said := by
  obtain ⟨incidents, permitted, ending⟩ := reaching
  exact ⟨incidents, permits_wider allowed s wider incidents within permitted, ending⟩

theorem clock_eq (reaching : s.Reaches ownSteps after said) : after.clock = s.station.clock := by
  obtain ⟨incidents, permitted, rfl, _⟩ := reaching
  exact run_clock s incidents permitted

theorem reached_shift (reaching : s.Reaches allowed after said) (path : Reached settings allowed s) :
    ∃ t, Reached settings allowed t ∧ t.station = after ∧ t.orders = [] ∧
      t.shown.map Prod.snd = s.shown.map Prod.snd ++ said := by
  obtain ⟨incidents, permitted, ending⟩ := reaching
  exact ⟨s.run incidents, run_reached settings allowed s incidents path permitted, ending⟩

end Reaches

theorem wait_reaches (till : Time) (later : s.station.clock ≤ till) (free : s.orders = []) :
    s.Reaches ownStepsOrPassing { s.station with clock := till } [] := by
  have passed : (s.act (.pass till)).station = { s.station with clock := till } := by
    show { s.station with clock := max s.station.clock till } = _
    rw [Nat.max_eq_right later]
  rw [← passed]
  exact .cons ownStepsOrPassing s (.pass till) _ _ rfl rfl (.refl ownStepsOrPassing _ free)

theorem passWithin_reaches (till : Time) (stops : Nat) (later : s.station.clock ≤ till)
    (agrees : s.HistoryAgrees settings) (free : s.orders = []) :
    s.Reaches ownStepsOrPassing (s.station.passWithin answers till stops).1
      (s.station.passWithin answers till stops).2 := by
  induction stops generalizing s with
  | zero => exact wait_reaches s till later free
  | succ stops ih =>
      rw [Station.passWithin]
      split
      · exact wait_reaches s till later free
      · rename_i due _
        split
        · exact wait_reaches s till later free
        · rename_i near
          have passed : (s.act (.pass due)).station = { s.station with clock := max due s.station.clock } := by
            rw [Nat.max_comm]
            rfl
          have agrees := act_historyAgrees settings s (.pass due) agrees
          have settled := settle_reaches settings (s.act (.pass due)) answers agrees free
          rw [passed] at settled
          have reaches := settled.clock_eq
          have within : max s.station.clock due ≤ till := Nat.max_le.2 ⟨later, Nat.le_of_not_lt near⟩
          refine .cons ownStepsOrPassing s (.pass due) _ _ rfl rfl ?_
          refine .andThen settings ownStepsOrPassing _ _ _ _ _ agrees
            (settled.mono ownSteps _ _ _ ownStepsOrPassing ownSteps_ownStepsOrPassing) ?_
          intro t agrees free station
          have onward := ih t (by rw [station, reaches]; exact within) agrees free
          rw [station] at onward
          exact onward

theorem pass_reaches (span : Time) (agrees : s.HistoryAgrees settings) (free : s.orders = []) :
    s.Reaches ownStepsOrPassing (s.station.pass answers span).1 (s.station.pass answers span).2 :=
  passWithin_reaches settings s answers _ _ (Nat.le_add_right _ span) agrees free

-- So a station that settles, or lets time pass, is the station of a shift that is reached, and what holds of every
-- such shift holds there.
theorem settle_reached (path : Reached settings timed s) (free : s.orders = []) :
    ∃ t, Reached settings timed t ∧ t.station = (s.station.settle answers).1 ∧ t.orders = [] ∧
      t.shown.map Prod.snd = s.shown.map Prod.snd ++ (s.station.settle answers).2 := by
  have reaching := settle_reaches settings s answers (reached_historyAgrees settings s timed path) free
  exact (reaching.mono ownSteps s _ _ timed ownSteps_timed).reached_shift settings timed s _ _ path

theorem pass_reached (span : Time) (path : Reached settings vouched s) (free : s.orders = []) :
    ∃ t, Reached settings vouched t ∧ t.station = (s.station.pass answers span).1 ∧ t.orders = [] ∧
      t.shown.map Prod.snd = s.shown.map Prod.snd ++ (s.station.pass answers span).2 := by
  have reaching := pass_reaches settings s answers span (reached_historyAgrees settings s vouched path) free
  have vouching := reaching.mono ownStepsOrPassing s _ _ vouched ownStepsOrPassing_vouched
  exact vouching.reached_shift settings vouched s _ _ path

end Shift
end Ranging

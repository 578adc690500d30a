import Ranging.Proofs.AfterShutdown
import Ranging.Recording
import Mathlib.Data.List.Destutter

-- Whoever listens to the announcements knows at any time whether ranging is possible. They tell of each change once,
-- and with one that takes ranging away go the failures of all who are live then.
namespace Ranging

structure Switches where
  ready : Bool
  idle : Bool

def Switches.possible (o : Switches) : Bool := o.ready && !o.idle

def Switches.told (o : Switches) : Call → Switches
  | .setHardware ready => { o with ready := ready }
  | .setIdle idle => { o with idle := idle }
  | _ => o

def Call.tells : Call → Bool
  | .setHardware _ => true
  | .setIdle _ => true
  | _ => false

-- What is possible after each call, up to the shutdown.
def course : Switches → List Call → List Availability
  | _, [] => []
  | _, .shutdown :: _ => []
  | o, call :: rest => .ofBool (o.told call).possible :: course (o.told call) rest

def announcements (said : List Effect) : List Availability := Recording.announced ⟨said⟩

-- Ranging has become impossible: that is announced, and then all hear of it who are live, the one in the slot first.
-- Nothing is handed over.
structure Turn.Disables (s : Scheduler) (t : Turn) : Prop where
  said : withoutReleases t.effects =
    .announce .disabled :: (s.slot.recalls ++ s.inService.map fun op => .failure op.id op.replyTo .unavailable)
  ended : t.ended = s.inService.map fun op => (op, .failed .resourceUnavailable)

def Scheduler.switchesOf (s : Scheduler) : Switches := ⟨s.hardwareReady, s.deviceIdle⟩

theorem announcements_append (first second : List Effect) :
    announcements (first ++ second) = announcements first ++ announcements second := List.filterMap_append

theorem announcements_none (said : List Effect) (kind : Effect → Bool) (apart : ∀ state, kind (.announce state) = false)
    (only : ∀ effect ∈ said, kind effect = true) : announcements said = [] := by
  refine List.filterMap_eq_nil_iff.2 fun effect here => ?_
  cases effect with
  | announce state => exact absurd (only _ here) (by simp [apart])
  | _ => rfl

-- What is heard and said on the way from one point to another, and how it goes with the switches.
structure Tells (heard : List Call) (said : List Effect) (d e : MidCall) : Prop where
  calls : e.calls = d.calls ++ heard
  effects : e.effects = d.effects ++ said
  switchesOf : e.scheduler.switchesOf = heard.foldl Switches.told d.scheduler.switchesOf
  shut : e.scheduler.shutDown = true → d.scheduler.shutDown = true ∨ .shutdown ∈ heard
  hushed : (∀ call ∈ heard, call.tells = false) → announcements said = []

namespace Tells
variable (d e f : MidCall)

theorem trans (heard more : List Call) (said again : List Effect) (first : Tells heard said d e)
    (second : Tells more again e f) : Tells (heard ++ more) (said ++ again) d f := by
  refine ⟨?_, ?_, ?_, ?_, ?_⟩
  · rw [second.calls, first.calls, List.append_assoc]
  · rw [second.effects, first.effects, List.append_assoc]
  · rw [second.switchesOf, first.switchesOf, List.foldl_append]
  · intro shut
    rcases second.shut shut with before | asked
    · rcases first.shut before with before | asked
      · exact .inl before
      · exact .inr (List.mem_append_left _ asked)
    · exact .inr (List.mem_append_right _ asked)
  · intro silent
    rw [announcements_append, first.hushed fun call here => silent call (List.mem_append_left _ here),
      second.hushed fun call here => silent call (List.mem_append_right _ here)]
    rfl

theorem unheard (said : List Effect) (calls : e.calls = d.calls) (effects : e.effects = d.effects ++ said)
    (switchesOf : e.scheduler.switchesOf = d.scheduler.switchesOf) (shut : e.scheduler.shutDown = d.scheduler.shutDown)
    (hushed : announcements said = []) : Tells [] said d e :=
  ⟨calls.trans (List.append_nil _).symm, effects, switchesOf, fun closed => .inl (shut ▸ closed), fun _ => hushed⟩

theorem heard (call : Call) (said : List Effect) (calls : e.calls = d.calls ++ [call])
    (effects : e.effects = d.effects ++ said) (switchesOf : e.scheduler.switchesOf = d.scheduler.switchesOf.told call)
    (shut : e.scheduler.shutDown = true → d.scheduler.shutDown = true ∨ call = .shutdown)
    (hushed : call.tells = false → announcements said = []) : Tells [call] said d e := by
  refine ⟨calls, effects, switchesOf, ?_, fun silent => hushed (silent call List.mem_cons_self)⟩
  intro closed
  exact (shut closed).imp_right fun same => List.mem_singleton.2 same.symm

end Tells

theorem interview_hushed (answers : Answers) (sub : Submission) (s : Scheduler) :
    announcements (s.interview answers sub).effects = [] := by
  rcases Scheduler.verdict_asks answers (s.operationOf answers sub) s.counted with asked | asked <;>
    simp [Scheduler.interview, asked, announcements, Recording.announced]

theorem enqueue_hushed (op : Operation) (s : Scheduler) : announcements (s.enqueue op).effects = [] := by
  unfold Scheduler.enqueue
  dsimp only
  split <;> rfl

theorem work_calls (d : MidCall) (turn : Turn) : (d.work turn).calls = d.calls := by
  simp [History.calls, List.filterMap_append, List.filterMap_map, Function.comp_def, Entry.call?]

theorem heard_calls (d : MidCall) (call : Call) (turn : Turn) :
    ((d.hear call).work turn).calls = d.calls ++ [call] := by
  simp [History.calls, List.filterMap_append, List.filterMap_map, Function.comp_def, Entry.call?]

theorem move_tells (d e : MidCall) (move : Move d e) : ∃ heard said, Tells heard said d e := by
  cases move with
  | hear call plain =>
      refine ⟨_, _, .heard d _ call [] ?_ (by simp) ?_ .inl fun _ => rfl⟩
      · simp [History.calls, List.filterMap_append, Entry.call?]
      · cases call <;> first | rfl | cases plain
  | discard cid report stale =>
      exact ⟨_, _, .heard d _ _ [] (heard_calls d _ _) (by simp [Scheduler.discard, Scheduler.still]) rfl .inl
        fun _ => rfl⟩
  | report cid report op due granted free slot same armed =>
      exact ⟨_, _, .heard d _ _ _ (heard_calls d _ _) (MidCall.heard_effects d _ _) rfl .inl fun _ => rfl⟩
  | expire cid op due free slot same armed =>
      exact ⟨_, _, .heard d _ _ _ (heard_calls d _ _) (MidCall.heard_effects d _ _) rfl .inl fun _ => rfl⟩
  | translate answer op unpoised slot =>
      exact ⟨_, _, .heard d _ _ _ (heard_calls d _ _) (MidCall.heard_effects d _ _) rfl .inl fun _ => rfl⟩
  | refuse answers sub kind wellFormed verdict =>
      refine ⟨_, _, .heard d _ _ _ (heard_calls d _ _) (MidCall.heard_effects d _ _) rfl .inl fun _ => ?_⟩
      rw [Turn.andThen_effects, announcements_append, interview_hushed,
        announcements_none _ _ (fun _ => rfl) (Scheduler.retire_filling _ _ _)]
      rfl
  | join answers sub wellFormed verdict unburied =>
      refine ⟨_, _, .heard d _ _ _ (heard_calls d _ _) (MidCall.heard_effects d _ _) rfl .inl fun _ => ?_⟩
      rw [Turn.andThen_effects, announcements_append, interview_hushed, enqueue_hushed]
      rfl
  | hardware ready =>
      exact ⟨_, _, .heard d _ _ _ (heard_calls d _ _)
        (MidCall.heard_effects d _ _) rfl .inl fun quiet => by cases quiet⟩
  | idleness idle =>
      exact ⟨_, _, .heard d _ _ _ (heard_calls d _ _)
        (MidCall.heard_effects d _ _) rfl .inl fun quiet => by cases quiet⟩
  | close openStill =>
      exact ⟨_, _, .heard d _ _ _ (heard_calls d _ _) (MidCall.heard_effects d _ _) rfl
        (fun _ => .inr rfl) fun _ => rfl⟩
  | bury token ids registry unburied purged =>
      exact ⟨_, _, .unheard d _ _ (work_calls d _) (MidCall.work_effects d _) rfl rfl rfl⟩
  | forget token buried gone => exact ⟨_, _, .unheard d _ [] rfl (List.append_nil _).symm rfl rfl rfl⟩
  | pull chosen free => exact ⟨_, _, .unheard d _ _ (work_calls d _) (MidCall.work_effects d _) rfl rfl rfl⟩
  | release op free slot => exact ⟨_, _, .unheard d _ _ (work_calls d _) (MidCall.work_effects d _) rfl rfl rfl⟩
  | revoke cid op due free slot same armed =>
      exact ⟨_, _, .unheard d _ _ (work_calls d _) (MidCall.work_effects d _) rfl rfl rfl⟩
  | retire op rest outcome first =>
      exact ⟨_, _, .unheard d _ _ (work_calls d _) (MidCall.work_effects d _) rfl rfl
        (announcements_none _ _ (fun _ => rfl) (Scheduler.retire_filling _ _ _))⟩
  | take op rest unpoised slot available queue =>
      exact ⟨_, _, .unheard d _ _ (work_calls d _) (MidCall.work_effects d _) rfl rfl rfl⟩
  | park op poised slot needs =>
      exact ⟨_, _, .unheard d _ _ (work_calls d _) (MidCall.work_effects d _) rfl rfl rfl⟩
  | bare op free poised slot known alone => exact ⟨_, _, .unheard d _ [] rfl (List.append_nil _).symm rfl rfl rfl⟩
  | reject op free poised slot known reachable =>
      exact ⟨_, _, .unheard d _ _ (work_calls d _) (MidCall.work_effects d _) rfl rfl rfl⟩
  | engage op now poised slot unarmed known reachable =>
      exact ⟨_, _, .unheard d _ _ (work_calls d _) (MidCall.work_effects d _) rfl rfl rfl⟩

theorem next_tells (settings : Settings) (h : History) (path : History.Reached settings h) (answers : Answers)
    (call : Call) : Tells [call] (h.scheduler.step answers call).effects (.clear h) (.clear (h.next answers call)) := by
  have moves := next_moves h answers call (reached_sound h settings path).slotMatches
  obtain ⟨heard, said, tells⟩ := moves.kept (fun d => ∃ heard said, Tells heard said (.clear h) d)
    (by
      intro d e before move
      obtain ⟨heard, said, first⟩ := before
      obtain ⟨more, again, second⟩ := move_tells d e move
      exact ⟨_, _, .trans _ d e heard more said again first second⟩)
    ⟨[], [], .unheard _ _ [] rfl (List.append_nil _).symm rfl rfl rfl⟩
  obtain rfl : heard = [call] := List.append_cancel_left (tells.calls.symm.trans (h.next_calls answers call))
  obtain rfl : said = (h.scheduler.step answers call).effects :=
    List.append_cancel_left (tells.effects.symm.trans (h.next_effects answers call))
  exact tells

namespace Scheduler
variable (answers : Answers) (s : Scheduler)

theorem available_switches : s.available = (!s.shutDown && s.switchesOf.possible) := Bool.and_assoc _ _ _

theorem reconsider_announces (before : Bool) : announcements (s.reconsider answers before).effects =
    if s.available = before then [] else [.ofBool s.available] := by
  unfold reconsider
  split
  · rfl
  · rw [Turn.andThen_effects, announcements_append]
    split
    · rw [announcements_none _ _ (fun _ => rfl) (fill_filling answers _)]
      rfl
    · rw [announcements_none _ _ (fun _ => rfl) (failAll_routine _ _)]
      rfl

theorem reconsider_disables (alerted : s.DeadlineArmed) (disabled : s.available = false) :
    (s.reconsider answers true).Disables s := by
  have changed : s.reconsider answers true =
      (Turn.did s [.announce .disabled]).andThen (failAll .resourceUnavailable) := by
    simp [reconsider, disabled, Turn.andThen, Availability.ofBool]
  rw [changed]
  constructor
  · rw [Turn.andThen_effects, withoutReleases_append, Turn.did_scheduler, failAll_withoutReleases s _ alerted]
    rfl
  · rw [Turn.andThen_ended, Turn.did_scheduler, failAll_ended]
    rfl

end Scheduler

structure History.AnnouncesChanges (ready : Bool) (calls : List Call) (h : History) : Prop where
  sampled : ∃ said, h.effects = .readiness ready :: said
  course : .ofBool ready :: announcements h.effects = (.ofBool ready :: course ⟨ready, false⟩ calls).destutter (· ≠ ·)
  alternating : (.ofBool ready :: announcements h.effects).IsChain (· ≠ ·)
  current : .shutdown ∉ calls →
    .ofBool h.scheduler.available = (announcements h.effects).getLast?.getD (.ofBool ready)
  told : ∀ answers call, .shutdown ∉ calls → call ≠ .shutdown →
    announcements (h.scheduler.step answers call).effects =
      if (h.next answers call).scheduler.available = h.scheduler.available then []
      else [.ofBool (h.next answers call).scheduler.available]
  others : ∀ answers call, call.tells = false ∨ .shutdown ∈ calls →
    announcements (h.scheduler.step answers call).effects = []
  recalls : ∀ op, h.scheduler.slot = .dispatched op → ∃ cid, op.correlation = some cid ∧
    h.scheduler.slot.recalls = [.disarm cid, .cancel cid op.hardwarePeers]
  disabled : ∀ answers call, call ≠ .shutdown → h.scheduler.available = true →
    (h.next answers call).scheduler.available = false → (h.scheduler.step answers call).Disables h.scheduler

section
variable (settings : Settings)

theorem reached_asked (h : History) (path : History.Reached settings h) (shut : h.scheduler.shutDown = true) :
    .shutdown ∈ h.calls := by
  induction path with
  | start ready h made =>
      obtain ⟨_, rfl⟩ := (History.start_eq_ok_iff settings ready h).1 made
      cases shut
  | next answers call h path ih =>
      rw [History.next_calls]
      rcases (next_tells settings h path answers call).shut shut with before | asked
      · exact List.mem_append_left _ (ih before)
      · exact List.mem_append_right _ asked

theorem next_announces (h : History) (path : History.Reached settings h) (unshut : h.scheduler.shutDown = false)
    (answers : Answers) (call : Call) (going : call ≠ .shutdown) :
    (h.next answers call).scheduler.shutDown = false ∧
    (h.next answers call).scheduler.available = (h.scheduler.switchesOf.told call).possible ∧
    announcements (h.scheduler.step answers call).effects =
      if (h.next answers call).scheduler.available = h.scheduler.available then []
      else [.ofBool (h.next answers call).scheduler.available] := by
  have tells := next_tells settings h path answers call
  have after : (h.next answers call).scheduler.shutDown = false := by
    refine Bool.eq_false_iff.2 fun shut => ?_
    rcases tells.shut shut with before | asked
    · exact Bool.false_ne_true (unshut.symm.trans before)
    · exact going (List.mem_singleton.1 asked).symm
  have switchesOf : (h.next answers call).scheduler.switchesOf = h.scheduler.switchesOf.told call := tells.switchesOf
  have available : (h.next answers call).scheduler.available = (h.scheduler.switchesOf.told call).possible := by
    rw [Scheduler.available_switches, after, switchesOf]
    rfl
  refine ⟨after, available, ?_⟩
  cases tell : call.tells with
  | false =>
      have same : h.scheduler.switchesOf.told call = h.scheduler.switchesOf := by
        cases call <;> first | rfl | cases tell
      have unchanged : (h.next answers call).scheduler.available = h.scheduler.available := by
        rw [available, same, Scheduler.available_switches, unshut]
        rfl
      rw [if_pos unchanged]
      exact tells.hushed (by simp [tell])
  | true =>
      cases call with
      | setHardware ready =>
          have stays := Scheduler.step_available answers h.scheduler (.setHardware ready)
          refine (Scheduler.reconsider_announces answers _ _).trans ?_
          rw [show (h.next answers (.setHardware ready)).scheduler.available = _ from stays]
      | setIdle idle =>
          have stays := Scheduler.step_available answers h.scheduler (.setIdle idle)
          refine (Scheduler.reconsider_announces answers _ _).trans ?_
          rw [show (h.next answers (.setIdle idle)).scheduler.available = _ from stays]
      | _ => cases tell

theorem ofBool_injective : Function.Injective Availability.ofBool := by
  intro a b same
  cases a <;> cases b <;> first | rfl | cases same

theorem course_cons (o : Switches) (call : Call) (rest : List Call) (going : call ≠ .shutdown) :
    course o (call :: rest) = .ofBool (o.told call).possible :: course (o.told call) rest := by
  cases call <;> first | rfl | exact absurd rfl going

-- By induction on the calls: what is announced from a point on is what changes from there.
theorem run_announces (calls : List (Answers × Call)) (h : History) (path : History.Reached settings h)
    (unshut : h.scheduler.shutDown = false) : ∃ said, (h.run calls).effects = h.effects ++ said ∧
      .ofBool h.scheduler.available :: announcements said =
        (.ofBool h.scheduler.available :: course h.scheduler.switchesOf (calls.map Prod.snd)).destutter (· ≠ ·) ∧
      (.shutdown ∉ calls.map Prod.snd → .ofBool (h.run calls).scheduler.available =
        (announcements said).getLast?.getD (.ofBool h.scheduler.available)) := by
  induction calls generalizing h with
  | nil => exact ⟨[], (List.append_nil _).symm, rfl, fun _ => rfl⟩
  | cons entry rest ih =>
      obtain ⟨answers, call⟩ := entry
      have next := History.Reached.next answers call h path
      by_cases going : call = .shutdown
      · subst going
        obtain ⟨⟨said, effects, quiet⟩, _⟩ := run_dismissals settings rest _ next (by simp [History.next_calls])
        refine ⟨(h.scheduler.step answers .shutdown).effects ++ said, ?_, ?_, ?_⟩
        · rw [← List.append_assoc, ← History.next_effects]
          exact effects
        · have silent : announcements (h.scheduler.step answers .shutdown).effects = [] :=
            announcements_none _ _ (fun _ => rfl) h.scheduler.shutdown_routine
          rw [announcements_append, silent, announcements_none said _ (fun _ => rfl) quiet]
          rfl
        · intro never
          exact absurd List.mem_cons_self never
      · obtain ⟨after, available, told⟩ := next_announces settings h path unshut answers call going
        obtain ⟨said, effects, changes, current⟩ := ih _ next after
        have switchesOf : (h.next answers call).scheduler.switchesOf = h.scheduler.switchesOf.told call :=
          (next_tells settings h path answers call).switchesOf
        have goes := course_cons h.scheduler.switchesOf call (rest.map Prod.snd) going
        rw [← available, ← switchesOf] at goes
        have whole : (h.next answers call).effects ++ said =
            h.effects ++ ((h.scheduler.step answers call).effects ++ said) := by
          rw [History.next_effects, List.append_assoc]
        refine ⟨_, effects.trans whole, ?_⟩
        rw [List.destutter_cons'] at changes
        rw [List.map_cons, goes, List.destutter_cons', announcements_append, told]
        by_cases same : (h.next answers call).scheduler.available = h.scheduler.available
        · rw [if_pos same, List.nil_append, List.destutter'_cons_neg _ (by simp [same]), ← same]
          exact ⟨changes, fun never => current fun later => never (List.mem_cons_of_mem _ later)⟩
        · have changed := ofBool_injective.ne (Ne.symm same)
          rw [if_neg same, List.singleton_append, List.destutter'_cons_pos _ changed, ← changes, List.getLast?_cons]
          exact ⟨rfl, fun never => current fun later => never (List.mem_cons_of_mem _ later)⟩

theorem next_disables (h : History) (path : History.Reached settings h) (answers : Answers) (call : Call)
    (going : call ≠ .shutdown) (before : h.scheduler.available = true)
    (after : (h.next answers call).scheduler.available = false) :
    (h.scheduler.step answers call).Disables h.scheduler := by
  have alerted := reached_deadlineArmed settings h path
  have depends := (Scheduler.step_available answers h.scheduler call).symm.trans after
  have kept : h.scheduler.available ≠ false := by simp [before]
  cases call with
  | setHardware ready =>
      have disables := Scheduler.reconsider_disables answers { h.scheduler with hardwareReady := ready } alerted depends
      rw [← before] at disables
      exact ⟨disables.said, disables.ended⟩
  | setIdle idle =>
      have disables := Scheduler.reconsider_disables answers { h.scheduler with deviceIdle := idle } alerted depends
      rw [← before] at disables
      exact ⟨disables.said, disables.ended⟩
  | shutdown => exact absurd rfl going
  | _ => exact absurd depends kept

end

theorem start_announcesChanges (settings : Settings) (ready : Bool) (h : History)
    (made : History.start settings ready = .ok h)
    (calls : List (Answers × Call)) : (h.run calls).AnnouncesChanges ready (calls.map Prod.snd) := by
  have start := History.Reached.start ready h made
  have path := History.run_reached settings calls h start
  obtain ⟨_, rfl⟩ := (History.start_eq_ok_iff settings ready h).1 made
  obtain ⟨said, effects, changes, current⟩ := run_announces settings calls _ start rfl
  have heard : (History.fresh settings ready |>.run calls).calls = calls.map Prod.snd := History.run_calls _ _
  have opened : (History.fresh settings ready).scheduler.available = ready := by
    simp [History.fresh, Scheduler.fresh, Scheduler.available]
  have told : announcements ((History.fresh settings ready).run calls).effects = announcements said := by
    rw [effects]
    rfl
  rw [opened] at changes current
  refine ⟨⟨said, effects⟩, ?_, ?_, ?_, ?_, ?_, ?_, ?_⟩
  · rw [told]
    exact changes
  · rw [told, changes]
    exact List.isChain_destutter (· ≠ ·) _
  · rw [told]
    exact current
  · intro answers call never going
    have unshut : ((History.fresh settings ready).run calls).scheduler.shutDown = false :=
      Bool.eq_false_iff.2 fun shut => never (heard ▸ reached_asked settings _ path shut)
    exact (next_announces settings _ path unshut answers call going).2.2
  · intro answers call quiet
    rcases quiet with silent | asked
    · exact (next_tells settings _ path answers call).hushed (by simp [silent])
    · have shut := reached_closed settings _ path (heard ▸ asked)
      exact announcements_none _ _ (fun _ => rfl) ((shut_closed settings _ path shut).dismissals _ answers call)
  · intro op slot
    obtain ⟨cid, _, same, _⟩ := reached_deadlineArmed settings _ path op slot
    exact ⟨cid, same, by simp [slot, Slot.recalls, same]⟩
  · intro answers call
    exact next_disables settings _ path answers call

-- Two are live as the device becomes idle. By the time it is not, the hardware is not ready.
def Call.switches : List (Answers × Call) := List.map (Prod.mk Answers.sample)
  [.submit (.sample 1 (.sample 1)), .submit (.sample 2 (.sample 2)), .setIdle true, .setIdle true, .setHardware false,
    .setIdle false, .setHardware true, .submit (.sample 3 (.sample 3))]

theorem switches_announcesChanges : History.start .standard true = .ok (.fresh .standard true) ∧
    announcements ((History.fresh .standard true).run Call.switches).effects = [.disabled, .enabled] ∧
    ((History.fresh .standard true).run Call.switches).ended.map Prod.snd =
      [.failed .resourceUnavailable, .failed .resourceUnavailable] ∧
    ((History.fresh .standard true).run Call.switches).AnnouncesChanges true (Call.switches.map Prod.snd) :=
  ⟨rfl, by decide, by decide, start_announcesChanges .standard true _ rfl Call.switches⟩

end Ranging

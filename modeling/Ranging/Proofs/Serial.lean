import Ranging.Proofs.ReplyCounts
import Ranging.Proofs.LoopSteps
import Ranging.Proofs.Audit

-- Whoever calls, and whenever: the loop does what a scheduler does to which the same events are put one after
-- the other. The events between the shutdown and the closing of the channel, and those that a second
-- shutdown follows, are no exception.
namespace Ranging

def Action.isWork : Action → Bool
  | .work _ => true
  | _ => false

def Action.isCall : Action → Bool
  | .call _ => true
  | _ => false

namespace Exchange
variable {c : Channel Event} (f : c.Faithful) (settings : Settings) (ready : Bool) (x : Exchange c)

abbrev Aligned (x : Exchange c) : Prop :=
  Linked x.loop.stage (f.view x.loop.inbox) x.handles x.sent x.attended

structure Matched (x : Exchange c) : Prop where
  linked : x.Aligned f
  limit : x.loop.maxPeers = settings.maxPeers
  formed : ∀ sub ∈ x.sent.filterMap Event.submission?, sub.request.validate settings.maxPeers = .ok ()
  played : x.loop.scheduler = ((Scheduler.fresh settings ready).attendAll x.handled).1
  shown : x.outputs = .effect (.readiness ready) :: ((Scheduler.fresh settings ready).attendAll x.handled).2

inductive Called (x : Exchange c) (errand : Errand) : Exchange c → Prop
  | sent (inbox : c.State) : errand.checked x.loop.maxPeers = .ok () → x.loop.stage.isOpen = true →
      f.view inbox = { f.view x.loop.inbox with queued := (f.view x.loop.inbox).queued ++ [errand.event] } →
      Called x errand { x with
        loop := { x.loop with inbox := inbox }
        returned := x.returned ++ [(errand, .ok ())] }
  | refused (e : CallError) : errand.checked x.loop.maxPeers = .error e →
      Called x errand { x with returned := x.returned ++ [(errand, .error e)] }
  | lost : errand.checked x.loop.maxPeers = .ok () → x.loop.stage.isOpen = false →
      Called x errand { x with returned := x.returned ++ [(errand, .error .closed)] }

theorem call_cases (errand : Errand) (isOpen : (f.view x.loop.inbox).isOpen = x.loop.stage.isOpen) :
    Called f x errand (x.call errand) := by
  cases checked : errand.checked x.loop.maxPeers with
  | error e =>
      simp only [call, Loop.call, checked]
      exact .refused e checked
  | ok _ =>
      cases accepting : x.loop.stage.isOpen with
      | true =>
          obtain ⟨inbox, sent, view⟩ := f.send_open errand.event x.loop.inbox (isOpen.trans accepting)
          simp only [call, Loop.call, Loop.post, checked, sent]
          exact .sent inbox checked accepting view
      | false =>
          simp only [call, Loop.call, Loop.post, checked, f.send_closed _ _ (isOpen.trans accepting)]
          exact .lost checked accepting

theorem sent_ok (y : Exchange c) (errand : Errand) (returned : y.returned = x.returned ++ [(errand, .ok ())]) :
    y.sent = x.sent ++ [errand.event] := by
  simp [sent, returned]

theorem sent_error (y : Exchange c) (errand : Errand) (e : CallError)
    (returned : y.returned = x.returned ++ [(errand, .error e)]) : y.sent = x.sent := by
  simp [sent, returned]

theorem matched_refused (errand : Errand) (e : CallError) (matched : Matched f settings ready x) :
    Matched f settings ready { x with returned := x.returned ++ [(errand, .error e)] } := by
  have same := x.sent_error { x with returned := x.returned ++ [(errand, .error e)] } errand e rfl
  obtain ⟨linked, limit, formed, played, shown⟩ := matched
  rw [Aligned, ← same] at linked
  rw [← same] at formed
  exact ⟨linked, limit, formed, played, shown⟩

theorem matched_call (errand : Errand) (held : x.handles ≠ 0) (matched : Matched f settings ready x) :
    Matched f settings ready (x.call errand) := by
  have called := call_cases f x errand matched.linked.isOpen
  generalize x.call errand = y at called ⊢
  cases called with
  | sent inbox checked accepting view =>
      have sent := x.sent_ok { x with
        loop := { x.loop with inbox := inbox }
        returned := x.returned ++ [(errand, .ok ())] } errand rfl
      obtain ⟨linked, limit, formed, played, shown⟩ := matched
      have linked := linked.send held accepting errand.event
      rw [← view, ← sent] at linked
      refine ⟨linked, limit, ?_, played, shown⟩
      intro sub member
      rw [sent, List.filterMap_append] at member
      rcases List.mem_append.1 member with old | new
      · exact formed sub old
      · cases errand with
        | submit other =>
            cases List.mem_singleton.1 new
            exact limit ▸ checked
        | _ => cases new
  | refused e checked => exact matched_refused f settings ready x errand e matched
  | lost checked closed => exact matched_refused f settings ready x errand .closed matched

theorem matched_clone (held : x.handles ≠ 0) (matched : Matched f settings ready x) :
    Matched f settings ready { x with loop := x.loop.join, handles := x.handles + 1 } := by
  obtain ⟨linked, limit, formed, played, shown⟩ := matched
  have linked := linked.join held
  rw [← f.addSender] at linked
  exact ⟨linked, limit, formed, played, shown⟩

theorem matched_drop (held : x.handles ≠ 0) (matched : Matched f settings ready x) :
    Matched f settings ready { x with loop := x.loop.abandon, handles := x.handles - 1 } := by
  obtain ⟨linked, limit, formed, played, shown⟩ := matched
  have linked := linked.leave held
  rw [← f.dropSender] at linked
  exact ⟨linked, limit, formed, played, shown⟩

theorem work_attended (answers : Answers) : (x.work answers).attended = x.attended ++ x.loop.look.1.toList := by
  simp [attended, work, Function.comp_def]

theorem work_loop (answers : Answers) :
    (x.work answers).loop = { x.loop.look.2 with scheduler := (x.work answers).loop.scheduler } := by
  have loop : (x.work answers).loop = (x.loop.advance answers).1 := rfl
  rcases x.loop.advance_cases answers with ⟨_, advanced⟩ | ⟨event, _, advanced⟩
  · rw [loop, advanced]
  · rw [loop, advanced]

theorem matched_work (answers : Answers) (matched : Matched f settings ready x) :
    Matched f settings ready (x.work answers) := by
  obtain ⟨linked, limit, formed, played, shown⟩ := matched
  have aligned : (x.work answers).Aligned f := by
    rw [Aligned, x.work_loop answers, x.work_attended answers]
    exact linked.step _ _ _ (Loop.look_cases f x.loop linked.isOpen)
  have limit : (x.work answers).loop.maxPeers = settings.maxPeers := by
    rw [x.work_loop answers]
    exact x.loop.look_aside.2.trans limit
  rcases x.loop.advance_cases answers with ⟨idle, advanced⟩ | ⟨event, busy, advanced⟩
  · have scheduler : (x.work answers).loop.scheduler = x.loop.look.2.scheduler :=
      congrArg (fun turned => turned.1.scheduler) advanced
    have handled : (x.work answers).handled = x.handled := by simp [work, idle]
    have outputs : (x.work answers).outputs = x.outputs := by simp [work, advanced]
    refine ⟨aligned, limit, formed, ?_, ?_⟩
    · rw [scheduler, handled, x.loop.look_aside.1, played]
    · rw [outputs, handled, shown]
  · have scheduler : (x.work answers).loop.scheduler = (x.loop.scheduler.attend answers event).1 :=
      congrArg (fun turned => turned.1.scheduler) advanced
    have handled : (x.work answers).handled = x.handled ++ [(answers, event)] := by simp [work, busy]
    have outputs : (x.work answers).outputs = x.outputs ++ (x.loop.scheduler.attend answers event).2 := by
      simp [work, advanced]
    refine ⟨aligned, limit, formed, ?_, ?_⟩
    · rw [scheduler, handled, attendAll_snoc, ← played]
    · rw [outputs, handled, attendAll_snoc, ← played, shown, List.cons_append]

theorem matched_act (action : Action) (matched : Matched f settings ready x) :
    Matched f settings ready (x.act action) := by
  cases action with
  | work answers => exact matched_work f settings ready x answers matched
  | call errand =>
      by_cases held : x.handles = 0
      · rwa [act, if_pos held]
      · rw [act, if_neg held]
        exact matched_call f settings ready x errand held matched
  | clone =>
      by_cases held : x.handles = 0
      · rwa [act, if_pos held]
      · rw [act, if_neg held]
        exact matched_clone f settings ready x held matched
  | drop =>
      by_cases held : x.handles = 0
      · rwa [act, if_pos held]
      · rw [act, if_neg held]
        exact matched_drop f settings ready x held matched

theorem matched_run (actions : List Action) (matched : Matched f settings ready x) :
    Matched f settings ready (x.run actions) := by
  induction actions generalizing x with
  | nil => exact matched
  | cons action rest ih => exact ih _ (matched_act f settings ready x action matched)

theorem start_eq_ok_iff : start c settings ready = .ok x ↔
    (∀ l, 0 < settings.get l) ∧
      x = ⟨.new (.fresh settings ready), 1, [], [], [.effect (.readiness ready)]⟩ := by
  cases valid : settings.validate with
  | error e =>
      have unusable : ¬ ∀ l, 0 < settings.get l := by
        intro positive
        rw [(Settings.validate_ok_iff settings).2 positive] at valid
        cases valid
      simp [start, Scheduler.new, valid, Except.map, unusable]
  | ok s =>
      obtain ⟨rfl, positive⟩ := Settings.validated settings s valid
      simp [start, Scheduler.new, valid, Except.map, positive, eq_comm]

theorem matched_start (made : start c settings ready = .ok x) : Matched f settings ready x := by
  obtain ⟨_, rfl⟩ := (start_eq_ok_iff settings ready x).1 made
  refine ⟨⟨?_, ?_, ?_, ?_, ?_⟩, rfl, ?_, rfl, rfl⟩
  · simp [Loop.new, f.fresh]
  · simp [Loop.new, f.fresh, Stage.isOpen]
  · simp [Loop.new, f.fresh]
  · simp [Loop.new, f.fresh, Ordered, sent, attended]
  · exact fun away => absurd rfl away
  · intro sub member
    cases member

def waiting : Nat := (f.view x.loop.inbox).queued.length

def taken : Nat := x.sent.length - x.waiting f

inductive Acted (x : Exchange c) (action : Action) (y : Exchange c) : Prop
  | idle : action.isWork = false → y.taken f = x.taken f → y.loop.stage = x.loop.stage →
      (x.handles = 0 → y.handles = 0) → x.sent <+: y.sent →
      y.waiting f ≤ x.waiting f + (if action.isCall then 1 else 0) → Acted x action y
  | worked (event : Option Event) : action.isWork = true → y.handles = x.handles → y.sent = x.sent →
      LoopStep (f.view x.loop.inbox) x.loop.stage event y.loop.stage (f.view y.loop.inbox) → Acted x action y

theorem acted_same (action : Action) (y : Exchange c) (idle : action.isWork = false)
    (gone : x.handles = 0 → y.handles = 0) (stage : y.loop.stage = x.loop.stage) (sent : y.sent = x.sent)
    (waiting : y.waiting f = x.waiting f) : Acted f x action y := by
  refine .idle idle ?_ stage gone (sent ▸ List.prefix_rfl) ?_
  · rw [taken, taken, sent, waiting]
  · exact waiting ▸ Nat.le_add_right _ _

theorem acted_call (errand : Errand) (held : x.handles ≠ 0) (linked : x.Aligned f) :
    Acted f x (.call errand) (x.call errand) := by
  have fits := linked.behind.length_le
  have called := call_cases f x errand linked.isOpen
  generalize x.call errand = y at called ⊢
  cases called with
  | sent inbox checked accepting view =>
      have sent := x.sent_ok { x with
        loop := { x.loop with inbox := inbox }
        returned := x.returned ++ [(errand, .ok ())] } errand rfl
      refine .idle rfl ?_ rfl (fun gone => absurd gone held) ?_ ?_
      · simp only [taken, waiting, sent, view, List.length_append, List.length_singleton]
        omega
      · rw [sent]
        exact List.prefix_append _ _
      · simp [waiting, view, Action.isCall]
  | refused e checked =>
      have sent := x.sent_error { x with returned := x.returned ++ [(errand, .error e)] } errand e rfl
      exact acted_same f x (.call errand) _ rfl (fun gone => absurd gone held) rfl sent rfl
  | lost checked closed =>
      have sent := x.sent_error { x with returned := x.returned ++ [(errand, .error .closed)] } errand .closed rfl
      exact acted_same f x (.call errand) _ rfl (fun gone => absurd gone held) rfl sent rfl

theorem act_cases (action : Action) (linked : x.Aligned f) : Acted f x action (x.act action) := by
  cases action with
  | work answers =>
      refine .worked x.loop.look.1 rfl rfl rfl ?_
      show LoopStep _ _ _ (x.work answers).loop.stage (f.view (x.work answers).loop.inbox)
      rw [x.work_loop answers]
      exact Loop.look_cases f x.loop linked.isOpen
  | call errand =>
      by_cases held : x.handles = 0
      · rw [act, if_pos held]
        exact acted_same f x (.call errand) x rfl (fun gone => gone) rfl rfl rfl
      · rw [act, if_neg held]
        exact acted_call f x errand held linked
  | clone =>
      by_cases held : x.handles = 0
      · rw [act, if_pos held]
        exact acted_same f x .clone x rfl (fun gone => gone) rfl rfl rfl
      · rw [act, if_neg held]
        have same : waiting f { x with loop := x.loop.join, handles := x.handles + 1 } = x.waiting f := by
          simp [waiting, Loop.join, f.addSender]
        exact acted_same f x .clone _ rfl (fun gone => absurd gone held) rfl rfl same
  | drop =>
      by_cases held : x.handles = 0
      · rw [act, if_pos held]
        exact acted_same f x .drop x rfl (fun gone => gone) rfl rfl rfl
      · rw [act, if_neg held]
        have same : waiting f { x with loop := x.loop.abandon, handles := x.handles - 1 } = x.waiting f := by
          simp [waiting, Loop.abandon, f.dropSender]
        exact acted_same f x .drop _ rfl (fun gone => absurd gone held) rfl rfl same

theorem act_nearer (action : Action) (many : Nat) (within : many ≤ x.sent.length) (linked : x.Aligned f) :
    many ≤ (x.act action).taken f ∨
      many - (x.act action).taken f + (x.act action).loop.stage.delay + (if action.isWork then 1 else 0) ≤
        many - x.taken f + x.loop.stage.delay := by
  cases act_cases f x action linked with
  | idle idle taken stage gone sent waiting => exact .inr (by simp [idle, taken, stage])
  | worked event work handles sent loopStep =>
      rw [work, taken, sent]
      exact linked.nearer event _ _ loopStep many within

theorem act_grows (action : Action) (linked : x.Aligned f) :
    x.taken f ≤ (x.act action).taken f ∧ x.sent <+: (x.act action).sent := by
  cases act_cases f x action linked with
  | idle idle taken stage gone sent waiting => exact ⟨Nat.le_of_eq taken.symm, sent⟩
  | worked event work handles sent loopStep =>
      rw [taken, taken, sent]
      exact ⟨Nat.sub_le_sub_left (loopStep.shrinks _ _ _ _ _) _, List.prefix_rfl⟩

theorem run_grows (actions : List Action) (matched : Matched f settings ready x) :
    x.taken f ≤ (x.run actions).taken f ∧ x.sent <+: (x.run actions).sent := by
  induction actions generalizing x with
  | nil => exact ⟨Nat.le_refl _, List.prefix_rfl⟩
  | cons action rest ih =>
      obtain ⟨taken, sent⟩ := act_grows f x action matched.linked
      obtain ⟨taken_rest, sent_rest⟩ := ih _ (matched_act f settings ready x action matched)
      exact ⟨Nat.le_trans taken taken_rest, sent.trans sent_rest⟩

theorem run_nearer (actions : List Action) (many : Nat) (within : many ≤ x.sent.length)
    (matched : Matched f settings ready x) :
    many ≤ (x.run actions).taken f ∨
      many - (x.run actions).taken f + (x.run actions).loop.stage.delay + actions.countP Action.isWork ≤
        many - x.taken f + x.loop.stage.delay := by
  induction actions generalizing x with
  | nil => exact .inr (Nat.le_refl _)
  | cons action rest ih =>
      have after := matched_act f settings ready x action matched
      have more := (act_grows f x action matched.linked).2.length_le
      rcases act_nearer f x action many within matched.linked with there | nearer
      · exact .inl (Nat.le_trans there (run_grows f settings ready _ rest after).1)
      · rcases ih _ (Nat.le_trans within more) after with there | onward
        · exact .inl there
        · right
          rw [List.countP_cons]
          show many - ((x.act action).run rest).taken f + ((x.act action).run rest).loop.stage.delay + _ ≤ _
          omega

-- Every event is taken after as many steps as there are events before it, and two at most for the shutdown.
theorem run_takes (actions : List Action) (matched : Matched f settings ready x)
    (enough : x.waiting f + 2 ≤ actions.countP Action.isWork) : x.sent.length ≤ (x.run actions).taken f := by
  have fits : x.waiting f ≤ x.sent.length := matched.linked.behind.length_le
  have delay : x.loop.stage.delay ≤ 2 := by cases x.loop.stage <;> decide
  have taken : x.taken f = x.sent.length - x.waiting f := rfl
  rcases run_nearer f settings ready x actions _ (Nat.le_refl _) matched with there | nearer
  · exact there
  · omega

def Due (x : Exchange c) : Prop := x.sent.any Event.isShutdown = true ∨ x.handles = 0

theorem act_ending (action : Action) (due : x.Due) (linked : x.Aligned f) :
    (x.act action).Due ∧ ((x.act action).loop.stage = .ended ∨
      (x.act action).waiting f + (x.act action).loop.stage.steps + (if action.isWork then 1 else 0) ≤
        x.waiting f + x.loop.stage.steps + if action.isCall then 1 else 0) := by
  cases act_cases f x action linked with
  | idle idle taken stage gone sent waiting =>
      refine ⟨?_, .inr ?_⟩
      · rcases due with told | left
        · obtain ⟨more, sent⟩ := sent
          exact .inl (by rw [← sent, List.any_append, told]; rfl)
        · exact .inr (gone left)
      · rw [stage, idle]
        simp only [Bool.false_eq_true, if_false]
        omega
  | worked event work handles sent loopStep =>
      refine ⟨?_, ?_⟩
      · rw [Due, sent, handles]
        exact due
      · rcases linked.ending event _ _ loopStep due with ended | nearer
        · exact .inl ended
        · right
          rw [work]
          exact Nat.le_trans nearer (Nat.le_add_right _ _)

theorem run_ended (actions : List Action) (matched : Matched f settings ready x) (ended : x.loop.stage = .ended) :
    (x.run actions).loop.stage = .ended := by
  induction actions generalizing x with
  | nil => exact ended
  | cons action rest ih =>
      refine ih _ (matched_act f settings ready x action matched) ?_
      cases act_cases f x action matched.linked with
      | idle idle taken stage gone sent waiting => exact stage.trans ended
      | worked event work handles sent loopStep =>
          rw [ended] at loopStep
          exact loopStep.ended _ _ _ _

theorem run_ending (actions : List Action) (due : x.Due) (matched : Matched f settings ready x) :
    (x.run actions).loop.stage = .ended ∨
      (x.run actions).waiting f + (x.run actions).loop.stage.steps + actions.countP Action.isWork ≤
        x.waiting f + x.loop.stage.steps + actions.countP Action.isCall := by
  induction actions generalizing x with
  | nil => exact .inr (Nat.le_refl _)
  | cons action rest ih =>
      have after := matched_act f settings ready x action matched
      obtain ⟨still, ending⟩ := act_ending f x action due matched.linked
      rcases ending with ended | nearer
      · exact .inl (run_ended f settings ready _ rest after ended)
      · rcases ih _ still after with ended | onward
        · exact .inl ended
        · right
          rw [List.countP_cons, List.countP_cons]
          show ((x.act action).run rest).waiting f + ((x.act action).run rest).loop.stage.steps + _ ≤ _
          omega

theorem run_ends (actions : List Action) (due : x.Due) (matched : Matched f settings ready x)
    (enough : x.waiting f + 4 + actions.countP Action.isCall ≤ actions.countP Action.isWork) :
    (x.run actions).loop.stage = .ended := by
  have steps : x.loop.stage.steps ≤ 4 := by cases x.loop.stage <;> decide
  rcases run_ending f settings ready x actions due matched with ended | nearer
  · exact ended
  · have none : (x.run actions).loop.stage.steps = 0 := by omega
    cases stage : (x.run actions).loop.stage <;> rw [stage] at none <;> first | rfl | cases none

theorem matched_answered (matched : Matched f settings ready x) (actions : List Action)
    (enough : x.waiting f + 2 ≤ actions.countP Action.isWork) :
    x.sent.countP Event.isStatus ≤ (x.run actions).outputs.countP Output.isStatus := by
  have after := matched_run f settings ready x actions matched
  have taken := run_takes f settings ready x actions matched enough
  have grown := (run_grows f settings ready x actions matched).2
  have counted := after.linked.counted Event.isStatus rfl
  obtain ⟨first, whole⟩ := after.linked.behind
  -- what has left the channel holds all that was sent before
  have held : x.sent <+: first := by
    refine List.prefix_of_prefix_length_le grown (whole ▸ List.prefix_append _ _) ?_
    have length := congrArg List.length whole
    rw [List.length_append] at length
    rw [Exchange.taken, waiting] at taken
    omega
  have asked := held.countP_le (p := Event.isStatus)
  have told : (x.run actions).outputs.countP Output.isStatus = (x.run actions).attended.countP Event.isStatus := by
    rw [after.shown, List.countP_cons, attendAll_answers]
    rfl
  rw [← whole, List.countP_append] at counted
  omega

theorem matched_ended (positive : ∀ l, 0 < settings.get l) (matched : Matched f settings ready x)
    (ended : x.loop.stage = .ended) : ∃ h, History.Reached settings h ∧ h.scheduler = x.loop.scheduler ∧
      h.effects = x.outputs.filterMap Output.effect? ∧ h.admitted.map Prod.snd = x.sent.filterMap Event.submission? ∧
      (h.admitted.map Prod.fst).Nodup ∧ ∀ a ∈ h.admitted, ∃ outcome, h.Settled a.1 a.2 outcome := by
  have reached := History.run_reached settings (callsOf x.handled) _ (History.fresh_reached settings ready positive)
  obtain ⟨scheduler, effects⟩ := attendAll_history settings ready x.handled
  have ordered := matched.linked.ordered
  rw [ended] at ordered
  have picked := matched.linked.picked Event.submission? rfl
  rw [ordered.2, List.filterMap_nil, List.append_nil] at picked
  have formed : ∀ sub ∈ x.attended.filterMap Event.submission?, sub.request.validate settings.maxPeers = .ok () :=
    picked ▸ matched.formed
  have named := names_distinct _ (reached_conserved settings _ reached).ordered
  have asked : .shutdown ∈ ((History.fresh settings ready).run (callsOf x.handled)).calls := by
    rw [History.run_calls]
    exact List.mem_append_right _ (mem_callsOf _ _ (show .call .shutdown ∈ x.attended from ordered.1 ▸ mem_script _))
  refine ⟨_, reached, scheduler.trans matched.played.symm, ?_, ?_, named, ?_⟩
  · rw [effects, matched.shown]
    rfl
  · exact (attendAll_admitted settings ready x.handled positive formed).trans picked
  · intro a admitted
    rcases reached_once settings _ reached a admitted with ⟨waiting, _⟩ | ⟨settled, _⟩
    · have once := waiting.once
      rw [shut_live settings _ reached (reached_closed settings _ reached asked)] at once
      cases once
    · obtain ⟨outcome, always⟩ := settled
      exact ⟨outcome, always []⟩

theorem matched_closed (errand : Errand) (matched : Matched f settings ready x) (ended : x.loop.stage = .ended)
    (held : x.handles ≠ 0) : (x.act (.call errand)).returned =
      x.returned ++ [(errand, (errand.checked settings.maxPeers).bind fun _ => .error .closed)] := by
  have called := call_cases f x errand matched.linked.isOpen
  rw [act, if_neg held]
  generalize x.call errand = y at called ⊢
  cases called with
  | sent inbox checked accepting view =>
      rw [ended] at accepting
      cases accepting
  | refused e checked => simp [matched.limit ▸ checked, Except.bind]
  | lost checked closed => simp [matched.limit ▸ checked, Except.bind]

theorem matched_formed (positive : ∀ l, 0 < settings.get l) (matched : Matched f settings ready x) (sub : Submission)
    (next : x.loop.look.1 = some (.call (.submit sub))) (answers : Answers) :
    ∃ id turn, x.loop.scheduler.submit answers sub = .ok (id, turn) := by
  have after := matched_work f settings ready x answers matched
  have listed : sub ∈ x.sent.filterMap Event.submission? := by
    have picked := after.linked.picked Event.submission? rfl
    rw [x.work_attended answers, next] at picked
    show sub ∈ (x.work answers).sent.filterMap Event.submission?
    simp [← picked, Event.submission?]
  have reached := History.run_reached settings (callsOf x.handled) _ (History.fresh_reached settings ready positive)
  have settled : x.loop.scheduler.settings = settings := by
    rw [matched.played, ← (attendAll_history settings ready x.handled).1]
    exact (reached_conserved settings _ reached).settled
  refine ⟨x.loop.scheduler.nextOperation, x.loop.scheduler.accept answers sub, ?_⟩
  simp only [Scheduler.submit, settled, matched.formed sub listed]

structure Serial (x : Exchange c) : Prop where
  -- a new scheduler to which the same events are put comes to the same state, and shows the same
  played : x.loop.scheduler = ((Scheduler.fresh settings ready).attendAll x.handled).1
  shown : x.outputs = .effect (.readiness ready) :: ((Scheduler.fresh settings ready).attendAll x.handled).2
  -- what is put to it is what was sent, in that order, with the one shutdown
  order : x.attended <+: script x.sent
  cause : x.attended.any Event.isShutdown = true → x.sent.any Event.isShutdown = true ∨ x.handles = 0
  rest : x.loop.stage = .receiving → x.waiting f = 0 → x.attended = x.sent
  whole : x.loop.stopped = true → x.attended = script x.sent
  -- every question is answered, whatever else is done meanwhile
  answered : ∀ actions, x.waiting f + 2 ≤ actions.countP Action.isWork →
    x.sent.countP Event.isStatus ≤ (x.run actions).outputs.countP Output.isStatus
  stops : x.sent.any Event.isShutdown = true ∨ x.handles = 0 → ∀ actions,
    x.waiting f + 4 + actions.countP Action.isCall ≤ actions.countP Action.isWork → (x.run actions).loop.stopped = true
  -- in the end every submission that was sent has come to one end, and its submitter has been told
  ended : x.loop.stopped = true → ∃ h, History.Reached settings h ∧ h.scheduler = x.loop.scheduler ∧
    h.effects = x.outputs.filterMap Output.effect? ∧ h.admitted.map Prod.snd = x.sent.filterMap Event.submission? ∧
    (h.admitted.map Prod.fst).Nodup ∧ ∀ a ∈ h.admitted, ∃ outcome, h.Settled a.1 a.2 outcome
  closed : x.loop.stopped = true → ∀ actions, (x.run actions).loop.stopped = true ∧
    ∀ errand, (x.run actions).handles ≠ 0 → ((x.run actions).act (.call errand)).returned =
      (x.run actions).returned ++ [(errand, (errand.checked settings.maxPeers).bind fun _ => .error .closed)]
  -- the scheduler refuses nothing that comes by a handle
  formed : ∀ sub, x.loop.look.1 = some (.call (.submit sub)) → ∀ answers,
    ∃ id turn, x.loop.scheduler.submit answers sub = .ok (id, turn)

theorem start_serial (made : start c settings ready = .ok x) (actions : List Action) :
    (x.run actions).Serial f settings ready := by
  have positive := ((start_eq_ok_iff settings ready x).1 made).1
  have matched := matched_run f settings ready x actions (matched_start f settings ready x made)
  generalize x.run actions = y at matched ⊢
  have stage (stopped : y.loop.stopped = true) : y.loop.stage = .ended := of_decide_eq_true stopped
  have ended (actions : List Action) (stopped : y.loop.stopped = true) : (y.run actions).loop.stage = .ended :=
    run_ended f settings ready y actions matched (stage stopped)
  refine ⟨matched.played, matched.shown, matched.linked.scripted, matched.linked.cause, ?_, ?_,
    matched_answered f settings ready y matched, ?_, ?_, ?_, matched_formed f settings ready y positive matched⟩
  · intro receiving empty
    have ordered := matched.linked.ordered
    rw [receiving] at ordered
    rw [ordered.1, List.eq_nil_of_length_eq_zero empty, List.append_nil]
  · intro stopped
    have ordered := matched.linked.ordered
    rw [stage stopped] at ordered
    exact ordered.1.symm
  · intro due actions enough
    exact decide_eq_true (run_ends f settings ready y actions due matched enough)
  · exact fun stopped => matched_ended f settings ready y positive matched (stage stopped)
  · intro stopped actions
    refine ⟨decide_eq_true (ended actions stopped), ?_⟩
    intro errand held
    have after := matched_run f settings ready y actions matched
    exact matched_closed f settings ready _ errand after (ended actions stopped) held

def opened : Exchange (.plain Event) := ⟨.new (.fresh .standard true), 1, [], [], [.effect (.readiness true)]⟩

-- A submission and a question come behind the shutdown, and another shutdown behind them. When the channel is
-- closed, and when all is over, a call gets nowhere.
def rehearsed : Exchange (.plain Event) := opened.run
  [.clone, .call (.submit (.sample 1 (.sample 1))), .call .status, .work .sample, .call .shutdown,
    .call (.submit (.sample 2 (.sample 2))), .work .sample, .work .sample, .call .status, .call .shutdown, .drop,
    .work .sample, .work .sample, .call .status, .work .sample, .work .sample, .work .sample, .work .sample,
    .call (.submit (.sample 3 .empty)), .call .status]

theorem rehearsed_serial : start (.plain Event) .standard true = .ok opened ∧ rehearsed.loop.stopped = true ∧
    rehearsed.returned.map Prod.snd =
      [.ok (), .ok (), .ok (), .ok (), .ok (), .ok (), .error .closed, .error .emptyRequest, .error .closed] ∧
    rehearsed.outputs.countP Output.isStatus = 2 ∧ rehearsed.Serial (.plain Event) .standard true :=
  ⟨rfl, by decide, by decide, by decide, start_serial (.plain Event) .standard true opened rfl _⟩

end Exchange
end Ranging

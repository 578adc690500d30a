import Ranging.Proofs.ReplyCounts
import Ranging.Proofs.Audit
import Ranging.Proofs.LogEntries
import Ranging.Proofs.RoutineEffects

-- The lives of requesters are watched from the first operation that depends on them until the last
-- one is gone, and what is asked of whoever watches them is never asked twice in a row.
namespace Ranging

-- What is asked about one life: `true` where it is taken up, `false` where it is given up.
def Effect.watch? (token : LivenessToken) : Effect → Option Bool
  | .register other => if other = token then some true else none
  | .unregister other => if other = token then some false else none
  | _ => none

def watches (token : LivenessToken) (said : List Effect) : List Bool := said.filterMap (Effect.watch? token)

def Alternating : Bool → List Bool → Prop
  | _, [] => True
  | due, asked :: rest => asked = due ∧ Alternating (!due) rest

def Registry.change (r r' : Registry) (token : LivenessToken) : List Bool :=
  if r.isTracked token = r'.isTracked token then [] else [r'.isTracked token]

variable (token : LivenessToken)

theorem watches_append (first second : List Effect) :
    watches token (first ++ second) = watches token first ++ watches token second := List.filterMap_append

theorem alternating_append (due : Bool) (before after : List Bool) : Alternating due (before ++ after) ↔
    Alternating due before ∧ Alternating (!before.getLast?.getD !due) after := by
  induction before generalizing due with
  | nil => simp [Alternating]
  | cons first rest ih =>
      rw [List.cons_append, Alternating, Alternating, ih, List.getLast?_cons, and_assoc]
      refine and_congr_right fun same => ?_
      simp [same]

theorem alternating_alone (asked : List Bool) (alternating : Alternating false asked) (given : asked ≠ [])
    (never : true ∉ asked) : asked = [false] := by
  cases asked with
  | nil => exact absurd rfl given
  | cons first rest =>
      obtain ⟨rfl, others⟩ := alternating
      cases rest with
      | nil => rfl
      | cons second later =>
          obtain ⟨rfl, _⟩ := others
          exact absurd (List.mem_cons_of_mem _ List.mem_cons_self) never

theorem Registry.change_same (r : Registry) : r.change r token = [] := if_pos rfl

theorem retire_watches (op : Operation) (outcome : Outcome) (s : Scheduler) :
    watches token (s.retire op outcome).effects = s.registry.change (s.registry.detach op.token op.id).2 token := by
  obtain ⟨known, after⟩ := Registry.isTracked_detach s.registry op.token token op.id
  have mute : watches token (Scheduler.reply op outcome) = [] := by cases outcome <;> rfl
  simp only [Scheduler.retire, watches_append, mute, List.append_nil, Registry.change, after]
  cases last : (s.registry.detach op.token op.id).1 with
  | false => simp [watches]
  | true =>
      by_cases same : token = op.token
      · subst same
        simp [watches, Effect.watch?, known last]
      · simp [watches, Effect.watch?, same, Ne.symm same]

theorem enqueue_watches (op : Operation) (s : Scheduler) (tidy : s.registry.Tidy) :
    watches token (s.enqueue op).effects = s.registry.change (s.registry.attach op.token op.id).2 token := by
  have first := Registry.attach_first s.registry op.token op.id tidy
  simp only [Scheduler.enqueue, Turn.did_effects, first, Registry.change, Registry.isTracked_attach]
  by_cases same : token = op.token
  · subst same
    cases known : s.registry.isTracked op.token <;> simp [watches, Effect.watch?]
  · cases known : s.registry.isTracked op.token <;> simp [watches, Effect.watch?, same, Ne.symm same]

theorem interview_watches (answers : Answers) (sub : Submission) (s : Scheduler) :
    watches token (s.interview answers sub).effects = [] := by
  rcases Scheduler.verdict_asks answers (s.operationOf answers sub) s.counted with asked | asked <;>
    simp [Scheduler.interview, asked, watches, Effect.watch?]

theorem proclaim_watches (before : Bool) (s : Scheduler) : watches token (s.proclaim before).effects = [] := by
  simp only [Scheduler.proclaim, Turn.did_effects]
  split <;> rfl

theorem unwatched (d e : MidCall) (said : List Effect) (effects : e.effects = d.effects ++ said)
    (mute : watches token said = []) (registry : e.scheduler.registry = d.scheduler.registry) :
    watches token e.effects =
      watches token d.effects ++ d.scheduler.registry.change e.scheduler.registry token := by
  rw [effects, watches_append, mute, registry, Registry.change_same]

theorem move_watches (d e : MidCall) (tidy : d.scheduler.registry.Tidy) (move : Move d e) : watches token e.effects =
    watches token d.effects ++ d.scheduler.registry.change e.scheduler.registry token := by
  cases move with
  | hear call plain => exact unwatched token d _ [] (by simp) rfl rfl
  | discard cid report stale => exact unwatched token d _ [] (by simp [Scheduler.discard, Scheduler.still]) rfl rfl
  | report cid report op due granted free slot same armed =>
      exact unwatched token d _ [.disarm cid, .permission op.requester granted] (by simp) rfl rfl
  | expire cid op due free slot same armed =>
      exact unwatched token d _ [.cancel cid op.hardwarePeers] (by simp) rfl rfl
  | translate answer op unpoised slot => exact unwatched token d _ [] (by simp) rfl rfl
  | refuse answers sub kind wellFormed verdict =>
      have said := MidCall.heard_effects d ((d.scheduler.interview answers sub).andThen
        (Scheduler.retire (d.scheduler.operationOf answers sub) (.failed kind))) (.submit sub)
      refine (congrArg (watches token) said).trans ?_
      rw [watches_append, Turn.andThen_effects, watches_append, interview_watches, retire_watches]
      rfl
  | join answers sub wellFormed verdict unburied =>
      have said := MidCall.heard_effects d ((d.scheduler.interview answers sub).andThen
        (Scheduler.enqueue (d.scheduler.operationOf answers sub))) (.submit sub)
      refine (congrArg (watches token) said).trans ?_
      rw [watches_append, Turn.andThen_effects, watches_append, interview_watches]
      exact congrArg (watches token d.effects ++ ·) ((List.nil_append _).trans (enqueue_watches token _ _ tidy))
  | hardware ready => exact unwatched token d _ _ (MidCall.heard_effects d _ _) (proclaim_watches token _ _) rfl
  | idleness idle => exact unwatched token d _ _ (MidCall.heard_effects d _ _) (proclaim_watches token _ _) rfl
  | close openStill => exact unwatched token d _ [] (by simp) rfl rfl
  | bury other ids registry unburied purged =>
      obtain ⟨known, after⟩ := Registry.isTracked_purge d.scheduler.registry registry other token ids purged
      rw [MidCall.work_effects, watches_append]
      simp only [Turn.did_effects, MidCall.work_scheduler, Turn.did_scheduler, Registry.change, after]
      by_cases same : token = other
      · subst same
        simp [watches, Effect.watch?, known]
      · simp [watches, Effect.watch?, same, Ne.symm same]
  | forget other buried gone => exact unwatched token d _ [] (by simp) rfl rfl
  | pull chosen free => exact unwatched token d _ [] (by simp) rfl rfl
  | release op free slot => exact unwatched token d _ [] (by simp) rfl rfl
  | revoke cid op due free slot same armed =>
      exact unwatched token d _ [.disarm cid, .cancel cid op.hardwarePeers] (by simp) rfl rfl
  | retire op rest outcome first =>
      rw [MidCall.work_effects, watches_append, retire_watches]
      rfl
  | take op rest unpoised slot available queue => exact unwatched token d _ [] (by simp) rfl rfl
  | park op poised slot needs =>
      exact unwatched token d _ [.resolve op.requester.uid op.request.handles op.id] (by simp) rfl rfl
  | bare op free poised slot known alone => exact unwatched token d _ [] (by simp) rfl rfl
  | reject op free poised slot known reachable =>
      exact unwatched token d _ (d.scheduler.rebuffed op).effects (by simp) rfl rfl
  | engage op now poised slot unarmed known reachable =>
      exact unwatched token d _ (d.scheduler.engaged op now).effects (by simp) rfl rfl

structure WatchesMatch (d : MidCall) : Prop where
  alternating : Alternating true (watches token d.effects)
  current : (watches token d.effects).getLast?.getD false = d.scheduler.registry.isTracked token

theorem watchesMatch_kept (d e : MidCall) (tidy : d.scheduler.registry.Tidy) (watchesMatch : WatchesMatch token d)
    (move : Move d e) :
    WatchesMatch token e := by
  obtain ⟨alternating, current⟩ := watchesMatch
  have asked := move_watches token d e tidy move
  by_cases same : d.scheduler.registry.isTracked token = e.scheduler.registry.isTracked token
  · rw [Registry.change, if_pos same, List.append_nil] at asked
    exact ⟨asked ▸ alternating, asked ▸ current.trans same⟩
  · rw [Registry.change, if_neg same] at asked
    refine ⟨?_, ?_⟩
    · rw [asked, alternating_append]
      refine ⟨alternating, ?_, trivial⟩
      rw [Bool.not_true, current]
      exact Bool.eq_not_of_ne (Ne.symm same)
    · rw [asked]
      simp

theorem reached_watchesMatch (settings : Settings) (h : History) (path : History.Reached settings h) :
    WatchesMatch token (.clear h) := by
  refine reached_law h settings (WatchesMatch token) ?_ ?_ path
  · intro ready positive
    exact ⟨trivial, rfl⟩
  · exact fun d e sound watchesMatch move => watchesMatch_kept token d e sound.tracked.tidy watchesMatch move

def Scheduler.Refuses (answers : Answers) (sub : Submission) (s : Scheduler) : Prop :=
  (∃ e, sub.request.validate s.settings.maxPeers = .error e) ∨
  ∃ kind, (s.counted.verdict answers (s.operationOf answers sub)).1 = some kind

structure History.RegistrationsAlternate (h : History) : Prop where
  alternating : ∀ token, Alternating true (watches token h.effects)
  -- taken up, and not given up since
  unmatched : ∀ token, (watches token h.effects).getLast? = some true ↔ ∃ op ∈ h.scheduler.live, op.token = token
  counted : h.scheduler.status.trackedRequesters = (h.scheduler.live.map Operation.token).eraseDups.length
  refused : ∀ answers sub token, h.scheduler.Refuses answers sub →
    watches token (h.scheduler.step answers (.submit sub)).effects = []
  died : ∀ answers token, (∃ op ∈ h.scheduler.live, op.token = token) →
    watches token (h.scheduler.step answers (.requesterDied token)).effects = [false]

theorem tracked_live (h : History) (tracked : RegistryMatches (.clear h)) :
    h.scheduler.registry.isTracked token = true ↔ ∃ op ∈ h.scheduler.live, op.token = token := by
  have balanced := (Snapshot.livenessBalanced_iff _).1 (sound_balanced h tracked) token
  rwa [live_snapshot] at balanced

theorem fresh_unheld (h : History) (sound : Sound (.clear h)) :
    ¬ h.scheduler.registry.Holds token h.scheduler.nextOperation := by
  intro holds
  obtain ⟨_, op, present, _, same⟩ := (sound.tracked.holds_iff _ _).1 holds
  have below := sound.named.known op present
  rw [same] at below
  exact Nat.lt_irrefl _ below

-- The name is new, so its end takes nothing out of the registry.
theorem refused_unwatched (h : History) (sound : Sound (.clear h)) (answers : Answers) (sub : Submission)
    (refuses : h.scheduler.Refuses answers sub) :
    watches token (h.scheduler.step answers (.submit sub)).effects = [] := by
  cases formed : sub.request.validate h.scheduler.settings.maxPeers with
  | error e => simp [Scheduler.step, Scheduler.submit, formed, Scheduler.still, watches]
  | ok _ =>
      rcases refuses with ⟨e, malformed⟩ | ⟨kind, verdict⟩
      · rw [formed] at malformed
        cases malformed
      · have absent := fresh_unheld sub.token h sound
        have accepted := accept_refused answers sub h.scheduler kind verdict
        simp only [Scheduler.step, Scheduler.submit, formed, accepted, Turn.andThen_effects, watches_append,
          interview_watches, retire_watches, List.nil_append]
        exact (congrArg (fun left => h.scheduler.registry.change left.2 token)
          (Registry.detach_absent _ _ _ absent)).trans (Registry.change_same token _)

theorem routine_taken (turn : Turn) (routine : turn.Only Effect.isRoutine) : true ∉ watches token turn.effects := by
  intro taken
  obtain ⟨effect, made, asked⟩ := List.mem_filterMap.1 taken
  have usual := routine effect made
  cases effect <;> simp_all [Effect.watch?, Effect.isRoutine]

theorem routine_releases (settings : Settings) (h : History) (path : History.Reached settings h) (answers : Answers)
    (call : Call) (routine : (h.scheduler.step answers call).Only Effect.isRoutine) :
    watches token (h.scheduler.step answers call).effects =
      if (∃ op ∈ h.scheduler.live, op.token = token) ∧ ∀ op ∈ (h.next answers call).scheduler.live, op.token ≠ token
      then [false] else [] := by
  have never := routine_taken token _ routine
  have before := (reached_watchesMatch token settings h path).current
  have next := History.Reached.next answers call h path
  obtain ⟨alternating, current⟩ := reached_watchesMatch token settings _ next
  have apart := tracked_live token h (reached_sound h settings path).tracked
  have after := tracked_live token _ (reached_sound _ settings next).tracked
  generalize said : watches token (h.scheduler.step answers call).effects = asked at never ⊢
  have whole : watches token (h.next answers call).effects = watches token h.effects ++ asked := by
    rw [History.next_effects, watches_append, said]
  simp only [MidCall.clear] at before alternating current
  rw [whole] at alternating current
  rw [alternating_append, Bool.not_true, before] at alternating
  cases watched : h.scheduler.registry.isTracked token with
  | false =>
      have nobody : ¬ ∃ op ∈ h.scheduler.live, op.token = token := by
        rw [← apart, watched]
        exact Bool.false_ne_true
      rw [if_neg fun both => nobody both.1]
      cases asked with
      | nil => rfl
      | cons first rest =>
          have taken : first = true := by simpa [watched] using alternating.2.1
          exact absurd (taken ▸ List.mem_cons_self) never
  | true =>
      have somebody := apart.1 watched
      rw [watched, Bool.not_true] at alternating
      by_cases silent : asked = []
      · rw [silent, List.append_nil, before, watched] at current
        obtain ⟨op, live, same⟩ := after.1 current.symm
        rw [if_neg fun both => both.2 op live same, silent]
      · have once := alternating_alone asked alternating.2 silent never
        have released : ∀ op ∈ (h.next answers call).scheduler.live, op.token ≠ token := by
          intro op live same
          rw [after.2 ⟨op, live, same⟩, once] at current
          simp at current
        rw [if_pos ⟨somebody, released⟩, once]

theorem died_watches (settings : Settings) (h : History) (path : History.Reached settings h) (answers : Answers)
    (live : ∃ op ∈ h.scheduler.live, op.token = token) :
    watches token (h.scheduler.step answers (.requesterDied token)).effects = [false] := by
  have known := (tracked_live token h (reached_sound h settings path).tracked).2 live
  have ⟨ids, found⟩ := Option.isSome_iff_exists.1 known
  have purged : h.scheduler.registry.purge? token = some (ids, ⟨h.scheduler.registry.dependents.erase token⟩) :=
    congrArg (Option.map _) found
  have died : h.scheduler.step answers (.requesterDied token) = _ :=
    requesterDied_withdraws answers token h.scheduler ids _ purged
  have routine : (h.scheduler.step answers (.requesterDied token)).Only Effect.isRoutine :=
    Scheduler.requesterDied_routine answers h.scheduler token (reached_ready settings h path)
  have asked : watches token (h.scheduler.step answers (.requesterDied token)).effects ≠ [] := by
    simp [died, watches, Effect.watch?]
  have released := routine_releases token settings h path answers (.requesterDied token) routine
  split at released
  · exact released
  · exact absurd released asked

theorem reached_registrationsAlternate (settings : Settings) (h : History) (path : History.Reached settings h) :
    h.RegistrationsAlternate := by
  have sound := reached_sound h settings path
  refine ⟨fun token => (reached_watchesMatch token settings h path).alternating, ?_, ?_, ?_, ?_⟩
  · intro token
    have current : (watches token h.effects).getLast?.getD false = h.scheduler.registry.isTracked token :=
      (reached_watchesMatch token settings h path).current
    rw [← tracked_live token h sound.tracked, ← current]
    cases (watches token h.effects).getLast? <;> simp
  · have balanced := sound_balanced h sound.tracked
    simp only [Snapshot.livenessBalanced, Bool.and_eq_true, decide_eq_true_eq, live_snapshot] at balanced
    exact balanced.2.symm
  · intro answers sub token refuses
    exact refused_unwatched token h sound answers sub refuses
  · intro answers token live
    exact died_watches token settings h path answers live

-- The third life ended with its operation, the fifth ended first, and the last is watched still.
theorem sample_registrationsAlternate : History.Reached .standard History.sample ∧
    watches ⟨3⟩ History.sample.effects = [true, false] ∧ watches ⟨5⟩ History.sample.effects = [true, false] ∧
    watches ⟨6⟩ History.sample.effects = [true] ∧ History.sample.RegistrationsAlternate :=
  ⟨sample_reached, by decide, by decide, by decide,
    reached_registrationsAlternate .standard History.sample sample_reached⟩

end Ranging

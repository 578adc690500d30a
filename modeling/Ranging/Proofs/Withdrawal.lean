import Ranging.Proofs.Registrations
import Ranging.Proofs.ResolverQuestions
import Ranging.Proofs.LedgerStamps
import Ranging.Proofs.SlotTurnover

-- A withdrawal takes out those who are chosen, wherever they are, and never says a word to them. If the slot was
-- theirs, whoever is first of the others moves up, after the hardware has been told to stop.
namespace Ranging

-- Its turn has come: the hardware gets it, unless there are addresses to ask for first.
def Operation.MovesUp (op : Operation) (cid : CorrelationId) (said : List Effect) : Prop :=
  if op.needsTranslation then op.question ∈ said else ∃ accepted, .submit op.id cid op.hardwarePeers accepted ∈ said

structure Turn.Removes (chosen : Operation → Bool) (s : Scheduler) (t : Turn) : Prop where
  removed : t.ended.filter (fun entry => entry.2 = .withdrawn) = (s.live.filter chosen).map fun op => (op, .withdrawn)
  queue : t.scheduler.queue <:+ s.queue.filter fun op => !chosen op
  -- whoever has the slot and is not chosen notices nothing of it
  spared : s.slot.operation?.any chosen = false → t.Only Effect.isRelease ∧
    t.ended = (s.live.filter chosen).map (fun op => (op, .withdrawn)) ∧
    t.scheduler = { s with
      queue := s.queue.filter fun op => !chosen op
      registry := t.scheduler.registry
      counters := { s.counters with withdrawn := s.counters.withdrawn + (s.live.filter chosen).length } }
  recalled : ∀ op, s.slot = .dispatched op → chosen op = true → ∃ cid before after, op.correlation = some cid ∧
    t.effects = before ++ .disarm cid :: .cancel cid op.hardwarePeers :: after ∧
    (∀ effect ∈ before, effect.isRelease = true) ∧ ∀ effect ∈ after, effect.isFilling = true
  relieved : s.slot.operation?.any chosen = true → ∀ next rest,
    (s.queue.filter fun op => !chosen op) = next :: rest → next.MovesUp s.nextCorrelation t.effects

theorem Operation.MovesUp.prepend (op : Operation) (cid : CorrelationId) (before said : List Effect)
    (moved : op.MovesUp cid said) : op.MovesUp cid (before ++ said) := by
  unfold MovesUp at moved ⊢
  split at moved
  · next needs =>
      rw [if_pos needs]
      exact List.mem_append_right _ moved
  · next known =>
      rw [if_neg known]
      exact moved.imp fun _ handed => List.mem_append_right _ handed

theorem Turn.Removes.buried (chosen : Operation → Bool) (s : Scheduler) (t : Turn) (token : LivenessToken)
    (registry : Registry) (removes : t.Removes chosen { s with registry := registry }) :
    ((Turn.did { s with registry := registry } [.unregister token]).andThen fun _ => t).Removes chosen s := by
  refine ⟨removes.removed, removes.queue, ?_, ?_, ?_⟩
  · intro spared
    obtain ⟨released, ended, after⟩ := removes.spared spared
    exact ⟨.andThen _ _ _ (.did _ _ _ rfl) released, ended, after⟩
  · intro op slot struck
    obtain ⟨cid, before, after, same, effects, released, onward⟩ := removes.recalled op slot struck
    refine ⟨cid, .unregister token :: before, after, same, ?_, ?_, onward⟩
    · rw [Turn.andThen_effects, effects]
      rfl
    · intro effect said
      rcases List.mem_cons.1 said with rfl | said
      · rfl
      · exact released effect said
  · intro struck next rest waiting
    exact .prepend next _ [.unregister token] _ (removes.relieved struck next rest waiting)

namespace Scheduler
variable (answers : Answers) (s : Scheduler) (chosen : Operation → Bool)

def thinned (chosen : Operation → Bool) (s : Scheduler) : Turn :=
  retireAll (s.queue.filter chosen) .withdrawn { s with queue := s.queue.filter fun op => !chosen op }

def cleared (chosen : Operation → Bool) (op : Operation) (s : Scheduler) : Turn :=
  (s.thinned chosen).andThen fun s => s.vacate.andThen (retire op .withdrawn)

theorem only_releases (t : Turn) (silent : withoutReleases t.effects = []) : t.Only Effect.isRelease := by
  intro effect said
  simpa using List.filter_eq_nil_iff.1 silent effect said

theorem retireAll_withdrawn (ops : List Operation) : (retireAll ops .withdrawn s).scheduler = { s with
    registry := (retireAll ops .withdrawn s).scheduler.registry
    counters := { s.counters with withdrawn := s.counters.withdrawn + ops.length } } := by
  induction ops generalizing s with
  | nil => rfl
  | cons op rest ih =>
      rw [retireAll, Turn.andThen_scheduler, ih]
      simp [retire, Counters.countOutcome, Nat.add_assoc, Nat.add_comm 1]

theorem thinned_releases : (s.thinned chosen).Only Effect.isRelease := by
  refine only_releases _ ?_
  rw [thinned, retireAll_withoutReleases]
  exact List.flatMap_eq_nil_iff.2 fun _ _ => rfl

theorem thinned_slot : (s.thinned chosen).scheduler.slot = s.slot := retireAll_slot _ _ _

theorem thinned_deadlineArmed (alerted : s.DeadlineArmed) : (s.thinned chosen).scheduler.DeadlineArmed := by
  rw [thinned, retireAll_withdrawn]
  exact alerted

theorem withdraw_spared (spared : s.slot.operation?.any chosen = false) :
    s.withdraw answers chosen = s.thinned chosen := by
  rw [withdraw, ← thinned]
  simp [Turn.andThen, thinned_slot, spared, still]

theorem withdraw_struck (op : Operation) (occupied : s.slot.operation? = some op) (struck : chosen op = true) :
    s.withdraw answers chosen = (s.cleared chosen op).andThen (fill answers) := by
  have there : (s.thinned chosen).scheduler.slot.operation? = some op := by rw [thinned_slot, occupied]
  rw [withdraw, ← thinned, cleared, Turn.andThen_assoc]
  simp only [Turn.andThen, there, Option.any_some, struck, if_true, retireActive]

theorem vacate_scheduler : s.vacate.scheduler =
    { s with slot := .idle, deadline := s.vacate.scheduler.deadline } := by
  unfold vacate
  split
  · next idle =>
      rw [still, Turn.did_scheduler, ← idle]
  · rfl
  · unfold disarm
    split <;> rfl

theorem cleared_scheduler (op : Operation) : (s.cleared chosen op).scheduler = { s with
    queue := s.queue.filter fun op => !chosen op
    slot := .idle
    deadline := (s.cleared chosen op).scheduler.deadline
    registry := (s.cleared chosen op).scheduler.registry
    counters := (s.cleared chosen op).scheduler.counters } := by
  simp only [cleared, Turn.andThen_scheduler, retire]
  rw [vacate_scheduler, thinned, retireAll_withdrawn]

theorem cleared_ended (op : Operation) (occupied : s.slot.operation? = some op) (struck : chosen op = true) :
    (s.cleared chosen op).ended = (s.live.filter chosen).map fun op => (op, .withdrawn) := by
  rw [cleared, Turn.andThen_ended, Turn.andThen_ended, thinned, retireAll_ended, vacate_ended, live, occupied,
    List.filter_append, List.map_append]
  simp [struck, retire]

theorem fill_stays : ∀ entry ∈ (s.fill answers).ended, entry.2 ≠ .withdrawn := by
  intro entry ended
  rcases fillFrom_ended answers s s.queue entry ended with delivered | rejected
  · intro same
    rw [same] at delivered
    cases delivered
  · rw [rejected]
    exact nofun

theorem withdrawn_all (ops : List Operation) :
    (ops.map fun op => (op, Outcome.withdrawn)).filter (fun entry => entry.2 = .withdrawn) =
      ops.map fun op => (op, .withdrawn) := by
  refine List.filter_eq_self.2 fun entry listed => ?_
  obtain ⟨op, _, rfl⟩ := List.mem_map.1 listed
  rfl

theorem thinned_removes (spared : s.slot.operation?.any chosen = false) : (s.thinned chosen).Removes chosen s := by
  have kept : s.slot.operation?.toList.filter chosen = [] := by
    refine List.filter_eq_nil_iff.2 fun op occupied meant => ?_
    simp [Option.mem_toList.1 occupied, meant] at spared
  have waiting : s.live.filter chosen = s.queue.filter chosen := by
    rw [live, List.filter_append, kept, List.append_nil]
  have ended : (s.thinned chosen).ended = (s.live.filter chosen).map fun op => (op, .withdrawn) := by
    rw [thinned, retireAll_ended, waiting]
  refine ⟨?_, ?_, ?_, ?_, ?_⟩
  · rw [ended, withdrawn_all]
  · rw [thinned, retireAll_queue]
  · intro _
    refine ⟨thinned_releases s chosen, ended, ?_⟩
    rw [waiting, thinned, retireAll_withdrawn]
  · intro op slot meant
    simp [slot, Slot.operation?, meant] at spared
  · intro struck
    rw [spared] at struck
    cases struck

theorem cleared_effects (op : Operation) (alerted : s.DeadlineArmed) : (s.cleared chosen op).effects =
    (s.thinned chosen).effects ++ (s.slot.recalls ++
      ((s.thinned chosen).scheduler.vacate.scheduler.retire op .withdrawn).effects) := by
  rw [cleared, Turn.andThen_effects, Turn.andThen_effects, vacate_effects _ (thinned_deadlineArmed s chosen alerted),
    thinned_slot]

theorem cleared_removes (op : Operation) (occupied : s.slot.operation? = some op) (struck : chosen op = true)
    (alerted : s.DeadlineArmed) (ready : ∀ op ∈ s.queue, op.Ready) (available : s.available = true) :
    ((s.cleared chosen op).andThen (fill answers)).Removes chosen s := by
  have cleared := cleared_scheduler s chosen op
  have queue : (s.cleared chosen op).scheduler.queue = s.queue.filter fun op => !chosen op :=
    congrArg Scheduler.queue cleared
  refine ⟨?_, ?_, ?_, ?_, ?_⟩
  · have stays : ((s.cleared chosen op).scheduler.fill answers).ended.filter
        (fun entry => entry.2 = .withdrawn) = [] := by
      refine List.filter_eq_nil_iff.2 fun entry ended withdrawn => ?_
      exact fill_stays answers _ entry ended (of_decide_eq_true withdrawn)
    rw [Turn.andThen_ended, List.filter_append, stays, cleared_ended s chosen op occupied struck, withdrawn_all,
      List.append_nil]
  · exact queue ▸ fillFrom_suffix answers _ _ rfl
  · intro spared
    simp [occupied, struck] at spared
  · intro other slot _
    obtain rfl : other = op := by simpa [slot, Slot.operation?] using occupied
    obtain ⟨cid, due, same, armed⟩ := alerted other slot
    refine ⟨cid, (s.thinned chosen).effects,
      ((s.thinned chosen).scheduler.vacate.scheduler.retire other .withdrawn).effects ++
        ((s.cleared chosen other).scheduler.fill answers).effects, same, ?_, thinned_releases s chosen, ?_⟩
    · rw [Turn.andThen_effects, cleared_effects s chosen other alerted, slot]
      simp [Slot.recalls, same]
    · intro effect said
      rcases List.mem_append.1 said with retired | moved
      · exact retire_filling _ other .withdrawn effect retired
      · exact fill_filling answers _ effect moved
  · intro _ next rest waiting
    have here : next ∈ s.queue.filter fun op => !chosen op := waiting ▸ List.mem_cons_self
    have moved := fill_next answers (s.cleared chosen op).scheduler next rest (queue.trans waiting)
      (congrArg Scheduler.slot cleared) ((congrArg Scheduler.available cleared).trans available)
      (ready next (List.mem_filter.1 here).1)
    have name : (s.cleared chosen op).scheduler.nextCorrelation = s.nextCorrelation := by
      rw [cleared]
    rw [name] at moved
    exact .prepend next _ _ _ moved

theorem withdraw_removes (alerted : s.DeadlineArmed) (ready : ∀ op ∈ s.queue, op.Ready)
    (working : s.slot ≠ .idle → s.available = true) : (s.withdraw answers chosen).Removes chosen s := by
  cases struck : s.slot.operation?.any chosen with
  | false =>
      rw [withdraw_spared answers s chosen struck]
      exact thinned_removes s chosen struck
  | true =>
      obtain ⟨op, occupied, here⟩ := (Option.any_eq_true _ _).1 struck
      have busy : s.slot ≠ .idle := by
        intro idle
        rw [idle] at occupied
        cases occupied
      rw [withdraw_struck answers s chosen op occupied here]
      exact cleared_removes answers s chosen op occupied here alerted ready (working busy)

theorem withdraw_chosen (op : Operation) (gone : (op, .withdrawn) ∈ (s.withdraw answers chosen).ended) :
    chosen op = true := by
  cases struck : s.slot.operation?.any chosen with
  | false =>
      rw [withdraw_spared answers s chosen struck, thinned, retireAll_ended] at gone
      obtain ⟨_, listed, same⟩ := List.mem_map.1 gone
      cases same
      exact (List.mem_filter.1 listed).2
  | true =>
      obtain ⟨active, occupied, here⟩ := (Option.any_eq_true _ _).1 struck
      rw [withdraw_struck answers s chosen active occupied here, Turn.andThen_ended,
        cleared_ended s chosen active occupied here] at gone
      rcases List.mem_append.1 gone with cleared | filled
      · obtain ⟨_, listed, same⟩ := List.mem_map.1 cleared
        cases same
        exact (List.mem_filter.1 listed).2
      · exact absurd rfl (fill_stays answers _ _ filled)

theorem withdraw_nobody (nobody : ∀ op ∈ s.live, chosen op = false) : s.withdraw answers chosen = s.still := by
  have spared : s.slot.operation?.any chosen = false := by
    cases occupied : s.slot.operation? with
    | none => rfl
    | some op => exact nobody op (s.slot_live op occupied)
  have none : s.queue.filter chosen = [] :=
    List.filter_eq_nil_iff.2 fun op waiting => by simp [nobody op (List.mem_append_left _ waiting)]
  have all : (s.queue.filter fun op => !chosen op) = s.queue :=
    List.filter_eq_self.2 fun op waiting => by simp [nobody op (List.mem_append_left _ waiting)]
  rw [withdraw_spared answers s chosen spared, thinned, none, all]
  rfl

end Scheduler

structure History.Withdraws (h : History) (chosen : Operation → Bool) (answers : Answers) (call : Call) : Prop where
  turn : (h.scheduler.step answers call).Removes chosen h.scheduler
  counted : (h.next answers call).scheduler.counters.withdrawn =
    h.scheduler.counters.withdrawn + (h.scheduler.live.filter chosen).length
  -- whatever happens later
  forgotten : ∀ op ∈ h.scheduler.live, chosen op = true → ∀ later,
    (∀ other ∈ ((h.next answers call).run later).scheduler.live, other.id ≠ op.id) ∧
    ((h.next answers call).run later).repliesTo op.id = []
  -- the others are live still, unless they moved up and came to another end
  stayed : (((h.scheduler.step answers call).ended.filter fun entry => entry.2 ≠ .withdrawn).map
      (fun entry => entry.1.ticket) ++ (h.next answers call).scheduler.live.map Operation.ticket).Perm
    ((h.scheduler.live.filter fun op => !chosen op).map Operation.ticket)
  nobody : ∀ op ∈ (h.next answers call).scheduler.live, chosen op = false
  -- a life is let go once, where the last one is gone that depended on it
  released : ∀ token, watches token (h.scheduler.step answers call).effects =
    if (∃ op ∈ h.scheduler.live, op.token = token) ∧ ∀ op ∈ (h.next answers call).scheduler.live, op.token ≠ token
    then [false] else []

section
variable (settings : Settings) (h : History) (path : History.Reached settings h) (answers : Answers) (call : Call)
include path

theorem reached_removes (chosen : Operation → Bool) :
    (h.scheduler.withdraw answers chosen).Removes chosen h.scheduler :=
  Scheduler.withdraw_removes answers h.scheduler chosen (reached_deadlineArmed settings h path)
    (reached_ready settings h path) ((reached_slotSettled settings h path).available h.scheduler)

theorem withdrawn_forgotten (op : Operation) (withdrawn : (op, .withdrawn) ∈ h.ended) :
    (∀ other ∈ h.scheduler.live, other.id ≠ op.id) ∧ h.repliesTo op.id = [] := by
  have known := (reached_ids settings h path).mem_iff.1
    (List.mem_append_left _ (List.mem_map_of_mem (f := fun entry => entry.1.id) withdrawn))
  obtain ⟨a, admitted, same⟩ := List.mem_map.1 known
  have settled := reached_settled settings h path (op, .withdrawn) withdrawn a admitted same.symm
  rw [same] at settled
  exact ⟨settled.gone, settled.told⟩

theorem withdraws_stayed (chosen : Operation → Bool) (admits : h.scheduler.admits answers call = [])
    (removes : (h.scheduler.step answers call).Removes chosen h.scheduler) :
    (((h.scheduler.step answers call).ended.filter fun entry => entry.2 ≠ .withdrawn).map
      (fun entry => entry.1.ticket) ++ (h.next answers call).scheduler.live.map Operation.ticket).Perm
    ((h.scheduler.live.filter fun op => !chosen op).map Operation.ticket) := by
  have tickets := next_tickets settings h path answers call
  rw [admits, List.map_nil, List.append_nil] at tickets
  have ended := (List.filter_append_perm (fun entry => decide (entry.2 = .withdrawn))
    (h.scheduler.step answers call).ended).map fun entry => entry.1.ticket
  have live := (List.filter_append_perm chosen h.scheduler.live).map Operation.ticket
  rw [List.map_append, removes.removed, List.map_map] at ended
  rw [List.map_append] at live
  have whole := (ended.append_right _).trans (tickets.trans live.symm)
  rw [List.append_assoc] at whole
  simpa using (List.perm_append_left_iff _).1 whole

theorem call_withdraws (chosen : Operation → Bool)
    (keyed : ∀ op other : Operation, op.ticket = other.ticket → chosen op = chosen other)
    (admits : h.scheduler.admits answers call = []) (routine : (h.scheduler.step answers call).Only Effect.isRoutine)
    (removes : (h.scheduler.step answers call).Removes chosen h.scheduler) :
    h.Withdraws chosen answers call := by
  have next := History.Reached.next answers call h path
  have stayed := withdraws_stayed settings h path answers call chosen admits removes
  refine ⟨removes, ?_, ?_, stayed, ?_, fun token => routine_releases token settings h path answers call routine⟩
  · have before := (reached_countersMatch settings h path).withdrawn
    have after := (reached_countersMatch settings _ next).withdrawn
    simp only [MidCall.clear, History.next_ended, List.countP_append] at before after
    rw [after, before, List.countP_eq_length_filter (l := (h.scheduler.step answers call).ended), removes.removed,
      List.length_map]
  · intro op live struck later
    have withdrawn : (op, Outcome.withdrawn) ∈ (h.scheduler.step answers call).ended := by
      have listed : (op, Outcome.withdrawn) ∈ (h.scheduler.live.filter chosen).map fun op => (op, Outcome.withdrawn) :=
        List.mem_map_of_mem (List.mem_filter.2 ⟨live, struck⟩)
      rw [← removes.removed] at listed
      exact (List.mem_filter.1 listed).1
    exact withdrawn_forgotten settings _ (History.run_reached settings later _ next) op
      (History.run_ended later _ (List.mem_append_right _ withdrawn))
  · intro op live
    have listed := stayed.mem_iff.1 (List.mem_append_right _ (List.mem_map_of_mem live))
    obtain ⟨other, spared, same⟩ := List.mem_map.1 listed
    rw [← keyed other op same]
    simpa using (List.mem_filter.1 spared).2

end

end Ranging

import Ranging.Proofs.ServiceOrder
import Ranging.Proofs.RoutineEffects
import Mathlib.Data.List.Infix

-- What is said as the slot changes hands: first about those who go, then on behalf of those who move up. Lives are let
-- go in between, wherever the last one ends that depended on them.
namespace Ranging

def Effect.isRelease : Effect → Bool
  | .unregister _ => true
  | _ => false

-- What can be said as the queue moves up. Nothing is called off by that.
def Effect.isFilling : Effect → Bool
  | .submit _ _ _ _ => true
  | .clock _ => true
  | .arm _ _ => true
  | .unregister _ => true
  | .resolve _ _ _ => true
  | .results _ _ _ => true
  | .failure _ _ _ => true
  | _ => false

def withoutReleases (said : List Effect) : List Effect := said.filter fun effect => !effect.isRelease

-- What the hardware works on is called off in two steps. A lookup is not called off: its answer will come too late.
def Slot.recalls : Slot → List Effect
  | .dispatched op => op.correlation.toList.flatMap fun cid => [.disarm cid, .cancel cid op.hardwarePeers]
  | _ => []

def Scheduler.DeadlineArmed (s : Scheduler) : Prop :=
  ∀ op, s.slot = .dispatched op → ∃ cid due, op.correlation = some cid ∧ s.deadline = .armed cid due

theorem withoutReleases_append (first second : List Effect) :
    withoutReleases (first ++ second) = withoutReleases first ++ withoutReleases second := List.filter_append _ _

theorem reached_deadlineArmed (settings : Settings) (h : History) (path : History.Reached settings h) :
    h.scheduler.DeadlineArmed := by
  intro op slot
  obtain ⟨cid, due, _, same, _, armed⟩ := (reached_sound h settings path).slotMatches.dispatched op slot
  exact ⟨cid, due, same, armed⟩

namespace Scheduler
variable (answers : Answers) (s : Scheduler)

theorem retire_withoutReleases (op : Operation) (outcome : Outcome) :
    withoutReleases (s.retire op outcome).effects = reply op outcome := by
  rcases s.retire_effects op outcome with said | said
  · rw [said]
    cases outcome <;> rfl
  · rw [said]
    cases outcome <;> rfl

theorem retireAll_withoutReleases (ops : List Operation) (outcome : Outcome) :
    withoutReleases (retireAll ops outcome s).effects = ops.flatMap fun op => reply op outcome := by
  induction ops generalizing s with
  | nil => rfl
  | cons op rest ih =>
      rw [retireAll, Turn.andThen_effects, withoutReleases_append, retire_withoutReleases, ih, List.flatMap_cons]

theorem retireAll_ended (ops : List Operation) (outcome : Outcome) :
    (retireAll ops outcome s).ended = ops.map fun op => (op, outcome) := by
  induction ops generalizing s with
  | nil => rfl
  | cons op rest ih =>
      rw [retireAll, Turn.andThen_ended, ih, List.map_cons]
      rfl

theorem vacate_effects (alerted : s.DeadlineArmed) : s.vacate.effects = s.slot.recalls := by
  cases slot : s.slot with
  | idle => simp [vacate, slot, still, Slot.recalls]
  | resolving op => simp [vacate, slot, still, Slot.recalls]
  | dispatched op =>
      obtain ⟨cid, due, same, armed⟩ := alerted op slot
      simp [vacate, slot, disarm, armed, Deadline.armedFor?, same, Slot.recalls]

theorem vacate_ended : s.vacate.ended = [] := by
  unfold vacate
  split
  · rfl
  · rfl
  · unfold disarm
    split <;> rfl

theorem retireActive_occupied (op : Operation) (outcome : Outcome) (occupied : s.slot.operation? = some op) :
    s.retireActive outcome = s.vacate.andThen (retire op outcome) := by
  simp only [retireActive, occupied]

theorem retireActive_empty (outcome : Outcome) (empty : s.slot.operation? = none) :
    s.retireActive outcome = s.still := by
  simp only [retireActive, empty]

theorem retireActive_ended (outcome : Outcome) :
    (s.retireActive outcome).ended = s.slot.operation?.toList.map fun op => (op, outcome) := by
  cases occupied : s.slot.operation? with
  | none =>
      rw [retireActive_empty s outcome occupied]
      rfl
  | some op =>
      rw [retireActive_occupied s op outcome occupied, Turn.andThen_ended, vacate_ended]
      rfl

theorem retireActive_withoutReleases (outcome : Outcome) (alerted : s.DeadlineArmed) :
    withoutReleases (s.retireActive outcome).effects =
      s.slot.recalls ++ s.slot.operation?.toList.flatMap fun op => reply op outcome := by
  have kept : withoutReleases s.slot.recalls = s.slot.recalls := by
    refine List.filter_eq_self.2 fun effect said => ?_
    cases slot : s.slot with
    | idle => simp [slot, Slot.recalls] at said
    | resolving op => simp [slot, Slot.recalls] at said
    | dispatched op =>
        obtain ⟨cid, _, same, _⟩ := alerted op slot
        rcases (by simpa [slot, Slot.recalls, same] using said) with rfl | rfl <;> rfl
  cases occupied : s.slot.operation? with
  | none =>
      have silent : s.slot.recalls = [] := by
        cases slot : s.slot with
        | dispatched op => simp [slot, Slot.operation?] at occupied
        | _ => rfl
      rw [retireActive_empty s outcome occupied, silent]
      rfl
  | some op =>
      rw [retireActive_occupied s op outcome occupied, Turn.andThen_effects, withoutReleases_append,
        retire_withoutReleases, vacate_effects s alerted, kept]
      simp

theorem failAll_ended (kind : FailureKind) :
    (s.failAll kind).ended = s.inService.map fun op => (op, .failed kind) := by
  rw [failAll, Turn.andThen_ended, retireActive_ended, retireAll_ended, retireActive_queue, inService, List.map_append]

theorem failAll_withoutReleases (kind : FailureKind) (alerted : s.DeadlineArmed) :
    withoutReleases (s.failAll kind).effects =
      s.slot.recalls ++ s.inService.map fun op => .failure op.id op.replyTo kind.code := by
  have told : ∀ ops : List Operation, ops.flatMap (fun op => reply op (.failed kind)) =
      ops.map fun op => Effect.failure op.id op.replyTo kind.code := fun ops => List.flatMap_pure_eq_map _ ops
  rw [failAll, Turn.andThen_effects, withoutReleases_append, retireActive_withoutReleases s _ alerted,
    retireAll_withoutReleases, retireActive_queue, told, told, List.append_assoc, inService, List.map_append]

theorem still_filling : s.still.Only Effect.isFilling := .did _ s [] rfl

theorem retire_filling (op : Operation) (outcome : Outcome) : (s.retire op outcome).Only Effect.isFilling := by
  refine List.all_eq_true.1 ?_
  rcases s.retire_effects op outcome with said | said
  · rw [said]
    cases outcome <;> rfl
  · rw [said]
    cases outcome <;> rfl

theorem dispatch_filling (op : Operation) : (s.dispatch answers op).Only Effect.isFilling := by
  unfold dispatch
  dsimp only
  split
  · exact retire_filling s op _
  · apply Turn.Only.andThen
    · exact .did _ _ _ rfl
    · split
      · unfold occupy
        dsimp only
        split <;> exact .did _ _ _ rfl
      · exact retire_filling _ _ _

theorem start_filling (op : Operation) : (s.start answers op).Only Effect.isFilling := by
  unfold start
  split
  · exact .did _ _ _ rfl
  · exact dispatch_filling answers s op

theorem fillFrom_filling (ops : List Operation) : (fillFrom answers ops s).Only Effect.isFilling := by
  induction ops generalizing s with
  | nil => exact still_filling s
  | cons op rest ih =>
      unfold fillFrom
      split
      · exact .andThen _ _ _ (start_filling answers _ op) (ih _)
      · exact still_filling s

theorem fill_filling : (s.fill answers).Only Effect.isFilling := fillFrom_filling answers s s.queue

theorem fillFrom_suffix (ops : List Operation) (queue : s.queue = ops) :
    (fillFrom answers ops s).scheduler.queue <:+ ops := by
  induction ops generalizing s with
  | nil => rw [fillFrom, still, Turn.did_scheduler, queue]
  | cons op rest ih =>
      unfold fillFrom
      split
      · exact (ih _ (start_queue answers op _)).trans (List.suffix_cons op rest)
      · rw [still, Turn.did_scheduler, queue]

end Scheduler
end Ranging

import Ranging.Proofs.UidCaps
import Ranging.Proofs.Withdrawal

-- Two calls withdraw. A cancellation reaches those who are billed to nobody outside of it, and the death of a
-- requester reaches those who depend on that life.
namespace Ranging

def Operation.coveredBy (a : Attribution) (op : Operation) : Bool := decide (op.attribution ⊆ a)

def Operation.dependsOn (token : LivenessToken) (op : Operation) : Bool := decide (op.token = token)

-- What a cancellation does, and that a second one right after it does nothing.
structure History.CancelExact (h : History) (a : Attribution) : Prop where
  withdraws : ∀ answers, h.Withdraws (Operation.coveredBy a) answers (.cancel a)
  again : ∀ answers later,
    (h.next answers (.cancel a)).scheduler.step later (.cancel a) = (h.next answers (.cancel a)).scheduler.still

structure History.DeathExact (h : History) (token : LivenessToken) : Prop where
  withdraws : ∀ answers, h.Withdraws (Operation.dependsOn token) answers (.requesterDied token)
  once : (∃ op ∈ h.scheduler.live, op.token = token) → ∀ answers,
    watches token (h.scheduler.step answers (.requesterDied token)).effects = [false]
  -- another life is let go only where the queue moves up, and somebody comes to an end by that
  others : ∀ answers other, other ≠ token →
    .unregister other ∈ (h.scheduler.step answers (.requesterDied token)).effects →
    h.scheduler.slot.operation?.any (Operation.dependsOn token) = true ∧
    ∃ entry ∈ (h.scheduler.step answers (.requesterDied token)).ended, entry.1.token = other ∧ entry.2 ≠ .withdrawn
  unknown : (∀ op ∈ h.scheduler.live, op.token ≠ token) → ∀ answers,
    h.scheduler.step answers (.requesterDied token) = h.scheduler.still
  purged : ∀ answers, ((h.scheduler.registry.purge? token).elim [] Prod.fst).Perm
    (((h.scheduler.step answers (.requesterDied token)).ended.filter fun entry => entry.2 = .withdrawn).map
      fun entry => entry.1.id)

theorem Registry.purge?_fst (r : Registry) (token : LivenessToken) :
    (r.purge? token).elim [] Prod.fst = r.dependentsOf token := by
  unfold purge? dependentsOf
  cases r.dependents.get? token <;> rfl

section
variable (settings : Settings) (h : History) (path : History.Reached settings h) (answers : Answers)
variable (a : Attribution) (token : LivenessToken)
include path

theorem cancel_withdraws : h.Withdraws (Operation.coveredBy a) answers (.cancel a) := by
  refine call_withdraws settings h path answers (.cancel a) _ ?_ rfl ?_ ?_
  · intro op other same
    have billed : some op.attribution = some other.attribution := congrArg (fun ticket => ticket.2.attribution) same
    rw [Operation.coveredBy, Operation.coveredBy, Option.some.inj billed]
  · exact Scheduler.withdraw_routine answers h.scheduler _ (reached_ready settings h path)
  · exact reached_removes settings h path answers _

theorem purged_nobody :
    h.scheduler.registry.purge? token = none ↔ ∀ op ∈ h.scheduler.live, op.token ≠ token := by
  have known : h.scheduler.registry.purge? token = none ↔ ¬ h.scheduler.registry.isTracked token = true := by
    simp [Registry.purge?, Registry.isTracked, Table.contains_eq]
  rw [known, tracked_live token h (reached_sound h settings path).tracked]
  simp

theorem died_unknown (nobody : ∀ op ∈ h.scheduler.live, op.token ≠ token) :
    h.scheduler.step answers (.requesterDied token) = h.scheduler.still := by
  simp [Scheduler.step, Scheduler.requesterDied, (purged_nobody settings h path token).2 nobody]

theorem died_withdraws : h.Withdraws (Operation.dependsOn token) answers (.requesterDied token) := by
  have keyed : ∀ op other : Operation, op.ticket = other.ticket →
      op.dependsOn token = other.dependsOn token := by
    intro op other same
    have life : op.token = other.token := congrArg (fun ticket => ticket.2.token) same
    rw [Operation.dependsOn, Operation.dependsOn, life]
  have routine : (h.scheduler.step answers (.requesterDied token)).Only Effect.isRoutine :=
    Scheduler.requesterDied_routine answers h.scheduler token (reached_ready settings h path)
  refine call_withdraws settings h path answers (.requesterDied token) _ keyed rfl routine ?_
  cases purged : h.scheduler.registry.purge? token with
  | none =>
      have nobody := (purged_nobody settings h path token).1 purged
      rw [died_unknown settings h path answers token nobody, ← Scheduler.withdraw_nobody answers h.scheduler
        (Operation.dependsOn token) fun op live => decide_eq_false (nobody op live)]
      exact reached_removes settings h path answers _
  | some known =>
      obtain ⟨ids, registry⟩ := known
      rw [show h.scheduler.step answers (.requesterDied token) = _ from
        requesterDied_withdraws answers token h.scheduler ids registry purged]
      exact .buried _ h.scheduler _ token registry
        (Scheduler.withdraw_removes answers { h.scheduler with registry := registry } _
          (reached_deadlineArmed settings h path) (reached_ready settings h path)
          ((reached_slotSettled settings h path).available h.scheduler))

theorem died_others (other : LivenessToken) (another : other ≠ token)
    (released : .unregister other ∈ (h.scheduler.step answers (.requesterDied token)).effects) :
    h.scheduler.slot.operation?.any (Operation.dependsOn token) = true ∧
    ∃ entry ∈ (h.scheduler.step answers (.requesterDied token)).ended,
      entry.1.token = other ∧ entry.2 ≠ .withdrawn := by
  have withdraws := died_withdraws settings h path answers token
  have asked : watches other (h.scheduler.step answers (.requesterDied token)).effects ≠ [] :=
    List.ne_nil_of_mem (List.mem_filterMap.2 ⟨_, released, if_pos rfl⟩)
  rw [withdraws.released other] at asked
  obtain ⟨⟨op, live, life⟩, gone⟩ := Decidable.of_not_not fun kept => asked (if_neg kept)
  -- the one who depended on it was not chosen, so it moved up
  have spared : op.dependsOn token = false := decide_eq_false (life ▸ another)
  have ended : ∃ entry ∈ (h.scheduler.step answers (.requesterDied token)).ended,
      entry.1.token = other ∧ entry.2 ≠ .withdrawn := by
    have listed := withdraws.stayed.mem_iff.2
      (List.mem_map_of_mem (List.mem_filter.2 ⟨live, congrArg (!·) spared⟩))
    rcases List.mem_append.1 listed with ended | stays
    · obtain ⟨entry, member, same⟩ := List.mem_map.1 ended
      obtain ⟨member, outcome⟩ := List.mem_filter.1 member
      have bound : entry.1.token = op.token := congrArg (fun ticket => ticket.2.token) same
      exact ⟨entry, member, bound.trans life, of_decide_eq_true outcome⟩
    · obtain ⟨left, member, same⟩ := List.mem_map.1 stays
      have bound : left.token = op.token := congrArg (fun ticket => ticket.2.token) same
      exact absurd (bound.trans life) (gone left member)
  refine ⟨?_, ended⟩
  cases struck : h.scheduler.slot.operation?.any (Operation.dependsOn token) with
  | true => rfl
  | false =>
      obtain ⟨entry, member, _, outcome⟩ := ended
      rw [(withdraws.turn.spared struck).2.1] at member
      obtain ⟨_, _, rfl⟩ := List.mem_map.1 member
      exact absurd rfl outcome

theorem died_purged : ((h.scheduler.registry.purge? token).elim [] Prod.fst).Perm
    (((h.scheduler.step answers (.requesterDied token)).ended.filter fun entry => entry.2 = .withdrawn).map
      fun entry => entry.1.id) := by
  have tracked := (reached_sound h settings path).tracked
  have removed : (((h.scheduler.step answers (.requesterDied token)).ended.filter
      fun entry => entry.2 = .withdrawn).map fun entry => entry.1.id) =
        (h.scheduler.live.filter (Operation.dependsOn token)).map Operation.id := by
    rw [(died_withdraws settings h path answers token).turn.removed, List.map_map]
    rfl
  have listed : (h.scheduler.registry.dependentsOf token).Nodup :=
    Registry.dependentsOf_nodup _ token tracked.tidy
  have alone := (List.nodup_append.1 (reached_distinct settings h path)).2.1
  rw [removed, Registry.purge?_fst,
    List.perm_ext_iff_of_nodup listed (alone.sublist (List.filter_sublist.map _))]
  intro id
  refine (holds_live h tracked token id).trans ?_
  simp [Operation.dependsOn, and_assoc]

end

theorem reached_cancelExact (settings : Settings) (h : History) (path : History.Reached settings h) (a : Attribution) :
    h.CancelExact a := by
  refine ⟨fun answers => cancel_withdraws settings h path answers a, ?_⟩
  intro answers later
  exact Scheduler.withdraw_nobody later _ _ (cancel_withdraws settings h path answers a).nobody

theorem pooled_reached : History.Reached { Settings.standard with maxQueued := 1 } History.pooled :=
  History.run_reached _ _ _ (.start true _ rfl)

-- The first uid alone is billed for what the hardware works on, and not for what waits.
theorem pooled_cancelExact : History.Reached { Settings.standard with maxQueued := 1 } History.pooled ∧
    History.pooled.scheduler.queue.map (Operation.coveredBy (.single 1)) = [false] ∧
    History.pooled.scheduler.slot.operation?.map (Operation.coveredBy (.single 1)) = some true ∧
    History.pooled.CancelExact (.single 1) :=
  ⟨pooled_reached, by decide, by decide, reached_cancelExact _ History.pooled pooled_reached (.single 1)⟩

theorem reached_deathExact (settings : Settings) (h : History) (path : History.Reached settings h)
    (token : LivenessToken) : h.DeathExact token := by
  refine ⟨fun answers => died_withdraws settings h path answers token, ?_,
    fun answers other => died_others settings h path answers token other, ?_,
    fun answers => died_purged settings h path answers token⟩
  · intro live answers
    exact died_watches token settings h path answers live
  · intro nobody answers
    exact died_unknown settings h path answers token nobody

-- The hardware works on behalf of the fourth requester then, and the sixth moves up.
theorem sample_deathExact : History.Reached .standard History.sample ∧
    History.sample.scheduler.queue.map (Operation.dependsOn ⟨4⟩) = [false] ∧
    History.sample.scheduler.slot.operation?.map (Operation.dependsOn ⟨4⟩) = some true ∧
    History.sample.DeathExact ⟨4⟩ :=
  ⟨sample_reached, by decide, by decide, reached_deathExact .standard History.sample sample_reached ⟨4⟩⟩

end Ranging

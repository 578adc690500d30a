import Ranging.Proofs.CallMoves
import Ranging.Sample
import Mathlib.Data.List.Perm.Subperm

-- The audit passes after every call. Its four tests are first put into words about any snapshot,
-- sound or not; then they are read off what holds at every point of a run.
namespace Ranging

namespace Snapshot

theorem queuedNotDispatched_iff (s : Snapshot) :
    s.queuedNotDispatched = true ↔ ∀ op ∈ s.queue, op.state = .queued ∧ op.correlation = none := by
  simp [queuedNotDispatched]

-- Tested are one inclusion and a count; as no token is listed twice on either side, they make
-- the two sets equal.
theorem livenessBalanced_iff (s : Snapshot) :
    s.livenessBalanced = true ↔ ∀ token, s.registry.isTracked token = true ↔ ∃ op ∈ s.live, op.token = token := by
  have distinct := nodup_eraseDups (s.live.map Operation.token)
  have tracked : ∀ token, token ∈ s.registry.tokens ↔ s.registry.isTracked token = true :=
    Table.mem_keys_iff s.registry.dependents
  have held : ∀ token, token ∈ (s.live.map Operation.token).eraseDups ↔ ∃ op ∈ s.live, op.token = token := by
    simp
  have count : s.registry.tokens.length = s.registry.tokenCount := Table.size_keys s.registry.dependents
  have tokens : s.registry.tokens.Nodup := Table.keys_nodup s.registry.dependents
  simp only [livenessBalanced, Bool.and_eq_true, List.all_eq_true, decide_eq_true_eq]
  constructor
  · intro balanced token
    obtain ⟨included, same⟩ := balanced
    have inside : (s.live.map Operation.token).eraseDups ⊆ s.registry.tokens :=
      fun other member => (tracked other).2 (included other member)
    have all := (List.subperm_of_subset distinct inside).perm_of_length_le (Nat.le_of_eq (count.trans same.symm))
    rw [← tracked, ← held]
    exact all.mem_iff.symm
  · intro exactly
    have all : (s.live.map Operation.token).eraseDups.Perm s.registry.tokens :=
      (List.perm_ext_iff_of_nodup distinct tokens).2 fun token => by rw [held, tracked, exactly]
    exact ⟨fun token member => (exactly token).2 ((held token).1 member), by rw [all.length_eq, count]⟩

theorem distinctIds_iff (ids : List OperationId) : distinctIds ids = true ↔ ids.Nodup := by
  induction ids with
  | nil => simp [distinctIds]
  | cons id rest ih => simp [distinctIds, ih]

theorem check_ok_iff (s : Snapshot) : s.check = .ok () ↔
    s.queuedNotDispatched = true ∧ s.timerMatchesDispatch = true ∧ s.livenessBalanced = true ∧
      s.uniqueOperations = true := by
  unfold check
  cases s.queuedNotDispatched <;> cases s.timerMatchesDispatch <;> cases s.livenessBalanced <;>
    cases s.uniqueOperations <;> simp

end Snapshot

theorem live_snapshot (s : Scheduler) : s.snapshot.live = s.live := by
  cases slot : s.slot <;>
    simp [Snapshot.live, Scheduler.snapshot, Scheduler.live, slot, Slot.occupant?, Slot.operation?]

theorem holds_live (h : History) (tracked : RegistryMatches (.clear h)) (token : LivenessToken) (id : OperationId) :
    h.scheduler.registry.Holds token id ↔ ∃ op ∈ h.scheduler.live, op.token = token ∧ op.id = id := by
  have exactly := tracked.holds_iff token id
  simp only [(present_perm h).mem_iff] at exactly
  exact exactly.trans (and_iff_right (by simp [MidCall.clear]))

theorem sound_timer (h : History) (slotMatches : SlotMatches (.clear h)) :
    h.scheduler.snapshot.timerMatchesDispatch = true := by
  cases slot : h.scheduler.slot with
  | idle =>
      have unarmed : h.scheduler.deadline = .unarmed := slotMatches.idle slot
      simp [Snapshot.timerMatchesDispatch, Scheduler.snapshot, slot, Slot.occupant?, unarmed, Deadline.isArmed,
        Deadline.armedFor?]
  | resolving op =>
      obtain ⟨⟨_, correlation, _⟩, _, unarmed⟩ := slotMatches.resolving op slot
      have unarmed : h.scheduler.deadline = .unarmed := unarmed
      simp [Snapshot.timerMatchesDispatch, Scheduler.snapshot, slot, Slot.occupant?, correlation, unarmed,
        Deadline.isArmed, Deadline.armedFor?]
  | dispatched op =>
      obtain ⟨cid, due, state, correlation, _, armed⟩ := slotMatches.dispatched op slot
      have armed : h.scheduler.deadline = .armed cid due := armed
      simp [Snapshot.timerMatchesDispatch, Scheduler.snapshot, slot, Slot.occupant?, state, correlation, armed,
        Deadline.armedFor?]

theorem sound_balanced (h : History) (tracked : RegistryMatches (.clear h)) :
    h.scheduler.snapshot.livenessBalanced = true := by
  rw [Snapshot.livenessBalanced_iff, live_snapshot]
  intro token
  have known := Registry.isTracked_iff h.scheduler.registry token tracked.tidy
  refine known.trans ?_
  constructor
  · intro tracked
    obtain ⟨id, holds⟩ := tracked
    obtain ⟨op, member, same, _⟩ := (holds_live h tracked token id).1 holds
    exact ⟨op, member, same⟩
  · intro live
    obtain ⟨op, member, same⟩ := live
    exact ⟨op.id, (holds_live h tracked token op.id).2 ⟨op, member, same, rfl⟩⟩

theorem sound_unique (h : History) (named : DistinctIds (.clear h)) : h.scheduler.snapshot.uniqueOperations = true := by
  rw [Snapshot.uniqueOperations, Snapshot.distinctIds_iff, live_snapshot]
  exact ((present_perm h).map Operation.id).nodup_iff.1 named.distinct

theorem sound_check (h : History) (sound : Sound (.clear h)) : h.scheduler.snapshot.check = .ok () := by
  refine (Snapshot.check_ok_iff _).2 ⟨?_, sound_timer h sound.slotMatches, sound_balanced h sound.tracked,
    sound_unique h sound.named⟩
  refine (Snapshot.queuedNotDispatched_iff _).2 fun op member => ?_
  obtain ⟨state, correlation, _⟩ := sound.slotMatches.queued op member
  exact ⟨state, correlation⟩

structure Scheduler.Consistent (s : Scheduler) : Prop where
  audited : s.snapshot.check = .ok ()
  tracked : ∀ token ids, s.registry.dependents.get? token = some ids →
    ids ≠ [] ∧ ids.Nodup ∧ ∀ id, id ∈ ids ↔ ∃ op ∈ s.live, op.token = token ∧ op.id = id
  untracked : ∀ token, s.registry.dependents.get? token = none → ∀ op ∈ s.live, op.token ≠ token
  queued : ∀ op ∈ s.queue, op.state = .queued ∧ op.correlation = none ∧ op.translation = none
  resolving : ∀ op, s.slot = .resolving op →
    op.request.handles ≠ [] ∧ op.correlation = none ∧ op.translation = none
  dispatched : ∀ op, s.slot = .dispatched op → op.hardwarePeers ≠ [] ∧
    ∃ cid, op.correlation = some cid ∧ s.deadline.armedFor? = some cid
  unarmed : (∀ op, s.slot ≠ .dispatched op) → s.deadline.isArmed = false

theorem reached_consistent (settings : Settings) (h : History) (path : History.Reached settings h) :
    h.scheduler.Consistent := by
  have sound := reached_sound h settings path
  have holds := holds_live h sound.tracked
  refine ⟨sound_check h sound, ?_, ?_, sound.slotMatches.queued, ?_, ?_, ?_⟩
  · intro token ids found
    obtain ⟨inhabited, distinct⟩ := sound.tracked.tidy token ids found
    refine ⟨inhabited, distinct, ?_⟩
    intro id
    rw [← holds token id, Registry.holds_def]
    simp [found]
  · intro token unknown op member same
    obtain ⟨ids, known, _⟩ := (Registry.holds_def _ _ _).1 ((holds token op.id).2 ⟨op, member, same, rfl⟩)
    rw [unknown] at known
    cases known
  · intro op slot
    obtain ⟨⟨_, correlation, translation⟩, handles, _⟩ := sound.slotMatches.resolving op slot
    exact ⟨(Request.hasHandles_iff op.request).1 handles, correlation, translation⟩
  · intro op slot
    obtain ⟨cid, due, _, correlation, reachable, armed⟩ := sound.slotMatches.dispatched op slot
    have armed : h.scheduler.deadline = .armed cid due := armed
    exact ⟨reachable, cid, correlation, by rw [armed]; rfl⟩
  · intro free
    have unarmed : h.scheduler.deadline = .unarmed := by
      cases slot : h.scheduler.slot with
      | idle => exact sound.slotMatches.idle slot
      | resolving op => exact (sound.slotMatches.resolving op slot).2.2
      | dispatched op => exact absurd slot (free op)
    rw [unarmed]
    rfl

def Answers.sample : Answers where
  permits := fun _ => true
  foreground := fun _ => true
  accepts := fun id _ _ => id ≠ ⟨2⟩
  admissionClock := 10
  dispatchClock := 20

def Submission.sample (place : Nat) (request : Request) : Submission :=
  ⟨⟨1000, "app"⟩, none, request, ⟨place⟩, ⟨place⟩⟩

-- Of six operations the first is answered, the second rejected, the third resolved and timed out,
-- and the fifth withdrawn. The fourth is with the hardware then, and the last waits.
def History.sample : History :=
  (History.fresh .standard true).run (List.map (Prod.mk Answers.sample)
    [.submit (.sample 1 (.sample 1)), .submit (.sample 2 (.sample 2)),
      .submit (.sample 3 (Request.empty.withHandle ⟨7⟩)), .submit (.sample 4 (.sample 4)),
      .submit (.sample 5 (.sample 5)), .submit (.sample 6 (.sample 6)), .measured ⟨1⟩ [],
      .requesterDied ⟨5⟩, .resolved ⟨3⟩ (Table.empty.put ⟨7⟩ ⟨2, 0, 0, 0, 0, 7⟩), .wake ⟨3⟩])

theorem sample_reached : History.Reached .standard History.sample := History.run_reached _ _ _ (.start true _ rfl)

-- One operation is with the hardware here, and another waits behind it.
theorem sample_consistent : History.Reached .standard History.sample ∧
    History.sample.scheduler.live.map Operation.id = [⟨6⟩, ⟨4⟩] ∧ History.sample.scheduler.Consistent :=
  ⟨sample_reached, by decide, reached_consistent .standard History.sample sample_reached⟩

end Ranging

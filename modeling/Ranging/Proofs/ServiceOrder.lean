import Ranging.Proofs.AdmittedOperations
import Ranging.Proofs.SlotSettled
import Ranging.Proofs.HardwareWire
import Ranging.Proofs.Audit

-- First come, first served. The slot goes to the oldest who is left, nobody waits beside an idle
-- slot, and nobody overtakes on the way to the hardware.
namespace Ranging

def Scheduler.inService (s : Scheduler) : List Operation := s.slot.operation?.toList ++ s.queue

-- The hand-overs to the hardware in their order, those that it turned down included.
def History.submissions (h : History) : List (OperationId × CorrelationId) := h.wire.filterMap Signal.submission?

def History.served (h : History) : List OperationId := h.submissions.map Prod.fst

-- Whoever was handed over came before all who have not been.
structure ServedInOrder (d : MidCall) : Prop where
  rising : (d.served ++ d.unserved).Pairwise fun a b => a.val < b.val
  below : ∀ id ∈ d.served ++ d.unserved, id.val < d.scheduler.nextOperation.val

theorem submissions_said (d e : MidCall) (said : List Signal) (wire : e.wire = d.wire ++ said) :
    e.submissions = d.submissions ++ said.filterMap Signal.submission? := by
  rw [History.submissions, wire, List.filterMap_append]
  rfl

theorem served_said (d e : MidCall) (said : List Signal) (wire : e.wire = d.wire ++ said) :
    e.served = d.served ++ (said.filterMap Signal.submission?).map Prod.fst := by
  rw [History.served, submissions_said d e said wire, List.map_append]
  rfl

theorem ServedInOrder.thinned (d e : MidCall) (ahead : ServedInOrder d) (served : e.served = d.served)
    (unserved : e.unserved.Sublist d.unserved)
    (next : d.scheduler.nextOperation.val ≤ e.scheduler.nextOperation.val) : ServedInOrder e := by
  have fewer : (e.served ++ e.unserved).Sublist (d.served ++ d.unserved) := by
    rw [served]
    exact unserved.append_left _
  refine ⟨ahead.rising.sublist fewer, ?_⟩
  intro id member
  exact Nat.lt_of_lt_of_le (ahead.below id (fewer.subset member)) next

theorem servedInOrder_kept (d e : MidCall) (ahead : ServedInOrder d) (move : Move d e) : ServedInOrder e := by
  cases move_traffic d e move with
  | quiet wire flying unserved operation correlation =>
      exact ahead.thinned d e (by simp only [History.served, History.submissions, wire]) unserved operation
  | joined wire flying unserved operation correlation =>
      have served : e.served = d.served := by simp only [History.served, History.submissions, wire]
      constructor
      · rw [served, unserved, ← List.append_assoc, List.pairwise_append]
        refine ⟨ahead.rising, by simp, ?_⟩
        intro id member newest alone
        rw [List.mem_singleton.1 alone]
        exact ahead.below id member
      · intro id member
        rw [served, unserved, ← List.append_assoc] at member
        rw [operation]
        rcases List.mem_append.1 member with old | new
        · exact Nat.lt_succ_of_lt (ahead.below id old)
        · rw [List.mem_singleton.1 new]
          exact Nat.lt_succ_self _
  | stale cid away wire flying unserved operation correlation =>
      have served := (served_said d e _ wire).trans (List.append_nil _)
      exact ahead.thinned d e served (unserved ▸ .refl _) (operation ▸ Nat.le_refl _)
  | landed cid peers before wire after unserved operation correlation =>
      have served := (served_said d e _ wire).trans (List.append_nil _)
      exact ahead.thinned d e served (unserved ▸ .refl _) (operation ▸ Nat.le_refl _)
  | recalled cid peers before wire after unserved operation correlation =>
      have served := (served_said d e _ wire).trans (List.append_nil _)
      exact ahead.thinned d e served (unserved ▸ .refl _) (operation ▸ Nat.le_refl _)
  | submitted op accepted poised reachable before wire after unserved operation correlation =>
      have passed : e.served ++ e.unserved = d.served ++ d.unserved := by
        rw [served_said d e _ wire, unserved, List.append_assoc]
        rfl
      constructor
      · rw [passed]
        exact ahead.rising
      · rw [passed, operation]
        exact ahead.below

theorem reached_servedInOrder (settings : Settings) (h : History) (path : History.Reached settings h) :
    ServedInOrder (.clear h) := by
  refine reached_law h settings ServedInOrder ?_ (fun d e _ ahead move => servedInOrder_kept d e ahead move) path
  intro ready positive
  exact ⟨.nil, by simp [MidCall.clear, MidCall.unserved, History.fresh, Scheduler.fresh, Slot.unserved, History.served,
    History.submissions, History.wire, Entry.signal?, Effect.signal?]⟩

structure History.FirstComeFirstServed (h : History) : Prop where
  rising : (h.scheduler.inService.map Operation.id).Pairwise fun a b => a.val < b.val
  -- those who were let in and have not ended, in the order in which they came
  exactly : h.scheduler.inService.map Operation.ticket =
    h.tickets.filter fun ticket => ticket.1 ∉ h.ended.map fun entry => entry.1.id
  first : ∀ op ∈ h.scheduler.inService, h.scheduler.available = true ∧
    ∃ oldest, h.scheduler.slot.operation? = some oldest ∧ oldest.id.val ≤ op.id.val
  busy : h.scheduler.queue ≠ [] → h.scheduler.slot ≠ .idle
  unavailable : h.scheduler.available = false → h.scheduler.inService = []
  enabled : ∀ answers call, h.scheduler.available = false →
    (h.scheduler.step answers call).scheduler.available = true →
    (h.scheduler.step answers call).effects = [.announce .enabled]
  served : h.served.Pairwise fun a b => a.val < b.val

theorem standing_clear (h : History) : (MidCall.clear h).standing = h.scheduler.inService := by
  simp [MidCall.standing, MidCall.clear, Scheduler.inService]

theorem inService_perm (s : Scheduler) : s.inService.Perm s.live := List.perm_append_comm

theorem reached_rising (settings : Settings) (h : History) (path : History.Reached settings h) :
    (h.scheduler.inService.map Operation.id).Pairwise fun a b => a.val < b.val := by
  have ordered := (reached_sound h settings path).named.ordered
  rwa [standing_clear] at ordered

-- Both sides are in order, so it is enough that they hold the same tickets.
theorem reached_exactly (settings : Settings) (h : History) (path : History.Reached settings h) :
    h.scheduler.inService.map Operation.ticket =
      h.tickets.filter fun ticket => ticket.1 ∉ h.ended.map fun entry => entry.1.id := by
  have conserves := reached_conserved settings h path
  have rising := reached_rising settings h path
  obtain ⟨_, _, apart⟩ := List.nodup_append.1 (reached_distinct settings h path)
  have same := (reached_tickets settings h path).filter fun ticket => ticket.1 ∉ h.ended.map fun entry => entry.1.id
  rw [List.filter_append, List.filter_eq_nil_iff.2, List.nil_append, List.filter_eq_self.2] at same
  · have here := ((inService_perm h.scheduler).map Operation.ticket).trans same
    have waiting : (h.scheduler.inService.map Operation.ticket).Pairwise fun a b => a.1.val < b.1.val := by
      rw [List.pairwise_map] at rising ⊢
      exact rising
    have admitted : h.tickets.Pairwise fun a b => a.1.val < b.1.val := by
      have ordered := conserves.ordered
      rw [List.pairwise_map] at ordered
      rw [History.tickets, List.pairwise_map]
      exact ordered
    refine List.Perm.eq_of_pairwise ?_ waiting (admitted.filter _) here
    intro a b _ _ below above
    exact absurd below (Nat.lt_asymm above)
  · intro ticket member
    obtain ⟨op, live, rfl⟩ := List.mem_map.1 member
    refine decide_eq_true ?_
    intro ended
    exact apart _ ended _ (List.mem_map_of_mem live) rfl
  · intro ticket member
    obtain ⟨entry, ended, rfl⟩ := List.mem_map.1 member
    have listed : entry.1.ticket.1 ∈ h.ended.map fun entry => entry.1.id :=
      List.mem_map_of_mem (f := fun entry : Operation × Outcome => entry.1.id) ended
    simpa using listed

-- Whoever is first in the service has the slot, because nobody waits beside an idle one.
theorem reached_first (settings : Settings) (h : History) (path : History.Reached settings h) (op : Operation)
    (member : op ∈ h.scheduler.inService) : h.scheduler.available = true ∧
    ∃ oldest, h.scheduler.slot.operation? = some oldest ∧ oldest.id.val ≤ op.id.val := by
  have rested := reached_slotSettled settings h path
  have rising := reached_rising settings h path
  cases occupied : h.scheduler.slot.operation? with
  | none =>
      have idle : h.scheduler.slot = .idle := by
        cases slot : h.scheduler.slot <;> simp [slot, Slot.operation?] at occupied
        rfl
      simp [Scheduler.inService, occupied, rested.idle idle] at member
  | some oldest =>
      have busy : h.scheduler.slot ≠ .idle := by
        intro idle
        simp [idle, Slot.operation?] at occupied
      refine ⟨rested.available _ busy, oldest, rfl, ?_⟩
      simp only [Scheduler.inService, occupied, Option.toList_some, List.singleton_append, List.map_cons,
        List.pairwise_cons] at rising
      simp only [Scheduler.inService, occupied, Option.toList_some, List.singleton_append, List.mem_cons] at member
      rcases member with rfl | later
      · exact Nat.le_refl _
      · exact Nat.le_of_lt (rising.1 _ (List.mem_map_of_mem later))

theorem reached_firstComeFirstServed (settings : Settings) (h : History) (path : History.Reached settings h) :
    h.FirstComeFirstServed := by
  have rested := reached_slotSettled settings h path
  refine ⟨reached_rising settings h path, reached_exactly settings h path, reached_first settings h path, ?_, ?_, ?_,
    ?_⟩
  · intro waiting idle
    exact waiting (rested.idle idle)
  · intro unavailable
    have idle := rested.unavailable unavailable
    simp [Scheduler.inService, idle, rested.idle idle, Slot.operation?]
  · intro answers call before after
    exact step_enabled answers h.scheduler call rested before after
  · have rising := (reached_servedInOrder settings h path).rising
    exact (List.pairwise_append.1 rising).1

theorem sample_firstComeFirstServed : History.Reached .standard History.sample ∧
    History.sample.served = [⟨1⟩, ⟨2⟩, ⟨3⟩, ⟨4⟩] ∧
    History.sample.scheduler.inService.map Operation.id = [⟨4⟩, ⟨6⟩] ∧ History.sample.FirstComeFirstServed :=
  ⟨sample_reached, by decide, by decide, reached_firstComeFirstServed .standard History.sample sample_reached⟩

end Ranging

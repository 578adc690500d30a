import Ranging.Proofs.CallMoves
import Ranging.Proofs.LogEntries
import Mathlib.Data.List.Nodup

-- Nobody is lost and nobody gets in twice: what was handed in is, at every point of a run, either on
-- its way or ended.
namespace Ranging

def Operation.ticket (op : Operation) : OperationId × Submission :=
  (op.id, ⟨op.requester, some op.attribution, op.request, op.token, op.replyTo⟩)

def Submission.billed (sub : Submission) : Submission :=
  { sub with attribution := some (sub.attribution.getD (.single sub.requester.uid)) }

def MidCall.tickets (d : MidCall) : List (OperationId × Submission) :=
  d.ended.map (fun entry => entry.1.ticket) ++ d.present.map Operation.ticket

def History.tickets (h : History) : List (OperationId × Submission) := h.admitted.map fun a => (a.1, a.2.billed)

structure Conserved (settings : Settings) (d : MidCall) : Prop where
  settled : d.scheduler.settings = settings
  formed : ∀ a ∈ d.admitted, a.2.request.validate settings.maxPeers = .ok ()
  below : ∀ a ∈ d.admitted, a.1.val < d.scheduler.nextOperation.val
  ordered : (d.admitted.map Prod.fst).Pairwise fun a b => a.val < b.val
  conserved : d.tickets.Perm d.toHistory.tickets

theorem names_distinct (ids : List OperationId) (ordered : ids.Pairwise fun a b => a.val < b.val) : ids.Nodup := by
  refine ordered.imp ?_
  intro a b below same
  rw [same] at below
  exact Nat.lt_irrefl _ below

theorem move_settings (d e : MidCall) (move : Move d e) : e.scheduler.settings = d.scheduler.settings := by
  cases move <;> rfl

theorem files_tickets (ops : List Operation) :
    (ops.map Operation.file).map Operation.ticket = ops.map Operation.ticket := List.map_map

-- A new name is above all that were given before.
theorem Conserved.admitted (settings : Settings) (d e : MidCall) (sub : Submission) (conserves : Conserved settings d)
    (formed : sub.request.validate d.scheduler.settings.maxPeers = .ok ())
    (admitted : e.admitted = d.admitted ++ [(d.scheduler.nextOperation, sub)])
    (next : e.scheduler.nextOperation = d.scheduler.nextOperation.next) :
    (∀ a ∈ e.admitted, a.2.request.validate settings.maxPeers = .ok ()) ∧
    (∀ a ∈ e.admitted, a.1.val < e.scheduler.nextOperation.val) ∧
    (e.admitted.map Prod.fst).Pairwise fun a b => a.val < b.val := by
  rw [admitted, next]
  refine ⟨?_, ?_, ?_⟩
  · intro a member
    rcases List.mem_append.1 member with old | new
    · exact conserves.formed a old
    · rw [List.mem_singleton.1 new, ← conserves.settled]
      exact formed
  · intro a member
    rcases List.mem_append.1 member with old | new
    · exact Nat.lt_succ_of_lt (conserves.below a old)
    · rw [List.mem_singleton.1 new]
      exact Nat.lt_succ_self _
  · rw [List.map_append, List.map_singleton, List.pairwise_append]
    refine ⟨conserves.ordered, by simp, ?_⟩
    intro id member b alone
    obtain ⟨a, here, rfl⟩ := List.mem_map.1 member
    rw [List.mem_singleton.1 alone]
    exact conserves.below a here

theorem Conserved.unchanged (settings : Settings) (d e : MidCall) (conserves : Conserved settings d)
    (settled : e.scheduler.settings = settings) (admitted : e.admitted = d.admitted)
    (next : e.scheduler.nextOperation = d.scheduler.nextOperation) (tickets : e.tickets.Perm d.tickets) :
    Conserved settings e := by
  refine ⟨settled, admitted ▸ conserves.formed, admitted ▸ next ▸ conserves.below, admitted ▸ conserves.ordered, ?_⟩
  rw [History.tickets, admitted]
  exact tickets.trans conserves.conserved

theorem conserved_kept (settings : Settings) (d e : MidCall) (conserves : Conserved settings d) (move : Move d e) :
    Conserved settings e := by
  have settled := (move_settings d e move).trans conserves.settled
  have conserved := conserves.conserved
  rw [MidCall.tickets, History.tickets] at conserved
  cases move_flow d e move with
  | kept present standing ended admitted buried next registry =>
      refine conserves.unchanged settings d e settled admitted next ?_
      have tickets : (e.present.map Operation.ticket).Perm (d.present.map Operation.ticket) := by
        simpa only [files_tickets] using present.map Operation.ticket
      rw [MidCall.tickets, ended]
      exact tickets.append_left _
  | left op outcome present standing ended admitted buried next registry =>
      refine conserves.unchanged settings d e settled admitted next ?_
      rw [MidCall.tickets, MidCall.tickets, present, ended, List.map_append, List.append_assoc]
      exact .refl _
  | refused answers sub op kind made wellFormed present standing ended admitted buried next registry =>
      have fresh : op.id = d.scheduler.nextOperation := by rw [made]; rfl
      have ticket : op.ticket = (op.id, sub.billed) := by rw [made]; rfl
      obtain ⟨formed, below, ordered⟩ := conserves.admitted settings d e sub wellFormed (fresh ▸ admitted) next
      refine ⟨settled, formed, below, ordered, ?_⟩
      rw [MidCall.tickets, History.tickets, ended, admitted, present, List.map_append, List.map_append,
        List.append_assoc]
      refine (List.perm_append_comm.append_left _).trans ?_
      rw [← List.append_assoc]
      simpa [ticket] using conserved.append_right [(op.id, sub.billed)]
  | joined answers sub op made wellFormed present standing ended admitted unburied buried next registry =>
      have fresh : op.id = d.scheduler.nextOperation := by rw [made]; rfl
      have ticket : op.ticket = (op.id, sub.billed) := by rw [made]; rfl
      obtain ⟨formed, below, ordered⟩ := conserves.admitted settings d e sub wellFormed (fresh ▸ admitted) next
      refine ⟨settled, formed, below, ordered, ?_⟩
      rw [MidCall.tickets, History.tickets, ended, admitted, present, List.map_append, List.map_append,
        ← List.append_assoc]
      simpa [ticket] using conserved.append_right [(op.id, sub.billed)]
  | buried token ids present standing ended admitted unburied buried next purged =>
      refine conserves.unchanged settings d e settled admitted next ?_
      rw [MidCall.tickets, ended, present]
      exact .refl _
  | forgotten token present standing ended admitted buried unburied gone next registry =>
      refine conserves.unchanged settings d e settled admitted next ?_
      rw [MidCall.tickets, ended, present]
      exact .refl _

theorem present_formed (settings : Settings) (d : MidCall) (conserves : Conserved settings d) (op : Operation)
    (present : op ∈ d.present) : op.request.validate settings.maxPeers = .ok () := by
  have listed := conserves.conserved.mem_iff.1 (List.mem_append_right _ (List.mem_map_of_mem present))
  obtain ⟨a, admitted, same⟩ := List.mem_map.1 listed
  have request : a.2.request = op.request := congrArg (fun ticket => ticket.2.request) same
  rw [← request]
  exact conserves.formed a admitted

theorem hardwarePeers_sized (settings : Settings) (d : MidCall) (conserves : Conserved settings d) (op : Operation)
    (present : op ∈ d.present) : op.hardwarePeers.length ≤ settings.maxPeers := by
  have formed := present_formed settings d conserves op present
  exact Nat.le_trans (List.length_filterMap_le _ _) ((Request.validate_ok_iff _ _).1 formed).2

theorem fresh_conserved (settings : Settings) (ready : Bool) : Conserved settings (.clear (.fresh settings ready)) :=
  ⟨rfl, by simp [MidCall.clear, History.fresh], by simp [MidCall.clear, History.fresh], .nil, .nil⟩

theorem reached_conserved (settings : Settings) (h : History) (path : History.Reached settings h) :
    Conserved settings (.clear h) := by
  refine reached_law h settings (Conserved settings) ?_
    (fun d e _ conserves move => conserved_kept settings d e conserves move) path
  intro ready positive
  exact fresh_conserved settings ready

theorem reached_tickets (settings : Settings) (h : History) (path : History.Reached settings h) :
    (h.ended.map (fun entry => entry.1.ticket) ++ h.scheduler.live.map Operation.ticket).Perm h.tickets := by
  have turned := ((present_perm h).map Operation.ticket).append_left (h.ended.map fun entry => entry.1.ticket)
  exact turned.symm.trans (reached_conserved settings h path).conserved

theorem reached_ids (settings : Settings) (h : History) (path : History.Reached settings h) :
    (h.ended.map (fun entry => entry.1.id) ++ h.scheduler.live.map Operation.id).Perm (h.admitted.map Prod.fst) := by
  have ids := (reached_tickets settings h path).map Prod.fst
  simpa [History.tickets, Operation.ticket, Function.comp_def] using ids

theorem reached_distinct (settings : Settings) (h : History) (path : History.Reached settings h) :
    (h.ended.map (fun entry => entry.1.id) ++ h.scheduler.live.map Operation.id).Nodup :=
  (reached_ids settings h path).nodup_iff.2 (names_distinct _ (reached_conserved settings h path).ordered)

theorem reached_gone (settings : Settings) (h : History) (path : History.Reached settings h)
    (entry : Operation × Outcome) (ended : entry ∈ h.ended) (op : Operation) (live : op ∈ h.scheduler.live) :
    op.id ≠ entry.1.id := by
  intro same
  exact (List.nodup_append.1 (reached_distinct settings h path)).2.2 _ (List.mem_map_of_mem ended) _
    (List.mem_map_of_mem live) same.symm

theorem next_tickets (settings : Settings) (h : History) (path : History.Reached settings h) (answers : Answers)
    (call : Call) :
    ((h.scheduler.step answers call).ended.map (fun entry => entry.1.ticket) ++
      (h.next answers call).scheduler.live.map Operation.ticket).Perm
    (h.scheduler.live.map Operation.ticket ++ (h.scheduler.admits answers call).map fun a => (a.1, a.2.billed)) := by
  have before := reached_tickets settings h path
  have after := reached_tickets settings _ (.next answers call h path)
  rw [History.next_ended, List.map_append, List.append_assoc] at after
  have admitted : (h.next answers call).tickets =
      h.tickets ++ (h.scheduler.admits answers call).map fun a => (a.1, a.2.billed) := List.map_append
  rw [admitted] at after
  have whole := after.trans (before.symm.append_right _)
  rw [List.append_assoc] at whole
  exact (List.perm_append_left_iff _).1 whole

end Ranging

import Ranging.Proofs.OneDispatch
import Ranging.Proofs.LogEntries

-- The correlation id of an operation is the mark of its one hand-over to the hardware. Whoever has
-- none was never handed over, and whoever has ended never will be.
namespace Ranging

theorem midCall_names (settings : Settings) (d : MidCall) (conserves : Conserved settings d) :
    (d.ended.map (fun entry => entry.1.id) ++ d.present.map Operation.id).Nodup := by
  have names := conserves.conserved.map Prod.fst
  have distinct := names_distinct _ conserves.ordered
  simp only [MidCall.tickets, History.tickets, List.map_append, List.map_map] at names
  exact names.nodup_iff.2 distinct

-- Those whose way through the scheduler is over, or as good as over.
def MidCall.HasLeft (d : MidCall) (op : Operation) : Prop := op ∈ d.leaving ∨ op ∈ d.ended.map Prod.fst

structure CorrelationMarks (d : MidCall) : Prop where
  flying : ∀ op cid, d.scheduler.slot = .dispatched op → op.correlation = some cid →
    .submit op.id cid op.hardwarePeers true ∈ d.wire
  unmarked : ∀ op, d.HasLeft op → op.correlation = none → op.id ∉ d.served

theorem wire_grows (d e : MidCall) (move : Move d e) : d.wire ⊆ e.wire := by
  cases move_traffic d e move with
  | quiet wire => rw [wire]; exact List.Subset.refl _
  | joined wire => rw [wire]; exact List.Subset.refl _
  | stale cid away wire => rw [wire]; exact List.subset_append_left _ _
  | landed cid peers before wire => rw [wire]; exact List.subset_append_left _ _
  | recalled cid peers before wire => rw [wire]; exact List.subset_append_left _ _
  | submitted op accepted poised reachable before wire => rw [wire]; exact List.subset_append_left _ _

theorem flying_kept (d e : MidCall) (move : Move d e)
    (flying : ∀ op cid, d.scheduler.slot = .dispatched op → op.correlation = some cid →
      .submit op.id cid op.hardwarePeers true ∈ d.wire) :
    ∀ op cid, e.scheduler.slot = .dispatched op → op.correlation = some cid →
      .submit op.id cid op.hardwarePeers true ∈ e.wire := by
  have grows := wire_grows d e move
  intro op cid slot same
  cases move with
  | engage other now poised idle unarmed known reachable =>
      cases Slot.dispatched.inj slot
      cases Option.some.inj same
      simp [Scheduler.engaged, Effect.signal?, Operation.handedOver, Operation.hardwarePeers]
  | report | expire | translate | release | revoke | park => cases slot
  | _ => exact grows (flying op cid slot same)

theorem hasLeft_taken (d e : MidCall) (op other : Operation) (parted : e.HasLeft op) (taken : e.leaving = [other])
    (gone : e.ended = d.ended) : op = other ∨ d.HasLeft op := by
  rcases parted with here | ended
  · rw [taken] at here
    exact .inl (List.mem_singleton.1 here)
  · rw [gone] at ended
    exact .inr (.inr ended)

theorem hasLeft_before (d e : MidCall) (move : Move d e) (op : Operation) (parted : e.HasLeft op)
    (unmarked : op.correlation = none) :
    d.HasLeft op ∨ (op.id ∈ d.unserved ∨ op.id = d.scheduler.nextOperation) ∧
      e.scheduler.nextCorrelation = d.scheduler.nextCorrelation := by
  cases move with
  | report cid report other due granted free slot same armed =>
      rcases hasLeft_taken d _ op other parted rfl (by simp) with rfl | old
      · rw [same] at unmarked
        cases unmarked
      · exact .inl old
  | expire cid other due free slot same armed =>
      rcases hasLeft_taken d _ op other parted rfl (by simp) with rfl | old
      · rw [same] at unmarked
        cases unmarked
      · exact .inl old
  | revoke cid other due free slot same armed =>
      rcases hasLeft_taken d _ op other parted rfl (by simp) with rfl | old
      · rw [same] at unmarked
        cases unmarked
      · exact .inl old
  | refuse answers sub kind wellFormed verdict =>
      rcases parted with here | gone
      · exact .inl (.inl here)
      · have known : op ∈ d.ended.map Prod.fst ∨ op = d.scheduler.operationOf answers sub := by
          simpa [Scheduler.interview, Scheduler.retire] using gone
        rcases known with old | new
        · exact .inl (.inr old)
        · exact .inr ⟨.inr (by rw [new]; rfl), rfl⟩
  | pull chosen free =>
      rcases parted with here | gone
      · refine .inr ⟨.inl (List.mem_map_of_mem ?_), rfl⟩
        exact List.mem_append_right _ (List.mem_filter.1 here).1
      · exact .inl (.inr (by simpa using gone))
  | release other free slot =>
      rcases hasLeft_taken d _ op other parted rfl (by simp) with rfl | old
      · exact .inr ⟨.inl (by simp [MidCall.unserved, slot, Slot.unserved]), rfl⟩
      · exact .inl old
  | retire other rest outcome first =>
      rcases parted with here | gone
      · exact .inl (.inl (first ▸ List.mem_cons_of_mem _ here))
      · have known : op ∈ d.ended.map Prod.fst ∨ op = other := by simpa [Scheduler.retire] using gone
        rcases known with old | new
        · exact .inl (.inr old)
        · exact .inl (.inl (by rw [first, new]; exact List.mem_cons_self))
  | bare other free poised slot known alone =>
      rcases hasLeft_taken d _ op other parted rfl rfl with rfl | old
      · exact .inr ⟨.inl (by simp [MidCall.unserved, poised]), rfl⟩
      · exact .inl old
  | reject other free poised slot known reachable =>
      rcases hasLeft_taken d _ op _ parted rfl (by simp [Scheduler.rebuffed]) with rfl | old
      · cases unmarked
      · exact .inl old
  | _ => exact .inl (by simpa [MidCall.HasLeft, Scheduler.discard, Scheduler.still, Scheduler.interview,
      Scheduler.enqueue, Scheduler.proclaim, Scheduler.engaged] using parted)

theorem next_correlation_ne (cid : CorrelationId) : cid.next ≠ cid := by
  intro same
  have counted := congrArg (fun c => c.val.toNat) same
  simp only [CorrelationId.next, UInt32.toNat_add, UInt32.toNat_one] at counted
  omega

theorem correlationMarks_kept (settings : Settings) (d e : MidCall) (conserves : Conserved settings d)
    (ahead : ServedInOrder d) (marked : CorrelationMarks d) (move : Move d e) : CorrelationMarks e := by
  refine ⟨flying_kept d e move marked.flying, ?_⟩
  intro op parted unmarked
  have before := hasLeft_before d e move op parted unmarked
  have unserved : op.id ∉ d.served := by
    rcases before with parted | ⟨waiting | fresh, _⟩
    · exact marked.unmarked op parted unmarked
    · intro served
      exact Nat.lt_irrefl _ ((List.pairwise_append.1 ahead.rising).2.2 _ served _ waiting)
    · intro served
      have below := ahead.below op.id (List.mem_append_left _ served)
      rw [fresh] at below
      exact Nat.lt_irrefl _ below
  cases move_traffic d e move with
  | quiet wire => simpa only [History.served, History.submissions, wire] using unserved
  | joined wire => simpa only [History.served, History.submissions, wire] using unserved
  | stale cid away wire => rw [served_said d e _ wire]; simpa [Signal.submission?] using unserved
  | landed cid peers flying wire => rw [served_said d e _ wire]; simpa [Signal.submission?] using unserved
  | recalled cid peers flying wire => rw [served_said d e _ wire]; simpa [Signal.submission?] using unserved
  | submitted other accepted poised reachable idle wire after others operation correlation =>
      rcases before with parted | ⟨_, same⟩
      · -- it has parted before, and whoever is handed over was poised still
        have here : other ∈ d.standing := by simp [MidCall.standing, poised]
        have apart : op.id ≠ other.id := by
          obtain ⟨_, distinct, away⟩ := List.nodup_append.1 (midCall_names settings d conserves)
          rcases parted with leaving | gone
          · rw [MidCall.present, List.map_append] at distinct
            exact (List.nodup_append.1 distinct).2.2 _ (List.mem_map_of_mem leaving) _ (List.mem_map_of_mem here)
          · obtain ⟨entry, ended, rfl⟩ := List.mem_map.1 gone
            exact away _ (List.mem_map_of_mem ended) _ (List.mem_map_of_mem (List.mem_append_right _ here))
        rw [served_said d e _ wire]
        simpa [Signal.submission?, apart] using unserved
      · exact absurd (correlation.symm.trans same) (next_correlation_ne _)

theorem reached_correlationMarks (settings : Settings) (h : History) (path : History.Reached settings h) :
    CorrelationMarks (.clear h) := by
  have laws : Conserved settings (.clear h) ∧ ServedInOrder (.clear h) ∧ CorrelationMarks (.clear h) := by
    refine reached_law h settings (fun d => Conserved settings d ∧ ServedInOrder d ∧ CorrelationMarks d) ?_ ?_ path
    · intro ready positive
      have fresh := History.Reached.start ready _ ((History.start_eq_ok_iff settings ready _).2 ⟨positive, rfl⟩)
      refine ⟨fresh_conserved settings ready, reached_servedInOrder settings _ fresh, ?_, ?_⟩
      · simp [MidCall.clear, History.fresh, Scheduler.fresh]
      · simp [MidCall.clear, History.fresh, MidCall.HasLeft]
    · intro d e _ laws move
      obtain ⟨conserves, ahead, marked⟩ := laws
      exact ⟨conserved_kept settings d e conserves move, servedInOrder_kept d e ahead move,
        correlationMarks_kept settings d e conserves ahead marked move⟩
  exact laws.2.2

theorem submissions_effects (h : History) :
    h.submissions = h.effects.filterMap fun effect => effect.signal?.bind Signal.submission? := by
  rw [History.submissions, History.wire, History.effects, List.filterMap_filterMap, List.filterMap_filterMap]
  congr 1
  funext entry
  cases entry with
  | did effect => rfl
  | heard call => cases call <;> rfl

theorem mem_submissions (h : History) (id : OperationId) (cid : CorrelationId) :
    (id, cid) ∈ h.submissions ↔ ∃ peers accepted, .submit id cid peers accepted ∈ h.effects := by
  rw [submissions_effects, List.mem_filterMap]
  constructor
  · intro said
    obtain ⟨effect, member, same⟩ := said
    cases effect with
    | submit operation other peers accepted =>
        cases same
        exact ⟨peers, accepted, member⟩
    | _ => cases same
  · intro made
    obtain ⟨peers, accepted, member⟩ := made
    exact ⟨_, member, rfl⟩

theorem reached_flying (settings : Settings) (h : History) (path : History.Reached settings h) (op : Operation)
    (cid : CorrelationId) (slot : h.scheduler.slot = .dispatched op) (same : op.correlation = some cid) :
    .submit op.id cid op.hardwarePeers true ∈ h.effects := by
  obtain ⟨entry, member, said⟩ := List.mem_filterMap.1
    ((reached_correlationMarks settings h path).flying op cid slot same)
  refine (History.effects_log h _).2 ?_
  cases entry with
  | heard call => cases call <;> cases said
  | did effect =>
      cases effect <;> cases said
      exact member

theorem reached_unserved (settings : Settings) (h : History) (path : History.Reached settings h)
    (entry : Operation × Outcome) (ended : entry ∈ h.ended) (unmarked : entry.1.correlation = none) :
    entry.1.id ∉ h.served :=
  (reached_correlationMarks settings h path).unmarked entry.1 (.inr (List.mem_map_of_mem ended)) unmarked

end Ranging

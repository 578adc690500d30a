import Ranging.Proofs.MidCall

-- What holds at every point of every call. The slot and the wakeup agree (`SlotMatches`), the names of
-- the operations stay distinct and in order (`DistinctIds`), and the registry knows exactly who depends
-- on which life (`RegistryMatches`).
namespace Ranging

-- Where operations come from and where they go, move by move. The marks that an operation gets on
-- its way are left aside.
inductive Flow (d e : MidCall) : Prop where
  | kept : (e.present.map Operation.file).Perm (d.present.map Operation.file) →
      (e.standing.map Operation.file).Sublist (d.standing.map Operation.file) →
      e.ended = d.ended → e.admitted = d.admitted → e.buried = d.buried →
      e.scheduler.nextOperation = d.scheduler.nextOperation →
      e.scheduler.registry = d.scheduler.registry → Flow d e
  | left (op : Operation) (outcome : Outcome) : d.present = op :: e.present → e.standing = d.standing →
      e.ended = d.ended ++ [(op, outcome)] → e.admitted = d.admitted → e.buried = d.buried →
      e.scheduler.nextOperation = d.scheduler.nextOperation →
      e.scheduler.registry = (d.scheduler.registry.detach op.token op.id).2 → Flow d e
  | refused (answers : Answers) (sub : Submission) (op : Operation) (kind : FailureKind) :
      op = d.scheduler.operationOf answers sub →
      sub.request.validate d.scheduler.settings.maxPeers = .ok () →
      e.present = d.present → e.standing = d.standing →
      e.ended = d.ended ++ [(op, .failed kind)] →
      e.admitted = d.admitted ++ [(op.id, sub)] → e.buried = d.buried →
      e.scheduler.nextOperation = d.scheduler.nextOperation.next →
      e.scheduler.registry = (d.scheduler.registry.detach op.token op.id).2 → Flow d e
  | joined (answers : Answers) (sub : Submission) (op : Operation) :
      op = d.scheduler.operationOf answers sub →
      sub.request.validate d.scheduler.settings.maxPeers = .ok () →
      e.present = d.present ++ [op] → e.standing = d.standing ++ [op] →
      e.ended = d.ended → e.admitted = d.admitted ++ [(op.id, sub)] →
      d.buried = none → e.buried = none →
      e.scheduler.nextOperation = d.scheduler.nextOperation.next →
      e.scheduler.registry = (d.scheduler.registry.attach op.token op.id).2 → Flow d e
  | buried (token : LivenessToken) (ids : List OperationId) :
      e.present = d.present → e.standing = d.standing → e.ended = d.ended → e.admitted = d.admitted →
      d.buried = none → e.buried = some token →
      e.scheduler.nextOperation = d.scheduler.nextOperation →
      d.scheduler.registry.purge? token = some (ids, e.scheduler.registry) → Flow d e
  | forgotten (token : LivenessToken) :
      e.present = d.present → e.standing = d.standing → e.ended = d.ended → e.admitted = d.admitted →
      d.buried = some token → e.buried = none → (∀ op ∈ d.present, op.token ≠ token) →
      e.scheduler.nextOperation = d.scheduler.nextOperation →
      e.scheduler.registry = d.scheduler.registry → Flow d e

theorem Flow.same (d e : MidCall) (present : e.present.map Operation.file = d.present.map Operation.file)
    (standing : (e.standing.map Operation.file).Sublist (d.standing.map Operation.file))
    (ended : e.ended = d.ended) (admitted : e.admitted = d.admitted) (buried : e.buried = d.buried)
    (next : e.scheduler.nextOperation = d.scheduler.nextOperation)
    (registry : e.scheduler.registry = d.scheduler.registry) : Flow d e :=
  .kept (.of_eq present) standing ended admitted buried next registry

theorem move_flow (d e : MidCall) (move : Move d e) : Flow d e := by
  cases move with
  | hear call plain => exact .same _ _ rfl (.refl _) rfl rfl rfl rfl rfl
  | discard cid report stale =>
      exact .same _ _ rfl (.refl _) (by simp [Scheduler.discard, Scheduler.still]) rfl rfl rfl rfl
  | report cid report op due granted free slot same armed =>
      refine .same _ _ ?_ ?_ (by simp) rfl rfl rfl rfl
      · simp [MidCall.present, MidCall.standing, free, slot, Slot.operation?]
      · simp [MidCall.standing, slot, Slot.operation?]
  | expire cid op due free slot same armed =>
      refine .same _ _ ?_ ?_ (by simp) rfl rfl rfl rfl
      · simp [MidCall.present, MidCall.standing, free, slot, Slot.operation?]
      · simp [MidCall.standing, slot, Slot.operation?]
  | translate answer op unpoised slot =>
      refine .same _ _ ?_ ?_ (by simp) rfl rfl rfl rfl
      · simp [MidCall.present, MidCall.standing, unpoised, slot, Slot.operation?, Operation.file]
      · simp [MidCall.standing, unpoised, slot, Slot.operation?, Operation.file]
  | refuse answers sub kind wellFormed verdict =>
      exact .refused answers sub _ kind rfl wellFormed rfl rfl
        (by simp [Scheduler.interview, Scheduler.retire]) rfl rfl rfl rfl
  | join answers sub wellFormed verdict unburied =>
      refine .joined answers sub _ rfl wellFormed ?_ ?_ ?_ rfl unburied unburied rfl rfl
      · simp [MidCall.present, MidCall.standing, Scheduler.enqueue, Scheduler.interview, Scheduler.counted]
      · simp [MidCall.standing, Scheduler.enqueue, Scheduler.interview, Scheduler.counted]
      · simp [Scheduler.enqueue, Scheduler.interview]
  | hardware ready =>
      exact .same _ _ rfl (.refl _) (by simp [Scheduler.proclaim]) rfl rfl rfl rfl
  | idleness idle =>
      exact .same _ _ rfl (.refl _) (by simp [Scheduler.proclaim]) rfl rfl rfl rfl
  | close openStill => exact .same _ _ rfl (.refl _) (by simp) rfl rfl rfl rfl
  | bury token ids registry unburied purged =>
      exact .buried token ids rfl rfl (by simp) rfl unburied rfl rfl purged
  | forget token buried gone => exact .forgotten token rfl rfl rfl rfl buried rfl gone rfl rfl
  | pull chosen free =>
      refine .kept ?_ ?_ (by simp) rfl rfl rfl rfl
      · -- those that are chosen pass by whoever is ahead of the queue
        refine List.Perm.map _ ?_
        simp only [MidCall.present, MidCall.standing, free, MidCall.work_scheduler, MidCall.work_poised,
          Turn.did_scheduler, List.nil_append]
        rw [← List.append_assoc]
        refine (List.perm_append_comm.append_right _).trans ?_
        rw [List.append_assoc]
        exact (List.filter_append_perm chosen d.scheduler.queue).append_left _
      · exact ((List.Sublist.refl _).append List.filter_sublist).map _
  | release op free slot =>
      refine .same _ _ ?_ ?_ (by simp) rfl rfl rfl rfl
      · simp [MidCall.present, MidCall.standing, free, slot, Slot.operation?]
      · simp [MidCall.standing, slot, Slot.operation?]
  | revoke cid op due free slot same armed =>
      refine .same _ _ ?_ ?_ (by simp) rfl rfl rfl rfl
      · simp [MidCall.present, MidCall.standing, free, slot, Slot.operation?]
      · simp [MidCall.standing, slot, Slot.operation?]
  | retire op rest outcome first =>
      exact .left op outcome
        (by simp [MidCall.present, MidCall.standing, first, Scheduler.retire]) rfl rfl rfl rfl rfl rfl
  | take op rest unpoised slot available queue =>
      refine .same _ _ ?_ ?_ (by simp) rfl rfl rfl rfl
      · simp [MidCall.present, MidCall.standing, unpoised, slot, queue, Slot.operation?]
      · simp [MidCall.standing, unpoised, slot, queue, Slot.operation?]
  | park op poised slot needs =>
      refine .same _ _ ?_ ?_ (by simp) rfl rfl rfl rfl
      · simp [MidCall.present, MidCall.standing, poised, slot, Slot.operation?]
      · simp [MidCall.standing, poised, slot, Slot.operation?]
  | bare op free poised slot known alone =>
      refine .same _ _ ?_ ?_ rfl rfl rfl rfl rfl
      · simp [MidCall.present, MidCall.standing, free, poised, slot, Slot.operation?]
      · simp [MidCall.standing, poised, slot, Slot.operation?]
  | reject op free poised slot known reachable =>
      refine .same _ _ ?_ ?_ (by simp [Scheduler.rebuffed]) rfl rfl rfl rfl
      · simp [MidCall.present, MidCall.standing, free, poised, slot, Slot.operation?, Scheduler.rebuffed,
          Operation.handedOver, Operation.file]
      · simp [MidCall.standing, poised, slot, Slot.operation?, Scheduler.rebuffed]
  | engage op now poised slot unarmed known reachable =>
      refine .same _ _ ?_ ?_ (by simp [Scheduler.engaged]) rfl rfl rfl rfl
      · simp [MidCall.present, MidCall.standing, poised, slot, Slot.operation?, Scheduler.engaged,
          Operation.handedOver, Operation.file]
      · simp [MidCall.standing, poised, slot, Slot.operation?, Scheduler.engaged, Operation.handedOver,
          Operation.file]

theorem same_id {a b : Operation} (same : a.file = b.file) : a.id = b.id :=
  show a.file.id = b.file.id from congrArg Operation.id same

theorem same_token {a b : Operation} (same : a.file = b.file) : a.token = b.token :=
  show a.file.token = b.file.token from congrArg Operation.token same

structure DistinctIds (d : MidCall) : Prop where
  distinct : (d.present.map Operation.id).Nodup
  known : ∀ op ∈ d.present, op.id.val < d.scheduler.nextOperation.val
  ordered : (d.standing.map Operation.id).Pairwise fun a b => a.val < b.val

theorem files_ids (ops : List Operation) : (ops.map Operation.file).map Operation.id = ops.map Operation.id :=
  List.map_map

-- Names are given in rising order, so a new one is below none and equal to none.
theorem distinctIds_kept (d e : MidCall) (named : DistinctIds d) (move : Move d e) : DistinctIds e := by
  obtain ⟨distinct, known, ordered⟩ := named
  cases move_flow d e move with
  | kept present standing ended admitted buried next registry =>
      have ids : (e.present.map Operation.id).Perm (d.present.map Operation.id) := by
        simpa only [files_ids] using present.map Operation.id
      have standingIds : (e.standing.map Operation.id).Sublist (d.standing.map Operation.id) := by
        simpa only [files_ids] using standing.map Operation.id
      refine ⟨ids.nodup_iff.2 distinct, ?_, ordered.sublist standingIds⟩
      intro op member
      have here : op.id ∈ d.present.map Operation.id := ids.mem_iff.1 (List.mem_map_of_mem member)
      obtain ⟨old, present, same⟩ := List.mem_map.1 here
      rw [next, ← same]
      exact known old present
  | left op outcome present standing ended admitted buried next registry =>
      rw [present] at distinct known
      refine ⟨(List.nodup_cons.1 distinct).2, ?_, standing ▸ ordered⟩
      intro other member
      rw [next]
      exact known other (List.mem_cons_of_mem _ member)
  | refused answers sub op kind made wellFormed present standing ended admitted buried next registry =>
      refine ⟨present ▸ distinct, ?_, standing ▸ ordered⟩
      intro other member
      rw [next]
      exact Nat.lt_succ_of_lt (known other (present ▸ member))
  | joined answers sub op made wellFormed present standing ended admitted unburied buried next registry =>
      have fresh : op.id = d.scheduler.nextOperation := by rw [made]; rfl
      have above : ∀ other ∈ d.present, other.id.val < op.id.val := by
        intro other member
        rw [fresh]
        exact known other member
      refine ⟨?_, ?_, ?_⟩
      · rw [present, List.map_append, List.map_singleton, List.nodup_append]
        refine ⟨distinct, by simp, ?_⟩
        intro id member b alone
        obtain ⟨other, here, rfl⟩ := List.mem_map.1 member
        rw [List.mem_singleton.1 alone]
        intro equal
        have := above other here
        rw [equal] at this
        exact Nat.lt_irrefl _ this
      · intro other member
        rw [present] at member
        rw [next]
        rcases List.mem_append.1 member with old | new
        · exact Nat.lt_succ_of_lt (known other old)
        · rw [List.mem_singleton.1 new, fresh]
          exact Nat.lt_succ_self _
      · rw [standing, List.map_append, List.map_singleton, List.pairwise_append]
        refine ⟨ordered, by simp, ?_⟩
        intro id member b alone
        obtain ⟨other, here, rfl⟩ := List.mem_map.1 member
        rw [List.mem_singleton.1 alone]
        exact above other (List.mem_append_right _ here)
  | buried token ids present standing ended admitted unburied buried next purged =>
      exact ⟨present ▸ distinct, fun op member => next ▸ known op (present ▸ member), standing ▸ ordered⟩
  | forgotten token present standing ended admitted buried unburied gone next registry =>
      exact ⟨present ▸ distinct, fun op member => next ▸ known op (present ▸ member), standing ▸ ordered⟩

structure RegistryMatches (d : MidCall) : Prop where
  tidy : d.scheduler.registry.Tidy
  holds_iff : ∀ token id, d.scheduler.registry.Holds token id ↔
    d.buried ≠ some token ∧ ∃ op ∈ d.present, op.token = token ∧ op.id = id

theorem registryMatches_kept (d e : MidCall) (named : DistinctIds d) (tracked : RegistryMatches d) (move : Move d e) :
    RegistryMatches e := by
  obtain ⟨tidy, holds_iff⟩ := tracked
  cases move_flow d e move with
  | kept present standing ended admitted buried next registry =>
      refine ⟨registry ▸ tidy, ?_⟩
      intro token id
      rw [registry, buried, holds_iff]
      have files : ∀ file, file ∈ d.present.map Operation.file ↔ file ∈ e.present.map Operation.file :=
        fun file => present.mem_iff.symm
      refine and_congr_right fun _ => ?_
      constructor
      · intro known
        obtain ⟨op, member, rfl, rfl⟩ := known
        obtain ⟨after, here, same⟩ := List.mem_map.1 ((files op.file).1 (List.mem_map_of_mem member))
        exact ⟨after, here, same_token same, same_id same⟩
      · intro known
        obtain ⟨op, member, rfl, rfl⟩ := known
        obtain ⟨before, here, same⟩ := List.mem_map.1 ((files op.file).2 (List.mem_map_of_mem member))
        exact ⟨before, here, same_token same, same_id same⟩
  | left op outcome present standing ended admitted buried next registry =>
      refine ⟨registry ▸ Registry.tidy_detach _ _ _ tidy, ?_⟩
      intro token id
      have distinct := named.distinct
      rw [present] at distinct
      have alone : ∀ other ∈ e.present, other.id ≠ op.id := by
        intro other member equal
        exact (List.nodup_cons.1 distinct).1 (equal ▸ List.mem_map_of_mem member)
      rw [registry, Registry.holds_detach, holds_iff, buried, present]
      constructor
      · intro known
        obtain ⟨⟨unburied, other, member, rfl, rfl⟩, away⟩ := known
        rcases List.mem_cons.1 member with rfl | rest
        · exact absurd ⟨rfl, rfl⟩ away
        · exact ⟨unburied, other, rest, rfl, rfl⟩
      · intro known
        obtain ⟨unburied, other, member, rfl, rfl⟩ := known
        exact ⟨⟨unburied, other, List.mem_cons_of_mem _ member, rfl, rfl⟩, fun same => alone other member same.2⟩
  | refused answers sub op kind made wellFormed present standing ended admitted buried next registry =>
      refine ⟨registry ▸ Registry.tidy_detach _ _ _ tidy, ?_⟩
      intro token id
      -- its name is new, so nothing is detached
      rw [registry, Registry.holds_detach, holds_iff, buried, present]
      refine and_iff_left_of_imp ?_
      intro known detached
      obtain ⟨_, other, member, rfl, rfl⟩ := known
      obtain ⟨_, same⟩ := detached
      have below := named.known other member
      rw [same, made] at below
      exact Nat.lt_irrefl _ below
  | joined answers sub op made wellFormed present standing ended admitted unburied buried next registry =>
      refine ⟨registry ▸ Registry.tidy_attach _ _ _ tidy, ?_⟩
      intro token id
      rw [registry, Registry.holds_attach, holds_iff, unburied, buried, present]
      constructor
      · intro known
        rcases known with ⟨nobody, other, member, rfl, rfl⟩ | ⟨rfl, rfl⟩
        · exact ⟨nobody, other, List.mem_append_left _ member, rfl, rfl⟩
        · exact ⟨by simp, op, by simp, rfl, rfl⟩
      · intro known
        obtain ⟨nobody, other, member, rfl, rfl⟩ := known
        rcases List.mem_append.1 member with old | new
        · exact .inl ⟨nobody, other, old, rfl, rfl⟩
        · rw [List.mem_singleton.1 new]
          exact .inr ⟨rfl, rfl⟩
  | buried token ids present standing ended admitted unburied buried next purged =>
      refine ⟨Registry.tidy_purge _ _ _ _ tidy purged, ?_⟩
      intro other id
      rw [Registry.holds_purge _ _ _ _ _ _ purged, holds_iff, unburied, buried, present]
      simp only [ne_eq, reduceCtorEq, not_false_eq_true, true_and, Option.some.injEq, eq_comm (a := token)]
      exact and_comm
  | forgotten token present standing ended admitted buried unburied gone next registry =>
      refine ⟨registry ▸ tidy, ?_⟩
      intro other id
      rw [registry, holds_iff, buried, unburied, present]
      constructor
      · intro known
        obtain ⟨_, op, member, rfl, rfl⟩ := known
        exact ⟨by simp, op, member, rfl, rfl⟩
      · intro known
        obtain ⟨_, op, member, rfl, rfl⟩ := known
        exact ⟨fun same => gone op member (Option.some.inj same).symm, op, member, rfl, rfl⟩

structure SlotMatches (d : MidCall) : Prop where
  queued : ∀ op ∈ d.scheduler.queue, op.Untouched
  poised : ∀ op, d.poised = some op → d.scheduler.slot = .idle ∧ op.state = .queued ∧ op.correlation = none
  idle : d.scheduler.slot = .idle → d.scheduler.deadline = .unarmed
  resolving : ∀ op, d.scheduler.slot = .resolving op →
    op.Untouched ∧ op.request.hasHandles = true ∧ d.scheduler.deadline = .unarmed
  dispatched : ∀ op, d.scheduler.slot = .dispatched op → ∃ cid due, op.state = .dispatched ∧
    op.correlation = some cid ∧ op.hardwarePeers ≠ [] ∧ d.scheduler.deadline = .armed cid due

theorem SlotMatches.emptied (d : MidCall) (slotMatches : SlotMatches d) (busy : d.scheduler.slot ≠ .idle) :
    d.poised = none := by
  cases poised : d.poised with
  | none => rfl
  | some op => exact absurd (slotMatches.poised op poised).1 busy

theorem SlotMatches.waited (d : MidCall) (slotMatches : SlotMatches d) (cid : CorrelationId) :
    (∃ op due, d.scheduler.slot = .dispatched op ∧ op.correlation = some cid ∧ d.scheduler.deadline = .armed cid due) ∨
    ∀ op, d.scheduler.slot = .dispatched op → op.correlation ≠ some cid := by
  by_cases here : ∃ op, d.scheduler.slot = .dispatched op ∧ op.correlation = some cid
  · obtain ⟨op, slot, same⟩ := here
    obtain ⟨other, due, _, correlation, _, armed⟩ := slotMatches.dispatched op slot
    cases correlation.symm.trans same
    exact .inl ⟨op, due, slot, same, armed⟩
  · exact .inr fun op slot same => here ⟨op, slot, same⟩

theorem SlotMatches.armed (d : MidCall) (slotMatches : SlotMatches d) (cid : CorrelationId)
    (armed : d.scheduler.deadline.armedFor? = some cid) :
    ∃ op due, d.scheduler.slot = .dispatched op ∧ op.correlation = some cid ∧
      d.scheduler.deadline = .armed cid due := by
  cases slot : d.scheduler.slot with
  | idle =>
      rw [slotMatches.idle slot] at armed
      cases armed
  | resolving op =>
      rw [(slotMatches.resolving op slot).2.2] at armed
      cases armed
  | dispatched op =>
      obtain ⟨other, due, _, correlation, _, waited⟩ := slotMatches.dispatched op slot
      rw [waited] at armed
      cases armed
      exact ⟨op, due, rfl, correlation, waited⟩

theorem slotMatches_kept (d e : MidCall) (slotMatches : SlotMatches d) (move : Move d e) : SlotMatches e := by
  obtain ⟨queued, poised, idle, resolving, dispatched⟩ := id slotMatches
  cases move with
  | hear call plain => exact ⟨queued, poised, idle, resolving, dispatched⟩
  | discard cid report stale => exact ⟨queued, poised, idle, resolving, dispatched⟩
  | report cid report op due granted free slot same armed =>
      have unpoised := slotMatches.emptied d (by simp [slot])
      exact ⟨queued, by simp [unpoised], by simp, by simp, by simp⟩
  | expire cid op due free slot same armed =>
      have unpoised := slotMatches.emptied d (by simp [slot])
      exact ⟨queued, by simp [unpoised], by simp, by simp, by simp⟩
  | translate answer op unpoised slot =>
      obtain ⟨⟨state, correlation, _⟩, _, unarmed⟩ := resolving op slot
      refine ⟨queued, ?_, fun _ => unarmed, by simp, by simp⟩
      intro other ready
      cases Option.some.inj ready
      exact ⟨rfl, state, correlation⟩
  | refuse answers sub kind wellFormed verdict => exact ⟨queued, poised, idle, resolving, dispatched⟩
  | join answers sub wellFormed verdict unburied =>
      refine ⟨?_, poised, idle, resolving, dispatched⟩
      intro op member
      rcases List.mem_append.1 member with old | new
      · exact queued op old
      · rw [List.mem_singleton.1 new]
        exact ⟨rfl, rfl, rfl⟩
  | hardware ready => exact ⟨queued, poised, idle, resolving, dispatched⟩
  | idleness still => exact ⟨queued, poised, idle, resolving, dispatched⟩
  | close openStill => exact ⟨queued, poised, idle, resolving, dispatched⟩
  | bury token ids registry unburied purged => exact ⟨queued, poised, idle, resolving, dispatched⟩
  | forget token buried gone => exact ⟨queued, poised, idle, resolving, dispatched⟩
  | pull chosen free =>
      exact ⟨fun op member => queued op (List.mem_filter.1 member).1, poised, idle, resolving, dispatched⟩
  | release op free slot =>
      have unpoised := slotMatches.emptied d (by simp [slot])
      exact ⟨queued, by simp [unpoised], fun _ => (resolving op slot).2.2, by simp, by simp⟩
  | revoke cid op due free slot same armed =>
      have unpoised := slotMatches.emptied d (by simp [slot])
      exact ⟨queued, by simp [unpoised], by simp, by simp, by simp⟩
  | retire op rest outcome first => exact ⟨queued, poised, idle, resolving, dispatched⟩
  | take op rest unpoised slot available queue =>
      refine ⟨fun other member => queued other (queue ▸ List.mem_cons_of_mem _ member), ?_, idle, resolving, dispatched⟩
      intro other ready
      cases Option.some.inj ready
      obtain ⟨state, correlation, _⟩ := queued op (queue ▸ List.mem_cons_self)
      exact ⟨slot, state, correlation⟩
  | park op ready slot needs =>
      obtain ⟨_, state, correlation⟩ := poised op ready
      obtain ⟨untranslated, handles⟩ := Bool.and_eq_true_iff.1 needs
      refine ⟨queued, by simp, by simp, ?_, by simp⟩
      intro other occupied
      cases Slot.resolving.inj occupied
      exact ⟨⟨state, correlation, Option.isNone_iff_eq_none.1 untranslated⟩, handles, idle slot⟩
  | bare op free ready slot known alone => exact ⟨queued, by simp, idle, resolving, dispatched⟩
  | reject op free ready slot known reachable => exact ⟨queued, by simp, idle, resolving, dispatched⟩
  | engage op now ready slot unarmed known reachable =>
      refine ⟨queued, by simp, by simp [Scheduler.engaged], by simp [Scheduler.engaged], ?_⟩
      intro other occupied
      cases Slot.dispatched.inj occupied
      exact ⟨_, _, rfl, rfl, reachable, rfl⟩

structure Sound (d : MidCall) : Prop where
  slotMatches : SlotMatches d
  named : DistinctIds d
  tracked : RegistryMatches d

theorem sound_kept (d e : MidCall) (sound : Sound d) (move : Move d e) : Sound e :=
  ⟨slotMatches_kept d e sound.slotMatches move, distinctIds_kept d e sound.named move,
    registryMatches_kept d e sound.named sound.tracked move⟩

end Ranging

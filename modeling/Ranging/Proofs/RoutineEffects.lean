import Ranging.Proofs.AdmittedOperations

-- What goes on around operations that are already in: they are handed over, called off and ended,
-- and nothing else. No life is taken up by it, no permission asked, and nothing measured is handed out.
namespace Ranging

def Effect.isRoutine : Effect → Bool
  | .submit _ _ _ _ => true
  | .cancel _ _ => true
  | .clock _ => true
  | .arm _ _ => true
  | .disarm _ => true
  | .unregister _ => true
  | .resolve _ _ _ => true
  | .failure _ _ _ => true
  | _ => false

def Turn.Only (kind : Effect → Bool) (t : Turn) : Prop := ∀ effect ∈ t.effects, kind effect = true

def Operation.Ready (op : Operation) : Prop := op.needsTranslation = true ∨ op.hardwarePeers ≠ []

namespace Turn.Only
variable (kind other : Effect → Bool)

theorem andThen (t : Turn) (next : Scheduler → Turn) (one : t.Only kind) (two : (next t.scheduler).Only kind) :
    (t.andThen next).Only kind := by
  intro effect made
  rw [Turn.andThen_effects] at made
  rcases List.mem_append.1 made with first | second
  · exact one effect first
  · exact two effect second

theorem did (s : Scheduler) (said : List Effect) (all : said.all kind = true) : (Turn.did s said).Only kind :=
  List.all_eq_true.1 all

theorem mono (t : Turn) (only : t.Only kind) (within : ∀ effect, kind effect = true → other effect = true) :
    t.Only other := fun effect made => within effect (only effect made)

end Turn.Only

namespace Scheduler
variable (answers : Answers) (s : Scheduler)

theorem still_routine : s.still.Only Effect.isRoutine := .did _ s [] rfl

theorem retire_routine (op : Operation) (outcome : Outcome) (undelivered : outcome.isDelivered = false) :
    (s.retire op outcome).Only Effect.isRoutine := by
  have said : (reply op outcome).all Effect.isRoutine = true := by
    cases outcome with
    | delivered results => cases undelivered
    | failed kind => rfl
    | withdrawn => rfl
  intro effect made
  rcases s.retire_effects op outcome with alone | after
  · rw [alone] at made
    exact List.all_eq_true.1 said effect made
  · rw [after] at made
    rcases List.mem_cons.1 made with rfl | told
    · rfl
    · exact List.all_eq_true.1 said effect told

theorem retireAll_routine (ops : List Operation) (outcome : Outcome) (undelivered : outcome.isDelivered = false) :
    (retireAll ops outcome s).Only Effect.isRoutine := by
  induction ops generalizing s with
  | nil => exact still_routine s
  | cons op rest ih => exact .andThen _ _ _ (retire_routine s op outcome undelivered) (ih _)

theorem disarm_routine : s.disarm.Only Effect.isRoutine := by
  unfold disarm
  split
  · exact .did _ _ _ rfl
  · exact still_routine s

theorem vacate_routine : s.vacate.Only Effect.isRoutine := by
  unfold vacate
  split
  · exact still_routine s
  · exact still_routine _
  · next op slot =>
      apply Turn.Only.andThen
      · exact disarm_routine _
      · cases op.correlation <;> exact .did _ _ _ rfl

theorem retireActive_routine (outcome : Outcome) (undelivered : outcome.isDelivered = false) :
    (s.retireActive outcome).Only Effect.isRoutine := by
  unfold retireActive
  split
  · exact still_routine s
  · next op occupied => exact .andThen _ _ _ (vacate_routine s) (retire_routine _ op outcome undelivered)

theorem failAll_routine (kind : FailureKind) : (s.failAll kind).Only Effect.isRoutine :=
  .andThen _ _ _ (retireActive_routine s (.failed kind) rfl) (retireAll_routine _ _ (.failed kind) rfl)

theorem occupy_routine (cid : CorrelationId) (op : Operation) : (s.occupy answers cid op).Only Effect.isRoutine := by
  unfold occupy
  dsimp only
  split
  · exact .did _ _ _ rfl
  · exact .did _ _ _ rfl

theorem dispatch_routine (op : Operation) (reachable : op.hardwarePeers ≠ []) :
    (s.dispatch answers op).Only Effect.isRoutine := by
  unfold dispatch
  dsimp only
  rw [if_neg (by simpa using reachable)]
  apply Turn.Only.andThen
  · exact .did _ _ _ rfl
  · split
    · exact occupy_routine answers _ _ _
    · exact retire_routine _ _ (.failed .hardwareRejected) rfl

theorem start_routine (op : Operation) (ready : op.Ready) : (s.start answers op).Only Effect.isRoutine := by
  unfold start
  split
  · exact .did _ _ _ rfl
  · next known =>
      rcases ready with needs | reachable
      · exact absurd needs known
      · exact dispatch_routine answers s op reachable

theorem fillFrom_routine (ops : List Operation) (ready : ∀ op ∈ ops, op.Ready) :
    (fillFrom answers ops s).Only Effect.isRoutine := by
  induction ops generalizing s with
  | nil => exact still_routine s
  | cons op rest ih =>
      unfold fillFrom
      split
      · apply Turn.Only.andThen
        · exact start_routine answers _ op (ready op List.mem_cons_self)
        · exact ih _ fun other later => ready other (List.mem_cons_of_mem _ later)
      · exact still_routine s

theorem fill_routine (ready : ∀ op ∈ s.queue, op.Ready) : (s.fill answers).Only Effect.isRoutine :=
  fillFrom_routine answers s s.queue ready

theorem withdraw_routine (chosen : Operation → Bool) (ready : ∀ op ∈ s.queue, op.Ready) :
    (s.withdraw answers chosen).Only Effect.isRoutine := by
  unfold withdraw
  apply Turn.Only.andThen
  · exact retireAll_routine _ _ .withdrawn rfl
  · split
    · apply Turn.Only.andThen
      · exact retireActive_routine _ .withdrawn rfl
      · apply fill_routine
        intro op waiting
        rw [retireActive_queue, retireAll_queue] at waiting
        exact ready op (List.mem_filter.1 waiting).1
    · exact still_routine _

theorem requesterDied_routine (token : LivenessToken) (ready : ∀ op ∈ s.queue, op.Ready) :
    (s.requesterDied answers token).Only Effect.isRoutine := by
  unfold requesterDied
  split
  · exact still_routine s
  · apply Turn.Only.andThen
    · exact .did _ _ _ rfl
    · exact withdraw_routine answers _ _ ready

theorem shutdown_routine : s.shutdown.Only Effect.isRoutine := by
  unfold shutdown
  split
  · exact still_routine s
  · exact failAll_routine _ .resourceUnavailable

end Scheduler

theorem untouched_ready (op : Operation) (untouched : op.Untouched) (named : op.request.peers ≠ []) : op.Ready := by
  obtain ⟨_, _, untranslated⟩ := untouched
  by_cases handles : op.request.hasHandles = true
  · exact .inl (by simp [Operation.needsTranslation, untranslated, handles])
  · right
    obtain ⟨peer, member⟩ := List.exists_mem_of_ne_nil _ named
    cases peer with
    | address mac =>
        have listed : mac ∈ op.hardwarePeers := List.mem_filterMap.2 ⟨_, member, rfl⟩
        exact List.ne_nil_of_mem listed
    | handle k => exact absurd (List.any_eq_true.2 ⟨_, member, rfl⟩) handles

theorem reached_ready (settings : Settings) (h : History) (path : History.Reached settings h) :
    ∀ op ∈ h.scheduler.queue, op.Ready := by
  intro op waiting
  have untouched := (reached_sound h settings path).slotMatches.queued op waiting
  have formed := present_formed settings (.clear h) (reached_conserved settings h path) op (by
    simp [MidCall.present, MidCall.standing, MidCall.clear, waiting])
  exact untouched_ready op untouched ((Request.validate_ok_iff _ _).1 formed).1

end Ranging

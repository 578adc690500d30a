import Ranging.Proofs.Registrations
import Ranging.Proofs.ResolverQuestions
import Ranging.Proofs.SlotTurnover
import Mathlib.Logic.Function.Iterate

-- Who gets the slot. Those at the front of the queue are offered to the hardware one after the other and turned down,
-- until one is taken on or has to ask for addresses first, or until nobody is left. All behind keep their places.
namespace Ranging

-- The slot may be given away. Nobody in the queue has been attended to yet, and nobody there asks for nothing.
structure Scheduler.Vacant (s : Scheduler) : Prop where
  slot : s.slot = .idle
  available : s.available = true
  unarmed : s.deadline = .unarmed
  untouched : ∀ op ∈ s.queue, op.Untouched
  inhabited : ∀ op ∈ s.queue, op.request.peers ≠ []

-- What is left when some have been turned down: as many names are taken, and as many failures are counted.
def Scheduler.past (number : Nat) (rest : List Operation) (registry : Registry) (s : Scheduler) : Scheduler :=
  { s with
    queue := rest
    registry := registry
    nextCorrelation := CorrelationId.next^[number] s.nextCorrelation
    counters := { s.counters with failedHardware := s.counters.failedHardware + number } }

inductive Scheduler.Seats (answers : Answers) (s : Scheduler) : Turn → Prop
  | nobody : s.queue = [] → s.Seats answers s.still
  | parked (op : Operation) (behind : List Operation) : s.queue = op :: behind → op.request.handles ≠ [] →
      s.Seats answers (.did { s with queue := behind, slot := .resolving op }
        [.resolve op.requester.uid op.request.handles op.id])
  | engaged (op : Operation) (behind : List Operation) : s.queue = op :: behind → op.request.handles = [] →
      answers.accepts op.id s.nextCorrelation op.hardwarePeers = true →
      s.Seats answers ({ s with queue := behind }.engaged op answers.dispatchClock)

structure Scheduler.Advances (answers : Answers) (s : Scheduler) (offered : List (Operation × CorrelationId))
    (rest : List Operation) (t : Turn) : Prop where
  queue : s.queue = offered.map Prod.fst ++ rest
  direct : ∀ o ∈ offered, o.1.request.handles = []
  named : ∀ place o, offered[place]? = some o → o.2 = CorrelationId.next^[place] s.nextCorrelation
  -- a name comes again only after all the others
  apart : ∀ i j one two, offered[i]? = some one → offered[j]? = some two →
    (one.2 = two.2 ↔ i % 4294967296 = j % 4294967296)
  rejected : ∀ o ∈ offered, answers.accepts o.1.id o.2 o.1.hardwarePeers = false
  ended : t.ended = offered.map fun o => (o.1.handedOver o.2, .failed .hardwareRejected)
  forgotten : ∀ token id, t.scheduler.registry.Holds token id ↔
    s.registry.Holds token id ∧ ∀ o ∈ offered, ¬ (token = o.1.token ∧ id = o.1.id)
  -- a life is given up where the last of those that depended on it has been turned down
  watched : ∀ token, t.scheduler.registry.isTracked token = true → s.registry.isTracked token = true
  released : ∀ token, watches token t.effects =
    if s.registry.isTracked token = t.scheduler.registry.isTracked token then [] else [false]
  seated : ∃ last, (s.past offered.length rest t.scheduler.registry).Seats answers last ∧
    t.scheduler = last.scheduler ∧ withoutReleases t.effects = (offered.flatMap fun o =>
      [.submit o.1.id o.2 o.1.hardwarePeers false, .failure o.1.id o.1.replyTo .fail]) ++ last.effects

theorem iterate_next (cid : CorrelationId) (number : Nat) :
    (CorrelationId.next^[number] cid).val.toNat = (cid.val.toNat + number) % 4294967296 := by
  induction number generalizing cid with
  | zero => exact (Nat.mod_eq_of_lt cid.val.toNat_lt).symm
  | succ number ih =>
      rw [Function.iterate_succ_apply, ih]
      simp [CorrelationId.next]
      omega

theorem iterate_next_eq_iff (cid : CorrelationId) (i j : Nat) :
    CorrelationId.next^[i] cid = CorrelationId.next^[j] cid ↔ i % 4294967296 = j % 4294967296 := by
  have same : CorrelationId.next^[i] cid = CorrelationId.next^[j] cid ↔
      (CorrelationId.next^[i] cid).val.toNat = (CorrelationId.next^[j] cid).val.toNat := by
    refine ⟨fun same => same ▸ rfl, fun same => ?_⟩
    exact congrArg CorrelationId.mk (UInt32.toNat.inj same)
  rw [same, iterate_next, iterate_next]
  omega

namespace Scheduler
variable (answers : Answers) (s : Scheduler)

def turnedDown (op : Operation) (s : Scheduler) : Turn :=
  (s.rebuffed op).andThen (retire (op.handedOver s.nextCorrelation) (.failed .hardwareRejected))

theorem turnedDown_withoutReleases (op : Operation) : withoutReleases (s.turnedDown op).effects =
    [.submit op.id s.nextCorrelation op.hardwarePeers false, .failure op.id op.replyTo .fail] := by
  rw [turnedDown, Turn.andThen_effects, withoutReleases_append, retire_withoutReleases]
  rfl

theorem turnedDown_watches (op : Operation) (token : LivenessToken) : watches token (s.turnedDown op).effects =
    s.registry.change (s.turnedDown op).scheduler.registry token := by
  rw [turnedDown, Turn.andThen_effects, watches_append, retire_watches]
  rfl

theorem turnedDown_tracked (op : Operation) (token : LivenessToken)
    (tracked : (s.turnedDown op).scheduler.registry.isTracked token = true) : s.registry.isTracked token = true := by
  have after := (Registry.isTracked_detach s.registry op.token token op.id).2
  exact (Bool.and_eq_true_iff.1 (after.symm.trans tracked)).1

theorem turnedDown_past (op : Operation) (behind rest : List Operation) (registry : Registry) (number : Nat) :
    ({ s with queue := behind }.turnedDown op).scheduler.past number rest registry =
      s.past (number + 1) rest registry := by
  simp [turnedDown, rebuffed, retire, past, Counters.countOutcome, Counters.countFailure, Nat.add_right_comm,
    Nat.add_assoc]

theorem direct_known (op : Operation) (direct : op.request.handles = []) : ¬ op.needsTranslation = true := fun needs =>
  (op.request.hasHandles_iff).1 (Bool.and_eq_true_iff.1 needs).2 direct

theorem direct_reachable (op : Operation) (untouched : op.Untouched) (inhabited : op.request.peers ≠ [])
    (direct : op.request.handles = []) : op.hardwarePeers ≠ [] :=
  (untouched_ready op untouched inhabited).resolve_left (direct_known op direct)

theorem start_direct (op : Operation) (direct : op.request.handles = []) :
    s.start answers op = s.dispatch answers op := by
  rw [start, if_neg (direct_known op direct)]

theorem start_parked (op : Operation) (untouched : op.Untouched) (named : op.request.handles ≠ []) :
    s.start answers op =
      .did { s with slot := .resolving op } [.resolve op.requester.uid op.request.handles op.id] := by
  have needs : op.needsTranslation = true := by
    simp [Operation.needsTranslation, untouched.2.2, (op.request.hasHandles_iff).2 named]
  rw [start, if_pos needs]

theorem Advances.seat (last : Turn) (seats : s.Seats answers last) : s.Advances answers [] s.queue last := by
  have registry : last.scheduler.registry = s.registry := by cases seats <;> rfl
  refine ⟨rfl, nofun, nofun, nofun, nofun, ?_, ?_, ?_, ?_, last, ?_, rfl, ?_⟩
  · cases seats <;> rfl
  · simp [registry]
  · simp [registry]
  · intro token
    rw [registry, if_pos rfl]
    cases seats <;> rfl
  · rw [registry]
    exact seats
  · cases seats <;> rfl

theorem releases_join (before between after : Bool) (first : between = true → before = true)
    (second : after = true → between = true) : ((if before = between then [] else [between]) ++
      if between = after then [] else [false]) = if before = after then [] else [false] := by
  revert before between after
  decide

theorem Advances.cons (op : Operation) (behind : List Operation) (offered : List (Operation × CorrelationId))
    (rest : List Operation) (t : Turn) (queue : s.queue = op :: behind) (direct : op.request.handles = [])
    (rejected : answers.accepts op.id s.nextCorrelation op.hardwarePeers = false)
    (next : ({ s with queue := behind }.turnedDown op).scheduler.Advances answers offered rest t) :
    s.Advances answers ((op, s.nextCorrelation) :: offered) rest
      (({ s with queue := behind }.turnedDown op).andThen fun _ => t) := by
  have named : ∀ place o, ((op, s.nextCorrelation) :: offered)[place]? = some o →
      o.2 = CorrelationId.next^[place] s.nextCorrelation := by
    intro place o listed
    cases place with
    | zero =>
        cases listed
        rfl
    | succ place => exact next.named place o (by simpa using listed)
  have tracked := turnedDown_tracked { s with queue := behind } op
  refine ⟨?_, ?_, named, ?_, ?_, ?_, ?_, ?_, ?_, ?_⟩
  · rw [queue, List.map_cons, List.cons_append, ← next.queue]
    rfl
  · exact List.forall_mem_cons.2 ⟨direct, next.direct⟩
  · intro i j one two first second
    rw [named i one first, named j two second]
    exact iterate_next_eq_iff _ i j
  · exact List.forall_mem_cons.2 ⟨rejected, next.rejected⟩
  · rw [Turn.andThen_ended, next.ended]
    rfl
  · intro token id
    rw [List.forall_mem_cons, ← and_assoc, ← Registry.holds_detach]
    exact next.forgotten token id
  · exact fun token still => tracked token (next.watched token still)
  · intro token
    rw [Turn.andThen_effects, watches_append, turnedDown_watches, next.released token]
    exact releases_join _ _ _ (tracked token) (next.watched token)
  · obtain ⟨last, seats, same, said⟩ := next.seated
    rw [turnedDown_past] at seats
    refine ⟨last, seats, same, ?_⟩
    rw [Turn.andThen_effects, withoutReleases_append, turnedDown_withoutReleases, said, List.flatMap_cons,
      List.append_assoc]

theorem Vacant.tail (op : Operation) (behind : List Operation) (queue : s.queue = op :: behind) (vacant : s.Vacant) :
    ({ s with queue := behind }.turnedDown op).scheduler.Vacant where
  slot := vacant.slot
  available := vacant.available
  unarmed := vacant.unarmed
  untouched := fun other later => vacant.untouched other (queue ▸ List.mem_cons_of_mem _ later)
  inhabited := fun other later => vacant.inhabited other (queue ▸ List.mem_cons_of_mem _ later)

theorem fillFrom_advances (ops : List Operation) (queue : s.queue = ops) (vacant : s.Vacant) :
    ∃ offered rest, s.Advances answers offered rest (fillFrom answers ops s) := by
  induction ops generalizing s with
  | nil => exact ⟨[], _, .seat answers s _ (.nobody queue)⟩
  | cons op behind ih =>
      have untouched := vacant.untouched op (queue ▸ List.mem_cons_self)
      have inhabited := vacant.inhabited op (queue ▸ List.mem_cons_self)
      rw [fillFrom_free answers op behind s vacant.slot vacant.available]
      by_cases direct : op.request.handles = []
      · have reachable := direct_reachable op untouched inhabited direct
        rw [start_direct answers { s with queue := behind } op direct]
        cases accepted : answers.accepts op.id s.nextCorrelation op.hardwarePeers with
        | true =>
            rw [dispatch_engaged answers op { s with queue := behind } vacant.unarmed reachable accepted,
              andThen_fillFrom_busy answers _ behind (by simp [engaged])]
            exact ⟨[], s.queue, .seat answers s _ (.engaged op behind queue direct accepted)⟩
        | false =>
            rw [dispatch_rebuffed answers op { s with queue := behind } reachable accepted]
            obtain ⟨offered, rest, next⟩ := ih _ rfl (vacant.tail s op behind queue)
            exact ⟨_, rest, next.cons answers s op behind offered rest _ queue direct accepted⟩
      · rw [start_parked answers { s with queue := behind } op untouched direct,
          andThen_fillFrom_busy answers _ behind (by simp)]
        exact ⟨[], s.queue, .seat answers s _ (.parked op behind queue direct)⟩

end Scheduler

theorem midCall_vacant (settings : Settings) (d : MidCall) (conserves : Conserved settings d)
    (slotMatches : SlotMatches d)
    (slot : d.scheduler.slot = .idle) (available : d.scheduler.available = true) : d.scheduler.Vacant := by
  refine ⟨slot, available, slotMatches.idle slot, slotMatches.queued, fun op waiting => ?_⟩
  have formed := present_formed settings d conserves op (by simp [MidCall.present, MidCall.standing, waiting])
  exact ((Request.validate_ok_iff _ _).1 formed).1

theorem slot_filled (answers : Answers) (s : Scheduler) (vacant : s.Vacant) :
    ∃ offered rest, s.Advances answers offered rest (s.fill answers) :=
  Scheduler.fillFrom_advances answers s s.queue rfl vacant

-- The first operation has timed out. Of those behind it the next is going to be turned down, the one after it names a
-- handle, and the last has to wait.
def Scheduler.sampleVacated : Scheduler :=
  (((History.fresh .standard true).run (List.map (Prod.mk Answers.sample)
    [.submit (.sample 1 (.sample 1)), .submit (.sample 2 (.sample 2)),
      .submit (.sample 3 (Request.empty.withHandle ⟨7⟩)), .submit (.sample 4 (.sample 4))])).scheduler.retireActive
    (.failed .timeout)).scheduler

theorem sampleVacated_filled : Scheduler.sampleVacated.Vacant ∧ Scheduler.sampleVacated.queue.length = 3 ∧
    ∃ offered rest, Scheduler.sampleVacated.Advances Answers.sample offered rest
      (Scheduler.sampleVacated.fill Answers.sample) := by
  have untouched : ∀ op ∈ Scheduler.sampleVacated.queue,
      op.state = .queued ∧ op.correlation = none ∧ op.translation = none := by decide
  have vacant : Scheduler.sampleVacated.Vacant := ⟨rfl, rfl, rfl, untouched, by decide⟩
  exact ⟨vacant, rfl, slot_filled Answers.sample Scheduler.sampleVacated vacant⟩

end Ranging

import Ranging.Proofs.DeliveredResults
import Ranging.Proofs.LateEvents
import Ranging.Proofs.SlotSettled

-- The protocol with the resolver. An operation that names handles asks for their addresses as it takes the
-- slot, and never again. It waits there undisturbed until the one answer that counts sends it on its way.
namespace Ranging

def Effect.asks? : Effect → Option OperationId
  | .resolve _ _ operation => some operation
  | _ => none

def Effect.asksNothing (effect : Effect) : Bool := effect.asks?.isNone

def Operation.question (op : Operation) : Effect := .resolve op.requester.uid op.request.handles op.id

-- A turn asks nothing, or it asks for one of those who waited, who has the slot then. That is the last thing it does.
inductive Turn.AsksOnce (slot : Slot) (waiting : List Operation) (t : Turn) : Prop where
  | nothing : t.Only Effect.asksNothing → (∀ op, t.scheduler.slot = .resolving op → slot = .resolving op) →
      t.AsksOnce slot waiting
  | question (op : Operation) (said : List Effect) : op ∈ waiting → t.effects = said ++ [op.question] →
      (∀ effect ∈ said, effect.asksNothing = true) → t.scheduler.slot = .resolving op → t.AsksOnce slot waiting

namespace Turn.AsksOnce
variable (slot : Slot) (waiting : List Operation)

theorem silent_andThen (t : Turn) (next : Scheduler → Turn) (silent : t.Only Effect.asksNothing)
    (kept : ∀ op, t.scheduler.slot = .resolving op → slot = .resolving op)
    (poses : (next t.scheduler).AsksOnce t.scheduler.slot waiting) : (t.andThen next).AsksOnce slot waiting := by
  cases poses with
  | nothing quiet same =>
      exact .nothing (.andThen _ t next silent quiet) fun op parked => kept op (same op parked)
  | question op said member effects quiet parked =>
      refine .question op (t.effects ++ said) member ?_ ?_ parked
      · rw [Turn.andThen_effects, effects, List.append_assoc]
      · intro effect made
        rcases List.mem_append.1 made with first | second
        · exact silent effect first
        · exact quiet effect second

theorem mono (t : Turn) (more : List Operation) (within : waiting ⊆ more) (poses : t.AsksOnce slot waiting) :
    t.AsksOnce slot more := by
  cases poses with
  | nothing quiet same => exact .nothing quiet same
  | question op said member effects quiet parked => exact .question op said (within member) effects quiet parked

end Turn.AsksOnce

theorem clerical_asksNothing (t : Turn) (clerical : t.effects.all Effect.isClerical = true) :
    t.Only Effect.asksNothing := by
  refine Turn.Only.mono Effect.isClerical _ t (List.all_eq_true.1 clerical) fun effect usual => ?_
  cases effect <;> first | rfl | cases usual

namespace Scheduler
variable (answers : Answers) (s : Scheduler)

theorem retire_asksNothing (op : Operation) (outcome : Outcome) : (s.retire op outcome).Only Effect.asksNothing :=
  clerical_asksNothing _ (retire_clerical op outcome s)

theorem retireAll_clerical (ops : List Operation) (outcome : Outcome) :
    (retireAll ops outcome s).effects.all Effect.isClerical = true := by
  induction ops generalizing s with
  | nil => rfl
  | cons op rest ih =>
      rw [retireAll, Turn.andThen_effects, List.all_append, retire_clerical, ih]
      rfl

theorem disarm_asksNothing : s.disarm.Only Effect.asksNothing := by
  unfold disarm
  split
  · exact .did _ _ _ rfl
  · exact .did _ s [] rfl

theorem vacate_asksNothing : s.vacate.Only Effect.asksNothing := by
  unfold vacate
  split
  · exact .did _ s [] rfl
  · exact .did _ _ [] rfl
  · next op slot =>
      apply Turn.Only.andThen
      · exact disarm_asksNothing _
      · cases op.correlation <;> exact .did _ _ _ rfl

theorem retireActive_asksNothing (outcome : Outcome) : (s.retireActive outcome).Only Effect.asksNothing := by
  unfold retireActive
  split
  · exact .did _ s [] rfl
  · next op occupied => exact .andThen _ _ _ (vacate_asksNothing s) (retire_asksNothing _ op outcome)

theorem dispatch_asksNothing (op : Operation) : (s.dispatch answers op).Only Effect.asksNothing := by
  unfold dispatch
  dsimp only
  split
  · exact retire_asksNothing s _ _
  · apply Turn.Only.andThen
    · exact .did _ _ _ rfl
    · split
      · unfold occupy
        dsimp only
        split <;> exact .did _ _ _ rfl
      · exact retire_asksNothing _ _ _

theorem dispatch_unparked (op other : Operation) (idle : s.slot = .idle) :
    (s.dispatch answers op).scheduler.slot ≠ .resolving other := by
  unfold dispatch
  dsimp only
  split
  · simp [retire, idle]
  · rw [Turn.andThen_scheduler]
    split
    · unfold occupy
      dsimp only
      split <;> simp
    · simp [retire, idle]

theorem fillFrom_asksOnce (ops : List Operation) : (fillFrom answers ops s).AsksOnce s.slot ops := by
  induction ops generalizing s with
  | nil => exact .nothing (.did _ s [] rfl) fun _ parked => parked
  | cons op rest ih =>
      unfold fillFrom
      split
      · next free =>
          have idle := s.slot.isIdle_iff.1 (Bool.and_eq_true_iff.1 free).1
          by_cases needs : op.needsTranslation = true
          · have started : ({ s with queue := rest }).start answers op =
                .did { s with queue := rest, slot := .resolving op } [op.question] := if_pos needs
            rw [started, andThen_fillFrom_busy answers _ rest (by simp)]
            exact .question op [] List.mem_cons_self rfl (by simp) rfl
          · have started : ({ s with queue := rest }).start answers op =
                ({ s with queue := rest }).dispatch answers op := if_neg needs
            rw [started]
            refine .silent_andThen _ _ _ _ (dispatch_asksNothing answers _ op) ?_
              ((ih _).mono _ _ _ _ (List.subset_cons_self op rest))
            exact fun other parked => absurd parked (dispatch_unparked answers { s with queue := rest } op other idle)
      · exact .nothing (.did _ s [] rfl) fun _ parked => parked

theorem andFill_asksOnce (t : Turn) (slot : Slot) (waiting : List Operation) (silent : t.Only Effect.asksNothing)
    (kept : ∀ op, t.scheduler.slot = .resolving op → slot = .resolving op) (within : t.scheduler.queue ⊆ waiting) :
    (t.andThen (fill answers)).AsksOnce slot waiting :=
  .silent_andThen _ _ _ _ silent kept ((fillFrom_asksOnce answers t.scheduler t.scheduler.queue).mono _ _ _ _ within)

-- Who may still have to ask: those who wait, and whoever the call brings in.
def askers (call : Call) : List Operation :=
  match call with
  | .submit sub => s.queue ++ [s.operationOf answers sub]
  | _ => s.queue

theorem accept_asksOnce (sub : Submission) :
    (s.accept answers sub).AsksOnce s.slot (s.askers answers (.submit sub)) := by
  cases verdict : (s.counted.verdict answers (s.operationOf answers sub)).1 with
  | some kind =>
      rw [accept_refused answers sub s kind verdict]
      exact .nothing (clerical_asksNothing _ (refuse_clerical answers sub kind s)) fun _ parked => parked
  | none =>
      rw [accept_joined answers sub s verdict]
      exact andFill_asksOnce answers _ _ _ (clerical_asksNothing _ (join_clerical answers sub s))
        (fun _ parked => parked) (List.Subset.refl _)

theorem retireFill_asksOnce (op : Operation) (outcome : Outcome) (slot : Slot) (idle : s.slot = .idle) :
    ((s.retire op outcome).andThen (fill answers)).AsksOnce slot s.queue :=
  andFill_asksOnce answers _ _ _ (retire_asksNothing s op outcome)
    (fun other parked => absurd (idle.symm.trans parked) (by simp)) (List.Subset.refl _)

theorem measured_asksOnce (cid : CorrelationId) (report : List Reading) (h : History)
    (slotMatches : SlotMatches (.clear h)) :
    (h.scheduler.measured answers cid report).AsksOnce h.scheduler.slot h.scheduler.queue := by
  rcases slotMatches.waited (.clear h) cid with ⟨op, due, slot, same, armed⟩ | stale
  · rw [measured_completes answers cid report h.scheduler op due slot same armed]
    refine .silent_andThen _ _ _ _ (.did _ _ _ rfl) (by simp) ?_
    exact retireFill_asksOnce answers { h.scheduler with slot := .idle, deadline := .unarmed } op _ _ rfl
  · rw [measured_discards answers cid report h.scheduler stale]
    exact .nothing (.did _ _ [] rfl) fun _ parked => parked

theorem wake_asksOnce (cid : CorrelationId) : (s.wake answers cid).AsksOnce s.slot s.queue := by
  unfold wake
  split
  · exact .nothing (.did _ s [] rfl) fun _ parked => parked
  · dsimp only
    split
    · refine andFill_asksOnce answers _ _ _ (retireActive_asksNothing _ _) ?_ ?_
      · intro op parked
        rw [retireActive_slot] at parked
        cases parked
      · rw [retireActive_queue]
        exact List.Subset.refl _
    · exact .nothing (.did _ _ [] rfl) fun _ parked => parked

theorem resolved_asksOnce (id : OperationId) (answer : AddressBook) :
    (s.resolved answers id answer).AsksOnce s.slot s.queue := by
  unfold resolved
  split
  · dsimp only
    split
    · refine andFill_asksOnce answers _ _ _ (dispatch_asksNothing answers _ _) ?_ ?_
      · exact fun other parked => absurd parked (dispatch_unparked answers { s with slot := .idle } _ other rfl)
      · rw [dispatch_queue]
        exact List.Subset.refl _
    · exact .nothing (.did _ s [] rfl) fun _ parked => parked
  · exact .nothing (.did _ s [] rfl) fun _ parked => parked

theorem withdraw_asksOnce (chosen : Operation → Bool) : (s.withdraw answers chosen).AsksOnce s.slot s.queue := by
  have pulled := clerical_asksNothing _ (retireAll_clerical
    { s with queue := s.queue.filter fun op => !chosen op } (s.queue.filter chosen) .withdrawn)
  unfold withdraw
  refine .silent_andThen _ _ _ _ pulled ?_ ?_
  · intro op parked
    rwa [retireAll_slot] at parked
  · split
    · refine andFill_asksOnce answers _ _ _ (retireActive_asksNothing _ _) ?_ ?_
      · intro op parked
        rw [retireActive_slot] at parked
        cases parked
      · rw [retireActive_queue, retireAll_queue]
        exact fun op here => (List.mem_filter.1 here).1
    · exact .nothing (.did _ _ [] rfl) fun _ parked => parked

theorem requesterDied_asksOnce (token : LivenessToken) : (s.requesterDied answers token).AsksOnce s.slot s.queue := by
  unfold requesterDied
  split
  · exact .nothing (.did _ s [] rfl) fun _ parked => parked
  · exact .silent_andThen _ _ _ _ (.did _ _ _ rfl) (fun _ parked => parked) (withdraw_asksOnce answers _ _)

theorem failAll_asksOnce (kind : FailureKind) (waiting : List Operation) (slot : Slot) :
    (s.failAll kind).AsksOnce slot waiting := by
  refine .nothing ?_ ?_
  · exact .andThen _ _ _ (retireActive_asksNothing s _) (clerical_asksNothing _ (retireAll_clerical _ _ _))
  · intro op parked
    rw [failAll_slot] at parked
    cases parked

theorem reconsider_asksOnce (before : Bool) : (s.reconsider answers before).AsksOnce s.slot s.queue := by
  unfold reconsider
  split
  · exact .nothing (.did _ s [] rfl) fun _ parked => parked
  · refine .silent_andThen _ _ _ _ (.did _ _ _ rfl) (fun _ parked => parked) ?_
    split
    · exact fillFrom_asksOnce answers s s.queue
    · exact failAll_asksOnce s .resourceUnavailable _ _

theorem shutdown_asksOnce : s.shutdown.AsksOnce s.slot s.queue := by
  unfold shutdown
  split
  · exact .nothing (.did _ s [] rfl) fun _ parked => parked
  · exact failAll_asksOnce _ .resourceUnavailable _ _

theorem step_asksOnce (call : Call) (h : History) (slotMatches : SlotMatches (.clear h)) :
    (h.scheduler.step answers call).AsksOnce h.scheduler.slot (h.scheduler.askers answers call) := by
  cases call with
  | submit sub =>
      cases formed : sub.request.validate h.scheduler.settings.maxPeers with
      | error e =>
          simp only [step, submit, formed]
          exact .nothing (.did _ _ [] rfl) fun _ parked => parked
      | ok _ =>
          simp only [step, submit, formed]
          exact accept_asksOnce answers h.scheduler sub
  | cancel a => exact withdraw_asksOnce answers h.scheduler _
  | measured cid report => exact measured_asksOnce answers cid report h slotMatches
  | wake cid => exact wake_asksOnce answers h.scheduler cid
  | resolved id answer => exact resolved_asksOnce answers h.scheduler id answer
  | requesterDied token => exact requesterDied_asksOnce answers h.scheduler token
  | setHardware ready => exact reconsider_asksOnce answers { h.scheduler with hardwareReady := ready } _
  | setIdle idle => exact reconsider_asksOnce answers { h.scheduler with deviceIdle := idle } _
  | shutdown => exact shutdown_asksOnce h.scheduler

end Scheduler

-- Nothing but paperwork goes on around an operation that waits for its addresses, until it ends.
inductive Turn.Spares (op : Operation) (t : Turn) : Prop where
  | ended (outcome : Outcome) : (op, outcome) ∈ t.ended → t.Spares op
  | kept : t.scheduler.slot = .resolving op → t.effects.all Effect.isClerical = true → t.Spares op

namespace Scheduler
variable (answers : Answers) (s : Scheduler) (op : Operation)

theorem withdraw_spares (chosen : Operation → Bool) (slot : s.slot = .resolving op) :
    (s.withdraw answers chosen).Spares op := by
  have parked := (retireAll_slot (s.queue.filter chosen) .withdrawn
    { s with queue := s.queue.filter fun op => !chosen op }).trans slot
  have pulled := retireAll_clerical { s with queue := s.queue.filter fun op => !chosen op } (s.queue.filter chosen)
    .withdrawn
  unfold withdraw
  by_cases struck : op ∈ [op].filter chosen
  · refine .ended .withdrawn (List.mem_append_right _ ?_)
    have chosen := (List.mem_filter.1 struck).2
    simp [parked, Slot.operation?, chosen, retireActive, retire]
  · have spared : chosen op = false := by simpa using struck
    refine .kept ?_ ?_
    · simp [Turn.andThen_scheduler, parked, Slot.operation?, spared, still]
    · rw [Turn.andThen_effects, List.all_append, pulled]
      simp [parked, Slot.operation?, spared, still]

theorem failAll_spares (kind : FailureKind) (slot : s.slot = .resolving op) : (s.failAll kind).Spares op :=
  .ended (.failed kind) (List.mem_append_left _ (by simp [retireActive, slot, Slot.operation?, retire]))

theorem reconsider_spares (before : Bool) (slot : s.slot = .resolving op) :
    (s.reconsider answers before).Spares op := by
  unfold reconsider
  by_cases same : s.available = before
  · rw [if_pos same]
    exact .kept slot rfl
  · rw [if_neg same]
    by_cases available : s.available = true
    · have busy := fillFrom_busy answers s.queue s (by simp [slot])
      refine .kept ?_ ?_
      · simp [Turn.andThen_scheduler, available, fill, busy, slot, still]
      · simp [Turn.andThen_effects, available, fill, busy, still, Effect.isClerical]
    · cases failAll_spares s op .resourceUnavailable slot with
      | ended outcome gone =>
          refine .ended outcome (List.mem_append_right _ ?_)
          simpa [available] using gone
      | kept parked usual =>
          rw [failAll_slot] at parked
          cases parked

theorem accept_spares (sub : Submission) (slot : s.slot = .resolving op) : (s.accept answers sub).Spares op := by
  cases verdict : (s.counted.verdict answers (s.operationOf answers sub)).1 with
  | some kind =>
      rw [accept_refused answers sub s kind verdict]
      exact .kept slot (refuse_clerical answers sub kind s)
  | none =>
      have parked : ((s.interview answers sub).andThen (enqueue (s.operationOf answers sub))).scheduler.slot =
          .resolving op := slot
      rw [accept_joined answers sub s verdict, andThen_fill_busy answers _ (by rw [parked]; simp)]
      exact .kept parked (join_clerical answers sub s)

theorem step_spares (call : Call) (slot : s.slot = .resolving op)
    (unanswered : ∀ book, call ≠ .resolved op.id book) : (s.step answers call).Spares op := by
  cases call with
  | submit sub =>
      cases formed : sub.request.validate s.settings.maxPeers with
      | error e =>
          simp only [step, submit, formed]
          exact .kept slot rfl
      | ok _ =>
          simp only [step, submit, formed]
          exact accept_spares answers s op sub slot
  | cancel a => exact withdraw_spares answers s op _ slot
  | measured cid report =>
      simp only [step, measured, slot]
      exact .kept slot rfl
  | wake cid =>
      simp only [step, wake, slot]
      cases s.deadline.fire? cid with
      | none => exact .kept slot rfl
      | some deadline => exact .kept rfl rfl
  | resolved id book =>
      have stale : op.id ≠ id := fun same => unanswered book (by rw [same])
      simp only [step, resolved, slot, if_neg stale]
      exact .kept slot rfl
  | requesterDied token =>
      simp only [step, requesterDied]
      cases s.registry.purge? token with
      | none => exact .kept slot rfl
      | some known =>
          cases withdraw_spares answers { s with registry := known.2 } op _ slot with
          | ended outcome gone => exact .ended outcome gone
          | kept parked usual => exact .kept parked usual
  | setHardware ready => exact reconsider_spares answers { s with hardwareReady := ready } op _ slot
  | setIdle idle => exact reconsider_spares answers { s with deviceIdle := idle } op _ slot
  | shutdown =>
      simp only [step, shutdown]
      split
      · exact .kept slot rfl
      · exact failAll_spares { s with shutDown := true } op .resourceUnavailable slot

theorem resolved_submits (book : AddressBook) (slot : s.slot = .resolving op)
    (reachable : op.request.hardwarePeers (some (.ofAnswer op.request book)) ≠ []) :
    ∃ accepted rest, (s.resolved answers op.id book).effects =
      .submit op.id s.nextCorrelation (op.request.hardwarePeers (some (.ofAnswer op.request book))) accepted ::
        rest := by
  rw [resolved_dispatches answers book s op slot]
  simp only [Turn.andThen_effects, Turn.did_scheduler, Turn.did_effects, List.nil_append, dispatch,
    Operation.hardwarePeers, List.isEmpty_iff, if_neg reachable, List.cons_append]
  exact ⟨_, _, rfl⟩

theorem resolved_bare (book : AddressBook) (slot : s.slot = .resolving op)
    (alone : op.request.hardwarePeers (some (.ofAnswer op.request book)) = []) :
    s.resolved answers op.id book = (({ s with slot := .idle }).retire
      { op with translation := some (.ofAnswer op.request book) }
      (.delivered (op.request.peers.map .failed))).andThen (fill answers) := by
  rw [resolved_dispatches answers book s op slot]
  simp only [dispatch, Operation.hardwarePeers, alone, correlate_nothing]
  rfl

theorem fill_next (next : Operation) (rest : List Operation) (queue : s.queue = next :: rest)
    (idle : s.slot = .idle) (available : s.available = true) (ready : next.Ready) :
    if next.needsTranslation then next.question ∈ (s.fill answers).effects
    else ∃ accepted, .submit next.id s.nextCorrelation next.hardwarePeers accepted ∈ (s.fill answers).effects := by
  have turn : s.fill answers = (({ s with queue := rest }).start answers next).andThen (fillFrom answers rest) := by
    rw [fill, queue, fillFrom_free answers next rest s idle available]
  rw [turn, Turn.andThen_effects, start]
  by_cases needs : next.needsTranslation = true
  · rw [if_pos needs, if_pos needs]
    exact List.mem_append_left _ List.mem_cons_self
  · rw [if_neg needs, if_neg needs]
    have reachable : next.hardwarePeers ≠ [] := ready.resolve_left needs
    refine ⟨answers.accepts next.id s.nextCorrelation next.hardwarePeers, List.mem_append_left _ ?_⟩
    simp only [dispatch, List.isEmpty_iff, if_neg reachable, Turn.andThen_effects]
    exact List.mem_append_left _ List.mem_cons_self

end Scheduler

theorem answered_peers (op : Operation) (book : AddressBook) :
    op.request.hardwarePeers (some (.ofAnswer op.request book)) =
      op.request.peers.filterMap (Peer.addressIn (some book)) :=
  List.filterMap_congr fun peer named =>
    fits_address { op with translation := some (.ofAnswer op.request book) } (.answered book) rfl peer named

theorem answered_within (op : Operation) (book other : AddressBook)
    (agree : ∀ k, .handle k ∈ op.request.peers → book.get? k = other.get? k) :
    Translation.ofAnswer op.request book = Translation.ofAnswer op.request other :=
  Translation.ofAnswer_congr op.request book other fun k named => agree k ((Request.mem_handles op.request k).1 named)

theorem unasked_iff (id : OperationId) (log : List Entry) :
    lookup id log = .unasked ↔ ∀ effect ∈ log.filterMap Entry.effect?, effect.asks? ≠ some id := by
  have onward : ∀ (log : List Entry) (state : Lookup), log.foldl (Lookup.follow id) state = .unasked ↔
      state = .unasked ∧ ∀ effect ∈ log.filterMap Entry.effect?, effect.asks? ≠ some id := by
    intro log
    induction log with
    | nil => simp
    | cons entry rest ih =>
        intro state
        rw [List.foldl_cons, ih]
        cases entry with
        | heard call =>
            have same : Lookup.follow id state (.heard call) = .unasked ↔ state = .unasked := by
              cases call with
              | resolved other book =>
                  by_cases here : other = id <;> cases state <;> simp [Lookup.follow, here, Lookup.answer]
              | _ => exact Iff.rfl
            simp [same, Entry.effect?]
        | did effect =>
            cases effect with
            | resolve uid handles other =>
                by_cases here : other = id <;> cases state <;>
                  simp [Lookup.follow, here, Lookup.ask, Entry.effect?, Effect.asks?]
            | _ => simp [Lookup.follow, Entry.effect?, Effect.asks?]
  rw [lookup, onward]
  simp

theorem answered_stays (id : OperationId) (book : AddressBook) (later : List Entry) :
    later.foldl (Lookup.follow id) (.answered book) = .answered book := by
  induction later with
  | nil => rfl
  | cons entry rest ih =>
      have same : Lookup.follow id (.answered book) entry = .answered book := by
        cases entry with
        | heard call => cases call <;> simp [Lookup.follow, Lookup.answer]
        | did effect => cases effect <;> simp [Lookup.follow, Lookup.ask]
      rw [List.foldl_cons, same]
      exact ih

namespace History
variable (settings : Settings) (h : History)

def questions (h : History) (id : OperationId) : List Effect :=
  h.effects.filter fun effect => decide (effect.asks? = some id)

def HadSlot (h : History) (id : OperationId) : Prop :=
  ∃ before calls op, Reached settings before ∧ h = before.run calls ∧
    before.scheduler.slot.operation? = some op ∧ op.id = id

theorem questions_unasked (id : OperationId) : h.questions id = [] ↔ lookup id h.log = .unasked := by
  rw [unasked_iff, questions, List.filter_eq_nil_iff]
  simp [effects]

theorem HadSlot.later (calls : List (Answers × Call)) (id : OperationId) (entered : h.HadSlot settings id) :
    (h.run calls).HadSlot settings id := by
  obtain ⟨before, earlier, op, reached, rfl, slot, same⟩ := entered
  exact ⟨before, earlier ++ calls, op, reached, by simp [run], slot, same⟩

theorem asker_fresh (path : Reached settings h) (answers : Answers) (call : Call) (op : Operation)
    (waiting : op ∈ h.scheduler.askers answers call) : lookup op.id h.log = .unasked ∧
      ∀ other, h.scheduler.slot.operation? = some other → other.id ≠ op.id := by
  have looked := reached_lookupMatches settings h path
  have names := reached_distinct settings h path
  have queued : op ∈ h.scheduler.queue → lookup op.id h.log = .unasked ∧
      ∀ other, h.scheduler.slot.operation? = some other → other.id ≠ op.id := by
    intro here
    refine ⟨looked.queued op here, fun other slot same => ?_⟩
    have apart := (List.nodup_append.1 names).2.1
    rw [Scheduler.live, slot, List.map_append] at apart
    refine (List.nodup_append.1 apart).2.2 _ (List.mem_map_of_mem here) _ ?_ rfl
    simp [same]
  cases call with
  | submit sub =>
      rcases List.mem_append.1 waiting with here | new
      · exact queued here
      · rw [List.mem_singleton.1 new]
        refine ⟨looked.fresh _ (Nat.le_refl _), fun other slot same => ?_⟩
        have named := (reached_ids settings h path).mem_iff.1 (List.mem_append_right _
          (List.mem_map_of_mem (f := Operation.id) (Scheduler.slot_live h.scheduler other slot)))
        obtain ⟨entry, admitted, here⟩ := List.mem_map.1 named
        have below := (reached_conserved settings h path).below entry admitted
        rw [here, same] at below
        exact Nat.lt_irrefl _ below
  | _ => exact queued waiting

theorem next_questions (answers : Answers) (call : Call) (id : OperationId) :
    (h.next answers call).questions id = h.questions id ++
      (h.scheduler.step answers call).effects.filter fun effect => decide (effect.asks? = some id) := by
  rw [questions, next_effects, List.filter_append]
  rfl

theorem silent_questions (said : List Effect) (id : OperationId)
    (silent : ∀ effect ∈ said, effect.asksNothing = true) :
    (said.filter fun effect => decide (effect.asks? = some id)) = [] := by
  refine List.filter_eq_nil_iff.2 fun effect made asks => ?_
  have nothing := silent effect made
  rw [Effect.asksNothing, of_decide_eq_true asks] at nothing
  cases nothing

theorem asked_questions (path : Reached settings h) (answers : Answers) (call : Call) (id : OperationId) :
    (h.next answers call).questions id = h.questions id ∨
    ∃ op, op.id = id ∧ (h.next answers call).scheduler.slot = .resolving op ∧
      (h.next answers call).questions id = [op.question] := by
  rw [next_questions]
  cases Scheduler.step_asksOnce answers call h (reached_sound h settings path).slotMatches with
  | nothing nothing _ =>
      left
      rw [silent_questions _ id nothing, List.append_nil]
  | question op said member effects nothing parked =>
      rw [effects, List.filter_append, silent_questions said id nothing, List.nil_append]
      by_cases here : op.id = id
      · obtain ⟨unasked, _⟩ := asker_fresh settings h path answers call op member
        refine .inr ⟨op, here, parked, ?_⟩
        rw [← here, (questions_unasked h op.id).2 unasked]
        simp [Operation.question, Effect.asks?]
      · left
        simp [Operation.question, Effect.asks?, here]

theorem reached_questions (path : Reached settings h) (id : OperationId) : h.questions id = [] ∨
    ∃ sub, (id, sub) ∈ h.admitted ∧ sub.request.handles ≠ [] ∧ h.HadSlot settings id ∧
      h.questions id = [.resolve sub.requester.uid sub.request.handles id] := by
  induction path with
  | start ready h made =>
      obtain ⟨_, rfl⟩ := (start_eq_ok_iff settings ready h).1 made
      exact .inl rfl
  | next answers call h path ih =>
      rcases asked_questions settings h path answers call id with same | ⟨op, rfl, slot, asked⟩
      · rw [same]
        rcases ih with none | ⟨sub, admitted, handles, entered, asked⟩
        · exact .inl none
        · exact .inr ⟨sub, List.mem_append_left _ admitted, handles,
            HadSlot.later settings h [(answers, call)] id entered, asked⟩
      · have reached := Reached.next answers call h path
        have occupied := congrArg Slot.operation? slot
        obtain ⟨sub, admitted, requester, request, _⟩ := live_submission settings _ reached op
          (Scheduler.slot_live _ op occupied)
        have handles := ((reached_sound _ settings reached).slotMatches.resolving op slot).2.1
        refine .inr ⟨sub, admitted, ?_, ⟨_, [], op, reached, rfl, occupied, rfl⟩, ?_⟩
        · rw [request]
          exact (Request.hasHandles_iff op.request).1 handles
        · rw [asked, requester, request]
          rfl

end History

theorem known_kept (d e : MidCall) (known : ∀ op, d.scheduler.slot = .dispatched op → op.needsTranslation = false)
    (move : Move d e) : ∀ op, e.scheduler.slot = .dispatched op → op.needsTranslation = false := by
  intro op slot
  cases move with
  | engage other now poised idle unarmed settled reachable =>
      cases Slot.dispatched.inj slot
      exact settled
  | report | expire | translate | release | revoke | park => cases slot
  | _ => exact known op slot

theorem reached_known (settings : Settings) (h : History) (path : History.Reached settings h) :
    ∀ op, h.scheduler.slot = .dispatched op → op.needsTranslation = false :=
  reached_law h settings (fun d => ∀ op, d.scheduler.slot = .dispatched op → op.needsTranslation = false)
    (by simp [MidCall.clear, History.fresh, Scheduler.fresh]) (fun d e _ known move => known_kept d e known move) path

namespace History
variable (settings : Settings) (h : History)

theorem occupant_asked (path : Reached settings h) (op : Operation)
    (slot : h.scheduler.slot.operation? = some op) (handles : op.request.handles ≠ []) : h.questions op.id ≠ [] := by
  have looked := reached_lookupMatches settings h path
  rw [Ne, questions_unasked]
  intro unasked
  cases occupied : h.scheduler.slot with
  | idle =>
      rw [occupied] at slot
      cases slot
  | resolving other =>
      rw [occupied] at slot
      cases Option.some.inj slot
      have pending := looked.resolving op occupied
      rw [MidCall.clear, unasked] at pending
      cases pending
  | dispatched other =>
      rw [occupied] at slot
      cases Option.some.inj slot
      have fits := looked.ready op (.inr occupied)
      rw [MidCall.clear, unasked] at fits
      have untranslated : op.translation = none := fits
      have known := reached_known settings h path op occupied
      simp [Operation.needsTranslation, untranslated, (Request.hasHandles_iff op.request).2 handles] at known

theorem run_questions (calls : List (Answers × Call)) (id : OperationId) (asked : h.questions id ≠ []) :
    (h.run calls).questions id ≠ [] := by
  obtain ⟨more, whole⟩ := run_log calls h
  rw [questions, effects, whole, List.filterMap_append, List.filter_append]
  exact fun none => asked (List.append_eq_nil_iff.1 none).1

theorem admitted_once (path : Reached settings h) (id : OperationId) (sub other : Submission)
    (one : (id, sub) ∈ h.admitted) (two : (id, other) ∈ h.admitted) : sub = other := by
  have distinct := names_distinct _ (reached_conserved settings h path).ordered
  exact congrArg Prod.snd (List.inj_on_of_nodup_map distinct one two rfl)

theorem hadSlot_questions (path : Reached settings h) (id : OperationId) (sub : Submission)
    (admitted : (id, sub) ∈ h.admitted) (handles : sub.request.handles ≠ []) (entered : h.HadSlot settings id) :
    h.questions id = [.resolve sub.requester.uid sub.request.handles id] := by
  rcases reached_questions settings h path id with none | ⟨other, listed, _, _, asked⟩
  · obtain ⟨before, calls, op, reached, rfl, slot, rfl⟩ := entered
    obtain ⟨known, listed, _, request, _⟩ := live_submission settings before reached op
      (Scheduler.slot_live _ op slot)
    obtain rfl := admitted_once settings _ path _ sub known admitted (run_admitted calls before listed)
    have put := occupant_asked settings before reached op slot (request ▸ handles)
    exact absurd none (run_questions before calls op.id put)
  · rwa [admitted_once settings h path id sub other admitted listed]

-- What becomes of an operation that waits, once it is answered that none of its peers has an address: it is
-- told so and gone. Of the scheduler only its slot, its registry and its counters have been touched when the
-- queue moves up.
structure Dismissed (h : History) (answers : Answers) (op : Operation) (book : AddressBook) : Prop where
  turn : ∃ first : Turn,
    h.scheduler.step answers (.resolved op.id book) = first.andThen (Scheduler.fill answers) ∧
    (first.effects = [.results op.id op.replyTo (op.request.peers.map .failed)] ∨
      first.effects = [.unregister op.token, .results op.id op.replyTo (op.request.peers.map .failed)]) ∧
    first.scheduler = { h.scheduler with
      slot := .idle, registry := first.scheduler.registry, counters := first.scheduler.counters }
  unserved : ∀ calls cid peers accepted,
    .submit op.id cid peers accepted ∉ ((h.next answers (.resolved op.id book)).run calls).effects
  -- whoever is next has its turn in the same call
  relieved : ∀ next rest, h.scheduler.queue = next :: rest →
    if next.needsTranslation then next.question ∈ (h.scheduler.step answers (.resolved op.id book)).effects
    else ∃ accepted, .submit next.id h.scheduler.nextCorrelation next.hardwarePeers accepted ∈
      (h.scheduler.step answers (.resolved op.id book)).effects

structure ResolverAskedOnce (settings : Settings) (h : History) : Prop where
  once : ∀ id sub, (id, sub) ∈ h.admitted → sub.request.handles ≠ [] → h.HadSlot settings id →
    h.questions id = [.resolve sub.requester.uid sub.request.handles id]
  never : ∀ id, (∀ sub, (id, sub) ∈ h.admitted → sub.request.handles ≠ [] → ¬ h.HadSlot settings id) →
    h.questions id = []
  -- the question is put by the call in which the operation takes the slot, and by no other
  entering : ∀ answers call op, (h.next answers call).scheduler.slot = .resolving op →
    (∀ other, h.scheduler.slot.operation? = some other → other.id ≠ op.id) →
    ∃ said, (h.scheduler.step answers call).effects = said ++ [op.question] ∧
      ∀ effect ∈ said, effect.asks? = none
  asking : ∀ answers call uid handles id,
    .resolve uid handles id ∈ (h.scheduler.step answers call).effects →
    ∃ op, op.id = id ∧ (h.next answers call).scheduler.slot = .resolving op ∧
      ∀ other, h.scheduler.slot.operation? = some other → other.id ≠ id
  -- while it waits, nothing is done that concerns the hardware or a resolver
  waiting : ∀ op, h.scheduler.slot = .resolving op → ∀ answers call after, (∀ book, call ≠ .resolved op.id book) →
    (h.next answers call).scheduler.slot.operation? = some after → after.id = op.id →
    (h.next answers call).scheduler.slot = .resolving op ∧
      (h.scheduler.step answers call).effects.all Effect.isClerical = true
  -- an answer that nobody waits for counts for nothing, nor does a second one
  stray : ∀ answers id book, (∀ op, h.scheduler.slot = .resolving op → op.id ≠ id) →
    h.scheduler.step answers (.resolved id book) = h.scheduler.still
  first : ∀ op, h.scheduler.slot = .resolving op → ∀ answers book calls later other,
    ((h.next answers (.resolved op.id book)).run calls).scheduler.step later (.resolved op.id other) =
      ((h.next answers (.resolved op.id book)).run calls).scheduler.still
  reachable : ∀ op, h.scheduler.slot = .resolving op → ∀ answers book,
    op.request.peers.filterMap (Peer.addressIn (some book)) ≠ [] →
    ∃ accepted rest, (h.scheduler.step answers (.resolved op.id book)).effects =
      .submit op.id h.scheduler.nextCorrelation (op.request.peers.filterMap (Peer.addressIn (some book))) accepted ::
        rest
  unreachable : ∀ op, h.scheduler.slot = .resolving op → ∀ answers book,
    op.request.peers.filterMap (Peer.addressIn (some book)) = [] → h.Dismissed answers op book
  -- what the answer says about anybody else is not even looked at
  unnamed : ∀ op, h.scheduler.slot = .resolving op → ∀ answers book other,
    (∀ k, .handle k ∈ op.request.peers → book.get? k = other.get? k) →
    h.scheduler.step answers (.resolved op.id book) = h.scheduler.step answers (.resolved op.id other)

theorem reached_dismissed (path : Reached settings h) (answers : Answers) (op : Operation) (book : AddressBook)
    (slot : h.scheduler.slot = .resolving op)
    (alone : op.request.hardwarePeers (some (.ofAnswer op.request book)) = []) : h.Dismissed answers op book := by
  have rested := reached_slotSettled settings h path
  have turn := Scheduler.resolved_bare answers h.scheduler op book slot alone
  obtain ⟨⟨_, unmarked, _⟩, _, _⟩ := (reached_sound h settings path).slotMatches.resolving op slot
  refine ⟨⟨_, turn, ?_, rfl⟩, ?_, ?_⟩
  · exact Scheduler.retire_effects _ _ _
  · intro calls cid peers accepted submitted
    have reached := run_reached settings calls _ (.next answers (.resolved op.id book) h path)
    have ended : ({ op with translation := some (.ofAnswer op.request book) },
        .delivered (op.request.peers.map .failed)) ∈ ((h.next answers (.resolved op.id book)).run calls).ended := by
      refine run_ended calls _ (List.mem_append_right _ ?_)
      rw [Scheduler.step, turn]
      exact List.mem_append_left _ List.mem_cons_self
    have handed := (mem_submissions _ op.id cid).2 ⟨peers, accepted, submitted⟩
    exact reached_unserved settings _ reached _ ended unmarked (List.mem_map_of_mem (f := Prod.fst) handed)
  · intro next rest queue
    let gone := ({ h.scheduler with slot := .idle }).retire { op with translation := some (.ofAnswer op.request book) }
      (.delivered (op.request.peers.map .failed))
    have moved := Scheduler.fill_next answers gone.scheduler next rest queue rfl
      (rested.available _ (by simp [slot])) (reached_ready settings h path next (queue ▸ List.mem_cons_self))
    rw [Scheduler.step, turn, Turn.andThen_effects]
    by_cases needs : next.needsTranslation = true
    · rw [if_pos needs] at moved ⊢
      exact List.mem_append_right _ moved
    · rw [if_neg needs] at moved ⊢
      obtain ⟨accepted, handed⟩ := moved
      exact ⟨accepted, List.mem_append_right _ handed⟩

theorem reached_resolverAskedOnce (path : Reached settings h) : h.ResolverAskedOnce settings := by
  have slotMatches := (reached_sound h settings path).slotMatches
  have looked := reached_lookupMatches settings h path
  refine ⟨?_, ?_, ?_, ?_, ?_, ?_, ?_, ?_, ?_, ?_⟩
  · exact fun id sub admitted handles entered => hadSlot_questions settings h path id sub admitted handles entered
  · intro id unentered
    rcases reached_questions settings h path id with none | ⟨sub, admitted, handles, entered, _⟩
    · exact none
    · exact absurd entered (unentered sub admitted handles)
  · intro answers call op slot new
    cases Scheduler.step_asksOnce answers call h slotMatches with
    | nothing _ kept => exact absurd rfl (new op (congrArg Slot.operation? (kept op slot)))
    | question other said member effects nothing parked =>
        cases Slot.resolving.inj (slot.symm.trans parked)
        exact ⟨said, effects, fun effect made => Option.isNone_iff_eq_none.1 (nothing effect made)⟩
  · intro answers call uid handles id asked
    cases Scheduler.step_asksOnce answers call h slotMatches with
    | nothing nothing _ => cases nothing _ asked
    | question op said member effects nothing parked =>
        rw [effects] at asked
        rcases List.mem_append.1 asked with before | last
        · cases nothing _ before
        · cases List.mem_singleton.1 last
          exact ⟨op, rfl, parked, (asker_fresh settings h path answers call op member).2⟩
  · intro op slot answers call after unanswered occupied same
    cases Scheduler.step_spares answers h.scheduler op call slot unanswered with
    | ended outcome gone =>
        have reached := Reached.next answers call h path
        exact absurd same (reached_apart settings _ reached (op, outcome) (List.mem_append_right _ gone) after occupied)
    | kept parked usual => exact ⟨parked, usual⟩
  · exact fun answers id book stale => resolved_ignores answers id book h.scheduler stale
  · intro op slot answers book calls later other
    have reached := run_reached settings calls _ (.next answers (.resolved op.id book) h path)
    refine resolved_ignores later op.id other _ fun another parked same => ?_
    have pending := (reached_lookupMatches settings _ reached).resolving another parked
    obtain ⟨more, whole⟩ := run_log calls (h.next answers (.resolved op.id book))
    have before : lookup op.id h.log = .pending := looked.resolving op slot
    have answered : lookup op.id ((h.next answers (.resolved op.id book)).run calls).log = .answered book := by
      rw [whole, next_log, spoken, List.append_assoc, List.cons_append, lookup_append, List.foldl_cons, before]
      simp [Lookup.follow, Lookup.answer, answered_stays]
    rw [MidCall.clear, same, answered] at pending
    cases pending
  · intro op slot answers book reachable
    rw [← answered_peers] at reachable ⊢
    exact Scheduler.resolved_submits answers h.scheduler op book slot reachable
  · intro op slot answers book alone
    rw [← answered_peers] at alone
    exact reached_dismissed settings h path answers op book slot alone
  · intro op slot answers book other agree
    simp only [Scheduler.step, Scheduler.resolved, slot, answered_within op book other agree]

-- A seventh operation has asked about its handle and waits in the slot, and the eighth waits behind it.
def sampleParked : History := History.sample.run (List.map (Prod.mk Answers.sample)
  [.submit (.sample 7 (Request.empty.withHandle ⟨9⟩)), .submit (.sample 8 (.sample 8)),
    .measured ⟨4⟩ [], .measured ⟨5⟩ []])

-- Where the resolver knows nothing of the handle, the seventh is told that nobody was measured, and the eighth is
-- handed over in the same call.
theorem sample_resolverAskedOnce : Reached .standard sampleParked ∧
    sampleParked.questions ⟨7⟩ = [.resolve 1000 [⟨9⟩] ⟨7⟩] ∧
    (sampleParked.scheduler.step .sample (.resolved ⟨7⟩ .empty)).effects =
      [.unregister ⟨7⟩, .results ⟨7⟩ ⟨7⟩ [.failed (.handle ⟨9⟩)],
        .submit ⟨8⟩ ⟨6⟩ ((Request.sample 8).hardwarePeers none) true, .clock 20, .arm 5020 ⟨6⟩] ∧
    sampleParked.ResolverAskedOnce .standard :=
  ⟨run_reached _ _ _ sample_reached, by decide, by decide,
    reached_resolverAskedOnce .standard sampleParked (run_reached _ _ _ sample_reached)⟩

end History
end Ranging

import Ranging.Proofs.AdmittedOperations
import Ranging.Proofs.SlotSettled
import Ranging.Proofs.Audit
import Mathlib.Logic.Basic

-- Every submission is answered as its end calls for, once, and the counters agree with what can be
-- seen from outside.
namespace Ranging

structure CountersMatch (d : MidCall) : Prop where
  replied : d.effects.filter Effect.isReply = d.ended.flatMap fun entry => Scheduler.reply entry.1 entry.2
  submitted : d.scheduler.counters.submitted = d.admitted.length
  dispatched : d.scheduler.counters.dispatched = d.effects.countP Effect.isAccepted
  delivered : d.scheduler.counters.delivered = d.ended.countP fun entry => entry.2.isDelivered
  failed : d.scheduler.counters.totalFailed = d.ended.countP fun entry => entry.2.isFailed
  unavailable : d.scheduler.counters.failedUnavailable =
    d.ended.countP fun entry => entry.2 = .failed .resourceUnavailable
  withdrawn : d.scheduler.counters.withdrawn = d.ended.countP fun entry => entry.2 = .withdrawn

theorem CountersMatch.extended (d e : MidCall) (said : List Effect) (more taken stale : Nat)
    (countersMatch : CountersMatch d)
    (effects : e.effects = d.effects ++ said) (silent : said.filter Effect.isReply = [])
    (accepted : said.countP Effect.isAccepted = taken) (ended : e.ended = d.ended)
    (admitted : e.admitted.length = d.admitted.length + more)
    (counters : e.scheduler.counters = { d.scheduler.counters with
      submitted := d.scheduler.counters.submitted + more
      dispatched := d.scheduler.counters.dispatched + taken
      staleResults := stale }) : CountersMatch e := by
  refine ⟨?_, ?_, ?_, ?_, ?_, ?_, ?_⟩
  · rw [effects, List.filter_append, silent, List.append_nil, ended]
    exact countersMatch.replied
  · rw [counters, admitted, ← countersMatch.submitted]
  · rw [counters, effects, List.countP_append, accepted, ← countersMatch.dispatched]
  · rw [counters, ended]
    exact countersMatch.delivered
  · rw [counters, ended]
    exact countersMatch.failed
  · rw [counters, ended]
    exact countersMatch.unavailable
  · rw [counters, ended]
    exact countersMatch.withdrawn

-- Most moves count nothing but, at most, a late report.
theorem CountersMatch.unchanged (d e : MidCall) (said : List Effect) (stale : Nat) (countersMatch : CountersMatch d)
    (effects : e.effects = d.effects ++ said) (silent : said.filter Effect.isReply = [])
    (untaken : said.countP Effect.isAccepted = 0) (ended : e.ended = d.ended) (admitted : e.admitted = d.admitted)
    (counters : e.scheduler.counters = { d.scheduler.counters with staleResults := stale }) : CountersMatch e :=
  countersMatch.extended d e said 0 0 stale effects silent untaken ended (congrArg List.length admitted) counters

theorem CountersMatch.ended_one (d e : MidCall) (said : List Effect) (op : Operation) (outcome : Outcome) (more : Nat)
    (countersMatch : CountersMatch d) (effects : e.effects = d.effects ++ said)
    (replied : said.filter Effect.isReply = Scheduler.reply op outcome)
    (untaken : said.countP Effect.isAccepted = 0) (ended : e.ended = d.ended ++ [(op, outcome)])
    (admitted : e.admitted.length = d.admitted.length + more) (counters : e.scheduler.counters =
      { d.scheduler.counters with submitted := d.scheduler.counters.submitted + more }.countOutcome outcome) :
    CountersMatch e := by
  refine ⟨?_, ?_, ?_, ?_, ?_, ?_, ?_⟩
  · rw [effects, List.filter_append, countersMatch.replied, replied, ended, List.flatMap_append]
    simp
  · rw [counters, Counters.countOutcome_submitted, admitted, countersMatch.submitted]
  · rw [counters, Counters.countOutcome_dispatched, effects, List.countP_append, untaken]
    exact countersMatch.dispatched
  · rw [counters, Counters.countOutcome_delivered, ended, List.countP_append, ← countersMatch.delivered]
    simp [List.countP_singleton]
  · rw [counters, Counters.countOutcome_totalFailed, ended, List.countP_append, ← countersMatch.failed]
    simp [List.countP_singleton, Counters.totalFailed]
  · rw [counters, Counters.countOutcome_unavailable, ended, List.countP_append, ← countersMatch.unavailable]
    simp [List.countP_singleton]
  · rw [counters, Counters.countOutcome_withdrawn, ended, List.countP_append, ← countersMatch.withdrawn]
    simp [List.countP_singleton]

theorem retire_replies (op : Operation) (outcome : Outcome) (s : Scheduler) :
    (s.retire op outcome).effects.filter Effect.isReply = Scheduler.reply op outcome ∧
    (s.retire op outcome).effects.countP Effect.isAccepted = 0 := by
  rcases s.retire_effects op outcome with said | said
  · rw [said]
    cases outcome <;> exact ⟨rfl, rfl⟩
  · rw [said]
    cases outcome <;> exact ⟨rfl, rfl⟩

theorem asides_silent (said : List Effect) (aside : said.all Effect.isAside = true) :
    said.filter Effect.isReply = [] ∧ said.countP Effect.isAccepted = 0 := by
  have each := List.all_eq_true.1 aside
  constructor
  · refine List.filter_eq_nil_iff.2 ?_
    intro effect member
    simp [(effect.aside_silent (each effect member)).1]
  · refine List.countP_eq_zero.2 ?_
    intro effect member
    simp [(effect.aside_silent (each effect member)).2]

theorem countersMatch_kept (d e : MidCall) (countersMatch : CountersMatch d) (move : Move d e) : CountersMatch e := by
  cases move with
  | hear call plain => exact countersMatch.unchanged d _ [] _ (by simp) rfl rfl rfl rfl rfl
  | discard cid report stale =>
      exact countersMatch.unchanged d _ [] _ (by simp [Scheduler.discard, Scheduler.still]) rfl rfl
        (by simp [Scheduler.discard, Scheduler.still]) rfl rfl
  | report cid report op due granted free slot same armed =>
      exact countersMatch.unchanged d _ [.disarm cid, .permission op.requester granted] _ (by simp) rfl rfl
        (by simp) rfl rfl
  | expire cid op due free slot same armed =>
      exact countersMatch.unchanged d _ [.cancel cid op.hardwarePeers] _ (by simp) rfl rfl (by simp) rfl rfl
  | translate answer op unpoised slot => exact countersMatch.unchanged d _ [] _ (by simp) rfl rfl (by simp) rfl rfl
  | refuse answers sub kind wellFormed verdict =>
      obtain ⟨asked, untaken⟩ := asides_silent _ (d.scheduler.interview_aside answers sub)
      obtain ⟨replied, others⟩ := retire_replies (d.scheduler.operationOf answers sub) (.failed kind)
        (d.scheduler.interview answers sub).scheduler
      refine countersMatch.ended_one d _ _ (d.scheduler.operationOf answers sub) (.failed kind) 1
        (MidCall.heard_effects d _ (.submit sub)) ?_ ?_ ?_ ?_ ?_
      · rw [Turn.andThen_effects, List.filter_append, asked, replied]
        rfl
      · rw [Turn.andThen_effects, List.countP_append, untaken, others]
      · simp [Scheduler.interview, Scheduler.retire]
      · simp
      · rfl
  | join answers sub wellFormed verdict unburied =>
      obtain ⟨asked, untaken⟩ := asides_silent _ (d.scheduler.interview_aside answers sub)
      obtain ⟨watched, others⟩ := asides_silent _ (Scheduler.enqueue_aside (d.scheduler.operationOf answers sub)
        (d.scheduler.interview answers sub).scheduler)
      refine countersMatch.extended d _ _ 1 0 _ (MidCall.heard_effects d _ (.submit sub)) ?_ ?_ ?_ ?_ rfl
      · rw [Turn.andThen_effects, List.filter_append, asked, watched]
        rfl
      · rw [Turn.andThen_effects, List.countP_append, untaken, others]
      · simp [Scheduler.interview, Scheduler.enqueue]
      · simp
  | hardware ready =>
      obtain ⟨silent, untaken⟩ := asides_silent _
        (Scheduler.proclaim_aside d.scheduler.available { d.scheduler with hardwareReady := ready })
      exact countersMatch.unchanged d _ _ _ (MidCall.heard_effects d _ (.setHardware ready)) silent untaken
        (by simp [Scheduler.proclaim]) rfl rfl
  | idleness idle =>
      obtain ⟨silent, untaken⟩ := asides_silent _
        (Scheduler.proclaim_aside d.scheduler.available { d.scheduler with deviceIdle := idle })
      exact countersMatch.unchanged d _ _ _ (MidCall.heard_effects d _ (.setIdle idle)) silent untaken
        (by simp [Scheduler.proclaim]) rfl rfl
  | close openStill => exact countersMatch.unchanged d _ [] _ (by simp) rfl rfl (by simp) rfl rfl
  | bury token ids registry unburied purged =>
      exact countersMatch.unchanged d _ [.unregister token] _ (by simp) rfl rfl (by simp) rfl rfl
  | forget token buried gone => exact countersMatch.unchanged d _ [] _ (by simp) rfl rfl rfl rfl rfl
  | pull chosen free => exact countersMatch.unchanged d _ [] _ (by simp) rfl rfl (by simp) rfl rfl
  | release op free slot => exact countersMatch.unchanged d _ [] _ (by simp) rfl rfl (by simp) rfl rfl
  | revoke cid op due free slot same armed =>
      exact countersMatch.unchanged d _ [.disarm cid, .cancel cid op.hardwarePeers] _ (by simp) rfl rfl
        (by simp) rfl rfl
  | retire op rest outcome first =>
      obtain ⟨replied, untaken⟩ := retire_replies op outcome d.scheduler
      exact countersMatch.ended_one d _ _ op outcome 0 (by simp) replied untaken rfl rfl rfl
  | take op rest unpoised slot available queue =>
      exact countersMatch.unchanged d _ [] _ (by simp) rfl rfl (by simp) rfl rfl
  | park op poised slot needs =>
      exact countersMatch.unchanged d _ [.resolve op.requester.uid op.request.handles op.id] _ (by simp) rfl rfl
        (by simp) rfl rfl
  | bare op free poised slot known alone => exact countersMatch.unchanged d _ [] _ (by simp) rfl rfl rfl rfl rfl
  | reject op free poised slot known reachable =>
      exact countersMatch.unchanged d _ (d.scheduler.rebuffed op).effects _ (by simp) rfl rfl
        (by simp [Scheduler.rebuffed]) rfl rfl
  | engage op now poised slot unarmed known reachable =>
      exact countersMatch.extended d _ (d.scheduler.engaged op now).effects 0 1 _ (by simp) rfl rfl
        (by simp [Scheduler.engaged]) rfl rfl

theorem reached_countersMatch (settings : Settings) (h : History) (path : History.Reached settings h) :
    CountersMatch (.clear h) := by
  refine reached_law h settings CountersMatch ?_
    (fun d e _ countersMatch move => countersMatch_kept d e countersMatch move) path
  intro ready positive
  exact ⟨rfl, rfl, rfl, rfl, rfl, rfl, rfl⟩

theorem closed_kept (d e : MidCall) (closed : .shutdown ∈ d.calls → d.scheduler.shutDown = true) (move : Move d e) :
    .shutdown ∈ e.calls → e.scheduler.shutDown = true := by
  intro heard
  cases move with
  | hear call plain =>
      rcases (by simpa [History.calls, Entry.call?] using heard : .shutdown ∈ d.calls ∨ .shutdown = call) with old | rfl
      · exact closed old
      · exact plain
  | close openStill => rfl
  | _ => exact closed (by simpa [History.calls, Entry.call?, List.filterMap_append, List.filterMap_map] using heard)

theorem reached_closed (settings : Settings) (h : History) (path : History.Reached settings h)
    (asked : .shutdown ∈ h.calls) : h.scheduler.shutDown = true := by
  refine reached_law h settings (fun d => .shutdown ∈ d.calls → d.scheduler.shutDown = true) ?_
    (fun d e _ closed move => closed_kept d e closed move) path asked
  intro ready positive heard
  simp [MidCall.clear, History.fresh, History.calls, Entry.call?] at heard

theorem shut_live (settings : Settings) (h : History) (path : History.Reached settings h)
    (shut : h.scheduler.shutDown = true) : h.scheduler.live = [] := by
  have rested := reached_slotSettled settings h path
  have idle := rested.unavailable (by simp [Scheduler.available, shut])
  simp [Scheduler.live, idle, rested.idle idle, Slot.operation?]

theorem filter_named {α : Type} (name : α → OperationId) (items : List α) (item : α)
    (distinct : (items.map name).Nodup) (member : item ∈ items) :
    items.filter (fun other => name other = name item) = [item] := by
  induction items with
  | nil => cases member
  | cons first rest ih =>
      obtain ⟨fresh, tail⟩ := List.nodup_cons.1 distinct
      rcases List.mem_cons.1 member with rfl | later
      · rw [List.filter_cons_of_pos (by simp), List.filter_eq_nil_iff.2]
        intro other here
        have := List.mem_map_of_mem (f := name) here
        intro same
        exact fresh (of_decide_eq_true same ▸ this)
      · have away : name first ≠ name item := fun same => fresh (same ▸ List.mem_map_of_mem later)
        rw [List.filter_cons_of_neg (by simpa using away)]
        exact ih tail later

theorem reply_addressed (op : Operation) (outcome : Outcome) (id : OperationId) :
    (Scheduler.reply op outcome).filter (fun effect => effect.repliesTo? = some id) =
      if op.id = id then Scheduler.reply op outcome else [] := by
  by_cases same : op.id = id <;> cases outcome <;> simp [Scheduler.reply, Effect.repliesTo?, same]

theorem reached_replies (settings : Settings) (h : History) (path : History.Reached settings h) (id : OperationId) :
    h.repliesTo id =
      (h.ended.filter fun entry => entry.1.id = id).flatMap fun entry => Scheduler.reply entry.1 entry.2 := by
  have replied : h.effects.filter Effect.isReply = h.ended.flatMap fun entry => Scheduler.reply entry.1 entry.2 :=
    (reached_countersMatch settings h path).replied
  have addressed : h.repliesTo id =
      (h.effects.filter Effect.isReply).filter fun effect => effect.repliesTo? = some id := by
    rw [List.filter_filter, History.repliesTo]
    refine List.filter_congr ?_
    intro effect _
    cases addressee : effect.repliesTo? <;> simp [Effect.isReply, addressee]
  rw [addressed, replied]
  induction h.ended with
  | nil => rfl
  | cons entry rest ih =>
      rw [List.flatMap_cons, List.filter_append, ih, reply_addressed]
      by_cases same : entry.1.id = id <;> simp [same]

structure History.Waiting (h : History) (id : OperationId) : Prop where
  once : (h.scheduler.live.map Operation.id).count id = 1
  unended : ∀ entry ∈ h.ended, entry.1.id ≠ id
  untold : h.repliesTo id = []

def Submission.told (sub : Submission) (id : OperationId) : Outcome → List Effect
  | .delivered measurements => [.results id sub.replyTo measurements]
  | .failed kind => [.failure id sub.replyTo kind.code]
  | .withdrawn => []

structure History.Settled (h : History) (id : OperationId) (sub : Submission) (outcome : Outcome) : Prop where
  gone : ∀ op ∈ h.scheduler.live, op.id ≠ id
  once : (h.ended.filter fun entry => entry.1.id = id).map Prod.snd = [outcome]
  told : h.repliesTo id = sub.told id outcome

theorem reached_waiting (settings : Settings) (h : History) (path : History.Reached settings h) (op : Operation)
    (live : op ∈ h.scheduler.live) : h.Waiting op.id := by
  obtain ⟨_, alone, apart⟩ := List.nodup_append.1 (reached_distinct settings h path)
  have unended : ∀ entry ∈ h.ended, entry.1.id ≠ op.id := by
    intro entry member same
    exact apart _ (List.mem_map_of_mem member) _ (List.mem_map_of_mem live) same
  refine ⟨List.count_eq_one_of_mem alone (List.mem_map_of_mem live), unended, ?_⟩
  rw [reached_replies settings h path, List.filter_eq_nil_iff.2 (by simpa using unended)]
  rfl

theorem reached_settled (settings : Settings) (h : History) (path : History.Reached settings h)
    (entry : Operation × Outcome) (ended : entry ∈ h.ended) (a : OperationId × Submission) (admitted : a ∈ h.admitted)
    (same : entry.1.id = a.1) : h.Settled a.1 a.2 entry.2 := by
  have ordered := (reached_conserved settings h path).ordered
  obtain ⟨alone, _, apart⟩ := List.nodup_append.1 (reached_distinct settings h path)
  have found := filter_named (fun entry : Operation × Outcome => entry.1.id) h.ended entry alone ended
  have ticket : entry.1.ticket = (a.1, a.2.billed) := by
    have listed := (reached_tickets settings h path).mem_iff.1
      (List.mem_append_left _ (List.mem_map_of_mem (f := fun entry => entry.1.ticket) ended))
    obtain ⟨b, here, equal⟩ := List.mem_map.1 listed
    have named : b.1 = a.1 := (congrArg Prod.fst equal).trans same
    have one : b = a := List.inj_on_of_nodup_map (names_distinct _ ordered) here admitted named
    rw [← equal, one]
  have replyTo : entry.1.replyTo = a.2.replyTo := congrArg (fun t => t.2.replyTo) ticket
  rw [same] at found
  refine ⟨?_, by rw [found]; rfl, ?_⟩
  · intro op live alive
    exact apart _ (List.mem_map_of_mem ended) _ (List.mem_map_of_mem live) (same.trans alive.symm)
  · have reply : Scheduler.reply entry.1 entry.2 = a.2.told a.1 entry.2 := by
      cases outcome : entry.2 <;> simp [Scheduler.reply, Submission.told, replyTo, same]
    rw [reached_replies settings h path, found, ← reply]
    exact List.append_nil _

theorem replies_countP (d : MidCall) (countersMatch : CountersMatch d) (kind : Effect → Bool) (cause : Outcome → Bool)
    (spoken : ∀ effect, kind effect = true → effect.isReply = true)
    (each : ∀ op outcome, (Scheduler.reply op outcome).countP kind = if cause outcome then 1 else 0) :
    (d.ended.countP fun entry => cause entry.2) = d.effects.countP kind := by
  have among : d.effects.countP kind = (d.effects.filter Effect.isReply).countP kind := by
    rw [List.countP_filter]
    refine List.countP_congr ?_
    intro effect _
    constructor
    · intro here
      simp [here, spoken effect here]
    · intro both
      exact (Bool.and_eq_true_iff.1 both).1
  rw [among, countersMatch.replied]
  induction d.ended with
  | nil => rfl
  | cons entry rest ih => rw [List.flatMap_cons, List.countP_append, each, List.countP_cons, ih, Nat.add_comm]

theorem ended_length (ended : List (Operation × Outcome)) :
    ended.length = (ended.countP fun entry => entry.2.isDelivered) + (ended.countP fun entry => entry.2.isFailed) +
      ended.countP fun entry => entry.2 = .withdrawn := by
  induction ended with
  | nil => rfl
  | cons entry rest ih =>
      cases outcome : entry.2 <;> simp [outcome, Outcome.isDelivered, Outcome.isFailed, ih] <;> omega

structure History.Accounted (h : History) : Prop where
  named : (h.admitted.map Prod.fst).Nodup
  -- it waits, or it has come to the one end that it has for good
  once : ∀ a ∈ h.admitted,
    Xor (h.Waiting a.1) (∃ outcome, ∀ calls, (h.run calls).Settled a.1 a.2 outcome)
  submitted : h.scheduler.counters.submitted = h.admitted.length
  balanced : h.scheduler.counters.submitted = h.scheduler.counters.delivered + h.scheduler.counters.totalFailed +
    h.scheduler.counters.withdrawn + h.scheduler.queue.length + if h.scheduler.slot = .idle then 0 else 1
  delivered : h.scheduler.counters.delivered = h.effects.countP Effect.isResults
  failed : h.scheduler.counters.totalFailed = h.effects.countP Effect.isFailure
  unavailable : h.scheduler.counters.failedUnavailable = h.effects.countP (Effect.isFailureWith 2)
  withdrawn : h.scheduler.counters.withdrawn = h.ended.countP fun entry => entry.2 = .withdrawn
  dispatched : h.scheduler.counters.dispatched = h.effects.countP Effect.isAccepted
  closed : .shutdown ∈ h.calls → h.scheduler.live = []

theorem reached_once (settings : Settings) (h : History) (path : History.Reached settings h)
    (a : OperationId × Submission) (admitted : a ∈ h.admitted) :
    Xor (h.Waiting a.1) (∃ outcome, ∀ calls, (h.run calls).Settled a.1 a.2 outcome) := by
  have known := (reached_ids settings h path).mem_iff.2 (List.mem_map_of_mem admitted)
  rcases List.mem_append.1 known with ended | live
  · obtain ⟨entry, member, same⟩ := List.mem_map.1 ended
    refine .inr ⟨⟨entry.2, ?_⟩, ?_⟩
    · intro calls
      exact reached_settled settings _ (History.run_reached settings calls h path) entry
        (History.run_ended calls h member) a (History.run_admitted calls h admitted) same
    · intro waiting
      exact waiting.unended entry member same
  · obtain ⟨op, member, same⟩ := List.mem_map.1 live
    refine .inl ⟨same ▸ reached_waiting settings h path op member, ?_⟩
    intro settled
    obtain ⟨outcome, always⟩ := settled
    exact (always []).gone op member same

theorem reached_balanced (settings : Settings) (h : History) (path : History.Reached settings h) :
    h.scheduler.counters.submitted = h.scheduler.counters.delivered + h.scheduler.counters.totalFailed +
      h.scheduler.counters.withdrawn + h.scheduler.queue.length + if h.scheduler.slot = .idle then 0 else 1 := by
  obtain ⟨_, submitted, _, delivered, failed, _, withdrawn⟩ := reached_countersMatch settings h path
  have parts : h.ended.length + h.scheduler.live.length = h.admitted.length := by
    simpa using (reached_ids settings h path).length_eq
  have live : h.scheduler.live.length = h.scheduler.queue.length + if h.scheduler.slot = .idle then 0 else 1 := by
    cases slot : h.scheduler.slot <;> simp [Scheduler.live, slot, Slot.operation?]
  have ends := ended_length h.ended
  simp only [MidCall.clear] at submitted delivered failed withdrawn
  omega

theorem reached_accounted (settings : Settings) (h : History) (path : History.Reached settings h) : h.Accounted := by
  have countersMatch := reached_countersMatch settings h path
  refine ⟨names_distinct _ (reached_conserved settings h path).ordered, reached_once settings h path,
    countersMatch.submitted,
    reached_balanced settings h path, ?_, ?_, ?_, countersMatch.withdrawn, countersMatch.dispatched, ?_⟩
  · refine countersMatch.delivered.trans (replies_countP _ countersMatch _ Outcome.isDelivered ?_ ?_)
    · intro effect results
      cases effect <;> simp [Effect.isResults, Effect.isReply, Effect.repliesTo?] at results ⊢
    · intro op outcome
      cases outcome <;> rfl
  · refine countersMatch.failed.trans (replies_countP _ countersMatch _ Outcome.isFailed ?_ ?_)
    · intro effect failure
      cases effect <;> simp [Effect.isFailure, Effect.isReply, Effect.repliesTo?] at failure ⊢
    · intro op outcome
      cases outcome <;> rfl
  · refine countersMatch.unavailable.trans
      (replies_countP _ countersMatch _ (fun outcome => outcome = .failed .resourceUnavailable) ?_ ?_)
    · intro effect failure
      cases effect <;> simp [Effect.isFailureWith, Effect.isReply, Effect.repliesTo?] at failure ⊢
    · intro op outcome
      cases outcome with
      | delivered measurements => rfl
      | failed kind => cases kind <;> rfl
      | withdrawn => rfl
  · intro asked
    exact shut_live settings h path (reached_closed settings h path asked)

-- Three ways to end, and two operations that are still live.
theorem sample_accounted : History.Reached .standard History.sample ∧
    History.sample.ended.map Prod.snd = [.delivered (correlate (.sample 1) none []), .failed .hardwareRejected,
      .withdrawn, .failed .timeout] ∧ History.sample.Accounted :=
  ⟨sample_reached, by decide, reached_accounted .standard History.sample sample_reached⟩

end Ranging

import Ranging.Proofs.CorrelationMarks

-- A completion that comes too late, for an operation that has ended, is counted at most. The count
-- decides nothing, so a run goes on as if nothing had come.
namespace Ranging

def Scheduler.behind (n : Nat) (s : Scheduler) : Scheduler :=
  { s with counters := { s.counters with staleResults := s.counters.staleResults + n } }

def Turn.behind (n : Nat) (t : Turn) : Turn := { t with scheduler := t.scheduler.behind n }

-- Work that goes the same way whatever the count of late reports is.
def IgnoresStale (work : Scheduler → Turn) : Prop := ∀ n s, work (s.behind n) = (work s).behind n

theorem IgnoresStale.still : IgnoresStale Scheduler.still := fun _ _ => rfl

theorem IgnoresStale.andThen (first second : Scheduler → Turn) (one : IgnoresStale first) (two : IgnoresStale second) :
    IgnoresStale fun s => (first s).andThen second := by
  intro n s
  simp only [one n s, Turn.andThen, Turn.behind, two n]

theorem IgnoresStale.branch (test : Scheduler → Prop) [DecidablePred test] (first second : Scheduler → Turn)
    (same : ∀ n s, test (s.behind n) = test s) (one : IgnoresStale first) (two : IgnoresStale second) :
    IgnoresStale fun s => if test s then first s else second s := by
  intro n s
  by_cases here : test s
  · simp only [if_pos here, if_pos ((same n s).symm ▸ here), one n s]
  · simp only [if_neg here, if_neg ((same n s).symm ▸ here), two n s]

namespace Scheduler

section
variable (n : Nat) (s : Scheduler)

@[simp] theorem behind_settings : (s.behind n).settings = s.settings := rfl
@[simp] theorem behind_slot : (s.behind n).slot = s.slot := rfl
@[simp] theorem behind_registry : (s.behind n).registry = s.registry := rfl
@[simp] theorem behind_deadline : (s.behind n).deadline = s.deadline := rfl
@[simp] theorem behind_nextCorrelation : (s.behind n).nextCorrelation = s.nextCorrelation := rfl

end

theorem retire_ignoresStale (op : Operation) (outcome : Outcome) : IgnoresStale (retire op outcome) := by
  intro n s
  cases outcome with
  | delivered results => rfl
  | failed kind => cases kind <;> rfl
  | withdrawn => rfl

theorem retireAll_ignoresStale (ops : List Operation) (outcome : Outcome) : IgnoresStale (retireAll ops outcome) := by
  induction ops with
  | nil => exact IgnoresStale.still
  | cons op rest ih => exact IgnoresStale.andThen _ _ (retire_ignoresStale op outcome) ih

theorem disarm_ignoresStale : IgnoresStale disarm := by
  intro n s
  simp only [disarm, behind_deadline]
  cases s.deadline.armedFor? <;> rfl

theorem vacate_ignoresStale : IgnoresStale vacate := by
  intro n s
  simp only [vacate, behind_slot]
  cases s.slot with
  | idle => rfl
  | resolving op => rfl
  | dispatched op =>
      exact IgnoresStale.andThen disarm
        (fun s => .did s (op.correlation.toList.map fun cid => .cancel cid op.hardwarePeers))
        disarm_ignoresStale (fun _ _ => rfl) n { s with slot := .idle }

theorem retireActive_ignoresStale (outcome : Outcome) : IgnoresStale (retireActive outcome) := by
  intro n s
  simp only [retireActive, behind_slot]
  cases s.slot.operation? with
  | none => rfl
  | some op => exact IgnoresStale.andThen _ _ vacate_ignoresStale (retire_ignoresStale op outcome) n s

theorem failAll_ignoresStale (kind : FailureKind) : IgnoresStale (failAll kind) := by
  refine IgnoresStale.andThen _ _ (retireActive_ignoresStale (.failed kind)) ?_
  intro n s
  exact retireAll_ignoresStale s.queue (.failed kind) n { s with queue := [] }

variable (answers : Answers)

theorem occupy_ignoresStale (cid : CorrelationId) (op : Operation) : IgnoresStale (occupy answers cid op) := by
  intro n s
  simp only [occupy, behind_deadline, behind_settings]
  cases s.deadline <;> rfl

theorem dispatch_ignoresStale (op : Operation) : IgnoresStale (dispatch answers op) := by
  intro n s
  let cid := s.nextCorrelation
  let accepted := answers.accepts op.id cid op.hardwarePeers
  have decided : IgnoresStale fun s : Scheduler =>
      if accepted then s.occupy answers cid (op.handedOver cid)
      else s.retire (op.handedOver cid) (.failed .hardwareRejected) := by
    intro n s
    cases accepted with
    | true => exact occupy_ignoresStale answers cid (op.handedOver cid) n s
    | false => exact retire_ignoresStale (op.handedOver cid) (.failed .hardwareRejected) n s
  simp only [dispatch, behind_nextCorrelation]
  split
  · exact retire_ignoresStale op _ n s
  · exact IgnoresStale.andThen (fun s => .did s [.submit op.id cid op.hardwarePeers accepted]) _
      (fun _ _ => rfl) decided n
      { s with nextCorrelation := cid.next }

theorem start_ignoresStale (op : Operation) : IgnoresStale (start answers op) := by
  intro n s
  simp only [start]
  split
  · rfl
  · exact dispatch_ignoresStale answers op n s

theorem fillFrom_ignoresStale (ops : List Operation) : IgnoresStale (fillFrom answers ops) := by
  induction ops with
  | nil => exact IgnoresStale.still
  | cons op rest ih =>
      have moved := IgnoresStale.andThen _ _ (start_ignoresStale answers op) ih
      exact IgnoresStale.branch (fun s => (s.slot.isIdle && s.available) = true) _ _ (fun _ _ => rfl)
        (fun n s => moved n { s with queue := rest }) IgnoresStale.still

theorem fill_ignoresStale : IgnoresStale (fill answers) := fun n s => fillFrom_ignoresStale answers s.queue n s

theorem complete_ignoresStale (op : Operation) (report : List Reading) : IgnoresStale (complete answers op report) := by
  intro n s
  let granted := answers.permits op.requester
  let outcome : Outcome :=
    if granted then .delivered (correlate op.request op.translation report) else .failed .permissionDenied
  have ended := IgnoresStale.andThen _ _ (retire_ignoresStale op outcome) (fill_ignoresStale answers)
  have asked := IgnoresStale.andThen (fun s => .did s [.permission op.requester granted]) _ (fun _ _ => rfl) ended
  exact IgnoresStale.andThen disarm _ disarm_ignoresStale asked n { s with slot := .idle }

theorem discard_ignoresStale : IgnoresStale discard := by
  intro n s
  simp only [discard, still, behind, Turn.behind, Turn.did, Nat.add_right_comm]

theorem measured_ignoresStale (cid : CorrelationId) (report : List Reading) :
    IgnoresStale (measured answers cid report) := by
  intro n s
  simp only [measured, behind_slot]
  cases s.slot with
  | idle => exact discard_ignoresStale n s
  | resolving op => exact discard_ignoresStale n s
  | dispatched op =>
      dsimp only
      split
      · exact complete_ignoresStale answers op report n s
      · exact discard_ignoresStale n s

theorem wake_ignoresStale (cid : CorrelationId) : IgnoresStale (wake answers cid) := by
  intro n s
  simp only [wake, behind_deadline, behind_slot]
  cases s.deadline.fire? cid with
  | none => rfl
  | some deadline =>
      cases s.slot with
      | idle => rfl
      | resolving op => rfl
      | dispatched op =>
          exact IgnoresStale.andThen _ _ (retireActive_ignoresStale (.failed .timeout)) (fill_ignoresStale answers) n
            { s with deadline := deadline, slot := .dispatched op }

theorem resolved_ignoresStale (id : OperationId) (answer : AddressBook) :
    IgnoresStale (resolved answers id answer) := by
  intro n s
  simp only [resolved, behind_slot]
  cases s.slot with
  | idle => rfl
  | dispatched op => rfl
  | resolving op =>
      dsimp only
      split
      · exact IgnoresStale.andThen _ _ (dispatch_ignoresStale answers _) (fill_ignoresStale answers) n
          { s with slot := .idle }
      · rfl

theorem withdraw_ignoresStale (chosen : Operation → Bool) : IgnoresStale (withdraw answers chosen) := by
  intro n s
  have emptied := IgnoresStale.andThen _ _ (retireActive_ignoresStale .withdrawn) (fill_ignoresStale answers)
  have struck := IgnoresStale.branch (fun s => s.slot.operation?.any chosen = true) _ _
    (fun _ _ => rfl) emptied IgnoresStale.still
  exact IgnoresStale.andThen _ _ (retireAll_ignoresStale (s.queue.filter chosen) .withdrawn) struck n
    { s with queue := s.queue.filter fun op => !chosen op }

theorem requesterDied_ignoresStale (token : LivenessToken) : IgnoresStale (requesterDied answers token) := by
  intro n s
  simp only [requesterDied, behind_registry]
  cases s.registry.purge? token with
  | none => rfl
  | some known =>
      obtain ⟨ids, registry⟩ := known
      exact IgnoresStale.andThen (fun s => .did s [.unregister token]) _ (fun _ _ => rfl)
        (withdraw_ignoresStale answers _) n
        { s with registry := registry }

theorem reconsider_ignoresStale (before : Bool) : IgnoresStale (reconsider answers before) := by
  have followed := IgnoresStale.branch (fun s => s.available = true) _ _ (fun _ _ => rfl) (fill_ignoresStale answers)
    (failAll_ignoresStale .resourceUnavailable)
  have told := IgnoresStale.andThen (fun s => .did s [.announce (.ofBool s.available)]) _ (fun _ _ => rfl) followed
  exact IgnoresStale.branch (fun s => s.available = before) _ _ (fun _ _ => rfl) IgnoresStale.still told

theorem setHardware_ignoresStale (ready : Bool) : IgnoresStale (setHardware answers ready) :=
  fun n s => reconsider_ignoresStale answers s.available n { s with hardwareReady := ready }

theorem setIdle_ignoresStale (idle : Bool) : IgnoresStale (setIdle answers idle) :=
  fun n s => reconsider_ignoresStale answers s.available n { s with deviceIdle := idle }

theorem shutdown_ignoresStale : IgnoresStale shutdown :=
  IgnoresStale.branch (fun s => s.shutDown = true) _ _ (fun _ _ => rfl) IgnoresStale.still fun n s =>
    failAll_ignoresStale .resourceUnavailable n { s with shutDown := true }

-- The checks look at the queue, the slot and the ledger.
theorem accept_ignoresStale (sub : Submission) : IgnoresStale (accept answers sub) := by
  intro n s
  let op := s.operationOf answers sub
  have asked : IgnoresStale (interview answers sub) := fun _ _ => rfl
  cases verdict : (s.counted.verdict answers op).1 with
  | some kind =>
      rw [accept_refused answers sub s kind verdict, accept_refused answers sub (s.behind n) kind verdict]
      exact asked.andThen _ _ (retire_ignoresStale op (.failed kind)) n s
  | none =>
      have joined : IgnoresStale (enqueue op) := fun _ _ => rfl
      rw [accept_joined answers sub s verdict, accept_joined answers sub (s.behind n) verdict]
      exact (asked.andThen _ _ joined).andThen _ _ (fill_ignoresStale answers) n s

theorem step_ignoresStale (call : Call) : IgnoresStale (step answers call) := by
  cases call with
  | submit sub =>
      intro n s
      simp only [step, submit, behind_settings]
      cases sub.request.validate s.settings.maxPeers with
      | error e => rfl
      | ok _ => exact accept_ignoresStale answers sub n s
  | cancel a => exact withdraw_ignoresStale answers _
  | measured cid report => exact measured_ignoresStale answers cid report
  | wake cid => exact wake_ignoresStale answers cid
  | resolved id answer => exact resolved_ignoresStale answers id answer
  | requesterDied token => exact requesterDied_ignoresStale answers token
  | setHardware ready => exact setHardware_ignoresStale answers ready
  | setIdle idle => exact setIdle_ignoresStale answers idle
  | shutdown => exact shutdown_ignoresStale

end Scheduler

structure History.SameButStale (n : Nat) (h g : History) : Prop where
  scheduler : g.scheduler = h.scheduler.behind n
  effects : g.effects = h.effects
  admitted : g.admitted = h.admitted
  ended : g.ended = h.ended

theorem admits_behind (answers : Answers) (call : Call) (n : Nat) (s : Scheduler) :
    (s.behind n).admits answers call = s.admits answers call := by
  cases call with
  | submit sub =>
      simp only [Scheduler.admits, Scheduler.submit, Scheduler.behind_settings]
      cases sub.request.validate s.settings.maxPeers <;> rfl
  | _ => rfl

namespace History.SameButStale
variable (n m : Nat) (h g k : History)

theorem trans (first : h.SameButStale n g) (second : g.SameButStale m k) : h.SameButStale (n + m) k := by
  refine ⟨?_, second.effects.trans first.effects, second.admitted.trans first.admitted, second.ended.trans first.ended⟩
  rw [second.scheduler, first.scheduler]
  simp only [Scheduler.behind, Nat.add_assoc]

theorem next_same (answers : Answers) (call : Call) (echoes : h.SameButStale n g) :
    (h.next answers call).SameButStale n (g.next answers call) := by
  have blind := Scheduler.step_ignoresStale answers call n h.scheduler
  refine ⟨?_, ?_, ?_, ?_⟩
  · show (g.scheduler.step answers call).scheduler = _
    rw [echoes.scheduler, blind]
    rfl
  · rw [next_effects, next_effects, echoes.effects, echoes.scheduler, blind]
    rfl
  · show g.admitted ++ g.scheduler.admits answers call = _
    rw [echoes.admitted, echoes.scheduler, admits_behind]
    rfl
  · rw [next_ended, next_ended, echoes.ended, echoes.scheduler, blind]
    rfl

theorem run_same (calls : List (Answers × Call)) (echoes : h.SameButStale n g) :
    (h.run calls).SameButStale n (g.run calls) := by
  induction calls generalizing h g with
  | nil => exact echoes
  | cons asked rest ih => exact ih _ _ (next_same n h g asked.1 asked.2 echoes)

end History.SameButStale

def Call.isReport : Call → Bool
  | .measured _ _ => true
  | _ => false

-- A completion for an operation that has ended: under its own name, or under a name with which it
-- was handed over, whether the hardware took it or not.
inductive History.Late (h : History) : Call → Prop where
  | measured (entry : Operation × Outcome) (cid : CorrelationId) (report : List Reading) :
      entry ∈ h.ended → (entry.1.id, cid) ∈ h.submissions → h.Late (.measured cid report)
  | wake (entry : Operation × Outcome) (cid : CorrelationId) :
      entry ∈ h.ended → (entry.1.id, cid) ∈ h.submissions → h.Late (.wake cid)
  | resolved (entry : Operation × Outcome) (answer : AddressBook) :
      entry ∈ h.ended → h.Late (.resolved entry.1.id answer)

-- The first calls with the second ones put in between, each of which is late where it stands.
inductive History.Interleaved :
    History → List (Answers × Call) → List (Answers × Call) → List (Answers × Call) → Prop where
  | nil (h : History) : h.Interleaved [] [] []
  | call (h : History) (asked : Answers × Call) (calls late all : List (Answers × Call)) :
      (h.next asked.1 asked.2).Interleaved calls late all → h.Interleaved (asked :: calls) late (asked :: all)
  | late (h : History) (asked : Answers × Call) (calls late all : List (Answers × Call)) :
      h.Late asked.2 → (h.next asked.1 asked.2).Interleaved calls late all →
        h.Interleaved calls (asked :: late) (asked :: all)

variable (settings : Settings) (h : History)

theorem reached_apart (path : History.Reached settings h) (entry : Operation × Outcome) (ended : entry ∈ h.ended)
    (op : Operation) (slot : h.scheduler.slot.operation? = some op) : op.id ≠ entry.1.id :=
  reached_gone settings h path entry ended op (Scheduler.slot_live h.scheduler op slot)

-- While names are not used twice, what the hardware works on has no name of an operation that ended.
theorem reached_stale (path : History.Reached settings h) (few : h.submissions.length ≤ 4294967296)
    (entry : Operation × Outcome) (cid : CorrelationId) (ended : entry ∈ h.ended)
    (handed : (entry.1.id, cid) ∈ h.submissions) (op : Operation) (slot : h.scheduler.slot = .dispatched op) :
    op.correlation ≠ some cid := by
  intro same
  have flying := reached_flying settings h path op cid slot same
  have listed := (mem_submissions h op.id cid).2 ⟨_, _, flying⟩
  have one := List.inj_on_of_nodup_map (reached_fresh settings h path few) listed handed rfl
  exact reached_apart settings h path entry ended op (congrArg Slot.operation? slot) (congrArg Prod.fst one)

theorem quiet_sameButStale (n : Nat) (answers : Answers) (call : Call)
    (turn : h.scheduler.step answers call = .did (h.scheduler.behind n) [])
    (unknown : h.scheduler.admits answers call = []) : h.SameButStale n (h.next answers call) := by
  refine ⟨?_, ?_, ?_, ?_⟩
  · show (h.scheduler.step answers call).scheduler = _
    rw [turn]
    rfl
  · rw [History.next_effects, turn]
    exact List.append_nil _
  · show h.admitted ++ h.scheduler.admits answers call = _
    rw [unknown, List.append_nil]
  · rw [History.next_ended, turn]
    exact List.append_nil _

theorem late_sameButStale (answers : Answers) (call : Call) (path : History.Reached settings h)
    (few : h.submissions.length ≤ 4294967296) (late : h.Late call) :
    h.SameButStale (if call.isReport then 1 else 0) (h.next answers call) := by
  have slotMatches := (reached_sound h settings path).slotMatches
  cases late with
  | measured entry cid report ended handed =>
      have stale := reached_stale settings h path few entry cid ended handed
      have discarded := measured_discards answers cid report h.scheduler stale
      exact quiet_sameButStale h 1 answers _ discarded rfl
  | wake entry cid ended handed =>
      have stale := reached_stale settings h path few entry cid ended handed
      have unarmed : h.scheduler.deadline.armedFor? ≠ some cid := by
        intro armed
        obtain ⟨op, _, slot, correlation, _⟩ := slotMatches.armed (.clear h) cid armed
        exact stale op slot correlation
      have ignored := wake_ignores answers cid h.scheduler unarmed
      exact quiet_sameButStale h 0 answers _ ignored rfl
  | resolved entry answer ended =>
      have ignored := resolved_ignores answers entry.1.id answer h.scheduler fun op slot =>
        reached_apart settings h path entry ended op (congrArg Slot.operation? slot)
      exact quiet_sameButStale h 0 answers _ ignored rfl

theorem run_submissions (calls : List (Answers × Call)) (h : History) :
    h.submissions.length ≤ (h.run calls).submissions.length := by
  obtain ⟨more, whole⟩ := History.run_log calls h
  rw [History.submissions, History.submissions, History.wire, History.wire, whole, List.filterMap_append,
    List.filterMap_append, List.length_append]
  exact Nat.le_add_right _ _

theorem late_completions (calls late all : List (Answers × Call)) (path : History.Reached settings h)
    (few : (h.run calls).submissions.length ≤ 4294967296) (woven : h.Interleaved calls late all) :
    (h.run calls).SameButStale (late.countP fun asked => asked.2.isReport) (h.run all) := by
  induction woven with
  | nil h => exact ⟨rfl, rfl, rfl, rfl⟩
  | call h asked calls late all woven ih => exact ih (.next asked.1 asked.2 h path) few
  | late h asked calls late all belated woven ih =>
      have below := Nat.le_trans (run_submissions calls h) few
      have once := late_sameButStale settings h asked.1 asked.2 path below belated
      have onward := once.run_same _ _ _ calls
      have others := ih (.next asked.1 asked.2 h path) (by
        rw [submissions_effects, onward.effects, ← submissions_effects]
        exact few)
      have both := onward.trans _ _ _ _ _ others
      rwa [Nat.add_comm, ← List.countP_cons] at both

-- The second operation was rejected and the third timed out. The fourth is reported now, and then once more.
theorem sample_late : History.Reached .standard History.sample ∧
    (History.sample.run [(.sample, .measured ⟨4⟩ [])]).submissions.length ≤ 4294967296 ∧
    History.sample.Interleaved [(.sample, .measured ⟨4⟩ [])]
      [(.sample, .measured ⟨2⟩ []), (.sample, .wake ⟨3⟩), (.sample, .measured ⟨4⟩ []), (.sample, .resolved ⟨3⟩ .empty)]
      [(.sample, .measured ⟨2⟩ []), (.sample, .wake ⟨3⟩), (.sample, .measured ⟨4⟩ []), (.sample, .measured ⟨4⟩ []),
        (.sample, .resolved ⟨3⟩ .empty)] ∧
    (History.sample.run [(.sample, .measured ⟨4⟩ [])]).SameButStale 2 (History.sample.run
      [(.sample, .measured ⟨2⟩ []), (.sample, .wake ⟨3⟩), (.sample, .measured ⟨4⟩ []), (.sample, .measured ⟨4⟩ []),
        (.sample, .resolved ⟨3⟩ .empty)]) := by
  have few : (History.sample.run [(.sample, .measured ⟨4⟩ [])]).submissions.length ≤ 4294967296 := by decide
  have woven : History.sample.Interleaved [(.sample, .measured ⟨4⟩ [])]
      [(.sample, .measured ⟨2⟩ []), (.sample, .wake ⟨3⟩), (.sample, .measured ⟨4⟩ []), (.sample, .resolved ⟨3⟩ .empty)]
      [(.sample, .measured ⟨2⟩ []), (.sample, .wake ⟨3⟩), (.sample, .measured ⟨4⟩ []), (.sample, .measured ⟨4⟩ []),
        (.sample, .resolved ⟨3⟩ .empty)] := by
    apply History.Interleaved.late
    · exact .measured (List.get _ ⟨1, by decide⟩) ⟨2⟩ [] (List.get_mem _ _) (by decide)
    apply History.Interleaved.late
    · exact .wake (List.get _ ⟨3, by decide⟩) ⟨3⟩ (List.get_mem _ _) (by decide)
    apply History.Interleaved.call
    apply History.Interleaved.late
    · exact .measured (List.get _ ⟨4, by decide⟩) ⟨4⟩ [] (List.get_mem _ _) (by decide)
    apply History.Interleaved.late
    · exact .resolved (List.get _ ⟨3, by decide⟩) .empty (List.get_mem _ _)
    apply History.Interleaved.nil
  exact ⟨sample_reached, few, woven,
    late_completions .standard History.sample [(.sample, .measured ⟨4⟩ [])] _ _ sample_reached few woven⟩

end Ranging

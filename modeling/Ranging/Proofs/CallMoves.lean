import Ranging.Proofs.Soundness

-- Every call is a sequence of moves. So a law that holds of a new scheduler and that every move
-- keeps, holds of every history that can be reached.
namespace Ranging

open Scheduler
variable (h : History) (p : Option Operation) (b : Option LivenessToken) (answers : Answers)

theorem retireAll_moves (ops : List Operation) (outcome : Outcome) :
    Moves ⟨h, p, ops, b⟩ ⟨h.work (retireAll ops outcome h.scheduler), p, [], b⟩ := by
  induction ops generalizing h with
  | nil =>
      rw [retireAll, History.work_still]
      exact .none _
  | cons op rest ih =>
      have first := Moves.one (.retire ⟨h, p, op :: rest, b⟩ op rest outcome rfl)
      rw [retireAll, History.work_andThen]
      exact first.trans (ih _)

theorem vacate_moves (op : Operation) (slotMatches : SlotMatches ⟨h, p, [], b⟩)
    (occupied : h.scheduler.slot.operation? = some op) :
    Moves ⟨h, p, [], b⟩ ⟨h.work h.scheduler.vacate, p, [op], b⟩ := by
  cases slot : h.scheduler.slot with
  | idle => simp [slot, Slot.operation?] at occupied
  | resolving other =>
      obtain rfl : other = op := by simpa [slot, Slot.operation?] using occupied
      have vacated : h.scheduler.vacate = .did { h.scheduler with slot := .idle } [] := by simp [vacate, slot, still]
      rw [vacated]
      exact .one (.release ⟨h, p, [], b⟩ other rfl slot)
  | dispatched other =>
      obtain rfl : other = op := by simpa [slot, Slot.operation?] using occupied
      obtain ⟨cid, due, _, same, _, armed⟩ := slotMatches.dispatched other slot
      have vacated : h.scheduler.vacate = .did { h.scheduler with slot := .idle, deadline := .unarmed }
          [.disarm cid, .cancel cid other.hardwarePeers] := by
        have armed : h.scheduler.deadline = .armed cid due := armed
        simp [vacate, slot, disarm, armed, same, Deadline.armedFor?, Turn.andThen, Turn.did]
      rw [vacated]
      exact .one (.revoke ⟨h, p, [], b⟩ cid other due rfl slot same armed)

theorem retireActive_moves (outcome : Outcome) (slotMatches : SlotMatches ⟨h, p, [], b⟩) :
    Moves ⟨h, p, [], b⟩ ⟨h.work (h.scheduler.retireActive outcome), p, [], b⟩ := by
  cases occupied : h.scheduler.slot.operation? with
  | none =>
      simp only [retireActive, occupied, History.work_still]
      exact .none _
  | some op =>
      have emptied := vacate_moves h p b op slotMatches occupied
      have retired := Moves.one (.retire ⟨h.work h.scheduler.vacate, p, [op], b⟩ op [] outcome rfl)
      simp only [retireActive, occupied, History.work_andThen]
      exact emptied.trans retired

theorem retireQueued_moves (chosen : Operation → Bool) (outcome : Outcome) :
    Moves ⟨h, p, [], b⟩ ⟨h.work (retireAll (h.scheduler.queue.filter chosen) outcome
      { h.scheduler with queue := h.scheduler.queue.filter fun op => !chosen op }), p, [], b⟩ := by
  have pulled := Moves.one (.pull ⟨h, p, [], b⟩ chosen rfl)
  have retired := retireAll_moves
    (h.work (.did { h.scheduler with queue := h.scheduler.queue.filter fun op => !chosen op } []))
    p b (h.scheduler.queue.filter chosen) outcome
  rw [History.work_did] at retired
  exact pulled.trans retired

theorem failAll_moves (kind : FailureKind) (slotMatches : SlotMatches ⟨h, p, [], b⟩) :
    Moves ⟨h, p, [], b⟩ ⟨h.work (h.scheduler.failAll kind), p, [], b⟩ := by
  have first := retireActive_moves h p b (.failed kind) slotMatches
  have second := retireQueued_moves (h.work (h.scheduler.retireActive (.failed kind))) p b
    (fun _ => true) (.failed kind)
  rw [List.filter_eq_self.2 (by simp), List.filter_eq_nil_iff.2 (by simp)] at second
  rw [failAll, History.work_andThen]
  exact first.trans second

theorem dispatch_rebuffed (op : Operation) (s : Scheduler) (reachable : op.hardwarePeers ≠ [])
    (rejected : answers.accepts op.id s.nextCorrelation op.hardwarePeers = false) : s.dispatch answers op =
      (s.rebuffed op).andThen (retire (op.handedOver s.nextCorrelation) (.failed .hardwareRejected)) := by
  simp [dispatch, reachable, rejected, rebuffed, Operation.handedOver]

theorem dispatch_engaged (op : Operation) (s : Scheduler) (unarmed : s.deadline = .unarmed)
    (reachable : op.hardwarePeers ≠ []) (accepted : answers.accepts op.id s.nextCorrelation op.hardwarePeers = true) :
    s.dispatch answers op = s.engaged op answers.dispatchClock := by
  simp [dispatch, reachable, accepted, occupy, unarmed, Deadline.arm, Turn.andThen, Turn.did, engaged,
    Operation.handedOver]

theorem dispatch_moves (op : Operation) (slotMatches : SlotMatches ⟨h, some op, [], b⟩)
    (known : op.needsTranslation = false) :
    Moves ⟨h, some op, [], b⟩ ⟨h.work (h.scheduler.dispatch answers op), none, [], b⟩ := by
  obtain ⟨slot, _⟩ := slotMatches.poised op rfl
  by_cases alone : op.hardwarePeers = []
  · have laid := Moves.one (.bare ⟨h, some op, [], b⟩ op rfl rfl slot known alone)
    have retired := Moves.one (.retire ⟨h, none, [op], b⟩ op []
      (.delivered (correlate op.request op.translation [])) rfl)
    have dispatched : h.scheduler.dispatch answers op =
        h.scheduler.retire op (.delivered (correlate op.request op.translation [])) := by
      simp [dispatch, alone]
    rw [dispatched]
    exact laid.trans retired
  · cases accepted : answers.accepts op.id h.scheduler.nextCorrelation op.hardwarePeers with
    | false =>
        have laid := Moves.one (.reject ⟨h, some op, [], b⟩ op rfl rfl slot known alone)
        have retired := Moves.one (.retire
          ⟨h.work (h.scheduler.rebuffed op), none, [op.handedOver h.scheduler.nextCorrelation], b⟩
          (op.handedOver h.scheduler.nextCorrelation) [] (.failed .hardwareRejected) rfl)
        rw [dispatch_rebuffed answers op h.scheduler alone accepted, History.work_andThen]
        exact laid.trans retired
    | true =>
        have unarmed : h.scheduler.deadline = .unarmed := slotMatches.idle slot
        have taken := Moves.one (.engage ⟨h, some op, [], b⟩ op answers.dispatchClock rfl slot unarmed known alone)
        rw [dispatch_engaged answers op h.scheduler unarmed alone accepted]
        exact taken

theorem start_moves (op : Operation) (slotMatches : SlotMatches ⟨h, some op, [], b⟩) :
    Moves ⟨h, some op, [], b⟩ ⟨h.work (h.scheduler.start answers op), none, [], b⟩ := by
  cases needs : op.needsTranslation with
  | true =>
      have parked := Moves.one (.park ⟨h, some op, [], b⟩ op rfl (slotMatches.poised op rfl).1 needs)
      simp only [start, needs, if_true]
      exact parked
  | false =>
      simp only [start, needs, Bool.false_eq_true, if_false]
      exact dispatch_moves h b answers op slotMatches needs

theorem fillFrom_moves (ops : List Operation) (slotMatches : SlotMatches ⟨h, none, [], b⟩)
    (queue : h.scheduler.queue = ops) :
    Moves ⟨h, none, [], b⟩ ⟨h.work (fillFrom answers ops h.scheduler), none, [], b⟩ := by
  induction ops generalizing h with
  | nil =>
      rw [fillFrom, History.work_still]
      exact .none _
  | cons op rest ih =>
      by_cases ready : (h.scheduler.slot.isIdle && h.scheduler.available) = true
      · obtain ⟨idle, available⟩ := Bool.and_eq_true_iff.1 ready
        have slot := h.scheduler.slot.isIdle_iff.1 idle
        have taken := Move.take ⟨h, none, [], b⟩ op rest rfl slot available queue
        have poised := slotMatches_kept _ _ slotMatches taken
        have started := start_moves (h.work (.did { h.scheduler with queue := rest } [])) b answers op poised
        rw [History.work_did] at started
        have others := ih (h.work (start answers op { h.scheduler with queue := rest }))
          (started.kept SlotMatches slotMatches_kept poised) (start_queue answers op _)
        simp only [fillFrom, ready, if_true, History.work_andThen]
        exact ((Moves.one taken).trans started).trans others
      · simp only [fillFrom, ready, Bool.false_eq_true, if_false, History.work_still]
        exact .none _

theorem fill_moves (slotMatches : SlotMatches ⟨h, none, [], b⟩) :
    Moves ⟨h, none, [], b⟩ ⟨h.work (h.scheduler.fill answers), none, [], b⟩ :=
  fillFrom_moves h b answers _ slotMatches rfl

theorem hear_moves (call : Call) (plain : h.scheduler.Plain call) :
    Moves (.clear h) (.clear (h.hear call)) := .one (.hear (.clear h) call plain)

theorem accept_refused (sub : Submission) (s : Scheduler) (kind : FailureKind)
    (verdict : (s.counted.verdict answers (s.operationOf answers sub)).1 = some kind) :
    s.accept answers sub = (s.interview answers sub).andThen (retire (s.operationOf answers sub) (.failed kind)) := by
  simp only [accept, counted] at verdict ⊢
  simp only [verdict]
  rfl

theorem accept_joined (sub : Submission) (s : Scheduler)
    (verdict : (s.counted.verdict answers (s.operationOf answers sub)).1 = none) :
    s.accept answers sub = ((s.interview answers sub).andThen
      (enqueue (s.operationOf answers sub))).andThen (fill answers) := by
  simp only [accept, counted] at verdict ⊢
  simp only [verdict, Turn.andThen_assoc]
  rfl

theorem accept_moves (sub : Submission) (slotMatches : SlotMatches (.clear h))
    (wellFormed : sub.request.validate h.scheduler.settings.maxPeers = .ok ()) :
    Moves (.clear h) (.clear { (h.hear (.submit sub)).work (h.scheduler.accept answers sub) with
      admitted := h.admitted ++ [(h.scheduler.nextOperation, sub)] }) := by
  cases verdict : (h.scheduler.counted.verdict answers (h.scheduler.operationOf answers sub)).1 with
  | some kind =>
      have refused := Moves.one (.refuse (.clear h) answers sub kind wellFormed verdict)
      rw [accept_refused answers sub h.scheduler kind verdict]
      exact refused
  | none =>
      have joined := Move.join (.clear h) answers sub wellFormed verdict rfl
      have filled := fill_moves _ none answers (slotMatches_kept _ _ slotMatches joined)
      rw [accept_joined answers sub h.scheduler verdict, History.work_andThen]
      exact (Moves.one joined).trans filled

theorem retireFill_moves (op : Operation) (outcome : Outcome) (slotMatches : SlotMatches ⟨h, none, [op], b⟩) :
    Moves ⟨h, none, [op], b⟩
      ⟨h.work ((h.scheduler.retire op outcome).andThen (fill answers)), none, [], b⟩ := by
  have retired := Move.retire ⟨h, none, [op], b⟩ op [] outcome rfl
  have filled := fill_moves _ b answers (slotMatches_kept _ _ slotMatches retired)
  rw [History.work_andThen]
  exact (Moves.one retired).trans filled

theorem measured_completes (cid : CorrelationId) (report : List Reading) (s : Scheduler) (op : Operation) (due : Time)
    (slot : s.slot = .dispatched op) (same : op.correlation = some cid) (armed : s.deadline = .armed cid due) :
    s.measured answers cid report =
      (Turn.did { s with slot := .idle, deadline := .unarmed }
        [.disarm cid, .permission op.requester (answers.permits op.requester)]).andThen fun s =>
          (s.retire op (if answers.permits op.requester
            then .delivered (correlate op.request op.translation report)
            else .failed .permissionDenied)).andThen (fill answers) := by
  simp [measured, slot, same, complete, disarm, armed, Deadline.armedFor?, Turn.andThen, Turn.did]

theorem measured_discards (cid : CorrelationId) (report : List Reading) (s : Scheduler)
    (stale : ∀ op, s.slot = .dispatched op → op.correlation ≠ some cid) :
    s.measured answers cid report = s.discard := by
  cases slot : s.slot <;> simp [measured, slot]
  exact fun same => absurd same (stale _ slot)

theorem measured_moves (cid : CorrelationId) (report : List Reading) (slotMatches : SlotMatches (.clear h)) :
    Moves (.clear h) (.clear ((h.hear (.measured cid report)).work (h.scheduler.measured answers cid report))) := by
  rcases slotMatches.waited (.clear h) cid with ⟨op, due, slot, same, armed⟩ | stale
  · have reported := Move.report (.clear h) cid report op due (answers.permits op.requester) rfl slot same armed
    have ended := retireFill_moves _ none answers op (if answers.permits op.requester
      then .delivered (correlate op.request op.translation report) else .failed .permissionDenied)
      (slotMatches_kept _ _ slotMatches reported)
    rw [measured_completes answers cid report h.scheduler op due slot same armed, History.work_andThen]
    exact (Moves.one reported).trans ended
  · rw [measured_discards answers cid report h.scheduler stale]
    exact .one (.discard (.clear h) cid report stale)

theorem wake_expires (cid : CorrelationId) (s : Scheduler) (op : Operation) (due : Time)
    (slot : s.slot = .dispatched op) (same : op.correlation = some cid) (armed : s.deadline = .armed cid due) :
    s.wake answers cid =
      (Turn.did { s with slot := .idle, deadline := .unarmed } [.cancel cid op.hardwarePeers]).andThen fun s =>
        (s.retire op (.failed .timeout)).andThen (fill answers) := by
  simp [wake, Deadline.fire?, armed, slot, retireActive, Slot.operation?, vacate, disarm, Deadline.armedFor?, same,
    Turn.andThen, Turn.did, still]

theorem wake_ignores (cid : CorrelationId) (s : Scheduler) (unarmed : s.deadline.armedFor? ≠ some cid) :
    s.wake answers cid = s.still := by
  simp [wake, Deadline.fire?, unarmed]

theorem wake_moves (cid : CorrelationId) (slotMatches : SlotMatches (.clear h)) :
    Moves (.clear h) (.clear ((h.hear (.wake cid)).work (h.scheduler.wake answers cid))) := by
  by_cases fired : h.scheduler.deadline.armedFor? = some cid
  · obtain ⟨op, due, slot, same, armed⟩ := slotMatches.armed (.clear h) cid fired
    have expired := Move.expire (.clear h) cid op due rfl slot same armed
    have ended := retireFill_moves _ none answers op (.failed .timeout) (slotMatches_kept _ _ slotMatches expired)
    rw [wake_expires answers cid h.scheduler op due slot same armed, History.work_andThen]
    exact (Moves.one expired).trans ended
  · rw [wake_ignores answers cid h.scheduler fired]
    have heard := hear_moves h (.wake cid) fired
    rwa [← History.work_still (h.hear (.wake cid))] at heard

theorem resolved_dispatches (answer : AddressBook) (s : Scheduler) (op : Operation) (slot : s.slot = .resolving op) :
    s.resolved answers op.id answer =
      ((Turn.did { s with slot := .idle } []).andThen fun s =>
        s.dispatch answers { op with translation := some (.ofAnswer op.request answer) }).andThen (fill answers) := by
  simp [resolved, slot, Turn.andThen, Turn.did]

theorem resolved_ignores (id : OperationId) (answer : AddressBook) (s : Scheduler)
    (stale : ∀ op, s.slot = .resolving op → op.id ≠ id) : s.resolved answers id answer = s.still := by
  cases slot : s.slot <;> simp [resolved, slot]
  exact fun same => absurd same (stale _ slot)

theorem resolved_moves (id : OperationId) (answer : AddressBook) (slotMatches : SlotMatches (.clear h)) :
    Moves (.clear h) (.clear ((h.hear (.resolved id answer)).work (h.scheduler.resolved answers id answer))) := by
  by_cases waited : ∃ op, h.scheduler.slot = .resolving op ∧ op.id = id
  · obtain ⟨op, slot, rfl⟩ := waited
    have translated := Move.translate (.clear h) answer op rfl slot
    have ready := slotMatches_kept _ _ slotMatches translated
    have dispatched := dispatch_moves _ none answers _ ready rfl
    have filled := fill_moves _ none answers (dispatched.kept SlotMatches slotMatches_kept ready)
    rw [resolved_dispatches answers answer h.scheduler op slot, History.work_andThen, History.work_andThen]
    exact ((Moves.one translated).trans dispatched).trans filled
  · have stale : ∀ op, h.scheduler.slot = .resolving op → op.id ≠ id := fun op slot same => waited ⟨op, slot, same⟩
    rw [resolved_ignores answers id answer h.scheduler stale]
    have heard := hear_moves h (.resolved id answer) stale
    rwa [← History.work_still (h.hear (.resolved id answer))] at heard

theorem forget_moves (gone : ∀ token, b = some token → ∀ op ∈ (MidCall.mk h none [] b).present, op.token ≠ token) :
    Moves ⟨h, none, [], b⟩ (.clear h) := by
  cases b with
  | none => exact .none _
  | some token => exact .one (.forget ⟨h, none, [], some token⟩ token rfl (gone token rfl))

theorem withdraw_moves (chosen : Operation → Bool) (slotMatches : SlotMatches ⟨h, none, [], b⟩)
    (covers : ∀ token, b = some token → ∀ op, op.token = token → chosen op = true) :
    Moves ⟨h, none, [], b⟩ (.clear (h.work (h.scheduler.withdraw answers chosen))) := by
  have first := retireQueued_moves h none b chosen .withdrawn
  have after := first.kept SlotMatches slotMatches_kept slotMatches
  simp only [withdraw, History.work_andThen]
  generalize turned : retireAll (h.scheduler.queue.filter chosen) .withdrawn
    { h.scheduler with queue := h.scheduler.queue.filter fun op => !chosen op } = turn at first after ⊢
  have queue : turn.scheduler.queue = h.scheduler.queue.filter fun op => !chosen op := by
    rw [← turned, retireAll_queue]
  have spared : ∀ token, b = some token → ∀ op ∈ turn.scheduler.queue, op.token ≠ token := by
    intro token dead op member same
    rw [queue] at member
    have unchosen := (List.mem_filter.1 member).2
    simp [covers token dead op same] at unchosen
  cases struck : turn.scheduler.slot.operation?.any chosen with
  | true =>
      have ended := retireActive_moves (h.work turn) none b .withdrawn after
      have forgotten := forget_moves ((h.work turn).work (turn.scheduler.retireActive .withdrawn)) b (by
        intro token dead op member
        have waiting : op ∈ (turn.scheduler.retireActive .withdrawn).scheduler.queue := by
          have emptied : (turn.scheduler.retireActive .withdrawn).scheduler.slot.operation? = none := by
            rw [retireActive_slot]; rfl
          simpa [MidCall.present, MidCall.standing, History.work, emptied] using member
        rw [retireActive_queue] at waiting
        exact spared token dead op waiting)
      have filled := fill_moves _ none answers
        (forgotten.kept SlotMatches slotMatches_kept (ended.kept SlotMatches slotMatches_kept after))
      simp only [if_true, History.work_andThen]
      exact ((first.trans ended).trans forgotten).trans filled
  | false =>
      have forgotten := forget_moves (h.work turn) b (by
        intro token dead op member
        have here : turn.scheduler.slot.operation? = some op ∨ op ∈ turn.scheduler.queue := by
          simpa [MidCall.present, MidCall.standing, History.work] using member
        rcases here with occupied | waiting
        · intro same
          rw [occupied] at struck
          simp [covers token dead op same] at struck
        · exact spared token dead op waiting)
      have quiet : (h.work turn).work turn.scheduler.still = h.work turn := History.work_still (h.work turn)
      simp only [Bool.false_eq_true, if_false, quiet]
      exact first.trans forgotten

theorem cancel_moves (a : Attribution) (slotMatches : SlotMatches (.clear h)) :
    Moves (.clear h) (.clear ((h.hear (.cancel a)).work (h.scheduler.cancel answers a))) := by
  have heard := hear_moves h (.cancel a) trivial
  have withdrawn := withdraw_moves (h.hear (.cancel a)) none answers (fun op => decide (op.attribution ⊆ a))
    (heard.kept SlotMatches slotMatches_kept slotMatches) (by simp)
  exact heard.trans withdrawn

theorem requesterDied_withdraws (token : LivenessToken) (s : Scheduler) (ids : List OperationId) (registry : Registry)
    (purged : s.registry.purge? token = some (ids, registry)) :
    s.requesterDied answers token = (Turn.did { s with registry := registry } [.unregister token]).andThen
      (withdraw answers fun op => op.token = token) := by
  simp [requesterDied, purged]

theorem requesterDied_moves (token : LivenessToken) (slotMatches : SlotMatches (.clear h)) :
    Moves (.clear h) (.clear ((h.hear (.requesterDied token)).work (h.scheduler.requesterDied answers token))) := by
  have heard := hear_moves h (.requesterDied token) trivial
  cases purged : h.scheduler.registry.purge? token with
  | none =>
      have ignored : h.scheduler.requesterDied answers token = h.scheduler.still := by simp [requesterDied, purged]
      rw [ignored]
      rwa [← History.work_still (h.hear (.requesterDied token))] at heard
  | some known =>
      obtain ⟨ids, registry⟩ := known
      have buried := Move.bury (.clear (h.hear (.requesterDied token))) token ids registry rfl purged
      have after := slotMatches_kept _ _ (heard.kept SlotMatches slotMatches_kept slotMatches) buried
      have withdrawn := withdraw_moves _ (some token) answers (fun op => op.token = token) after (by
        intro other same op holds
        cases same
        simpa using holds)
      rw [requesterDied_withdraws answers token h.scheduler ids registry purged, History.work_andThen]
      exact (heard.trans (.one buried)).trans withdrawn

theorem reconsider_eq (before : Bool) (s : Scheduler) : s.reconsider answers before =
    (s.proclaim before).andThen fun s =>
      if s.available = before then s.still
      else if s.available then s.fill answers else s.failAll .resourceUnavailable := by
  by_cases same : s.available = before
  · simp [reconsider, proclaim, same, still, Turn.andThen, Turn.did]
  · simp only [reconsider, proclaim, if_neg same, Turn.andThen, Turn.did_scheduler]
    rfl

theorem announced_moves (before : Bool) (slotMatches : SlotMatches (.clear h)) :
    Moves (.clear h) (.clear (h.work (if h.scheduler.available = before then h.scheduler.still
      else if h.scheduler.available then h.scheduler.fill answers
      else h.scheduler.failAll .resourceUnavailable))) := by
  split
  · rw [History.work_still]
    exact .none _
  · split
    · exact fill_moves h none answers slotMatches
    · exact failAll_moves h none none .resourceUnavailable slotMatches

theorem setHardware_moves (ready : Bool) (slotMatches : SlotMatches (.clear h)) :
    Moves (.clear h) (.clear ((h.hear (.setHardware ready)).work (h.scheduler.setHardware answers ready))) := by
  have changed := Move.hardware (.clear h) ready
  have followed := announced_moves _ answers h.scheduler.available (slotMatches_kept _ _ slotMatches changed)
  rw [setHardware, reconsider_eq, History.work_andThen]
  exact (Moves.one changed).trans followed

theorem setIdle_moves (idle : Bool) (slotMatches : SlotMatches (.clear h)) :
    Moves (.clear h) (.clear ((h.hear (.setIdle idle)).work (h.scheduler.setIdle answers idle))) := by
  have changed := Move.idleness (.clear h) idle
  have followed := announced_moves _ answers h.scheduler.available (slotMatches_kept _ _ slotMatches changed)
  rw [setIdle, reconsider_eq, History.work_andThen]
  exact (Moves.one changed).trans followed

theorem shutdown_moves (slotMatches : SlotMatches (.clear h)) :
    Moves (.clear h) (.clear ((h.hear .shutdown).work h.scheduler.shutdown)) := by
  cases closed : h.scheduler.shutDown with
  | true =>
      have ignored : h.scheduler.shutdown = h.scheduler.still := by simp [shutdown, closed]
      rw [ignored]
      have heard := hear_moves h .shutdown closed
      rwa [← History.work_still (h.hear .shutdown)] at heard
  | false =>
      have closing := Move.close (.clear h) closed
      have failed := failAll_moves _ none none .resourceUnavailable (slotMatches_kept _ _ slotMatches closing)
      have closes : h.scheduler.shutdown =
          (Turn.did { h.scheduler with shutDown := true } []).andThen (failAll .resourceUnavailable) := by
        simp [shutdown, closed, Turn.andThen, Turn.did]
      rw [closes, History.work_andThen]
      exact (Moves.one closing).trans failed

theorem submit_moves (sub : Submission) (slotMatches : SlotMatches (.clear h)) :
    Moves (.clear h) (.clear (h.next answers (.submit sub))) := by
  cases formed : sub.request.validate h.scheduler.settings.maxPeers with
  | ok _ =>
      have accepted := accept_moves h answers sub slotMatches formed
      simpa [History.next, step, submit, formed, admits] using accepted
  | error e =>
      have heard := hear_moves h (.submit sub) ⟨e, formed⟩
      have ignored : h.next answers (.submit sub) = h.hear (.submit sub) := by
        simp [History.next, History.work, History.hear, step, submit, formed, admits, still]
      rwa [ignored]

theorem next_moves (call : Call) (slotMatches : SlotMatches (.clear h)) :
    Moves (.clear h) (.clear (h.next answers call)) := by
  have heard (admits : h.scheduler.admits answers call = []) :
      h.next answers call = (h.hear call).work (h.scheduler.step answers call) := by
    simp [History.next, admits, History.work, History.hear]
  cases call with
  | submit sub => exact submit_moves h answers sub slotMatches
  | cancel a => rw [heard rfl]; exact cancel_moves h answers a slotMatches
  | measured cid report => rw [heard rfl]; exact measured_moves h answers cid report slotMatches
  | wake cid => rw [heard rfl]; exact wake_moves h answers cid slotMatches
  | resolved id answer => rw [heard rfl]; exact resolved_moves h answers id answer slotMatches
  | requesterDied token => rw [heard rfl]; exact requesterDied_moves h answers token slotMatches
  | setHardware ready => rw [heard rfl]; exact setHardware_moves h answers ready slotMatches
  | setIdle idle => rw [heard rfl]; exact setIdle_moves h answers idle slotMatches
  | shutdown => rw [heard rfl]; exact shutdown_moves h slotMatches

theorem fresh_sound (settings : Settings) (ready : Bool) : Sound (.clear (.fresh settings ready)) := by
  have nobody : (MidCall.clear (.fresh settings ready)).present = [] := rfl
  have waiting : (MidCall.clear (.fresh settings ready)).standing = [] := rfl
  refine ⟨⟨?_, ?_, ?_, ?_, ?_⟩, ⟨?_, ?_, ?_⟩, ⟨?_, ?_⟩⟩
  · simp [MidCall.clear, History.fresh, Scheduler.fresh]
  · simp [MidCall.clear]
  · simp [MidCall.clear, History.fresh, Scheduler.fresh]
  · simp [MidCall.clear, History.fresh, Scheduler.fresh]
  · simp [MidCall.clear, History.fresh, Scheduler.fresh]
  · simp [nobody]
  · simp [nobody]
  · simp [waiting]
  · exact Registry.tidy_empty
  · intro token id
    rw [nobody]
    simp [MidCall.clear, History.fresh, Scheduler.fresh, Registry.holds_def, Registry.empty]

theorem reached_sound (settings : Settings) (path : History.Reached settings h) : Sound (.clear h) := by
  induction path with
  | start ready h made =>
      obtain ⟨_, rfl⟩ := (History.start_eq_ok_iff settings ready h).1 made
      exact fresh_sound settings ready
  | next answers call h _ ih => exact (next_moves h answers call ih.slotMatches).kept Sound sound_kept ih

theorem reached_law (settings : Settings) (law : MidCall → Prop)
    (starts : ∀ ready, (∀ l, 0 < settings.get l) → law (.clear (.fresh settings ready)))
    (keeps : ∀ d e, Sound d → law d → Move d e → law e) (path : History.Reached settings h) : law (.clear h) := by
  induction path with
  | start ready h made =>
      obtain ⟨positive, rfl⟩ := (History.start_eq_ok_iff settings ready h).1 made
      exact starts ready positive
  | next answers call h path ih =>
      have sound := reached_sound h settings path
      exact ((next_moves h answers call sound.slotMatches).kept (fun d => Sound d ∧ law d)
        (fun d e both move => ⟨sound_kept d e both.1 move, keeps d e both.1 both.2 move⟩) ⟨sound, ih⟩).2

theorem present_perm : (MidCall.clear h).present.Perm h.scheduler.live := by
  simpa [MidCall.present, MidCall.standing, MidCall.clear, Scheduler.live] using List.perm_append_comm

end Ranging

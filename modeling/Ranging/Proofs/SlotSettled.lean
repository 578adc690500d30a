import Ranging.Scheduler.History

-- What the scheduler comes to rest in after each call. In the middle of a call the slot may be idle
-- while somebody waits, so this is no law of single moves.
namespace Ranging
open Scheduler
variable (answers : Answers) (s : Scheduler)

structure SlotSettled (s : Scheduler) : Prop where
  idle : s.slot = .idle → s.queue = []
  unavailable : s.available = false → s.slot = .idle

theorem SlotSettled.available (rested : SlotSettled s) (busy : s.slot ≠ .idle) : s.available = true := by
  cases available : s.available with
  | true => rfl
  | false => exact absurd (rested.unavailable available) busy

theorem fill_slotSettled (available : s.available = true) : SlotSettled (s.fill answers).scheduler := by
  constructor
  · intro idle
    exact fillFrom_idle answers s.queue s rfl available idle
  · intro unavailable
    rw [fill_available, available] at unavailable
    cases unavailable

theorem failAll_slotSettled (kind : FailureKind) : SlotSettled (s.failAll kind).scheduler :=
  ⟨fun _ => failAll_queue kind s, fun _ => failAll_slot kind s⟩

theorem accept_slotSettled (sub : Submission) (rested : SlotSettled s) :
    SlotSettled (s.accept answers sub).scheduler := by
  unfold accept
  dsimp only
  split
  · exact ⟨rested.idle, rested.unavailable⟩
  · next passed =>
      have available := verdict_available answers _ _ passed
      exact fill_slotSettled answers _ available

theorem measured_slotSettled (cid : CorrelationId) (report : List Reading) (rested : SlotSettled s) :
    SlotSettled (s.measured answers cid report).scheduler := by
  unfold measured
  split
  · next op slot =>
      have available := rested.available s (by simp [slot])
      split
      · refine fill_slotSettled answers _ ?_
        exact (disarm_available _).trans available
      · exact ⟨rested.idle, rested.unavailable⟩
  · exact ⟨rested.idle, rested.unavailable⟩

theorem wake_slotSettled (cid : CorrelationId) (rested : SlotSettled s) :
    SlotSettled (s.wake answers cid).scheduler := by
  unfold wake
  split
  · exact rested
  · next deadline fired =>
      dsimp only
      split
      · next op slot =>
          have available := rested.available s (by simp [slot])
          refine fill_slotSettled answers _ ?_
          exact (retireActive_available _ _).trans available
      · exact ⟨rested.idle, rested.unavailable⟩

theorem resolved_slotSettled (id : OperationId) (answer : AddressBook) (rested : SlotSettled s) :
    SlotSettled (s.resolved answers id answer).scheduler := by
  unfold resolved
  split
  · next op slot =>
      have available := rested.available s (by simp [slot])
      split
      · refine fill_slotSettled answers _ ?_
        exact (dispatch_available _ _ _).trans available
      · exact rested
  · exact rested

theorem withdraw_slotSettled (chosen : Operation → Bool) (rested : SlotSettled s) :
    SlotSettled (s.withdraw answers chosen).scheduler := by
  have slot := retireAll_slot (s.queue.filter chosen) .withdrawn { s with queue := s.queue.filter fun op => !chosen op }
  have available := retireAll_available (s.queue.filter chosen) .withdrawn
    { s with queue := s.queue.filter fun op => !chosen op }
  unfold withdraw
  rw [Turn.andThen_scheduler]
  split
  · next struck =>
      rw [slot] at struck
      have busy : s.slot ≠ .idle := by
        intro idle
        simp [idle, Slot.operation?] at struck
      refine fill_slotSettled answers _ ?_
      rw [retireActive_available, available]
      exact rested.available s busy
  · constructor
    · intro idle
      have empty : s.queue = [] := rested.idle (slot.symm.trans idle)
      refine (retireAll_queue _ _ _).trans ?_
      simp [empty]
    · intro unavailable
      exact slot.trans (rested.unavailable (available.symm.trans unavailable))

theorem requesterDied_slotSettled (token : LivenessToken) (rested : SlotSettled s) :
    SlotSettled (s.requesterDied answers token).scheduler := by
  unfold requesterDied
  split
  · exact rested
  · exact withdraw_slotSettled answers _ _ ⟨rested.idle, rested.unavailable⟩

theorem reconsider_slotSettled (before : Bool) (rested : s.available = before → SlotSettled s) :
    SlotSettled (s.reconsider answers before).scheduler := by
  unfold reconsider
  split
  · next same => exact rested same
  · rw [Turn.andThen_scheduler]
    split
    · next available => exact fill_slotSettled answers s available
    · exact failAll_slotSettled s .resourceUnavailable

theorem setHardware_slotSettled (ready : Bool) (rested : SlotSettled s) :
    SlotSettled (s.setHardware answers ready).scheduler := by
  refine reconsider_slotSettled answers _ _ ?_
  intro same
  exact ⟨rested.idle, fun unavailable => rested.unavailable (same.symm.trans unavailable)⟩

theorem setIdle_slotSettled (idle : Bool) (rested : SlotSettled s) :
    SlotSettled (s.setIdle answers idle).scheduler := by
  refine reconsider_slotSettled answers _ _ ?_
  intro same
  exact ⟨rested.idle, fun unavailable => rested.unavailable (same.symm.trans unavailable)⟩

theorem shutdown_slotSettled (rested : SlotSettled s) : SlotSettled s.shutdown.scheduler := by
  unfold shutdown
  split
  · exact rested
  · exact failAll_slotSettled _ .resourceUnavailable

theorem step_slotSettled (call : Call) (rested : SlotSettled s) : SlotSettled (s.step answers call).scheduler := by
  cases call with
  | submit sub =>
      cases formed : sub.request.validate s.settings.maxPeers with
      | error e => simpa [step, submit, formed, still] using rested
      | ok _ => simpa [step, submit, formed] using accept_slotSettled answers s sub rested
  | cancel a => exact withdraw_slotSettled answers s _ rested
  | measured cid report => exact measured_slotSettled answers s cid report rested
  | wake cid => exact wake_slotSettled answers s cid rested
  | resolved id answer => exact resolved_slotSettled answers s id answer rested
  | requesterDied token => exact requesterDied_slotSettled answers s token rested
  | setHardware ready => exact setHardware_slotSettled answers s ready rested
  | setIdle idle => exact setIdle_slotSettled answers s idle rested
  | shutdown => exact shutdown_slotSettled s rested

-- Nobody waits for ranging to become possible, so the change is all there is to tell.
theorem reconsider_quiet (before : Bool) (empty : s.queue = []) (enabled : s.available ≠ before)
    (available : s.available = true) : (s.reconsider answers before).effects = [.announce .enabled] := by
  unfold reconsider
  rw [if_neg enabled, Turn.andThen_effects, Turn.did_scheduler, if_pos available, fill, empty, available]
  rfl

theorem step_enabled (call : Call) (rested : SlotSettled s) (before : s.available = false)
    (after : (s.step answers call).scheduler.available = true) :
    (s.step answers call).effects = [.announce .enabled] := by
  have empty : s.queue = [] := rested.idle (rested.unavailable before)
  rw [step_available] at after
  cases call with
  | setHardware ready =>
      refine reconsider_quiet answers _ _ empty ?_ after
      simp [after, before]
  | setIdle idle =>
      refine reconsider_quiet answers _ _ empty ?_ after
      simp [after, before]
  | shutdown => cases after
  | submit sub => exact absurd after (by simp [before])
  | cancel a => exact absurd after (by simp [before])
  | measured cid report => exact absurd after (by simp [before])
  | wake cid => exact absurd after (by simp [before])
  | resolved id answer => exact absurd after (by simp [before])
  | requesterDied token => exact absurd after (by simp [before])

theorem reached_slotSettled (settings : Settings) (h : History) (path : History.Reached settings h) :
    SlotSettled h.scheduler := by
  induction path with
  | start ready h made =>
      obtain ⟨_, rfl⟩ := (History.start_eq_ok_iff settings ready h).1 made
      exact ⟨fun _ => rfl, fun _ => rfl⟩
  | next answers call h path ih => exact step_slotSettled answers h.scheduler call ih

end Ranging

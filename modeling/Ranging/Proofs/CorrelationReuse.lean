import Ranging.Proofs.AdmissionGates
import Ranging.Proofs.SlotBound
import Ranging.Proofs.SlotFilling

-- Correlation ids come round: 2^32 submissions that overtake a wakeup on the channel let it end an operation that it
-- was not set for, ahead of that operation's deadline.
namespace Ranging

namespace Station
variable (s : Station)

theorem serveOutput_unissued (order : Output) (hub : s.hub = .new) :
    (s.serveOutput order).hub = .new ∧ (s.serveOutput order).loop = s.loop := by
  cases order with
  | status told => exact ⟨hub, rfl⟩
  | effect effect =>
      cases effect with
      | register token =>
          show (s.register token).hub = .new ∧ (s.register token).loop = s.loop
          have unknown : s.register token = s := by
            have none : s.hub.entries.get? token = none := by
              rw [hub]
              rfl
            have never : s.hub.wasIssued token = false := by
              rw [hub]
              simp [Hub.wasIssued, Hub.new]
              omega
            simp [register, Hub.register, none, never]
          rw [unknown]
          exact ⟨hub, rfl⟩
      | unregister token => exact ⟨by simp only [serveOutput, serve, unregister, hub]; rfl, rfl⟩
      | _ => exact ⟨hub, rfl⟩

end Station

namespace Scheduler
variable (answers : Answers) (sub : Submission) (s : Scheduler)

-- Nobody is live, somebody could be served, and the next submission to the hardware gets this name.
structure Unoccupied (s : Scheduler) (settings : Settings) (cid : CorrelationId) : Prop where
  settings : s.settings = settings
  slot : s.slot = .idle
  queue : s.queue = []
  unarmed : s.deadline = .unarmed
  available : s.available = true
  name : s.nextCorrelation = cid

-- What a submission needs so that the hardware is asked at once.
structure Admissible (answers : Answers) (sub : Submission) (settings : Settings) : Prop where
  granted : answers.permits sub.requester = true
  foreground : answers.foreground sub.requester.uid = true
  wellFormed : sub.request.validate settings.maxPeers = .ok ()
  direct : sub.request.handles = []
  room : 0 < settings.maxQueued

variable {answers sub s} {settings : Settings} {cid : CorrelationId}

theorem Unoccupied.passes (unoccupied : s.Unoccupied settings cid) (admissible : Admissible answers sub settings) :
    (s.counted.verdict answers (s.operationOf answers sub)).1 = none := by
  obtain ⟨payer, billed⟩ := List.exists_mem_of_ne_nil _ sub.payers.inhabited
  have nobody : s.counted.liveBilledTo payer = 0 := by
    simp [liveBilledTo, live, counted, unoccupied.queue, unoccupied.slot, Slot.operation?]
  have room : s.counted.isFull sub.payers = false := by
    refine isFull_false s.counted sub.payers payer billed ?_
    rw [nobody]
    exact unoccupied.settings ▸ admissible.room
  have available : s.counted.available = true := unoccupied.available
  have requester : (s.operationOf answers sub).requester = sub.requester := rfl
  have payers : (s.operationOf answers sub).attribution = sub.payers := rfl
  rw [verdict, requester, payers]
  simp [admissible.granted, admissible.foreground, available, room, Ledger.allows]

theorem Unoccupied.offered (unoccupied : s.Unoccupied settings cid) (admissible : Admissible answers sub settings) :
    ∃ t : Scheduler, t.Unoccupied settings cid ∧ (s.operationOf answers sub).hardwarePeers ≠ [] ∧
      (s.step answers (.submit sub)).scheduler = (t.dispatch answers (s.operationOf answers sub)).scheduler := by
  have wellFormed : sub.request.validate s.settings.maxPeers = .ok () := unoccupied.settings ▸ admissible.wellFormed
  have direct : (s.operationOf answers sub).request.handles = [] := admissible.direct
  have inhabited := ((Request.validate_ok_iff _ _).1 admissible.wellFormed).1
  refine ⟨{ s.counted with registry := (s.registry.attach sub.token s.nextOperation).2, queue := [] },
    ⟨unoccupied.settings, unoccupied.slot, rfl, unoccupied.unarmed, unoccupied.available, unoccupied.name⟩,
    direct_reachable _ ⟨rfl, rfl, rfl⟩ inhabited direct, ?_⟩
  have queue : s.counted.queue = [] := unoccupied.queue
  have taken : s.step answers (.submit sub) = s.accept answers sub := by simp [step, submit, wellFormed]
  rw [taken, accept_joined answers sub s (unoccupied.passes admissible), ← start_direct answers _ _ direct]
  simp only [Turn.andThen_scheduler, interview, Turn.did_scheduler, enqueue, fill, queue, List.nil_append]
  refine (congrArg Turn.scheduler (fillFrom_free answers _ _ _ ?_ ?_)).trans rfl
  · exact unoccupied.slot
  · exact unoccupied.available

theorem Unoccupied.rejected (unoccupied : s.Unoccupied settings cid) (admissible : Admissible answers sub settings)
    (refusing : ∀ id cid peers, answers.accepts id cid peers = false) :
    (s.step answers (.submit sub)).scheduler.Unoccupied settings cid.next := by
  obtain ⟨t, same, reachable, offered⟩ := unoccupied.offered admissible
  rw [offered, dispatch_rebuffed answers _ t reachable (refusing _ _ _)]
  exact ⟨same.settings, same.slot, same.queue, same.unarmed, same.available, congrArg CorrelationId.next same.name⟩

theorem Unoccupied.engaged (unoccupied : s.Unoccupied settings cid) (admissible : Admissible answers sub settings)
    (accepting : ∀ id cid peers, answers.accepts id cid peers = true) :
    ∃ op, (s.step answers (.submit sub)).scheduler.slot = .dispatched op ∧
      (s.step answers (.submit sub)).scheduler.deadline =
        .armed cid (answers.dispatchClock.after settings.hardwareTimeout) := by
  obtain ⟨t, same, reachable, offered⟩ := unoccupied.offered admissible
  rw [offered, dispatch_engaged answers _ t same.unarmed reachable (accepting _ _ _)]
  exact ⟨_, rfl, by rw [← same.name, ← same.settings]; rfl⟩

end Scheduler

namespace Shift
variable (settings : Settings)

-- Between two calls of a loop whose clients were never connected.
structure Between (scheduler : Scheduler) (pending : List Event) (now : Time) (s : Shift) : Prop where
  path : Reached settings paced s
  accurate : s.station.timer.Exact
  clock : s.station.now = now
  hub : s.station.hub = .new
  free : s.orders = []
  stage : s.station.loop.stage = .receiving
  listens : s.station.loop.listens = true
  scheduler : s.station.loop.scheduler = scheduler
  pending : s.pending = pending

theorem serve_all (s : Shift) (path : Reached settings paced s) (hub : s.station.hub = .new) :
    ∃ t, Reached settings paced t ∧ t.orders = [] ∧ s.station.Serves t.station ∧ t.station.hub = .new ∧
      t.station.loop = s.station.loop := by
  generalize orders : s.orders = left
  induction left generalizing s with
  | nil => exact ⟨s, path, orders, ⟨rfl, rfl, rfl, rfl, rfl, rfl⟩, hub, rfl⟩
  | cons order rest ih =>
      have served := s.serve_eq order rest orders
      have aside := s.station.serveOutput_unissued order hub
      have serves := s.station.serveOutput_serves order
      obtain ⟨t, onward, done, others, watched, loop⟩ :=
        ih s.serve (.next .serve s path rfl) (by rw [served]; exact aside.1) (by rw [served])
      rw [served] at others loop
      exact ⟨t, onward, done, ⟨others.clock.trans serves.clock, others.resolver.trans serves.resolver,
        others.timer.trans serves.timer, others.scheduler.trans serves.scheduler, others.stage.trans serves.stage,
        others.listens.trans serves.listens⟩, watched, loop.trans aside.2⟩

variable {settings : Settings} {scheduler : Scheduler} {pending : List Event} {now : Time} {s : Shift}

theorem Between.sent (here : Between settings scheduler pending now s) (event : Event)
    (permitted : s.paced (.send event) = true) :
    Between settings scheduler (pending ++ [event]) now (s.act (.send event)) where
  path := .next _ s here.path permitted
  accurate := by simpa [act] using here.accurate
  clock := by simpa [act, Station.now] using here.clock
  hub := by simpa [act] using here.hub
  free := here.free
  stage := by simpa [act] using here.stage
  listens := by simpa [act] using here.listens
  scheduler := by simpa [act] using here.scheduler
  pending := by
    have posted := s.station.post_pending event
    rw [here.listens] at posted
    exact posted.trans (congrArg (· ++ [event]) here.pending)

theorem Between.rung (here : Between settings scheduler pending now s) (cid : CorrelationId) (due : Time)
    (rest : Agenda) (set : s.station.agenda = ⟨due, .wakeup cid⟩ :: rest) (past : due ≤ s.station.clock) :
    Between settings scheduler (pending ++ [.call (.wake cid)]) now (s.perform 0) where
  path := .next (.perform 0) s here.path (by simp [paced, here.free])
  accurate := by simpa using here.accurate
  clock := by simpa [Station.now] using here.clock
  hub := by simpa using here.hub
  free := by simpa using here.free
  stage := by
    have found : s.station.agenda[0]? = some ⟨due, .wakeup cid⟩ := by rw [set]; rfl
    rw [s.perform_station 0 _ found, s.station.perform_rings due cid past]
    simpa using here.stage
  listens := by simpa using here.listens
  scheduler := by simpa using here.scheduler
  pending := by
    have found : s.station.agenda[0]? = some ⟨due, .wakeup cid⟩ := by rw [set]; rfl
    rw [s.perform_pending 0 _ found, s.station.perform_rings due cid past, here.listens, here.pending]
    rfl

theorem Between.called (answers : Answers) (call : Call)
    (here : Between settings scheduler (.call call :: pending) now s) (plain : Event.isShutdown (.call call) = false) :
    ∃ t, Between settings (scheduler.step (answers.at now) call).scheduler pending now t := by
  have queued : Contents.queued s.station.loop.inbox = .call call :: pending := here.pending
  have look : s.station.loop.look = (some (.call call),
      { s.station.loop with inbox := { s.station.loop.inbox with queued := pending } }) := by
    simp [Loop.look, here.stage, Channel.plain, Contents.receive, queued, plain]
  have advanced : s.station.loop.advance (answers.at now) = ({ s.station.loop with
      scheduler := (scheduler.step (answers.at now) call).scheduler
      inbox := { s.station.loop.inbox with queued := pending } },
      (scheduler.step (answers.at now) call).effects.map .effect) := by
    simp [Loop.advance, look, Scheduler.attend, here.scheduler]
  have permitted : s.paced (.work (answers.at now)) = true := by simp [paced, Answers.at, here.clock]
  have worked := work_eq s (answers.at now) here.free
  rw [advanced] at worked
  obtain ⟨t, path, done, serves, hub, loop⟩ := serve_all settings (s.act (.work (answers.at now)))
    (.next _ s here.path permitted) ((s.work_hub _).trans here.hub)
  rw [act, worked] at serves loop
  refine ⟨t, path, ?_, ?_, hub, done, ?_, ?_, ?_, ?_⟩
  · rw [serves.timer]
    exact here.accurate
  · rw [Station.now, serves.clock]
    exact here.clock
  · rw [loop]
    exact here.stage
  · rw [loop]
    exact here.listens
  · rw [loop]
  · rw [Shift.pending, loop]
    rfl

end Shift
end Ranging

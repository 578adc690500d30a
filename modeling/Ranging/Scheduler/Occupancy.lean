import Ranging.Scheduler.Retirement

-- How operations get into the hardware slot, one at a time, from the head of the queue.
namespace Ranging.Scheduler

-- The hardware has accepted: the uids are stamped, the wakeup is armed, the slot is taken.
def occupy (answers : Answers) (cid : CorrelationId) (op : Operation) (s : Scheduler) : Turn :=
  let now := answers.dispatchClock
  let due := now.after s.settings.hardwareTimeout
  let s := { s with
    ledger := s.ledger.record op.attribution now
    counters := { s.counters with dispatched := s.counters.dispatched + 1 }
    slot := .dispatched op }
  match s.deadline.arm cid due with
  | .ok deadline => .did { s with deadline := deadline } [.clock now, .arm due cid]
  | .error _ => .did s [.clock now]

-- Hands an operation over to the hardware under a fresh correlation id. One that has no peer to
-- range with is answered at once, and one that the hardware rejects has failed; neither takes the slot.
def dispatch (answers : Answers) (op : Operation) (s : Scheduler) : Turn :=
  let peers := op.hardwarePeers
  if peers.isEmpty then s.retire op (.delivered (correlate op.request op.translation []))
  else
    let cid := s.nextCorrelation
    let op := { op with correlation := some cid, state := .dispatched }
    let accepted := answers.accepts op.id cid peers
    (Turn.did { s with nextCorrelation := cid.next } [.submit op.id cid peers accepted]).andThen fun s =>
      if accepted then s.occupy answers cid op else s.retire op (.failed .hardwareRejected)

def start (answers : Answers) (op : Operation) (s : Scheduler) : Turn :=
  if op.needsTranslation then
    .did { s with slot := .resolving op } [.resolve op.requester.uid op.request.handles op.id]
  else s.dispatch answers op

-- `queue` is the scheduler's queue. Operations leave it from the front until one stays in the slot.
def fillFrom (answers : Answers) : List Operation → Scheduler → Turn
  | [], s => s.still
  | op :: rest, s =>
      if s.slot.isIdle && s.available then
        (({ s with queue := rest }).start answers op).andThen (fillFrom answers rest)
      else s.still

def fill (answers : Answers) (s : Scheduler) : Turn := fillFrom answers s.queue s

theorem occupy_queue (answers : Answers) (cid : CorrelationId) (op : Operation) (s : Scheduler) :
    (s.occupy answers cid op).scheduler.queue = s.queue := by
  unfold occupy
  dsimp only
  split <;> rfl

theorem occupy_available (answers : Answers) (cid : CorrelationId) (op : Operation) (s : Scheduler) :
    (s.occupy answers cid op).scheduler.available = s.available := by
  unfold occupy
  dsimp only
  split <;> rfl

theorem dispatch_queue (answers : Answers) (op : Operation) (s : Scheduler) :
    (s.dispatch answers op).scheduler.queue = s.queue := by
  unfold dispatch
  dsimp only
  split
  · rfl
  · rw [Turn.andThen_scheduler]
    split
    · exact occupy_queue _ _ _ _
    · rfl

@[simp] theorem dispatch_available (answers : Answers) (op : Operation) (s : Scheduler) :
    (s.dispatch answers op).scheduler.available = s.available := by
  unfold dispatch
  dsimp only
  split
  · rfl
  · rw [Turn.andThen_scheduler]
    split
    · exact occupy_available _ _ _ _
    · rfl

theorem start_queue (answers : Answers) (op : Operation) (s : Scheduler) :
    (s.start answers op).scheduler.queue = s.queue := by
  unfold start
  split
  · rfl
  · exact dispatch_queue answers op s

theorem start_available (answers : Answers) (op : Operation) (s : Scheduler) :
    (s.start answers op).scheduler.available = s.available := by
  unfold start
  split
  · rfl
  · exact dispatch_available answers op s

theorem fillFrom_available (answers : Answers) (ops : List Operation) (s : Scheduler) :
    (fillFrom answers ops s).scheduler.available = s.available := by
  induction ops generalizing s with
  | nil => rfl
  | cons op rest ih =>
      unfold fillFrom
      split
      · exact (ih _).trans (start_available answers op _)
      · rfl

@[simp] theorem fill_available (answers : Answers) (s : Scheduler) :
    (s.fill answers).scheduler.available = s.available := fillFrom_available answers s.queue s

theorem fillFrom_free (answers : Answers) (op : Operation) (rest : List Operation) (s : Scheduler)
    (idle : s.slot = .idle) (available : s.available = true) : fillFrom answers (op :: rest) s =
      (({ s with queue := rest }).start answers op).andThen (fillFrom answers rest) := by
  rw [fillFrom, if_pos (Bool.and_eq_true_iff.2 ⟨s.slot.isIdle_iff.2 idle, available⟩)]

theorem fillFrom_busy (answers : Answers) (ops : List Operation) (s : Scheduler) (busy : s.slot ≠ .idle) :
    fillFrom answers ops s = s.still := by
  cases ops with
  | nil => rfl
  | cons op rest =>
      rw [fillFrom, if_neg]
      exact fun free => busy (s.slot.isIdle_iff.1 (Bool.and_eq_true_iff.1 free).1)

theorem andThen_fillFrom_busy (answers : Answers) (t : Turn) (ops : List Operation)
    (busy : t.scheduler.slot ≠ .idle) : t.andThen (fillFrom answers ops) = t := by
  have still := fillFrom_busy answers ops t.scheduler busy
  simp [Turn.andThen, still, Scheduler.still]

theorem andThen_fill_busy (answers : Answers) (t : Turn) (busy : t.scheduler.slot ≠ .idle) :
    t.andThen (fill answers) = t := andThen_fillFrom_busy answers t t.scheduler.queue busy

theorem fillFrom_idle (answers : Answers) (ops : List Operation) (s : Scheduler) (queue : s.queue = ops)
    (available : s.available = true) (idle : (fillFrom answers ops s).scheduler.slot = .idle) :
    (fillFrom answers ops s).scheduler.queue = [] := by
  induction ops generalizing s with
  | nil => exact queue
  | cons op rest ih =>
      unfold fillFrom at idle ⊢
      split at idle
      · next ready =>
          rw [if_pos ready]
          exact ih _ (start_queue answers op _) ((start_available answers op _).trans available) idle
      · next busy => exact absurd (Bool.and_eq_true_iff.2 ⟨s.slot.isIdle_iff.2 idle, available⟩) busy

end Ranging.Scheduler

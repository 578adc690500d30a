import Ranging.Scheduler.State

-- How operations leave the scheduler. Every end goes through `retire`, the only place where a
-- submitter gets a reply.
namespace Ranging.Scheduler

def reply (op : Operation) : Outcome → List Effect
  | .delivered measurements => [.results op.id op.replyTo measurements]
  | .failed kind => [.failure op.id op.replyTo kind.code]
  | .withdrawn => []

-- Before the reply, the requester's life is let go if nothing else depends on it.
def retire (op : Operation) (outcome : Outcome) (s : Scheduler) : Turn :=
  let detached := s.registry.detach op.token op.id
  ⟨{ s with registry := detached.2, counters := s.counters.countOutcome outcome },
   (if detached.1 then [.unregister op.token] else []) ++ reply op outcome, [(op, outcome)]⟩

def retireAll : List Operation → Outcome → Scheduler → Turn
  | [], _, s => s.still
  | op :: rest, outcome, s => (s.retire op outcome).andThen (retireAll rest outcome)

def disarm (s : Scheduler) : Turn :=
  match s.deadline.armedFor? with
  | some cid => .did { s with deadline := .unarmed } [.disarm cid]
  | none => s.still

-- Empties the slot. What the hardware works on is called off there: the wakeup first, then the
-- dispatch itself, with the peers it was submitted with.
def vacate (s : Scheduler) : Turn :=
  match s.slot with
  | .idle => s.still
  | .resolving _ => ({ s with slot := .idle }).still
  | .dispatched op =>
      ({ s with slot := .idle }).disarm.andThen fun s =>
        .did s (op.correlation.toList.map fun cid => .cancel cid op.hardwarePeers)

def retireActive (outcome : Outcome) (s : Scheduler) : Turn :=
  match s.slot.operation? with
  | none => s.still
  | some op => s.vacate.andThen (retire op outcome)

-- The operation in the slot ends first, then the queue in its order.
def failAll (kind : FailureKind) (s : Scheduler) : Turn :=
  (s.retireActive (.failed kind)).andThen fun s => retireAll s.queue (.failed kind) { s with queue := [] }

theorem retire_effects (op : Operation) (outcome : Outcome) (s : Scheduler) :
    (s.retire op outcome).effects = reply op outcome ∨
    (s.retire op outcome).effects = .unregister op.token :: reply op outcome := by
  cases last : (s.registry.detach op.token op.id).1 with
  | false => exact .inl (by simp [retire, last])
  | true => exact .inr (by simp [retire, last])

theorem retire_clerical (op : Operation) (outcome : Outcome) (s : Scheduler) :
    (s.retire op outcome).effects.all Effect.isClerical = true := by
  have told : (reply op outcome).all Effect.isClerical = true := by cases outcome <;> rfl
  rcases s.retire_effects op outcome with said | said
  · rw [said]
    exact told
  · rw [said]
    exact told

theorem retireAll_queue (ops : List Operation) (outcome : Outcome) (s : Scheduler) :
    (retireAll ops outcome s).scheduler.queue = s.queue := by
  induction ops generalizing s with
  | nil => rfl
  | cons op rest ih => exact ih _

theorem retireAll_slot (ops : List Operation) (outcome : Outcome) (s : Scheduler) :
    (retireAll ops outcome s).scheduler.slot = s.slot := by
  induction ops generalizing s with
  | nil => rfl
  | cons op rest ih => exact ih _

theorem disarm_queue (s : Scheduler) : s.disarm.scheduler.queue = s.queue := by
  unfold disarm
  split <;> rfl

theorem disarm_slot (s : Scheduler) : s.disarm.scheduler.slot = s.slot := by
  unfold disarm
  split <;> rfl

theorem vacate_queue (s : Scheduler) : s.vacate.scheduler.queue = s.queue := by
  cases slot : s.slot with
  | idle => simp [vacate, slot, still]
  | resolving op => simp [vacate, slot, still]
  | dispatched op => simp [vacate, slot, disarm_queue]

theorem vacate_slot (s : Scheduler) : s.vacate.scheduler.slot = .idle := by
  cases slot : s.slot with
  | idle => simp [vacate, slot, still]
  | resolving op => simp [vacate, slot, still]
  | dispatched op => simp [vacate, slot, disarm_slot]

theorem retireActive_queue (outcome : Outcome) (s : Scheduler) :
    (s.retireActive outcome).scheduler.queue = s.queue := by
  unfold retireActive
  split
  · rfl
  · exact vacate_queue s

theorem retireActive_slot (outcome : Outcome) (s : Scheduler) : (s.retireActive outcome).scheduler.slot = .idle := by
  cases occupied : s.slot.operation? with
  | none =>
      cases slot : s.slot <;> simp [slot, Slot.operation?] at occupied
      simp [retireActive, slot, Slot.operation?, still]
  | some op =>
      simp only [retireActive, occupied]
      exact vacate_slot s

@[simp] theorem retire_available (op : Operation) (outcome : Outcome) (s : Scheduler) :
    (s.retire op outcome).scheduler.available = s.available := rfl

@[simp] theorem retireAll_available (ops : List Operation) (outcome : Outcome) (s : Scheduler) :
    (retireAll ops outcome s).scheduler.available = s.available := by
  induction ops generalizing s with
  | nil => rfl
  | cons op rest ih => exact ih _

@[simp] theorem disarm_available (s : Scheduler) : s.disarm.scheduler.available = s.available := by
  unfold disarm
  split <;> rfl

theorem vacate_available (s : Scheduler) : s.vacate.scheduler.available = s.available := by
  unfold vacate
  split
  · rfl
  · rfl
  · exact disarm_available _

@[simp] theorem retireActive_available (outcome : Outcome) (s : Scheduler) :
    (s.retireActive outcome).scheduler.available = s.available := by
  unfold retireActive
  split
  · rfl
  · exact vacate_available s

theorem failAll_queue (kind : FailureKind) (s : Scheduler) : (s.failAll kind).scheduler.queue = [] :=
  retireAll_queue _ _ _

theorem failAll_slot (kind : FailureKind) (s : Scheduler) : (s.failAll kind).scheduler.slot = .idle :=
  (retireAll_slot _ _ _).trans (retireActive_slot _ s)

@[simp] theorem failAll_available (kind : FailureKind) (s : Scheduler) :
    (s.failAll kind).scheduler.available = s.available :=
  (retireAll_available _ _ _).trans (retireActive_available _ s)

end Ranging.Scheduler

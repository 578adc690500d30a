import Ranging.Scheduler.Occupancy

-- What is asked before an operation may join the queue.
namespace Ranging

-- What a client hands in. Without an attribution the caller's own uid is billed.
structure Submission where
  requester : Requester
  attribution : Option Attribution
  request : Request
  token : LivenessToken
  replyTo : ReplyTo
deriving DecidableEq

def Submission.payers (sub : Submission) : Attribution := sub.attribution.getD (.single sub.requester.uid)

namespace Scheduler

def liveBilledTo (s : Scheduler) (uid : Uid) : Nat := s.live.countP fun op => uid ∈ op.attribution

def isFull (s : Scheduler) (a : Attribution) : Bool :=
  a.uids.all fun uid => s.settings.maxQueued ≤ s.liveBilledTo uid

-- The checks in their order; the first that fails decides, and later ones ask nothing.
def verdict (answers : Answers) (op : Operation) (s : Scheduler) : Option FailureKind × List Effect :=
  let granted := answers.permits op.requester
  let asked := [Effect.permission op.requester granted]
  if !granted then (some .permissionDenied, asked)
  else if !s.available then (some .resourceUnavailable, asked)
  else if s.isFull op.attribution then (some .queueFull, asked)
  else
    let foreground := answers.foreground op.requester.uid
    let asked := asked ++ [.importance op.requester.uid foreground]
    if s.ledger.allows op.attribution foreground op.submittedAt then (none, asked)
    else (some .throttled, asked)

def operationOf (answers : Answers) (sub : Submission) (s : Scheduler) : Operation :=
  .new s.nextOperation sub.requester (sub.attribution.getD (.single sub.requester.uid)) sub.request sub.token
    sub.replyTo answers.admissionClock

-- Joins the queue at its end. Its requester's life is watched from here on.
def enqueue (op : Operation) (s : Scheduler) : Turn :=
  let attached := s.registry.attach op.token op.id
  .did { s with registry := attached.2, queue := s.queue ++ [op] }
    (if attached.1 then [.register op.token] else [])

def accept (answers : Answers) (sub : Submission) (s : Scheduler) : Turn :=
  let op := s.operationOf answers sub
  let s := { s with
    nextOperation := s.nextOperation.next
    counters := { s.counters with submitted := s.counters.submitted + 1 } }
  let decided := s.verdict answers op
  (Turn.did s (.clock op.submittedAt :: decided.2)).andThen fun s =>
    match decided.1 with
    | some kind => s.retire op (.failed kind)
    | none => (s.enqueue op).andThen (fill answers)

-- A malformed request is refused before anything is asked or counted.
def submit (answers : Answers) (sub : Submission) (s : Scheduler) : Except CallError (OperationId × Turn) :=
  match sub.request.validate s.settings.maxPeers with
  | .error e => .error e
  | .ok () => .ok (s.nextOperation, s.accept answers sub)

theorem not_isFull (s : Scheduler) (a : Attribution) (room : s.isFull a = false) :
    ∃ uid ∈ a, s.liveBilledTo uid < s.settings.maxQueued := by
  obtain ⟨uid, billed, below⟩ := List.all_eq_false.1 room
  exact ⟨uid, billed, by simpa using below⟩

theorem verdict_available (answers : Answers) (op : Operation) (s : Scheduler)
    (passed : (s.verdict answers op).1 = none) : s.available = true := by
  cases available : s.available with
  | true => rfl
  | false =>
      unfold verdict at passed
      cases granted : answers.permits op.requester <;> simp [granted, available] at passed

theorem verdict_passed (answers : Answers) (op : Operation) (s : Scheduler)
    (passed : (s.verdict answers op).1 = none) :
    s.isFull op.attribution = false ∧
    s.ledger.allows op.attribution (answers.foreground op.requester.uid) op.submittedAt = true ∧
    (s.verdict answers op).2 = [.permission op.requester (answers.permits op.requester),
      .importance op.requester.uid (answers.foreground op.requester.uid)] := by
  unfold verdict at passed ⊢
  dsimp only at passed ⊢
  split at passed
  · cases passed
  · next granted =>
      rw [if_neg granted]
      split at passed
      · cases passed
      · next available =>
          rw [if_neg available]
          split at passed
          · cases passed
          · next room =>
              rw [if_neg room]
              split at passed
              · next allowed =>
                  rw [if_pos allowed]
                  exact ⟨Bool.eq_false_iff.2 room, allowed, rfl⟩
              · cases passed

theorem verdict_asks (answers : Answers) (op : Operation) (s : Scheduler) :
    (s.verdict answers op).2 = [.permission op.requester (answers.permits op.requester)] ∨
    (s.verdict answers op).2 = [.permission op.requester (answers.permits op.requester),
      .importance op.requester.uid (answers.foreground op.requester.uid)] := by
  unfold verdict
  dsimp only
  split
  · exact .inl rfl
  · split
    · exact .inl rfl
    · split
      · exact .inl rfl
      · right
        split <;> rfl

theorem verdict_aside (answers : Answers) (op : Operation) (s : Scheduler) :
    (s.verdict answers op).2.all Effect.isAside = true := by
  rcases verdict_asks answers op s with asked | asked <;> rw [asked] <;> rfl

theorem enqueue_aside (op : Operation) (s : Scheduler) : (s.enqueue op).effects.all Effect.isAside = true := by
  unfold enqueue
  dsimp only
  split
  · rfl
  · rfl

theorem enqueue_clerical (op : Operation) (s : Scheduler) : (s.enqueue op).effects.all Effect.isClerical = true := by
  unfold enqueue
  dsimp only
  split
  · rfl
  · rfl

theorem accept_available (answers : Answers) (sub : Submission) (s : Scheduler) :
    (s.accept answers sub).scheduler.available = s.available := by
  unfold accept
  dsimp only
  split
  · rfl
  · exact fill_available answers _

end Scheduler
end Ranging

-- What lies between those who send and the one who receives. How a channel is made is left open;
-- all that counts is how it behaves.
namespace Ranging

inductive Received (σ α : Type)
  -- nothing is there, and something may still come
  | waiting
  -- nothing is there, and nothing will come
  | ended
  | item (item : α) (rest : σ)

structure Channel (α : Type) where
  State : Type
  -- open, with one sender
  fresh : State
  -- fails once the channel is closed
  send : α → State → Option State
  addSender : State → State
  dropSender : State → State
  receive : State → Received State α
  -- does not wait for anything to come
  tryReceive : State → Option (α × State)
  -- what was sent before can still be received
  close : State → State

structure Contents (α : Type) where
  queued : List α
  isOpen : Bool
  senders : Nat

-- An unbounded channel that keeps the order and loses nothing. Nobody ever waits to send, and the
-- receiver waits only while somebody is left who can send.
structure Channel.Faithful {α : Type} (c : Channel α) where
  view : c.State → Contents α
  fresh : view c.fresh = ⟨[], true, 1⟩
  send_open : ∀ item s, (view s).isOpen = true →
    ∃ t, c.send item s = some t ∧ view t = { view s with queued := (view s).queued ++ [item] }
  send_closed : ∀ item s, (view s).isOpen = false → c.send item s = none
  addSender : ∀ s, view (c.addSender s) = { view s with senders := (view s).senders + 1 }
  dropSender : ∀ s, view (c.dropSender s) = { view s with senders := (view s).senders - 1 }
  receive_item : ∀ s item rest, (view s).queued = item :: rest →
    ∃ t, c.receive s = .item item t ∧ view t = { view s with queued := rest }
  receive_waiting : ∀ s, (view s).queued = [] → (view s).isOpen = true → (view s).senders ≠ 0 → c.receive s = .waiting
  receive_ended : ∀ s, (view s).queued = [] → (view s).senders = 0 → c.receive s = .ended
  tryReceive_item : ∀ s item rest, (view s).queued = item :: rest →
    ∃ t, c.tryReceive s = some (item, t) ∧ view t = { view s with queued := rest }
  tryReceive_nothing : ∀ s, (view s).queued = [] → c.tryReceive s = none
  close : ∀ s, view (c.close s) = { view s with isOpen := false }

namespace Contents
variable {α : Type}

def send (item : α) (c : Contents α) : Option (Contents α) :=
  if c.isOpen then some { c with queued := c.queued ++ [item] } else none

def receive (c : Contents α) : Received (Contents α) α :=
  match c.queued with
  | item :: rest => .item item { c with queued := rest }
  | [] => if c.isOpen && c.senders != 0 then .waiting else .ended

def tryReceive (c : Contents α) : Option (α × Contents α) :=
  match c.queued with
  | item :: rest => some (item, { c with queued := rest })
  | [] => none

end Contents

-- The channel that is nothing but its contents.
def Channel.plain (α : Type) : Channel α where
  State := Contents α
  fresh := ⟨[], true, 1⟩
  send := Contents.send
  addSender := fun c => { c with senders := c.senders + 1 }
  dropSender := fun c => { c with senders := c.senders - 1 }
  receive := Contents.receive
  tryReceive := Contents.tryReceive
  close := fun c => { c with isOpen := false }

def Channel.Faithful.plain (α : Type) : (Channel.plain α).Faithful where
  view := id
  fresh := rfl
  send_open := fun item (s : Contents α) (isOpen : s.isOpen = true) =>
    ⟨{ s with queued := s.queued ++ [item] }, if_pos isOpen, rfl⟩
  send_closed := fun item (s : Contents α) (closed : s.isOpen = false) => if_neg (by simp [closed])
  addSender := fun _ => rfl
  dropSender := fun _ => rfl
  receive_item := fun (s : Contents α) item rest (queued : s.queued = item :: rest) =>
    ⟨{ s with queued := rest }, by simp [Channel.plain, Contents.receive, queued], rfl⟩
  receive_waiting := fun (s : Contents α) (queued : s.queued = []) (isOpen : s.isOpen = true)
    (left : s.senders ≠ 0) => by
    simp [Channel.plain, Contents.receive, queued, isOpen, left]
  receive_ended := fun (s : Contents α) (queued : s.queued = []) (left : s.senders = 0) => by
    simp [Channel.plain, Contents.receive, queued, left]
  tryReceive_item := fun (s : Contents α) item rest (queued : s.queued = item :: rest) =>
    ⟨{ s with queued := rest }, by simp [Channel.plain, Contents.tryReceive, queued], rfl⟩
  tryReceive_nothing := fun (s : Contents α) (queued : s.queued = []) => by
    simp [Channel.plain, Contents.tryReceive, queued]
  close := fun _ => rfl

end Ranging

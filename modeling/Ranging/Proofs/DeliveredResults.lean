import Ranging.Proofs.ReplyCounts
import Ranging.Proofs.CorrelationMarks
import Ranging.Proofs.Lookup
import Ranging.Proofs.RoutineEffects

-- What a submitter is told was measured. It is told about its own peers in its own order, from the one
-- report on its own dispatch, and only while it is allowed to know.
namespace Ranging

-- The address that stands for a peer, where a handle stands for what the book says.
def Peer.addressIn (book : Option AddressBook) : Peer → Option MacAddress
  | .address mac => some mac
  | .handle k => book.bind fun known => known.get? k

theorem fits_address (op : Operation) (state : Lookup) (fits : state.Fits op) (peer : Peer)
    (named : peer ∈ op.request.peers) : peer.address? op.translation = peer.addressIn state.book? := by
  cases peer with
  | address mac => rfl
  | handle k =>
      cases state with
      | unasked =>
          rw [show op.translation = none from fits]
          rfl
      | pending => exact absurd fits id
      | answered book =>
          rw [show op.translation = some (.ofAnswer op.request book) from fits]
          simp [Peer.address?, Peer.addressIn, Lookup.book?, Translation.addressOf?_ofAnswer, named]

theorem correlate_nothing (r : Request) (t : Option Translation) : correlate r t [] = r.peers.map .failed := by
  refine List.map_congr_left fun peer _ => ?_
  rw [measurementOf]
  cases peer.address? t <;> rfl

namespace Scheduler
variable (answers : Answers) (s : Scheduler)

end Scheduler

variable (settings : Settings) (h : History)

theorem live_submission (path : History.Reached settings h) (op : Operation) (live : op ∈ h.scheduler.live) :
    ∃ sub, (op.id, sub) ∈ h.admitted ∧ sub.requester = op.requester ∧ sub.request = op.request ∧
      sub.replyTo = op.replyTo := by
  have listed := (reached_tickets settings h path).mem_iff.1 (List.mem_append_right _ (List.mem_map_of_mem live))
  obtain ⟨a, admitted, same⟩ := List.mem_map.1 listed
  obtain ⟨id, sub⟩ := a
  obtain rfl : id = op.id := congrArg Prod.fst same
  exact ⟨sub, admitted, congrArg (fun ticket => ticket.2.requester) same,
    congrArg (fun ticket => ticket.2.request) same, congrArg (fun ticket => ticket.2.replyTo) same⟩

end Ranging

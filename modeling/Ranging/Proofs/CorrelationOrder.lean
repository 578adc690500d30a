import Ranging.Proofs.CorrelationMarks
import Ranging.Station.Shift

-- Which names the hardware's submissions have. They are given one after the other and come again after 2^32 of
-- them, and there are no more submissions than operations that were let in.
namespace Ranging

theorem last_kept (d e : MidCall)
    (last : ∀ flight ∈ d.scheduler.slot.flying, d.submissions.getLast?.map Prod.snd = some flight.1) (move : Move d e) :
    ∀ flight ∈ e.scheduler.slot.flying, e.submissions.getLast?.map Prod.snd = some flight.1 := by
  have same (wire : e.wire = d.wire) : e.submissions = d.submissions := by rw [History.submissions, wire]; rfl
  cases move_traffic d e move with
  | quiet wire slot => rw [same wire, slot]; exact last
  | joined wire slot => rw [same wire, slot]; exact last
  | stale cid away wire slot =>
      rw [submissions_said d e _ wire, slot]
      simpa [Signal.submission?] using last
  | landed cid peers before wire slot => simp [slot]
  | recalled cid peers before wire slot => simp [slot]
  | submitted op accepted poised reachable before wire slot =>
      rw [submissions_said d e _ wire, slot]
      cases accepted <;> simp [Signal.submission?]

namespace History
variable (settings : Settings) (h : History) (answers : Answers) (call : Call)

def waiting (h : History) : Nat := h.scheduler.slot.unserved.length + h.scheduler.queue.length

theorem reached_last (path : Reached settings h) :
    ∀ flight ∈ h.scheduler.slot.flying, h.submissions.getLast?.map Prod.snd = some flight.1 :=
  reached_law h settings
    (fun d => ∀ flight ∈ d.scheduler.slot.flying, d.submissions.getLast?.map Prod.snd = some flight.1)
    (by simp [MidCall.clear, fresh, Scheduler.fresh, Slot.flying]) (fun d e _ last move => last_kept d e last move) path

end History

end Ranging

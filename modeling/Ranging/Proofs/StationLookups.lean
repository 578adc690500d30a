import Ranging.Proofs.ResolverQuestions
import Ranging.Proofs.StationTimer

-- The resolver's tasks against the questions of the scheduler. Each question is carried out as one lookup, each
-- lookup is answered once, when it ends or when its time is over, and whoever waits in the slot has no answer yet
-- or has it on the channel.
namespace Ranging

def Task.seeks (id : OperationId) (task : Task) : Bool :=
  match task.job with
  | .lookup operation => decide (operation = id)
  | .answer operation _ => decide (operation = id)
  | _ => false

def Event.answers (id : OperationId) : Event → Bool
  | .call (.resolved operation _) => decide (operation = id)
  | _ => false

namespace History
variable (settings : Settings) (h : History) (id : OperationId)

end History

namespace Agenda
variable (id : OperationId)

def seeking (id : OperationId) (a : Agenda) : List Task := a.filter (Task.seeks id)

end Agenda

namespace Station
variable (s : Station) (id : OperationId)

end Station

namespace Shift
variable (settings : Settings) (id : OperationId) (s t : Shift)

def seeking (id : OperationId) (s : Shift) : List Task := s.station.agenda.seeking id

def sought (id : OperationId) (s : Shift) : List (OperationId × Time × Resolver) :=
  s.lookups.filter fun lookup => decide (lookup.1 = id)

def told (id : OperationId) (s : Shift) : List Event := s.posted.filter (Event.answers id)

-- How far the question about an operation's handles has come outside. An answer that the scheduler still waits
-- for is on the channel, if anybody listens there.
inductive LookupPhase : Prop where
  | never : (∀ effect ∈ s.done, effect.asks? ≠ some id) → s.seeking id = [] → s.sought id = [] → s.told id = [] →
      LookupPhase
  | ordered (question : Effect) : question.asks? = some id → (s.station.clock, .effect question) ∈ s.shown →
      s.seeking id = [⟨s.station.clock, .lookup id⟩] → s.sought id = [] → s.told id = [] → LookupPhase
  | begun (question : Effect) (since : Time) (r : Resolver) : question.asks? = some id →
      (since, .effect question) ∈ s.shown → since ≤ s.station.clock →
      s.seeking id =
        [⟨since + r.wait .exact settings.resolverTimeout, .answer id (r.told .exact settings.resolverTimeout)⟩] →
      s.sought id = [(id, since, r)] → s.told id = [] → LookupPhase
  | settled (question : Effect) (since : Time) (r : Resolver) : question.asks? = some id →
      (since, .effect question) ∈ s.shown → since + r.wait .exact settings.resolverTimeout ≤ s.station.clock →
      s.seeking id = [] → s.sought id = [(id, since, r)] →
      s.told id = [.call (.resolved id (r.told .exact settings.resolverTimeout))] →
      (s.station.loop.listens = true → lookup id s.history.log = .pending →
        .call (.resolved id (r.told .exact settings.resolverTimeout)) ∈ s.pending) → LookupPhase

theorem LookupPhase.extended (sought : LookupPhase settings id s) (shown : s.shown ⊆ t.shown)
    (unasked : (∀ effect ∈ s.done, effect.asks? ≠ some id) → ∀ effect ∈ t.done, effect.asks? ≠ some id)
    (clock : t.station.clock = s.station.clock) (seeking : t.seeking id = s.seeking id)
    (begun : t.sought id = s.sought id) (told : t.told id = s.told id)
    (heard : ∀ question book, question.asks? = some id → question ∈ s.done →
      (s.station.loop.listens = true → lookup id s.history.log = .pending → .call (.resolved id book) ∈ s.pending) →
      t.station.loop.listens = true → lookup id t.history.log = .pending → .call (.resolved id book) ∈ t.pending) :
    LookupPhase settings id t := by
  have done : ∀ since question, (since, .effect question) ∈ s.shown → question ∈ s.done := by
    intro since question listed
    exact List.mem_filterMap.2 ⟨.effect question, List.mem_map_of_mem listed, rfl⟩
  cases sought with
  | never nobody none unsought silent =>
      exact .never (unasked nobody) (seeking.trans none) (begun.trans unsought) (told.trans silent)
  | ordered question asks listed one unsought silent =>
      refine .ordered question asks ?_ (seeking.trans ?_) (begun.trans unsought) (told.trans silent)
      · rw [clock]
        exact shown listed
      · rw [clock]
        exact one
  | begun question since r asks listed past one under silent =>
      exact .begun question since r asks (shown listed) (clock ▸ past) (seeking.trans one) (begun.trans under)
        (told.trans silent)
  | settled question since r asks listed past none under once waits =>
      exact .settled question since r asks (shown listed) (clock ▸ past) (seeking.trans none) (begun.trans under)
        (told.trans once) (heard question _ asks (done since question listed) waits)

end Shift
end Ranging

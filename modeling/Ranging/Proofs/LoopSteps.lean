import Ranging.Proofs.Replay

-- What the loop does by itself, one thing after the other, and how the events that were sent are shared out
-- between the scheduler and the channel meanwhile.
namespace Ranging

-- All that the loop can do next, by what the channel holds and by the stage.
inductive LoopStep (contents : Contents Event) : Stage → Option Event → Stage → Contents Event → Prop
  | waiting : contents.queued = [] → contents.senders ≠ 0 → LoopStep contents .receiving none .receiving contents
  | unoccupied : contents.queued = [] → contents.senders = 0 → LoopStep contents .receiving none .stopping contents
  | told (rest : List Event) : contents.queued = .call .shutdown :: rest →
      LoopStep contents .receiving none .stopping { contents with queued := rest }
  | taken (event : Event) (rest : List Event) : contents.queued = event :: rest → event.isShutdown = false →
      LoopStep contents .receiving (some event) .receiving { contents with queued := rest }
  | shut : LoopStep contents .stopping (some (.call .shutdown)) .closing contents
  | closed : LoopStep contents .closing none .draining { contents with isOpen := false }
  | passed (rest : List Event) : contents.queued = .call .shutdown :: rest →
      LoopStep contents .draining none .draining { contents with queued := rest }
  | drained (event : Event) (rest : List Event) : contents.queued = event :: rest → event.isShutdown = false →
      LoopStep contents .draining (some event) .draining { contents with queued := rest }
  | finished : contents.queued = [] → LoopStep contents .draining none .ended contents
  | resting : LoopStep contents .ended none .ended contents

theorem LoopStep.shrinks (contents : Contents Event) (stage : Stage) (event : Option Event) (after : Stage)
    (rest : Contents Event) (loopStep : LoopStep contents stage event after rest) :
    rest.queued.length ≤ contents.queued.length := by
  cases loopStep with
  | told rest queued => simp [queued]
  | taken event rest queued plain => simp [queued]
  | passed rest queued => simp [queued]
  | drained event rest queued plain => simp [queued]
  | _ => exact Nat.le_refl _

theorem LoopStep.ended (contents : Contents Event) (event : Option Event) (after : Stage) (rest : Contents Event)
    (loopStep : LoopStep contents .ended event after rest) : after = .ended := by
  cases loopStep
  rfl

namespace Loop
variable {c : Channel Event} (f : c.Faithful) (l : Loop c)

theorem look_cases (isOpen : (f.view l.inbox).isOpen = l.stage.isOpen) :
    LoopStep (f.view l.inbox) l.stage l.look.1 l.look.2.stage (f.view l.look.2.inbox) := by
  obtain ⟨scheduler, inbox, stage, maxPeers⟩ := l
  cases stage with
  | receiving =>
      cases queued : (f.view inbox).queued with
      | nil =>
          by_cases left : (f.view inbox).senders = 0
          · simp only [look, f.receive_ended _ queued left]
            exact .unoccupied queued left
          · simp only [look, f.receive_waiting _ queued isOpen left]
            exact .waiting queued left
      | cons event rest =>
          obtain ⟨after, received, view⟩ := f.receive_item _ _ _ queued
          cases stop : event.isShutdown with
          | true =>
              obtain rfl := isShutdown_eq event stop
              simp only [look, received, stop, if_true, view]
              exact .told rest queued
          | false =>
              simp only [look, received, stop, Bool.false_eq_true, if_false, view]
              exact .taken event rest queued stop
  | stopping => exact .shut
  | closing =>
      simp only [look, f.close]
      exact .closed
  | draining =>
      cases queued : (f.view inbox).queued with
      | nil =>
          simp only [look, f.tryReceive_nothing _ queued]
          exact .finished queued
      | cons event rest =>
          obtain ⟨after, received, view⟩ := f.tryReceive_item _ _ _ queued
          cases stop : event.isShutdown with
          | true =>
              obtain rfl := isShutdown_eq event stop
              simp only [look, received, stop, if_true, view]
              exact .passed rest queued
          | false =>
              simp only [look, received, stop, Bool.false_eq_true, if_false, view]
              exact .drained event rest queued stop
  | ended => exact .resting

theorem look_aside : l.look.2.scheduler = l.scheduler ∧ l.look.2.maxPeers = l.maxPeers := by
  unfold look
  split
  · split
    · exact ⟨rfl, rfl⟩
    · exact ⟨rfl, rfl⟩
    · split <;> exact ⟨rfl, rfl⟩
  · exact ⟨rfl, rfl⟩
  · exact ⟨rfl, rfl⟩
  · split <;> exact ⟨rfl, rfl⟩
  · exact ⟨rfl, rfl⟩

theorem advance_cases (answers : Answers) :
    (l.look.1 = none ∧ l.advance answers = (l.look.2, [])) ∨
    ∃ event, l.look.1 = some event ∧ l.advance answers =
      ({ l.look.2 with scheduler := (l.scheduler.attend answers event).1 }, (l.scheduler.attend answers event).2) := by
  have aside := l.look_aside.1
  unfold advance
  generalize l.look = looked at aside ⊢
  obtain ⟨_ | event, turned⟩ := looked
  · exact .inl ⟨rfl, rfl⟩
  · exact .inr ⟨event, rfl, by rw [← aside]⟩

end Loop

def Stage.delay : Stage → Nat
  | .receiving => 2
  | .stopping => 2
  | .closing => 1
  | .draining => 0
  | .ended => 0

def Stage.steps : Stage → Nat
  | .receiving => 4
  | .stopping => 3
  | .closing => 2
  | .draining => 1
  | .ended => 0

-- How what was sent, what was attended to and what is on the channel belong together at each stage.
def Ordered (sent attended queued : List Event) : Stage → Prop
  | .receiving => sent = attended ++ queued ∧ attended.any Event.isShutdown = false
  | .stopping => script sent = attended ++ .call .shutdown :: later queued
  | .closing => script sent = attended ++ later queued
  | .draining => script sent = attended ++ later queued
  | .ended => script sent = attended ∧ queued = []

structure Linked (stage : Stage) (contents : Contents Event) (handles : Nat) (sent attended : List Event) : Prop where
  senders : contents.senders = handles
  isOpen : contents.isOpen = stage.isOpen
  behind : contents.queued <:+ sent
  ordered : Ordered sent attended contents.queued stage
  told : stage ≠ .receiving → sent.any Event.isShutdown = true ∨ handles = 0

namespace Linked
variable {stage : Stage} {contents : Contents Event} {handles : Nat} {sent attended : List Event}

-- Once the loop has been told to stop, only those send who could be heard by it.
theorem send (linked : Linked stage contents handles sent attended) (held : handles ≠ 0)
    (accepting : stage.isOpen = true) (event : Event) :
    Linked stage { contents with queued := contents.queued ++ [event] } handles (sent ++ [event]) attended := by
  have told : stage ≠ .receiving → sent.any Event.isShutdown = true := fun away => (linked.told away).resolve_right held
  have spread : later (contents.queued ++ [event]) = later contents.queued ++ later [event] := List.filter_append _ _
  refine ⟨linked.senders, linked.isOpen, ?_, ?_, ?_⟩
  · obtain ⟨taken, whole⟩ := linked.behind
    exact ⟨taken, by rw [← whole, List.append_assoc]⟩
  · have ordered := linked.ordered
    cases stage with
    | receiving => exact ⟨by rw [ordered.1, List.append_assoc], ordered.2⟩
    | stopping =>
        show script (sent ++ [event]) = attended ++ .call .shutdown :: later (contents.queued ++ [event])
        rw [script_snoc _ _ (told (by simp)), show script sent = _ from ordered, spread]
        simp
    | closing =>
        show script (sent ++ [event]) = attended ++ later (contents.queued ++ [event])
        rw [script_snoc _ _ (told (by simp)), show script sent = _ from ordered, spread]
        simp
    | draining => cases accepting
    | ended => cases accepting
  · intro away
    rw [List.any_append, told away]
    exact .inl rfl

theorem join (linked : Linked stage contents handles sent attended) (held : handles ≠ 0) :
    Linked stage { contents with senders := contents.senders + 1 } (handles + 1) sent attended := by
  refine ⟨congrArg (· + 1) linked.senders, linked.isOpen, linked.behind, linked.ordered, ?_⟩
  intro away
  exact .inl ((linked.told away).resolve_right held)

theorem leave (linked : Linked stage contents handles sent attended) (held : handles ≠ 0) :
    Linked stage { contents with senders := contents.senders - 1 } (handles - 1) sent attended := by
  refine ⟨congrArg (· - 1) linked.senders, linked.isOpen, linked.behind, linked.ordered, ?_⟩
  intro away
  exact .inl ((linked.told away).resolve_right held)

theorem step (linked : Linked stage contents handles sent attended) (event : Option Event) (after : Stage)
    (rest : Contents Event) (loopStep : LoopStep contents stage event after rest) :
    Linked after rest handles sent (attended ++ event.toList) := by
  obtain ⟨senders, isOpen, behind, ordered, told⟩ := linked
  have fewer : ∀ first others, contents.queued = first :: others → others <:+ sent := by
    intro first others queued
    exact (List.suffix_cons first others).trans (queued ▸ behind)
  cases loopStep with
  | waiting queued left => exact ⟨senders, isOpen, behind, by simpa using ordered, told⟩
  | unoccupied queued gone =>
      obtain ⟨whole, untold⟩ := ordered
      refine ⟨senders, isOpen, behind, ?_, fun _ => .inr (senders.symm.trans gone)⟩
      rw [queued, List.append_nil] at whole
      have scripted := script_append attended [] untold
      simpa [Ordered, queued, whole, later, script] using scripted
  | told others queued =>
      obtain ⟨whole, untold⟩ := ordered
      rw [queued] at whole
      refine ⟨senders, isOpen, fewer _ _ queued, ?_, fun _ => .inl (by simp [whole, Event.isShutdown])⟩
      simpa [Ordered, whole] using script_told attended others untold
  | taken event others queued plain =>
      obtain ⟨whole, untold⟩ := ordered
      refine ⟨senders, isOpen, fewer _ _ queued, ⟨?_, ?_⟩, told⟩
      · simp [whole, queued]
      · simp [untold, plain]
  | shut => exact ⟨senders, isOpen, behind, by simpa [Ordered] using ordered, fun _ => told (by simp)⟩
  | closed => exact ⟨senders, rfl, behind, by simpa [Ordered] using ordered, fun _ => told (by simp)⟩
  | passed others queued =>
      refine ⟨senders, isOpen, fewer _ _ queued, ?_, told⟩
      simpa [Ordered, queued, later, Event.isShutdown] using ordered
  | drained event others queued plain =>
      refine ⟨senders, isOpen, fewer _ _ queued, ?_, told⟩
      simpa [Ordered, queued, later, plain] using ordered
  | finished queued =>
      refine ⟨senders, isOpen, behind, ⟨?_, queued⟩, fun _ => told (by simp)⟩
      simpa [Ordered, queued, later] using ordered
  | resting => exact ⟨senders, isOpen, behind, by simpa using ordered, told⟩

theorem picked {α : Type} (linked : Linked stage contents handles sent attended) (pick : Event → Option α)
    (deaf : pick (.call .shutdown) = none) :
    attended.filterMap pick ++ contents.queued.filterMap pick = sent.filterMap pick := by
  have ordered := linked.ordered
  cases stage with
  | receiving => rw [ordered.1, List.filterMap_append]
  | stopping =>
      rw [← script_filterMap pick deaf sent, show script sent = _ from ordered]
      simp [List.filterMap_append, deaf, later_filterMap pick deaf]
  | closing =>
      rw [← script_filterMap pick deaf sent, show script sent = _ from ordered, List.filterMap_append,
        later_filterMap pick deaf]
  | draining =>
      rw [← script_filterMap pick deaf sent, show script sent = _ from ordered, List.filterMap_append,
        later_filterMap pick deaf]
  | ended =>
      rw [← script_filterMap pick deaf sent, ordered.1, ordered.2]
      exact List.append_nil _

theorem counted (linked : Linked stage contents handles sent attended) (kind : Event → Bool)
    (deaf : kind (.call .shutdown) = false) :
    attended.countP kind + contents.queued.countP kind = sent.countP kind := by
  have picked := linked.picked (Option.guard fun event => kind event) (by simp [deaf])
  rw [List.filterMap_eq_filter] at picked
  simpa [List.countP_eq_length_filter] using congrArg List.length picked

theorem scripted (linked : Linked stage contents handles sent attended) : attended <+: script sent := by
  have ordered := linked.ordered
  cases stage with
  | receiving =>
      rw [ordered.1, script_append _ _ ordered.2]
      exact List.prefix_append _ _
  | ended => exact ordered.1 ▸ List.prefix_rfl
  | _ =>
      rw [show script sent = _ from ordered]
      exact List.prefix_append _ _

theorem cause (linked : Linked stage contents handles sent attended) (stopped : attended.any Event.isShutdown = true) :
    sent.any Event.isShutdown = true ∨ handles = 0 := by
  refine linked.told ?_
  rintro rfl
  rw [linked.ordered.2] at stopped
  cases stopped

-- How far the first `many` events are from having been taken.
theorem nearer (linked : Linked stage contents handles sent attended) (event : Option Event) (after : Stage)
    (rest : Contents Event) (loopStep : LoopStep contents stage event after rest) (many : Nat)
    (within : many ≤ sent.length) :
    many ≤ sent.length - rest.queued.length ∨
      many - (sent.length - rest.queued.length) + after.delay <
        many - (sent.length - contents.queued.length) + stage.delay := by
  have fits := linked.behind.length_le
  cases loopStep with
  | waiting queued left => exact .inl (by simp [queued, within])
  | unoccupied queued gone => exact .inl (by simp [queued, within])
  | told others queued =>
      simp only [queued, List.length_cons, Stage.delay] at fits ⊢
      omega
  | taken event others queued plain =>
      simp only [queued, List.length_cons, Stage.delay] at fits ⊢
      omega
  | shut => exact .inr (by simp [Stage.delay])
  | closed => exact .inr (by simp [Stage.delay])
  | passed others queued =>
      simp only [queued, List.length_cons, Stage.delay] at fits ⊢
      omega
  | drained event others queued plain =>
      simp only [queued, List.length_cons, Stage.delay] at fits ⊢
      omega
  | finished queued => exact .inl (by simp [queued, within])
  | resting => exact .inl (by simp [linked.ordered.2, within])

theorem ending (linked : Linked stage contents handles sent attended) (event : Option Event) (after : Stage)
    (rest : Contents Event) (loopStep : LoopStep contents stage event after rest)
    (due : sent.any Event.isShutdown = true ∨ handles = 0) :
    after = .ended ∨ rest.queued.length + after.steps < contents.queued.length + stage.steps := by
  cases loopStep with
  | waiting queued left =>
      obtain ⟨whole, untold⟩ := linked.ordered
      rw [queued, List.append_nil] at whole
      rcases due with told | gone
      · rw [whole, untold] at told
        cases told
      · exact absurd (linked.senders.trans gone) left
  | unoccupied queued gone => exact .inr (by simp [Stage.steps])
  | told others queued => exact .inr (by simp [queued, Stage.steps])
  | taken event others queued plain => exact .inr (by simp [queued])
  | shut => exact .inr (by simp [Stage.steps])
  | closed => exact .inr (by simp [Stage.steps])
  | passed others queued => exact .inr (by simp [queued])
  | drained event others queued plain => exact .inr (by simp [queued])
  | finished queued => exact .inl rfl
  | resting => exact .inl rfl

end Linked

end Ranging

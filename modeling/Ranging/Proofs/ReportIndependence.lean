import Ranging.Proofs.CorrelationMarks
import Ranging.Proofs.Audit

-- What was measured is handed on to whoever asked for it, and decides nothing else. Two runs that differ in
-- the reports alone go the same way, and what they show differs only inside the replies to those reports.
namespace Ranging

-- As it looks to somebody who may not read what was measured: whom a reply is for, and about which peers.
def Effect.closed : Effect → Effect
  | .results operation replyTo measurements =>
      .results operation replyTo (measurements.map fun measurement => .failed measurement.peer)
  | other => other

def Call.closed : Call → Call
  | .measured cid _ => .measured cid []
  | other => other

theorem closed_cases (call other : Call) (same : call.closed = other.closed) :
    call = other ∨ ∃ cid report twin, call = .measured cid report ∧ other = .measured cid twin := by
  by_cases equal : call = other
  · exact .inl equal
  · right
    cases call with
    | measured cid report =>
        cases other with
        | measured _ twin =>
            cases same
            exact ⟨cid, report, twin, rfl, rfl⟩
        | _ => cases same
    | _ =>
        cases other <;> cases same
        exact absurd rfl equal

structure Turn.Alike (t u : Turn) : Prop where
  scheduler : u.scheduler = t.scheduler
  effects : u.effects.map Effect.closed = t.effects.map Effect.closed

namespace Turn.Alike

theorem refl (t : Turn) : t.Alike t := ⟨rfl, rfl⟩

theorem andThen (t u : Turn) (next : Scheduler → Turn) (alike : t.Alike u) :
    (t.andThen next).Alike (u.andThen next) := by
  refine ⟨?_, ?_⟩
  · rw [Turn.andThen_scheduler, Turn.andThen_scheduler, alike.scheduler]
  · simp only [Turn.andThen_effects, List.map_append, alike.effects, alike.scheduler]

theorem second (t : Turn) (next other : Scheduler → Turn) (alike : (next t.scheduler).Alike (other t.scheduler)) :
    (t.andThen next).Alike (t.andThen other) := by
  refine ⟨alike.scheduler, ?_⟩
  simp only [Turn.andThen_effects, List.map_append, alike.effects]

end Turn.Alike

theorem correlate_closed (r : Request) (t : Option Translation) (report : List Reading) :
    (correlate r t report).map (fun measurement => Measurement.failed measurement.peer) =
      r.peers.map Measurement.failed := by
  rw [← correlate_peers r t report, List.map_map]
  rfl

theorem correlate_within (r : Request) (t : Option Translation) (report : List Reading) :
    correlate r t (report.filter fun reading => decide (reading.address ∈ r.hardwarePeers t)) =
      correlate r t report := by
  refine List.map_congr_left fun peer named => ?_
  unfold measurementOf
  cases found : peer.address? t with
  | none => rfl
  | some mac =>
      have ranged : mac ∈ r.hardwarePeers t := List.mem_filterMap.2 ⟨peer, named, found⟩
      have first : (fun reading : Reading =>
          decide (decide (reading.address ∈ r.hardwarePeers t) = true ∧ decide (reading.address = mac) = true)) =
          fun reading => decide (reading.address = mac) := by
        funext reading
        by_cases same : reading.address = mac
        · simp [same, ranged]
        · simp [same]
      simp only [Option.bind_some, Reading.get?_byAddress, List.find?_filter, first]

namespace Scheduler
variable (answers : Answers) (s : Scheduler)

theorem retire_alike (op : Operation) (report other : List Reading) :
    (s.retire op (.delivered (correlate op.request op.translation report))).Alike
      (s.retire op (.delivered (correlate op.request op.translation other))) := by
  refine ⟨rfl, ?_⟩
  have hidden (report : List Reading) : Effect.closed (.results op.id op.replyTo
      (correlate op.request op.translation report)) = .results op.id op.replyTo (op.request.peers.map .failed) :=
    congrArg _ (correlate_closed op.request op.translation report)
  simp only [retire, reply, List.map_append, List.map_cons, hidden]

theorem complete_alike (op : Operation) (report other : List Reading) :
    (s.complete answers op report).Alike (s.complete answers op other) := by
  unfold complete
  apply Turn.Alike.second
  apply Turn.Alike.second
  apply Turn.Alike.andThen
  cases answers.permits op.requester with
  | false => exact .refl _
  | true => exact retire_alike _ op report other

theorem measured_alike (cid : CorrelationId) (report other : List Reading) :
    (s.measured answers cid report).Alike (s.measured answers cid other) := by
  unfold measured
  split
  · split
    · exact complete_alike answers s _ report other
    · exact .refl _
  · exact .refl _

theorem step_alike (call other : Call) (same : call.closed = other.closed) :
    (s.step answers call).Alike (s.step answers other) := by
  rcases closed_cases call other same with rfl | ⟨cid, report, twin, rfl, rfl⟩
  · exact .refl _
  · exact measured_alike answers s cid report twin

theorem measured_within (cid : CorrelationId) (report other : List Reading)
    (agree : ∀ op, s.slot = .dispatched op → op.correlation = some cid →
      report.filter (fun reading => decide (reading.address ∈ op.hardwarePeers)) =
        other.filter fun reading => decide (reading.address ∈ op.hardwarePeers)) :
    s.measured answers cid report = s.measured answers cid other := by
  cases slot : s.slot with
  | idle => simp only [measured, slot]
  | resolving op => simp only [measured, slot]
  | dispatched op =>
      by_cases named : op.correlation = some cid
      · have same : correlate op.request op.translation report = correlate op.request op.translation other := by
          rw [← correlate_within op.request op.translation report, ← correlate_within op.request op.translation other]
          exact congrArg _ (agree op slot named)
        simp only [measured, slot, if_pos named, complete, same]
      · simp only [measured, slot, if_neg named]

def returns (call : Call) : Except CallError (Option OperationId) :=
  match call with
  | .submit sub => (s.submit answers sub).map fun accepted => some accepted.1
  | _ => .ok none

end Scheduler

-- What a call shows: what it returns, what it does outside, and the status after it.
structure Showing where
  returned : Except CallError (Option OperationId)
  effects : List Effect
  status : Scheduler.Status

def Showing.closed (shown : Showing) : Showing := { shown with effects := shown.effects.map Effect.closed }

namespace History

def showings : List (Answers × Call) → History → List Showing
  | [], _ => []
  | asked :: rest, h =>
      let turn := h.scheduler.step asked.1 asked.2
      ⟨h.scheduler.returns asked.1 asked.2, turn.effects, turn.scheduler.status⟩ ::
        (h.next asked.1 asked.2).showings rest

-- The two calls agree in whatever they report about the peers with which the operation was submitted.
def Agree (h : History) : Call → Call → Prop
  | .measured cid report, .measured _ other => ∀ op peers, h.scheduler.slot = .dispatched op →
      op.correlation = some cid → .submit op.id cid peers true ∈ h.effects →
      report.filter (fun reading => decide (reading.address ∈ peers)) =
        other.filter fun reading => decide (reading.address ∈ peers)
  | _, _ => True

def Concordant : List (Answers × Call) → List (Answers × Call) → History → Prop
  | asked :: calls, other :: others, h => h.Agree asked.2 other.2 ∧ (h.next asked.1 asked.2).Concordant calls others
  | _, _, _ => True

def Beside (asked other : Answers × Call) : Prop := asked.1 = other.1 ∧ asked.2.closed = other.2.closed

theorem closed_returns (answers : Answers) (call other : Call) (s : Scheduler) (same : call.closed = other.closed) :
    s.returns answers call = s.returns answers other := by
  rcases closed_cases call other same with rfl | ⟨cid, report, twin, rfl, rfl⟩
  · rfl
  · rfl

variable (settings : Settings) (h g : History)

theorem showings_closed (calls others : List (Answers × Call)) (beside : List.Forall₂ Beside calls others)
    (same : g.scheduler = h.scheduler) :
    (h.showings calls).map Showing.closed = (g.showings others).map Showing.closed ∧
    (g.run others).scheduler = (h.run calls).scheduler ∧
    ∀ (place : Nat) (asked : Answers × Call), calls[place]? = some asked → others[place]? = some asked →
      (h.showings calls)[place]? = (g.showings others)[place]? := by
  induction beside generalizing h g with
  | nil => exact ⟨rfl, same, by simp⟩
  | @cons asked other calls others here _ ih =>
      obtain ⟨answers, call⟩ := asked
      obtain ⟨_, twin⟩ := other
      obtain ⟨rfl, closed⟩ := here
      have alike := Scheduler.step_alike answers h.scheduler call twin closed
      have onward : (g.next answers twin).scheduler = (h.next answers call).scheduler := by
        show (g.scheduler.step answers twin).scheduler = _
        rw [same]
        exact alike.scheduler
      obtain ⟨shown, ended, exact⟩ := ih _ _ onward
      refine ⟨?_, ended, ?_⟩
      · simp only [showings, List.map_cons, shown, Showing.closed, same, alike.scheduler, alike.effects,
          closed_returns answers call twin h.scheduler closed]
      · intro place asked one two
        cases place with
        | zero =>
            cases one
            cases two
            simp only [showings, List.getElem?_cons_zero, same]
        | succ place => exact exact place asked one two

theorem showings_concordant (calls others : List (Answers × Call)) (beside : List.Forall₂ Beside calls others)
    (same : g.scheduler = h.scheduler) (path : Reached settings h) (concordant : h.Concordant calls others) :
    h.showings calls = g.showings others := by
  induction beside generalizing h g with
  | nil => rfl
  | @cons asked other calls others here _ ih =>
      obtain ⟨answers, call⟩ := asked
      obtain ⟨_, twin⟩ := other
      obtain ⟨rfl, closed⟩ := here
      obtain ⟨agree, later⟩ := concordant
      have equal : h.scheduler.step answers call = h.scheduler.step answers twin := by
        rcases closed_cases call twin closed with rfl | ⟨cid, report, other, rfl, rfl⟩
        · rfl
        · refine Scheduler.measured_within answers h.scheduler cid report other fun op slot named => ?_
          exact agree op op.hardwarePeers slot named (reached_flying settings h path op cid slot named)
      have onward : (g.next answers twin).scheduler = (h.next answers call).scheduler := by
        show (g.scheduler.step answers twin).scheduler = _
        rw [same, ← equal]
        rfl
      have rest := ih _ _ onward (.next answers call h path) later
      simp only [showings, same, ← equal, rest, closed_returns answers call twin h.scheduler closed]

structure ReportIndependent (h : History) (calls others : List (Answers × Call)) : Prop where
  shown : (h.showings calls).map Showing.closed = (h.showings others).map Showing.closed
  -- only a call that reports something else can be told from its twin
  elsewhere : ∀ (place : Nat) (asked : Answers × Call), calls[place]? = some asked → others[place]? = some asked →
    (h.showings calls)[place]? = (h.showings others)[place]?
  state : (h.run others).scheduler = (h.run calls).scheduler
  -- readings that nobody asked for cannot be told from none at all
  unasked : h.Concordant calls others → h.showings calls = h.showings others

theorem reached_reportIndependent (path : Reached settings h) (calls others : List (Answers × Call))
    (beside : List.Forall₂ Beside calls others) : h.ReportIndependent calls others := by
  obtain ⟨shown, state, elsewhere⟩ := showings_closed h h calls others beside rfl
  exact ⟨shown, elsewhere, state, showings_concordant settings h h calls others beside rfl path⟩

def Effect.asksAbout (mac : MacAddress) : Effect → Bool
  | .submit _ _ peers _ => decide (mac ∈ peers)
  | _ => false

theorem concordant_stranger (answers : Answers) (cid : CorrelationId) (report : List Reading) (stranger : Reading)
    (unasked : h.effects.any (Effect.asksAbout stranger.address) = false) :
    h.Concordant [(answers, .measured cid (report ++ [stranger]))] [(answers, .measured cid report)] := by
  refine ⟨fun op peers _ _ submitted => ?_, trivial⟩
  have apart : stranger.address ∉ peers := by
    simpa [Effect.asksAbout] using List.any_eq_false.1 unasked _ submitted
  simp [apart]

def stranger : Reading := .success ⟨9, 9, 9, 9, 9, 9⟩ 7 7

-- The fourth operation is reported in full or not at all; the last one, which has its turn after that, with a
-- reading of a stranger or without. Where the fourth is reported with a reading of a stranger or without, nothing
-- differs.
theorem sample_reportIndependent : Reached .standard History.sample ∧
    List.Forall₂ Beside
      [(.sample, .measured ⟨4⟩ (Reading.samples (.sample 4))), (.sample, .measured ⟨5⟩ [stranger])]
      [(.sample, .measured ⟨4⟩ []), (.sample, .measured ⟨5⟩ [])] ∧
    (History.sample.run [(.sample, .measured ⟨4⟩ (Reading.samples (.sample 4)))]).effects ≠
      (History.sample.run [(.sample, .measured ⟨4⟩ [])]).effects ∧
    History.sample.ReportIndependent
      [(.sample, .measured ⟨4⟩ (Reading.samples (.sample 4))), (.sample, .measured ⟨5⟩ [stranger])]
      [(.sample, .measured ⟨4⟩ []), (.sample, .measured ⟨5⟩ [])] ∧
    History.sample.Concordant [(.sample, .measured ⟨4⟩ (Reading.samples (.sample 4) ++ [stranger]))]
      [(.sample, .measured ⟨4⟩ (Reading.samples (.sample 4)))] ∧
    History.sample.showings [(.sample, .measured ⟨4⟩ (Reading.samples (.sample 4) ++ [stranger]))] =
      History.sample.showings [(.sample, .measured ⟨4⟩ (Reading.samples (.sample 4)))] := by
  have beside : List.Forall₂ Beside
      [(.sample, .measured ⟨4⟩ (Reading.samples (.sample 4))), (.sample, .measured ⟨5⟩ [stranger])]
      [(.sample, .measured ⟨4⟩ []), (.sample, .measured ⟨5⟩ [])] := .cons ⟨rfl, rfl⟩ (.cons ⟨rfl, rfl⟩ .nil)
  have concordant := concordant_stranger History.sample .sample ⟨4⟩ (Reading.samples (.sample 4)) stranger (by decide)
  have alike : History.sample.ReportIndependent
      [(.sample, .measured ⟨4⟩ (Reading.samples (.sample 4) ++ [stranger]))]
      [(.sample, .measured ⟨4⟩ (Reading.samples (.sample 4)))] :=
    reached_reportIndependent .standard History.sample sample_reached _ _ (.cons ⟨rfl, rfl⟩ .nil)
  exact ⟨sample_reached, beside, by decide,
    reached_reportIndependent .standard History.sample sample_reached _ _ beside, concordant, alike.unasked concordant⟩

end History
end Ranging

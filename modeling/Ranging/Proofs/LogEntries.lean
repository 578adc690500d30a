import Ranging.Scheduler.History

-- Every entry of a log was made during one call. From there the run before that call and the run
-- after it can be told apart.
namespace Ranging
namespace History
variable (answers : Answers) (call : Call) (calls : List (Answers × Call)) (h : History)

def spoken : List Entry := .heard call :: (h.scheduler.step answers call).effects.map .did

theorem next_log : (h.next answers call).log = h.log ++ h.spoken answers call := by
  simp [next, work, hear, spoken]

theorem next_effects : (h.next answers call).effects =
    h.effects ++ (h.scheduler.step answers call).effects := by
  have heard : (h.next answers call).effects = ((h.hear call).work (h.scheduler.step answers call)).effects := rfl
  rw [heard, effects_work, effects_hear]

theorem next_ended : (h.next answers call).ended = h.ended ++ (h.scheduler.step answers call).ended := rfl

theorem next_calls : (h.next answers call).calls = h.calls ++ [call] := by
  simp [History.calls, next_log, spoken, List.filterMap_map, Function.comp_def, Entry.call?]

theorem run_calls : (h.run calls).calls = h.calls ++ calls.map Prod.snd := by
  induction calls generalizing h with
  | nil => exact (List.append_nil _).symm
  | cons asked rest ih =>
      rw [run, List.foldl_cons, ← run, ih, next_calls, List.append_assoc]
      rfl

theorem run_snoc : h.run (calls ++ [(answers, call)]) = (h.run calls).next answers call := by
  simp [run]

theorem run_log : ∃ more, (h.run calls).log = h.log ++ more := by
  induction calls generalizing h with
  | nil => exact ⟨[], (List.append_nil _).symm⟩
  | cons asked rest ih =>
      obtain ⟨more, whole⟩ := ih (h.next asked.1 asked.2)
      refine ⟨h.spoken asked.1 asked.2 ++ more, ?_⟩
      rw [run, List.foldl_cons, ← run, whole, next_log, List.append_assoc]

theorem effects_log (effect : Effect) : effect ∈ h.effects ↔ .did effect ∈ h.log := by
  simp only [effects, List.mem_filterMap]
  constructor
  · intro made
    obtain ⟨entry, member, same⟩ := made
    cases entry with
    | heard call => cases same
    | did other => cases same; exact member
  · exact fun member => ⟨_, member, rfl⟩

end History

theorem split_append {α : Type} (first second past later : List α) (item : α)
    (split : first ++ second = past ++ item :: later) :
    (∃ rest, first = past ++ item :: rest ∧ later = rest ++ second) ∨
    ∃ said, past = first ++ said ∧ second = said ++ item :: later := by
  rcases List.append_eq_append_iff.1 split with ⟨said, before, after⟩ | ⟨rest, before, after⟩
  · exact .inr ⟨said, before, after⟩
  · cases rest with
    | nil => exact .inr ⟨[], by simpa using before.symm, by simpa using after.symm⟩
    | cons head tail =>
        obtain ⟨rfl, rfl⟩ := List.cons.inj after
        exact .inl ⟨tail, before, rfl⟩

namespace History
variable (settings : Settings) (h : History)

theorem reached_entry (past later : List Entry) (entry : Entry) (path : Reached settings h)
    (split : h.log = past ++ entry :: later) :
    (∃ ready, past = [] ∧ entry = .did (.readiness ready)) ∨
    ∃ before answers call calls said rest more, Reached settings before ∧
      h = (before.next answers call).run calls ∧
      before.spoken answers call = said ++ entry :: rest ∧ past = before.log ++ said ∧ later = rest ++ more := by
  induction path generalizing later with
  | start ready h made =>
      obtain ⟨_, rfl⟩ := (start_eq_ok_iff settings ready h).1 made
      left
      cases past with
      | nil => exact ⟨ready, rfl, (List.cons.inj split).1.symm⟩
      | cons head tail =>
          have short := (List.cons.inj split).2
          simp at short
  | next answers call h path ih =>
      rw [next_log] at split
      rcases split_append _ _ _ _ _ split with ⟨rest, here, after⟩ | ⟨said, before, within⟩
      · rcases ih rest here with first | ⟨before, asked, heard, calls, said, others, more, made⟩
        · exact .inl first
        · obtain ⟨reached, same, within, same_past, same_later⟩ := made
          refine .inr ⟨before, asked, heard, calls ++ [(answers, call)], said, others,
            more ++ h.spoken answers call, reached, ?_, within, same_past, ?_⟩
          · rw [run_snoc, same]
          · rw [after, same_later, List.append_assoc]
      · exact .inr ⟨h, answers, call, [], said, later, [], path, rfl, within, before, (List.append_nil _).symm⟩

theorem reached_heard (past later : List Entry) (call : Call) (path : Reached settings h)
    (split : h.log = past ++ .heard call :: later) :
    ∃ before answers calls more, Reached settings before ∧ h = (before.next answers call).run calls ∧
      past = before.log ∧ later = (before.scheduler.step answers call).effects.map .did ++ more := by
  rcases reached_entry settings h past later _ path split with ⟨_, _, same⟩ | made
  · cases same
  · obtain ⟨before, answers, heard, calls, said, rest, more, reached, same, within, here, after⟩ := made
    cases said with
    | nil =>
        obtain ⟨first, others⟩ := List.cons.inj within
        cases first
        exact ⟨before, answers, calls, more, reached, same, by simpa using here, by rw [after, others]⟩
    | cons head tail =>
        obtain ⟨_, others⟩ := List.cons.inj within
        have spoken : Entry.heard call ∈ (before.scheduler.step answers heard).effects.map .did := by
          rw [others]
          exact List.mem_append_right _ List.mem_cons_self
        simp at spoken

end History
end Ranging

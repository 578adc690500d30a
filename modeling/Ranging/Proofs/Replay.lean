import Ranging.Exchange
import Ranging.Proofs.AdmittedOperations
import Ranging.Proofs.LogEntries
import Mathlib.Data.List.Induction

-- What a scheduler alone makes of events that are put to it one after the other, and what of the script
-- comes from those who sent.
namespace Ranging

def Event.call? : Event → Option Call
  | .call asked => some asked
  | .status => none

def Event.isStatus : Event → Bool
  | .call _ => false
  | .status => true

def Event.submission? : Event → Option Submission
  | .call (.submit sub) => some sub
  | _ => none

def Output.effect? : Output → Option Effect
  | .effect said => some said
  | .status _ => none

def Output.isStatus : Output → Bool
  | .effect _ => false
  | .status _ => true

theorem isShutdown_eq (event : Event) (told : event.isShutdown = true) : event = .call .shutdown := by
  cases event with
  | status => cases told
  | call call => cases call <;> first | rfl | cases told

theorem script_append (first rest : List Event) (untold : first.any Event.isShutdown = false) :
    script (first ++ rest) = first ++ script rest := by
  induction first with
  | nil => rfl
  | cons event others ih =>
      obtain ⟨plain, untold⟩ := Bool.or_eq_false_iff.1 (List.any_cons ▸ untold)
      rw [List.cons_append, script, plain, if_neg Bool.false_ne_true, ih untold, List.cons_append]

theorem script_told (first rest : List Event) (untold : first.any Event.isShutdown = false) :
    script (first ++ .call .shutdown :: rest) = first ++ .call .shutdown :: later rest := by
  rw [script_append _ _ untold]
  rfl

theorem script_snoc (sent : List Event) (event : Event) (told : sent.any Event.isShutdown = true) :
    script (sent ++ [event]) = script sent ++ later [event] := by
  induction sent with
  | nil => cases told
  | cons first rest ih =>
      rw [List.cons_append, script, script]
      cases stop : first.isShutdown with
      | true => simp [later, List.filter_append]
      | false =>
          rw [List.any_cons, stop, Bool.false_or] at told
          simp [ih told]

theorem later_filterMap {α : Type} (pick : Event → Option α) (deaf : pick (.call .shutdown) = none)
    (queued : List Event) : (later queued).filterMap pick = queued.filterMap pick := by
  rw [later, List.filterMap_filter]
  refine List.filterMap_congr fun event _ => ?_
  cases stop : event.isShutdown with
  | true => simp [isShutdown_eq event stop, deaf]
  | false => simp

theorem script_filterMap {α : Type} (pick : Event → Option α) (deaf : pick (.call .shutdown) = none)
    (sent : List Event) : (script sent).filterMap pick = sent.filterMap pick := by
  induction sent with
  | nil => simp [script, deaf]
  | cons event rest ih =>
      rw [script]
      cases stop : event.isShutdown with
      | true => simp [List.filterMap_cons, later_filterMap pick deaf]
      | false => simp [List.filterMap_cons, ih]

theorem mem_script (sent : List Event) : .call .shutdown ∈ script sent := by
  induction sent with
  | nil => simp [script]
  | cons event rest ih =>
      rw [script]
      split
      · next stop => exact isShutdown_eq event stop ▸ List.mem_cons_self
      · exact List.mem_cons_of_mem _ ih

theorem attendAll_snoc (handled : List (Answers × Event)) (answers : Answers) (event : Event) (s : Scheduler) :
    s.attendAll (handled ++ [(answers, event)]) =
      (((s.attendAll handled).1.attend answers event).1,
        (s.attendAll handled).2 ++ ((s.attendAll handled).1.attend answers event).2) := by
  simp [Scheduler.attendAll]

def callsOf (handled : List (Answers × Event)) : List (Answers × Call) :=
  handled.filterMap fun asked => asked.2.call?.map (Prod.mk asked.1)

theorem callsOf_snoc (handled : List (Answers × Event)) (answers : Answers) (event : Event) :
    callsOf (handled ++ [(answers, event)]) = callsOf handled ++ (event.call?.map (Prod.mk answers)).toList := by
  rw [callsOf, List.filterMap_append]
  cases event <;> rfl

theorem mem_callsOf (handled : List (Answers × Event)) (call : Call) (attended : .call call ∈ handled.map Prod.snd) :
    call ∈ (callsOf handled).map Prod.snd := by
  obtain ⟨asked, member, same⟩ := List.mem_map.1 attended
  refine List.mem_map.2 ⟨(asked.1, call), List.mem_filterMap.2 ⟨asked, member, ?_⟩, rfl⟩
  rw [same]
  rfl

section
variable (settings : Settings) (ready : Bool) (handled : List (Answers × Event))

theorem attendAll_history :
    ((History.fresh settings ready).run (callsOf handled)).scheduler =
      ((Scheduler.fresh settings ready).attendAll handled).1 ∧
    ((History.fresh settings ready).run (callsOf handled)).effects =
      .readiness ready :: ((Scheduler.fresh settings ready).attendAll handled).2.filterMap Output.effect? := by
  induction handled using List.reverseRecOn with
  | nil => exact ⟨rfl, rfl⟩
  | append_singleton rest asked ih =>
      obtain ⟨scheduler, effects⟩ := ih
      obtain ⟨answers, event⟩ := asked
      rw [callsOf_snoc, attendAll_snoc]
      cases event with
      | status =>
          refine ⟨by simpa [Event.call?, Scheduler.attend] using scheduler, ?_⟩
          simp [Event.call?, Scheduler.attend, List.filterMap_append, List.filterMap_cons, Output.effect?, effects]
      | call call =>
          have told : ∀ said : List Effect, (said.map Output.effect).filterMap Output.effect? = said := by
            intro said
            simp [List.filterMap_map, Function.comp_def, Output.effect?]
          simp only [Event.call?, Option.map_some, Option.toList_some, History.run_snoc, History.next_effects,
            Scheduler.attend, List.filterMap_append, told, effects, ← scheduler]
          exact ⟨rfl, rfl⟩

theorem attendAll_admitted (positive : ∀ l, 0 < settings.get l)
    (formed : ∀ sub ∈ (handled.map Prod.snd).filterMap Event.submission?,
      sub.request.validate settings.maxPeers = .ok ()) :
    ((History.fresh settings ready).run (callsOf handled)).admitted.map Prod.snd =
      (handled.map Prod.snd).filterMap Event.submission? := by
  induction handled using List.reverseRecOn with
  | nil => rfl
  | append_singleton rest asked ih =>
      obtain ⟨answers, event⟩ := asked
      rw [List.map_append, List.filterMap_append] at formed
      have before := ih fun sub member => formed sub (List.mem_append_left _ member)
      have reached := History.run_reached settings (callsOf rest) _ (History.fresh_reached settings ready positive)
      rw [callsOf_snoc, List.map_append, List.filterMap_append, ← before]
      cases event with
      | status => simp [Event.call?, Event.submission?]
      | call call =>
          simp only [Event.call?, Option.map_some, Option.toList_some, History.run_snoc]
          cases call with
          | submit sub =>
              have settled : ((History.fresh settings ready).run (callsOf rest)).scheduler.settings = settings :=
                (reached_conserved settings _ reached).settled
              have wellFormed := formed sub (List.mem_append_right _ List.mem_cons_self)
              simp [History.next, Scheduler.admits, Scheduler.submit, settled, wellFormed, Event.submission?]
          | _ => simp [History.next, Scheduler.admits, Event.submission?, History.work, History.hear]

theorem attendAll_answers (s : Scheduler) :
    (s.attendAll handled).2.countP Output.isStatus = (handled.map Prod.snd).countP Event.isStatus := by
  induction handled using List.reverseRecOn with
  | nil => rfl
  | append_singleton rest asked ih =>
      obtain ⟨answers, event⟩ := asked
      rw [attendAll_snoc, List.countP_append, ih, List.map_append, List.countP_append]
      cases event with
      | status => rfl
      | call call =>
          have silent : ∀ said : List Effect, (said.map Output.effect).countP Output.isStatus = 0 := by
            intro said
            simp [List.countP_map, Function.comp_def, Output.isStatus]
          simp [Scheduler.attend, silent, Event.isStatus]

end

end Ranging

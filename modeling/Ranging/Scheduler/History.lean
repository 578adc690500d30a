import Ranging.Scheduler.Calls

-- A scheduler together with all that has happened to it since it was made. Histories are what
-- the laws of the scheduler speak about: a law that holds of every history that can be reached
-- holds after every call, whatever the surroundings answered.
namespace Ranging

-- Calls and effects in one line, in the order in which they happened.
inductive Entry
  | heard (call : Call)
  | did (effect : Effect)

def Entry.effect? : Entry → Option Effect
  | .did effect => some effect
  | .heard _ => none

def Entry.call? : Entry → Option Call
  | .heard call => some call
  | .did _ => none

structure History where
  scheduler : Scheduler
  log : List Entry
  -- the well-formed submissions in their order, each with the name it was given
  admitted : List (OperationId × Submission)
  -- the operations that came to an end in their order, each with the way it ended
  ended : List (Operation × Outcome)

def Scheduler.admits (answers : Answers) (call : Call) (s : Scheduler) : List (OperationId × Submission) :=
  match call with
  | .submit sub => match s.submit answers sub with
    | .ok (id, _) => [(id, sub)]
    | .error _ => []
  | _ => []

namespace History

def calls (h : History) : List Call := h.log.filterMap Entry.call?

def effects (h : History) : List Effect := h.log.filterMap Entry.effect?

def repliesTo (h : History) (id : OperationId) : List Effect :=
  h.effects.filter fun effect => effect.repliesTo? = some id

def hear (call : Call) (h : History) : History := { h with log := h.log ++ [.heard call] }

def work (turn : Turn) (h : History) : History :=
  { h with
    scheduler := turn.scheduler
    log := h.log ++ turn.effects.map .did
    ended := h.ended ++ turn.ended }

def next (answers : Answers) (call : Call) (h : History) : History :=
  { (h.hear call).work (h.scheduler.step answers call) with
    admitted := h.admitted ++ h.scheduler.admits answers call }

def fresh (settings : Settings) (ready : Bool) : History := ⟨.fresh settings ready, [.did (.readiness ready)], [], []⟩

def start (settings : Settings) (ready : Bool) : Except SettingsError History :=
  (Scheduler.new settings ready).map fun turn => ⟨turn.scheduler, turn.effects.map .did, [], turn.ended⟩

def run (calls : List (Answers × Call)) (h : History) : History :=
  calls.foldl (fun h asked => h.next asked.1 asked.2) h

-- What can come about under the settings, by any calls and whatever is answered. Operations and liveness tokens are
-- counted without end here: fewer than 2^64 of either are given out.
inductive Reached (settings : Settings) : History → Prop where
  | start (ready : Bool) (h : History) : History.start settings ready = .ok h → Reached settings h
  | next (answers : Answers) (call : Call) (h : History) : Reached settings h → Reached settings (h.next answers call)

theorem run_reached (settings : Settings) (calls : List (Answers × Call)) (h : History)
    (path : Reached settings h) : Reached settings (h.run calls) := by
  induction calls generalizing h with
  | nil => exact path
  | cons asked rest ih => exact ih _ (.next asked.1 asked.2 h path)

theorem run_ended (calls : List (Answers × Call)) (h : History) : h.ended ⊆ (h.run calls).ended := by
  induction calls generalizing h with
  | nil => exact fun _ member => member
  | cons asked rest ih => exact fun _ member => ih _ (List.mem_append_left _ member)

theorem run_admitted (calls : List (Answers × Call)) (h : History) : h.admitted ⊆ (h.run calls).admitted := by
  induction calls generalizing h with
  | nil => exact fun _ member => member
  | cons asked rest ih => exact fun _ member => ih _ (List.mem_append_left _ member)

@[simp] theorem effects_hear (call : Call) (h : History) : (h.hear call).effects = h.effects := by
  simp [effects, hear, Entry.effect?]

@[simp] theorem effects_work (turn : Turn) (h : History) : (h.work turn).effects = h.effects ++ turn.effects := by
  simp [effects, work, List.filterMap_append, List.filterMap_map, Function.comp_def, Entry.effect?]

theorem work_andThen (turn : Turn) (after : Scheduler → Turn) (h : History) :
    h.work (turn.andThen after) = (h.work turn).work (after turn.scheduler) := by
  simp [work, List.append_assoc]

theorem work_did (s : Scheduler) (turn : Turn) (h : History) : (h.work (.did s [])).work turn = h.work turn := by
  simp [work]

theorem work_still (h : History) : h.work h.scheduler.still = h := by
  simp [work, Scheduler.still]

theorem start_eq_ok_iff (settings : Settings) (ready : Bool) (h : History) :
    start settings ready = .ok h ↔ (∀ l, 0 < settings.get l) ∧ h = fresh settings ready := by
  cases valid : settings.validate with
  | error e =>
      have unusable : ¬ ∀ l, 0 < settings.get l := by
        intro positive
        rw [(Settings.validate_ok_iff settings).2 positive] at valid
        cases valid
      simp [start, Scheduler.new, valid, Except.map, unusable]
  | ok s =>
      obtain ⟨rfl, positive⟩ := Settings.validated settings s valid
      simp [start, Scheduler.new, valid, Except.map, fresh, positive, eq_comm]

theorem fresh_reached (settings : Settings) (ready : Bool) (positive : ∀ l, 0 < settings.get l) :
    Reached settings (fresh settings ready) :=
  .start ready _ ((start_eq_ok_iff settings ready _).2 ⟨positive, rfl⟩)

end History
end Ranging

import Ranging.Proofs.ReplyCounts
import Ranging.Proofs.CorrelationMarks

-- One wakeup at a time. It is set as the hardware accepts an operation, and it goes with the operation:
-- called off, or come due, and never both.
namespace Ranging

def Entry.armed? : Entry → Option CorrelationId
  | .did (.arm _ cid) => some cid
  | _ => none

def Entry.accepted? : Entry → Option CorrelationId
  | .did (.submit _ cid _ true) => some cid
  | _ => none

-- The wakeups that are waited for, as the log tells it: set, and neither called off nor come due since.
def Entry.await (waited : List (CorrelationId × Time)) : Entry → List (CorrelationId × Time)
  | .did (.arm due cid) => waited ++ [(cid, due)]
  | .did (.disarm cid) => waited.filter fun wakeup => wakeup.1 ≠ cid
  | .heard (.wake cid) => waited.filter fun wakeup => wakeup.1 ≠ cid
  | _ => waited

def awaited (log : List Entry) : List (CorrelationId × Time) := log.foldl Entry.await []

def Deadline.awaited : Deadline → List (CorrelationId × Time)
  | .unarmed => []
  | .armed cid due => [(cid, due)]

-- What an entry about the hardware or the wakeup asks of the entries before it and after it.
def Entry.Timely (settings : Settings) (past later : List Entry) : Entry → Prop
  | .did (.submit _ cid _ accepted) => awaited past = [] ∧ (accepted = true → ∃ now rest,
      later = .did (.clock now) :: .did (.arm (now.after settings.hardwareTimeout) cid) :: rest)
  | .did (.arm _ cid) => ∃ before id peers now,
      past = before ++ [.did (.submit id cid peers true), .did (.clock now)]
  | .did (.disarm cid) => ∃ due, awaited past = [(cid, due)]
  | _ => True

def Timely (settings : Settings) : List Entry → List Entry → Prop
  | _, [] => True
  | past, entry :: later => entry.Timely settings past later ∧ Timely settings (past ++ [entry]) later

def Entry.isQuiet : Entry → Bool
  | .heard (.wake _) => false
  | .did (.submit _ _ _ _) => false
  | .did (.arm _ _) => false
  | .did (.disarm _) => false
  | _ => true

variable (settings : Settings)

theorem awaited_append (first second : List Entry) :
    awaited (first ++ second) = second.foldl Entry.await (awaited first) := List.foldl_append

theorem Entry.Timely.append (entry : Entry) (past later more : List Entry) (timely : entry.Timely settings past later) :
    entry.Timely settings past (later ++ more) := by
  cases entry with
  | heard call => trivial
  | did effect =>
      cases effect with
      | submit id cid peers accepted =>
          obtain ⟨nothing, followed⟩ := timely
          refine ⟨nothing, fun taken => ?_⟩
          obtain ⟨now, rest, same⟩ := followed taken
          exact ⟨now, rest ++ more, by rw [same]; rfl⟩
      | _ => exact timely

theorem timely_append (past first second : List Entry) (one : Timely settings past first)
    (two : Timely settings (past ++ first) second) : Timely settings past (first ++ second) := by
  induction first generalizing past with
  | nil => simpa using two
  | cons entry rest ih =>
      obtain ⟨here, others⟩ := one
      refine ⟨here.append settings entry past rest second, ih _ others ?_⟩
      simpa using two

theorem timely_at (past log before later : List Entry) (entry : Entry) (timely : Timely settings past log)
    (split : log = before ++ entry :: later) : entry.Timely settings (past ++ before) later := by
  induction before generalizing past log with
  | nil =>
      subst split
      simpa using timely.1
  | cons first rest ih =>
      subst split
      have others := ih _ _ timely.2 rfl
      simpa using others

theorem quiet_entry (entry : Entry) (quiet : entry.isQuiet = true) :
    (∀ past later, entry.Timely settings past later) ∧ (∀ waited, entry.await waited = waited) ∧
      entry.armed? = none ∧ entry.accepted? = none := by
  cases entry with
  | heard call => cases call <;> first | exact ⟨fun _ _ => trivial, fun _ => rfl, rfl, rfl⟩ | cases quiet
  | did effect => cases effect <;> first | exact ⟨fun _ _ => trivial, fun _ => rfl, rfl, rfl⟩ | cases quiet

theorem quiet_timely (past said : List Entry) (quiet : said.all Entry.isQuiet = true) : Timely settings past said := by
  induction said generalizing past with
  | nil => trivial
  | cons entry rest ih =>
      obtain ⟨here, others⟩ := Bool.and_eq_true_iff.1 quiet
      exact ⟨(quiet_entry settings entry here).1 past rest, ih _ others⟩

theorem quiet_await (waited : List (CorrelationId × Time)) (said : List Entry)
    (quiet : said.all Entry.isQuiet = true) : said.foldl Entry.await waited = waited := by
  induction said generalizing waited with
  | nil => rfl
  | cons entry rest ih =>
      obtain ⟨here, others⟩ := Bool.and_eq_true_iff.1 quiet
      rw [List.foldl_cons, (quiet_entry .standard entry here).2.1 waited]
      exact ih waited others

theorem quiet_unset (said : List Entry) (quiet : said.all Entry.isQuiet = true) :
    said.filterMap Entry.armed? = [] ∧ said.filterMap Entry.accepted? = [] := by
  have each := List.all_eq_true.1 quiet
  constructor
  · exact List.filterMap_eq_nil_iff.2 fun entry member => (quiet_entry .standard entry (each entry member)).2.2.1
  · exact List.filterMap_eq_nil_iff.2 fun entry member => (quiet_entry .standard entry (each entry member)).2.2.2

structure WakeupsMatch (d : MidCall) : Prop where
  timely : Timely settings [] d.log
  current : awaited d.log = d.scheduler.deadline.awaited
  paired : d.log.filterMap Entry.armed? = d.log.filterMap Entry.accepted?

theorem WakeupsMatch.extended (d e : MidCall) (said : List Entry) (wakeupsMatch : WakeupsMatch settings d)
    (log : e.log = d.log ++ said) (timely : Timely settings d.log said)
    (current : said.foldl Entry.await d.scheduler.deadline.awaited = e.scheduler.deadline.awaited)
    (paired : said.filterMap Entry.armed? = said.filterMap Entry.accepted?) : WakeupsMatch settings e := by
  refine ⟨?_, ?_, ?_⟩
  · rw [log]
    exact timely_append settings [] d.log said wakeupsMatch.timely timely
  · rw [log, awaited_append, wakeupsMatch.current, current]
  · rw [log, List.filterMap_append, List.filterMap_append, wakeupsMatch.paired, paired]

theorem WakeupsMatch.unchanged (d e : MidCall) (said : List Entry) (wakeupsMatch : WakeupsMatch settings d)
    (log : e.log = d.log ++ said)
    (quiet : said.all Entry.isQuiet = true) (same : e.scheduler.deadline = d.scheduler.deadline) :
    WakeupsMatch settings e := by
  obtain ⟨unset, untaken⟩ := quiet_unset said quiet
  refine wakeupsMatch.extended settings d e said log (quiet_timely settings d.log said quiet) ?_
    (unset.trans untaken.symm)
  rw [quiet_await _ said quiet, same]

theorem clerical_quiet (said : List Effect) (clerical : said.all Effect.isClerical = true) :
    (said.map Entry.did).all Entry.isQuiet = true := by
  rw [List.all_map]
  refine List.all_eq_true.2 fun effect member => ?_
  have usual := List.all_eq_true.1 clerical effect member
  cases effect <;> first | rfl | cases usual

theorem wakeupsMatch_kept (d e : MidCall) (sound : Sound d) (settled : d.scheduler.settings = settings)
    (wakeupsMatch : WakeupsMatch settings d) (move : Move d e) : WakeupsMatch settings e := by
  have current := wakeupsMatch.current
  cases move with
  | hear call plain =>
      cases call with
      | wake cid =>
          refine wakeupsMatch.extended settings d _ [.heard (.wake cid)] (by simp) ⟨trivial, trivial⟩ ?_ rfl
          cases deadline : d.scheduler.deadline with
          | unarmed => simp [deadline, Deadline.awaited, Entry.await]
          | armed other due =>
              have away : other ≠ cid := by simpa [Scheduler.Plain, deadline, Deadline.armedFor?] using plain
              simp [deadline, Deadline.awaited, Entry.await, away]
      | measured cid report => exact absurd plain id
      | _ => exact wakeupsMatch.unchanged settings d _ [.heard _] (MidCall.hear_log d _) rfl rfl
  | discard cid report stale =>
      exact wakeupsMatch.unchanged settings d _ _ (MidCall.heard_log d _ _) rfl rfl
  | report cid report op due granted free slot same armed =>
      refine wakeupsMatch.extended settings d _ [.heard (.measured cid report), .did (.disarm cid),
        .did (.permission op.requester granted)] (by simp) ⟨trivial, ⟨due, ?_⟩, trivial, trivial⟩ ?_ rfl
      · rw [awaited_append, current, armed]
        rfl
      · simp [armed, Deadline.awaited, Entry.await]
  | expire cid op due free slot same armed =>
      refine wakeupsMatch.extended settings d _ [.heard (.wake cid), .did (.cancel cid op.hardwarePeers)] (by simp)
        ⟨trivial, trivial, trivial⟩ ?_ rfl
      simp [armed, Deadline.awaited, Entry.await]
  | translate answer op unpoised slot => exact wakeupsMatch.unchanged settings d _ _ (MidCall.heard_log d _ _) rfl rfl
  | refuse answers sub kind wellFormed verdict =>
      refine wakeupsMatch.unchanged settings d _ _ (MidCall.heard_log d _ _) ?_ rfl
      exact clerical_quiet _ (Scheduler.refuse_clerical answers sub kind _)
  | join answers sub wellFormed verdict unburied =>
      refine wakeupsMatch.unchanged settings d _ _ (MidCall.heard_log d _ _) ?_ rfl
      exact clerical_quiet _ (Scheduler.join_clerical answers sub _)
  | hardware ready =>
      exact wakeupsMatch.unchanged settings d _ _ (MidCall.heard_log d _ _)
        (clerical_quiet _ (Scheduler.proclaim_clerical _ _)) rfl
  | idleness idle =>
      exact wakeupsMatch.unchanged settings d _ _ (MidCall.heard_log d _ _)
        (clerical_quiet _ (Scheduler.proclaim_clerical _ _)) rfl
  | close openStill => exact wakeupsMatch.unchanged settings d _ _ (MidCall.heard_log d _ _) rfl rfl
  | bury token ids registry unburied purged =>
      exact wakeupsMatch.unchanged settings d _ [.did (.unregister token)] (by simp) rfl rfl
  | forget token buried gone => exact wakeupsMatch.unchanged settings d _ [] (by simp) rfl rfl
  | pull chosen free => exact wakeupsMatch.unchanged settings d _ [] (by simp) rfl rfl
  | release op free slot => exact wakeupsMatch.unchanged settings d _ [] (by simp) rfl rfl
  | revoke cid op due free slot same armed =>
      refine wakeupsMatch.extended settings d _ [.did (.disarm cid), .did (.cancel cid op.hardwarePeers)] (by simp)
        ⟨⟨due, ?_⟩, trivial, trivial⟩ ?_ rfl
      · rw [current, armed]
        rfl
      · simp [armed, Deadline.awaited, Entry.await]
  | retire op rest outcome first =>
      refine wakeupsMatch.unchanged settings d _ _ (MidCall.work_log d _) ?_ rfl
      exact clerical_quiet _ (Scheduler.retire_clerical op outcome _)
  | take op rest unpoised slot available queue => exact wakeupsMatch.unchanged settings d _ [] (by simp) rfl rfl
  | park op poised slot needs =>
      exact wakeupsMatch.unchanged settings d _ [.did (.resolve op.requester.uid op.request.handles op.id)]
        (by simp) rfl rfl
  | bare op free poised slot known alone => exact wakeupsMatch.unchanged settings d _ [] (by simp) rfl rfl
  | reject op free poised slot known reachable =>
      have unarmed := sound.slotMatches.idle slot
      refine wakeupsMatch.extended settings d _
        [.did (.submit op.id d.scheduler.nextCorrelation op.hardwarePeers false)]
        (by simp [Scheduler.rebuffed]) ⟨⟨?_, by simp⟩, trivial⟩ rfl rfl
      rw [current, unarmed]
      rfl
  | engage op now poised slot unarmed known reachable =>
      refine wakeupsMatch.extended settings d _ [.did (.submit op.id d.scheduler.nextCorrelation op.hardwarePeers true),
        .did (.clock now), .did (.arm (now.after settings.hardwareTimeout) d.scheduler.nextCorrelation)]
        ?_ ⟨⟨?_, fun _ => ⟨now, [], rfl⟩⟩, trivial, ⟨d.log, op.id, op.hardwarePeers, now, ?_⟩, trivial⟩ ?_ rfl
      · simp [Scheduler.engaged, settled]
      · rw [current, unarmed]
        rfl
      · simp
      · rw [unarmed, ← settled]
        rfl

theorem reached_wakeupsMatch (h : History) (path : History.Reached settings h) : WakeupsMatch settings (.clear h) := by
  have both : Conserved settings (.clear h) ∧ WakeupsMatch settings (.clear h) := by
    refine reached_law h settings (fun d => Conserved settings d ∧ WakeupsMatch settings d) ?_ ?_ path
    · intro ready positive
      exact ⟨fresh_conserved settings ready, ⟨trivial, trivial⟩, rfl, rfl⟩
    · intro d e sound laws move
      obtain ⟨conserves, wakeupsMatch⟩ := laws
      exact ⟨conserved_kept settings d e conserves move,
        wakeupsMatch_kept settings d e sound conserves.settled wakeupsMatch move⟩
  exact both.2

def Entry.settles (cid : CorrelationId) : Entry → Bool
  | .did (.disarm other) => other = cid
  | .heard (.wake other) => other = cid
  | _ => false

theorem mem_await (waited : List (CorrelationId × Time)) (entry : Entry) (cid : CorrelationId) (due : Time) :
    (cid, due) ∈ entry.await waited ↔
      (cid, due) ∈ waited ∧ entry.settles cid = false ∨ entry = .did (.arm due cid) := by
  cases entry with
  | heard call =>
      cases call with
      | wake other => simp [Entry.await, Entry.settles, ne_comm]
      | _ => simp [Entry.await, Entry.settles]
  | did effect =>
      cases effect with
      | arm other name => simp [Entry.await, Entry.settles, and_comm, Eq.comm]
      | disarm other => simp [Entry.await, Entry.settles, ne_comm]
      | _ => simp [Entry.await, Entry.settles]

theorem mem_awaited (waited : List (CorrelationId × Time)) (said : List Entry) (cid : CorrelationId) (due : Time)
    (kept : ∀ entry ∈ said, entry.settles cid = false) (member : (cid, due) ∈ waited) :
    (cid, due) ∈ said.foldl Entry.await waited := by
  induction said generalizing waited with
  | nil => exact member
  | cons entry rest ih =>
      have here := (mem_await waited entry cid due).2 (.inl ⟨member, kept entry List.mem_cons_self⟩)
      exact ih _ (fun other later => kept other (List.mem_cons_of_mem _ later)) here

theorem gone_awaited (waited : List (CorrelationId × Time)) (said : List Entry) (cid : CorrelationId)
    (unset : cid ∉ said.filterMap Entry.armed?) (gone : ∀ due, (cid, due) ∉ waited) :
    ∀ due, (cid, due) ∉ said.foldl Entry.await waited := by
  induction said generalizing waited with
  | nil => exact gone
  | cons entry rest ih =>
      apply ih
      · intro armed
        obtain ⟨other, later, same⟩ := List.mem_filterMap.1 armed
        exact unset (List.mem_filterMap.2 ⟨other, List.mem_cons_of_mem _ later, same⟩)
      · intro due member
        rcases (mem_await waited entry cid due).1 member with ⟨old, _⟩ | rfl
        · exact gone due old
        · exact unset (List.mem_filterMap.2 ⟨_, List.mem_cons_self, rfl⟩)

theorem settled_await (waited : List (CorrelationId × Time)) (entry : Entry) (cid : CorrelationId)
    (settles : entry.settles cid = true) (due : Time) : (cid, due) ∉ entry.await waited := by
  intro member
  rcases (mem_await waited entry cid due).1 member with ⟨_, kept⟩ | rfl
  · rw [settles] at kept
    cases kept
  · cases settles

-- Once it is over for a wakeup that is not set again, there is nothing left to call off.
theorem settled_once (log past later : List Entry) (entry : Entry) (cid : CorrelationId)
    (timely : Timely settings [] log) (split : log = past ++ entry :: later) (settles : entry.settles cid = true)
    (unset : cid ∉ later.filterMap Entry.armed?) : .did (.disarm cid) ∉ later := by
  intro again
  obtain ⟨between, rest, whole⟩ := List.append_of_mem again
  have split : log = (past ++ entry :: between) ++ .did (.disarm cid) :: rest := by
    rw [split, whole, List.append_assoc, List.cons_append]
  obtain ⟨due, waited⟩ := timely_at settings [] log _ rest _ timely split
  rw [List.nil_append, awaited_append, List.foldl_cons] at waited
  refine gone_awaited (entry.await (awaited past)) between cid ?_ (settled_await _ entry cid settles) due ?_
  · intro armed
    rw [whole, List.filterMap_append] at unset
    exact unset (List.mem_append_left _ armed)
  · rw [waited]
    exact List.mem_cons_self

-- How it ends for a wakeup, as the entries tell it that follow its setting: it is waited for still, or it
-- was called off, once, or it came due, and then its operation failed in time and nothing was called off.
inductive History.Leaves (h : History) (id : OperationId) (cid : CorrelationId) (due : Time) :
    List Entry → List Entry → Prop where
  | waiting (past later : List Entry) : h.scheduler.deadline = .armed cid due →
      (∀ entry ∈ later, entry.settles cid = false) → h.Leaves id cid due past later
  | calledOff (past between rest : List Entry) : (∀ entry ∈ between, entry.settles cid = false) →
      .did (.disarm cid) ∉ rest → h.Leaves id cid due past (between ++ .did (.disarm cid) :: rest)
  | cameDue (past between rest : List Entry) (before : History) (answers : Answers) (calls : List (Answers × Call))
      (op : Operation) : (∀ entry ∈ between, entry.settles cid = false) → .did (.disarm cid) ∉ rest →
      before.log = past ++ between → h = (before.next answers (.wake cid)).run calls → op.id = id →
      (op, .failed .timeout) ∈ (before.scheduler.step answers (.wake cid)).ended →
      .failure id op.replyTo .fail ∈ (before.scheduler.step answers (.wake cid)).effects →
      h.Leaves id cid due past (between ++ .heard (.wake cid) :: rest)

structure History.WakeupsExact (settings : Settings) (h : History) : Prop where
  single : ∀ past later, h.log = past ++ later → (awaited past).length ≤ 1
  current : awaited h.log = h.scheduler.deadline.awaited
  -- one for each operation that the hardware accepts, at once and under its name, and for no other
  armed : ∀ past id cid peers later, h.log = past ++ .did (.submit id cid peers true) :: later → ∃ now rest,
    later = .did (.clock now) :: .did (.arm (min (now + settings.hardwareTimeout) 18446744073709551615) cid) :: rest
  accepted : ∀ past due cid later, h.log = past ++ .did (.arm due cid) :: later → ∃ before id peers now,
    past = before ++ [.did (.submit id cid peers true), .did (.clock now)]
  once : (h.log.filterMap Entry.armed?).Nodup
  rejected : ∀ id cid peers, .submit id cid peers false ∈ h.effects → cid ∉ h.log.filterMap Entry.armed?
  left : ∀ past id cid peers now due later,
    h.log = past ++ .did (.submit id cid peers true) :: .did (.clock now) :: .did (.arm due cid) :: later →
    h.Leaves id cid due (past ++ [.did (.submit id cid peers true), .did (.clock now), .did (.arm due cid)]) later
  disarmed : ∀ past cid later, h.log = past ++ .did (.disarm cid) :: later → ∃ due, awaited past = [(cid, due)]
  ignored : ∀ answers cid, (∀ wakeup ∈ awaited h.log, wakeup.1 ≠ cid) →
    h.scheduler.step answers (.wake cid) = h.scheduler.still
  -- nothing is armed already when the hardware accepts, and nothing comes due without an operation
  free : ∀ past id cid peers later, h.log = past ++ .did (.submit id cid peers true) :: later → awaited past = []
  dispatched : ∀ cid, h.scheduler.deadline.armedFor? = some cid →
    ∃ op, h.scheduler.slot = .dispatched op ∧ op.correlation = some cid

theorem nodup_filterMap {α β : Type} (name : α → Option β) (items : List α) (distinct : (items.filterMap name).Nodup)
    (a b : α) (n : β) (first : a ∈ items) (second : b ∈ items) (one : name a = some n) (two : name b = some n) :
    a = b := by
  induction items with
  | nil => cases first
  | cons item rest ih =>
      have listed : ∀ other ∈ rest, name other = some n → n ∈ rest.filterMap name :=
        fun other here same => List.mem_filterMap.2 ⟨other, here, same⟩
      rcases List.mem_cons.1 first with rfl | here
      · rcases List.mem_cons.1 second with rfl | there
        · rfl
        · rw [List.filterMap_cons_some one] at distinct
          exact absurd (listed b there two) (List.nodup_cons.1 distinct).1
      · rcases List.mem_cons.1 second with rfl | there
        · rw [List.filterMap_cons_some two] at distinct
          exact absurd (listed a here one) (List.nodup_cons.1 distinct).1
        · refine ih (distinct.sublist ?_) here there
          exact (List.sublist_cons_self _ _).filterMap name

theorem filterMap_sublist {α β : Type} (few many : α → Option β)
    (within : ∀ item n, few item = some n → many item = some n) (items : List α) :
    (items.filterMap few).Sublist (items.filterMap many) := by
  induction items with
  | nil => exact .slnil
  | cons item rest ih =>
      cases here : few item with
      | none =>
          rw [List.filterMap_cons_none here]
          exact ih.trans ((List.sublist_cons_self _ _).filterMap many)
      | some n =>
          rw [List.filterMap_cons_some here, List.filterMap_cons_some (within item n here)]
          exact ih.cons_cons n

def Entry.handed? : Entry → Option CorrelationId
  | .did (.submit _ cid _ _) => some cid
  | _ => none

theorem handed_submissions (h : History) : h.submissions.map Prod.snd = h.log.filterMap Entry.handed? := by
  rw [History.submissions, History.wire, List.filterMap_filterMap, List.map_filterMap]
  congr 1
  funext entry
  cases entry with
  | heard call => cases call <;> rfl
  | did effect => cases effect <;> rfl

theorem accepted_handed (entry : Entry) (cid : CorrelationId) (accepted : entry.accepted? = some cid) :
    entry.handed? = some cid := by
  cases entry with
  | heard call => cases accepted
  | did effect =>
      cases effect with
      | submit id other peers taken => cases taken <;> cases accepted; rfl
      | _ => cases accepted

theorem armed_free (past later : List Entry) (due : Time) (cid : CorrelationId) (log : List Entry)
    (timely : Timely settings [] log) (split : log = past ++ .did (.arm due cid) :: later) : awaited past = [] := by
  obtain ⟨before, id, peers, now, same⟩ := timely_at settings [] log past later _ timely split
  have whole : past = before ++ [.did (.submit id cid peers true), .did (.clock now)] := same
  have submitted : log =
      before ++ .did (.submit id cid peers true) :: .did (.clock now) :: .did (.arm due cid) :: later := by
    rw [split, whole]
    simp
  have free : awaited before = [] := (timely_at settings [] log before _ _ timely submitted).1
  rw [whole, awaited_append, free]
  rfl

theorem timely_single (log : List Entry) (timely : Timely settings [] log) (past later : List Entry)
    (split : log = past ++ later) : (awaited past).length ≤ 1 := by
  induction past using List.reverseRecOn generalizing later with
  | nil => exact Nat.zero_le _
  | append_singleton before entry ih =>
      rw [List.append_assoc, List.singleton_append] at split
      have single := ih _ split
      rw [awaited_append]
      cases entry with
      | heard call =>
          cases call with
          | wake cid => exact Nat.le_trans (List.length_filter_le _ _) single
          | _ => exact single
      | did effect =>
          cases effect with
          | arm due cid =>
              rw [armed_free settings before later due cid log timely split]
              exact Nat.le_refl _
          | disarm cid => exact Nat.le_trans (List.length_filter_le _ _) single
          | _ => exact single

theorem awaited_deadline (deadline : Deadline) (cid : CorrelationId) (due : Time)
    (member : (cid, due) ∈ deadline.awaited) : deadline = .armed cid due := by
  cases deadline with
  | unarmed => cases member
  | armed other time =>
      cases List.mem_singleton.1 member
      rfl

theorem reached_handed (h : History) (path : History.Reached settings h) (few : h.submissions.length ≤ 4294967296) :
    (h.log.filterMap Entry.handed?).Nodup ∧ (h.log.filterMap Entry.armed?).Nodup := by
  have handed := handed_submissions h ▸ reached_fresh settings h path few
  have paired : h.log.filterMap Entry.armed? = h.log.filterMap Entry.accepted? :=
    (reached_wakeupsMatch settings h path).paired
  refine ⟨handed, ?_⟩
  rw [paired]
  exact handed.sublist (filterMap_sublist _ _ accepted_handed h.log)

theorem reached_due (h before : History) (answers : Answers) (calls : List (Answers × Call))
    (past between rest : List Entry) (id : OperationId) (cid : CorrelationId) (peers : List MacAddress) (due : Time)
    (reached : History.Reached settings before)
    (handed : (h.log.filterMap Entry.handed?).Nodup) (same : h = (before.next answers (.wake cid)).run calls)
    (log : before.log = past ++ between) (submitted : .did (.submit id cid peers true) ∈ past)
    (waited : (cid, due) ∈ awaited before.log) (kept : ∀ entry ∈ between, entry.settles cid = false)
    (spared : .did (.disarm cid) ∉ rest) : h.Leaves id cid due past (between ++ .heard (.wake cid) :: rest) := by
  have current : awaited before.log = before.scheduler.deadline.awaited :=
    (reached_wakeupsMatch settings before reached).current
  have armed := awaited_deadline _ cid due (current ▸ waited)
  have slotMatches := (reached_sound before settings reached).slotMatches
  obtain ⟨op, _, slot, correlation, _⟩ := slotMatches.armed (.clear before) cid (by
    show before.scheduler.deadline.armedFor? = some cid
    rw [armed]
    rfl)
  have named : op.id = id := by
    obtain ⟨more, whole⟩ := History.run_log (((answers, .wake cid) :: calls)) before
    have whole : h.log = before.log ++ more := by rw [same]; exact whole
    have flying := reached_flying settings before reached op cid slot correlation
    have here : .did (.submit op.id cid op.hardwarePeers true) ∈ h.log :=
      whole ▸ List.mem_append_left _ ((History.effects_log before _).1 flying)
    have there : .did (.submit id cid peers true) ∈ h.log := by
      rw [whole, log]
      exact List.mem_append_left _ (List.mem_append_left _ submitted)
    cases nodup_filterMap Entry.handed? h.log handed _ _ cid here there rfl rfl
    rfl
  subst named
  have expires : before.scheduler.step answers (.wake cid) = _ :=
    wake_expires answers cid before.scheduler op due slot correlation armed
  refine .cameDue past between rest before answers calls op kept spared log same rfl ?_ ?_
  · rw [expires]
    simp [Scheduler.retire]
  · rw [expires]
    simp [Scheduler.retire, Scheduler.reply, FailureKind.code]

theorem reached_leaves (h : History) (path : History.Reached settings h) (few : h.submissions.length ≤ 4294967296)
    (past : List Entry) (id : OperationId) (cid : CorrelationId) (peers : List MacAddress) (now due : Time)
    (later : List Entry)
    (split : h.log = past ++ .did (.submit id cid peers true) :: .did (.clock now) :: .did (.arm due cid) :: later) :
    h.Leaves id cid due (past ++ [.did (.submit id cid peers true), .did (.clock now), .did (.arm due cid)]) later := by
  have wakeupsMatch := reached_wakeupsMatch settings h path
  obtain ⟨handed, once⟩ := reached_handed settings h path few
  have unset : cid ∉ later.filterMap Entry.armed? := by
    rw [split, List.filterMap_append] at once
    exact (List.nodup_cons.1 (List.nodup_append.1 once).2.1).1
  have split : h.log =
      (past ++ [.did (.submit id cid peers true), .did (.clock now), .did (.arm due cid)]) ++ later := by simp [split]
  have submitted : Entry.did (.submit id cid peers true) ∈
      past ++ [.did (.submit id cid peers true), .did (.clock now), .did (.arm due cid)] := by simp
  have set : (cid, due) ∈
      awaited (past ++ [.did (.submit id cid peers true), .did (.clock now), .did (.arm due cid)]) := by
    rw [awaited_append]
    exact List.mem_append_right _ List.mem_cons_self
  generalize past ++ [.did (.submit id cid peers true), .did (.clock now), .did (.arm due cid)] = start
    at split submitted set ⊢
  cases found : later.find? (Entry.settles cid) with
  | none =>
      have kept : ∀ entry ∈ later, entry.settles cid = false := by simpa using found
      have current : awaited h.log = h.scheduler.deadline.awaited := wakeupsMatch.current
      have waited : (cid, due) ∈ awaited h.log := by
        rw [split, awaited_append]
        exact mem_awaited _ later cid due kept set
      exact .waiting start later (awaited_deadline _ cid due (current ▸ waited)) kept
  | some entry =>
      obtain ⟨settles, between, rest, rfl, kept⟩ := List.find?_eq_some_iff_append.1 found
      have kept : ∀ entry ∈ between, entry.settles cid = false := by simpa using kept
      have placed : h.log = (start ++ between) ++ entry :: rest := by rw [split, List.append_assoc]
      have later : cid ∉ rest.filterMap Entry.armed? := by
        intro armed
        obtain ⟨other, member, same⟩ := List.mem_filterMap.1 armed
        exact unset (List.mem_filterMap.2 ⟨other, by simp [member], same⟩)
      have spared := settled_once settings h.log _ rest entry cid wakeupsMatch.timely placed settles later
      cases entry with
      | did effect =>
          cases effect with
          | disarm other =>
              obtain rfl : other = cid := by simpa [Entry.settles] using settles
              exact .calledOff start between rest kept spared
          | _ => cases settles
      | heard call =>
          cases call with
          | wake other =>
              obtain rfl : other = cid := by simpa [Entry.settles] using settles
              obtain ⟨before, answers, calls, more, reached, same, log, _⟩ :=
                History.reached_heard settings h _ rest _ path placed
              have waited : (other, due) ∈ awaited before.log := by
                rw [← log, awaited_append]
                exact mem_awaited _ between other due kept set
              exact reached_due settings h before answers calls start between rest id other peers due reached handed
                same log.symm submitted waited kept spared
          | _ => cases settles

theorem reached_wakeupsExact (h : History) (path : History.Reached settings h)
    (few : h.submissions.length ≤ 4294967296) :
    h.WakeupsExact settings := by
  obtain ⟨timely, current, paired⟩ := reached_wakeupsMatch settings h path
  obtain ⟨handed, once⟩ := reached_handed settings h path few
  have at_place : ∀ past entry later, h.log = past ++ entry :: later → entry.Timely settings past later :=
    fun past entry later split => timely_at settings [] h.log past later entry timely split
  refine ⟨timely_single settings h.log timely, current, ?_, ?_, once, ?_, reached_leaves settings h path few,
    ?_, ?_, ?_, ?_⟩
  · intro past id cid peers later split
    exact (at_place past _ later split).2 rfl
  · intro past due cid later split
    exact at_place past _ later split
  · intro id cid peers rejected armed
    have paired : h.log.filterMap Entry.armed? = h.log.filterMap Entry.accepted? := paired
    rw [paired] at armed
    obtain ⟨entry, member, accepted⟩ := List.mem_filterMap.1 armed
    have one := nodup_filterMap Entry.handed? h.log handed _ _ cid ((History.effects_log h _).1 rejected) member rfl
      (accepted_handed entry cid accepted)
    rw [← one] at accepted
    cases accepted
  · intro past cid later split
    exact at_place past _ later split
  · intro answers cid gone
    refine wake_ignores answers cid h.scheduler fun armed => ?_
    obtain ⟨_, due, _, _, waited⟩ := (reached_sound h settings path).slotMatches.armed (.clear h) cid armed
    have member : (cid, due) ∈ awaited h.log := by
      have current : awaited h.log = h.scheduler.deadline.awaited := current
      rw [current, show h.scheduler.deadline = _ from waited]
      exact List.mem_cons_self
    exact gone _ member rfl
  · intro past id cid peers later split
    exact (at_place past _ later split).1
  · intro cid armed
    obtain ⟨op, _, slot, correlation, _⟩ := (reached_sound h settings path).slotMatches.armed (.clear h) cid armed
    exact ⟨op, slot, correlation⟩

-- The third wakeup came due, the first was called off, and the fourth is waited for.
theorem sample_wakeupsExact :
    History.Reached .standard History.sample ∧ History.sample.submissions.length ≤ 4294967296 ∧
    History.sample.log.filterMap Entry.armed? = [⟨1⟩, ⟨3⟩, ⟨4⟩] ∧
    History.sample.effects.filter (fun effect => effect = .disarm ⟨1⟩ ∨ effect = .disarm ⟨3⟩) = [.disarm ⟨1⟩] ∧
    History.sample.WakeupsExact .standard :=
  ⟨sample_reached, by decide, by decide, by decide,
    reached_wakeupsExact .standard History.sample sample_reached (by decide)⟩

end Ranging

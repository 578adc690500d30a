import Ranging.Proofs.LedgerStamps

-- The gap between background dispatches is kept at the admission and nowhere else. Whoever is let in
-- while the slot is busy goes to the hardware later without another look at the ledger, so two
-- hand-overs that are billed to one uid can follow each other at once.
namespace Ranging

def Entry.clock? : Entry → Option Time
  | .did (.clock now) => some now
  | _ => none

def History.ClockMonotone (h : History) : Prop := (h.log.filterMap Entry.clock?).Pairwise fun a b => a ≤ b

def Effect.isForeground : Effect → Bool
  | .importance _ foreground => foreground
  | _ => false

def History.AllBackground (h : History) : Prop := ∀ effect ∈ h.effects, effect.isForeground = false

def History.GapPassed (settings : Settings) (h : History) (log : List Entry) (uid : Uid) (now : Time) : Prop :=
  (∀ id ∈ taken log, ¬ h.Bills uid id) ∨
    ∃ last, LastTaken (h.Bills uid) log last ∧ last + settings.backgroundGap < now

-- The gap lies before every hand-over, for one at least of those who are billed.
def History.GapAtDispatch (settings : Settings) (h : History) : Prop :=
  ∀ past id cid peers now later sub, h.log = past ++ .did (.submit id cid peers true) :: .did (.clock now) :: later →
    (id, sub) ∈ h.admitted → ∃ uid ∈ sub.payers, h.GapPassed settings past uid now

namespace History
variable (settings : Settings) (h : History)

theorem GapPassed.append (log said : List Entry) (uid : Uid) (moment now : Time)
    (recovered : h.GapPassed settings log uid moment) (onward : moment ≤ now)
    (none : ∀ id ∈ taken said, ¬ h.Bills uid id) : h.GapPassed settings (log ++ said) uid now := by
  rcases recovered with never | ⟨last, stamp, rested⟩
  · left
    intro id listed
    rw [taken_append] at listed
    rcases List.mem_append.1 listed with before | after
    · exact never id before
    · exact none id after
  · exact .inr ⟨last, stamp.append _ _ _ said none, Nat.lt_of_lt_of_le rested onward⟩

theorem GapPassed.congr (g : History) (log : List Entry) (uid : Uid) (now : Time)
    (recovered : g.GapPassed settings log uid now) (same : ∀ id ∈ taken log, (g.Bills uid id ↔ h.Bills uid id)) :
    h.GapPassed settings log uid now := by
  rcases recovered with never | ⟨last, stamp, rested⟩
  · exact .inl fun id listed billed => never id listed ((same id listed).2 billed)
  · exact .inr ⟨last, stamp.congr _ _ _ _ same, rested⟩

end History

theorem move_next (d e : MidCall) (move : Move d e) :
    d.scheduler.nextOperation.val ≤ e.scheduler.nextOperation.val := by
  cases move_flow d e move with
  | kept present standing ended admitted buried next registry => exact Nat.le_of_eq (by rw [next])
  | left op outcome present standing ended admitted buried next registry => exact Nat.le_of_eq (by rw [next])
  | refused answers sub op kind made wellFormed present standing ended admitted buried next registry =>
      rw [next]
      exact Nat.le_succ _
  | joined answers sub op made wellFormed present standing ended admitted unburied buried next registry =>
      rw [next]
      exact Nat.le_succ _
  | buried token ids present standing ended admitted unburied buried next purged => exact Nat.le_of_eq (by rw [next])
  | forgotten token present standing ended admitted buried unburied gone next registry =>
      exact Nat.le_of_eq (by rw [next])

theorem run_bills (settings : Settings) (calls : List (Answers × Call)) (h : History)
    (path : History.Reached settings h) (uid : Uid) (id : OperationId)
    (below : id.val < h.scheduler.nextOperation.val) : (h.run calls).Bills uid id ↔ h.Bills uid id := by
  induction calls generalizing h with
  | nil => exact Iff.rfl
  | cons asked rest ih =>
      have moves := next_moves h asked.1 asked.2 (reached_sound h settings path).slotMatches
      obtain ⟨same, more⟩ := moves.kept
        (fun d => (d.Bills uid id ↔ h.Bills uid id) ∧ id.val < d.scheduler.nextOperation.val)
        (by
          intro d e before move
          obtain ⟨same, below⟩ := before
          exact ⟨(bills_kept d e move uid id below).trans same, Nat.lt_of_lt_of_le below (move_next d e move)⟩)
        ⟨Iff.rfl, below⟩
      exact (ih _ (.next asked.1 asked.2 h path) more).trans same

def Clocked (d : MidCall) : Prop :=
  ∀ past id cid peers rest, d.log = past ++ .did (.submit id cid peers true) :: rest →
    ∃ now later sub, rest = .did (.clock now) :: later ∧ (id, sub) ∈ d.admitted

theorem clocked_kept (settings : Settings) (d e : MidCall) (conserves : Conserved settings d) (clocked : Clocked d)
    (move : Move d e) : Clocked e := by
  have grows : d.admitted ⊆ e.admitted := by
    rcases move_admitted d e move with admitted | ⟨sub, admitted⟩
    · rw [admitted]
      exact List.Subset.refl _
    · rw [admitted]
      exact List.subset_append_left _ _
  intro past id cid peers rest split
  cases move_stamping d e move with
  | quiet said log untaken ledger =>
      rw [log] at split
      rcases split_append _ _ _ _ _ split with ⟨more, before, rfl⟩ | ⟨more, _, after⟩
      · obtain ⟨now, later, sub, rfl, admitted⟩ := clocked past id cid peers more before
        exact ⟨now, later ++ said, sub, rfl, grows admitted⟩
      · have member : id ∈ taken said := (mem_taken said id).2 ⟨cid, peers, by rw [after]; simp⟩
        rw [untaken] at member
        cases member
  | stamped op name now due poised log ledger =>
      rw [log] at split
      rcases split_append _ _ _ _ _ split with ⟨more, before, rfl⟩ | ⟨more, _, after⟩
      · obtain ⟨now, later, sub, rfl, admitted⟩ := clocked past id cid peers more before
        exact ⟨now, _, sub, rfl, grows admitted⟩
      · have present : op ∈ d.present := by simp [MidCall.present, MidCall.standing, poised]
        have listed := conserves.conserved.mem_iff.1 (List.mem_append_right _ (List.mem_map_of_mem present))
        obtain ⟨a, admitted, same⟩ := List.mem_map.1 listed
        have named : a.1 = op.id := congrArg Prod.fst same
        rcases more with _ | ⟨_, _ | ⟨_, _ | ⟨_, _⟩⟩⟩
        · cases after
          exact ⟨now, _, a.2, rfl, grows (named ▸ admitted)⟩
        · cases (List.cons.inj (List.cons.inj after).2).1
        · cases (List.cons.inj (List.cons.inj (List.cons.inj after).2).2).1
        · have short := congrArg List.length after
          simp at short

theorem reached_clocked (settings : Settings) (h : History) (path : History.Reached settings h) :
    Clocked (.clear h) := by
  have laws : Conserved settings (.clear h) ∧ Clocked (.clear h) := by
    refine reached_law h settings (fun d => Conserved settings d ∧ Clocked d) ?_ ?_ path
    · intro ready positive
      refine ⟨fresh_conserved settings ready, ?_⟩
      intro past id cid peers rest split
      have member : .did (.submit id cid peers true) ∈ (History.fresh settings ready).log := by
        rw [show (History.fresh settings ready).log = _ from split]
        simp
      cases List.mem_singleton.1 member
    · intro d e _ laws move
      exact ⟨conserved_kept settings d e laws.1 move, clocked_kept settings d e laws.1 laws.2 move⟩
  exact laws.2

theorem reached_admission (settings : Settings) (h : History) (path : History.Reached settings h) (id : OperationId)
    (sub : Submission) (listed : (id, sub) ∈ h.admitted) : ∃ g answers calls, History.Reached settings g ∧
      g.scheduler.nextOperation = id ∧ sub.request.validate g.scheduler.settings.maxPeers = .ok () ∧
      h = (g.next answers (.submit sub)).run calls := by
  induction path with
  | start ready h made =>
      obtain ⟨_, rfl⟩ := (History.start_eq_ok_iff settings ready h).1 made
      cases listed
  | next answers call h path ih =>
      rcases List.mem_append.1 listed with before | now
      · obtain ⟨g, asked, calls, reached, named, formed, same⟩ := ih before
        exact ⟨g, asked, calls ++ [(answers, call)], reached, named, formed, by rw [History.run_snoc, ← same]⟩
      · cases call with
        | submit other =>
            cases formed : other.request.validate h.scheduler.settings.maxPeers with
            | error e => simp [Scheduler.admits, Scheduler.submit, formed] at now
            | ok _ =>
                obtain ⟨rfl, rfl⟩ : id = h.scheduler.nextOperation ∧ sub = other := by
                  simpa [Scheduler.admits, Scheduler.submit, formed] using now
                exact ⟨h, answers, [], path, rfl, formed, rfl⟩
        | _ => cases now

-- What the hardware takes on at last was let in, for whoever is refused ends without a correlation id.
theorem taken_allowed (settings : Settings) (g : History) (path : History.Reached settings g) (answers : Answers)
    (sub : Submission) (calls : List (Answers × Call))
    (formed : sub.request.validate g.scheduler.settings.maxPeers = .ok ())
    (later : g.scheduler.nextOperation ∈ taken ((g.next answers (.submit sub)).run calls).log) :
    (g.scheduler.counted.verdict answers (g.scheduler.operationOf answers sub)).1 = none := by
  cases verdict : (g.scheduler.counted.verdict answers (g.scheduler.operationOf answers sub)).1 with
  | none => rfl
  | some kind =>
      have refused := accept_refused answers sub g.scheduler kind verdict
      have ended : (g.scheduler.operationOf answers sub, .failed kind) ∈ (g.next answers (.submit sub)).ended := by
        rw [History.next_ended]
        simp [Scheduler.step, Scheduler.submit, formed, refused, Scheduler.retire]
      have reached := History.run_reached settings calls _ (.next answers (.submit sub) g path)
      have unserved := reached_unserved settings _ reached _ (History.run_ended calls _ ended) rfl
      exact absurd (taken_served _ _ later) unserved

theorem passed_spoken (g : History) (answers : Answers) (sub : Submission)
    (formed : sub.request.validate g.scheduler.settings.maxPeers = .ok ())
    (passed : (g.scheduler.counted.verdict answers (g.scheduler.operationOf answers sub)).1 = none) :
    ∃ said : List Effect, g.spoken answers (.submit sub) =
        .heard (.submit sub) :: .did (.clock answers.admissionClock) :: said.map .did ∧
      .importance sub.requester.uid (answers.foreground sub.requester.uid) ∈ said := by
  have turn : g.scheduler.step answers (.submit sub) = ((g.scheduler.interview answers sub).andThen
      (Scheduler.enqueue (g.scheduler.operationOf answers sub))).andThen (Scheduler.fill answers) := by
    rw [← accept_joined answers sub g.scheduler passed]
    simp only [Scheduler.step, Scheduler.submit, formed]
  have asked : .importance sub.requester.uid (answers.foreground sub.requester.uid) ∈
      (g.scheduler.counted.verdict answers (g.scheduler.operationOf answers sub)).2 := by
    rw [(Scheduler.verdict_passed answers _ _ passed).2.2]
    exact List.mem_cons_of_mem _ List.mem_cons_self
  rw [History.spoken, turn]
  exact ⟨_, rfl, List.mem_append_left _ (List.mem_append_left _ asked)⟩

theorem handed_later (settings : Settings) (g : History) (path : History.Reached settings g) (now : Time)
    (sub : Submission) (said past rest : List Entry) (cid : CorrelationId) (peers : List MacAddress)
    (split : g.log ++ .heard (.submit sub) :: .did (.clock now) :: said =
      past ++ .did (.submit g.scheduler.nextOperation cid peers true) :: rest) :
    ∃ since, past = g.log ++ .heard (.submit sub) :: .did (.clock now) :: since := by
  rcases split_append _ _ _ _ _ split with ⟨more, before, _⟩ | ⟨more, here, after⟩
  · have listed : g.scheduler.nextOperation ∈ taken g.log := (mem_taken _ _).2 ⟨cid, peers, by rw [before]; simp⟩
    have below := (reached_servedInOrder settings g path).below _ (List.mem_append_left _ (taken_served g _ listed))
    exact absurd below (Nat.lt_irrefl _)
  · match more with
    | [] => cases (List.cons.inj after).1
    | [_] => cases (List.cons.inj (List.cons.inj after).2).1
    | first :: second :: since =>
        obtain ⟨rfl, others⟩ := List.cons.inj after
        obtain ⟨rfl, _⟩ := List.cons.inj others
        exact ⟨since, here⟩

-- What the ledger does keep: whoever goes to the hardware had the gap behind it as it was let in, and
-- has it still unless something else billed to the same uid was taken on since then.
def History.GapAtAdmission (settings : Settings) (h : History) : Prop :=
  ∀ past id cid peers rest, h.log = past ++ .did (.submit id cid peers true) :: rest →
    ∃ now later sub g answers calls since,
      rest = .did (.clock now) :: later ∧ (id, sub) ∈ h.admitted ∧
      History.Reached settings g ∧ g.scheduler.nextOperation = id ∧ h = (g.next answers (.submit sub)).run calls ∧
      past = g.log ++ .heard (.submit sub) :: .did (.clock answers.admissionClock) :: since ∧
      answers.admissionClock ≤ now ∧
      ∃ uid ∈ sub.payers, h.GapPassed settings g.log uid answers.admissionClock ∧
        ((∀ other ∈ taken since, ¬ h.Bills uid other) → h.GapPassed settings past uid now)

theorem clockMonotone_split (h : History) (steady : h.ClockMonotone) (first second : List Entry) (moment now : Time)
    (log : h.log = first ++ second) (before : .did (.clock moment) ∈ first) (after : .did (.clock now) ∈ second) :
    moment ≤ now := by
  rw [History.ClockMonotone, log, List.filterMap_append, List.pairwise_append] at steady
  exact steady.2.2 moment (List.mem_filterMap.2 ⟨_, before, rfl⟩) now (List.mem_filterMap.2 ⟨_, after, rfl⟩)

theorem admitted_gapPassed (settings : Settings) (g : History) (path : History.Reached settings g) (answers : Answers)
    (sub : Submission) (passed : (g.scheduler.counted.verdict answers (g.scheduler.operationOf answers sub)).1 = none)
    (background : answers.foreground sub.requester.uid = false) :
    ∃ uid ∈ sub.payers, g.GapPassed settings g.log uid answers.admissionClock := by
  have allowed := (Scheduler.verdict_passed answers _ _ passed).2.1
  have allowed : g.scheduler.ledger.allows sub.payers false answers.admissionClock = true := background ▸ allowed
  obtain ⟨uid, billed, rested⟩ := Ledger.allows_rested _ _ _ allowed
  have gap : g.scheduler.ledger.gap = settings.backgroundGap := (reached_stamped settings g path).gap
  refine ⟨uid, billed, ?_⟩
  cases found : g.scheduler.ledger.last? uid with
  | none => exact .inl ((reached_never settings g path uid).1 found)
  | some last => exact .inr ⟨last, (reached_last settings g path uid last).1 found, gap ▸ rested last found⟩

theorem reached_gapAtAdmission (settings : Settings) (h : History) (path : History.Reached settings h)
    (steady : h.ClockMonotone) (backstage : h.AllBackground) : h.GapAtAdmission settings := by
  intro past id cid peers rest split
  obtain ⟨now, later, sub, rfl, listed⟩ := reached_clocked settings h path past id cid peers rest split
  obtain ⟨g, answers, calls, reached, rfl, formed, rfl⟩ := reached_admission settings h path id sub listed
  have handed : g.scheduler.nextOperation ∈ taken ((g.next answers (.submit sub)).run calls).log :=
    (mem_taken _ _).2 ⟨cid, peers, by rw [split]; simp⟩
  have passed := taken_allowed settings g reached answers sub calls formed handed
  obtain ⟨said, spoken, asked⟩ := passed_spoken g answers sub formed passed
  obtain ⟨more, whole⟩ := History.run_log calls (g.next answers (.submit sub))
  rw [History.next_log, spoken, List.append_assoc, List.cons_append, List.cons_append] at whole
  have background : answers.foreground sub.requester.uid = false := by
    cases foreground : answers.foreground sub.requester.uid with
    | false => rfl
    | true =>
        rw [foreground] at asked
        have member : .did (.importance sub.requester.uid true) ∈ ((g.next answers (.submit sub)).run calls).log := by
          rw [whole]
          simp [asked]
        cases backstage _ ((History.effects_log _ _).2 member)
  obtain ⟨since, place⟩ := handed_later settings g reached answers.admissionClock sub (said.map .did ++ more) past _
    cid peers (whole.symm.trans split)
  have onward : answers.admissionClock ≤ now :=
    clockMonotone_split _ steady past _ _ _ split (by rw [place]; simp) (by simp)
  obtain ⟨uid, billed, recovered⟩ := admitted_gapPassed settings g reached answers sub passed background
  have named : ∀ id ∈ taken g.log, (g.Bills uid id ↔ ((g.next answers (.submit sub)).run calls).Bills uid id) := by
    intro id before
    have below := (reached_servedInOrder settings g reached).below id
      (List.mem_append_left _ (taken_served g id before))
    exact (run_bills settings ((answers, .submit sub) :: calls) g reached uid id below).symm
  have recovered := recovered.congr settings _ g g.log uid answers.admissionClock named
  refine ⟨now, later, sub, g, answers, calls, since, rfl, listed, reached, rfl, rfl, place, onward, uid, billed,
    recovered, ?_⟩
  intro untaken
  rw [place]
  refine recovered.append settings _ _ _ _ _ _ onward ?_
  intro other after
  exact untaken other after

def Answers.still : Answers := ⟨fun _ => true, fun _ => false, fun _ _ _ => true, 0, 0⟩

-- Three operations, the last two for one caller. Both were let in before anything was billed to that caller,
-- so the second is handed over right after the first, without any gap.
def History.crowded : History :=
  (History.fresh .standard true).run (List.map (Prod.mk Answers.still)
    [.submit ⟨⟨9, "far"⟩, none, .sample 1, ⟨1⟩, ⟨1⟩⟩, .submit (.sample 2 (.sample 2)), .submit (.sample 3 (.sample 3)),
      .measured ⟨1⟩ [], .measured ⟨2⟩ []])

theorem crowded_reached : History.Reached .standard History.crowded := History.run_reached _ _ _ (.start true _ rfl)

theorem crowded_clockMonotone : History.crowded.ClockMonotone := by
  unfold History.ClockMonotone
  decide

theorem crowded_allBackground : History.crowded.AllBackground := by
  unfold History.AllBackground
  decide

theorem crowded_gapBroken : History.Reached .standard History.crowded ∧ History.crowded.ClockMonotone ∧
    History.crowded.AllBackground ∧ ¬ History.crowded.GapAtDispatch .standard := by
  refine ⟨crowded_reached, crowded_clockMonotone, crowded_allBackground, ?_⟩
  intro spaced
  obtain ⟨uid, billed, recovered⟩ := spaced (History.crowded.log.take 32) ⟨3⟩ ⟨3⟩ _ 0 _ (.sample 3 (.sample 3)) rfl
    (by decide)
  obtain rfl : uid = 1000 := List.mem_singleton.1 billed
  rcases recovered with never | ⟨last, _, rested⟩
  · exact never ⟨2⟩ (by decide) ⟨.sample 2 (.sample 2), by decide, billed⟩
  · exact absurd rested (Nat.not_lt_zero _)

theorem crowded_gapAtAdmission : History.Reached .standard History.crowded ∧ History.crowded.ClockMonotone ∧
    History.crowded.AllBackground ∧ taken History.crowded.log = [⟨1⟩, ⟨2⟩, ⟨3⟩] ∧
      History.crowded.GapAtAdmission .standard :=
  ⟨crowded_reached, crowded_clockMonotone, crowded_allBackground, by decide,
    reached_gapAtAdmission .standard History.crowded crowded_reached crowded_clockMonotone crowded_allBackground⟩

end Ranging

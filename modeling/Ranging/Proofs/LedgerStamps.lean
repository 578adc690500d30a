import Ranging.Proofs.CorrelationMarks

-- The ledger is what the hardware took on, and nothing else: a uid's stamp is what the clock showed at the
-- last hand-over that was billed to it and accepted.
namespace Ranging

def Entry.taken? : Entry → Option OperationId
  | .did (.submit id _ _ true) => some id
  | _ => none

def taken (log : List Entry) : List OperationId := log.filterMap Entry.taken?

def History.Bills (h : History) (uid : Uid) (id : OperationId) : Prop :=
  ∃ sub, (id, sub) ∈ h.admitted ∧ uid ∈ sub.payers

-- What the clock showed as the hardware took on the last operation of a kind.
def LastTaken (kind : OperationId → Prop) (log : List Entry) (now : Time) : Prop :=
  ∃ past id cid peers later, log = past ++ .did (.submit id cid peers true) :: .did (.clock now) :: later ∧
    kind id ∧ ∀ other ∈ taken later, ¬ kind other

theorem taken_append (first second : List Entry) : taken (first ++ second) = taken first ++ taken second :=
  List.filterMap_append

theorem mem_taken (log : List Entry) (id : OperationId) :
    id ∈ taken log ↔ ∃ cid peers, .did (.submit id cid peers true) ∈ log := by
  constructor
  · intro listed
    obtain ⟨entry, member, same⟩ := List.mem_filterMap.1 listed
    cases entry with
    | heard call => cases same
    | did effect =>
        cases effect with
        | submit other cid peers accepted =>
            cases accepted <;> cases same
            exact ⟨cid, peers, member⟩
        | _ => cases same
  · intro made
    obtain ⟨cid, peers, member⟩ := made
    exact List.mem_filterMap.2 ⟨_, member, rfl⟩

namespace LastTaken
variable (kind : OperationId → Prop) (log : List Entry) (now : Time)

theorem append (said : List Entry) (last : LastTaken kind log now) (none : ∀ id ∈ taken said, ¬ kind id) :
    LastTaken kind (log ++ said) now := by
  obtain ⟨past, id, cid, peers, later, rfl, here, since⟩ := last
  refine ⟨past, id, cid, peers, later ++ said, by simp, here, ?_⟩
  intro other listed
  rw [taken_append] at listed
  rcases List.mem_append.1 listed with before | after
  · exact since other before
  · exact none other after

theorem mem (last : LastTaken kind log now) : ∃ id ∈ taken log, kind id := by
  obtain ⟨past, id, cid, peers, later, rfl, here, _⟩ := last
  exact ⟨id, (mem_taken _ id).2 ⟨cid, peers, by simp⟩, here⟩

theorem congr (other : OperationId → Prop) (last : LastTaken kind log now)
    (same : ∀ id ∈ taken log, (kind id ↔ other id)) : LastTaken other log now := by
  obtain ⟨past, id, cid, peers, later, rfl, here, since⟩ := last
  have within : ∀ next ∈ taken later,
      next ∈ taken (past ++ .did (.submit id cid peers true) :: .did (.clock now) :: later) := by
    intro next after
    obtain ⟨cid, peers, member⟩ := (mem_taken _ next).1 after
    exact (mem_taken _ next).2 ⟨cid, peers, by simp [member]⟩
  refine ⟨past, id, cid, peers, later, rfl, ?_, ?_⟩
  · exact (same id ((mem_taken _ id).2 ⟨cid, peers, by simp⟩)).1 here
  · intro next after kept
    exact since next after ((same next (within next after)).2 kept)

theorem unique (moment : Time) (one : LastTaken kind log now) (two : LastTaken kind log moment) : now = moment := by
  obtain ⟨past, id, cid, peers, later, rfl, here, since⟩ := one
  obtain ⟨before, other, name, others, after, split, there, rest⟩ := two
  rcases split_append _ _ before _ _ split with ⟨between, _, follows⟩ | ⟨between, _, follows⟩
  · -- the second place lies before the first
    cases between with
    | nil => cases (List.cons.inj follows).1
    | cons head tail =>
        have member : .did (.submit id cid peers true) ∈ after := by
          rw [(List.cons.inj follows).2]
          simp
        exact absurd here (rest id ((mem_taken _ id).2 ⟨cid, peers, member⟩))
  · cases between with
    | nil =>
        obtain ⟨_, clock⟩ := List.cons.inj follows
        cases (List.cons.inj clock).1
        rfl
    | cons head tail =>
        obtain ⟨_, clock⟩ := List.cons.inj follows
        cases tail with
        | nil => cases (List.cons.inj clock).1
        | cons first rest =>
            have member : .did (.submit other name others true) ∈ later := by
              rw [(List.cons.inj clock).2]
              simp
            exact absurd there (since other ((mem_taken _ other).2 ⟨name, others, member⟩))

end LastTaken

inductive Stamping (d e : MidCall) : Prop where
  | quiet (said : List Entry) : e.log = d.log ++ said → taken said = [] →
      e.scheduler.ledger = d.scheduler.ledger → Stamping d e
  | stamped (op : Operation) (cid : CorrelationId) (now due : Time) : d.poised = some op →
      e.log = d.log ++ [.did (.submit op.id cid op.hardwarePeers true), .did (.clock now), .did (.arm due cid)] →
      e.scheduler.ledger = d.scheduler.ledger.record op.attribution now → Stamping d e

theorem clerical_untaken (call : Call) (said : List Effect) (clerical : said.all Effect.isClerical = true) :
    taken (.heard call :: said.map .did) = [] := by
  refine List.filterMap_eq_nil_iff.2 ?_
  intro entry member
  rcases List.mem_cons.1 member with rfl | told
  · rfl
  · obtain ⟨effect, made, rfl⟩ := List.mem_map.1 told
    have usual := List.all_eq_true.1 clerical effect made
    cases effect <;> first | rfl | cases usual

theorem retire_untaken (op : Operation) (outcome : Outcome) (s : Scheduler) :
    taken ((s.retire op outcome).effects.map .did) = [] :=
  clerical_untaken .shutdown _ (s.retire_clerical op outcome)

theorem move_stamping (d e : MidCall) (move : Move d e) : Stamping d e := by
  cases move with
  | hear call plain => exact .quiet [.heard call] rfl rfl rfl
  | discard cid report stale => exact .quiet _ (MidCall.heard_log d _ _) rfl rfl
  | report cid report op due granted free slot same armed => exact .quiet _ (MidCall.heard_log d _ _) rfl rfl
  | expire cid op due free slot same armed => exact .quiet _ (MidCall.heard_log d _ _) rfl rfl
  | translate answer op unpoised slot => exact .quiet _ (MidCall.heard_log d _ _) rfl rfl
  | refuse answers sub kind wellFormed verdict =>
      exact .quiet _ (MidCall.heard_log d _ _) (clerical_untaken _ _ (Scheduler.refuse_clerical answers sub kind _)) rfl
  | join answers sub wellFormed verdict unburied =>
      exact .quiet _ (MidCall.heard_log d _ _) (clerical_untaken _ _ (Scheduler.join_clerical answers sub _)) rfl
  | hardware ready =>
      exact .quiet _ (MidCall.heard_log d _ _) (clerical_untaken _ _ (Scheduler.proclaim_clerical _ _)) rfl
  | idleness idle =>
      exact .quiet _ (MidCall.heard_log d _ _) (clerical_untaken _ _ (Scheduler.proclaim_clerical _ _)) rfl
  | close openStill => exact .quiet _ (MidCall.heard_log d _ _) rfl rfl
  | bury token ids registry unburied purged => exact .quiet _ (MidCall.work_log d _) rfl rfl
  | forget token buried gone => exact .quiet [] (List.append_nil _).symm rfl rfl
  | pull chosen free => exact .quiet _ (MidCall.work_log d _) rfl rfl
  | release op free slot => exact .quiet _ (MidCall.work_log d _) rfl rfl
  | revoke cid op due free slot same armed => exact .quiet _ (MidCall.work_log d _) rfl rfl
  | retire op rest outcome first => exact .quiet _ (MidCall.work_log d _) (retire_untaken op outcome _) rfl
  | take op rest unpoised slot available queue => exact .quiet _ (MidCall.work_log d _) rfl rfl
  | park op poised slot needs => exact .quiet _ (MidCall.work_log d _) rfl rfl
  | bare op free poised slot known alone => exact .quiet [] (List.append_nil _).symm rfl rfl
  | reject op free poised slot known reachable => exact .quiet _ (MidCall.work_log d _) rfl rfl
  | engage op now poised slot unarmed known reachable => exact .stamped op _ now _ poised (MidCall.work_log d _) rfl

theorem move_admitted (d e : MidCall) (move : Move d e) :
    e.admitted = d.admitted ∨ ∃ sub, e.admitted = d.admitted ++ [(d.scheduler.nextOperation, sub)] := by
  cases move_flow d e move with
  | kept present standing ended admitted buried next registry => exact .inl admitted
  | left op outcome present standing ended admitted buried next registry => exact .inl admitted
  | refused answers sub op kind made wellFormed present standing ended admitted buried next registry =>
      exact .inr ⟨sub, by rw [admitted, made]; rfl⟩
  | joined answers sub op made wellFormed present standing ended admitted unburied buried next registry =>
      exact .inr ⟨sub, by rw [admitted, made]; rfl⟩
  | buried token ids present standing ended admitted unburied buried next purged => exact .inl admitted
  | forgotten token present standing ended admitted buried unburied gone next registry => exact .inl admitted

theorem bills_kept (d e : MidCall) (move : Move d e) (uid : Uid) (id : OperationId)
    (below : id.val < d.scheduler.nextOperation.val) : e.Bills uid id ↔ d.Bills uid id := by
  rcases move_admitted d e move with admitted | ⟨sub, admitted⟩
  · rw [History.Bills, admitted]
    rfl
  · rw [History.Bills, admitted]
    constructor
    · intro billed
      obtain ⟨other, listed, pays⟩ := billed
      rcases List.mem_append.1 listed with old | new
      · exact ⟨other, old, pays⟩
      · cases List.mem_singleton.1 new
        exact absurd below (Nat.lt_irrefl _)
    · intro billed
      obtain ⟨other, listed, pays⟩ := billed
      exact ⟨other, List.mem_append_left _ listed, pays⟩

theorem bills_present (settings : Settings) (d : MidCall) (conserves : Conserved settings d) (op : Operation)
    (present : op ∈ d.present) (uid : Uid) : d.Bills uid op.id ↔ uid ∈ op.attribution := by
  have listed := conserves.conserved.mem_iff.1 (List.mem_append_right _ (List.mem_map_of_mem present))
  obtain ⟨a, admitted, same⟩ := List.mem_map.1 listed
  have named : a.1 = op.id := congrArg Prod.fst same
  have billed : some a.2.payers = some op.attribution := congrArg (fun ticket => ticket.2.attribution) same
  rw [← Option.some.inj billed]
  constructor
  · intro bills
    obtain ⟨sub, other, pays⟩ := bills
    have one : (op.id, sub) = a :=
      List.inj_on_of_nodup_map (names_distinct _ conserves.ordered) other admitted named.symm
    exact one ▸ pays
  · exact fun pays => ⟨a.2, named ▸ admitted, pays⟩

theorem taken_served (h : History) (id : OperationId) (listed : id ∈ taken h.log) : id ∈ h.served := by
  obtain ⟨cid, peers, member⟩ := (mem_taken _ id).1 listed
  have handed := (mem_submissions h id cid).2 ⟨peers, true, (History.effects_log h _).2 member⟩
  exact List.mem_map_of_mem (f := Prod.fst) handed

structure Stamped (settings : Settings) (d : MidCall) : Prop where
  gap : d.scheduler.ledger.gap = settings.backgroundGap
  last : ∀ uid now, d.scheduler.ledger.last? uid = some now → LastTaken (d.Bills uid) d.log now
  never : ∀ uid, d.scheduler.ledger.last? uid = none → ∀ id ∈ taken d.log, ¬ d.Bills uid id

theorem stamped_kept (settings : Settings) (d e : MidCall) (conserves : Conserved settings d) (ahead : ServedInOrder d)
    (stamped : Stamped settings d) (move : Move d e) : Stamped settings e := by
  have known : ∀ uid, ∀ id ∈ taken d.log, (d.Bills uid id ↔ e.Bills uid id) := by
    intro uid id listed
    have below := ahead.below id (List.mem_append_left _ (taken_served d.toHistory id listed))
    exact (bills_kept d e move uid id below).symm
  have last : ∀ uid now, d.scheduler.ledger.last? uid = some now → LastTaken (e.Bills uid) d.log now :=
    fun uid now stamp => (stamped.last uid now stamp).congr _ _ _ _ (known uid)
  have never : ∀ uid, d.scheduler.ledger.last? uid = none → ∀ id ∈ taken d.log, ¬ e.Bills uid id :=
    fun uid clean id listed billed => stamped.never uid clean id listed ((known uid id listed).2 billed)
  cases move_stamping d e move with
  | quiet said log untaken ledger =>
      refine ⟨ledger ▸ stamped.gap, ?_, ?_⟩
      · intro uid now stamp
        rw [ledger] at stamp
        rw [log]
        exact (last uid now stamp).append _ _ _ said (by simp [untaken])
      · intro uid clean id listed
        rw [ledger] at clean
        rw [log, taken_append, untaken, List.append_nil] at listed
        exact never uid clean id listed
  | stamped op cid now due poised log ledger =>
      have present : op ∈ d.present := by simp [MidCall.present, MidCall.standing, poised]
      have below : op.id.val < d.scheduler.nextOperation.val :=
        ahead.below op.id (List.mem_append_right _ (List.mem_map_of_mem (by simp [poised])))
      have payers : ∀ uid, e.Bills uid op.id ↔ uid ∈ op.attribution := fun uid =>
        (bills_kept d e move uid op.id below).trans (bills_present settings d conserves op present uid)
      refine ⟨by rw [ledger]; exact stamped.gap, ?_, ?_⟩
      · intro uid stamp found
        rw [ledger, Ledger.last?_record] at found
        rw [log]
        split at found
        · next billed =>
            cases found
            exact ⟨d.log, op.id, cid, op.hardwarePeers, _, rfl, (payers uid).2 billed, by simp [taken, Entry.taken?]⟩
        · next spared =>
            refine (last uid stamp found).append _ _ _ _ ?_
            intro id listed billed
            obtain rfl : id = op.id := by simpa [taken, Entry.taken?] using listed
            exact spared ((payers uid).1 billed)
      · intro uid clean id listed billed
        rw [ledger, Ledger.last?_record] at clean
        split at clean
        · cases clean
        · next spared =>
            rw [log, taken_append] at listed
            rcases List.mem_append.1 listed with before | here
            · exact never uid clean id before billed
            · obtain rfl : id = op.id := by simpa [taken, Entry.taken?] using here
              exact spared ((payers uid).1 billed)

theorem reached_stamped (settings : Settings) (h : History) (path : History.Reached settings h) :
    Stamped settings (.clear h) := by
  have laws : Conserved settings (.clear h) ∧ ServedInOrder (.clear h) ∧ Stamped settings (.clear h) := by
    refine reached_law h settings (fun d => Conserved settings d ∧ ServedInOrder d ∧ Stamped settings d) ?_ ?_ path
    · intro ready positive
      have start := History.fresh_reached settings ready positive
      refine ⟨fresh_conserved settings ready, reached_servedInOrder settings _ start, rfl, ?_, ?_⟩
      · intro uid now stamp
        cases stamp
      · intro uid clean id listed
        cases listed
    · intro d e _ laws move
      obtain ⟨conserves, ahead, stamped⟩ := laws
      exact ⟨conserved_kept settings d e conserves move, servedInOrder_kept d e ahead move,
        stamped_kept settings d e conserves ahead stamped move⟩
  exact laws.2.2

theorem reached_last (settings : Settings) (h : History) (path : History.Reached settings h) (uid : Uid) (now : Time) :
    h.scheduler.ledger.last? uid = some now ↔ LastTaken (h.Bills uid) h.log now := by
  have stamped := reached_stamped settings h path
  have last : ∀ now, h.scheduler.ledger.last? uid = some now → LastTaken (h.Bills uid) h.log now := stamped.last uid
  refine ⟨last now, fun taken => ?_⟩
  cases found : h.scheduler.ledger.last? uid with
  | none =>
      obtain ⟨id, listed, billed⟩ := taken.mem _ _ _
      exact absurd billed (stamped.never uid found id listed)
  | some stamp => rw [(last stamp found).unique _ _ _ _ taken]

theorem reached_never (settings : Settings) (h : History) (path : History.Reached settings h) (uid : Uid) :
    h.scheduler.ledger.last? uid = none ↔ ∀ id ∈ taken h.log, ¬ h.Bills uid id := by
  refine ⟨(reached_stamped settings h path).never uid, fun untaken => ?_⟩
  cases found : h.scheduler.ledger.last? uid with
  | none => rfl
  | some stamp =>
      obtain ⟨id, listed, billed⟩ := ((reached_last settings h path uid stamp).1 found).mem _ _ _
      exact absurd billed (untaken id listed)

theorem untaken_ledger (settings : Settings) (h : History) (path : History.Reached settings h) (answers : Answers)
    (call : Call) (untaken : taken (h.spoken answers call) = []) :
    (h.scheduler.step answers call).scheduler.ledger = h.scheduler.ledger := by
  have moves := next_moves h answers call (reached_sound h settings path).slotMatches
  obtain ⟨said, log, same⟩ := moves.kept
    (fun d => ∃ said, d.log = h.log ++ said ∧ (taken said = [] → d.scheduler.ledger = h.scheduler.ledger))
    (by
      intro d e before move
      obtain ⟨said, log, same⟩ := before
      cases move_stamping d e move with
      | quiet more after none ledger =>
          refine ⟨said ++ more, by rw [after, log, List.append_assoc], fun nothing => ?_⟩
          rw [taken_append, none, List.append_nil] at nothing
          exact ledger.trans (same nothing)
      | stamped op cid now due poised after ledger =>
          refine ⟨_, by rw [after, log, List.append_assoc], fun nothing => ?_⟩
          rw [taken_append] at nothing
          cases (List.append_eq_nil_iff.1 nothing).2)
    ⟨[], (List.append_nil _).symm, fun _ => rfl⟩
  have log : (h.next answers call).log = h.log ++ said := log
  rw [History.next_log] at log
  exact same (List.append_cancel_left log ▸ untaken)

namespace Scheduler
variable (answers : Answers) (s : Scheduler)

theorem retireAll_ledger (ops : List Operation) (outcome : Outcome) :
    (retireAll ops outcome s).scheduler.ledger = s.ledger := by
  induction ops generalizing s with
  | nil => rfl
  | cons op rest ih => exact ih _

theorem disarm_ledger : s.disarm.scheduler.ledger = s.ledger := by
  unfold disarm
  split <;> rfl

theorem vacate_ledger : s.vacate.scheduler.ledger = s.ledger := by
  unfold vacate
  split
  · rfl
  · rfl
  · exact disarm_ledger _

theorem retireActive_ledger (outcome : Outcome) : (s.retireActive outcome).scheduler.ledger = s.ledger := by
  unfold retireActive
  split
  · rfl
  · exact vacate_ledger s

theorem failAll_ledger (kind : FailureKind) : (s.failAll kind).scheduler.ledger = s.ledger :=
  (retireAll_ledger _ _ _).trans (retireActive_ledger s _)

theorem shutdown_ledger : s.shutdown.scheduler.ledger = s.ledger := by
  unfold shutdown
  split
  · rfl
  · exact failAll_ledger _ _

theorem reconsider_ledger (before : Bool) (unavailable : s.available = false) :
    (s.reconsider answers before).scheduler.ledger = s.ledger := by
  unfold reconsider
  split
  · rfl
  · rw [Turn.andThen_scheduler, Turn.did_scheduler, unavailable]
    exact failAll_ledger s _

theorem dispatch_ended (op : Operation) : ∀ entry ∈ (s.dispatch answers op).ended,
    entry.2.isDelivered = true ∨ entry.2 = .failed .hardwareRejected := by
  intro entry ended
  unfold dispatch at ended
  dsimp only at ended
  split at ended
  · cases List.mem_singleton.1 ended
    exact .inl rfl
  · rw [Turn.andThen_ended] at ended
    split at ended
    · unfold occupy at ended
      dsimp only at ended
      split at ended <;> cases ended
    · cases List.mem_singleton.1 ended
      exact .inr rfl

theorem fillFrom_ended (ops : List Operation) : ∀ entry ∈ (fillFrom answers ops s).ended,
    entry.2.isDelivered = true ∨ entry.2 = .failed .hardwareRejected := by
  induction ops generalizing s with
  | nil =>
      intro entry ended
      cases ended
  | cons op rest ih =>
      intro entry ended
      unfold fillFrom at ended
      split at ended
      · rw [Turn.andThen_ended] at ended
        rcases List.mem_append.1 ended with first | others
        · unfold start at first
          split at first
          · cases first
          · exact dispatch_ended answers _ op entry first
        · exact ih _ entry others
      · cases ended

theorem verdict_throttles (op : Operation) (granted : answers.permits op.requester = true)
    (available : s.available = true) (room : s.isFull op.attribution = false) : (s.verdict answers op).1 =
      if s.ledger.allows op.attribution (answers.foreground op.requester.uid) op.submittedAt then none
      else some .throttled := by
  simp only [verdict, granted, available, room, Bool.not_true, Bool.false_eq_true, if_false]
  split <;> rfl

theorem submit_throttled (sub : Submission) (formed : sub.request.validate s.settings.maxPeers = .ok ())
    (granted : answers.permits sub.requester = true) (available : s.available = true)
    (room : s.isFull sub.payers = false) :
    (s.operationOf answers sub, .failed .throttled) ∈ (s.step answers (.submit sub)).ended ↔
      s.ledger.allows sub.payers (answers.foreground sub.requester.uid) answers.admissionClock = false := by
  have verdict := verdict_throttles answers s.counted (s.operationOf answers sub) granted available room
  have turn : s.step answers (.submit sub) = s.accept answers sub := by simp [step, submit, formed]
  cases allowed : s.ledger.allows sub.payers (answers.foreground sub.requester.uid) answers.admissionClock with
  | false =>
      refine iff_of_true ?_ rfl
      have held :
          ¬ s.ledger.allows sub.payers (answers.foreground sub.requester.uid) answers.admissionClock = true := by
        simp [allowed]
      have refused := accept_refused answers sub s .throttled (verdict.trans (if_neg held))
      rw [turn, refused]
      simp [retire, interview]
  | true =>
      refine iff_of_false ?_ (by simp)
      have joined := accept_joined answers sub s (verdict.trans (if_pos allowed))
      rw [turn, joined]
      intro ended
      have filled : (s.operationOf answers sub, .failed .throttled) ∈ (fillFrom answers _ _).ended := ended
      rcases fillFrom_ended answers _ _ _ filled with delivered | rejected
      · cases delivered
      · cases rejected

end Scheduler

structure History.LedgerExact (settings : Settings) (h : History) : Prop where
  last : ∀ uid now, h.scheduler.ledger.last? uid = some now ↔ LastTaken (h.Bills uid) h.log now
  never : ∀ uid, h.scheduler.ledger.last? uid = none ↔ ∀ id ∈ taken h.log, ¬ h.Bills uid id
  kept : ∀ answers call, taken (h.spoken answers call) = [] →
    (h.scheduler.step answers call).scheduler.ledger = h.scheduler.ledger
  closed : ∀ answers, (h.scheduler.step answers .shutdown).scheduler.ledger = h.scheduler.ledger
  disabled : ∀ answers call, call = .setHardware false ∨ call = .setIdle true →
    (h.scheduler.step answers call).scheduler.ledger = h.scheduler.ledger
  throttled : ∀ answers sub, sub.request.validate settings.maxPeers = .ok () →
    answers.permits sub.requester = true → h.scheduler.available = true → h.scheduler.isFull sub.payers = false →
    ((h.scheduler.operationOf answers sub, .failed .throttled) ∈ (h.scheduler.step answers (.submit sub)).ended ↔
      answers.foreground sub.requester.uid = false ∧ ∀ uid ∈ sub.payers, ∃ last,
        LastTaken (h.Bills uid) h.log last ∧ answers.admissionClock ≤ last + settings.backgroundGap)

theorem reached_ledgerExact (settings : Settings) (h : History) (path : History.Reached settings h) :
    h.LedgerExact settings := by
  have gap : h.scheduler.ledger.gap = settings.backgroundGap := (reached_stamped settings h path).gap
  have settled : h.scheduler.settings = settings := (reached_conserved settings h path).settled
  refine ⟨reached_last settings h path, reached_never settings h path, untaken_ledger settings h path, ?_, ?_, ?_⟩
  · intro answers
    exact Scheduler.shutdown_ledger _
  · intro answers call ends
    rcases ends with rfl | rfl
    · exact Scheduler.reconsider_ledger answers _ _ (by simp [Scheduler.available])
    · exact Scheduler.reconsider_ledger answers _ _ (by simp [Scheduler.available])
  · intro answers sub formed granted available room
    rw [Scheduler.submit_throttled answers h.scheduler sub (settled ▸ formed) granted available room,
      Ledger.allows_eq_false_iff, gap]
    refine and_congr_right fun _ => forall₂_congr fun uid _ => exists_congr fun last => ?_
    rw [reached_last settings h path]

-- The caller was last billed at 20, for the fourth operation, and is held back in the background.
theorem sample_ledgerExact : History.Reached .standard History.sample ∧
    History.sample.scheduler.ledger.last? 1000 = some 20 ∧ taken History.sample.log = [⟨1⟩, ⟨3⟩, ⟨4⟩] ∧
    (History.sample.scheduler.step { Answers.sample with foreground := fun _ => false, admissionClock := 30 }
      (.submit (.sample 7 (.sample 7)))).ended.map Prod.snd = [.failed .throttled] ∧
    History.sample.LedgerExact .standard :=
  ⟨sample_reached, by decide, by decide, by decide, reached_ledgerExact .standard History.sample sample_reached⟩

end Ranging

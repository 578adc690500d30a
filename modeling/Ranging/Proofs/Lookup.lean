import Ranging.Proofs.AdmittedOperations
import Ranging.Proofs.LogEntries

-- The addresses of an operation's handles are asked for once, and the first answer to that question
-- is the one that it keeps.
namespace Ranging

-- How far the question about the handles of one operation has come.
inductive Lookup
  | unasked
  | pending
  | answered (book : AddressBook)

namespace Lookup

def ask : Lookup → Lookup
  | .unasked => .pending
  | known => known

def answer (book : AddressBook) : Lookup → Lookup
  | .pending => .answered book
  | other => other

def follow (id : OperationId) (state : Lookup) : Entry → Lookup
  | .did (.resolve _ _ other) => if other = id then state.ask else state
  | .heard (.resolved other book) => if other = id then state.answer book else state
  | _ => state

def book? : Lookup → Option AddressBook
  | .answered book => some book
  | _ => none

-- What an operation knows of its handles when it is about to be handed over, and from then on.
def Fits (op : Operation) : Lookup → Prop
  | .unasked => op.translation = none
  | .pending => False
  | .answered book => op.translation = some (.ofAnswer op.request book)

end Lookup

theorem fits_handedOver (op : Operation) (cid : CorrelationId) (state : Lookup) (fits : state.Fits op) :
    state.Fits (op.handedOver cid) := by
  cases state <;> exact fits

def lookup (id : OperationId) (log : List Entry) : Lookup := log.foldl (Lookup.follow id) .unasked

def Entry.isAside : Entry → Bool
  | .did (.resolve _ _ _) => false
  | .heard (.resolved _ _) => false
  | _ => true

variable (id : OperationId)

theorem lookup_append (first second : List Entry) :
    lookup id (first ++ second) = second.foldl (Lookup.follow id) (lookup id first) := List.foldl_append

theorem follow_aside (state : Lookup) (entry : Entry) (aside : entry.isAside = true) :
    Lookup.follow id state entry = state := by
  cases entry with
  | heard call => cases call <;> first | rfl | cases aside
  | did effect => cases effect <;> first | rfl | cases aside

theorem lookup_aside (log said : List Entry) (aside : said.all Entry.isAside = true) :
    lookup id (log ++ said) = lookup id log := by
  rw [lookup_append]
  induction said with
  | nil => rfl
  | cons entry rest ih =>
      obtain ⟨here, others⟩ := Bool.and_eq_true_iff.1 aside
      rw [List.foldl_cons, follow_aside id _ entry here]
      exact ih others

theorem unasked_answer (other : OperationId) (book : AddressBook) :
    Lookup.follow id .unasked (.heard (.resolved other book)) = .unasked := by
  simp [Lookup.follow, Lookup.answer]

structure LookupMatches (d : MidCall) : Prop where
  queued : ∀ op ∈ d.scheduler.queue, lookup op.id d.log = .unasked
  resolving : ∀ op, d.scheduler.slot = .resolving op → lookup op.id d.log = .pending
  ready : ∀ op, d.poised = some op ∨ d.scheduler.slot = .dispatched op → (lookup op.id d.log).Fits op
  fresh : ∀ id, d.scheduler.nextOperation.val ≤ id.val → lookup id d.log = .unasked

-- Most moves ask nothing and answer nothing, so what is known before is known after them.
theorem LookupMatches.aside (d e : MidCall) (said : List Entry) (looked : LookupMatches d) (log : e.log = d.log ++ said)
    (aside : said.all Entry.isAside = true) (queued : ∀ op ∈ e.scheduler.queue, lookup op.id d.log = .unasked)
    (resolving : ∀ op, e.scheduler.slot = .resolving op → lookup op.id d.log = .pending)
    (ready : ∀ op, e.poised = some op ∨ e.scheduler.slot = .dispatched op → (lookup op.id d.log).Fits op)
    (next : d.scheduler.nextOperation.val ≤ e.scheduler.nextOperation.val) : LookupMatches e := by
  have same : ∀ id, lookup id e.log = lookup id d.log := fun id => by rw [log, lookup_aside id _ _ aside]
  refine ⟨?_, ?_, ?_, ?_⟩
  · intro op member
    exact (same op.id).trans (queued op member)
  · intro op slot
    exact (same op.id).trans (resolving op slot)
  · intro op here
    rw [same]
    exact ready op here
  · intro id above
    exact (same id).trans (looked.fresh id (Nat.le_trans next above))

theorem LookupMatches.kept (d e : MidCall) (said : List Entry) (looked : LookupMatches d) (log : e.log = d.log ++ said)
    (aside : said.all Entry.isAside = true) (queue : ∀ op ∈ e.scheduler.queue, op ∈ d.scheduler.queue)
    (slot : e.scheduler.slot = d.scheduler.slot ∨ e.scheduler.slot = .idle)
    (poised : e.poised = d.poised ∨ e.poised = none)
    (next : d.scheduler.nextOperation.val ≤ e.scheduler.nextOperation.val) : LookupMatches e := by
  refine looked.aside d e said log aside (fun op member => looked.queued op (queue op member)) ?_ ?_ next
  · intro op taken
    rcases slot with same | idle
    · exact looked.resolving op (same ▸ taken)
    · rw [idle] at taken
      cases taken
  · intro op here
    rcases here with ready | taken
    · rcases poised with same | none
      · exact looked.ready op (.inl (same ▸ ready))
      · rw [none] at ready
        cases ready
    · rcases slot with same | idle
      · exact looked.ready op (.inr (same ▸ taken))
      · rw [idle] at taken
        cases taken

theorem clerical_aside (said : List Effect) (clerical : said.all Effect.isClerical = true) :
    (said.map Entry.did).all Entry.isAside = true := by
  rw [List.all_map]
  refine List.all_eq_true.2 fun effect member => ?_
  have usual := List.all_eq_true.1 clerical effect member
  cases effect <;> first | rfl | cases usual

theorem LookupMatches.answered (d e : MidCall) (other : OperationId) (book : AddressBook) (looked : LookupMatches d)
    (log : e.log = d.log ++ [.heard (.resolved other book)]) (queue : e.scheduler.queue = d.scheduler.queue)
    (next : e.scheduler.nextOperation = d.scheduler.nextOperation)
    (resolving : ∀ op, e.scheduler.slot = .resolving op → d.scheduler.slot = .resolving op ∧ op.id ≠ other)
    (ready : ∀ op, e.poised = some op ∨ e.scheduler.slot = .dispatched op →
      (Lookup.follow op.id (lookup op.id d.log) (.heard (.resolved other book))).Fits op) : LookupMatches e := by
  have follows : ∀ id, lookup id e.log = Lookup.follow id (lookup id d.log) (.heard (.resolved other book)) := by
    intro id
    rw [log, lookup_append]
    rfl
  refine ⟨?_, ?_, ?_, ?_⟩
  · intro op member
    rw [follows, looked.queued op (queue ▸ member), unasked_answer]
  · intro op slot
    obtain ⟨waiting, away⟩ := resolving op slot
    rw [follows, looked.resolving op waiting]
    simp [Lookup.follow, Ne.symm away]
  · intro op here
    rw [follows]
    exact ready op here
  · intro new above
    rw [follows, looked.fresh new (next ▸ above), unasked_answer]

theorem fits_answer (op : Operation) (state : Lookup) (other : OperationId) (book : AddressBook)
    (fits : state.Fits op) : (Lookup.follow op.id state (.heard (.resolved other book))).Fits op := by
  have same : Lookup.follow op.id state (.heard (.resolved other book)) = state := by
    cases state with
    | unasked => exact unasked_answer op.id other book
    | pending => exact absurd fits id
    | answered known => simp [Lookup.follow, Lookup.answer]
  rw [same]
  exact fits

theorem queued_apart (d : MidCall) (named : DistinctIds d) (op other : Operation) (poised : d.poised = some op)
    (waiting : other ∈ d.scheduler.queue) : op.id ≠ other.id := by
  have ordered := named.ordered
  simp only [MidCall.standing, poised, Option.toList_some, List.append_assoc, List.singleton_append, List.map_append,
    List.map_cons] at ordered
  have later := (List.pairwise_cons.1 (List.pairwise_append.1 ordered).2.1).1 _ (List.mem_map_of_mem waiting)
  intro same
  rw [same] at later
  exact Nat.lt_irrefl _ later

theorem LookupMatches.asked (d : MidCall) (op : Operation) (named : DistinctIds d) (looked : LookupMatches d)
    (poised : d.poised = some op)
    (needs : op.needsTranslation = true) : LookupMatches { d.work (.did { d.scheduler with slot := .resolving op }
      [.resolve op.requester.uid op.request.handles op.id]) with poised := none } := by
  have unasked : lookup op.id d.log = .unasked := by
    obtain ⟨untranslated, _⟩ := Bool.and_eq_true_iff.1 needs
    have fits := looked.ready op (.inl poised)
    cases known : lookup op.id d.log with
    | unasked => rfl
    | pending =>
        rw [known] at fits
        exact absurd fits id
    | answered book =>
        rw [known] at fits
        rw [show op.translation = some _ from fits] at untranslated
        cases untranslated
  have follows : ∀ id, lookup id (d.log ++ [.did (.resolve op.requester.uid op.request.handles op.id)]) =
      if op.id = id then (lookup id d.log).ask else lookup id d.log := by
    intro id
    rw [lookup_append]
    rfl
  refine ⟨?_, ?_, ?_, ?_⟩
  · intro other member
    have away := queued_apart d named op other poised member
    exact (follows other.id).trans (by rw [if_neg away, looked.queued other member])
  · intro other slot
    cases Slot.resolving.inj slot
    exact (follows op.id).trans (by rw [if_pos rfl, unasked]; rfl)
  · intro other here
    rcases here with ready | taken
    · cases ready
    · cases taken
  · intro new above
    have below := named.known op (by simp [MidCall.present, MidCall.standing, poised])
    have away : op.id ≠ new := by
      intro same
      rw [same] at below
      exact Nat.lt_irrefl _ (Nat.lt_of_lt_of_le below above)
    exact (follows new).trans (by rw [if_neg away, looked.fresh new above])

theorem lookupMatches_kept (d e : MidCall) (sound : Sound d) (looked : LookupMatches d) (move : Move d e) :
    LookupMatches e := by
  cases move with
  | hear call plain =>
      cases call with
      | resolved other book =>
          exact looked.answered d _ other book (MidCall.hear_log d _) rfl rfl (fun op slot => ⟨slot, plain op slot⟩)
            fun op here => fits_answer op _ other book (looked.ready op here)
      | _ =>
          exact looked.kept d _ [.heard _] (MidCall.hear_log d _) rfl (fun _ here => here) (.inl rfl) (.inl rfl)
            (Nat.le_refl _)
  | discard cid report stale =>
      exact looked.kept d _ _ (MidCall.heard_log d _ _) rfl (fun _ here => here) (.inl rfl) (.inl rfl) (Nat.le_refl _)
  | report cid report op due granted free slot same armed =>
      exact looked.kept d _ _ (MidCall.heard_log d _ _) rfl (fun _ here => here) (.inr rfl) (.inl rfl) (Nat.le_refl _)
  | expire cid op due free slot same armed =>
      exact looked.kept d _ _ (MidCall.heard_log d _ _) rfl (fun _ here => here) (.inr rfl) (.inl rfl) (Nat.le_refl _)
  | translate answer op unpoised slot =>
      refine looked.answered d _ op.id answer (List.append_nil _) rfl rfl (by simp) ?_
      intro other here
      rcases here with ready | taken
      · cases Option.some.inj ready
        rw [show lookup op.id d.log = .pending from looked.resolving op slot]
        simp [Lookup.follow, Lookup.answer, Lookup.Fits]
      · cases taken
  | refuse answers sub kind wellFormed verdict =>
      refine looked.kept d _ _ (MidCall.heard_log d _ _) ?_ (fun _ here => here) (.inl rfl) (.inl rfl) (Nat.le_succ _)
      exact clerical_aside _ (Scheduler.refuse_clerical answers sub kind _)
  | join answers sub wellFormed verdict unburied =>
      refine looked.aside d _ _ (MidCall.heard_log d _ _) ?_ ?_ looked.resolving looked.ready (Nat.le_succ _)
      · exact clerical_aside _ (Scheduler.join_clerical answers sub _)
      · intro op member
        rcases List.mem_append.1 member with old | new
        · exact looked.queued op old
        · rw [List.mem_singleton.1 new]
          exact looked.fresh _ (Nat.le_refl _)
  | hardware ready =>
      exact looked.kept d _ _ (MidCall.heard_log d _ _) (clerical_aside _ (Scheduler.proclaim_clerical _ _))
        (fun _ here => here) (.inl rfl) (.inl rfl) (Nat.le_refl _)
  | idleness idle =>
      exact looked.kept d _ _ (MidCall.heard_log d _ _) (clerical_aside _ (Scheduler.proclaim_clerical _ _))
        (fun _ here => here) (.inl rfl) (.inl rfl) (Nat.le_refl _)
  | close openStill =>
      exact looked.kept d _ _ (MidCall.heard_log d _ _) rfl (fun _ here => here) (.inl rfl) (.inl rfl) (Nat.le_refl _)
  | bury token ids registry unburied purged =>
      exact looked.kept d _ _ (MidCall.work_log d _) rfl (fun _ here => here) (.inl rfl) (.inl rfl) (Nat.le_refl _)
  | forget token buried gone =>
      exact looked.kept d _ [] (List.append_nil _).symm rfl (fun _ here => here) (.inl rfl) (.inl rfl) (Nat.le_refl _)
  | pull chosen free =>
      exact looked.kept d _ _ (MidCall.work_log d _) rfl (fun _ here => (List.mem_filter.1 here).1) (.inl rfl)
        (.inl rfl)
        (Nat.le_refl _)
  | release op free slot =>
      exact looked.kept d _ _ (MidCall.work_log d _) rfl (fun _ here => here) (.inr rfl) (.inl rfl) (Nat.le_refl _)
  | revoke cid op due free slot same armed =>
      exact looked.kept d _ _ (MidCall.work_log d _) rfl (fun _ here => here) (.inr rfl) (.inl rfl) (Nat.le_refl _)
  | retire op rest outcome first =>
      exact looked.kept d _ _ (MidCall.work_log d _) (clerical_aside _ (Scheduler.retire_clerical op outcome _))
        (fun _ here => here) (.inl rfl) (.inl rfl) (Nat.le_refl _)
  | take op rest unpoised slot available queue =>
      have first : op ∈ d.scheduler.queue := queue ▸ List.mem_cons_self
      refine looked.aside d _ _ (MidCall.work_log d _) rfl ?_ (fun other taken => looked.resolving other taken) ?_
        (Nat.le_refl _)
      · intro other later
        exact looked.queued other (queue ▸ List.mem_cons_of_mem _ later)
      · intro other here
        rcases here with ready | taken
        · cases Option.some.inj ready
          rw [looked.queued op first]
          exact (sound.slotMatches.queued op first).2.2
        · exact looked.ready other (.inr taken)
  | park op poised slot needs => exact looked.asked d op sound.named poised needs
  | bare op free poised slot known alone =>
      exact looked.kept d _ [] (List.append_nil _).symm rfl (fun _ here => here) (.inl rfl) (.inr rfl) (Nat.le_refl _)
  | reject op free poised slot known reachable =>
      exact looked.kept d _ _ (MidCall.work_log d _) rfl (fun _ here => here) (.inl rfl) (.inr rfl) (Nat.le_refl _)
  | engage op now poised slot unarmed known reachable =>
      have fits := looked.ready op (.inl poised)
      refine looked.aside d _ _ (MidCall.work_log d _) rfl (fun other here => looked.queued other here) ?_ ?_
        (Nat.le_refl _)
      · intro other taken
        cases taken
      · intro other here
        rcases here with ready | taken
        · cases ready
        · cases Slot.dispatched.inj taken
          exact fits_handedOver op _ _ fits

theorem reached_lookupMatches (settings : Settings) (h : History) (path : History.Reached settings h) :
    LookupMatches (.clear h) := by
  refine reached_law h settings LookupMatches ?_
    (fun d e sound looked move => lookupMatches_kept d e sound looked move) path
  intro ready positive
  exact ⟨by simp [MidCall.clear, History.fresh, Scheduler.fresh],
    by simp [MidCall.clear, History.fresh, Scheduler.fresh],
    by simp [MidCall.clear, History.fresh, Scheduler.fresh], fun _ _ => rfl⟩

end Ranging

import Ranging.Proofs.AdmittedOperations
import Ranging.Proofs.Audit
import Mathlib.Data.Finset.Card
import Mathlib.Data.List.Count

-- The queue cap bounds every group of uids, though not every single uid: who is billed together with somebody
-- that has room gets in on that account. So each live operation is put down to the uid that had the
-- room when it came, and in this bookkeeping nobody is ever above the cap.
namespace Ranging

abbrev Bill := OperationId × Attribution

def Operation.bill (op : Operation) : Bill := (op.id, op.attribution)

def Attribution.within (a : Attribution) (group : Finset Uid) : Bool := a.uids.all fun uid => uid ∈ group

-- Every bill can be put down to one of its uids, so that none has more than the cap.
def WithinCap (cap : Nat) (bills : List Bill) : Prop :=
  ∃ payer : OperationId → Uid, (∀ b ∈ bills, payer b.1 ∈ b.2) ∧
    ∀ uid, (bills.countP fun b => payer b.1 = uid) ≤ cap

theorem countP_either {α : Type} (items : List α) (first second : α → Bool) :
    (items.countP fun item => first item || second item) ≤ items.countP first + items.countP second := by
  induction items with
  | nil => simp
  | cons item rest ih =>
      simp only [List.countP_cons]
      cases first item <;> cases second item <;> simp <;> omega

theorem countP_group {α β : Type} [DecidableEq β] (items : List α) (pays : α → β) (cap : Nat)
    (capped : ∀ one, (items.countP fun item => pays item = one) ≤ cap) (group : Finset β) :
    (items.countP fun item => pays item ∈ group) ≤ group.card * cap := by
  induction group using Finset.induction_on with
  | empty => simp
  | insert one rest fresh ih =>
      have parted := countP_either items (fun item => pays item = one) (fun item => pays item ∈ rest)
      have alone := capped one
      simp only [Finset.mem_insert, Bool.decide_or, Finset.card_insert_of_notMem fresh, Nat.succ_mul]
      omega

namespace WithinCap
variable (cap : Nat) (bills : List Bill)

theorem subperm (few : List Bill) (shared : WithinCap cap bills) (less : few.Subperm bills) : WithinCap cap few := by
  obtain ⟨payer, billed, capped⟩ := shared
  exact ⟨payer, fun b member => billed b (less.subset member), fun uid => (less.countP_le _).trans (capped uid)⟩

-- A uid with room takes on what comes, and what was there before stays as it is.
theorem append (id : OperationId) (a : Attribution) (uid : Uid) (shared : WithinCap cap bills)
    (fresh : id ∉ bills.map Prod.fst) (billed : uid ∈ a) (room : (bills.countP fun b => uid ∈ b.2) < cap) :
    WithinCap cap (bills ++ [(id, a)]) := by
  obtain ⟨payer, within, capped⟩ := shared
  have kept : ∀ b ∈ bills, Function.update payer id uid b.1 = payer b.1 := by
    intro b member
    refine Function.update_of_ne ?_ _ _
    rintro rfl
    exact fresh (List.mem_map_of_mem member)
  refine ⟨Function.update payer id uid, ?_, ?_⟩
  · intro b member
    rcases List.mem_append.1 member with old | new
    · rw [kept b old]
      exact within b old
    · rw [List.mem_singleton.1 new]
      simpa using billed
  · intro other
    have before : (bills.countP fun b => Function.update payer id uid b.1 = other) =
        bills.countP fun b => payer b.1 = other := by
      refine List.countP_congr ?_
      intro b member
      rw [kept b member]
    rw [List.countP_append, before, List.countP_singleton]
    by_cases same : uid = other
    · subst same
      have paid : (bills.countP fun b => payer b.1 = uid) ≤ bills.countP fun b => uid ∈ b.2 := by
        refine List.countP_mono_left ?_
        intro b member pays
        have pays : payer b.1 = uid := by simpa using pays
        simpa [← pays] using within b member
      simp
      omega
    · simpa [same] using capped other

theorem group_le (group : Finset Uid) (shared : WithinCap cap bills) :
    (bills.countP fun b => b.2.within group) ≤ group.card * cap := by
  obtain ⟨payer, billed, capped⟩ := shared
  refine Nat.le_trans (List.countP_mono_left ?_) (countP_group bills (fun b => payer b.1) cap capped group)
  intro b member inside
  simpa using List.all_eq_true.1 inside (payer b.1) (billed b member)

end WithinCap

theorem next_bills (settings : Settings) (h : History) (path : History.Reached settings h) (answers : Answers)
    (call : Call) :
    ((h.next answers call).scheduler.live.map Operation.bill).Subperm (h.scheduler.live.map Operation.bill) ∨
    ∃ sub : Submission, ∃ uid ∈ sub.payers, h.scheduler.liveBilledTo uid < settings.maxQueued ∧
      ((h.next answers call).scheduler.live.map Operation.bill).Subperm
        (h.scheduler.live.map Operation.bill ++ [(h.scheduler.nextOperation, sub.payers)]) := by
  have settled : h.scheduler.settings = settings := (reached_conserved settings h path).settled
  have bills : ((h.next answers call).scheduler.live.map Operation.bill).Subperm
      (h.scheduler.live.map Operation.bill ++ (h.scheduler.admits answers call).map fun a => (a.1, a.2.payers)) := by
    have billed := (next_tickets settings h path answers call).map fun ticket => (ticket.1, ticket.2.payers)
    simp only [List.map_append, List.map_map] at billed
    exact (List.sublist_append_right _ _).subperm.trans billed.subperm
  cases call with
  | submit sub =>
      cases formed : sub.request.validate h.scheduler.settings.maxPeers with
      | error e =>
          left
          simpa [Scheduler.admits, Scheduler.submit, formed] using bills
      | ok _ =>
          have turn : h.scheduler.step answers (.submit sub) = h.scheduler.accept answers sub := by
            simp [Scheduler.step, Scheduler.submit, formed]
          cases verdict : (h.scheduler.counted.verdict answers (h.scheduler.operationOf answers sub)).1 with
          | some kind =>
              left
              have same : (h.next answers (.submit sub)).scheduler.live = h.scheduler.live := by
                show (h.scheduler.step answers (.submit sub)).scheduler.live = _
                rw [turn, accept_refused answers sub h.scheduler kind verdict]
                rfl
              rw [same]
          | none =>
              right
              obtain ⟨room, _⟩ := Scheduler.verdict_passed answers _ _ verdict
              obtain ⟨uid, billed, below⟩ := Scheduler.not_isFull _ _ room
              refine ⟨sub, uid, billed, settled ▸ below, ?_⟩
              simpa [Scheduler.admits, Scheduler.submit, formed] using bills
  | _ =>
      left
      simpa [Scheduler.admits] using bills

theorem reached_split (settings : Settings) (h : History) (path : History.Reached settings h) :
    WithinCap settings.maxQueued (h.scheduler.live.map Operation.bill) := by
  induction path with
  | start ready h made =>
      obtain ⟨_, rfl⟩ := (History.start_eq_ok_iff settings ready h).1 made
      exact ⟨fun _ => 0, by simp [History.fresh, Scheduler.fresh, Scheduler.live, Slot.operation?],
        by simp [History.fresh, Scheduler.fresh, Scheduler.live, Slot.operation?]⟩
  | next answers call h path ih =>
      rcases next_bills settings h path answers call with fewer | ⟨sub, uid, billed, room, more⟩
      · exact ih.subperm _ _ _ fewer
      · refine (ih.append _ _ _ _ uid ?_ billed ?_).subperm _ _ _ more
        · intro listed
          obtain ⟨bill, known, named⟩ := List.mem_map.1 listed
          obtain ⟨op, live, rfl⟩ := List.mem_map.1 known
          have below := (reached_sound h settings path).named.known op ((present_perm h).mem_iff.2 live)
          have same : op.id = h.scheduler.nextOperation := named
          rw [same] at below
          exact Nat.lt_irrefl _ below
        · rw [List.countP_map]
          exact room

theorem reached_withinCap (settings : Settings) (h : History) (path : History.Reached settings h) (group : Finset Uid) :
    (h.scheduler.live.countP fun op => op.attribution.within group) ≤ group.card * settings.maxQueued := by
  have bound := (reached_split settings h path).group_le _ _ group
  rwa [List.countP_map] at bound

-- With one live operation for each uid, the first has two, because the second was let in on account of the other uid.
def History.pooled : History :=
  (History.fresh { Settings.standard with maxQueued := 1 } true).run (List.map (Prod.mk Answers.sample)
    [.submit ⟨⟨1, "one"⟩, none, .sample 1, ⟨1⟩, ⟨1⟩⟩,
      .submit ⟨⟨1, "one"⟩, Attribution.ofUids? [1, 2], .sample 2, ⟨2⟩, ⟨2⟩⟩])

theorem pooled_withinCap : History.Reached { Settings.standard with maxQueued := 1 } History.pooled ∧
    History.pooled.scheduler.liveBilledTo 1 = 2 ∧
    (History.pooled.scheduler.live.countP fun op => op.attribution.within { 1, 2 }) ≤
      ({ 1, 2 } : Finset Uid).card * 1 := by
  have reached : History.Reached { Settings.standard with maxQueued := 1 } History.pooled :=
    History.run_reached _ _ _ (.start true _ rfl)
  exact ⟨reached, by decide, reached_withinCap _ History.pooled reached { 1, 2 }⟩

end Ranging

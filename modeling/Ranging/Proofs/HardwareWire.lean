import Ranging.Proofs.MidCall

-- What passes between the scheduler and the hardware, and what each move has to do with it.
namespace Ranging

inductive Signal
  | submit (operation : OperationId) (cid : CorrelationId) (peers : List MacAddress) (accepted : Bool)
  | cancel (cid : CorrelationId) (peers : List MacAddress)
  | report (cid : CorrelationId)
deriving DecidableEq

def Effect.signal? : Effect → Option Signal
  | .submit operation cid peers accepted => some (.submit operation cid peers accepted)
  | .cancel cid peers => some (.cancel cid peers)
  | _ => none

def Entry.signal? : Entry → Option Signal
  | .did effect => effect.signal?
  | .heard (.measured cid _) => some (.report cid)
  | .heard _ => none

def History.wire (h : History) : List Signal := h.log.filterMap Entry.signal?

namespace Signal

def apply (flying : List (CorrelationId × List MacAddress)) : Signal → List (CorrelationId × List MacAddress)
  | .submit _ cid peers accepted => if accepted then flying ++ [(cid, peers)] else flying
  | .cancel cid _ => flying.filter fun flight => flight.1 ≠ cid
  | .report cid => flying.filter fun flight => flight.1 ≠ cid

def submission? : Signal → Option (OperationId × CorrelationId)
  | .submit operation cid _ _ => some (operation, cid)
  | _ => none

def cancelled? : Signal → Option CorrelationId
  | .cancel cid _ => some cid
  | _ => none

end Signal

def outstanding (wire : List Signal) : List (CorrelationId × List MacAddress) := wire.foldl Signal.apply []

theorem outstanding_snoc (wire : List Signal) (signal : Signal) :
    outstanding (wire ++ [signal]) = signal.apply (outstanding wire) := by
  simp [outstanding]

def Slot.flying : Slot → List (CorrelationId × List MacAddress)
  | .dispatched op => op.correlation.toList.map fun cid => (cid, op.hardwarePeers)
  | _ => []

def Slot.unserved : Slot → List Operation
  | .resolving op => [op]
  | _ => []

-- Those whom the hardware has not seen yet, in the order in which it would.
def MidCall.unserved (d : MidCall) : List OperationId :=
  (d.scheduler.slot.unserved ++ d.poised.toList ++ d.scheduler.queue).map Operation.id

@[simp] theorem work_wire (d : MidCall) (turn : Turn) :
    (d.work turn).wire = d.wire ++ turn.effects.filterMap Effect.signal? := by
  simp [History.wire, List.filterMap_append, List.filterMap_map, Function.comp_def, Entry.signal?]

@[simp] theorem hear_wire (d : MidCall) (call : Call) :
    (d.hear call).wire = d.wire ++ (Entry.heard call).signal?.toList := by
  cases said : (Entry.heard call).signal? <;> simp [History.wire, List.filterMap_append, said]

theorem retire_mute (op : Operation) (outcome : Outcome) (s : Scheduler) :
    (s.retire op outcome).effects.filterMap Effect.signal? = [] := by
  rcases s.retire_effects op outcome with said | said
  · rw [said]
    cases outcome <;> rfl
  · rw [said]
    cases outcome <;> rfl

theorem asides_mute (said : List Effect) (aside : said.all Effect.isAside = true) :
    said.filterMap Effect.signal? = [] := by
  refine List.filterMap_eq_nil_iff.2 ?_
  intro effect member
  have mute := List.all_eq_true.1 aside effect member
  cases effect <;> first | rfl | cases mute

-- One move says at most one thing over the wire, and it says it as the slot changes hands.
inductive Traffic (d e : MidCall) : Prop where
  | quiet : e.wire = d.wire → e.scheduler.slot.flying = d.scheduler.slot.flying → e.unserved.Sublist d.unserved →
      d.scheduler.nextOperation.val ≤ e.scheduler.nextOperation.val →
      e.scheduler.nextCorrelation = d.scheduler.nextCorrelation → Traffic d e
  | joined : e.wire = d.wire → e.scheduler.slot.flying = d.scheduler.slot.flying →
      e.unserved = d.unserved ++ [d.scheduler.nextOperation] →
      e.scheduler.nextOperation = d.scheduler.nextOperation.next →
      e.scheduler.nextCorrelation = d.scheduler.nextCorrelation → Traffic d e
  | stale (cid : CorrelationId) : (∀ flight ∈ d.scheduler.slot.flying, flight.1 ≠ cid) →
      e.wire = d.wire ++ [.report cid] → e.scheduler.slot.flying = d.scheduler.slot.flying →
      e.unserved = d.unserved → e.scheduler.nextOperation = d.scheduler.nextOperation →
      e.scheduler.nextCorrelation = d.scheduler.nextCorrelation → Traffic d e
  | landed (cid : CorrelationId) (peers : List MacAddress) : d.scheduler.slot.flying = [(cid, peers)] →
      e.wire = d.wire ++ [.report cid] → e.scheduler.slot.flying = [] →
      e.unserved = d.unserved → e.scheduler.nextOperation = d.scheduler.nextOperation →
      e.scheduler.nextCorrelation = d.scheduler.nextCorrelation → Traffic d e
  | recalled (cid : CorrelationId) (peers : List MacAddress) : d.scheduler.slot.flying = [(cid, peers)] →
      e.wire = d.wire ++ [.cancel cid peers] → e.scheduler.slot.flying = [] →
      e.unserved = d.unserved → e.scheduler.nextOperation = d.scheduler.nextOperation →
      e.scheduler.nextCorrelation = d.scheduler.nextCorrelation → Traffic d e
  | submitted (op : Operation) (accepted : Bool) : d.poised = some op → op.hardwarePeers ≠ [] →
      d.scheduler.slot.flying = [] →
      e.wire = d.wire ++ [.submit op.id d.scheduler.nextCorrelation op.hardwarePeers accepted] →
      e.scheduler.slot.flying = (if accepted then [(d.scheduler.nextCorrelation, op.hardwarePeers)] else []) →
      d.unserved = op.id :: e.unserved → e.scheduler.nextOperation = d.scheduler.nextOperation →
      e.scheduler.nextCorrelation = d.scheduler.nextCorrelation.next → Traffic d e

theorem move_traffic (d e : MidCall) (move : Move d e) : Traffic d e := by
  cases move with
  | hear call plain =>
      refine .quiet ?_ rfl (.refl _) (Nat.le_refl _) rfl
      cases call with
      | measured cid report => exact absurd plain id
      | _ => exact (hear_wire d _).trans (List.append_nil _)
  | discard cid report stale =>
      refine .stale cid ?_ (by simp [Entry.signal?, Scheduler.discard, Scheduler.still]) rfl rfl rfl rfl
      intro flight member same
      cases slot : d.scheduler.slot with
      | idle => simp [slot, Slot.flying] at member
      | resolving op => simp [slot, Slot.flying] at member
      | dispatched op =>
          simp only [slot, Slot.flying, List.mem_map, Option.mem_toList] at member
          obtain ⟨other, here, rfl⟩ := member
          exact stale op slot (same ▸ here)
  | report cid report op due granted free slot same armed =>
      refine .landed cid op.hardwarePeers (by simp [slot, Slot.flying, same]) ?_ rfl ?_ rfl rfl
      · simp [Entry.signal?, Effect.signal?]
      · simp [MidCall.unserved, slot, Slot.unserved]
  | expire cid op due free slot same armed =>
      refine .recalled cid op.hardwarePeers (by simp [slot, Slot.flying, same]) ?_ rfl ?_ rfl rfl
      · simp [Entry.signal?, Effect.signal?]
      · simp [MidCall.unserved, slot, Slot.unserved]
  | translate answer op unpoised slot =>
      refine .quiet (by simp [Entry.signal?]) ?_ ?_ (Nat.le_refl _) rfl
      · simp [slot, Slot.flying]
      · simp [MidCall.unserved, slot, Slot.unserved, unpoised]
  | refuse answers sub kind wellFormed verdict =>
      refine .quiet ?_ rfl (.refl _) (Nat.le_succ _) rfl
      have said := work_wire (d.hear (.submit sub)) ((d.scheduler.interview answers sub).andThen
        (Scheduler.retire (d.scheduler.operationOf answers sub) (.failed kind)))
      rw [Turn.andThen_effects, List.filterMap_append, asides_mute _ (d.scheduler.interview_aside answers sub),
        retire_mute] at said
      exact said.trans (by simp [Entry.signal?])
  | join answers sub wellFormed verdict unburied =>
      refine .joined ?_ rfl ?_ rfl rfl
      · have said := work_wire (d.hear (.submit sub)) ((d.scheduler.interview answers sub).andThen
          (Scheduler.enqueue (d.scheduler.operationOf answers sub)))
        rw [Turn.andThen_effects, List.filterMap_append, asides_mute _ (d.scheduler.interview_aside answers sub),
          asides_mute _ (Scheduler.enqueue_aside _ _)] at said
        exact said.trans (by simp [Entry.signal?])
      · simp [MidCall.unserved, Scheduler.enqueue, Scheduler.interview, Scheduler.counted, Scheduler.operationOf,
          Operation.new]
  | hardware ready =>
      refine .quiet ?_ rfl (.refl _) (Nat.le_refl _) rfl
      simp [Entry.signal?, asides_mute _ (Scheduler.proclaim_aside _ _)]
  | idleness idle =>
      refine .quiet ?_ rfl (.refl _) (Nat.le_refl _) rfl
      simp [Entry.signal?, asides_mute _ (Scheduler.proclaim_aside _ _)]
  | close openStill => exact .quiet (by simp [Entry.signal?]) rfl (.refl _) (Nat.le_refl _) rfl
  | bury token ids registry unburied purged =>
      exact .quiet (by simp [Effect.signal?]) rfl (.refl _) (Nat.le_refl _) rfl
  | forget token buried gone => exact .quiet rfl rfl (.refl _) (Nat.le_refl _) rfl
  | pull chosen free =>
      refine .quiet (by simp) rfl ?_ (Nat.le_refl _) rfl
      exact ((List.Sublist.refl _).append List.filter_sublist).map _
  | release op free slot =>
      refine .quiet (by simp) (by simp [slot, Slot.flying]) ?_ (Nat.le_refl _) rfl
      simp [MidCall.unserved, slot, Slot.unserved]
  | revoke cid op due free slot same armed =>
      refine .recalled cid op.hardwarePeers (by simp [slot, Slot.flying, same]) ?_ rfl ?_ rfl rfl
      · exact work_wire d _
      · simp [MidCall.unserved, slot, Slot.unserved]
  | retire op rest outcome first =>
      exact .quiet (by simp [retire_mute]) rfl (.refl _) (Nat.le_refl _) rfl
  | take op rest unpoised slot available queue =>
      refine .quiet (by simp) rfl ?_ (Nat.le_refl _) rfl
      simp [MidCall.unserved, slot, Slot.unserved, unpoised, queue]
  | park op poised slot needs =>
      refine .quiet (by simp [Effect.signal?]) (by simp [slot, Slot.flying]) ?_ (Nat.le_refl _) rfl
      simp [MidCall.unserved, slot, Slot.unserved, poised]
  | bare op free poised slot known alone =>
      refine .quiet rfl rfl ?_ (Nat.le_refl _) rfl
      simp [MidCall.unserved, slot, Slot.unserved, poised]
  | reject op free poised slot known reachable =>
      refine .submitted op false poised reachable (by simp [slot, Slot.flying]) ?_ ?_ ?_ rfl rfl
      · simp [Scheduler.rebuffed, Effect.signal?]
      · simp [Scheduler.rebuffed, slot, Slot.flying]
      · simp [MidCall.unserved, Scheduler.rebuffed, slot, Slot.unserved, poised]
  | engage op now poised slot unarmed known reachable =>
      refine .submitted op true poised reachable (by simp [slot, Slot.flying]) ?_ ?_ ?_ rfl rfl
      · simp [Scheduler.engaged, Effect.signal?]
      · rfl
      · simp [MidCall.unserved, Scheduler.engaged, slot, Slot.unserved, poised]

end Ranging

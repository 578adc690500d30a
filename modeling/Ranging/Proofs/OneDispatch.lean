import Ranging.Proofs.ServiceOrder
import Mathlib.Data.List.Induction

-- The hardware has one dispatch at a time, from the moment it takes it on until it reports it or is
-- told to drop it, and every name it sees is new to it.
namespace Ranging

def Signal.Proper (settings : Settings) (past : List Signal) : Signal → Prop
  | .submit _ _ peers _ => outstanding past = [] ∧ peers ≠ [] ∧ peers.length ≤ settings.maxPeers
  | .cancel cid peers => outstanding past = [(cid, peers)]
  | .report _ => True

inductive ProperWire (settings : Settings) : List Signal → Prop where
  | nil : ProperWire settings []
  | snoc (past : List Signal) (signal : Signal) : ProperWire settings past → signal.Proper settings past →
      ProperWire settings (past ++ [signal])

namespace ProperWire
variable (settings : Settings)

theorem snoc_inv (past : List Signal) (signal : Signal) (clean : ProperWire settings (past ++ [signal])) :
    ProperWire settings past ∧ signal.Proper settings past := by
  generalize whole : past ++ [signal] = wire at clean
  cases clean with
  | nil => simp at whole
  | snoc before said clean proper =>
      obtain ⟨rfl, same⟩ := List.append_inj' whole rfl
      cases same
      exact ⟨clean, proper⟩

theorem of_append (past later : List Signal) (clean : ProperWire settings (past ++ later)) :
    ProperWire settings past := by
  induction later using List.reverseRecOn with
  | nil => simpa using clean
  | append_singleton rest signal ih =>
      rw [← List.append_assoc] at clean
      exact ih (snoc_inv settings _ signal clean).1

theorem proper_at (past later : List Signal) (signal : Signal) (clean : ProperWire settings (past ++ signal :: later)) :
    signal.Proper settings past := by
  rw [List.append_cons] at clean
  exact (snoc_inv settings past signal (of_append settings _ later clean)).2

theorem outstanding_le_one (wire : List Signal) (clean : ProperWire settings wire) : (outstanding wire).length ≤ 1 := by
  induction clean with
  | nil => exact Nat.zero_le _
  | snoc past signal clean proper ih =>
      rw [outstanding_snoc]
      cases signal with
      | submit operation cid peers accepted =>
          obtain ⟨nothing, _⟩ := proper
          cases accepted <;> simp [Signal.apply, nothing]
      | cancel cid peers => exact Nat.le_trans (List.length_filter_le _ _) ih
      | report cid => exact Nat.le_trans (List.length_filter_le _ _) ih

end ProperWire

theorem outstanding_submitted (wire : List Signal) (cid : CorrelationId) (peers : List MacAddress)
    (flying : (cid, peers) ∈ outstanding wire) : ∃ operation, .submit operation cid peers true ∈ wire := by
  induction wire using List.reverseRecOn with
  | nil => cases flying
  | append_singleton past signal ih =>
      rw [outstanding_snoc] at flying
      cases signal with
      | submit operation other others accepted =>
          cases accepted with
          | false =>
              obtain ⟨operation, member⟩ := ih flying
              exact ⟨operation, List.mem_append_left _ member⟩
          | true =>
              rcases List.mem_append.1 flying with old | new
              · obtain ⟨operation, member⟩ := ih old
                exact ⟨operation, List.mem_append_left _ member⟩
              · cases List.mem_singleton.1 new
                exact ⟨operation, List.mem_append_right _ (List.mem_singleton_self _)⟩
      | cancel other others =>
          obtain ⟨operation, member⟩ := ih (List.mem_filter.1 flying).1
          exact ⟨operation, List.mem_append_left _ member⟩
      | report other =>
          obtain ⟨operation, member⟩ := ih (List.mem_filter.1 flying).1
          exact ⟨operation, List.mem_append_left _ member⟩

def History.cancels (h : History) : List CorrelationId := h.wire.filterMap Signal.cancelled?

structure WireInvariant (settings : Settings) (d : MidCall) : Prop where
  clean : ProperWire settings d.wire
  flying : outstanding d.wire = d.scheduler.slot.flying
  -- each dispatch that was called off, and the one under way, is one of those submitted
  recalled : (d.cancels ++ d.scheduler.slot.flying.map Prod.fst).Sublist (d.submissions.map Prod.snd)
  counted : (d.submissions.map fun submission => submission.2.val.toNat) =
    (List.range d.submissions.length).map fun place => (place + 1) % 4294967296
  next : d.scheduler.nextCorrelation.val.toNat = (d.submissions.length + 1) % 4294967296

theorem cancels_said (d e : MidCall) (said : List Signal) (wire : e.wire = d.wire ++ said) :
    e.cancels = d.cancels ++ said.filterMap Signal.cancelled? := by
  rw [History.cancels, wire, List.filterMap_append]
  rfl

theorem WireInvariant.unchanged (settings : Settings) (d e : MidCall) (wireInvariant : WireInvariant settings d)
    (wire : e.wire = d.wire) (flying : e.scheduler.slot.flying = d.scheduler.slot.flying)
    (correlation : e.scheduler.nextCorrelation = d.scheduler.nextCorrelation) : WireInvariant settings e := by
  have cancels : e.cancels = d.cancels := by rw [History.cancels, wire, History.cancels]
  have submissions : e.submissions = d.submissions := by rw [History.submissions, wire, History.submissions]
  refine ⟨wire ▸ wireInvariant.clean, ?_, ?_, ?_, ?_⟩
  · rw [wire, flying]
    exact wireInvariant.flying
  · rw [cancels, submissions, flying]
    exact wireInvariant.recalled
  · rw [submissions]
    exact wireInvariant.counted
  · rw [correlation, submissions]
    exact wireInvariant.next

theorem WireInvariant.reported (settings : Settings) (d e : MidCall) (cid : CorrelationId)
    (wireInvariant : WireInvariant settings d) (wire : e.wire = d.wire ++ [.report cid])
    (after : e.scheduler.slot.flying = Signal.apply d.scheduler.slot.flying (.report cid))
    (correlation : e.scheduler.nextCorrelation = d.scheduler.nextCorrelation) : WireInvariant settings e := by
  have cancels := (cancels_said d e _ wire).trans (List.append_nil _)
  have submissions := (submissions_said d e _ wire).trans (List.append_nil _)
  refine ⟨?_, ?_, ?_, ?_, ?_⟩
  · rw [wire]
    exact .snoc _ _ wireInvariant.clean trivial
  · rw [wire, outstanding_snoc, wireInvariant.flying, after]
  · rw [cancels, submissions, after]
    have fewer := (List.filter_sublist (p := fun flight => flight.1 ≠ cid) (l := d.scheduler.slot.flying)).map Prod.fst
    exact (fewer.append_left _).trans wireInvariant.recalled
  · rw [submissions]
    exact wireInvariant.counted
  · rw [correlation, submissions]
    exact wireInvariant.next

theorem WireInvariant.calledOff (settings : Settings) (d e : MidCall) (cid : CorrelationId) (peers : List MacAddress)
    (wireInvariant : WireInvariant settings d) (before : d.scheduler.slot.flying = [(cid, peers)])
    (wire : e.wire = d.wire ++ [.cancel cid peers]) (after : e.scheduler.slot.flying = [])
    (correlation : e.scheduler.nextCorrelation = d.scheduler.nextCorrelation) : WireInvariant settings e := by
  have cancels : e.cancels = d.cancels ++ [cid] := cancels_said d e _ wire
  have submissions := (submissions_said d e _ wire).trans (List.append_nil _)
  have recalled := wireInvariant.recalled
  rw [before] at recalled
  refine ⟨?_, ?_, ?_, ?_, ?_⟩
  · rw [wire]
    exact .snoc _ _ wireInvariant.clean (wireInvariant.flying.trans before)
  · rw [wire, outstanding_snoc, wireInvariant.flying, before, after]
    simp [Signal.apply]
  · rw [cancels, submissions, after, List.map_nil, List.append_nil]
    exact recalled
  · rw [submissions]
    exact wireInvariant.counted
  · rw [correlation, submissions]
    exact wireInvariant.next

theorem WireInvariant.submitted (settings : Settings) (d e : MidCall) (op : Operation) (accepted : Bool)
    (wireInvariant : WireInvariant settings d) (sized : op.hardwarePeers.length ≤ settings.maxPeers)
    (reachable : op.hardwarePeers ≠ []) (before : d.scheduler.slot.flying = [])
    (wire : e.wire = d.wire ++ [.submit op.id d.scheduler.nextCorrelation op.hardwarePeers accepted])
    (after : e.scheduler.slot.flying =
      if accepted then [(d.scheduler.nextCorrelation, op.hardwarePeers)] else [])
    (correlation : e.scheduler.nextCorrelation = d.scheduler.nextCorrelation.next) : WireInvariant settings e := by
  have cancels := (cancels_said d e _ wire).trans (List.append_nil _)
  have submissions : e.submissions = d.submissions ++ [(op.id, d.scheduler.nextCorrelation)] :=
    submissions_said d e _ wire
  have recalled := wireInvariant.recalled
  rw [before, List.map_nil, List.append_nil] at recalled
  refine ⟨?_, ?_, ?_, ?_, ?_⟩
  · rw [wire]
    exact .snoc _ _ wireInvariant.clean ⟨wireInvariant.flying.trans before, reachable, sized⟩
  · rw [wire, outstanding_snoc, wireInvariant.flying, before, after]
    rfl
  · rw [cancels, submissions, after, List.map_append]
    cases accepted with
    | false =>
        refine List.Sublist.trans ?_ (List.sublist_append_left _ _)
        simpa using recalled
    | true => exact recalled.append_right _
  · rw [submissions, List.map_append, wireInvariant.counted, List.length_append, List.length_singleton, List.range_succ,
      List.map_append, List.map_singleton, List.map_singleton, wireInvariant.next]
  · have counted := wireInvariant.next
    rw [correlation, submissions, List.length_append, List.length_singleton, CorrelationId.next, UInt32.toNat_add,
      UInt32.toNat_one]
    omega

theorem wireInvariant_kept (settings : Settings) (d e : MidCall) (conserves : Conserved settings d)
    (wireInvariant : WireInvariant settings d) (move : Move d e) : WireInvariant settings e := by
  cases move_traffic d e move with
  | quiet wire flying unserved operation correlation =>
      exact wireInvariant.unchanged settings d e wire flying correlation
  | joined wire flying unserved operation correlation =>
      exact wireInvariant.unchanged settings d e wire flying correlation
  | stale cid away wire flying unserved operation correlation =>
      refine wireInvariant.reported settings d e cid wire ?_ correlation
      rw [flying]
      exact (List.filter_eq_self.2 (by simpa using away)).symm
  | landed cid peers before wire after unserved operation correlation =>
      refine wireInvariant.reported settings d e cid wire ?_ correlation
      simp [after, before, Signal.apply]
  | recalled cid peers before wire after unserved operation correlation =>
      exact wireInvariant.calledOff settings d e cid peers before wire after correlation
  | submitted op accepted poised reachable before wire after unserved operation correlation =>
      have present : op ∈ d.present := by simp [MidCall.present, MidCall.standing, poised]
      exact wireInvariant.submitted settings d e op accepted
        (hardwarePeers_sized settings d conserves op present) reachable before
        wire after correlation

theorem reached_wireInvariant (settings : Settings) (h : History) (path : History.Reached settings h) :
    WireInvariant settings (.clear h) := by
  have both : Conserved settings (.clear h) ∧ WireInvariant settings (.clear h) := by
    refine reached_law h settings (fun d => Conserved settings d ∧ WireInvariant settings d) ?_ ?_ path
    · intro ready positive
      exact ⟨fresh_conserved settings ready, .nil, rfl, .refl _, rfl, rfl⟩
    · intro d e _ laws move
      obtain ⟨conserves, wireInvariant⟩ := laws
      exact ⟨conserved_kept settings d e conserves move, wireInvariant_kept settings d e conserves wireInvariant move⟩
  exact both.2

structure History.OneDispatch (settings : Settings) (h : History) : Prop where
  single : ∀ past later, h.wire = past ++ later → (outstanding past).length ≤ 1
  current : outstanding h.wire = h.scheduler.slot.flying
  fresh : (h.submissions.map Prod.snd).Nodup
  once : (h.submissions.map Prod.fst).Nodup
  peers : ∀ operation cid peers accepted, .submit operation cid peers accepted ∈ h.wire →
    peers ≠ [] ∧ peers.length ≤ settings.maxPeers
  cancelled : ∀ past cid peers later, h.wire = past ++ .cancel cid peers :: later →
    outstanding past = [(cid, peers)] ∧ ∃ operation, .submit operation cid peers true ∈ past
  cancelledOnce : h.cancels.Nodup

theorem reached_fresh (settings : Settings) (h : History) (path : History.Reached settings h)
    (few : h.submissions.length ≤ 4294967296) : (h.submissions.map Prod.snd).Nodup := by
  have counted := (reached_wireInvariant settings h path).counted
  have distinct : ((List.range h.submissions.length).map fun place => (place + 1) % 4294967296).Nodup := by
    refine List.Nodup.map_on ?_ List.nodup_range
    intro a below b above same
    have := List.mem_range.1 below
    have := List.mem_range.1 above
    omega
  have values : (h.submissions.map fun submission => submission.2.val.toNat).Nodup := by
    rw [show h.submissions.map (fun submission => submission.2.val.toNat) = _ from counted]
    exact distinct
  refine List.Nodup.of_map (fun cid : CorrelationId => cid.val.toNat) ?_
  rw [List.map_map]
  exact values

theorem reached_oneDispatch (settings : Settings) (h : History) (path : History.Reached settings h)
    (few : h.submissions.length ≤ 4294967296) : h.OneDispatch settings := by
  have wireInvariant := reached_wireInvariant settings h path
  have clean : ProperWire settings h.wire := wireInvariant.clean
  have fresh := reached_fresh settings h path few
  refine ⟨?_, wireInvariant.flying, fresh, ?_, ?_, ?_, ?_⟩
  · intro past later whole
    rw [whole] at clean
    exact ProperWire.outstanding_le_one settings past (ProperWire.of_append settings past later clean)
  · have rising := (List.pairwise_append.1 (reached_servedInOrder settings h path).rising).1
    exact names_distinct _ rising
  · intro operation cid peers accepted member
    obtain ⟨past, later, whole⟩ := List.append_of_mem member
    rw [whole] at clean
    obtain ⟨_, reachable, sized⟩ := ProperWire.proper_at settings past later _ clean
    exact ⟨reachable, sized⟩
  · intro past cid peers later whole
    rw [whole] at clean
    have flying : outstanding past = [(cid, peers)] := ProperWire.proper_at settings past later _ clean
    exact ⟨flying, outstanding_submitted past cid peers (flying ▸ List.mem_singleton_self _)⟩
  · have listed := (List.sublist_append_left _ _).trans wireInvariant.recalled
    exact fresh.sublist listed

theorem sample_oneDispatch : History.Reached .standard History.sample ∧
    History.sample.submissions = [(⟨1⟩, ⟨1⟩), (⟨2⟩, ⟨2⟩), (⟨3⟩, ⟨3⟩), (⟨4⟩, ⟨4⟩)] ∧
    History.sample.cancels = [⟨3⟩] ∧ History.sample.OneDispatch .standard :=
  ⟨sample_reached, by decide, by decide, reached_oneDispatch .standard History.sample sample_reached (by decide)⟩

end Ranging

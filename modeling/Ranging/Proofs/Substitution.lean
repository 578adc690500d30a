import Ranging.Correlation
import Mathlib.Data.List.Basic
import Mathlib.Data.List.Induction

-- The requester's handles and the hardware's addresses. A request whose handles are known comes to the same as one that
-- names their addresses in their places: the hardware is sent the same peers, and the requester is told the same
-- figures under the names that it gave.
namespace Ranging

def Peer.replaced (t : Translation) : Peer → Peer
  | .address mac => .address mac
  | .handle h => ((t.addressOf? h).map Peer.address).getD (.handle h)

def Request.replaced (t : Translation) (r : Request) : Request := ⟨r.peers.map (Peer.replaced t)⟩

def Measurement.under (peer : Peer) (m : Measurement) : Measurement := { m with peer := peer }

def Peer.isKnown (answer : AddressBook) : Peer → Bool
  | .address _ => true
  | .handle h => answer.contains h

structure Request.Transparent (r : Request) (answer : AddressBook) (t : Translation) : Prop where
  distinct : r.handles.Nodup
  named : ∀ h, h ∈ r.handles ↔ .handle h ∈ r.peers
  ordered : r.handles.Pairwise fun h k => r.peers.idxOf (.handle h) < r.peers.idxOf (.handle k)
  found : ∀ h, t.addressOf? h = if h ∈ r.handles then answer.get? h else none
  parted : r.handles.partition (fun h => (t.addressOf? h).isSome) = (t.book.keys, t.unresolved r)
  counted : t.size + (t.unresolved r).length = r.handles.length
  within : ∀ other, (∀ h ∈ r.handles, answer.get? h = other.get? h) → .ofAnswer r other = t
  sent : r.hardwarePeers (some t) = (r.replaced t).hardwarePeers none
  sized : (r.hardwarePeers (some t)).length = r.peers.countP (Peer.isKnown answer)
  told : ∀ report, correlate r (some t) report =
    List.zipWith Measurement.under r.peers (correlate (r.replaced t) none report)

theorem replaced_address? (t : Translation) (peer : Peer) :
    (peer.replaced t).address? none = peer.address? (some t) := by
  cases peer with
  | address mac => rfl
  | handle h =>
      cases known : t.addressOf? h <;> simp [Peer.replaced, Peer.address?, known]

-- A measurement depends on its peer by where the peer is, and by its name.
theorem measurementOf_under (one two : Option Translation) (index : Table MacAddress Reading) (peer other : Peer)
    (same : peer.address? one = other.address? two) :
    measurementOf one index peer = (measurementOf two index other).under peer := by
  unfold measurementOf
  rw [same]
  cases (other.address? two).bind index.get? <;> rfl

namespace Request
variable (r : Request) (answer : AddressBook)

theorem handles_ordered (r : Request) :
    r.handles.Pairwise fun h k => r.peers.idxOf (.handle h) < r.peers.idxOf (.handle k) := by
  obtain ⟨peers⟩ := r
  induction peers using List.reverseRecOn with
  | nil => exact .nil
  | append_singleton peers peer ih =>
      -- whatever was named keeps its place, so only a handle that is named last of all needs a look
      have kept : ∀ h, h ∈ handles ⟨peers⟩ → (peers ++ [peer]).idxOf (.handle h) = peers.idxOf (.handle h) :=
        fun h member => List.idxOf_append_of_mem ((mem_handles _ h).1 member)
      have earlier : (handles ⟨peers⟩).Pairwise fun h k =>
          (peers ++ [peer]).idxOf (.handle h) < (peers ++ [peer]).idxOf (.handle k) := by
        refine ih.imp_of_mem fun {h k} first second before => ?_
        rw [kept h first, kept k second]
        exact before
      cases peer with
      | address mac =>
          have same : handles ⟨peers ++ [.address mac]⟩ = handles ⟨peers⟩ := handles_withAddress ⟨peers⟩ mac
          rw [same]
          exact earlier
      | handle h =>
          have more := handles_withHandle ⟨peers⟩ h
          by_cases before : h ∈ handles ⟨peers⟩
          · rw [withHandle, if_pos before] at more
            rw [more]
            exact earlier
          · rw [withHandle, if_neg before] at more
            rw [more]
            have new : Peer.handle h ∉ peers := fun listed => before ((mem_handles _ h).2 listed)
            refine List.pairwise_append.2 ⟨earlier, List.pairwise_singleton _ _, fun k member last here => ?_⟩
            cases List.mem_singleton.1 here
            rw [kept k member, List.idxOf_append_of_notMem new]
            exact Nat.lt_add_right _ (List.idxOf_lt_length_of_mem ((mem_handles _ k).1 member))

theorem hardwarePeers_replaced (t : Translation) : (r.replaced t).hardwarePeers none = r.hardwarePeers (some t) := by
  rw [hardwarePeers, replaced, List.filterMap_map]
  exact congrArg (List.filterMap · r.peers) (funext (replaced_address? t))

theorem correlate_replaced (t : Translation) (report : List Reading) : correlate r (some t) report =
    List.zipWith Measurement.under r.peers (correlate (r.replaced t) none report) := by
  unfold correlate replaced
  rw [List.map_map, List.zipWith_map_right, List.zipWith_self]
  refine List.map_congr_left fun peer _ => ?_
  exact measurementOf_under _ _ _ _ _ (replaced_address? t peer).symm

theorem hardwarePeers_length : (r.hardwarePeers (some (.ofAnswer r answer))).length =
    r.peers.countP (Peer.isKnown answer) := by
  rw [hardwarePeers, List.length_filterMap_eq_countP]
  refine List.countP_congr fun peer listed => ?_
  cases peer with
  | address mac => simp [Peer.address?, Peer.isKnown]
  | handle h => simp [Peer.address?, Peer.isKnown, Translation.addressOf?_ofAnswer, listed]

theorem addressOf?_named (h : PeerHandle) : (Translation.ofAnswer r answer).addressOf? h =
    if h ∈ r.handles then answer.get? h else none := by
  simp only [Translation.addressOf?_ofAnswer, mem_handles]

theorem keys_resolved : (Translation.ofAnswer r answer).book.keys =
    r.handles.filter fun h => ((Translation.ofAnswer r answer).addressOf? h).isSome := by
  rw [Translation.keys_ofAnswer]
  refine List.filter_congr fun h member => ?_
  rw [addressOf?_named, if_pos member]

theorem counted_resolved :
    (Translation.ofAnswer r answer).size + ((Translation.ofAnswer r answer).unresolved r).length =
    r.handles.length := by
  rw [Translation.size, ← Table.size_keys, keys_resolved, Translation.unresolved]
  simpa using (List.length_eq_length_filter_add
    fun h => ((Translation.ofAnswer r answer).addressOf? h).isSome).symm

end Request

theorem request_transparent (r : Request) (answer : AddressBook) : r.Transparent answer (.ofAnswer r answer) where
  distinct := r.handles_nodup
  named := r.mem_handles
  ordered := r.handles_ordered
  found := r.addressOf?_named answer
  parted := by
    rw [List.partition_eq_filter_filter, r.keys_resolved answer, Translation.unresolved]
    simp [Function.comp_def]
  counted := r.counted_resolved answer
  within := fun other agree => (Translation.ofAnswer_congr r answer other agree).symm
  sent := (r.hardwarePeers_replaced _).symm
  sized := r.hardwarePeers_length answer
  told := r.correlate_replaced _

-- One handle is named twice and known, another is not known, and a third has been answered about unasked.
example : (Request.mk [.handle ⟨7⟩, .handle ⟨8⟩, .handle ⟨7⟩]).hardwarePeers (some (.ofAnswer
    ⟨[.handle ⟨7⟩, .handle ⟨8⟩, .handle ⟨7⟩]⟩ (.ofList [(⟨9⟩, ⟨0, 1, 2, 3, 4, 9⟩), (⟨7⟩, ⟨0, 1, 2, 3, 4, 7⟩)]))) =
      [⟨0, 1, 2, 3, 4, 7⟩, ⟨0, 1, 2, 3, 4, 7⟩] := by decide

end Ranging

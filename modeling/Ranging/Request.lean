import Ranging.Peer

-- What a requester wants measured, and the errors a call can be refused with before it starts.
namespace Ranging

inductive CallError
  | emptyRequest
  | tooManyPeers (count max : Nat)
  | closed
  | statusUnavailable
deriving DecidableEq, Repr

def CallError.message : CallError → String
  | .emptyRequest => "ranging request has no peers"
  | .tooManyPeers count max =>
      "ranging request has " ++ toString count ++ " peers, max " ++ toString max
  | .closed => "scheduler is shut down"
  | .statusUnavailable => "scheduler status unavailable"

-- The peers in the order of the answer that is wanted; a peer may be named more than once.
structure Request where
  peers : List Peer
deriving DecidableEq, Repr

theorem nodup_eraseDups {α : Type} [DecidableEq α] (items : List α) : items.eraseDups.Nodup := by
  match items with
  | [] => exact List.nodup_nil
  | first :: rest =>
      have shorter : (rest.filter fun item => !item == first).length < rest.length + 1 :=
        Nat.lt_succ_of_le (List.length_filter_le _ _)
      rw [List.eraseDups_cons]
      refine List.nodup_cons.2 ⟨?_, nodup_eraseDups _⟩
      simp
termination_by items.length

namespace Request

def empty : Request := ⟨[]⟩

def withAddress (r : Request) (mac : MacAddress) : Request := ⟨r.peers ++ [.address mac]⟩

def withHandle (r : Request) (h : PeerHandle) : Request := ⟨r.peers ++ [.handle h]⟩

def add (r : Request) : Peer → Request
  | .address mac => r.withAddress mac
  | .handle h => r.withHandle h

def build (peers : List Peer) : Request := peers.foldl add empty

def size (r : Request) : Nat := r.peers.length

-- The handles that need a resolver, each once, in the order of their first mention.
def handles (r : Request) : List PeerHandle := (r.peers.filterMap Peer.handle?).eraseDups

def hasHandles (r : Request) : Bool := r.peers.any fun peer => peer.handle?.isSome

def validate (r : Request) (max : Nat) : Except CallError Unit :=
  if r.peers.isEmpty then .error .emptyRequest
  else if max < r.size then .error (.tooManyPeers r.size max)
  else .ok ()

def detail (r : Request) : String :=
  "RangingRequest \x7b peers: [" ++ String.intercalate ", " (r.peers.map Peer.detail) ++ "] \x7d"

@[simp] theorem add_peers (r : Request) (peer : Peer) : (r.add peer).peers = r.peers ++ [peer] := by
  cases peer <;> rfl

theorem foldl_add_peers (peers : List Peer) (r : Request) : (peers.foldl add r).peers = r.peers ++ peers := by
  induction peers generalizing r with
  | nil => simp
  | cons peer rest ih => simp [ih]

theorem build_peers (peers : List Peer) : (build peers).peers = peers := by
  simp [build, foldl_add_peers, empty]

@[simp] theorem mem_handles (r : Request) (h : PeerHandle) : h ∈ r.handles ↔ Peer.handle h ∈ r.peers := by
  simp only [handles, List.mem_eraseDups, List.mem_filterMap]
  constructor
  · intro named
    obtain ⟨peer, here, same⟩ := named
    cases peer with
    | address mac => cases same
    | handle k => cases same; exact here
  · exact fun here => ⟨.handle h, here, rfl⟩

theorem handles_nodup (r : Request) : r.handles.Nodup := nodup_eraseDups _

theorem handles_withAddress (r : Request) (mac : MacAddress) : (r.withAddress mac).handles = r.handles := by
  have same : (r.withAddress mac).peers.filterMap Peer.handle? = r.peers.filterMap Peer.handle? ++ [] :=
    List.filterMap_append
  rw [handles, same, List.append_nil, handles]

theorem handles_withHandle (r : Request) (h : PeerHandle) :
    (r.withHandle h).handles = if h ∈ r.handles then r.handles else r.handles ++ [h] := by
  have more : (r.withHandle h).peers.filterMap Peer.handle? = r.peers.filterMap Peer.handle? ++ [h] :=
    List.filterMap_append
  unfold handles
  rw [more, List.eraseDups_append]
  generalize r.peers.filterMap Peer.handle? = named
  by_cases before : h ∈ named
  · simp [before, List.removeAll]
  · simp [before, List.removeAll, List.eraseDups_cons]

theorem hasHandles_iff (r : Request) : r.hasHandles = true ↔ r.handles ≠ [] := by
  constructor
  · intro has none
    obtain ⟨peer, member, named⟩ := List.any_eq_true.1 has
    cases peer with
    | address mac => cases named
    | handle k =>
        have listed := (mem_handles r k).2 member
        rw [none] at listed
        cases listed
  · intro some
    obtain ⟨k, listed⟩ := List.exists_mem_of_ne_nil _ some
    exact List.any_eq_true.2 ⟨.handle k, (mem_handles r k).1 listed, rfl⟩

theorem validate_ok_iff (r : Request) (max : Nat) :
    r.validate max = .ok () ↔ r.peers ≠ [] ∧ r.size ≤ max := by
  unfold validate
  cases peers : r.peers with
  | nil => simp
  | cons peer rest =>
      by_cases large : max < r.size
      · simp [large]
      · simp [large, Nat.not_lt.1 large]

end Request
end Ranging

import Ranging.Request
import Ranging.Table

-- The addresses that a resolver gave for the handles of one request.
namespace Ranging

abbrev AddressBook := Table PeerHandle MacAddress

-- Handles that the request does not name never enter it.
structure Translation where
  book : AddressBook
deriving DecidableEq

namespace Translation

def collect (answer : AddressBook) (book : AddressBook) (h : PeerHandle) : AddressBook :=
  match answer.get? h with
  | some mac => book.put h mac
  | none => book

def ofAnswer (r : Request) (answer : AddressBook) : Translation :=
  ⟨r.handles.foldl (collect answer) ∅⟩

def addressOf? (t : Translation) (h : PeerHandle) : Option MacAddress := t.book.get? h

def size (t : Translation) : Nat := t.book.size

def unresolved (t : Translation) (r : Request) : List PeerHandle :=
  r.handles.filter fun h => (t.addressOf? h).isNone

theorem get?_collect (answer book : AddressBook) (h k : PeerHandle) :
    (collect answer book h).get? k = if k = h then (answer.get? h).or (book.get? h) else book.get? k := by
  unfold collect
  cases found : answer.get? h with
  | none => by_cases same : k = h <;> simp [same]
  | some mac => by_cases same : k = h <;> simp [same]

theorem get?_collected (answer : AddressBook) (handles : List PeerHandle) (book : AddressBook) (k : PeerHandle) :
    (handles.foldl (collect answer) book).get? k =
      if k ∈ handles then (answer.get? k).or (book.get? k) else book.get? k := by
  induction handles generalizing book with
  | nil => simp
  | cons h rest ih =>
      rw [List.foldl_cons, ih, get?_collect]
      by_cases same : k = h
      · subst same
        by_cases later : k ∈ rest
        · cases answer.get? k <;> simp [later]
        · simp [later]
      · simp [same]

theorem addressOf?_ofAnswer (r : Request) (answer : AddressBook) (h : PeerHandle) :
    (ofAnswer r answer).addressOf? h = if Peer.handle h ∈ r.peers then answer.get? h else none := by
  simp [addressOf?, ofAnswer, get?_collected]

theorem keys_collected (answer : AddressBook) (handles : List PeerHandle) (book : AddressBook)
    (distinct : handles.Nodup) (fresh : ∀ h ∈ handles, h ∉ book.keys) :
    (handles.foldl (collect answer) book).keys = book.keys ++ handles.filter fun h => (answer.get? h).isSome := by
  induction handles generalizing book with
  | nil => simp
  | cons h rest ih =>
      obtain ⟨once, others⟩ := List.nodup_cons.1 distinct
      have later : ∀ k ∈ rest, k ∉ book.keys := fun k member => fresh k (List.mem_cons_of_mem _ member)
      rw [List.foldl_cons, List.filter_cons, collect]
      cases found : answer.get? h with
      | none => simpa using ih book others later
      | some mac =>
          have keys := book.keys_put h mac (fresh h List.mem_cons_self)
          have apart : ∀ k ∈ rest, k ∉ (book.put h mac).keys := by
            intro k member listed
            rcases List.mem_append.1 (keys ▸ listed) with old | new
            · exact later k member old
            · exact once (List.mem_singleton.1 new ▸ member)
          simp [ih _ others apart, keys]

theorem keys_ofAnswer (r : Request) (answer : AddressBook) :
    (ofAnswer r answer).book.keys = r.handles.filter fun h => (answer.get? h).isSome :=
  keys_collected answer r.handles ∅ r.handles_nodup (by simp [Table.mem_keys_iff])

theorem collected_congr (answer other : AddressBook) (handles : List PeerHandle) (book : AddressBook)
    (agree : ∀ h ∈ handles, answer.get? h = other.get? h) :
    handles.foldl (collect answer) book = handles.foldl (collect other) book := by
  induction handles generalizing book with
  | nil => rfl
  | cons h rest ih =>
      have same : collect answer book h = collect other book h := by
        unfold collect
        rw [agree h List.mem_cons_self]
      rw [List.foldl_cons, List.foldl_cons, same]
      exact ih _ fun k later => agree k (List.mem_cons_of_mem _ later)

theorem ofAnswer_congr (r : Request) (answer other : AddressBook)
    (agree : ∀ h ∈ r.handles, answer.get? h = other.get? h) : ofAnswer r answer = ofAnswer r other :=
  congrArg Translation.mk (collected_congr answer other r.handles ∅ agree)

end Translation

def Peer.address? (t : Option Translation) : Peer → Option MacAddress
  | .address mac => some mac
  | .handle h => t.bind fun known => known.addressOf? h

-- What the hardware is asked to range with: a peer without an address is left out.
def Request.hardwarePeers (r : Request) (t : Option Translation) : List MacAddress :=
  r.peers.filterMap (Peer.address? t)

end Ranging

-- The ends of a ranging exchange. A peer is named by its hardware address, or by a handle
-- that a resolver has to turn into an address first.
namespace Ranging

structure MacAddress where
  (o1 o2 o3 o4 o5 o6 : UInt8)
deriving DecidableEq, Repr

namespace MacAddress

def octets (m : MacAddress) : List UInt8 := [m.o1, m.o2, m.o3, m.o4, m.o5, m.o6]

def ofOctets? : List UInt8 → Option MacAddress
  | [o1, o2, o3, o4, o5, o6] => some ⟨o1, o2, o3, o4, o5, o6⟩
  | _ => none

@[simp] theorem ofOctets?_octets (m : MacAddress) : ofOctets? m.octets = some m := rfl

def le (a b : MacAddress) : Bool := decide (a.octets ≤ b.octets)

def octetText (o : UInt8) : String :=
  String.ofList [Nat.digitChar (o.toNat / 16), Nat.digitChar (o.toNat % 16)]

def text (m : MacAddress) : String := String.intercalate ":" (m.octets.map octetText)

def detail (m : MacAddress) : String := "MacAddress(" ++ m.text ++ ")"

end MacAddress

structure PeerHandle where
  val : UInt32
deriving DecidableEq, Repr

def PeerHandle.detail (h : PeerHandle) : String := "PeerHandle(" ++ toString h.val.toNat ++ ")"

inductive Peer
  | address (mac : MacAddress)
  | handle (handle : PeerHandle)
deriving DecidableEq, Repr

namespace Peer

def handle? : Peer → Option PeerHandle
  | .handle h => some h
  | .address _ => none

def detail : Peer → String
  | .address mac => "Address(" ++ mac.detail ++ ")"
  | .handle h => "Handle(" ++ h.detail ++ ")"

end Peer
end Ranging

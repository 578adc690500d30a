import Ranging.Text.Quoted

-- Who asks, and the names under which the scheduler keeps track of what was asked.
namespace Ranging

-- Milliseconds. Every clock reading and every deadline lies below 2^64.
abbrev Time := Nat

-- The last instant that can be written down, below 2^64; sums of times stop here.
def Time.last : Time := 0xffffffffffffffff

def Time.after (now span : Time) : Time := min (now + span) Time.last

abbrev Uid := UInt32

structure Requester where
  uid : Uid
  package : String
deriving DecidableEq, Repr

def Requester.detail (r : Requester) : String :=
  "RequesterIdentity \x7b calling_uid: " ++ toString r.uid.toNat ++ ", package_name: " ++
    Text.quoted r.package ++ " \x7d"

-- Names a requester's life: its operations are dropped when that life ends.
structure LivenessToken where
  val : Nat
deriving DecidableEq, Repr

def LivenessToken.text (t : LivenessToken) : String := "liveness-" ++ toString t.val

def LivenessToken.detail (t : LivenessToken) : String := "LivenessToken(" ++ toString t.val ++ ")"

-- Counts the well-formed submissions from 1, so that no two operations share one.
structure OperationId where
  val : Nat
deriving DecidableEq, Repr

namespace OperationId

def first : OperationId := ⟨1⟩

def next (i : OperationId) : OperationId := ⟨i.val + 1⟩

def text (i : OperationId) : String := "op-" ++ toString i.val

def detail (i : OperationId) : String := "OperationId(" ++ toString i.val ++ ")"

end OperationId

-- Names one hand-over to the hardware. The hardware keeps 32 bits of it, so the count wraps.
structure CorrelationId where
  val : UInt32
deriving DecidableEq, Repr

namespace CorrelationId

def first : CorrelationId := ⟨1⟩

def next (c : CorrelationId) : CorrelationId := ⟨c.val + 1⟩

def text (c : CorrelationId) : String := toString c.val.toNat

def detail (c : CorrelationId) : String := "CorrelationId(" ++ c.text ++ ")"

end CorrelationId

-- Where the answer to a submission goes. The submitter chooses it; the scheduler only hands it back.
structure ReplyTo where
  val : Nat
deriving DecidableEq, Repr

end Ranging

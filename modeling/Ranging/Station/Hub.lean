import Ranging.Identity
import Ranging.Table

-- Issues liveness tokens and watches the lives behind them. A requester holds a guard as long as
-- it lives; dropping the guard is its death.
namespace Ranging

-- Whether the guard's end of the channel is open, and whether the token is watched. A token with neither an open
-- channel nor a watch has no entry as a rule.
inductive Presence
  -- open, and not watched
  | held
  -- open, and watched
  | watched
  -- closed, and watched
  | lost
  -- closed, and not watched
  | stray
deriving DecidableEq, Repr

structure Hub where
  nextToken : LivenessToken
  entries : Table LivenessToken Presence
deriving DecidableEq

namespace Hub

def new : Hub := ⟨⟨1⟩, ∅⟩

def wasIssued (h : Hub) (t : LivenessToken) : Bool := 0 < t.val && t.val < h.nextToken.val

def connected (h : Hub) : Nat := h.entries.size

def isWatch : Presence → Bool
  | .held => false
  | .watched => true
  | .lost => true
  | .stray => false

def watched (h : Hub) : Nat := h.entries.values.countP isWatch

def connect (h : Hub) : LivenessToken × Hub :=
  (h.nextToken, ⟨⟨h.nextToken.val + 1⟩, h.entries.put h.nextToken .held⟩)

def isOpen (h : Hub) (t : LivenessToken) : Bool :=
  h.entries.get? t = some .held || h.entries.get? t = some .watched

-- The first part of a guard's drop: the entry goes unless it is watched.
def leave (h : Hub) (t : LivenessToken) : Hub :=
  match h.entries.get? t with
  | some .held => { h with entries := h.entries.erase t }
  | some .stray => { h with entries := h.entries.erase t }
  | some .watched => h
  | some .lost => h
  | none => h

-- The second part: the guard's end of the channel is closed. True if a watch will notice.
def close (h : Hub) (t : LivenessToken) : Bool × Hub :=
  match h.entries.get? t with
  | some .held => (false, { h with entries := h.entries.put t .stray })
  | some .watched => (true, { h with entries := h.entries.put t .lost })
  | some .lost => (false, h)
  | some .stray => (false, h)
  | none => (false, h)

inductive Registered
  -- the token is watched already, or was never issued
  | nothing
  -- the requester is known to be dead
  | dead
  -- the watch starts
  | watching
deriving DecidableEq, Repr

def register (h : Hub) (t : LivenessToken) : Registered × Hub :=
  match h.entries.get? t with
  | none => (if h.wasIssued t then .dead else .nothing, h)
  | some .held => (.watching, { h with entries := h.entries.put t .watched })
  | some .stray => (.watching, { h with entries := h.entries.put t .lost })
  | some .watched => (.nothing, h)
  | some .lost => (.nothing, h)

def hasLost (h : Hub) (t : LivenessToken) : Bool := h.entries.get? t = some .lost

-- Ends the watch. The entry stays only as long as the channel is open.
def unregister (h : Hub) (t : LivenessToken) : Hub :=
  match h.entries.get? t with
  | some .watched => { h with entries := h.entries.put t .held }
  | some .lost => { h with entries := h.entries.erase t }
  | some .stray => { h with entries := h.entries.erase t }
  | some .held => h
  | none => h

end Hub
end Ranging

import Ranging.Identity

-- The five limits of the scheduler and what makes them usable.
namespace Ranging

-- In the order in which they are written out and checked.
inductive Limit
  | backgroundGap
  | hardwareTimeout
  | maxPeers
  | maxQueued
  | resolverTimeout
deriving DecidableEq, Repr

namespace Limit

def all : List Limit := [.backgroundGap, .hardwareTimeout, .maxPeers, .maxQueued, .resolverTimeout]

def key : Limit → String
  | .backgroundGap => "background_exec_gap_ms"
  | .hardwareTimeout => "hardware_timeout_ms"
  | .maxPeers => "max_peers_per_request"
  | .maxQueued => "max_queued_per_uid"
  | .resolverTimeout => "resolver_timeout_ms"

theorem mem_all (l : Limit) : l ∈ all := by cases l <;> simp [all]

theorem key_injective (a b : Limit) (same : a.key = b.key) : a = b := by
  revert same
  cases a <;> cases b <;> decide

end Limit

inductive SettingsError
  | unreadable (path reason : String)
  | malformed (reason : String)
  | invalid (limit : Limit) (reason : String)
deriving DecidableEq, Repr

def SettingsError.message : SettingsError → String
  | .unreadable path reason => "failed to read config " ++ path ++ ": " ++ reason
  | .malformed reason => "failed to parse config: " ++ reason
  | .invalid limit reason => "invalid config value for " ++ limit.key ++ ": " ++ reason

structure Settings where
  -- how long a uid that dispatched keeps background requests from dispatching again
  backgroundGap : Time
  hardwareTimeout : Time
  maxPeers : Nat
  -- how many live operations may be billed to one uid
  maxQueued : Nat
  resolverTimeout : Time
deriving DecidableEq, Repr

namespace Settings

def standard : Settings := ⟨30 * 60 * 1000, 5000, 10, 20, 2000⟩

def brisk : Settings := { standard with backgroundGap := 1000, hardwareTimeout := 100, resolverTimeout := 50 }

def get (s : Settings) : Limit → Nat
  | .backgroundGap => s.backgroundGap
  | .hardwareTimeout => s.hardwareTimeout
  | .maxPeers => s.maxPeers
  | .maxQueued => s.maxQueued
  | .resolverTimeout => s.resolverTimeout

def set (s : Settings) (value : Nat) : Limit → Settings
  | .backgroundGap => { s with backgroundGap := value }
  | .hardwareTimeout => { s with hardwareTimeout := value }
  | .maxPeers => { s with maxPeers := value }
  | .maxQueued => { s with maxQueued := value }
  | .resolverTimeout => { s with resolverTimeout := value }

@[simp] theorem get_set (s : Settings) (value : Nat) (a b : Limit) :
    (s.set value a).get b = if b = a then value else s.get b := by
  cases a <;> cases b <;> rfl

-- A limit of zero would let nothing through. The first one is reported.
def validate (s : Settings) : Except SettingsError Settings :=
  match Limit.all.find? fun l => s.get l = 0 with
  | some l => .error (.invalid l "must be greater than zero")
  | none => .ok s

theorem validate_ok_iff (s : Settings) : s.validate = .ok s ↔ ∀ l, 0 < s.get l := by
  unfold validate
  cases found : Limit.all.find? fun l => s.get l = 0 with
  | some l =>
      have zero : s.get l = 0 := by simpa using List.find?_some found
      constructor
      · intro h; cases h
      · intro h; have := h l; omega
  | none =>
      have positive := List.find?_eq_none.1 found
      simp only [true_iff]
      intro l
      have := positive l (Limit.mem_all l)
      simp only [decide_eq_true_eq] at this
      omega

theorem validated (settings s : Settings) (valid : settings.validate = .ok s) :
    s = settings ∧ ∀ l, 0 < settings.get l := by
  have same : s = settings := by
    unfold validate at valid
    split at valid
    · cases valid
    · exact (Except.ok.inj valid).symm
  subst same
  exact ⟨rfl, (validate_ok_iff s).1 valid⟩

end Settings
end Ranging

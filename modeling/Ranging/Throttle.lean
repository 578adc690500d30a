import Ranging.Attribution
import Ranging.Table

-- The last dispatch billed to each uid, and the rule that holds background requesters back.
namespace Ranging

structure Ledger where
  gap : Time
  stamps : Table Uid Time
deriving DecidableEq

namespace Ledger

def new (gap : Time) : Ledger := ⟨gap, ∅⟩

def last? (l : Ledger) (uid : Uid) : Option Time := l.stamps.get? uid

def size (l : Ledger) : Nat := l.stamps.size

-- A clock that went backwards leaves no time passed, so the uid is not rested.
def rested (l : Ledger) (now : Time) (uid : Uid) : Bool :=
  match l.last? uid with
  | none => true
  | some stamp => decide (l.gap < now - stamp)

-- The foreground is never held back; in the background one rested uid among the billed is enough.
def allows (l : Ledger) (a : Attribution) (foreground : Bool) (now : Time) : Bool :=
  foreground || a.uids.any (l.rested now)

-- Every billed uid is stamped, however late its previous stamp was.
def record (l : Ledger) (a : Attribution) (now : Time) : Ledger :=
  { l with stamps := a.uids.foldl (fun stamps uid => stamps.put uid now) l.stamps }

theorem stamped (uids : List Uid) (stamps : Table Uid Time) (now : Time) (u : Uid) :
    (uids.foldl (fun stamps uid => stamps.put uid now) stamps).get? u =
      if u ∈ uids then some now else stamps.get? u := by
  induction uids generalizing stamps with
  | nil => simp
  | cons uid rest ih =>
      rw [List.foldl_cons, ih]
      by_cases later : u ∈ rest
      · simp [later]
      · by_cases same : u = uid <;> simp [later, same]

theorem last?_record (l : Ledger) (a : Attribution) (now : Time) (u : Uid) :
    (l.record a now).last? u = if u ∈ a then some now else l.last? u := stamped a.uids l.stamps now u

theorem rested_eq_false_iff (l : Ledger) (now : Time) (uid : Uid) :
    l.rested now uid = false ↔ ∃ stamp, l.last? uid = some stamp ∧ now ≤ stamp + l.gap := by
  unfold rested
  cases l.last? uid with
  | none => simp
  | some stamp =>
      simp only [decide_eq_false_iff_not, Option.some.injEq, exists_eq_left']
      exact Nat.not_lt.trans Nat.sub_le_iff_le_add'

theorem allows_eq_false_iff (l : Ledger) (a : Attribution) (foreground : Bool) (now : Time) :
    l.allows a foreground now = false ↔
      foreground = false ∧ ∀ uid ∈ a, ∃ stamp, l.last? uid = some stamp ∧ now ≤ stamp + l.gap := by
  simp only [allows, Bool.or_eq_false_iff, List.any_eq_false, Bool.not_eq_true, rested_eq_false_iff]
  rfl

theorem allows_rested (l : Ledger) (a : Attribution) (now : Time) (allowed : l.allows a false now = true) :
    ∃ uid ∈ a, ∀ stamp, l.last? uid = some stamp → stamp + l.gap < now := by
  obtain ⟨uid, billed, rested⟩ := List.any_eq_true.1 allowed
  refine ⟨uid, billed, ?_⟩
  intro stamp found
  refine Nat.lt_of_not_le fun early => ?_
  rw [(l.rested_eq_false_iff now uid).2 ⟨stamp, found, early⟩] at rested
  cases rested

end Ledger
end Ranging

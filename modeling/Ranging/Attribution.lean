import Ranging.Identity

-- The uids to which an operation is billed: a set that is never empty, kept in rising order.
namespace Ranging

structure Attribution where
  uids : List Uid
  sorted : uids.Pairwise (· < ·)
  inhabited : uids ≠ []
deriving DecidableEq

namespace Attribution

def insertUid (uid : Uid) : List Uid → List Uid
  | [] => [uid]
  | u :: rest => if uid < u then uid :: u :: rest else if uid = u then u :: rest else u :: insertUid uid rest

theorem mem_insertUid (uid u : Uid) (uids : List Uid) : u ∈ insertUid uid uids ↔ u = uid ∨ u ∈ uids := by
  induction uids with
  | nil => simp [insertUid]
  | cons v rest ih =>
      unfold insertUid
      split
      · simp
      · split
        · next same => subst same; simp
        · simp only [List.mem_cons, ih]
          constructor
          · intro member
            rcases member with h | h | h
            · exact .inr (.inl h)
            · exact .inl h
            · exact .inr (.inr h)
          · intro member
            rcases member with h | h | h
            · exact .inr (.inl h)
            · exact .inl h
            · exact .inr (.inr h)

theorem insertUid_sorted (uid : Uid) (uids : List Uid) (sorted : uids.Pairwise (· < ·)) :
    (insertUid uid uids).Pairwise (· < ·) := by
  induction uids with
  | nil => simp [insertUid]
  | cons v rest ih =>
      obtain ⟨below, tail⟩ := List.pairwise_cons.1 sorted
      unfold insertUid
      split
      · next less =>
          refine List.pairwise_cons.2 ⟨fun w h => ?_, sorted⟩
          rcases List.mem_cons.1 h with rfl | h
          · exact less
          · exact UInt32.lt_trans less (below w h)
      · split
        · exact sorted
        · next notLess different =>
            refine List.pairwise_cons.2 ⟨fun w h => ?_, ih tail⟩
            rcases (mem_insertUid _ _ _).1 h with rfl | h
            · exact UInt32.lt_of_le_of_ne (UInt32.not_lt.1 notLess) (Ne.symm different)
            · exact below w h

def sortUids (uids : List Uid) : List Uid := uids.foldr insertUid []

@[simp] theorem mem_sortUids (uid : Uid) (uids : List Uid) : uid ∈ sortUids uids ↔ uid ∈ uids := by
  induction uids with
  | nil => simp [sortUids]
  | cons u rest ih => rw [sortUids, List.foldr_cons, mem_insertUid, List.mem_cons]; exact or_congr_right ih

theorem sortUids_sorted (uids : List Uid) : (sortUids uids).Pairwise (· < ·) := by
  induction uids with
  | nil => exact List.Pairwise.nil
  | cons u rest ih => exact insertUid_sorted u _ ih

theorem sortUids_ne_nil (uids : List Uid) (inhabited : uids ≠ []) : sortUids uids ≠ [] := by
  cases uids with
  | nil => exact absurd rfl inhabited
  | cons u rest =>
      intro none
      have here : u ∈ sortUids (u :: rest) := by simp
      rw [none] at here
      cases here

def single (uid : Uid) : Attribution := ⟨[uid], by simp, by simp⟩

def ofUids? (uids : List Uid) : Option Attribution :=
  if h : uids = [] then none
  else some ⟨sortUids uids, sortUids_sorted uids, sortUids_ne_nil uids h⟩

instance : Membership Uid Attribution := ⟨fun a uid => uid ∈ a.uids⟩

instance (a : Attribution) (uid : Uid) : Decidable (uid ∈ a) := inferInstanceAs (Decidable (uid ∈ a.uids))

instance : HasSubset Attribution := ⟨fun a b => ∀ uid ∈ a.uids, uid ∈ b.uids⟩

instance (a b : Attribution) : Decidable (a ⊆ b) := List.decidableBAll (fun uid => uid ∈ b.uids) a.uids

def size (a : Attribution) : Nat := a.uids.length

theorem mem_def (a : Attribution) (uid : Uid) : uid ∈ a ↔ uid ∈ a.uids := Iff.rfl

theorem mem_ofUids? (uids : List Uid) (a : Attribution) (made : ofUids? uids = some a) (uid : Uid) :
    uid ∈ a ↔ uid ∈ uids := by
  unfold ofUids? at made
  split at made
  · cases made
  · cases made; exact mem_sortUids uid uids

@[simp] theorem mem_single (uid u : Uid) : u ∈ single uid ↔ u = uid := List.mem_singleton

def text (a : Attribution) : String :=
  "\x7b" ++ String.intercalate "," (a.uids.map fun uid => toString uid.toNat) ++ "\x7d"

def detail (a : Attribution) : String :=
  "AttributionSet(\x7b" ++ String.intercalate ", " (a.uids.map fun uid => toString uid.toNat) ++ "\x7d)"

end Attribution
end Ranging

import Ranging.Identity
import Ranging.Table

-- Which operations depend on which requester's life. The first and the last dependent of a
-- token are reported, so that a life is watched exactly while something depends on it.
namespace Ranging

structure Registry where
  dependents : Table LivenessToken (List OperationId)
deriving DecidableEq

namespace Registry

def empty : Registry := ⟨∅⟩

def dependentsOf (r : Registry) (t : LivenessToken) : List OperationId := (r.dependents.get? t).getD []

def isTracked (r : Registry) (t : LivenessToken) : Bool := r.dependents.contains t

def tokens (r : Registry) : List LivenessToken := r.dependents.keys

def tokenCount (r : Registry) : Nat := r.dependents.size

def Holds (r : Registry) (t : LivenessToken) (id : OperationId) : Prop := id ∈ r.dependentsOf t

instance (r : Registry) (t : LivenessToken) (id : OperationId) : Decidable (r.Holds t id) :=
  inferInstanceAs (Decidable (id ∈ r.dependentsOf t))

-- Answers whether nothing depended on the token before.
def attach (r : Registry) (t : LivenessToken) (id : OperationId) : Bool × Registry :=
  let ids := r.dependentsOf t
  (ids.isEmpty, ⟨r.dependents.put t (if id ∈ ids then ids else ids ++ [id])⟩)

-- Answers whether the token lost its last dependent now. A token without one is forgotten.
def detach (r : Registry) (t : LivenessToken) (id : OperationId) : Bool × Registry :=
  match r.dependents.get? t with
  | none => (false, r)
  | some ids =>
      if id ∈ ids then
        match ids.filter (· ≠ id) with
        | [] => (true, ⟨r.dependents.erase t⟩)
        | others => (false, ⟨r.dependents.put t others⟩)
      else (false, r)

def purge? (r : Registry) (t : LivenessToken) : Option (List OperationId × Registry) :=
  (r.dependents.get? t).map fun ids => (ids, ⟨r.dependents.erase t⟩)

theorem holds_def (r : Registry) (t : LivenessToken) (id : OperationId) :
    r.Holds t id ↔ ∃ ids, r.dependents.get? t = some ids ∧ id ∈ ids := by
  unfold Holds dependentsOf
  cases r.dependents.get? t <;> simp

theorem holds_attach (r : Registry) (t u : LivenessToken) (id j : OperationId) :
    (r.attach t id).2.Holds u j ↔ r.Holds u j ∨ (u = t ∧ j = id) := by
  by_cases same : u = t
  · subst same
    have grown : (r.attach u id).2.dependentsOf u =
        if id ∈ r.dependentsOf u then r.dependentsOf u else r.dependentsOf u ++ [id] := by
      simp [attach, dependentsOf]
    rw [Holds, Holds, grown]
    split
    · next member =>
        refine ⟨.inl, fun held => ?_⟩
        rcases held with here | ⟨_, rfl⟩
        · exact here
        · exact member
    · simp
  · have kept : (r.attach t id).2.dependentsOf u = r.dependentsOf u := by simp [attach, dependentsOf, same]
    simp [Holds, kept, same]

theorem holds_detach (r : Registry) (t u : LivenessToken) (id j : OperationId) :
    (r.detach t id).2.Holds u j ↔ r.Holds u j ∧ ¬(u = t ∧ j = id) := by
  rw [holds_def, holds_def]
  unfold detach
  cases found : r.dependents.get? t with
  | none =>
      by_cases same : u = t
      · subst same; simp [found]
      · simp [same]
  | some ids =>
      by_cases member : id ∈ ids
      · simp only [member, if_true]
        cases others : ids.filter (· ≠ id) with
        | nil =>
            have alone : ∀ k ∈ ids, k = id := by simpa using List.filter_eq_nil_iff.1 others
            by_cases same : u = t
            · subst same
              simp only [Table.get?_erase, if_true, found]
              constructor
              · intro held
                obtain ⟨_, h, _⟩ := held
                cases h
              · intro held
                obtain ⟨⟨_, h, here⟩, away⟩ := held
                cases h
                exact absurd ⟨trivial, alone j here⟩ away
            · simp [same]
        | cons first rest =>
            by_cases same : u = t
            · subst same
              simp only [Table.get?_put, if_true, found, Option.some.injEq, exists_eq_left', ← others]
              simp [List.mem_filter]
            · simp [same]
      · simp only [member, if_false]
        constructor
        · intro held
          obtain ⟨found', h, here⟩ := held
          refine ⟨⟨found', h, here⟩, ?_⟩
          intro same
          obtain ⟨rfl, rfl⟩ := same
          rw [found] at h
          cases h
          exact member here
        · exact And.left

theorem holds_purge (r r' : Registry) (t u : LivenessToken) (ids : List OperationId) (j : OperationId)
    (purged : r.purge? t = some (ids, r')) : r'.Holds u j ↔ r.Holds u j ∧ u ≠ t := by
  unfold purge? at purged
  obtain ⟨_, _, same⟩ := Option.map_eq_some_iff.1 purged
  cases same
  rw [holds_def, holds_def]
  by_cases here : u = t <;> simp [here]

-- No token is kept without a dependent, and no dependent is listed twice.
def Tidy (r : Registry) : Prop := ∀ t ids, r.dependents.get? t = some ids → ids ≠ [] ∧ ids.Nodup

theorem tidy_empty : empty.Tidy := by
  intro t ids found
  cases found

theorem dependentsOf_nodup (r : Registry) (t : LivenessToken) (tidy : r.Tidy) : (r.dependentsOf t).Nodup := by
  unfold dependentsOf
  cases found : r.dependents.get? t with
  | none => exact List.nodup_nil
  | some ids => exact (tidy t ids found).2

theorem tidy_attach (r : Registry) (t : LivenessToken) (id : OperationId) (tidy : r.Tidy) :
    (r.attach t id).2.Tidy := by
  intro u ids found
  by_cases same : u = t
  · have grown : (if id ∈ r.dependentsOf t then r.dependentsOf t else r.dependentsOf t ++ [id]) = ids := by
      simpa [attach, same] using found
    have distinct := dependentsOf_nodup r t tidy
    subst grown
    split
    · next member => exact ⟨List.ne_nil_of_mem member, distinct⟩
    · next fresh =>
        refine ⟨by simp, ?_⟩
        rw [List.nodup_append]
        refine ⟨distinct, by simp, ?_⟩
        intro a member b alone
        rw [List.mem_singleton.1 alone]
        exact fun equal => fresh (equal ▸ member)
  · exact tidy u ids (by simpa [attach, same] using found)

theorem tidy_detach (r : Registry) (t : LivenessToken) (id : OperationId) (tidy : r.Tidy) :
    (r.detach t id).2.Tidy := by
  intro u ids found
  unfold detach at found
  cases known : r.dependents.get? t with
  | none => exact tidy u ids (by simpa [known] using found)
  | some old =>
      obtain ⟨_, distinct⟩ := tidy t old known
      by_cases member : id ∈ old
      · simp only [known, member, if_true] at found
        cases others : old.filter (· ≠ id) with
        | nil =>
            simp only [others] at found
            by_cases same : u = t
            · simp [same] at found
            · exact tidy u ids (by simpa [same] using found)
        | cons first rest =>
            simp only [others] at found
            by_cases same : u = t
            · have left : first :: rest = ids := by simpa [same] using found
              subst left
              exact ⟨by simp, others ▸ distinct.filter _⟩
            · exact tidy u ids (by simpa [same] using found)
      · exact tidy u ids (by simpa [known, member] using found)

theorem tidy_purge (r r' : Registry) (t : LivenessToken) (ids : List OperationId) (tidy : r.Tidy)
    (purged : r.purge? t = some (ids, r')) : r'.Tidy := by
  intro u others found
  unfold purge? at purged
  obtain ⟨_, _, same⟩ := Option.map_eq_some_iff.1 purged
  cases same
  by_cases here : u = t
  · simp [here] at found
  · exact tidy u others (by simpa [here] using found)

theorem isTracked_iff (r : Registry) (t : LivenessToken) (tidy : r.Tidy) :
    r.isTracked t = true ↔ ∃ id, r.Holds t id := by
  constructor
  · intro tracked
    obtain ⟨ids, found⟩ := Option.isSome_iff_exists.1 tracked
    obtain ⟨id, member⟩ := List.exists_mem_of_ne_nil ids (tidy t ids found).1
    exact ⟨id, (holds_def r t id).2 ⟨ids, found, member⟩⟩
  · intro depended
    obtain ⟨id, holds⟩ := depended
    obtain ⟨ids, found, _⟩ := (holds_def r t id).1 holds
    exact Option.isSome_iff_exists.2 ⟨ids, found⟩

theorem isTracked_attach (r : Registry) (t u : LivenessToken) (id : OperationId) :
    (r.attach t id).2.isTracked u = (r.isTracked u || u = t) := by
  by_cases same : u = t <;> simp [attach, isTracked, Table.contains_eq, same]

theorem attach_first (r : Registry) (t : LivenessToken) (id : OperationId) (tidy : r.Tidy) :
    (r.attach t id).1 = !r.isTracked t := by
  unfold attach dependentsOf isTracked
  cases found : r.dependents.get? t with
  | none => simp [Table.contains_eq, found]
  | some ids => simp [Table.contains_eq, found, (tidy t ids found).1]

theorem isTracked_detach (r : Registry) (t u : LivenessToken) (id : OperationId) :
    ((r.detach t id).1 = true → r.isTracked t = true) ∧
    (r.detach t id).2.isTracked u = (r.isTracked u && !((r.detach t id).1 && u = t)) := by
  unfold detach isTracked
  cases found : r.dependents.get? t with
  | none => simp
  | some ids =>
      by_cases member : id ∈ ids
      · simp only [member, if_true]
        cases others : ids.filter (· ≠ id) with
        | nil => by_cases same : u = t <;> simp [Table.contains_eq, found, same]
        | cons first rest => by_cases same : u = t <;> simp [Table.contains_eq, found, same]
      · simp [member]

theorem isTracked_purge (r r' : Registry) (t u : LivenessToken) (ids : List OperationId)
    (purged : r.purge? t = some (ids, r')) :
    r.isTracked t = true ∧ r'.isTracked u = (r.isTracked u && u ≠ t) := by
  unfold purge? at purged
  obtain ⟨_, found, same⟩ := Option.map_eq_some_iff.1 purged
  cases same
  by_cases here : u = t <;> simp [isTracked, Table.contains_eq, found, here]

theorem detach_absent (r : Registry) (t : LivenessToken) (id : OperationId) (absent : ¬ r.Holds t id) :
    r.detach t id = (false, r) := by
  rw [holds_def] at absent
  unfold detach
  cases found : r.dependents.get? t with
  | none => rfl
  | some ids =>
      have away : id ∉ ids := fun member => absent ⟨ids, found, member⟩
      simp [away]

end Registry
end Ranging

import Ranging.Proofs.Registrations
import Mathlib.Data.Finset.Card
import Mathlib.Data.Finset.Image

-- The registry against a plain set: who depends on whose life. Whatever is done to it and in whatever order, it tells
-- of that set, and each life is told of as taken up and as given up in turns.
namespace Ranging

inductive Registry.Update
  | attach (token : LivenessToken) (id : OperationId)
  | detach (token : LivenessToken) (id : OperationId)
  | purge (token : LivenessToken)

inductive Registry.Answer
  -- whether this was the token's first dependent
  | first (yes : Bool)
  -- whether this was its last one
  | last (yes : Bool)
  -- who depended on it
  | purged (ids : Option (List OperationId))

abbrev Dependencies := Finset (LivenessToken × OperationId)

namespace Dependencies

def on (token : LivenessToken) (d : Dependencies) : Dependencies := d.filter fun pair => pair.1 = token

def apply (d : Dependencies) : Registry.Update → Dependencies
  | .attach token id => insert (token, id) d
  | .detach token id => d.erase (token, id)
  | .purge token => d.filter fun pair => pair.1 ≠ token

inductive Answered (d : Dependencies) : Registry.Update → Registry.Answer → Prop
  | attached (token : LivenessToken) (id : OperationId) (first : Bool) :
      (first = true ↔ ∀ other, (token, other) ∉ d) → Answered d (.attach token id) (.first first)
  | detached (token : LivenessToken) (id : OperationId) (last : Bool) :
      (last = true ↔ d.on token = {(token, id)}) → Answered d (.detach token id) (.last last)
  | purged (token : LivenessToken) (ids : List OperationId) : ids ≠ [] → ids.Nodup →
      (∀ id, id ∈ ids ↔ (token, id) ∈ d) → Answered d (.purge token) (.purged (some ids))
  | vain (token : LivenessToken) : (∀ id, (token, id) ∉ d) → Answered d (.purge token) (.purged none)

theorem on_eq_singleton_iff (d : Dependencies) (token : LivenessToken) (id : OperationId) :
    d.on token = {(token, id)} ↔
      (∃ other, (token, other) ∈ d) ∧ ∀ other, (token, other) ∉ d.erase (token, id) := by
  simp only [on, Finset.eq_singleton_iff_unique_mem, Finset.mem_filter, Finset.mem_erase]
  constructor
  · rintro ⟨⟨member, _⟩, unique⟩
    exact ⟨⟨id, member⟩, fun other ⟨apart, listed⟩ => apart (unique _ ⟨listed, rfl⟩)⟩
  · rintro ⟨⟨other, member⟩, nobody⟩
    have alone : ∀ j, (token, j) ∈ d → (token, j) = (token, id) :=
      fun j listed => not_not.1 fun apart => nobody j ⟨apart, listed⟩
    refine ⟨⟨alone other member ▸ member, trivial⟩, ?_⟩
    rintro ⟨_, j⟩ ⟨listed, rfl⟩
    exact alone j listed

end Dependencies

namespace Registry

def update (r : Registry) : Update → Answer × Registry
  | .attach token id => (.first (r.attach token id).1, (r.attach token id).2)
  | .detach token id => (.last (r.detach token id).1, (r.detach token id).2)
  | .purge token =>
      match r.purge? token with
      | none => (.purged none, r)
      | some (ids, others) => (.purged (some ids), others)

def course (r : Registry) : List Update → List (Update × Answer) × Registry
  | [] => ([], r)
  | u :: rest =>
      let others := (r.update u).2.course rest
      ((u, (r.update u).1) :: others.1, others.2)

-- What an update tells about one life: `true` where it gets its first dependent, `false` where it has lost its last.
def told? (token : LivenessToken) : Update × Answer → Option Bool
  | (.attach other _, .first true) => if other = token then some true else none
  | (.detach other _, .last true) => if other = token then some false else none
  | (.purge other, .purged (some _)) => if other = token then some false else none
  | _ => none

-- The registry keeps those pairs, each once, and no token without one.
structure Keeps (r : Registry) (d : Dependencies) : Prop where
  tidy : r.Tidy
  holds : ∀ token id, r.Holds token id ↔ (token, id) ∈ d

structure Faithful (updates : List Update) (r : Registry) (d : Dependencies) : Prop where
  held : ∀ token id, r.Holds token id ↔ (token, id) ∈ d
  tracked : ∀ token, r.isTracked token = true ↔ ∃ id, (token, id) ∈ d
  counted : ∀ token, (r.dependentsOf token).length = (d.on token).card
  inhabited : ∀ token, r.isTracked token = true → 0 < (r.dependentsOf token).length
  tokens : r.tokenCount = (d.image Prod.fst).card
  answered : ∀ u, d.Answered u (r.update u).1
  alternating : ∀ token, Alternating true ((empty.course updates).1.filterMap (told? token))

variable (r : Registry) (d : Dependencies)

theorem keeps_empty : empty.Keeps ∅ := by
  refine ⟨tidy_empty, fun token id => ?_⟩
  rw [holds_def]
  simp [empty]

theorem unheld_of_vain (token : LivenessToken) (vain : r.purge? token = none) (id : OperationId) :
    ¬ r.Holds token id := by
  rw [purge?, Option.map_eq_none_iff] at vain
  simp [holds_def, vain]

theorem purge?_dependents (token : LivenessToken) (ids : List OperationId) (others : Registry)
    (purged : r.purge? token = some (ids, others)) : r.dependents.get? token = some ids := by
  obtain ⟨found, known, same⟩ := Option.map_eq_some_iff.1 purged
  cases same
  exact known

theorem update_keeps (u : Update) (keeps : r.Keeps d) : (r.update u).2.Keeps (d.apply u) := by
  cases u with
  | attach token id =>
      refine ⟨tidy_attach r token id keeps.tidy, fun other j => ?_⟩
      rw [update, holds_attach, keeps.holds]
      simp [Dependencies.apply, or_comm]
  | detach token id =>
      refine ⟨tidy_detach r token id keeps.tidy, fun other j => ?_⟩
      rw [update, holds_detach, keeps.holds]
      simp [Dependencies.apply, and_comm]
  | purge token =>
      cases purged : r.purge? token with
      | none =>
          have nobody : d.apply (.purge token) = d :=
            Finset.filter_true_of_mem fun pair member same =>
              unheld_of_vain r token purged pair.2 ((keeps.holds token pair.2).2 (same ▸ member))
          simp only [update, purged, nobody]
          exact keeps
      | some found =>
          obtain ⟨ids, others⟩ := found
          simp only [update, purged]
          refine ⟨tidy_purge r others token ids keeps.tidy purged, fun other j => ?_⟩
          rw [holds_purge r others token other ids j purged, keeps.holds]
          simp [Dependencies.apply]

theorem course_keeps (updates : List Update) (keeps : r.Keeps d) :
    (r.course updates).2.Keeps (updates.foldl Dependencies.apply d) := by
  induction updates generalizing r d with
  | nil => exact keeps
  | cons u rest ih => exact ih _ _ (update_keeps r d u keeps)

theorem keeps_tracked (keeps : r.Keeps d) (token : LivenessToken) :
    r.isTracked token = true ↔ ∃ id, (token, id) ∈ d := by
  simp only [isTracked_iff r token keeps.tidy, keeps.holds]

-- Nobody is listed twice, so the lists of a registry are as long as the sets they stand for are large.
theorem keeps_on (keeps : r.Keeps d) (token : LivenessToken) :
    d.on token = (r.dependentsOf token).toFinset.image (Prod.mk token) := by
  ext pair
  obtain ⟨other, id⟩ := pair
  have held : id ∈ r.dependentsOf token ↔ (token, id) ∈ d := keeps.holds token id
  simp only [Dependencies.on, Finset.mem_filter, Finset.mem_image, List.mem_toFinset, Prod.mk.injEq,
    exists_eq_right_right, held]
  constructor
  · rintro ⟨member, rfl⟩
    exact ⟨member, rfl⟩
  · rintro ⟨member, rfl⟩
    exact ⟨member, rfl⟩

theorem keeps_counted (keeps : r.Keeps d) (token : LivenessToken) :
    (r.dependentsOf token).length = (d.on token).card := by
  rw [keeps_on r d keeps, Finset.card_image_of_injective _ (Prod.mk_right_injective token),
    List.toFinset_card_of_nodup (dependentsOf_nodup r token keeps.tidy)]

theorem keeps_tokens (keeps : r.Keeps d) : r.tokenCount = (d.image Prod.fst).card := by
  have same : d.image Prod.fst = r.tokens.toFinset := by
    ext token
    rw [List.mem_toFinset, tokens, Table.mem_keys_iff, Finset.mem_image]
    refine Iff.trans ?_ (keeps_tracked r d keeps token).symm
    simp
  have distinct : r.tokens.Nodup := Table.keys_nodup r.dependents
  rw [same, List.toFinset_card_of_nodup distinct]
  exact (Table.size_keys r.dependents).symm

theorem detach_last (token : LivenessToken) (id : OperationId) : (r.detach token id).1 = true ↔
    r.isTracked token = true ∧ (r.detach token id).2.isTracked token = false := by
  obtain ⟨known, after⟩ := isTracked_detach r token token id
  rw [after]
  cases last : (r.detach token id).1 with
  | false => simp
  | true => simp [known last]

theorem keeps_answered (u : Update) (keeps : r.Keeps d) : d.Answered u (r.update u).1 := by
  have tracked := keeps_tracked r d keeps
  cases u with
  | attach token id =>
      refine .attached token id _ ?_
      rw [attach_first r token id keeps.tidy, Bool.not_eq_true', Bool.eq_false_iff, Ne, tracked, not_exists]
  | detach token id =>
      refine .detached token id _ ?_
      have left : (r.detach token id).2.isTracked token = true ↔ ∃ other, (token, other) ∈ d.erase (token, id) :=
        keeps_tracked _ _ (update_keeps r d (.detach token id) keeps) token
      rw [detach_last, Bool.eq_false_iff, Ne, tracked, left, not_exists]
      exact (d.on_eq_singleton_iff token id).symm
  | purge token =>
      cases purged : r.purge? token with
      | none =>
          simp only [update, purged]
          exact .vain token fun id member => unheld_of_vain r token purged id ((keeps.holds token id).2 member)
      | some found =>
          obtain ⟨ids, others⟩ := found
          have known := purge?_dependents r token ids others purged
          obtain ⟨inhabited, distinct⟩ := keeps.tidy token ids known
          simp only [update, purged]
          refine .purged token ids inhabited distinct fun id => ?_
          rw [← keeps.holds, holds_def, known]
          simp

theorem update_told (token : LivenessToken) (u : Update) (tidy : r.Tidy) :
    ((told? token) (u, (r.update u).1)).toList = r.change (r.update u).2 token := by
  cases u with
  | attach other id =>
      simp only [update, change, isTracked_attach]
      by_cases same : token = other
      · subst same
        cases known : r.isTracked token <;> simp [told?, attach_first r token id tidy, known]
      · cases (r.attach other id).1 <;> simp [told?, same, Ne.symm same]
  | detach other id =>
      obtain ⟨known, after⟩ := isTracked_detach r other token id
      simp only [update, change, after]
      by_cases same : token = other
      · subst same
        cases last : (r.detach token id).1 with
        | false => simp [told?]
        | true => simp [told?, known last]
      · cases (r.detach other id).1 <;> simp [told?, same, Ne.symm same]
  | purge other =>
      cases purged : r.purge? other with
      | none => simp [update, purged, told?, change]
      | some found =>
          obtain ⟨ids, others⟩ := found
          obtain ⟨known, after⟩ := isTracked_purge r others other token ids purged
          simp only [update, purged, change, after]
          by_cases same : token = other
          · subst same
            simp [told?, known]
          · simp [told?, same, Ne.symm same]

theorem change_alternating (r r' : Registry) (token : LivenessToken) (later : List Bool)
    (alternating : Alternating (!r'.isTracked token) later) :
    Alternating (!r.isTracked token) (r.change r' token ++ later) := by
  unfold change
  split
  · next same => exact same ▸ alternating
  · next differ =>
      have turned : r'.isTracked token = !r.isTracked token := Bool.eq_not.2 (Ne.symm differ)
      rw [turned] at alternating ⊢
      exact ⟨rfl, alternating⟩

theorem course_alternating (updates : List Update) (token : LivenessToken) (keeps : r.Keeps d) :
    Alternating (!r.isTracked token) ((r.course updates).1.filterMap (told? token)) := by
  induction updates generalizing r d with
  | nil => trivial
  | cons u rest ih =>
      have next := change_alternating r _ token _ (ih _ _ (update_keeps r d u keeps))
      rw [← update_told r token u keeps.tidy] at next
      rw [course, List.filterMap_cons]
      cases told : told? token (u, (r.update u).1) with
      | none => simpa [told] using next
      | some asked => simpa [told] using next

theorem registry_faithful (updates : List Update) :
    Faithful updates (empty.course updates).2 (updates.foldl Dependencies.apply ∅) := by
  have keeps := course_keeps empty ∅ updates keeps_empty
  refine ⟨keeps.holds, keeps_tracked _ _ keeps, keeps_counted _ _ keeps, ?_, keeps_tokens _ _ keeps,
    fun u => keeps_answered _ _ u keeps,
    fun token => course_alternating empty ∅ updates token keeps_empty⟩
  intro token tracked
  obtain ⟨id, member⟩ := (isTracked_iff _ token keeps.tidy).1 tracked
  exact List.length_pos_of_mem member

end Registry
end Ranging

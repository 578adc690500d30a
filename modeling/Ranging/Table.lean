-- A finite map whose keys are distinct and stay in the order of their first arrival.
-- Every look-up in the scheduler goes through `get?`; the equations below say what each
-- update does to it, so that no later proof has to open the list of entries.
namespace Ranging

structure Table (κ : Type) (α : Type) where
  entries : List (κ × α)
  distinct : (entries.map Prod.fst).Nodup
deriving DecidableEq

namespace Table
variable {κ α : Type} [DecidableEq κ]

-- A key that is already there keeps its place and gets the new value; a new key goes last.
def putEntry (key : κ) (value : α) : List (κ × α) → List (κ × α)
  | [] => [(key, value)]
  | entry :: rest => if entry.1 = key then (key, value) :: rest else entry :: putEntry key value rest

theorem mem_putEntry_keys (key k : κ) (value : α) (entries : List (κ × α)) :
    k ∈ (putEntry key value entries).map Prod.fst ↔ k = key ∨ k ∈ entries.map Prod.fst := by
  induction entries with
  | nil => simp [putEntry]
  | cons entry rest ih =>
      by_cases same : entry.1 = key
      · simp [putEntry, same]
      · simp only [putEntry, same, if_false, List.map_cons, List.mem_cons, ih]
        constructor
        · intro member
          rcases member with h | h | h
          · exact .inr (.inl h)
          · exact .inl h
          · exact .inr (.inr h)
        · intro member
          rcases member with h | h | h
          · exact .inr (.inl h)
          · exact .inl h
          · exact .inr (.inr h)

theorem putEntry_distinct (key : κ) (value : α) (entries : List (κ × α))
    (distinct : (entries.map Prod.fst).Nodup) : ((putEntry key value entries).map Prod.fst).Nodup := by
  induction entries with
  | nil => simp [putEntry]
  | cons entry rest ih =>
      obtain ⟨fresh, tail⟩ := List.nodup_cons.1 distinct
      by_cases same : entry.1 = key
      · simp only [putEntry, same, if_true, List.map_cons]
        exact List.nodup_cons.2 ⟨same ▸ fresh, tail⟩
      · simp only [putEntry, same, if_false, List.map_cons]
        refine List.nodup_cons.2 ⟨?_, ih tail⟩
        rw [mem_putEntry_keys]
        intro member
        rcases member with h | h
        · exact same h
        · exact fresh h

def empty : Table κ α := ⟨[], List.nodup_nil⟩

instance : EmptyCollection (Table κ α) := ⟨empty⟩
instance : Inhabited (Table κ α) := ⟨empty⟩

def get? (t : Table κ α) (key : κ) : Option α := (t.entries.find? (·.1 = key)).map Prod.snd

def contains (t : Table κ α) (key : κ) : Bool := (t.get? key).isSome

def keys (t : Table κ α) : List κ := t.entries.map Prod.fst

def values (t : Table κ α) : List α := t.entries.map Prod.snd

def size (t : Table κ α) : Nat := t.entries.length

def put (t : Table κ α) (key : κ) (value : α) : Table κ α :=
  ⟨putEntry key value t.entries, putEntry_distinct key value t.entries t.distinct⟩

def putFirst (t : Table κ α) (key : κ) (value : α) : Table κ α :=
  if t.contains key then t else t.put key value

def erase (t : Table κ α) (key : κ) : Table κ α :=
  ⟨t.entries.filter (·.1 ≠ key), t.distinct.sublist (List.filter_sublist.map _)⟩

def ofList (entries : List (κ × α)) : Table κ α :=
  entries.foldl (fun t entry => t.put entry.1 entry.2) empty

def ofListFirst (entries : List (κ × α)) : Table κ α :=
  entries.foldl (fun t entry => t.putFirst entry.1 entry.2) empty

@[simp] theorem get?_empty (key : κ) : (∅ : Table κ α).get? key = none := rfl

@[simp] theorem get?_put (t : Table κ α) (key k : κ) (value : α) :
    (t.put key value).get? k = if k = key then some value else t.get? k := by
  obtain ⟨entries, distinct⟩ := t
  unfold get? put
  dsimp only
  clear distinct
  induction entries with
  | nil => by_cases h : k = key <;> simp [putEntry, h, eq_comm (a := key)]
  | cons entry rest ih =>
      by_cases same : entry.1 = key
      · by_cases h : k = key
        · subst h; simp [putEntry, same]
        · simp [putEntry, same, h, Ne.symm h]
      · by_cases here : entry.1 = k
        · have : k ≠ key := here ▸ same
          simp [putEntry, here, this]
        · simp only [putEntry, same, if_false, List.find?_cons, here, decide_false]
          exact ih

@[simp] theorem get?_erase (t : Table κ α) (key k : κ) :
    (t.erase key).get? k = if k = key then none else t.get? k := by
  obtain ⟨entries, distinct⟩ := t
  unfold get? erase
  dsimp only
  clear distinct
  induction entries with
  | nil => simp
  | cons entry rest ih =>
      by_cases gone : entry.1 = key
      · by_cases h : k = key
        · simp [h] at ih ⊢
        · simp [gone, h, Ne.symm h] at ih ⊢
          exact ih
      · by_cases here : entry.1 = k
        · have : k ≠ key := here ▸ gone
          simp [here, this]
        · simp only [List.filter_cons, ne_eq, gone, not_false_eq_true, decide_true, if_true,
            List.find?_cons, here, decide_false]
          exact ih

theorem get?_putFirst (t : Table κ α) (key k : κ) (value : α) :
    (t.putFirst key value).get? k = if k = key then some ((t.get? key).getD value) else t.get? k := by
  unfold putFirst contains
  cases found : t.get? key with
  | none => simp
  | some old =>
      by_cases h : k = key
      · subst h; simp [found]
      · simp [h]

theorem get?_foldl_putFirst (entries : List (κ × α)) (t : Table κ α) (key : κ) :
    (entries.foldl (fun t entry => t.putFirst entry.1 entry.2) t).get? key =
      (t.get? key).or ((entries.find? (·.1 = key)).map Prod.snd) := by
  induction entries generalizing t with
  | nil => simp
  | cons entry rest ih =>
      rw [List.foldl_cons, ih, get?_putFirst]
      by_cases same : key = entry.1
      · subst same
        cases t.get? entry.1 <;> simp
      · simp [same, Ne.symm same]

theorem get?_ofListFirst (entries : List (κ × α)) (key : κ) :
    (ofListFirst entries).get? key = (entries.find? (·.1 = key)).map Prod.snd := get?_foldl_putFirst entries ∅ key

theorem mem_keys_iff (t : Table κ α) (key : κ) : key ∈ t.keys ↔ (t.get? key).isSome := by
  unfold keys get?
  simp only [Option.isSome_map, List.find?_isSome, List.mem_map, decide_eq_true_eq]

theorem keys_put (t : Table κ α) (key : κ) (value : α) (fresh : key ∉ t.keys) :
    (t.put key value).keys = t.keys ++ [key] := by
  obtain ⟨entries, distinct⟩ := t
  unfold keys put at *
  dsimp only at *
  clear distinct
  induction entries with
  | nil => rfl
  | cons entry rest ih =>
      have apart : entry.1 ≠ key := fun same => fresh (List.mem_cons.2 (.inl same.symm))
      have others : key ∉ rest.map Prod.fst := fun later => fresh (List.mem_cons_of_mem _ later)
      simp [putEntry, apart, ih others]

theorem get?_of_mem (t : Table κ α) (entry : κ × α) (listed : entry ∈ t.entries) : t.get? entry.1 = some entry.2 := by
  obtain ⟨entries, distinct⟩ := t
  replace listed : entry ∈ entries := listed
  unfold get?
  dsimp only
  induction entries with
  | nil => cases listed
  | cons first rest ih =>
      obtain ⟨fresh, others⟩ := List.nodup_cons.1 distinct
      rcases List.mem_cons.1 listed with here | later
      · simp [here]
      · have apart : first.1 ≠ entry.1 := fun same => fresh (same ▸ List.mem_map_of_mem later)
        simpa [apart] using ih others later

theorem values_countP (t : Table κ α) (p : α → Bool) :
    t.values.countP p = (t.keys.filter fun key => (t.get? key).any p).length := by
  rw [← List.countP_eq_length_filter, values, keys, List.countP_map, List.countP_map]
  refine List.countP_congr fun entry listed => ?_
  simp [t.get?_of_mem entry listed]

@[simp] theorem contains_eq (t : Table κ α) (key : κ) : t.contains key = (t.get? key).isSome := rfl

omit [DecidableEq κ] in
theorem keys_nodup (t : Table κ α) : t.keys.Nodup := t.distinct

omit [DecidableEq κ] in
@[simp] theorem size_keys (t : Table κ α) : t.keys.length = t.size := by simp [keys, size]

end Table
end Ranging

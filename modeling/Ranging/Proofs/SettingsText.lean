import Ranging.Proofs.TomlGrammar
import Ranging.Settings.Document
import Mathlib.Data.List.Nodup

-- Settings that are written out line by line are read back as they are meant, whichever limits are written and in
-- whatever order. What is read is usable, from whatever text it is.
namespace Ranging

open Toml

namespace Settings

-- What is relied on of a reader of TOML, and of fields that are derived with defaults: the grammar of tables of
-- integers, and that a field takes the value of its key and its default where the key is missing.
structure Decoder.Conforms (d : Decoder) : Prop where
  grammar : ∀ text header entries, Sheet text.toList header entries → ∃ origin,
    d.document text = .ok [(header, .table origin entries)]
  fields : ∀ origin entries, (entries.map Prod.fst).Nodup →
    (∀ (l : Limit) node, find? l.key entries = some node →
      ∃ value : Nat, node = .integer value ∧ value < 0x8000000000000000) →
    ∃ s : Settings, d.settings [("scheduler", .table origin entries)] = .ok s ∧ ∀ l : Limit,
      (∀ value : Nat, find? l.key entries = some (.integer value) → s.get l = value) ∧
      (find? l.key entries = none → s.get l = standard.get l)

-- A line for the table and one for each limit. A line end stands before every further line, and perhaps at the end.
def written (chosen : List (Limit × Nat)) (ended : Bool) : String :=
  "[scheduler]" ++ String.join (chosen.map fun choice => "\n" ++ choice.1.key ++ " = " ++ toString choice.2) ++
    if ended then "\n" else ""

-- Each limit at most once, and with a value that fits in 63 bits.
structure Writable (chosen : List (Limit × Nat)) : Prop where
  distinct : (chosen.map Prod.fst).Nodup
  small : ∀ choice ∈ chosen, choice.2 < 0x8000000000000000

structure Restored (d : Decoder) (chosen : List (Limit × Nat)) (text : String) : Prop where
  usable : (∀ choice ∈ chosen, 0 < choice.2) → ∃ s, d.parse text = .ok s ∧
    (∀ choice ∈ chosen, s.get choice.1 = choice.2) ∧ ∀ l, l ∉ chosen.map Prod.fst → s.get l = standard.get l
  -- the first in the order of the limits is named, not the first that is written
  useless : (∃ choice ∈ chosen, choice.2 = 0) → ∃ before l after, Limit.all = before ++ l :: after ∧ (l, 0) ∈ chosen ∧
    (∀ earlier ∈ before, (earlier, 0) ∉ chosen) ∧ d.parse text = .error (.invalid l "must be greater than zero")

variable (chosen : List (Limit × Nat)) (ended : Bool)

def body : List Char :=
  chosen.flatMap (fun choice => '\n' :: (choice.1.key.toList ++ ' ' :: '=' :: ' ' :: numeral choice.2)) ++
    if ended then ['\n'] else []

theorem body_cons (choice : Limit × Nat) (rest : List (Limit × Nat)) : body (choice :: rest) ended =
    '\n' :: (choice.1.key.toList ++ ' ' :: '=' :: ' ' :: (numeral choice.2 ++ body rest ended)) := by
  simp [body]

theorem written_toList : (written chosen ended).toList = '[' :: ("scheduler".toList ++ ']' :: body chosen ended) := by
  have lines : (chosen.map fun choice => "\n" ++ choice.1.key ++ " = " ++ toString choice.2).flatMap String.toList =
      chosen.flatMap fun choice => '\n' :: (choice.1.key.toList ++ ' ' :: '=' :: ' ' :: numeral choice.2) := by
    rw [List.flatMap_map]
    refine congrArg (fun f => chosen.flatMap f) (funext fun choice => ?_)
    simp [String.toList_append, Nat.toList_repr, numeral]
  rw [written, String.toList_append, String.toList_append, String.toList_join, lines]
  cases ended <;> rfl

def entries : Entries := chosen.map fun choice => (choice.1.key, .integer choice.2)

theorem key_bare (l : Limit) : BareKey l.key.toList := by
  have all : l.key.toList.all isBare = true := by cases l <;> decide
  have some : l.key.toList.isEmpty = false := by cases l <;> decide
  exact ⟨List.isEmpty_eq_false_iff.1 some, List.all_eq_true.1 all⟩

theorem entries_keys : (entries chosen).map Prod.fst = (chosen.map Prod.fst).map Limit.key := by simp [entries]

theorem body_pairs (writable : Writable chosen) : Pairs (body chosen ended) (entries chosen) := by
  induction chosen with
  | nil =>
      cases ended with
      | false => exact .nil
      | true => exact .ended
  | cons choice rest ih =>
      obtain ⟨fresh, distinct⟩ := List.nodup_cons.1 writable.distinct
      have others := ih ⟨distinct, fun other listed => writable.small other (List.mem_cons_of_mem _ listed)⟩
      have apart : String.ofList choice.1.key.toList ∉ (entries rest).map Prod.fst := by
        rw [String.ofList_toList, entries_keys]
        intro again
        obtain ⟨l, listed, same⟩ := List.mem_map.1 again
        exact fresh (Limit.key_injective _ _ same ▸ listed)
      have line := Pairs.line choice.1.key.toList (numeral choice.2) _ choice.2 _ (key_bare choice.1)
        (numeral_decimal choice.2) (writable.small choice List.mem_cons_self) apart others
      rw [String.ofList_toList] at line
      rw [body_cons]
      exact line

theorem written_sheet (writable : Writable chosen) :
    Sheet (written chosen ended).toList "scheduler" (entries chosen) := by
  have header : BareKey "scheduler".toList :=
    ⟨List.isEmpty_eq_false_iff.1 (by decide), List.all_eq_true.1 (by decide)⟩
  rw [written_toList]
  exact .table _ _ _ header (body_pairs chosen ended writable)

def given? (l : Limit) : Option Nat := (chosen.find? fun choice => choice.1 = l).map Prod.snd

theorem given?_cons (choice : Limit × Nat) (rest : List (Limit × Nat)) (l : Limit) :
    given? (choice :: rest) l = if choice.1 = l then some choice.2 else given? rest l := by
  by_cases same : choice.1 = l <;> simp [given?, same]

theorem given?_eq_some_iff (distinct : (chosen.map Prod.fst).Nodup) (l : Limit) (value : Nat) :
    given? chosen l = some value ↔ (l, value) ∈ chosen := by
  induction chosen with
  | nil => simp [given?]
  | cons choice rest ih =>
      obtain ⟨fresh, others⟩ := List.nodup_cons.1 distinct
      rw [given?_cons, List.mem_cons]
      split
      · next same =>
          have apart : (l, value) ∉ rest := fun later => fresh (same ▸ List.mem_map_of_mem later)
          simp [apart, Prod.ext_iff, same, eq_comm]
      · next differ => simp [ih others, Prod.ext_iff, Ne.symm differ]

theorem given?_eq_none_iff (l : Limit) : given? chosen l = none ↔ l ∉ chosen.map Prod.fst := by
  rw [given?, Option.map_eq_none_iff, List.find?_eq_none]
  simp only [decide_eq_true_eq, List.mem_map, not_exists, not_and]

theorem find?_entries (l : Limit) :
    find? l.key (entries chosen) = (given? chosen l).map fun value => .integer value := by
  induction chosen with
  | nil => rfl
  | cons choice rest ih =>
      rw [given?_cons]
      simp only [entries, List.map_cons, find?]
      by_cases same : choice.1 = l
      · simp [same]
      · have differ : choice.1.key ≠ l.key := fun keys => same (Limit.key_injective _ _ keys)
        rw [if_neg differ, if_neg same]
        exact ih

theorem standard_positive (l : Limit) : 0 < standard.get l := by cases l <;> decide

theorem validate_first (s : Settings) (before after : List Limit) (l : Limit)
    (split : Limit.all = before ++ l :: after) (zero : s.get l = 0) (earlier : ∀ other ∈ before, s.get other ≠ 0) :
    s.validate = .error (.invalid l "must be greater than zero") := by
  have found : Limit.all.find? (fun l => s.get l = 0) = some l :=
    List.find?_eq_some_iff_append.2 ⟨by simpa using zero, before, after, split, by simpa using earlier⟩
  rw [validate, found]

section
variable (d : Decoder) (conforms : d.Conforms)
include conforms

theorem decoded (writable : Writable chosen) : ∃ s : Settings, d.parse (written chosen ended) = s.validate ∧
    ∀ l, s.get l = (given? chosen l).getD (standard.get l) := by
  obtain ⟨origin, read⟩ := conforms.grammar _ _ _ (written_sheet chosen ended writable)
  have keys : ((entries chosen).map Prod.fst).Nodup := by
    rw [entries_keys]
    exact writable.distinct.map Limit.key_injective
  have integers : ∀ (l : Limit) node, find? l.key (entries chosen) = some node →
      ∃ value : Nat, node = .integer value ∧ value < 0x8000000000000000 := by
    intro l node found
    rw [find?_entries] at found
    obtain ⟨value, given, rfl⟩ := Option.map_eq_some_iff.1 found
    exact ⟨value, rfl, writable.small _ ((given?_eq_some_iff chosen writable.distinct l value).1 given)⟩
  obtain ⟨s, made, fields⟩ := conforms.fields origin (entries chosen) keys integers
  refine ⟨s, by simp [Decoder.parse, read, Except.bind, made], fun l => ?_⟩
  have looked := find?_entries chosen l
  cases given : given? chosen l with
  | none => exact (fields l).2 (looked.trans (by rw [given]; rfl))
  | some value => exact (fields l).1 value (looked.trans (by rw [given]; rfl))

theorem written_restored (writable : Writable chosen) : Restored d chosen (written chosen ended) := by
  obtain ⟨s, parsed, values⟩ := decoded chosen ended d conforms writable
  have zero_iff : ∀ l, s.get l = 0 ↔ (l, 0) ∈ chosen := by
    intro l
    rw [values, ← given?_eq_some_iff chosen writable.distinct]
    have usual := standard_positive l
    cases given? chosen l with
    | none => simp; omega
    | some value => simp
  refine ⟨fun positive => ?_, fun useless => ?_⟩
  · refine ⟨s, ?_, ?_, ?_⟩
    · rw [parsed, validate_ok_iff]
      intro l
      rw [Nat.pos_iff_ne_zero, Ne, zero_iff]
      exact fun zero => absurd (positive _ zero) (Nat.lt_irrefl 0)
    · intro choice listed
      rw [values, (given?_eq_some_iff chosen writable.distinct choice.1 choice.2).2 listed]
      rfl
    · intro l missing
      rw [values, (given?_eq_none_iff chosen l).2 missing]
      rfl
  · obtain ⟨choice, listed, zero⟩ := useless
    have some : (Limit.all.find? fun l => (l, 0) ∈ chosen).isSome = true :=
      List.find?_isSome.2 ⟨choice.1, Limit.mem_all _, by simpa [← zero] using listed⟩
    obtain ⟨l, first⟩ := Option.isSome_iff_exists.1 some
    obtain ⟨here, before, after, split, earlier⟩ := List.find?_eq_some_iff_append.1 first
    have here : (l, 0) ∈ chosen := by simpa using here
    have earlier : ∀ other ∈ before, (other, 0) ∉ chosen := by simpa using earlier
    refine ⟨before, l, after, split, here, earlier, ?_⟩
    rw [parsed]
    refine validate_first s before after l split ((zero_iff l).2 here) ?_
    exact fun other listed zero => earlier other listed ((zero_iff other).1 zero)

end

theorem validate_of_parse (d : Decoder) (text : String) (s : Settings) (read : d.parse text = .ok s) :
    s.validate = .ok s := by
  unfold Decoder.parse at read
  split at read
  · cases read
  · next t _ =>
      obtain ⟨rfl, positive⟩ := validated t s read
      exact (validate_ok_iff s).2 positive

theorem settings_legible (d : Decoder) : (d.Conforms → ∀ chosen ended, Writable chosen →
      Restored d chosen (written chosen ended)) ∧
    ∀ text s, d.parse text = .ok s → s.validate = .ok s :=
  ⟨fun conforms chosen ended writable => written_restored chosen ended d conforms writable, validate_of_parse d⟩

def stated? (entries : Entries) (l : Limit) : Option Nat := (find? l.key entries).bind limitOf?

def assign (entries : Entries) (s : Settings) (l : Limit) : Settings :=
  (stated? entries l).elim s fun value => s.set value l

theorem get_assign (entries : Entries) (limits : List Limit) (s : Settings) (l : Limit) :
    (limits.foldl (assign entries) s).get l =
    if l ∈ limits then (stated? entries l).getD (s.get l) else s.get l := by
  induction limits generalizing s with
  | nil => rfl
  | cons first rest ih =>
      have one :
          (assign entries s first).get l = if l = first then (stated? entries l).getD (s.get l) else s.get l := by
        unfold assign
        by_cases same : l = first
        · subst same
          cases stated? entries l <;> simp
        · cases stated? entries first <;> simp [same]
      rw [List.foldl_cons, ih, one]
      by_cases same : l = first
      · subst same
        cases stated? entries l <;> simp
      · simp [same]

theorem ofEntries_integers (entries : Entries)
    (integers : ∀ (l : Limit) node, find? l.key entries = some node → (limitOf? node).isSome = true) :
    ofEntries entries = some (Limit.all.foldl (assign entries) standard) := by
  have folded : ∀ f : Settings → Limit → Option Settings, (∀ s l, f s l = some (assign entries s l)) →
      Limit.all.foldlM f standard = some (Limit.all.foldl (assign entries) standard) := by
    intro f each
    obtain rfl : f = fun s l => some (assign entries s l) := funext fun s => funext (each s)
    exact List.foldlM_pure
  unfold ofEntries
  refine folded _ fun s l => ?_
  rw [assign, stated?]
  cases found : find? l.key entries with
  | none => rfl
  | some node =>
      obtain ⟨value, limit⟩ := Option.isSome_iff_exists.1 (integers l node found)
      simp [limit]

theorem own_conforms : Decoder.own.Conforms := by
  refine ⟨fun text header entries sheet => ⟨.header, ?_⟩, fun origin entries _ integers => ?_⟩
  · show (Toml.parse? text.toList).elim _ _ = _
    rw [sheet.parse?]
    rfl
  · have limits : ∀ (l : Limit) node, find? l.key entries = some node → (limitOf? node).isSome = true := by
      intro l node found
      obtain ⟨value, rfl, _⟩ := integers l node found
      simp [limitOf?]
    refine ⟨Limit.all.foldl (assign entries) standard, ?_, fun l => ?_⟩
    · show (ofEntries entries).elim _ _ = _
      rw [ofEntries_integers entries limits]
      rfl
    · rw [get_assign, if_pos (Limit.mem_all l), stated?]
      exact ⟨fun value found => by simp [found, limitOf?], fun missing => by simp [missing]⟩

-- Two limits are useless here, and the first of them is written last.
theorem sample_legible : Decoder.own.Conforms ∧
    Writable [(.maxQueued, 0), (.resolverTimeout, 9223372036854775807), (.hardwareTimeout, 0)] ∧
    Restored .own [(.maxQueued, 0), (.resolverTimeout, 9223372036854775807), (.hardwareTimeout, 0)]
      (written [(.maxQueued, 0), (.resolverTimeout, 9223372036854775807), (.hardwareTimeout, 0)] true) :=
  ⟨own_conforms, ⟨by decide, by decide⟩, (settings_legible .own).1 own_conforms _ true ⟨by decide, by decide⟩⟩

example : parse "[scheduler]\nmax_queued_per_uid = 0\nhardware_timeout_ms = 0\n" =
    .error (.invalid .hardwareTimeout "must be greater than zero") := by decide

end Settings
end Ranging

import Ranging.Toml.Document
import Mathlib.Data.List.Basic

-- The part of the TOML grammar that a table of integers needs: one header, and below it one line for each key. Each
-- text of that form is read as that table, though the same characters begin dates, fractions and paths as well.
namespace Ranging.Toml

-- A decimal integer without a sign has no zero in front.
structure Decimal (digits : List Char) (value : Nat) : Prop where
  each : ∀ c ∈ digits, isDigit c = true
  start : digits = ['0'] ∨ ∃ c rest, digits = c :: rest ∧ c ≠ '0'
  value : valueOf 10 digits = value

structure BareKey (name : List Char) : Prop where
  given : name ≠ []
  bare : ∀ c ∈ name, isBare c = true

-- Lines of a key and an integer of 64 bits each, no key twice. A line end stands before every line, and perhaps at
-- the end.
inductive Pairs : List Char → Entries → Prop
  | nil : Pairs [] []
  | ended : Pairs ['\n'] []
  | line (key digits rest : List Char) (value : Nat) (entries : Entries) : BareKey key → Decimal digits value →
      value < 0x8000000000000000 → String.ofList key ∉ entries.map Prod.fst → Pairs rest entries →
      Pairs ('\n' :: (key ++ ' ' :: '=' :: ' ' :: (digits ++ rest))) ((String.ofList key, .integer value) :: entries)

inductive Sheet : List Char → String → Entries → Prop
  | table (header rest : List Char) (entries : Entries) : BareKey header → Pairs rest entries →
      Sheet ('[' :: (header ++ ']' :: rest)) (String.ofList header) entries

def Breaks (rest : List Char) : Prop := rest = [] ∨ ∃ more, rest = '\n' :: more

theorem Pairs.breaks {rest : List Char} {entries : Entries} (pairs : Pairs rest entries) : Breaks rest := by
  cases pairs with
  | nil => exact .inl rfl
  | ended => exact .inr ⟨[], rfl⟩
  | line key digits rest value entries => exact .inr ⟨_, rfl⟩

theorem Pairs.distinct {rest : List Char} {entries : Entries} (pairs : Pairs rest entries) :
    (entries.map Prod.fst).Nodup := by
  induction pairs with
  | nil => exact List.nodup_nil
  | ended => exact List.nodup_nil
  | line key digits rest value entries _ _ _ fresh _ ih => exact List.nodup_cons.2 ⟨fresh, ih⟩

def numeral (n : Nat) : List Char := Nat.toDigits 10 n

theorem isDigit_iff (c : Char) : isDigit c = true ↔ c.isDigit = true := by
  simp only [isDigit, Char.isDigit, Bool.and_eq_true, decide_eq_true_eq, UInt32.le_iff_toNat_le]
  exact Iff.rfl

section
variable (n : Nat)

theorem numeral_digits (c : Char) (listed : c ∈ numeral n) : isDigit c = true :=
  (isDigit_iff c).2 (Nat.isDigit_of_mem_toDigits (by decide) (by decide) listed)

theorem numeral_value : valueOf 10 (numeral n) = n := by
  have folded : valueOf 10 (numeral n) = Nat.ofDigitChars 10 (numeral n) 0 := by
    rw [Nat.ofDigitChars_eq_foldl, valueOf]
    refine List.foldl_ext _ _ _ fun value c listed => ?_
    rw [digitValue, if_pos (numeral_digits n c listed), Nat.mul_comm]
    rfl
  rw [folded]
  exact Nat.ofDigitChars_toDigits (by decide) (by decide)

theorem numeral_start : numeral n = ['0'] ∨ ∃ c digits, numeral n = c :: digits ∧ c ≠ '0' := by
  induction n using Nat.strongRecOn with
  | ind n ih =>
      have step : numeral n = if n < 10 then [n.digitChar] else numeral (n / 10) ++ [(n % 10).digitChar] :=
        Nat.toDigits_eq_if (by decide)
      rw [step]
      split
      · next small =>
          by_cases zero : n.digitChar = '0'
          · exact .inl (congrArg (fun c => [c]) zero)
          · exact .inr ⟨_, [], rfl, zero⟩
      · next large =>
          rcases ih (n / 10) (by omega) with alone | ⟨c, digits, first, apart⟩
          · have value := numeral_value (n / 10)
            rw [alone] at value
            have none : n / 10 = 0 := value.symm
            omega
          · exact .inr ⟨c, digits ++ [(n % 10).digitChar], by rw [first]; rfl, apart⟩

theorem numeral_decimal : Decimal (numeral n) n := ⟨numeral_digits n, numeral_start n, numeral_value n⟩

end

theorem moreDigits_all (digits rest : List Char) (all : ∀ c ∈ digits, isDigit c = true) (breaks : Breaks rest) :
    moreDigits isDigit (digits ++ rest) = (digits, rest) := by
  induction digits with
  | nil =>
      rcases breaks with rfl | ⟨more, rfl⟩
      · rfl
      · rfl
  | cons c digits ih =>
      have others := ih fun d listed => all d (List.mem_cons_of_mem _ listed)
      rw [List.cons_append, moreDigits, if_pos (all c List.mem_cons_self), others]

namespace Decimal
variable {digits : List Char} {n : Nat} (rest : List Char) (decimal : Decimal digits n)
include decimal

theorem nonempty : ∃ c more, digits = c :: more ∧ isDigit c = true := by
  rcases decimal.start with rfl | ⟨c, more, rfl, _⟩
  · exact ⟨'0', [], rfl, rfl⟩
  · exact ⟨c, more, rfl, decimal.each c List.mem_cons_self⟩

theorem readDecimal (breaks : Breaks rest) : readDecimal (digits ++ rest) = some (digits, rest) := by
  have all := moreDigits_all digits rest decimal.each breaks
  rcases decimal.start with rfl | ⟨c, more, rfl, apart⟩
  · rfl
  · have digit := decimal.each c List.mem_cons_self
    unfold Toml.readDecimal
    split
    · next same => exact absurd (List.cons.inj same).1 apart
    · rw [List.cons_append] at all ⊢
      rw [readDigits, if_pos digit, all]

theorem ne_cons (mark : Char) (more : List Char) (letter : isDigit mark = false) : digits ++ rest ≠ mark :: more := by
  obtain ⟨c, others, rfl, digit⟩ := decimal.nonempty
  intro same
  rw [(List.cons.inj same).1, letter] at digit
  cases digit

theorem readSign : readSign (digits ++ rest) = (false, digits ++ rest) := by
  unfold Toml.readSign
  split
  · next same => exact absurd same (decimal.ne_cons rest _ _ rfl)
  · next same => exact absurd same (decimal.ne_cons rest _ _ rfl)
  · rfl

theorem ne_zero_cons (breaks : Breaks rest) (mark : Char) (more : List Char) (visible : mark ≠ '\n') :
    digits ++ rest ≠ '0' :: mark :: more := by
  intro same
  rcases decimal.start with rfl | ⟨c, others, rfl, apart⟩
  · have behind : rest = mark :: more := (List.cons.inj same).2
    rcases breaks with rfl | ⟨others, rfl⟩
    · cases behind
    · exact visible (List.cons.inj behind).1.symm
  · exact apart (List.cons.inj same).1

theorem readInteger (small : n < 0x8000000000000000) (breaks : Breaks rest) :
    readInteger (digits ++ rest) = some ((n : Int), rest) := by
  have within : inRange (n : Int) = true := by
    simp only [inRange, Bool.and_eq_true, decide_eq_true_eq]
    omega
  unfold Toml.readInteger
  split
  · next same => exact absurd same (decimal.ne_zero_cons rest breaks _ _ (by decide))
  · next same => exact absurd same (decimal.ne_zero_cons rest breaks _ _ (by decide))
  · next same => exact absurd same (decimal.ne_zero_cons rest breaks _ _ (by decide))
  · rw [decimal.readSign]
    dsimp only
    rw [decimal.readDecimal rest breaks, Option.bind_some, decimal.value]
    simp only [checked, signed, Bool.false_eq_true, if_false, within, if_true]

theorem readFloat (breaks : Breaks rest) : readFloat (digits ++ rest) = none := by
  unfold Toml.readFloat
  simp only [decimal.readSign, decimal.readDecimal rest breaks]
  rcases breaks with rfl | ⟨more, rfl⟩
  · rfl
  · rfl

theorem readSpecial : readSpecial (digits ++ rest) = none := by
  unfold Toml.readSpecial
  rw [decimal.readSign]
  split
  · next same => exact absurd same (decimal.ne_cons rest _ _ rfl)
  · next same => exact absurd same (decimal.ne_cons rest _ _ rfl)
  · rfl

end Decimal

-- A date goes on with a dash and a time of day with a colon, and neither stands behind digits where the line ends.
section
variable (digits : List Char) (rest : List Char) (all : ∀ c ∈ digits, isDigit c = true) (breaks : Breaks rest)
include all breaks

theorem readTwo_digits (value : Nat) (left : List Char) (read : readTwo (digits ++ rest) = some (value, left)) :
    ∃ others, left = others ++ rest ∧ ∀ c ∈ others, isDigit c = true := by
  match digits, all with
  | [], _ =>
      rcases breaks with rfl | ⟨more, rfl⟩
      · cases read
      · cases more <;> simp [readTwo, isDigit] at read
  | [one], _ =>
      rcases breaks with rfl | ⟨more, rfl⟩
      · cases read
      · simp [readTwo, isDigit] at read
  | one :: two :: others, all =>
      refine ⟨others, ?_, fun c listed => all c (List.mem_cons_of_mem _ (List.mem_cons_of_mem _ listed))⟩
      simp only [List.cons_append, readTwo] at read
      split at read
      · cases read
        rfl
      · cases read

theorem skip_digits (mark : Char) (letter : isDigit mark = false) (visible : mark ≠ '\n') :
    skip mark (digits ++ rest) = none := by
  cases digits with
  | nil =>
      rcases breaks with rfl | ⟨more, rfl⟩
      · rfl
      · exact if_neg (Ne.symm visible)
  | cons c others =>
      refine if_neg fun same => ?_
      have digit := all c List.mem_cons_self
      rw [same, letter] at digit
      cases digit

theorem readDate_digits : readDate (digits ++ rest) = none := by
  unfold readDate
  cases century : readTwo (digits ++ rest) with
  | none => rfl
  | some first =>
      obtain ⟨others, left, digitsLeft⟩ := readTwo_digits digits rest all breaks first.1 first.2 century
      rw [Option.bind_eq_bind, Option.bind_some]
      dsimp only
      rw [left]
      cases year : readTwo (others ++ rest) with
      | none => rfl
      | some second =>
          obtain ⟨behind, left, digitsLeft⟩ := readTwo_digits others rest digitsLeft breaks second.1 second.2 year
          rw [Option.bind_some, left, skip_digits behind rest digitsLeft breaks '-' rfl (by decide)]
          rfl

theorem readClock_digits : readClock (digits ++ rest) = none := by
  unfold readClock
  cases hour : readTwoIn 0 23 (digits ++ rest) with
  | none => rfl
  | some first =>
      have read : readTwo (digits ++ rest) = some first := (Option.filter_eq_some_iff.1 hour).1
      obtain ⟨others, left, digitsLeft⟩ := readTwo_digits digits rest all breaks first.1 first.2 read
      rw [Option.bind_eq_bind, Option.bind_some]
      dsimp only
      rw [left, skip_digits others rest digitsLeft breaks ':' rfl (by decide)]
      rfl

theorem readMoment_digits : readMoment (digits ++ rest) = none := by
  rw [readMoment, readDate_digits digits rest all breaks]
  exact readClock_digits digits rest all breaks

end

namespace Decimal
variable {digits : List Char} {n : Nat} (rest : List Char) (decimal : Decimal digits n) (small : n < 0x8000000000000000)
  (breaks : Breaks rest)
include decimal small breaks

theorem readNumeral : readNumeral (digits ++ rest) = some (.integer n, rest) := by
  rw [Toml.readNumeral, readMoment_digits digits rest decimal.each breaks, decimal.readFloat rest breaks,
    decimal.readSpecial, decimal.readInteger rest small breaks]
  rfl

theorem readScalar : readScalar (digits ++ rest) = some (.integer n, rest) := by
  unfold Toml.readScalar
  split
  · next same => exact absurd same (decimal.ne_cons rest _ _ rfl)
  · next same => exact absurd same (decimal.ne_cons rest _ _ rfl)
  · next same => exact absurd same (decimal.ne_cons rest _ _ rfl)
  · next same => exact absurd same (decimal.ne_cons rest _ _ rfl)
  · exact decimal.readNumeral rest small breaks

theorem readValue : readValue (digits ++ rest) = some (.integer n, rest) := by
  unfold Toml.readValue nestingLimit readValueWithin
  split
  · next same => exact absurd same (decimal.ne_cons rest _ _ rfl)
  · next same => exact absurd same (decimal.ne_cons rest _ _ rfl)
  · exact decimal.readScalar rest small breaks

end Decimal

theorem isBare_digit (c : Char) (digit : isDigit c = true) : isBare c = true := by
  have bounds : 48 ≤ c.toNat ∧ c.toNat ≤ 57 := by simpa [isDigit] using digit
  simp [isBare, bounds]

theorem Decimal.bareKey {digits : List Char} {n : Nat} (decimal : Decimal digits n) : BareKey digits := by
  refine ⟨?_, fun c listed => isBare_digit c (decimal.each c listed)⟩
  obtain ⟨c, more, rfl, _⟩ := decimal.nonempty
  exact List.cons_ne_nil c more

namespace BareKey
variable {name : List Char} (rest : List Char) (key : BareKey name)
include key

theorem ne_cons (mark : Char) (more : List Char) (apart : isBare mark = false) : name ++ rest ≠ mark :: more := by
  obtain ⟨first, others, split⟩ := List.exists_cons_of_ne_nil key.given
  have named := key.bare first (split ▸ List.mem_cons_self)
  intro same
  rw [split] at same
  rw [(List.cons.inj same).1, apart] at named
  cases named

theorem skipBlanks : skipBlanks (name ++ rest) = name ++ rest := by
  obtain ⟨first, others, split⟩ := List.exists_cons_of_ne_nil key.given
  have named := key.bare first (split ▸ List.mem_cons_self)
  rw [split]
  refine List.dropWhile_cons_of_neg fun blank => ?_
  have blanks : first = ' ' ∨ first = '\t' := by simpa [isBlank] using blank
  rcases blanks with rfl | rfl
  · cases named
  · cases named

theorem readKey (c : Char) (apart : isBare c = false) :
    readKey (name ++ c :: rest) = some (String.ofList name, c :: rest) := by
  have taken : (name ++ c :: rest).takeWhile isBare = name := by
    rw [List.takeWhile_append_of_pos key.bare]
    simp [apart]
  have left : (name ++ c :: rest).dropWhile isBare = c :: rest := by
    rw [List.dropWhile_append_of_pos key.bare]
    simp [apart]
  obtain ⟨first, others, split⟩ := List.exists_cons_of_ne_nil key.given
  unfold Toml.readKey
  split
  · next same => exact absurd same (key.ne_cons _ _ _ rfl)
  · next same => exact absurd same (key.ne_cons _ _ _ rfl)
  · rw [readBare, taken, left, split]

theorem readPath (c mark : Char) (left : List Char) (apart : isBare c = false)
    (skipped : Toml.skipBlanks (c :: rest) = mark :: left) (single : mark ≠ '.') :
    readPath (name ++ c :: rest) = some ([String.ofList name], mark :: left) := by
  unfold Toml.readPath nestingLimit readPathOf
  rw [key.skipBlanks, key.readKey rest c apart]
  dsimp only
  rw [skipped]
  split
  · next same => exact absurd (List.cons.inj same).1 single
  · rfl

theorem readLine_pair (digits : List Char) (n : Nat) (decimal : Decimal digits n) (small : n < 0x8000000000000000)
    (breaks : Breaks rest) : readLine (name ++ ' ' :: '=' :: ' ' :: (digits ++ rest)) =
      some (.pair [String.ofList name] (.integer n), rest) := by
  have path := key.readPath ('=' :: ' ' :: (digits ++ rest)) ' ' '=' (' ' :: (digits ++ rest)) rfl rfl (by decide)
  -- digits make a name as well, so no blank is among them
  have value : Toml.skipBlanks (' ' :: (digits ++ rest)) = digits ++ rest := decimal.bareKey.skipBlanks rest
  unfold readLine
  split
  · next same => exact absurd same (key.ne_cons _ _ _ rfl)
  · rw [readPair, path]
    show Option.map _ (Option.map _ (readValue (Toml.skipBlanks (' ' :: (digits ++ rest))))) = _
    rw [value, decimal.readValue rest small breaks]
    rfl

theorem readLine_header : readLine ('[' :: (name ++ ']' :: rest)) = some (.table [String.ofList name], rest) := by
  have path := key.readPath rest ']' ']' rest rfl rfl (by decide)
  show readHeader ('[' :: (name ++ ']' :: rest)) = _
  unfold readHeader
  split
  · next same => exact absurd (List.cons.inj same).2 (key.ne_cons _ _ _ rfl)
  · next behind _ same =>
      rw [← (List.cons.inj same).2, path]
      rfl
  · next other => exact absurd rfl (other _)

theorem lineEnd? : lineEnd? (name ++ rest) = none := by
  unfold Toml.lineEnd?
  rw [key.skipBlanks rest]
  have comment : skipComment (name ++ rest) = name ++ rest := by
    unfold skipComment
    split
    · next same => exact absurd same (key.ne_cons rest _ _ rfl)
    · rfl
  rw [comment]
  split
  · next same => exact absurd (List.append_eq_nil_iff.1 same).1 key.given
  · unfold newline?
    split
    · next same => exact absurd same (key.ne_cons rest _ _ rfl)
    · next same => exact absurd same (key.ne_cons rest _ _ rfl)
    · rfl

end BareKey

theorem readLines_line (fuel : Nat) (cs rest onward : List Char) (line : Line) (lines : List Line)
    (plain : skipBlanks cs = cs) (given : cs ≠ []) (full : lineEnd? cs = none) (read : readLine cs = some (line, rest))
    (ends : lineEnd? rest = some onward) (others : readLines fuel onward = some lines) :
    readLines (fuel + 1) cs = some (line :: lines) := by
  obtain ⟨c, more, rfl⟩ := List.exists_cons_of_ne_nil given
  rw [readLines, plain]
  dsimp only
  rw [full, read]
  dsimp only
  rw [ends]
  dsimp only
  rw [others]
  rfl

theorem find?_none (key : String) (listed : Entries) (fresh : key ∉ listed.map Prod.fst) : find? key listed = none := by
  induction listed with
  | nil => rfl
  | cons entry rest ih =>
      rw [List.map_cons, List.mem_cons, not_or] at fresh
      rw [find?, if_neg (Ne.symm fresh.1)]
      exact ih fresh.2

theorem fill_singles (start more : Entries) (distinct : ((start ++ more).map Prod.fst).Nodup) :
    fill (more.map fun entry => ([entry.1], entry.2)) start = some (start ++ more) := by
  induction more generalizing start with
  | nil => simp [fill]
  | cons entry rest ih =>
      have fresh : entry.1 ∉ start.map Prod.fst := by
        rw [List.map_append, List.map_cons, List.nodup_append] at distinct
        exact fun listed => distinct.2.2 _ listed _ List.mem_cons_self rfl
      have taken : Toml.insert [entry.1] entry.2 start = some (start ++ [entry]) := by
        simp [Toml.insert, find?_none entry.1 start fresh]
      rw [List.append_cons] at distinct ⊢
      rw [← ih (start ++ [entry]) distinct]
      simp [fill, taken]

theorem grow_section (header : String) (lines : List Line) (pairs : List (List String × Node)) (listed : Entries)
    (below : sections lines = (pairs, [])) (filled : fill pairs [] = some listed) :
    grow (.table [header] :: lines) = some [(header, .table .header listed)] := by
  have root : fill [] [] = some [] := rfl
  simp [grow, sections, below, root, alter, Section.node, filled, find?, replace]

theorem Pairs.readLines {rest : List Char} {entries : Entries} (pairs : Pairs rest entries) (fuel : Nat)
    (enough : entries.length < fuel) : ∃ onward, lineEnd? rest = some onward ∧
      readLines fuel onward = some (entries.map fun entry => .pair [entry.1] entry.2) := by
  induction pairs generalizing fuel with
  | nil =>
      obtain ⟨fuel, rfl⟩ := Nat.exists_eq_add_one_of_ne_zero (Nat.ne_zero_of_lt enough)
      exact ⟨[], rfl, rfl⟩
  | ended =>
      obtain ⟨fuel, rfl⟩ := Nat.exists_eq_add_one_of_ne_zero (Nat.ne_zero_of_lt enough)
      exact ⟨[], rfl, rfl⟩
  | line key digits rest value entries bare decimal small _ pairs ih =>
      obtain ⟨fuel, rfl⟩ := Nat.exists_eq_add_one_of_ne_zero (Nat.ne_zero_of_lt enough)
      obtain ⟨onward, ends, others⟩ := ih fuel (Nat.lt_of_succ_lt_succ enough)
      refine ⟨_, rfl, readLines_line fuel _ rest onward _ _ (bare.skipBlanks _) ?_ (bare.lineEnd? _) ?_ ends others⟩
      · exact List.append_ne_nil_of_left_ne_nil bare.given _
      · exact bare.readLine_pair rest digits value decimal small pairs.breaks

theorem Pairs.length_le {rest : List Char} {entries : Entries} (pairs : Pairs rest entries) :
    entries.length ≤ rest.length := by
  induction pairs with
  | nil => exact Nat.le_refl 0
  | ended => exact Nat.zero_le 1
  | line key digits rest value entries _ _ _ _ _ ih =>
      simp only [List.length_cons, List.length_append]
      omega

theorem sections_pairs (entries : Entries) : sections (entries.map fun entry => .pair [entry.1] entry.2) =
    (entries.map fun entry => ([entry.1], entry.2), []) := by
  induction entries with
  | nil => rfl
  | cons entry rest ih => rw [List.map_cons, sections, ih]; rfl

theorem Sheet.parse? {text : List Char} {header : String} {entries : Entries} (sheet : Sheet text header entries) :
    parse? text = some [(header, .table .header entries)] := by
  cases sheet with
  | table name rest entries bare pairs =>
      have read := bare.readLine_header rest
      have within := pairs.length_le
      obtain ⟨onward, ends, others⟩ := pairs.readLines (name.length + rest.length + 2) (by omega)
      have lines : Toml.readLines (('[' :: (name ++ ']' :: rest)).length + 1) ('[' :: (name ++ ']' :: rest)) =
          some (.table [String.ofList name] :: entries.map fun entry => .pair [entry.1] entry.2) := by
        have length : ('[' :: (name ++ ']' :: rest)).length = name.length + rest.length + 2 := by
          simp only [List.length_cons, List.length_append]
          omega
        rw [length]
        exact readLines_line _ _ rest onward _ _ rfl (List.cons_ne_nil _ _) rfl read ends others
      have filled := fill_singles [] entries pairs.distinct
      rw [List.nil_append] at filled
      show (Toml.readLines (('[' :: (name ++ ']' :: rest)).length + 1) ('[' :: (name ++ ']' :: rest))).bind grow = _
      rw [lines, Option.bind_some]
      exact grow_section _ _ _ entries (sections_pairs entries) filled

end Ranging.Toml

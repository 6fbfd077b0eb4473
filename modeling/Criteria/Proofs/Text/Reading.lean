import Criteria.Text.Numeral
import Mathlib.Algebra.Group.Nat.Defs
import Mathlib.Data.List.TakeWhile

/-! Reading a text from its beginning: words, runs of characters, and numerals. -/

namespace Criteria

/-- What follows a word that a text begins with. -/
def after? : List Char → List Char → Option (List Char)
  | [], text => some text
  | _ :: _, [] => none
  | expected :: word, c :: text => if c = expected then after? word text else none

/-- A text follows the word that it was put behind. -/
theorem after?_append (word rest : List Char) : after? word (word ++ rest) = some rest := by
  -- The word is compared with itself, character by character.
  induction word with
  | nil => rfl
  | cons c word ih => rw [List.cons_append, after?, if_pos rfl, ih]

/-- A text does not begin with a word whose first character is another one. -/
theorem after?_cons_of_ne {c expected : Char} (other : c ≠ expected) (word text : List Char) :
    after? (expected :: word) (c :: text) = none := by
  -- The first characters are compared first.
  rw [after?, if_neg other]

/-- A text does not go on with a character that passes a test. -/
def Stops (test : Char → Bool) (text : List Char) : Prop :=
  ∀ c ∈ text.head?, test c = false

/-- An empty text stops anything. -/
theorem stops_nil (test : Char → Bool) : Stops test [] := by
  -- There is no first character that could pass the test.
  intro c head
  cases head

/-- A text stops what its first character fails. -/
theorem stops_cons {test : Char → Bool} {c : Char} (fails : test c = false) (rest : List Char) :
    Stops test (c :: rest) := by
  intro first head
  cases head
  exact fails

section Runs

variable {test : Char → Bool} {run rest : List Char}

/-- A run of characters that pass a test is taken whole, and no more than that. -/
theorem takeWhile_append_of_stops (passes : ∀ c ∈ run, test c = true) (stops : Stops test rest) :
    (run ++ rest).takeWhile test = run := by
  -- The whole run passes, and then the rest stops.
  rw [List.takeWhile_append_of_pos passes]
  cases rest with
  | nil => simp
  | cons c rest => simp [stops c rfl]

/-- What follows a run of characters that pass a test is left. -/
theorem dropWhile_append_of_stops (passes : ∀ c ∈ run, test c = true) (stops : Stops test rest) :
    (run ++ rest).dropWhile test = rest := by
  -- The whole run is passed over, and then the rest stops.
  rw [List.dropWhile_append_of_pos passes]
  cases rest with
  | nil => rfl
  | cons c rest => simp [stops c rfl]

end Runs

namespace Numeral

/-- A numeral consists of digits. -/
theorem isDigit_of_mem_digits {number : Nat} {c : Char} (member : c ∈ digits number) :
    c.isDigit = true :=
  -- Ten symbols are used, and all of them are digits.
  Nat.isDigit_of_mem_toDigits (by decide) (by decide) member

/-- A numeral denotes the number that it was written for. -/
theorem value_digits (number : Nat) : value (digits number) = number :=
  Nat.ofDigitChars_toDigits (by decide) (by decide)

/-- The numeral of a positive number does not begin with zero. -/
theorem head_digits_ne_zero {number : Nat} (positive : 0 < number) {first : Char}
    {rest : List Char} (written : digits number = first :: rest) : first ≠ '0' := by
  -- The first digit stays the first as long as more than one digit is taken off the end.
  induction number using Nat.strongRecOn generalizing rest with
  | ind number ih =>
    by_cases small : number < 10
    · -- A single digit is the number itself.
      rw [digits, Nat.toDigits_of_lt_base small] at written
      cases written
      have nonzero : ∀ digit < 10, 0 < digit → Nat.digitChar digit ≠ '0' := by decide
      exact nonzero number small positive
    · rw [digits, Nat.toDigits_of_base_le (by decide) (by omega)] at written
      obtain ⟨first', others, above⟩ := List.exists_cons_of_ne_nil
        (Nat.toDigits_ne_nil : Nat.toDigits 10 (number / 10) ≠ [])
      rw [above, List.cons_append] at written
      cases written
      exact ih (number / 10) (by omega) (by omega) above

/-- A numeral has a first digit. -/
theorem exists_digits_eq_cons (number : Nat) :
    ∃ first rest, digits number = first :: rest ∧ first.isDigit = true := by
  -- A numeral is not empty, and its first character is one of its digits.
  cases written : digits number with
  | nil => exact absurd written (Nat.toDigits_ne_nil)
  | cons first rest =>
    have member : first ∈ digits number := by
      rw [written]
      exact List.mem_cons_self
    exact ⟨first, rest, rfl, isDigit_of_mem_digits member⟩

/-- A widened numeral consists of digits. -/
theorem isDigit_of_mem_padded {width number : Nat} {c : Char} (member : c ∈ padded width number) :
    c.isDigit = true := by
  -- The characters in front are zeros, and the others are those of the numeral.
  rcases List.mem_append.mp member with zero | digit
  · rw [List.eq_of_mem_replicate zero]
    rfl
  · exact isDigit_of_mem_digits digit

/-- Zeros on the left make no difference to the number that a numeral denotes. -/
theorem value_padded (width number : Nat) : value (padded width number) = number := by
  -- The zeros come to nothing, and the numeral is behind them.
  rw [value, padded, Nat.ofDigitChars_append, Nat.ofDigitChars_replicate_zero, Nat.mul_zero]
  exact value_digits number

/-- A widened numeral is at least as wide as asked for. -/
theorem le_length_padded (width number : Nat) : width ≤ (padded width number).length := by
  -- There are as many zeros as the numeral falls short.
  rw [padded, List.length_append, List.length_replicate]
  omega

/-- A number with few enough digits has a numeral of exactly the width asked for. -/
theorem length_padded {width number : Nat} (positive : 0 < width) (fits : number < 10 ^ width) :
    (padded width number).length = width := by
  -- The numeral is no longer than the width, and the zeros make up the difference.
  have short : (digits number).length ≤ width :=
    (Nat.length_toDigits_le_iff (by decide) positive).mpr fits
  rw [padded, List.length_append, List.length_replicate]
  omega

/-- A widened numeral has a first digit. -/
theorem exists_padded_eq_cons (width number : Nat) :
    ∃ first rest, padded width number = first :: rest ∧ first.isDigit = true := by
  -- A numeral has a first digit, and so has what it is widened to.
  cases written : padded width number with
  | nil =>
    obtain ⟨first, rest, digits, -⟩ := exists_digits_eq_cons number
    rw [padded, digits] at written
    cases List.append_eq_nil_iff.mp written |>.2
  | cons first rest =>
    -- Its first character is one of its digits.
    have member : first ∈ padded width number := by
      rw [written]
      exact List.mem_cons_self
    exact ⟨first, rest, rfl, isDigit_of_mem_padded member⟩

/-- A widened numeral is not empty. -/
theorem isEmpty_padded (width number : Nat) : (padded width number).isEmpty = false := by
  -- There is a first digit.
  obtain ⟨first, rest, written, -⟩ := exists_padded_eq_cons width number
  rw [written, List.isEmpty_cons]

/-- Leading digits are taken up to the width, or up to what is no digit. -/
theorem leading_append {width : Nat} {run rest : List Char}
    (isRun : ∀ c ∈ run, c.isDigit = true)
    (ends : run.length = width ∨ run.length ≤ width ∧ Stops Char.isDigit rest) :
    leading width (run ++ rest) = (run, rest) := by
  -- The digits of the run are taken one by one, each leaving less of the width.
  induction run generalizing width with
  | nil =>
    cases width with
    | zero => rfl
    | succ width =>
      -- There is room for more, so what follows is no digit.
      obtain zero | ⟨-, stops⟩ := ends
      · cases zero
      · cases rest with
        | nil => rfl
        | cons c rest =>
          have other : c.isDigit = false := stops c rfl
          rw [List.nil_append, leading, other, if_neg Bool.false_ne_true]
  -- The width has room for the first digit, and one place less for the others.
  | cons c run ih =>
    obtain ⟨less, rfl⟩ : ∃ less, width = less + 1 := by
      refine ⟨width - 1, ?_⟩
      rw [List.length_cons] at ends
      omega
    obtain ⟨isDigit, others⟩ := List.forall_mem_cons.mp isRun
    have fewer : run.length = less ∨ run.length ≤ less ∧ Stops Char.isDigit rest :=
      ends.imp Nat.succ.inj fun both => ⟨Nat.le_of_succ_le_succ both.1, both.2⟩
    rw [List.cons_append, leading, if_pos isDigit, ih others fewer]

end Numeral

end Criteria

import Criteria.Proofs.Text.Reading

/-! Which texts are numerals: runs of digits, and integers with an optional sign. -/

namespace Criteria.Numeral

/-- A run of as many digits as a width says. -/
structure IsRun (width : Nat) (run : List Char) : Prop where
  length_eq : run.length = width
  isDigit : ∀ c ∈ run, c.isDigit = true

instance (width : Nat) (run : List Char) : Decidable (IsRun width run) :=
  decidable_of_iff (run.length = width ∧ run.all Char.isDigit = true)
    ⟨fun ⟨length, digits⟩ => ⟨length, List.all_eq_true.mp digits⟩,
      fun ⟨length, isDigit⟩ => ⟨length, List.all_eq_true.mpr isDigit⟩⟩

/-- A number with few enough digits is widened to a run of the width asked for. -/
theorem isRun_padded {width number : Nat} (positive : 0 < width) (fits : number < 10 ^ width) :
    IsRun width (padded width number) :=
  -- Zeros are digits as well.
  ⟨length_padded positive fits, fun _ => isDigit_of_mem_padded⟩

/-- The digits are a range of characters. -/
theorem toNat_of_isDigit {c : Char} (isDigit : c.isDigit = true) :
    48 ≤ c.toNat ∧ c.toNat ≤ 57 := by
  -- Characters are compared by their code points.
  simpa [Char.isDigit, UInt32.le_iff_toNat_le] using isDigit

/-- A run of digits denotes a number that has no more of them. -/
theorem IsRun.value_lt {width : Nat} {run : List Char} (isRun : IsRun width run) :
    value run < 10 ^ width := by
  obtain ⟨rfl, isDigit⟩ := isRun
  -- The first digit counts the values that the digits behind it can have.
  induction run with
  | nil => decide
  | cons c run ih =>
    obtain ⟨digit, others⟩ := List.forall_mem_cons.mp isDigit
    -- A digit counts nine at most, and the digits behind it less than one more.
    have few : c.toNat - 48 ≤ 9 := by
      have bounds := toNat_of_isDigit digit
      omega
    have counted : 10 ^ run.length * (c.toNat - 48) ≤ 10 ^ run.length * 9 :=
      Nat.mul_le_mul_left _ few
    have rest : value run < 10 ^ run.length := ih others
    have split : value (c :: run) = 10 ^ run.length * (c.toNat - 48) + value run := by
      rw [value, Nat.ofDigitChars_cons, Nat.ofDigitChars_eq_ofDigitChars_zero, Nat.mul_zero,
        Nat.zero_add]
      rfl
    rw [split, List.length_cons, Nat.pow_succ]
    omega

/-- Taking leading digits splits a text behind at most as many digits as asked for. -/
theorem leading_spec (width : Nat) (text : List Char) :
    (leading width text).1 ++ (leading width text).2 = text ∧
      ∀ c ∈ (leading width text).1, c.isDigit = true := by
  -- Each step takes one digit or stops, and a stop leaves the text as it is.
  induction width generalizing text with
  | zero => exact ⟨rfl, by simp [leading]⟩
  | succ width ih =>
    cases text with
    | nil => exact ⟨rfl, by simp [leading]⟩
    | cons c rest =>
      obtain ⟨same, isDigit⟩ := ih rest
      -- A digit is taken off, and any other character is where the run stops.
      by_cases digit : c.isDigit = true
      · simp only [leading, digit, if_true, List.cons_append, same, List.forall_mem_cons]
        exact ⟨trivial, trivial, isDigit⟩
      · simp [leading, digit]

/-- The numerals of an integer: digits with a sign or without one, zeros in front included. -/
inductive Denotes : List Char → Int → Prop
  | plain {run : List Char} (nonempty : run ≠ []) (isDigit : ∀ c ∈ run, c.isDigit = true) :
    Denotes run (value run)
  | plus {run : List Char} (nonempty : run ≠ []) (isDigit : ∀ c ∈ run, c.isDigit = true) :
    Denotes ('+' :: run) (value run)
  | minus {run : List Char} (nonempty : run ≠ []) (isDigit : ∀ c ∈ run, c.isDigit = true) :
    Denotes ('-' :: run) (-(value run : Int))

/-- A text is a whole number exactly if it is one or more digits, and the number is their value. -/
theorem natural?_eq_some_iff {text : List Char} {number : Nat} :
    natural? text = some number ↔
      (text ≠ [] ∧ ∀ c ∈ text, c.isDigit = true) ∧ value text = number := by
  simp [natural?]

/-- A whole number is given a sign exactly if the text is one or more digits. -/
theorem natural?_map_eq_some_iff (sign : Int → Int) {text : List Char} {number : Int} :
    ((natural? text).map fun magnitude => sign magnitude) = some number ↔
      (text ≠ [] ∧ ∀ c ∈ text, c.isDigit = true) ∧ sign (value text) = number := by
  -- The sign makes no difference to which texts are read.
  cases reads : natural? text with
  | none =>
    refine iff_of_false nofun fun both => ?_
    rw [natural?_eq_some_iff.mpr ⟨both.1, rfl⟩] at reads
    cases reads
  | some magnitude =>
    obtain ⟨digits, same⟩ := natural?_eq_some_iff.mp reads
    rw [and_iff_right digits, same]
    exact Option.some_inj

/-- A text is read as an integer exactly if it is a numeral of it. -/
theorem integer?_eq_some_iff {text : List Char} {number : Int} :
    integer? text = some number ↔ Denotes text number := by
  constructor
  · -- The first character decides whether there is a sign, and digits have to follow.
    intro reads
    unfold integer? at reads
    split at reads
    · -- A minus, a plus and no sign are told apart in turn.
      obtain ⟨⟨nonempty, isDigit⟩, rfl⟩ := (natural?_map_eq_some_iff Neg.neg).mp reads
      exact .minus nonempty isDigit
    · obtain ⟨⟨nonempty, isDigit⟩, rfl⟩ := (natural?_map_eq_some_iff id).mp reads
      exact .plus nonempty isDigit
    · obtain ⟨⟨nonempty, isDigit⟩, rfl⟩ := (natural?_map_eq_some_iff id).mp reads
      exact .plain nonempty isDigit
  · intro denotes
    cases denotes with
    | plain nonempty isDigit =>
      -- A digit is no sign, so a text of digits is read from its first character on.
      unfold integer?
      split
      · cases isDigit '-' List.mem_cons_self
      · cases isDigit '+' List.mem_cons_self
      · exact (natural?_map_eq_some_iff id).mpr ⟨⟨nonempty, isDigit⟩, rfl⟩
    -- A sign is no digit, so the digits behind it are the whole number.
    | plus nonempty isDigit =>
      exact (natural?_map_eq_some_iff id).mpr ⟨⟨nonempty, isDigit⟩, rfl⟩
    | minus nonempty isDigit =>
      exact (natural?_map_eq_some_iff Neg.neg).mpr ⟨⟨nonempty, isDigit⟩, rfl⟩

/-- Behind its first character, a numeral of an integer has digits only. -/
theorem Denotes.isDigit_of_mem_tail {text : List Char} {number : Int}
    (denotes : Denotes text number) : ∀ c ∈ text.tail, c.isDigit = true := by
  -- Only the first character may be a sign.
  cases denotes with
  | plain _ isDigit => exact fun c inside => isDigit c (List.mem_of_mem_tail inside)
  | plus _ isDigit | minus _ isDigit => exact isDigit

/-- What is written for an integer is a numeral of it. -/
theorem denotes_signed (number : Int) : Denotes (signed number) number := by
  -- The magnitude is written in digits, of which there is one at least.
  have isDigit : ∀ c ∈ digits number.natAbs, c.isDigit = true := fun _ => isDigit_of_mem_digits
  have nonempty : digits number.natAbs ≠ [] := Nat.toDigits_ne_nil
  unfold signed
  split
  · -- The digits after a minus sign are those of the magnitude.
    have magnitude : -(value (digits number.natAbs) : Int) = number := by
      rw [value_digits]
      omega
    simpa only [magnitude] using Denotes.minus nonempty isDigit
  · have magnitude : (value (digits number.natAbs) : Int) = number := by
      rw [value_digits]
      omega
    simpa only [magnitude] using Denotes.plain nonempty isDigit

/-- Whether something behind the first character of a text is no digit. -/
def HasMark (text : List Char) : Prop :=
  ∃ c ∈ text.tail, c.isDigit = false

/-- A mark stays one behind whatever is put before the text. -/
theorem HasMark.append {text : List Char} (marked : HasMark text) (before : List Char) :
    HasMark (before ++ text) := by
  obtain ⟨c, inside, other⟩ := marked
  refine ⟨c, ?_, other⟩
  -- The mark is in the text itself, which is at most preceded.
  cases before with
  | nil => exact inside
  | cons first before => exact List.mem_append_right before (List.mem_of_mem_tail inside)

/-- What is no digit is a mark behind anything that is not empty. -/
theorem hasMark_of_ne_nil {before : List Char} (nonempty : before ≠ []) {c : Char}
    (other : c.isDigit = false) (rest : List Char) : HasMark (before ++ c :: rest) := by
  -- With something in front of it, the character is not the first one.
  refine ⟨c, ?_, other⟩
  rw [List.tail_append_of_ne_nil nonempty]
  exact List.mem_append_right _ List.mem_cons_self

/-- A text with a mark is no integer. -/
theorem integer?_eq_none_of_hasMark {text : List Char} (marked : HasMark text) :
    integer? text = none := by
  -- A numeral has digits only behind its first character, and a mark is none.
  obtain ⟨c, inside, other⟩ := marked
  refine Option.eq_none_iff_forall_ne_some.mpr fun number reads => ?_
  have isDigit := (integer?_eq_some_iff.mp reads).isDigit_of_mem_tail c inside
  rw [other] at isDigit
  cases isDigit

end Criteria.Numeral

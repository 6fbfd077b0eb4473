import Criteria.Json.Token
import Criteria.Json.Writer
import Criteria.Proofs.Text.Reading

/-! Numbers and strings that are written as JSON are found again as tokens. -/

namespace Criteria

namespace JsonToken

/-- Whether a character could go on with an integer that ends here. -/
def isNumberPart (c : Char) : Bool :=
  c.isDigit || c = '.' || c = 'e' || c = 'E'

section Numbers

variable {seen : NumberText} {rest : List Char}

/-- Where a number stands after its first digit. -/
def firstPart (digit : Char) : NumberPart :=
  if digit = '0' then .zero else .whole

/-- Digits go on with a whole part that does not begin with zero. -/
theorem scanFrom_digits {run : List Char} (isRun : ∀ c ∈ run, c.isDigit = true)
    (rest : List Char) :
    scanFrom (.number .whole seen) (run ++ rest) =
      scanFrom (.number .whole { seen with whole := run.reverse ++ seen.whole }) rest := by
  -- The digits seen so far are held last to first, so each one is put in front of them.
  induction run generalizing seen with
  | nil => rfl
  | cons c run ih =>
    obtain ⟨isDigit, others⟩ := List.forall_mem_cons.mp isRun
    -- A digit goes on with the number and makes no token.
    have step : Scan.step (.number .whole seen) c =
        ([], .number .whole { seen with whole := c :: seen.whole }) := by
      simp [Scan.step, NumberPart.next?, isDigit, NumberText.add]
    rw [List.cons_append, scanFrom, step]
    simp only [List.nil_append]
    rw [ih others]
    simp

/-- A number that may end does so where nothing goes on with it. -/
theorem scanFrom_number_end {part : NumberPart} (mayEnd : part = .zero ∨ part = .whole)
    (stops : Stops isNumberPart rest) :
    scanFrom (.number part seen) rest = .number seen.toNumber :: scanFrom .between rest := by
  -- A number ends with the text, or before a character that it has no use for.
  cases rest with
  | nil => rcases mayEnd with rfl | rfl <;> rfl
  | cons c rest =>
    have other := stops c rfl
    simp only [isNumberPart, Bool.or_eq_false_iff, decide_eq_false_iff_not] at other
    obtain ⟨⟨⟨noDigit, noPoint⟩, noMark⟩, noMark'⟩ := other
    -- The number ends, and the character starts what comes next, as it would by itself.
    have step : Scan.step (.number part seen) c =
        (.number seen.toNumber :: (Scan.start c).1, (Scan.start c).2) := by
      rcases mayEnd with rfl | rfl <;>
        simp [Scan.step, NumberPart.next?, NumberPart.next?.afterWhole?,
          NumberPart.next?.afterFraction?, NumberPart.mayEnd, noDigit, noPoint, noMark, noMark']
    rw [scanFrom, step, scanFrom, Scan.step]
    rfl

/-- A numeral behind its first digit is a number with all its digits. -/
theorem scanFrom_numeral (number : Nat) {first : Char} {others : List Char}
    (written : Numeral.digits number = first :: others) (empty : seen.whole = [])
    (stops : Stops isNumberPart rest) :
    scanFrom (.number (firstPart first) (seen.add (firstPart first) first)) (others ++ rest) =
      .number ({ seen with whole := (Numeral.digits number).reverse } : NumberText).toNumber ::
        scanFrom .between rest := by
  -- A numeral begins with zero only if it is that of zero.
  by_cases zero : number = 0
  · -- The one numeral with a leading zero has no other digit.
    subst zero
    have digits : Numeral.digits 0 = ['0'] := Nat.toDigits_zero 10
    rw [digits] at written ⊢
    cases written
    have add : seen.add .zero '0' = { seen with whole := ['0'] } := by
      rw [NumberText.add, empty]
    rw [show firstPart '0' = .zero from rfl, add]
    exact scanFrom_number_end (.inl rfl) stops
  · -- Behind a digit other than zero, all further digits belong to the number.
    have leading := Numeral.head_digits_ne_zero (Nat.pos_of_ne_zero zero) written
    have isRun : ∀ c ∈ others, c.isDigit = true := by
      intro c member
      have within : c ∈ Numeral.digits number := by
        rw [written]
        exact List.mem_cons_of_mem first member
      exact Numeral.isDigit_of_mem_digits within
    rw [firstPart, if_neg leading, scanFrom_digits isRun, scanFrom_number_end (.inr rfl) stops,
      written]
    simp [NumberText.add, empty]

/-- A digit begins a number. -/
theorem start_of_isDigit {c : Char} (isDigit : c.isDigit = true) :
    Scan.start c = ([], .number (firstPart c) (NumberText.none.add (firstPart c) c)) := by
  -- Zero leads no further digits, so it begins a number of its own kind.
  by_cases zero : c = '0'
  · subst zero
    rfl
  -- No digit is one of the characters with a meaning of their own.
  have apart (other : Char) (noDigit : other.isDigit = false) : c ≠ other := by
    rintro rfl
    rw [noDigit] at isDigit
    cases isDigit
  simp [Scan.start, isSpace, firstPart, isDigit, zero, apart ' ' rfl, apart '\n' rfl,
    apart '\t' rfl, apart '\r' rfl, apart '[' rfl, apart ']' rfl, apart '{' rfl, apart '}' rfl,
    apart ',' rfl, apart ':' rfl, apart '"' rfl, apart 'n' rfl, apart 't' rfl, apart 'f' rfl,
    apart '-' rfl]

/-- A digit goes on with a number behind its sign. -/
theorem step_minus_of_isDigit {c : Char} (isDigit : c.isDigit = true) :
    Scan.step (.number .minus seen) c =
      ([], .number (firstPart c) (seen.add (firstPart c) c)) := by
  -- As at the start of a number, zero is a case of its own.
  by_cases zero : c = '0'
  · subst zero
    rfl
  · simp [Scan.step, NumberPart.next?, firstPart, zero, isDigit]

/-- The digits of an integer's magnitude behind its sign are the integer, if it is kept exactly. -/
theorem toNumber_digits {number : Int} (least : JsonNumber.leastInteger ≤ number)
    (greatest : number ≤ JsonNumber.greatestInteger) {seen : NumberText}
    (sign : seen.negative = decide (number < 0)) (plain : seen.plain = true)
    (whole : seen.whole = (Numeral.digits number.natAbs).reverse) :
    seen.toNumber = .integer number := by
  -- The digits say the magnitude, and the sign is kept beside them.
  rw [NumberText.toNumber, plain, if_pos rfl, whole, List.reverse_reverse, Numeral.value_digits,
    sign, JsonNumber.ofInteger]
  -- Zero has no sign, so the sign and the magnitude are those of the number itself.
  have value : (if decide (number < 0) = true then -(number.natAbs : Int)
      else (number.natAbs : Int)) = number := by
    simp only [decide_eq_true_eq]
    split <;> omega
  have nonzero : (decide (number < 0) && decide (number.natAbs = 0)) = false := by
    rw [Bool.and_eq_false_iff, decide_eq_false_iff_not, decide_eq_false_iff_not]
    omega
  simp only [value, nonzero]
  rw [if_neg Bool.false_ne_true, if_pos ⟨least, greatest⟩]

/-- An integer written out is scanned as one number. -/
theorem scanFrom_signed {number : Int} (least : JsonNumber.leastInteger ≤ number)
    (greatest : number ≤ JsonNumber.greatestInteger) (stops : Stops isNumberPart rest) :
    scanFrom .between (Numeral.signed number ++ rest) =
      .number (.integer number) :: scanFrom .between rest := by
  -- The magnitude is a numeral, which begins with a digit.
  obtain ⟨first, others, written, isDigit⟩ := Numeral.exists_digits_eq_cons number.natAbs
  unfold Numeral.signed
  split
  · -- The number starts with the sign, and its first digit comes after that.
    rename_i negative
    rw [written, List.cons_append, List.cons_append, scanFrom,
      show Scan.step .between '-' = ([], .number .minus (NumberText.none.add .minus '-')) from rfl]
    simp only [List.nil_append]
    rw [scanFrom, step_minus_of_isDigit isDigit]
    simp only [List.nil_append]
    rw [scanFrom_numeral _ written rfl stops,
      toNumber_digits least greatest (decide_eq_true negative).symm rfl rfl]
  · -- Without a sign, the first digit begins the number.
    rename_i positive
    rw [written, List.cons_append, scanFrom,
      show Scan.step .between first = Scan.start first from rfl, start_of_isDigit isDigit]
    simp only [List.nil_append]
    rw [scanFrom_numeral _ written rfl stops,
      toNumber_digits least greatest (decide_eq_false positive).symm rfl rfl]

end Numbers

section Strings

variable {rest : List Char}

/-- A hexadecimal digit that is written has its own value. -/
theorem hexValue?_hexDigit {digit : Nat} (small : digit < 16) :
    hexValue? (Json.hexDigit digit) = some digit := by
  -- There are sixteen digits to look at.
  have each : ∀ digit < 16, hexValue? (Json.hexDigit digit) = some digit := by decide
  exact each digit small

/-- A character that is written inside a string is scanned as that character. -/
theorem scanFrom_writeChar (seen : List Char) (c : Char) :
    scanFrom (.string ⟨seen, none, true⟩) (Json.writeChar c ++ rest) =
      scanFrom (.string ⟨c :: seen, none, true⟩) rest := by
  unfold Json.writeChar
  split_ifs with quote backslash backspace feed line carriage tab control
  -- Each of these characters has a letter of its own.
  · rw [quote]
    rfl
  · rw [backslash]
    rfl
  · rw [backspace]
    rfl
  · rw [feed]
    rfl
  · rw [line]
    rfl
  · rw [carriage]
    rfl
  · rw [tab]
    rfl
  · -- The other controls are written by their codes, which take two digits.
    have high := hexValue?_hexDigit (show c.toNat / 16 < 16 by omega)
    have low := hexValue?_hexDigit (show c.toNat % 16 < 16 by omega)
    have code : 16 * (c.toNat / 16) + c.toNat % 16 = c.toNat := Nat.div_add_mod c.toNat 16
    have unit : StringText.addUnit ⟨seen, none, true⟩ c.toNat = ⟨c :: seen, none, true⟩ := by
      rw [StringText.addUnit, if_neg (by omega), if_neg (by omega), Char.ofNat_toNat]
      rfl
    show scanFrom (.unicode ⟨seen, none, true⟩ 2 0)
      (Json.hexDigit (c.toNat / 16) :: Json.hexDigit (c.toNat % 16) :: rest) = _
    simp [scanFrom, Scan.step, high, low, code, unit]
  · -- All other characters stand for themselves.
    have step : Scan.step (.string ⟨seen, none, true⟩) c =
        ([], .string ⟨c :: seen, none, true⟩) := by
      rw [Scan.step, if_neg quote, if_neg backslash, if_neg control]
      rfl
    rw [List.singleton_append, scanFrom, step]
    rfl

/-- A text written as a string is scanned as that text. -/
theorem scanFrom_writeString (content : String) :
    scanFrom .between (Json.writeString content ++ rest) =
      .string content :: scanFrom .between rest := by
  -- Inside the string, the characters seen so far stand last to first.
  have inside (seen characters : List Char) :
      scanFrom (.string ⟨seen, none, true⟩) (characters.flatMap Json.writeChar ++ '"' :: rest) =
        .string (String.ofList (seen.reverse ++ characters)) :: scanFrom .between rest := by
    induction characters generalizing seen with
    | nil =>
      rw [List.append_nil]
      rfl
    | cons c characters ih =>
      rw [List.flatMap_cons, List.append_assoc, scanFrom_writeChar, ih, List.reverse_cons,
        List.append_assoc]
      rfl
  -- The first quote opens a string of which nothing has been seen.
  have opened := inside [] content.toList
  rw [List.reverse_nil, List.nil_append, String.ofList_toList] at opened
  rw [← opened, Json.writeString, List.append_assoc]
  rfl

end Strings

end JsonToken

end Criteria

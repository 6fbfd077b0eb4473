import Criteria.Predicate.Rendering
import Criteria.Proofs.Text.Reading

/-! Literals read back: where the quoted text of a literal ends, and which value it is. -/

namespace Criteria

/-- The content of a quoted text behind its first quote, and what follows the last one. -/
def unquote? : List Char → Option (List Char × List Char)
  | [] => none
  | '\'' :: '\'' :: rest => (unquote? rest).map fun (content, after) => ('\'' :: content, after)
  | c :: rest =>
    if c = '\'' then some ([], rest)
    else (unquote? rest).map fun (content, after) => (c :: content, after)

/-- A quoted text ends where it ended, unless a quote follows it. -/
theorem unquote?_doubleQuotes (content : List Char) {rest : List Char}
    (stops : Stops (fun c => c = '\'') rest) :
    unquote? (doubleQuotes content ++ '\'' :: rest) = some (content, rest) := by
  -- The content is read character by character, and doubled quotes are halved.
  induction content with
  | nil =>
    -- The quote that ends the text is not doubled.
    cases rest with
    | nil => rfl
    | cons c rest =>
      have other : c ≠ '\'' := of_decide_eq_false (stops c rfl)
      simp [doubleQuotes, unquote?, other]
  | cons c content ih =>
    by_cases quote : c = '\''
    · subst quote
      simp [doubleQuotes, unquote?, ih]
    · simp [doubleQuotes, quote, unquote?, ih]

namespace Value

/-- Whether a value is null, a truth value, an integer or a text. -/
def IsPlain : Value → Prop
  | .null => True
  | .bool _ => True
  | .int _ => True
  | .text _ => True
  | _ => False

/-- The integer that a text begins with, and what follows it. -/
def readInteger (text : List Char) : Value × List Char :=
  match after? ['-'] text with
  | some rest =>
    (.int (.ofInt (-(Numeral.value (rest.takeWhile Char.isDigit) : Int))),
      rest.dropWhile Char.isDigit)
  | none =>
    (.int (.ofInt (Numeral.value (text.takeWhile Char.isDigit))), text.dropWhile Char.isDigit)

/-- The literal that a text begins with, and what follows it. -/
def readLiteral? (text : List Char) : Option (Value × List Char) :=
  (after? "NULL".toList text).map (fun rest => (.null, rest)) <|>
  (after? "TRUE".toList text).map (fun rest => (.bool true, rest)) <|>
  (after? "FALSE".toList text).map (fun rest => (.bool false, rest)) <|>
  ((after? ['\''] text).bind unquote?).map
    (fun (content, rest) => (.text (String.ofList content), rest)) <|>
  some (readInteger text)

/-- Whether a character could go on with a literal. -/
def isLiteralPart (c : Char) : Bool :=
  c.isDigit || c = '\''

end Value

/-- What stops a literal stops a numeral and a quoted text. -/
theorem Stops.of_isLiteralPart {rest : List Char} (stops : Stops Value.isLiteralPart rest) :
    Stops Char.isDigit rest ∧ Stops (fun c => c = '\'') rest := by
  -- A character that goes on with no literal is neither a digit nor a quote.
  refine ⟨fun c first => ?_, fun c first => ?_⟩
  · have other := stops c first
    simp only [Value.isLiteralPart, Bool.or_eq_false_iff] at other
    exact other.1
  · have other := stops c first
    simp only [Value.isLiteralPart, Bool.or_eq_false_iff] at other
    exact other.2

namespace Value

/-- The integer that a signed numeral was written for is read back. -/
theorem readInteger_signed (number : Int64) {rest : List Char} (stops : Stops Char.isDigit rest) :
    readInteger (Numeral.signed number.toInt ++ rest) = (.int number, rest) := by
  -- The digits end where the numeral does, as no digit follows.
  have digits (magnitude : Nat) : ∀ c ∈ Numeral.digits magnitude, c.isDigit = true :=
    fun _ => Numeral.isDigit_of_mem_digits
  unfold Numeral.signed
  split
  · -- A minus sign stands before the digits of the magnitude.
    rename_i negative
    have magnitude : -(number.toInt.natAbs : Int) = number.toInt := by omega
    rw [List.cons_append, readInteger, show after? ['-'] ('-' :: _) = some _ from rfl]
    simp only
    rw [takeWhile_append_of_stops (digits _) stops, dropWhile_append_of_stops (digits _) stops,
      Numeral.value_digits, magnitude, Int64.ofInt_toInt]
  · -- Without a sign, the first character is a digit.
    rename_i positive
    have magnitude : (number.toInt.natAbs : Int) = number.toInt := by omega
    obtain ⟨first, others, written, isDigit⟩ := Numeral.exists_digits_eq_cons number.toInt.natAbs
    have signless : after? ['-'] (Numeral.digits number.toInt.natAbs ++ rest) = none := by
      rw [written]
      exact after?_cons_of_ne (by rintro rfl; cases isDigit) _ _
    rw [readInteger, signless]
    simp only
    rw [takeWhile_append_of_stops (digits _) stops, dropWhile_append_of_stops (digits _) stops,
      Numeral.value_digits, magnitude, Int64.ofInt_toInt]

/-- A text that begins with a digit or a minus sign does not begin with a word or a quote. -/
theorem readLiteral?_signed (number : Int) (rest : List Char) :
    readLiteral? (Numeral.signed number ++ rest) =
      some (readInteger (Numeral.signed number ++ rest)) := by
  -- The words and the quote are tried in vain, and the integer is what is left.
  -- An integer begins with its sign or with a digit.
  have begins : ∃ first others, Numeral.signed number = first :: others ∧
      (first = '-' ∨ first.isDigit = true) := by
    unfold Numeral.signed
    split
    · exact ⟨'-', _, rfl, .inl rfl⟩
    · obtain ⟨first, others, written, isDigit⟩ := Numeral.exists_digits_eq_cons number.natAbs
      exact ⟨first, others, written, .inr isDigit⟩
  obtain ⟨first, others, written, kind⟩ := begins
  rw [written, List.cons_append]
  -- None of their first characters is a digit or the sign.
  have apart (letter : Char) (other : letter ≠ '-') (noDigit : letter.isDigit = false)
      (word : List Char) : after? (letter :: word) (first :: (others ++ rest)) = none := by
    refine after?_cons_of_ne ?_ _ _
    rintro rfl
    rcases kind with sign | isDigit
    · exact other sign
    · rw [noDigit] at isDigit
      cases isDigit
  have null := apart 'N' (by decide) (by decide) ['U', 'L', 'L']
  have true := apart 'T' (by decide) (by decide) ['R', 'U', 'E']
  have false := apart 'F' (by decide) (by decide) ['A', 'L', 'S', 'E']
  have quote := apart '\'' (by decide) (by decide) []
  unfold readLiteral?
  rw [show "NULL".toList = ['N', 'U', 'L', 'L'] from rfl,
    show "TRUE".toList = ['T', 'R', 'U', 'E'] from rfl,
    show "FALSE".toList = ['F', 'A', 'L', 'S', 'E'] from rfl, null, true, false, quote]
  rfl

/-- A literal is read back as the value that it was written for, if what follows stops it. -/
theorem readLiteral?_writeLiteral {value : Value} (plain : value.IsPlain) {rest : List Char}
    (stops : Stops isLiteralPart rest) :
    readLiteral? (value.writeLiteral ++ rest) = some (value, rest) := by
  -- Each kind of literal begins in a way of its own.
  obtain ⟨digitStops, quoteStops⟩ := stops.of_isLiteralPart
  cases value with
  | null => rfl
  | bool truth => cases truth <;> rfl
  | int number =>
    rw [← readInteger_signed number digitStops]
    exact readLiteral?_signed number.toInt rest
  -- Inside its quotes a text has every quote twice, so the first single one ends it.
  | text content =>
    have content_read := unquote?_doubleQuotes content.toList quoteStops
    have written : (Value.text content).writeLiteral ++ rest =
        '\'' :: (doubleQuotes content.toList ++ '\'' :: rest) :=
      List.append_assoc ('\'' :: doubleQuotes content.toList) ['\''] rest
    rw [written]
    show (((some (doubleQuotes content.toList ++ '\'' :: rest)).bind unquote?).map _ <|> _) = _
    rw [Option.bind_some, content_read]
    simp
  -- Literals of other kinds are not plain.
  | float | date | dateTime | offsetDateTime => cases plain

end Value

end Criteria

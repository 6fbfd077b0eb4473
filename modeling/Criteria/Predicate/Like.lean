/-!
Matching with wildcards: a percent sign stands for any run of characters, an underscore for one.
-/

namespace Criteria.Like

/-- How matching a pattern from one place of a text on comes to a stop. -/
inductive Stop where
  /-- A character does not match, or text is left after the pattern. -/
  | mismatch
  /-- The text is used up, and this much of the pattern is left. -/
  | textEnd (pattern : List Char)
  /-- A percent sign is met with text left: what follows it, and the text. -/
  | star (pattern text : List Char)
deriving DecidableEq

/-- Matches character by character until a percent sign, a mismatch or the end of the text. -/
def advance : List Char → List Char → Stop
  | pattern, [] => .textEnd pattern
  | [], _ :: _ => .mismatch
  | expected :: pattern, c :: text =>
    if expected = '%' then .star pattern (c :: text)
    else if expected = '_' ∨ expected = c then advance pattern text
    else .mismatch

/-- Whether nothing but percent signs is left, which match the empty text. -/
def onlyStars (pattern : List Char) : Bool :=
  pattern.all fun c => c = '%'

/-- What follows a percent sign is shorter than the pattern that holds it. -/
theorem advance_star_length {pattern text rest remaining : List Char}
    (stop : advance pattern text = .star rest remaining) : rest.length < pattern.length := by
  -- Each character that is passed leaves less of the pattern.
  induction pattern generalizing text with
  -- An empty pattern never meets a percent sign.
  | nil => cases text <;> simp [advance] at stop
  | cons expected pattern ih =>
    cases text with
    | nil => simp [advance] at stop
    | cons c text =>
      simp only [advance] at stop
      split at stop
      -- The sign is the first character, and everything after it is what follows.
      · injection stop with same
        simp [same]
      · split at stop
        -- Otherwise the sign lies in the rest of the pattern.
        · have shorter := ih stop
          simp only [List.length_cons]
          omega
        · cases stop

/--
Matches what follows a percent sign against some later part of the text.

Only the last percent sign met is retreated to, each time one character further on.
-/
def afterStar (pattern text : List Char) : Bool :=
  match _stop : advance pattern text with
  | .textEnd rest => onlyStars rest
  | .star rest remaining => afterStar rest remaining
  | .mismatch =>
    match text with
    | [] => false
    | _ :: later => afterStar pattern later
termination_by (pattern.length, text.length)
decreasing_by
  · exact Prod.Lex.left _ _ (advance_star_length _stop)
  · exact Prod.Lex.right _ (Nat.lt_succ_self _)

/-- Whether a pattern matches a whole text, characters being compared exactly. -/
def isMatch (text pattern : List Char) : Bool :=
  match advance pattern text with
  | .textEnd rest => onlyStars rest
  | .star rest remaining => afterStar rest remaining
  | .mismatch => false

end Criteria.Like

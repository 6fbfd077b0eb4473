import Criteria.Predicate.Like

/-! Matching with one place to retreat to finds every way in which a pattern matches a text. -/

namespace Criteria.Like

/-- Which texts a pattern stands for: a percent sign for any run of characters, an underscore for
one, and every other character for itself. -/
inductive Matches : List Char → List Char → Prop where
  | empty : Matches [] []
  | run (skipped : List Char) {pattern text : List Char} (rest : Matches pattern text) :
      Matches ('%' :: pattern) (skipped ++ text)
  | one (c : Char) {pattern text : List Char} (rest : Matches pattern text) :
      Matches ('_' :: pattern) (c :: text)
  | same {c : Char} {pattern text : List Char} (plain : c ≠ '%' ∧ c ≠ '_')
      (rest : Matches pattern text) : Matches (c :: pattern) (c :: text)

/-- A percent sign stands for whatever comes before some end of the text. -/
theorem matches_run_iff {pattern text : List Char} :
    Matches ('%' :: pattern) text ↔ ∃ later, later <:+ text ∧ Matches pattern later := by
  -- What the sign stands for is the part of the text that is skipped.
  constructor
  · intro matched
    cases matched with
    | @run skipped _ later rest => exact ⟨later, List.suffix_append skipped later, rest⟩
    | same plain => exact absurd rfl plain.1
  · intro found
    obtain ⟨later, ⟨skipped, rfl⟩, rest⟩ := found
    exact .run skipped rest

/-- Any other character stands for one character, an underscore for each and the rest for
themselves. -/
theorem matches_one_iff {expected c : Char} {pattern text : List Char} (plain : expected ≠ '%') :
    Matches (expected :: pattern) (c :: text) ↔
      (expected = '_' ∨ expected = c) ∧ Matches pattern text := by
  -- The first characters are matched with each other, and the rest with the rest.
  constructor
  · intro matched
    generalize whole : c :: text = target at matched
    cases matched with
    | run => exact absurd rfl plain
    | one _ rest => cases whole; exact ⟨.inl rfl, rest⟩
    | same _ rest => cases whole; exact ⟨.inr rfl, rest⟩
  · intro fits
    obtain ⟨alike, rest⟩ := fits
    -- An underscore stands for any character, and the others for themselves.
    by_cases underscore : expected = '_'
    · subst underscore
      exact .one c rest
    · rcases alike with named | rfl
      · exact absurd named underscore
      · exact .same ⟨plain, underscore⟩ rest

/-- A character other than a percent sign matches no empty text. -/
theorem not_matches_nil {expected : Char} {pattern : List Char} (plain : expected ≠ '%') :
    ¬Matches (expected :: pattern) [] := by
  -- Every other character needs one character of the text.
  intro matched
  generalize whole : ([] : List Char) = target at matched
  cases matched with
  | run => exact plain rfl
  | one | same => cases whole

/-- Only percent signs match the empty text. -/
theorem onlyStars_iff (pattern : List Char) : onlyStars pattern = true ↔ Matches pattern [] := by
  -- Each sign stands for nothing, and any other character for too much.
  induction pattern with
  | nil => simp [onlyStars, Matches.empty]
  | cons expected pattern ih =>
    -- A pattern of percent signs only begins with one, and so goes on.
    have step : onlyStars (expected :: pattern) = true ↔
        expected = '%' ∧ onlyStars pattern = true := by
      simp [onlyStars]
    rw [step]
    by_cases star : expected = '%'
    · subst star
      -- The empty text has no end but itself.
      rw [matches_run_iff, ih]
      constructor
      · intro found
        exact ⟨[], List.suffix_rfl, found.2⟩
      · intro found
        obtain ⟨later, within, rest⟩ := found
        rw [List.suffix_nil.mp within] at rest
        exact ⟨rfl, rest⟩
    · simp [star, not_matches_nil star]

/-- What is left to match when matching character by character has come to a stop. -/
def Stop.Completes : Stop → Prop
  | .mismatch => False
  | .textEnd pattern => Matches pattern []
  | .star pattern text => Matches ('%' :: pattern) text

/-- Matching character by character neither finds nor loses a match. -/
theorem completes_advance_iff (pattern text : List Char) :
    (advance pattern text).Completes ↔ Matches pattern text := by
  -- Each step drops one character from the pattern and one from the text.
  induction pattern generalizing text with
  -- A pattern that is used up matches the empty text only.
  | nil =>
    cases text with
    | nil => simp [advance, Stop.Completes]
    | cons c text =>
      simp only [advance, Stop.Completes, false_iff]
      intro matched
      cases matched
  | cons expected pattern ih =>
    cases text with
    | nil => simp [advance, Stop.Completes]
    | cons c text =>
      -- At a percent sign nothing has been lost, and other characters are matched one to one.
      by_cases star : expected = '%'
      · subst star
        simp [advance, Stop.Completes]
      · rw [matches_one_iff star, ← ih text]
        by_cases alike : expected = '_' ∨ expected = c
        · simp [advance, star, alike]
        · simp [advance, star, alike, Stop.Completes]

/-- A pattern that lasts to the end of a text matches nothing shorter than the text. -/
theorem length_le_of_advance_textEnd {pattern text later rest : List Char}
    (stop : advance pattern text = .textEnd rest) (matched : Matches pattern later) :
    text.length ≤ later.length := by
  -- Every character of the text was met by one that stands for exactly one character.
  induction pattern generalizing text later with
  | nil => cases text <;> simp [advance] at stop ⊢
  | cons expected pattern ih =>
    cases text with
    | nil => simp
    | cons c text =>
      simp only [advance] at stop
      split at stop
      · -- A sign stops the advance before the text ends.
        cases stop
      · rename_i plain
        split at stop
        · -- A later part that matches has a character here too.
          cases later with
          | nil => exact absurd matched (not_matches_nil plain)
          | cons d later =>
            have shorter := ih stop ((matches_one_iff plain).mp matched).2
            simpa using shorter
        · cases stop

/-- A match of some later part of the text survives up to the next percent sign. -/
theorem matches_star_of_later {pattern text later rest remaining : List Char}
    (stop : advance pattern text = .star rest remaining) (within : later <:+ text)
    (matched : Matches pattern later) : Matches ('%' :: rest) remaining := by
  -- Matching goes on in step with the later part until the sign is met.
  induction pattern generalizing text later with
  | nil => cases text <;> simp [advance] at stop
  | cons expected pattern ih =>
    cases text with
    | nil => simp [advance] at stop
    | cons c text =>
      simp only [advance] at stop
      split at stop
      · -- At the sign itself, it takes in all that the later match had skipped.
        rename_i star
        cases stop
        subst star
        obtain ⟨last, ends, found⟩ := matches_run_iff.mp matched
        exact matches_run_iff.mpr ⟨last, ends.trans within, found⟩
      · -- Before the sign, a character is met in the text and in the later part.
        rename_i plain
        split at stop
        · cases later with
          | nil => exact absurd matched (not_matches_nil plain)
          | cons d later =>
            -- Both parts lose one character, so one is still an end of the other.
            have tails : later <:+ text := by
              rcases List.suffix_cons_iff.mp within with same | inside
              · exact (List.cons.inj same).2 ▸ List.suffix_rfl
              · exact (List.suffix_cons d later).trans inside
            exact ih stop tails ((matches_one_iff plain).mp matched).2
        · cases stop

theorem afterStar_textEnd {pattern text rest : List Char}
    (stop : advance pattern text = .textEnd rest) : afterStar pattern text = onlyStars rest := by
  -- The text is used up, which is the first case of the recursion.
  rw [afterStar]
  split <;> simp_all

theorem afterStar_star {pattern text rest remaining : List Char}
    (stop : advance pattern text = .star rest remaining) :
    afterStar pattern text = afterStar rest remaining := by
  -- A further sign takes the place of the one before it.
  rw [afterStar]
  split <;> simp_all

theorem afterStar_mismatch {pattern text : List Char} {c : Char}
    (stop : advance pattern (c :: text) = .mismatch) :
    afterStar pattern (c :: text) = afterStar pattern text := by
  -- What follows the sign is tried one character further on.
  rw [afterStar]
  split <;> simp_all

/-- Retreating to the last percent sign alone finds every later part of the text that matches. -/
theorem afterStar_iff (pattern text : List Char) :
    afterStar pattern text = true ↔ Matches ('%' :: pattern) text := by
  rw [matches_run_iff]
  -- The recursion either passes to the next percent sign or drops one character of the text.
  induction pattern, text using afterStar.induct with
  | case1 pattern text rest stop =>
    have whole := completes_advance_iff pattern text
    rw [stop] at whole
    rw [afterStar_textEnd stop, onlyStars_iff]
    constructor
    · exact fun found => ⟨text, List.suffix_rfl, whole.mp found⟩
    · intro found
      obtain ⟨later, within, matched⟩ := found
      -- A later part is no longer than the text and no shorter, so it is the text.
      have long := length_le_of_advance_textEnd stop matched
      rw [within.eq_of_length_le long] at matched
      exact whole.mpr matched
  -- A further percent sign makes up for all that the one before could skip.
  | case2 pattern text rest remaining stop ih =>
    have whole := completes_advance_iff pattern text
    rw [stop] at whole
    rw [afterStar_star stop, ih, ← matches_run_iff]
    constructor
    · exact fun found => ⟨text, List.suffix_rfl, whole.mp found⟩
    · intro found
      obtain ⟨later, within, matched⟩ := found
      exact matches_star_of_later stop within matched
  | case3 pattern stop =>
    -- Matching character by character never fails on an empty text.
    cases pattern <;> simp [advance] at stop
  -- What fails from here can only succeed from some later character on.
  | case4 pattern c later stop ih =>
    have whole := completes_advance_iff pattern (c :: later)
    rw [stop] at whole
    rw [afterStar_mismatch stop, ih]
    constructor
    · intro found
      obtain ⟨last, within, matched⟩ := found
      exact ⟨last, within.trans (List.suffix_cons c later), matched⟩
    · intro found
      obtain ⟨last, within, matched⟩ := found
      -- A later part is the whole text, which was just tried, or lies behind its first character.
      rcases List.suffix_cons_iff.mp within with same | inside
      · subst same
        exact (whole.mpr matched).elim
      · exact ⟨last, inside, matched⟩

/-- A pattern that goes on stands for the texts that begin as its beginning does and end as its
end does. -/
theorem matches_append_iff {first second text : List Char} :
    Matches (first ++ second) text ↔
      ∃ before after, text = before ++ after ∧ Matches first before ∧ Matches second after := by
  -- The text is cut where the beginning of the pattern ends.
  constructor
  · intro matched
    -- What each character of the beginning stands for goes in front of what the others do.
    induction first generalizing text with
    | nil => exact ⟨[], text, rfl, .empty, matched⟩
    | cons expected first ih =>
      cases matched with
      -- The first sign takes a run of the text, and the other characters one of it each.
      | run skipped rest =>
        obtain ⟨before, after, rfl, left, right⟩ := ih rest
        exact ⟨skipped ++ before, after, by simp, .run skipped left, right⟩
      | one c rest =>
        obtain ⟨before, after, rfl, left, right⟩ := ih rest
        exact ⟨c :: before, after, rfl, .one c left, right⟩
      | same plain rest =>
        obtain ⟨before, after, rfl, left, right⟩ := ih rest
        exact ⟨expected :: before, after, rfl, .same plain left, right⟩
  · intro parts
    obtain ⟨before, after, rfl, left, right⟩ := parts
    -- The induction is on how the beginning matches, and the end is left as it is.
    induction left with
    | empty => exact right
    | run skipped _ ih =>
      rw [List.append_assoc]
      exact .run skipped ih
    | one c _ ih => exact .one c ih
    | same plain _ ih => exact .same plain ih

/-- A percent sign alone stands for every text. -/
theorem matches_run (text : List Char) : Matches ['%'] text :=
  -- The sign takes in everything, and nothing is left to match.
  matches_run_iff.mpr ⟨[], List.nil_suffix, .empty⟩

/-- Between two percent signs, a pattern stands for the texts that have a match of it anywhere. -/
theorem matches_wrapped_iff {pattern text : List Char} :
    Matches (['%'] ++ pattern ++ ['%']) text ↔
      ∃ before inside after, text = before ++ inside ++ after ∧ Matches pattern inside := by
  -- The signs stand for what comes before the match and after it.
  simp only [matches_append_iff]
  constructor
  · intro parts
    obtain ⟨_, after, rfl, ⟨before, inside, rfl, -, matched⟩, -⟩ := parts
    exact ⟨before, inside, after, rfl, matched⟩
  · intro parts
    obtain ⟨before, inside, after, rfl, matched⟩ := parts
    exact ⟨before ++ inside, after, rfl, ⟨before, inside, rfl, matches_run before, matched⟩,
      matches_run after⟩

/-- A pattern without wildcards stands for itself alone. -/
theorem matches_plain_iff {pattern text : List Char} (run : '%' ∉ pattern) (one : '_' ∉ pattern) :
    Matches pattern text ↔ text = pattern := by
  -- Without wildcards, pattern and text are compared character by character.
  induction pattern generalizing text with
  -- An empty pattern is matched by the empty text only.
  | nil =>
    cases text with
    | nil => simp [Matches.empty]
    | cons c text =>
      simp only [reduceCtorEq, iff_false]
      intro matched
      cases matched
  | cons expected pattern ih =>
    -- The first character is none of the two signs, so it stands for itself.
    rw [List.mem_cons, not_or] at run one
    cases text with
    | nil => simp [not_matches_nil (Ne.symm run.1)]
    | cons c text =>
      rw [matches_one_iff (Ne.symm run.1), ih run.2 one.2, List.cons.injEq]
      simp [Ne.symm one.1, eq_comm]

/-- The matcher accepts exactly the texts that the pattern stands for. -/
theorem isMatch_iff_matches (text pattern : List Char) :
    isMatch text pattern = true ↔ Matches pattern text := by
  -- Nothing can be retreated to before the first percent sign.
  rw [← completes_advance_iff, isMatch]
  cases advance pattern text with
  | mismatch => simp [Stop.Completes]
  | textEnd rest => exact onlyStars_iff rest
  | star rest remaining => exact afterStar_iff rest remaining

instance (pattern text : List Char) : Decidable (Matches pattern text) :=
  decidable_of_iff _ (isMatch_iff_matches text pattern)

end Criteria.Like

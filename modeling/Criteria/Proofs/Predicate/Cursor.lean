import Criteria.Proofs.Predicate.Like

/-! Matching with wildcards as a loop over places, which never leaves the text or the pattern and
comes to an end with the right answer. -/

namespace Criteria.Like

/-- Where a loop over the characters of a text and a pattern stands. -/
structure Cursor where
  /-- How many characters of the text are behind it. -/
  text : Nat
  /-- How many characters of the pattern are behind it. -/
  pattern : Nat
  /-- The place of the last percent sign met, and the place in the text that what follows the sign
  was last tried from. -/
  retreat : Option (Nat × Nat)
deriving DecidableEq

/-- What one turn of the loop comes to. -/
inductive Turn where
  | goesOn (cursor : Cursor)
  | ends (matched : Bool)
  /-- The rest of the pattern is asked for from a place after its end. -/
  | outOfRange
deriving DecidableEq

/--
One turn of the loop.

Single characters are read only where there are some, but the rest of the pattern is cut off
without looking where it starts.
-/
def turn (text pattern : List Char) (cursor : Cursor) : Turn :=
  match text[cursor.text]? with
  | some c =>
    if pattern[cursor.pattern]? = some '%' then
      .goesOn ⟨cursor.text, cursor.pattern + 1, some (cursor.pattern, cursor.text)⟩
    else if pattern[cursor.pattern]? = some '_' ∨ pattern[cursor.pattern]? = some c then
      .goesOn ⟨cursor.text + 1, cursor.pattern + 1, cursor.retreat⟩
    else
      match cursor.retreat with
      -- What follows the sign is tried again, one character further on.
      | some (star, mark) => .goesOn ⟨mark + 1, star + 1, some (star, mark + 1)⟩
      | none => .ends false
  | none =>
    if cursor.pattern ≤ pattern.length then .ends (onlyStars (pattern.drop cursor.pattern))
    else .outOfRange

/-- The loop ends with an answer after finitely many turns, all of them in range. -/
inductive EndsWith (text pattern : List Char) : Cursor → Bool → Prop where
  | now {cursor : Cursor} {matched : Bool} (last : turn text pattern cursor = .ends matched) :
      EndsWith text pattern cursor matched
  | later {cursor next : Cursor} {matched : Bool}
      (moved : turn text pattern cursor = .goesOn next)
      (rest : EndsWith text pattern next matched) :
      EndsWith text pattern cursor matched

namespace Cursor

/-- The cursor before the first turn. -/
def start : Cursor := ⟨0, 0, none⟩

/-- A cursor lies within the text and the pattern, with the place that it can retreat to behind
it. -/
structure IsPlaced (text pattern : List Char) (cursor : Cursor) : Prop where
  text_le : cursor.text ≤ text.length
  pattern_le : cursor.pattern ≤ pattern.length
  star_lt {star mark : Nat} (kept : cursor.retreat = some (star, mark)) : star < cursor.pattern
  mark_le {star mark : Nat} (kept : cursor.retreat = some (star, mark)) : mark ≤ cursor.text

/-- What matching the rest of the pattern against the rest of the text comes to, with what the
cursor can retreat to. -/
def outcome (text pattern : List Char) (cursor : Cursor) : Bool :=
  match advance (pattern.drop cursor.pattern) (text.drop cursor.text) with
  | .textEnd rest => onlyStars rest
  | .star rest remaining => afterStar rest remaining
  | .mismatch =>
    match cursor.retreat with
    | some (star, mark) => afterStar (pattern.drop (star + 1)) (text.drop (mark + 1))
    | none => false

/-- The places that are still free for a percent sign, for the text tried after it, and in the
text. -/
def free (text pattern : List Char) (cursor : Cursor) : Nat × Nat × Nat :=
  match cursor.retreat with
  | none => (pattern.length + 1, 0, text.length - cursor.text)
  | some (star, mark) => (pattern.length - star, text.length - mark, text.length - cursor.text)

end Cursor

/-- What a turn must come to: the answer of the cursor, or a cursor with the same answer and fewer
free places, and never a place out of range. -/
def Turn.Keeps (text pattern : List Char) (cursor : Cursor) : Turn → Prop
  | .goesOn next =>
    next.IsPlaced text pattern ∧ next.outcome text pattern = cursor.outcome text pattern ∧
      Prod.Lex (· < ·) (Prod.Lex (· < ·) (· < ·)) (next.free text pattern)
        (cursor.free text pattern)
  | .ends matched => matched = cursor.outcome text pattern
  | .outOfRange => False

section Places

variable {text pattern : List Char} {t p : Nat} {c : Char}

/-- From the place of a character on, a text is that character and what comes after it. -/
theorem drop_of_getElem? (read : text[t]? = some c) : text.drop t = c :: text.drop (t + 1) := by
  -- A character is read only where the text has one.
  obtain ⟨within, rfl⟩ := List.getElem?_eq_some_iff.mp read
  exact List.drop_eq_getElem_cons within

/-- Matching stops where the text is used up. -/
theorem advance_drop_end (read : text[t]? = none) :
    advance (pattern.drop p) (text.drop t) = .textEnd (pattern.drop p) := by
  -- Behind the end of the text nothing is left of it, whatever is left of the pattern.
  rw [List.drop_eq_nil_of_le (List.getElem?_eq_none_iff.mp read)]
  cases pattern.drop p <;> rfl

/-- Matching stops at a percent sign if there is text left. -/
theorem advance_drop_star (read : text[t]? = some c) (star : pattern[p]? = some '%') :
    advance (pattern.drop p) (text.drop t) = .star (pattern.drop (p + 1)) (text.drop t) := by
  -- Both the text and the pattern go on, and the pattern goes on with the sign.
  rw [drop_of_getElem? read, drop_of_getElem? star]
  simp [advance]

/-- Matching goes on behind a character that is stood for. -/
theorem advance_drop_alike (read : text[t]? = some c) (plain : pattern[p]? ≠ some '%')
    (alike : pattern[p]? = some '_' ∨ pattern[p]? = some c) :
    advance (pattern.drop p) (text.drop t) =
      advance (pattern.drop (p + 1)) (text.drop (t + 1)) := by
  -- Either way there is a character in the pattern.
  obtain ⟨expected, found⟩ : ∃ expected, pattern[p]? = some expected :=
    alike.elim (fun one => ⟨_, one⟩) fun same => ⟨_, same⟩
  rw [drop_of_getElem? read, drop_of_getElem? found]
  simp only [found, Option.some.injEq, ne_eq] at plain alike
  rw [advance, if_neg plain, if_pos alike]

/-- Matching fails on any other character, and where the pattern is used up before the text. -/
theorem advance_drop_mismatch (read : text[t]? = some c) (plain : pattern[p]? ≠ some '%')
    (other : ¬(pattern[p]? = some '_' ∨ pattern[p]? = some c)) :
    advance (pattern.drop p) (text.drop t) = .mismatch := by
  -- There is text left, so it matters what the pattern goes on with.
  rw [drop_of_getElem? read]
  cases found : pattern[p]? with
  -- A pattern that is used up stands for no more characters.
  | none =>
    rw [List.drop_eq_nil_of_le (List.getElem?_eq_none_iff.mp found)]
    rfl
  -- The next character of the pattern is no wildcard and another one than that of the text.
  | some expected =>
    rw [drop_of_getElem? found]
    simp only [found, Option.some.injEq, ne_eq] at plain other
    rw [advance, if_neg plain, if_neg other]

end Places

namespace Cursor

variable {text pattern : List Char} {cursor : Cursor}

/-- Right after a retreat, what follows the sign is matched against all that is left of the text. -/
theorem outcome_retreated (text pattern : List Char) (star mark : Nat) :
    outcome text pattern ⟨mark, star + 1, some (star, mark)⟩ =
      afterStar (pattern.drop (star + 1)) (text.drop mark) := by
  -- Matching after the sign comes to a stop, and the three kinds of stop are told apart.
  unfold outcome
  cases stop : advance (pattern.drop (star + 1)) (text.drop mark) with
  -- At the end of the text or at a further sign, both sides go on from there.
  | textEnd rest => exact (afterStar_textEnd stop).symm
  | star rest remaining => exact (afterStar_star stop).symm
  | mismatch =>
    -- Matching never fails where the text is used up, so there is a character to go on behind.
    cases read : text[mark]? with
    | none =>
      rw [advance_drop_end read] at stop
      cases stop
    | some c =>
      rw [drop_of_getElem? read] at stop ⊢
      exact (afterStar_mismatch stop).symm

/-- At a percent sign, the sign becomes the place to retreat to, behind the one before. -/
theorem IsPlaced.keeps_star {t p : Nat} {retreat : Option (Nat × Nat)} {c : Char}
    (placed : IsPlaced text pattern ⟨t, p, retreat⟩) (read : text[t]? = some c)
    (star : pattern[p]? = some '%') :
    Turn.Keeps text pattern ⟨t, p, retreat⟩ (.goesOn ⟨t, p + 1, some (p, t)⟩) := by
  -- The sign itself lies within the pattern, so the cursor behind it does as well.
  have within : p < pattern.length := (List.getElem?_eq_some_iff.mp star).1
  refine ⟨⟨placed.text_le, within, ?_, ?_⟩, ?_, ?_⟩
  · rintro _ _ ⟨⟩
    exact Nat.lt_succ_self p
  · rintro _ _ ⟨⟩
    exact Nat.le_refl t
  · -- What the sign stands for is tried from where the text is now, and that is the answer here.
    rw [outcome_retreated, outcome]
    simp only [advance_drop_star read star]
  · -- No sign was met before, or one behind this one.
    apply Prod.Lex.left
    cases retreat with
    | none =>
      simp only
      omega
    | some kept =>
      have behind : kept.1 < p := placed.star_lt rfl
      simp only
      omega

/-- At a character that is stood for, one character of the text and one of the pattern are left
behind. -/
theorem IsPlaced.keeps_alike {t p : Nat} {retreat : Option (Nat × Nat)} {c : Char}
    (placed : IsPlaced text pattern ⟨t, p, retreat⟩) (read : text[t]? = some c)
    (plain : pattern[p]? ≠ some '%') (alike : pattern[p]? = some '_' ∨ pattern[p]? = some c) :
    Turn.Keeps text pattern ⟨t, p, retreat⟩ (.goesOn ⟨t + 1, p + 1, retreat⟩) := by
  -- Both characters were read, so there is a place behind each of them.
  have left : t < text.length := (List.getElem?_eq_some_iff.mp read).1
  have within : p < pattern.length := by
    rcases alike with one | same
    · exact (List.getElem?_eq_some_iff.mp one).1
    · exact (List.getElem?_eq_some_iff.mp same).1
  refine ⟨⟨left, within, ?_, ?_⟩, ?_, ?_⟩
  · exact fun kept => Nat.lt_succ_of_lt (placed.star_lt kept)
  · exact fun kept => Nat.le_succ_of_le (placed.mark_le kept)
  · -- Matching goes on behind both characters.
    simp only [outcome, advance_drop_alike read plain alike]
  · -- The place to retreat to stays, and less is left of the text.
    have fewer : text.length - (t + 1) < text.length - t := by omega
    cases retreat <;> exact Prod.Lex.right _ (Prod.Lex.right _ fewer)

/-- At any other character, the sign to retreat to stays where it is, and the text tried after it
starts one character further on. -/
theorem IsPlaced.keeps_retreat {t p star mark : Nat} {c : Char}
    (placed : IsPlaced text pattern ⟨t, p, some (star, mark)⟩) (read : text[t]? = some c)
    (stop : advance (pattern.drop p) (text.drop t) = .mismatch) :
    Turn.Keeps text pattern ⟨t, p, some (star, mark)⟩
      (.goesOn ⟨mark + 1, star + 1, some (star, mark + 1)⟩) := by
  -- The text tried after the sign began no later than the cursor, so it can begin one further on.
  have left : t < text.length := (List.getElem?_eq_some_iff.mp read).1
  have before : mark ≤ t := placed.mark_le rfl
  have behind : star < p := placed.star_lt rfl
  have within : p ≤ pattern.length := placed.pattern_le
  refine ⟨⟨Nat.lt_of_le_of_lt before left, Nat.lt_of_lt_of_le behind within, ?_, ?_⟩, ?_, ?_⟩
  · rintro _ _ ⟨⟩
    exact Nat.lt_succ_self star
  · rintro _ _ ⟨⟩
    exact Nat.le_refl (mark + 1)
  · -- The answer after a mismatch is that of the retreat.
    rw [outcome_retreated, outcome]
    simp only [stop]
  · -- The sign stays, and fewer places are left to try what follows it from.
    refine Prod.Lex.right _ (Prod.Lex.left _ _ ?_)
    omega

/-- One turn from a cursor in its place keeps the answer and uses up a place, or gives the
answer. -/
theorem IsPlaced.turn_keeps (placed : cursor.IsPlaced text pattern) :
    (turn text pattern cursor).Keeps text pattern cursor := by
  -- The cases are those of the turn itself.
  obtain ⟨t, p, retreat⟩ := cursor
  unfold turn
  cases read : text[t]? with
  | none =>
    -- The text is used up, and the rest of the pattern starts within the pattern.
    simp only [if_pos placed.pattern_le, Turn.Keeps, outcome, advance_drop_end read]
  | some c =>
    -- A percent sign is remembered, a character that is stood for is passed, and any other one
    -- leads back.
    dsimp only
    split
    · rename_i star
      exact placed.keeps_star read star
    · rename_i plain
      split
      · rename_i alike
        exact placed.keeps_alike read plain alike
      · rename_i other
        have stop := advance_drop_mismatch read plain other
        cases retreat with
        -- Without a sign to retreat to, the mismatch is the answer.
        | none => simp only [Turn.Keeps, outcome, stop]
        | some kept => exact placed.keeps_retreat read stop

/-- From a cursor in its place, the loop ends with the answer of the cursor. -/
theorem IsPlaced.endsWith_outcome {text pattern : List Char} {cursor : Cursor}
    (placed : cursor.IsPlaced text pattern) :
    EndsWith text pattern cursor (cursor.outcome text pattern) := by
  -- Each turn that goes on leaves fewer free places.
  have kept := placed.turn_keeps
  cases moved : turn text pattern cursor with
  | ends matched =>
    rw [moved] at kept
    exact .now (moved.trans (congrArg Turn.ends kept))
  -- No turn from a cursor in its place leaves the pattern.
  | outOfRange =>
    rw [moved] at kept
    exact kept.elim
  | goesOn next =>
    rw [moved] at kept
    obtain ⟨nextPlaced, same, less⟩ := kept
    exact .later moved (same ▸ nextPlaced.endsWith_outcome)
termination_by cursor.free text pattern
decreasing_by exact less

/-- The first cursor is in its place. -/
theorem isPlaced_start (text pattern : List Char) : start.IsPlaced text pattern where
  -- Nothing is behind the first cursor, and it has nothing to retreat to.
  text_le := Nat.zero_le _
  pattern_le := Nat.zero_le _
  star_lt kept := by cases kept
  mark_le kept := by cases kept

/-- The answer of the first cursor is the one of the matcher. -/
theorem outcome_start (text pattern : List Char) :
    start.outcome text pattern = isMatch text pattern := by
  -- At the start, everything is still to be matched and there is no sign to retreat to.
  rfl

end Cursor

/-- The loop ends in one way only. -/
theorem EndsWith.unique {text pattern : List Char} {cursor : Cursor} {matched other : Bool}
    (one : EndsWith text pattern cursor matched) (two : EndsWith text pattern cursor other) :
    matched = other := by
  -- The turns of both runs are the same, one after the other.
  induction one with
  -- A turn that gives the answer does not go on.
  | now last =>
    cases two with
    | now last' => exact Turn.ends.inj (last.symm.trans last')
    | later moved => cases last.symm.trans moved
  -- A turn that goes on has one cursor to go on with.
  | later moved _ ih =>
    cases two with
    | now last => cases moved.symm.trans last
    | later moved' rest =>
      cases moved.symm.trans moved'
      exact ih rest

/-- A pattern matches a text exactly as it stands for it, and the loop over places that keeps only
the last percent sign to retreat to always ends, without leaving the text or the pattern, with that
answer. -/
theorem isMatch_exact (text pattern : String) :
    (isMatch text.toList pattern.toList = true ↔ Matches pattern.toList text.toList) ∧
      ∀ matched, EndsWith text.toList pattern.toList .start matched ↔
        matched = isMatch text.toList pattern.toList := by
  -- The cursor at the start has the answer of the matcher, and the loop ends with it.
  refine ⟨isMatch_iff_matches _ _, fun matched => ?_⟩
  have ends := (Cursor.isPlaced_start text.toList pattern.toList).endsWith_outcome
  rw [Cursor.outcome_start] at ends
  constructor
  · exact fun found => found.unique ends
  · rintro rfl
    exact ends

end Criteria.Like

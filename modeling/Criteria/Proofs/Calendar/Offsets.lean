import Criteria.Proofs.Calendar.Reading
import Criteria.Proofs.Text.Numeral

/-! Offsets as texts: what the two readers of them take, and which texts only the loose one takes. -/

namespace Criteria

open Numeral (IsRun value)

/-- An offset is the one of a number of seconds exactly if it has as many. -/
theorem Offset.of?_eq_some_iff {seconds : Int} {offset : Offset} :
    Offset.of? seconds = some offset ↔ offset.seconds = seconds := by
  -- Only the seconds tell offsets apart, and the bounds of an offset are those that are asked for.
  unfold of?
  rw [Option.dite_none_right_eq_some]
  constructor
  · rintro ⟨_, same⟩
    cases same
    rfl
  · rintro rfl
    exact ⟨⟨offset.above, offset.below⟩, rfl⟩

/-- The seconds of the whole minute that is nearest to an offset, half a minute counting as one more
away from zero. -/
def Offset.nearestMinute (offset : Offset) : Int :=
  if offset.seconds < 0 then -((offset.seconds.natAbs + 30) / 60 * 60 : Nat)
  else ((offset.seconds.natAbs + 30) / 60 * 60 : Nat)

namespace TextReader

/-- A field of full width is read exactly if a run of as many digits stands first. -/
theorem fixed_eq_some_iff {width number : Nat} {text rest : List Char} :
    fixed width text = some (number, rest) ↔
      ∃ run, IsRun width run ∧ text = run ++ rest ∧ value run = number := by
  -- The reader takes the digits in front, as many as the width at most.
  constructor
  · -- What it has taken is the run, if that is of full width.
    intro reads
    obtain ⟨same, isDigit⟩ := Numeral.leading_spec width text
    simp only [fixed, Option.ite_none_right_eq_some, Option.some_inj, Prod.mk.injEq] at reads
    obtain ⟨length, rfl, rfl⟩ := reads
    exact ⟨_, ⟨length, isDigit⟩, same.symm, rfl⟩
  · -- No more digits are counted than the run has.
    rintro ⟨run, isRun, rfl, rfl⟩
    rw [fixed, Numeral.leading_append isRun.isDigit (.inl isRun.length_eq)]
    simp only
    rw [if_pos isRun.length_eq]

/-- A character is read exactly if it stands first. -/
theorem literal_eq_some_iff {expected : Char} {text rest : List Char} {found : Unit} :
    literal expected text = some (found, rest) ↔ text = expected :: rest := by
  cases text with
  | nil => exact iff_of_false nofun nofun
  -- Only the first character is looked at.
  | cons c text => simp [literal]

/-- A reader uses up a text exactly if it leaves nothing of it. -/
theorem whole_eq_some_iff {α : Type} {reader : TextReader α} {text : List Char} {found : α} :
    reader.whole text = some found ↔ reader text = some (found, []) := by
  -- Of all that a reader may leave, only nothing counts.
  unfold whole
  split
  · rename_i reads
    rw [reads]
    simp
  · rename_i other
    refine iff_of_false nofun fun reads => ?_
    exact other _ reads

/-- The character that a sign of an offset is. -/
def offsetMark (negative : Bool) : Char :=
  if negative then '-' else '+'

/-- Whether a character may stand between the hours and the minutes of an offset. -/
def isOffsetGap (c : Char) : Bool :=
  c = ':' || isBlank c

/-- A digit is no gap. -/
theorem isOffsetGap_of_isDigit {c : Char} (isDigit : c.isDigit = true) : isOffsetGap c = false := by
  -- A digit is no blank, and it is no colon either.
  rw [isOffsetGap, isBlank_of_isDigit isDigit, Bool.or_false, decide_eq_false_iff_not]
  rintro rfl
  cases isDigit

/-- An offset of hours and minutes is one of less than a day. -/
theorem signedOffset?_eq_some_iff {negative : Bool} {hours minutes : Nat} {offset : Offset} :
    signedOffset? negative hours minutes = some offset ↔
      minutes < 60 ∧
        offset.seconds = if negative then -((hours * 3600 + minutes * 60 : Nat) : Int)
          else (hours * 3600 + minutes * 60 : Nat) := by
  -- Minutes are counted up to 59, and the offset has to be shorter than a day.
  simp only [signedOffset?, Option.ite_none_right_eq_some, Offset.of?_eq_some_iff]

/-- There is an offset of hours and minutes exactly if the hours are less than a day. -/
theorem exists_signedOffset?_iff {negative : Bool} {hours minutes : Nat} :
    (∃ offset, signedOffset? negative hours minutes = some offset) ↔ hours < 24 ∧ minutes < 60 := by
  -- An offset has fewer seconds than a day, and 24 hours are a day.
  simp only [signedOffset?_eq_some_iff]
  constructor
  · rintro ⟨offset, few, same⟩
    have above := offset.above
    have below := offset.below
    rw [secondsPerDay] at above below
    split at same <;> omega
  · -- Less than a day of hours and minutes are in the bounds of an offset, with either sign.
    rintro ⟨day, few⟩
    refine ⟨⟨if negative then -((hours * 3600 + minutes * 60 : Nat) : Int)
      else (hours * 3600 + minutes * 60 : Nat), ?_, ?_⟩, few, rfl⟩ <;>
      rw [secondsPerDay] <;> split <;> omega

variable {negative : Bool} {text : List Char} {offset : Offset}

/-- Behind a sign, the strict reader takes two digits, a colon and two digits. -/
theorem strictOffset_mark_eq_some_iff :
    strictOffset.whole (offsetMark negative :: text) = some offset ↔
      ∃ hours minutes, IsRun 2 hours ∧ IsRun 2 minutes ∧ text = hours ++ ':' :: minutes ∧
        signedOffset? negative (value hours) (value minutes) = some offset := by
  -- A sign is not the letter for universal time, so each field is read in turn.
  have sign : offsetSign (offsetMark negative :: text) = some (negative, text) := by
    cases negative <;> rfl
  have notZulu : ¬(offsetMark negative = 'Z' ∨ offsetMark negative = 'z') := by
    cases negative <;> decide
  rw [whole_eq_some_iff, strictOffset, if_neg notZulu, sign]
  simp only [Option.bind_eq_bind, Option.bind_some, Option.bind_eq_some_iff, Prod.exists,
    fixed_eq_some_iff, literal_eq_some_iff, Option.some_inj, Prod.mk.injEq]
  constructor
  · -- The runs that the two fields were read from are the hours and the minutes.
    rintro ⟨_, _, ⟨hours, isHours, rfl, rfl⟩, _, _, rfl, _, _, ⟨minutes, isMinutes, rfl, rfl⟩, _,
      given, rfl, rfl⟩
    rw [List.append_nil]
    exact ⟨hours, minutes, isHours, isMinutes, rfl, given⟩
  · -- Two runs with a colon between them are read as the two fields.
    rintro ⟨hours, minutes, isHours, isMinutes, rfl, given⟩
    exact ⟨_, _, ⟨hours, isHours, rfl, rfl⟩, (), _, rfl, _, _,
      ⟨minutes, isMinutes, (List.append_nil minutes).symm, rfl⟩, _, given, rfl, rfl⟩

/-- Hours and minutes that are written with two digits each are read back. -/
theorem strictOffset_padded {hours minutes : Nat} (hoursFit : hours < 100)
    (minutesFit : minutes < 100) :
    strictOffset.whole (offsetMark negative ::
      (Numeral.padded 2 hours ++ ':' :: Numeral.padded 2 minutes)) =
      signedOffset? negative hours minutes := by
  -- Both are runs of two digits, and the reader takes the text apart in one way.
  have isHours := @Numeral.isRun_padded 2 hours (by decide) hoursFit
  have isMinutes := @Numeral.isRun_padded 2 minutes (by decide) minutesFit
  refine Option.ext fun offset => strictOffset_mark_eq_some_iff.trans ⟨?_, fun given => ?_⟩
  · -- Two digits are the hours, whatever the text is taken apart into.
    rintro ⟨first, second, isFirst, -, same, given⟩
    obtain ⟨rfl, others⟩ := List.append_inj same (isHours.length_eq.trans isFirst.length_eq.symm)
    cases others
    rwa [Numeral.value_padded, Numeral.value_padded] at given
  · -- The reader takes the two runs for what they are the numerals of.
    refine ⟨_, _, isHours, isMinutes, rfl, ?_⟩
    rwa [Numeral.value_padded, Numeral.value_padded]

/-- An offset is read back as the whole minute nearest to it, if that is less than a day. -/
theorem strictOffset_write (offset : Offset) :
    strictOffset.whole offset.write = Offset.of? offset.nearestMinute := by
  -- An offset is written as its sign with the hours and minutes of its nearest minute.
  have above := offset.above
  have below := offset.below
  rw [secondsPerDay] at above below
  have written : offset.write = offsetMark (decide (offset.seconds < 0)) ::
      (Numeral.padded 2 ((offset.seconds.natAbs + 30) / 60 / 60) ++
        ':' :: Numeral.padded 2 ((offset.seconds.natAbs + 30) / 60 % 60)) := by
    simp [Offset.write, offsetMark]
  -- The minutes that are written have at most a day of hours in them.
  rw [written, strictOffset_padded (by omega) (by omega), signedOffset?, if_pos (by omega),
    Offset.nearestMinute]
  have same (minutes : Nat) : minutes / 60 * 3600 + minutes % 60 * 60 = minutes * 60 := by omega
  simp only [same, decide_eq_true_eq]

/-- The offset of a sign and hours, with the minutes that the text ends with, if it has any. -/
def endingMinutes? (negative : Bool) (hours : Nat) (text : List Char) : Option Offset :=
  if text.isEmpty then signedOffset? negative hours 0
  else do
    let (minutes, text) ← fixed 2 text
    if text.isEmpty then signedOffset? negative hours minutes else none

/-- The minutes that end an offset are two digits, or there are none. -/
theorem endingMinutes?_eq_some_iff {hours : Nat} :
    endingMinutes? negative hours text = some offset ↔
      (text = [] ∨ IsRun 2 text) ∧ signedOffset? negative hours (value text) = some offset := by
  -- Nothing counts as no minutes, and anything else has to be a field of two digits.
  cases text with
  | nil => exact (and_iff_right (.inl rfl)).symm
  | cons c rest =>
    rw [endingMinutes?, List.isEmpty_cons, if_neg Bool.false_ne_true]
    simp only [Option.bind_eq_bind, Option.bind_eq_some_iff, Prod.exists, fixed_eq_some_iff,
      Option.ite_none_right_eq_some, List.isEmpty_iff]
    constructor
    · -- The field is all of the text.
      rintro ⟨_, _, ⟨run, isRun, same, rfl⟩, rfl, given⟩
      rw [List.append_nil] at same
      rw [same]
      exact ⟨.inr isRun, given⟩
    · rintro ⟨empty | isRun, given⟩
      · -- There is some text in this case.
        cases empty
      · exact ⟨_, [], ⟨_, isRun, (List.append_nil _).symm, rfl⟩, rfl, given⟩

/-- No minutes begin like a gap. -/
theorem stops_isOffsetGap {minutes : List Char} (isMinutes : minutes = [] ∨ IsRun 2 minutes) :
    Stops isOffsetGap minutes := by
  -- If there are minutes, they begin with a digit.
  intro c first
  rcases isMinutes with rfl | isRun
  · cases first
  · exact isOffsetGap_of_isDigit (isRun.isDigit c (List.mem_of_mem_head? first))

/-- A text splits into a gap and minutes in one way. -/
theorem gap_append_inj {gap minutes gap' minutes' : List Char}
    (isGap : ∀ c ∈ gap, isOffsetGap c = true) (isMinutes : minutes = [] ∨ IsRun 2 minutes)
    (isGap' : ∀ c ∈ gap', isOffsetGap c = true) (isMinutes' : minutes' = [] ∨ IsRun 2 minutes')
    (same : gap ++ minutes = gap' ++ minutes') : gap = gap' ∧ minutes = minutes' := by
  -- The gap is as much of the text as may be part of one.
  have gaps : gap = gap' := by
    rw [← takeWhile_append_of_stops isGap (stops_isOffsetGap isMinutes), same,
      takeWhile_append_of_stops isGap' (stops_isOffsetGap isMinutes')]
  rw [gaps] at same
  exact ⟨gaps, List.append_cancel_left same⟩

/-- Behind a sign, the loose reader drops any gap between the hours and the minutes. -/
theorem looseOffset_mark :
    looseOffset (offsetMark negative :: text) = (do
      let (hours, after) ← fixed 2 text
      endingMinutes? negative hours (after.dropWhile isOffsetGap)) := by
  -- Both signs are read as such, and neither of them is blank.
  cases negative <;> rfl

/-- Behind a sign, the loose reader takes two digits, any gap and at most two digits more. -/
theorem looseOffset_mark_eq_some_iff :
    looseOffset (offsetMark negative :: text) = some offset ↔
      ∃ hours gap minutes, IsRun 2 hours ∧ (∀ c ∈ gap, isOffsetGap c = true) ∧
        (minutes = [] ∨ IsRun 2 minutes) ∧ text = hours ++ (gap ++ minutes) ∧
        signedOffset? negative (value hours) (value minutes) = some offset := by
  -- The gap is all that is dropped behind the hours.
  simp only [looseOffset_mark, Option.bind_eq_bind, Option.bind_eq_some_iff, Prod.exists,
    fixed_eq_some_iff, endingMinutes?_eq_some_iff]
  constructor
  · rintro ⟨_, after, ⟨hours, isHours, rfl, rfl⟩, isMinutes, given⟩
    -- Behind the hours, the text splits where its gap ends.
    exact ⟨hours, after.takeWhile isOffsetGap, _, isHours, fun c => List.mem_takeWhile_imp,
      isMinutes, by rw [List.takeWhile_append_dropWhile], given⟩
  · -- No part of the minutes is dropped with the gap.
    rintro ⟨hours, gap, minutes, isHours, isGap, isMinutes, rfl, given⟩
    refine ⟨_, _, ⟨hours, isHours, rfl, rfl⟩, ?_⟩
    rw [dropWhile_append_of_stops isGap (stops_isOffsetGap isMinutes)]
    exact ⟨isMinutes, given⟩

/-- Whether a text is an offset that only the loose reader takes: a sign and hours, and then neither
a colon with minutes nor anything but a gap and at most minutes. -/
def IsLooseOffset (text : List Char) : Prop :=
  ∃ negative hours gap minutes, text = offsetMark negative :: (hours ++ (gap ++ minutes)) ∧
    IsRun 2 hours ∧ value hours < 24 ∧ (∀ c ∈ gap, isOffsetGap c = true) ∧
    (minutes = [] ∨ IsRun 2 minutes ∧ value minutes < 60 ∧ gap ≠ [':'])

/-- Whether a text begins like an offset, with a sign or the letter for universal time. -/
def BeginsOffset (text : List Char) : Prop :=
  ∃ c rest, text = c :: rest ∧ (c = '+' ∨ c = '-' ∨ c = 'Z')

/-- A text that begins like an offset has a sign, or is taken alike by both readers. -/
theorem BeginsOffset.cases (begins : BeginsOffset text) :
    (∃ negative rest, text = offsetMark negative :: rest) ∨
      looseOffset text = strictOffset.whole text := by
  -- Only signs and the letter begin an offset.
  obtain ⟨c, rest, rfl, rfl | rfl | rfl⟩ := begins
  · exact .inl ⟨false, rest, rfl⟩
  · exact .inl ⟨true, rest, rfl⟩
  · -- Nothing may follow the letter.
    refine .inr ?_
    cases rest <;> rfl

/-- What the strict reader takes is the same offset to the loose one. -/
theorem looseOffset_of_strictOffset (begins : BeginsOffset text)
    (strict : strictOffset.whole text = some offset) : looseOffset text = some offset := by
  -- An offset begins with a sign, which both readers take alike, or with the letter.
  obtain ⟨negative, rest, rfl⟩ | same := begins.cases
  · -- A colon is a gap.
    obtain ⟨hours, minutes, isHours, isMinutes, rfl, given⟩ :=
      strictOffset_mark_eq_some_iff.mp strict
    exact looseOffset_mark_eq_some_iff.mpr ⟨hours, [':'], minutes, isHours, by simp [isOffsetGap],
      .inr isMinutes, rfl, given⟩
  · exact same.trans strict

/-- What only the loose reader takes is an offset to it, and none to the strict one. -/
theorem IsLooseOffset.apart (loose : IsLooseOffset text) :
    (∃ offset, looseOffset text = some offset) ∧ strictOffset.whole text = none := by
  -- The digits are those that both readers look for, but only the loose one takes any gap.
  obtain ⟨negative, hours, gap, minutes, rfl, isHours, day, isGap, isMinutes⟩ := loose
  have isMinutes' : minutes = [] ∨ IsRun 2 minutes := isMinutes.imp_right And.left
  constructor
  · -- No minutes count as none.
    have few : value minutes < 60 := by
      rcases isMinutes with rfl | ⟨-, few, -⟩
      · decide
      · exact few
    obtain ⟨offset, given⟩ := (@exists_signedOffset?_iff negative _ _).mpr ⟨day, few⟩
    exact ⟨offset, looseOffset_mark_eq_some_iff.mpr
      ⟨hours, gap, minutes, isHours, isGap, isMinutes', rfl, given⟩⟩
  · -- An offset that the strict reader takes is a run of hours, a colon and a run of minutes.
    refine Option.eq_none_iff_forall_ne_some.mpr fun offset strict => ?_
    obtain ⟨hours', minutes', isHours', isRun, same, -⟩ := strictOffset_mark_eq_some_iff.mp strict
    -- The strict reader would take the same hours, and then a colon for the gap.
    obtain ⟨-, same⟩ := List.append_inj same (isHours.length_eq.trans isHours'.length_eq.symm)
    have colon : ∀ c ∈ [':'], isOffsetGap c = true := by simp [isOffsetGap]
    obtain ⟨rfl, rfl⟩ := gap_append_inj isGap isMinutes' colon (.inr isRun) same
    rcases isMinutes with rfl | ⟨-, -, other⟩
    · cases isRun.length_eq
    · exact other rfl

/-- The two readers differ exactly on the offsets that only the loose one takes. -/
theorem looseOffset_eq_strictOffset_iff (begins : BeginsOffset text) :
    looseOffset text = strictOffset.whole text ↔ ¬IsLooseOffset text := by
  -- What the strict reader takes is never a loose offset, and all else that the loose one takes is.
  constructor
  · -- One reader gives an offset to it, and the other one does not.
    intro same isLoose
    obtain ⟨⟨offset, loose⟩, strict⟩ := isLoose.apart
    rw [loose, strict] at same
    cases same
  · -- What the loose reader takes has a gap, and in these texts it can only be a colon.
    intro notLoose
    obtain ⟨negative, rest, rfl⟩ | same := begins.cases
    · refine Option.ext fun offset => ⟨fun loose => ?_, looseOffset_of_strictOffset begins⟩
      obtain ⟨hours, gap, minutes, isHours, isGap, isMinutes, rfl, given⟩ :=
        looseOffset_mark_eq_some_iff.mp loose
      obtain ⟨day, few⟩ := exists_signedOffset?_iff.mp ⟨offset, given⟩
      -- Of all gaps, a colon before minutes is the one that the strict reader takes.
      have strict : IsRun 2 minutes ∧ gap = [':'] := by
        by_contra other
        refine notLoose ⟨negative, hours, gap, minutes, rfl, isHours, day, isGap, ?_⟩
        rcases isMinutes with rfl | isRun
        · exact .inl rfl
        · exact .inr ⟨isRun, few, fun colon => other ⟨isRun, colon⟩⟩
      obtain ⟨isRun, rfl⟩ := strict
      exact strictOffset_mark_eq_some_iff.mpr ⟨hours, minutes, isHours, isRun, rfl, given⟩
    · -- Behind the letter for universal time, both readers agree.
      exact same

end TextReader

end Criteria

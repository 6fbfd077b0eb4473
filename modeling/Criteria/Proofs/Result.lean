import Mathlib.Data.List.Forall2

/-! Results of steps that may fail: when they succeed, which fault comes first, and which agree. -/

namespace Criteria

variable {ε ε' α β γ α' β' : Type}

section Successes

/-- Two steps succeed exactly when the first does and the second does on what the first gave. -/
theorem bind_eq_ok_iff {result : Except ε α} {next : α → Except ε β} {value : β} :
    result >>= next = .ok value ↔ ∃ middle, result = .ok middle ∧ next middle = .ok value := by
  -- A step that fails hides the one after it.
  cases result <;> simp [Bind.bind, Except.bind]

/-- A step after a check succeeds exactly when the check passes and the step succeeds. -/
theorem check_bind_eq_ok_iff {result : Except ε Unit} {next : Except ε α} {value : α} :
    (result >>= fun _ => next) = .ok value ↔ result = .ok () ∧ next = .ok value := by
  cases result <;> simp [Bind.bind, Except.bind]

/-- A step behind a test succeeds exactly when the test is passed and the step succeeds. -/
theorem test_eq_ok_iff {passed : Bool} {fault : ε} {result : Except ε α} {value : α} :
    (if !passed then .error fault else result) = .ok value ↔
      passed = true ∧ result = .ok value := by
  cases passed <;> simp

/-- A translated result is a success exactly when it is translated from one. -/
theorem map_eq_ok_iff {result : Except ε α} {translate : α → β} {value : β} :
    result.map translate = .ok value ↔
      ∃ source, result = .ok source ∧ translate source = value := by
  cases result <;> simp [Except.map]

/-- Translating errors leaves successes as they are. -/
theorem mapError_eq_ok_iff {result : Except ε α} {translate : ε → ε'} {value : α} :
    result.mapError translate = .ok value ↔ result = .ok value := by
  cases result <;> simp [Except.mapError]

/-- One step for each value of a list succeeds exactly when each of them does. -/
theorem mapM_eq_ok_iff {step : α → Except ε β} {values : List α} {images : List β} :
    values.mapM step = .ok images ↔
      List.Forall₂ (fun value image => step value = .ok image) values images := by
  -- The first image and the rest are found independently of each other.
  induction values generalizing images with
  | nil => simp [List.forall₂_nil_left_iff, Pure.pure, Except.pure, eq_comm]
  | cons value rest ih =>
    rw [List.mapM_cons, List.forall₂_cons_left_iff]
    simp only [bind_eq_ok_iff, ih, Pure.pure, Except.pure, Except.ok.injEq]
    constructor
    · intro succeeded
      obtain ⟨image, first, others, each, same⟩ := succeeded
      exact ⟨image, others, first, each, same.symm⟩
    · intro succeeded
      obtain ⟨image, others, first, each, same⟩ := succeeded
      exact ⟨image, first, others, each, same.symm⟩

/-- One step for each value of a list gives images exactly when each of them gives one. -/
theorem mapM_eq_some_iff {step : α → Option β} {values : List α} {images : List β} :
    values.mapM step = some images ↔
      List.Forall₂ (fun value image => step value = some image) values images := by
  -- As with faults, the first image and the rest are found independently of each other.
  induction values generalizing images with
  | nil => simp [List.forall₂_nil_left_iff, eq_comm]
  | cons value rest ih =>
    rw [List.mapM_cons, List.forall₂_cons_left_iff]
    simp only [Option.bind_eq_bind, Option.bind_eq_some_iff, ih, Option.pure_def,
      Option.some.injEq]
    constructor
    · intro succeeded
      obtain ⟨image, first, others, each, same⟩ := succeeded
      exact ⟨image, others, first, each, same.symm⟩
    · intro succeeded
      obtain ⟨image, others, first, each, same⟩ := succeeded
      exact ⟨image, first, others, each, same.symm⟩

/-- What follows for a value and its image may use that the value is one of the list. -/
theorem forall₂_imp_of_mem {related related' : α → β → Prop} {values : List α} {images : List β}
    (each : List.Forall₂ related values images)
    (step : ∀ value ∈ values, ∀ image, related value image → related' value image) :
    List.Forall₂ related' values images := by
  -- That a value is in the list is paired with what relates it to its image.
  have members := (List.forall₂_and_left values images).mpr ⟨fun _ => id, each⟩
  exact members.imp fun value image both => step value both.1 image both.2

/-- If each value can be changed into one with an image of its own, so can a list, and the images are
the same as before exactly if each of them is. -/
theorem exists_forall₂_map {related : α → β → Prop} {related' : α' → β → Prop} {change : α → α'}
    {kept : α → Prop} {values : List α} {images : List β}
    (each : List.Forall₂ related values images)
    (step : ∀ value ∈ values, ∀ image, related value image →
      ∃ again, related' (change value) again ∧ (again = image ↔ kept value)) :
    ∃ again, List.Forall₂ related' (values.map change) again ∧
      (again = images ↔ ∀ value ∈ values, kept value) := by
  -- The induction is on the pairs, and the new images are put together in the same order.
  induction each with
  | nil => exact ⟨[], .nil, by simp⟩
  | cons first _ ih =>
    obtain ⟨again, changed, same⟩ := step _ List.mem_cons_self _ first
    obtain ⟨others, changedRest, sameRest⟩ :=
      ih fun value member => step value (List.mem_cons_of_mem _ member)
    refine ⟨again :: others, .cons changed changedRest, ?_⟩
    rw [List.cons.injEq, List.forall_mem_cons, same, sameRest]

/-- What each value with an image has, every value of the list has. -/
theorem forall_mem_of_forall₂_left {property : α → Prop} {values : List α} {images : List β}
    (each : List.Forall₂ (fun value _ => property value) values images) :
    ∀ value ∈ values, property value := by
  -- The images are of no importance, and each value has one.
  induction each with
  | nil => simp
  | cons first _ ih => exact List.forall_mem_cons.mpr ⟨first, ih⟩

/-- What each image of a value has, every image has. -/
theorem forall_mem_of_forall₂_right {property : β → Prop} {values : List α} {images : List β}
    (each : List.Forall₂ (fun _ image => property image) values images) :
    ∀ image ∈ images, property image :=
  -- Seen from the other side, the images are the values.
  forall_mem_of_forall₂_left each.flip

end Successes

/-- A result is a success if there are no faults, and else the first of the faults. -/
def Reports (result : Except ε α) (faults : List ε) : Prop :=
  match result with
  | .ok _ => faults = []
  | .error fault => faults.head? = some fault

namespace Reports

variable {result : Except ε α} {faults later : List ε}

/-- A result that reports faults fails exactly with the first of them. -/
theorem eq_error_iff (reports : Reports result faults) (fault : ε) :
    result = .error fault ↔ faults.head? = some fault := by
  -- A list of faults that has a first one is not empty, so it reports no success.
  cases result with
  | ok value =>
    have none : faults = [] := reports
    simp [none]
  | error found =>
    have first : faults.head? = some found := reports
    simp [first]

/-- A result that reports faults succeeds exactly if there are none. -/
theorem exists_ok_iff (reports : Reports result faults) :
    (∃ value, result = .ok value) ↔ faults = [] := by
  -- A success has no faults to report, and a failure has a first one.
  cases result with
  | ok value =>
    have none : faults = [] := reports
    simp [none]
  | error found =>
    have first : faults.head? = some found := reports
    have some : faults ≠ [] := by
      intro none
      simp [none] at first
    simp [some]

/-- A failure reports some fault. -/
theorem ne_nil {fault : ε} (reports : Reports (.error fault : Except ε α) faults) :
    faults ≠ [] := by
  -- The fault itself would have to be the first of none.
  rintro rfl
  cases reports

/-- One step after another reports the faults of the first and then those of the second. -/
theorem bind {next : α → Except ε β} (first : Reports result faults)
    (second : ∀ value, result = .ok value → Reports (next value) later) :
    Reports (result >>= next) (faults ++ later) := by
  cases result with
  | ok value =>
    -- The first step has no faults, so those of the second are all there are.
    have none : faults = [] := first
    rw [none]
    exact second value rfl
  | error found =>
    have found_first : faults.head? = some found := first
    simp [Reports, Bind.bind, Except.bind, found_first]

/-- A step that cannot fail after another one adds no fault. -/
theorem bind_of_exists_ok {next : α → Except ε β} (first : Reports result faults)
    (second : ∀ value, result = .ok value → ∃ last, next value = .ok last) :
    Reports (result >>= next) faults := by
  -- What follows reports the empty list of faults.
  have nothing_later : Reports (result >>= next) (faults ++ []) := by
    refine first.bind fun value succeeded => ?_
    obtain ⟨last, same⟩ := second value succeeded
    rw [same]
    rfl
  rwa [List.append_nil] at nothing_later

/-- A step behind a test reports the fault of the test and then those of the step. -/
theorem test (passed : Bool) (fault : ε) (second : passed = true → Reports result later) :
    Reports (if !passed then .error fault else result)
      ((if passed then [] else [fault]) ++ later) := by
  -- If the test is failed, its fault comes first and the step is never taken.
  cases passed with
  | true => exact second rfl
  | false => rfl

/-- One step for each value of a list reports the faults of all of them in turn. -/
theorem mapM {step : α → Except ε β} {each : α → List ε} {values : List α}
    (steps : ∀ value ∈ values, Reports (step value) (each value)) :
    Reports (values.mapM step) (values.flatMap each) := by
  -- The first value fails or the others may, and putting the images together adds no fault.
  induction values with
  | nil => rfl
  | cons value rest ih =>
    have first := steps value List.mem_cons_self
    have others := ih fun other member => steps other (List.mem_cons_of_mem value member)
    rw [List.mapM_cons, List.flatMap_cons]
    exact first.bind fun _ _ => others.bind_of_exists_ok fun _ _ => ⟨_, rfl⟩

end Reports

/-- Two results agree if both fail in the same way, or succeed with related values. -/
inductive Agree (related : α → β → Prop) : Except ε α → Except ε β → Prop
  | failed (fault : ε) : Agree related (.error fault) (.error fault)
  | succeeded {left : α} {right : β} (values : related left right) :
      Agree related (.ok left) (.ok right)

namespace Agree

variable {related : α → β → Prop} {related' : α' → β' → Prop}

/-- Steps that agree, after steps that agree, agree together. -/
theorem bind {left : Except ε α} {right : Except ε β} {leftNext : α → Except ε α'}
    {rightNext : β → Except ε β'} (first : Agree related left right)
    (second : ∀ value image, related value image →
      Agree related' (leftNext value) (rightNext image)) :
    Agree related' (left >>= leftNext) (right >>= rightNext) := by
  -- The first steps fail alike, or give related values to go on with.
  cases first with
  | failed fault => exact .failed fault
  | succeeded values => exact second _ _ values

/-- Steps that agree after one and the same step agree together with it. -/
theorem after (result : Except ε γ) {leftNext : γ → Except ε α} {rightNext : γ → Except ε β}
    (second : ∀ value, result = .ok value → Agree related (leftNext value) (rightNext value)) :
    Agree related (result >>= leftNext) (result >>= rightNext) := by
  -- The step in common fails for both sides, or gives both the same value.
  cases result with
  | error fault => exact .failed fault
  | ok value => exact second value rfl

/-- Steps that agree on each value of a list agree on the whole list. -/
theorem mapM {left : γ → Except ε α} {right : γ → Except ε β} {values : List γ}
    (steps : ∀ value ∈ values, Agree related (left value) (right value)) :
    Agree (List.Forall₂ related) (values.mapM left) (values.mapM right) := by
  -- The first value and the others are dealt with on both sides in turn.
  induction values with
  | nil => exact .succeeded .nil
  | cons value rest ih =>
    have first := steps value List.mem_cons_self
    have others := ih fun other member => steps other (List.mem_cons_of_mem value member)
    rw [List.mapM_cons, List.mapM_cons]
    refine first.bind fun _ _ same => ?_
    exact others.bind fun _ _ alike => .succeeded (.cons same alike)

/-- If one of two results that agree is a value, the other is a related one. -/
theorem exists_of_ok {left : Except ε α} {right : Except ε β} {value : α}
    (agree : Agree related left right) (succeeds : left = .ok value) :
    ∃ image, right = .ok image ∧ related value image := by
  -- A value agrees with no failure.
  subst succeeds
  cases agree with
  | succeeded values => exact ⟨_, rfl, values⟩

end Agree

/-- The second of two results is the first one again, unless the first is a fault of a sort that is
excused. -/
inductive AgreeUnless (excused : ε → Prop) : Except ε α → Except ε α → Prop
  | fault {fault : ε} (isExcused : excused fault) (result : Except ε α) :
      AgreeUnless excused (.error fault) result
  | same (result : Except ε α) : AgreeUnless excused result result

namespace AgreeUnless

variable {excused : ε → Prop} {left right : Except ε α}

/-- Steps that agree, after steps that agree, agree together. -/
theorem bind {leftNext rightNext : α → Except ε β} (first : AgreeUnless excused left right)
    (second : ∀ value, AgreeUnless excused (leftNext value) (rightNext value)) :
    AgreeUnless excused (left >>= leftNext) (right >>= rightNext) := by
  cases first with
  -- An excused fault ends the first run, and so excuses whatever the second one comes to.
  | fault isExcused result => exact .fault isExcused _
  | same =>
    cases left with
    | error fault => exact .same _
    | ok value => exact second value

/-- Steps that agree on each value of a list agree on the whole list. -/
theorem mapM {leftStep rightStep : α → Except ε β} {values : List α}
    (steps : ∀ value ∈ values, AgreeUnless excused (leftStep value) (rightStep value)) :
    AgreeUnless excused (values.mapM leftStep) (values.mapM rightStep) := by
  -- A fault of the first value excuses all that follows, and so does one of a later value.
  induction values with
  | nil => exact .same _
  | cons value rest ih =>
    have first := steps value List.mem_cons_self
    have others := ih fun other member => steps other (List.mem_cons_of_mem value member)
    rw [List.mapM_cons, List.mapM_cons]
    exact first.bind fun _ => others.bind fun _ => .same _

/-- Where the first of two results that agree is no excused fault, the second is the same. -/
theorem eq (agree : AgreeUnless excused left right)
    (final : ∀ fault, left = .error fault → ¬excused fault) : right = left := by
  -- An excused fault is ruled out, and then both results are one.
  cases agree with
  | fault isExcused => exact absurd isExcused (final _ rfl)
  | same => rfl

end AgreeUnless

end Criteria

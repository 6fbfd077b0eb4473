import Criteria.Proofs.Json.Reading

/-! A limit on open containers decides which texts are read to their end, and nothing else. -/

namespace Criteria

namespace Json

mutual

/-- How many containers stand around the innermost part of a value. -/
def nesting : Json → Nat
  | .array elements => elementNesting elements + 1
  | .object members => memberNesting members + 1
  | _ => 0

/-- The nesting of the element that is nested deepest. -/
def elementNesting : List Json → Nat
  | [] => 0
  | element :: rest => max element.nesting (elementNesting rest)

/-- The nesting of the member's value that is nested deepest. -/
def memberNesting : List (JsonKey × Json) → Nat
  | [] => 0
  | (_, value) :: rest => max value.nesting (memberNesting rest)

end

/-- The elements of an array fit into a bound if each of them does. -/
theorem elementNesting_le_iff {elements : List Json} {most : Nat} :
    elementNesting elements ≤ most ↔ ∀ element ∈ elements, element.nesting ≤ most := by
  -- The deepest element is the first one or among the others.
  induction elements with
  | nil => simp [elementNesting]
  | cons element rest ih => rw [elementNesting, Nat.max_le, ih, List.forall_mem_cons]

/-- The members of an object fit into a bound if the value of each of them does. -/
theorem memberNesting_le_iff {members : List (JsonKey × Json)} {most : Nat} :
    memberNesting members ≤ most ↔ ∀ member ∈ members, member.2.nesting ≤ most := by
  -- The deepest value is that of the first member or of another one.
  induction members with
  | nil => simp [memberNesting]
  | cons member rest ih => rw [memberNesting, Nat.max_le, ih, List.forall_mem_cons]

/-- An open container is nested at least as deep as one more value in it makes it. -/
theorem Open.nesting_add (container : Open) (value : Json) :
    (container.add value).toJson.nesting = max container.toJson.nesting (value.nesting + 1) := by
  -- The contents are held last to first, which makes no difference to the deepest of them.
  cases container with
  | array elements =>
    have contents : elementNesting (value :: elements).reverse =
        max (elementNesting elements.reverse) value.nesting := by
      refine eq_of_forall_ge_iff fun most => ?_
      simp only [elementNesting_le_iff, Nat.max_le, List.mem_reverse, List.forall_mem_cons]
      exact and_comm
    rw [add, toJson, toJson, nesting, nesting, contents, Nat.add_max_add_right]
  -- The same of the members, whose keys count for nothing.
  | object members key =>
    have contents : memberNesting ((key, value) :: members).reverse =
        max (memberNesting members.reverse) value.nesting := by
      refine eq_of_forall_ge_iff fun most => ?_
      simp only [memberNesting_le_iff, Nat.max_le, List.mem_reverse, List.forall_mem_cons]
      exact and_comm
    rw [add, toJson, toJson, nesting, nesting, contents, Nat.add_max_add_right]

/-- Open containers hold nothing that is nested deeper than a bound, counted from the outermost. -/
def StackFits (most : Nat) : List Open → Prop
  | [] => True
  | container :: outer => container.toJson.nesting + outer.length ≤ most ∧ StackFits most outer

/-- What one token leads to if at most so many containers may be open, and the same without a
limit unless the text breaks off there. -/
inductive Advance (most : Nat) (expectation : Expectation) (stack : List Open)
    (token : JsonToken) : Prop
  | breaks (reads : ∀ rest, readTokens (some most) expectation stack (token :: rest) =
      ⟨breakOff stack .broken, false⟩)
  | ends (value : Json) (fits : value.nesting ≤ most)
      (reads : ∀ limit ∈ [none, some most], ∀ rest,
        readTokens limit expectation stack (token :: rest) = ⟨value, rest.isEmpty⟩)
  | goesOn (next : Expectation) (after : List Open) (fits : StackFits most after)
      (reads : ∀ limit ∈ [none, some most], ∀ rest,
        readTokens limit expectation stack (token :: rest) = readTokens limit next after rest)

variable {most : Nat} {expectation : Expectation} {stack outer : List Open} {token : JsonToken}

/-- A token that completes a value goes on in the container around it, or ends the document. -/
theorem Advance.of_resume {value : Json} (around : StackFits most outer)
    (fits : value.nesting + outer.length ≤ most)
    (reads : ∀ limit rest, readTokens limit expectation stack (token :: rest) =
      resume limit value rest outer) : Advance most expectation stack token := by
  -- The value is the whole document, or one more value in the innermost container.
  cases outer with
  | nil => exact .ends value fits fun limit _ rest => reads limit rest
  | cons container others =>
    -- In the container around it, the value is nested one deeper and that container is closer.
    refine .goesOn .separator (container.add value :: others) ⟨?_, around.2⟩
      fun limit _ rest => reads limit rest
    have before := around.1
    rw [List.length_cons] at fits
    rw [Open.nesting_add]
    omega

/-- A token that opens a container does so below the limit, and breaks the text off at it. -/
theorem Advance.of_opens {next : Expectation} {container : Open} (around : StackFits most stack)
    (empty : container.toJson.nesting = 1)
    (reads : ∀ limit rest, readTokens limit expectation stack (token :: rest) =
      if mayOpen limit stack.length then readTokens limit next (container :: stack) rest
      else ⟨breakOff stack .broken, false⟩) : Advance most expectation stack token := by
  -- Whether there is room does not depend on the tokens that follow.
  by_cases room : stack.length < most
  · refine .goesOn next (container :: stack) ⟨by omega, around⟩ fun limit known rest => ?_
    -- Below the limit there is room, and without a limit there always is.
    have may : mayOpen limit stack.length = true := by
      simp only [List.mem_cons, List.not_mem_nil, or_false] at known
      rcases known with rfl | rfl
      · rfl
      · exact decide_eq_true room
    rw [reads, if_pos may]
  · -- Where no more containers may be open, the text breaks off.
    refine .breaks fun rest => ?_
    have full : ¬mayOpen (some most) stack.length = true := by simpa [mayOpen] using room
    rw [reads, if_neg full]

/-- A scalar is nested in nothing. -/
theorem nesting_of_scalar {value : Json} (scalar : scalar? token = some value) :
    value.nesting = 0 := by
  -- Only brackets and braces begin containers.
  cases token <;> cases scalar <;> rfl

/-- Open containers that fit are no more than the bound. -/
theorem StackFits.length_le (fits : StackFits most stack) : stack.length ≤ most := by
  -- The innermost container has all the others around it.
  cases stack with
  | nil => exact Nat.zero_le most
  | cons container others =>
    -- Every open container counts for one level, even where nothing is in it yet.
    have innermost := fits.1
    have opened : 1 ≤ container.toJson.nesting := by
      cases container <;> exact Nat.le_add_left 1 _
    rw [List.length_cons]
    omega

/-- A token that closes the innermost container completes a value that fits. -/
theorem Advance.of_closes {container : Open} (fits : StackFits most (container :: outer))
    (reads : ∀ limit rest, readTokens limit expectation (container :: outer) (token :: rest) =
      resume limit container.toJson rest outer) :
    Advance most expectation (container :: outer) token :=
  .of_resume fits.2 fits.1 reads

/-- Where a value is expected, one token keeps what is open within the limit. -/
theorem advance_value (fits : StackFits most stack)
    (expected : expectation = .value ∨ expectation = .firstElement) (token : JsonToken) :
    Advance most expectation stack token := by
  -- A scalar is complete at once.
  cases scalar : scalar? token with
  | some value =>
    refine .of_resume fits ?_ fun limit rest => readTokens_scalar expected scalar stack rest
    rw [nesting_of_scalar scalar, Nat.zero_add]
    exact fits.length_le
  | none =>
    -- Other tokens open a container or close an array without elements, or have no place here.
    rcases expected with rfl | rfl
    · -- A value is due, so a container may open and none may close.
      cases token with
      | openArray => exact .of_opens fits rfl fun limit rest => rfl
      | openObject => exact .of_opens fits rfl fun limit rest => rfl
      | null | boolean | number | string | unpaired => cases scalar
      | closeArray | closeObject | comma | colon | bad => exact .breaks fun rest => rfl
    · -- Before a first element, the array may also close.
      cases token with
      | openArray => exact .of_opens fits rfl fun limit rest => rfl
      | openObject => exact .of_opens fits rfl fun limit rest => rfl
      | closeArray =>
        cases stack with
        | nil => exact .breaks fun rest => rfl
        | cons container outer =>
          exact .of_closes fits fun limit rest => by cases outer <;> rfl
      | null | boolean | number | string | unpaired => cases scalar
      | closeObject | comma | colon | bad => exact .breaks fun rest => rfl

/-- Where a key is expected, one token keeps what is open within the limit. -/
theorem advance_key (fits : StackFits most stack)
    (expected : expectation = .key ∨ expectation = .firstKey) (token : JsonToken) :
    Advance most expectation stack token := by
  -- Keys have their place in objects only.
  cases stack with
  | nil => rcases expected with rfl | rfl <;> cases token <;> exact .breaks fun rest => rfl
  | cons container outer =>
    cases token with
    -- A key is kept apart from the members until its value is there.
    | string content =>
      cases container with
      | array => rcases expected with rfl | rfl <;> exact .breaks fun rest => rfl
      | object members key =>
        refine .goesOn .colon (.object members (.text content) :: outer) fits fun _ _ _ => ?_
        rcases expected with rfl | rfl <;> rfl
    -- A key with half a character in it has its place like any other.
    | unpaired =>
      cases container with
      | array => rcases expected with rfl | rfl <;> exact .breaks fun rest => rfl
      | object members key =>
        refine .goesOn .colon (.object members .unpaired :: outer) fits fun _ _ _ => ?_
        rcases expected with rfl | rfl <;> rfl
    -- An object may end before its first key, but not after a comma.
    | closeObject =>
      rcases expected with rfl | rfl
      · exact .breaks fun rest => rfl
      · exact .of_closes fits fun _ _ => by cases outer <;> rfl
    | null | boolean | number | openArray | closeArray | openObject | comma | colon | bad =>
      rcases expected with rfl | rfl <;> exact .breaks fun rest => rfl

/-- After a value in a container, one token keeps what is open within the limit. -/
theorem advance_separator (fits : StackFits most stack) (token : JsonToken) :
    Advance most .separator stack token := by
  cases stack with
  -- Outside of all containers, nothing follows a value.
  | nil => cases token <;> exact .breaks fun rest => rfl
  | cons container outer =>
    cases container with
    -- In an array, a comma and the closing bracket have a place here, and nothing else has.
    | array elements =>
      cases token with
      | comma => exact .goesOn .value _ fits fun _ _ _ => rfl
      | closeArray => exact .of_closes fits fun _ _ => by cases outer <;> rfl
      | null | boolean | number | string | unpaired | openArray | openObject | closeObject | colon
        | bad => exact .breaks fun rest => rfl
    -- In an object, a comma and the closing brace have one.
    | object members key =>
      cases token with
      | comma => exact .goesOn .key _ fits fun _ _ _ => rfl
      | closeObject => exact .of_closes fits fun _ _ => by cases outer <;> rfl
      | null | boolean | number | string | unpaired | openArray | closeArray | openObject | colon
        | bad => exact .breaks fun rest => rfl

/-- One token keeps what is open within the limit. -/
theorem advance_of_fits (fits : StackFits most stack) (expectation : Expectation)
    (token : JsonToken) : Advance most expectation stack token := by
  -- The expectation says which tokens have a place here.
  cases expectation with
  | value => exact advance_value fits (.inl rfl) token
  | firstElement => exact advance_value fits (.inr rfl) token
  | key => exact advance_key fits (.inl rfl) token
  | firstKey => exact advance_key fits (.inr rfl) token
  | separator => exact advance_separator fits token
  -- Behind a key there has to be a colon.
  | colon =>
    cases token with
    | colon => exact .goesOn .value stack fits fun _ _ _ => rfl
    | null | boolean | number | string | unpaired | openArray | closeArray | openObject
      | closeObject | comma | bad => exact .breaks fun rest => rfl

/-- A text that is read to its end under a limit is read in the same way without one, and its value
is nested no deeper than the limit. -/
theorem readTokens_of_complete {tokens : List JsonToken} (fits : StackFits most stack)
    (complete : (readTokens (some most) expectation stack tokens).complete = true) :
    readTokens none expectation stack tokens = readTokens (some most) expectation stack tokens ∧
      (readTokens (some most) expectation stack tokens).value.nesting ≤ most := by
  -- The induction is on the tokens, and what is open between them fits all the time.
  induction tokens generalizing expectation stack with
  | nil => cases complete
  | cons token rest ih =>
    cases advance_of_fits fits expectation token with
    -- A text that breaks off is not complete.
    | breaks reads =>
      rw [reads] at complete
      cases complete
    | ends value fits reads =>
      rw [reads none (by simp), reads (some most) (by simp)]
      exact ⟨rfl, fits⟩
    -- The token changes what is open, and the rest is read from there.
    | goesOn next after fits reads =>
      rw [reads (some most) (by simp)] at complete
      rw [reads none (by simp), reads (some most) (by simp)]
      exact ih fits complete

/-- A document that is complete under a limit is the one without a limit, and is nested no deeper
than the limit. -/
theorem read_of_complete {text : List Char} (complete : (read (some most) text).complete = true) :
    read none text = read (some most) text ∧ (read (some most) text).value.nesting ≤ most :=
  -- Nothing is open at the start, so everything that is open fits.
  readTokens_of_complete trivial complete

end Json

end Criteria

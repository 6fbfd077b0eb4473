import Criteria.Proofs.Compiler.Agreement
import Criteria.Proofs.Compiler.WellFormed
import Criteria.Proofs.Interchange.Exchange

/-! Requests that were sent as JSON compile again, and mostly to an equal query. -/

namespace Criteria

/-- Whether an operand of an operation comes to the same before and after it was sent as JSON: it is
no date and no date-time, or it is converted, and to the same value. -/
def Value.IsKept (operation : Operation) (kind : FieldKind) (operand : Value) : Prop :=
  operand.exchanged = operand ∨
    (Entry.standard operation).coerces = true ∧ operand.IsKeptBy kind

/-- Whether every operand of a criterion comes to the same before and after it was sent as JSON. -/
def Criterion.IsKept (model : EntityModel) (condition : Criterion) : Prop :=
  ∀ subject, model.resolve condition.field = .ok subject →
    ∀ operand ∈ condition.operands, operand.IsKept condition.operation subject.kind

/-- An operand that stays as it is is converted to the same value. -/
theorem Value.isKeptBy_of_exchanged_eq {kind : FieldKind} {operand : Value}
    (same : operand.exchanged = operand) : operand.IsKeptBy kind := by
  -- Dates and date-times become texts, and so none of them stays as it is.
  cases operand with
  | null | bool | int | float | text => trivial
  | date | dateTime | offsetDateTime => cases same

/-- What a kind of texts stores is a text. -/
theorem FieldKind.exists_text_of_isNative {value : Value} (native : FieldKind.text.IsNative value) :
    ∃ content, value = .text content := by
  -- No other value is one of that kind.
  cases value with
  | text content => exact ⟨content, rfl⟩
  | null | bool | int | float | date | dateTime | offsetDateTime => cases native

/-- Operands are prepared again after they were sent as JSON, and to the same as before exactly if
each of them is kept. -/
theorem Entry.Prepares.exchanged {operation : Operation} {kind : FieldKind}
    {raws operands : List Value}
    (writes : ∀ raw ∈ raws, ∃ written, raw.toJson? = some written)
    (prepared : (Entry.standard operation).Prepares kind raws operands) :
    ∃ again, (Entry.standard operation).Prepares kind (raws.map Value.exchanged) again ∧
      (again = operands ↔ ∀ raw ∈ raws, raw.IsKept operation kind) := by
  -- Operands that are converted are kept one by one, and others only as they are.
  cases coerces : (Entry.standard operation).coerces with
  | true =>
    simp only [Prepares, coerces, if_true] at prepared ⊢
    -- What an operand is converted to is compared with what its text is converted to.
    have step : ∀ raw ∈ raws, ∀ native, raw.coerce kind = .ok native →
        ∃ again, raw.exchanged.coerce kind = .ok again ∧
          (again = native ↔ raw.IsKept operation kind) := by
      intro raw member native converts
      obtain ⟨written, writesRaw⟩ := writes raw member
      obtain ⟨again, convertsAgain, same⟩ := Value.coerce_exchanged writesRaw converts
      refine ⟨again, convertsAgain, same.trans ⟨fun kept => .inr ⟨coerces, kept⟩, ?_⟩⟩
      -- An operand that is sent as it is converts to the same again.
      rintro (unchanged | ⟨-, kept⟩)
      · exact Value.isKeptBy_of_exchanged_eq unchanged
      · exact kept
    exact exists_forall₂_map prepared step
  | false =>
    -- Without conversion, operands are kept if they stay as they are.
    simp only [Prepares, coerces] at prepared ⊢
    refine ⟨_, rfl, ?_⟩
    rw [prepared]
    have unchanged : raws.map Value.exchanged = raws ↔ ∀ raw ∈ raws, raw.exchanged = raw := by
      simpa using List.map_inj_left (f := Value.exchanged) (g := id) (l := raws)
    rw [unchanged]
    simp [Value.IsKept, coerces]

/-- Two texts make the same pattern only if they are the same. -/
theorem Config.likePattern_text_inj {config : Config} {left right : String} :
    config.likePattern (.text left) = config.likePattern (.text right) ↔ left = right := by
  -- A text is put into the pattern as it is, wrapped or not.
  unfold likePattern
  split <;> simp [Value.write, Value.display]

/-- With as many other operands, an operation asks for another primitive, and for the same one only
if the operands are the same. -/
theorem Operation.exists_primitive {config : Config} {operation : Operation}
    {operands others : List Value} {primitive : Primitive}
    (asked : operation.primitive config operands = .ok primitive)
    (counted : (Entry.standard operation).arity.accepts operands.length = true)
    (length : others.length = operands.length)
    (texts : (Entry.standard operation).requirement = .text →
      ∀ value ∈ operands ++ others, ∃ content, value = .text content) :
    ∃ again, operation.primitive config others = .ok again ∧
      (again = primitive ↔ others = operands) := by
  -- The primitive is made of the operands, if the operation takes any.
  cases operation with
  | equal | notEqual | lessThan | lessThanEqual | greaterThan | greaterThanEqual =>
    -- A comparison has its one operand in it.
    obtain ⟨value, alone, rfl⟩ := map_eq_ok_iff.mp asked
    cases oneOperand_eq_ok_iff.mp alone
    obtain ⟨other, rfl⟩ := List.length_eq_one_iff.mp length
    exact ⟨_, rfl, by simp⟩
  | between =>
    -- A range has both of its operands in it.
    obtain ⟨⟨low, high⟩, both, rfl⟩ := map_eq_ok_iff.mp asked
    cases twoOperands_eq_ok_iff.mp both
    obtain ⟨first, second, rfl⟩ := List.length_eq_two.mp length
    exact ⟨_, rfl, by simp⟩
  -- A pattern is made from how a value is displayed, which tells texts apart.
  | like | notLike =>
    obtain ⟨value, alone, rfl⟩ := map_eq_ok_iff.mp asked
    cases oneOperand_eq_ok_iff.mp alone
    obtain ⟨other, rfl⟩ := List.length_eq_one_iff.mp length
    obtain ⟨content, rfl⟩ := texts rfl value (by simp)
    obtain ⟨other, rfl⟩ := texts rfl other (by simp)
    exact ⟨_, rfl, by simp [Config.likePattern_text_inj]⟩
  -- An empty list asks for another primitive than one with members, and stays empty.
  | isIn | notIn =>
    cases asked
    cases operands with
    | nil =>
      cases List.length_eq_zero_iff.mp length
      exact ⟨_, rfl, by simp⟩
    | cons first rest =>
      obtain ⟨other, others, rfl⟩ := List.exists_cons_of_length_eq_add_one length
      exact ⟨_, rfl, by simp⟩
  | isNull | isNotNull | isTrue | isFalse | isEmptyString | isNotEmptyString =>
    -- Without operands, there are none to differ.
    have none : operands = [] := List.length_eq_zero_iff.mp (of_decide_eq_true counted)
    subst none
    cases List.length_eq_zero_iff.mp length
    exact ⟨primitive, asked, by simp⟩

namespace Compiler

variable {config : Config} {model : EntityModel}

/-- A criterion has a predicate exactly when its path leads to an attribute that its operation takes,
with as many operands as the operation takes, and these can be prepared for its primitive. -/
theorem standard_criterionOutcome_eq_ok_iff {condition : Criterion} {predicate : Predicate} :
    (standard config).criterionOutcome model condition = .ok predicate ↔
      ∃ subject operands primitive, model.resolve condition.field = .ok subject ∧
        (Entry.standard condition.operation).arity.accepts condition.operands.length = true ∧
        (Entry.standard condition.operation).requirement.admits subject.kind = true ∧
        (Entry.standard condition.operation).Prepares subject.kind condition.operands operands ∧
        condition.operation.primitive config operands = .ok primitive ∧
        primitive.apply Backend.predicates subject = predicate := by
  -- The criterion is settled with the standard entry, which builds the operation itself.
  unfold criterionOutcome
  rw [bind_eq_ok_iff]
  constructor
  · -- What has been built is the primitive that the operation asks for.
    rintro ⟨⟨subject, entry, operands⟩, settled, built⟩
    obtain ⟨resolved, registered, counted, suited, prepared⟩ := (settle_eq_ok_iff _ _).mp settled
    cases (Registry.get_standard condition.operation).symm.trans registered
    have built : Backend.predicates.build config (Entry.standard condition.operation).builder
      subject operands = .ok predicate := built
    rw [Backend.build_eq_map_primitive, Entry.builder_standard] at built
    obtain ⟨primitive, asked, applied⟩ := map_eq_ok_iff.mp built
    exact ⟨subject, operands, primitive, resolved, counted, suited, prepared, asked, applied⟩
  · -- The parts settle the criterion, and then the primitive is built.
    rintro ⟨subject, operands, primitive, resolved, counted, suited, prepared, asked, applied⟩
    have settled := (settle_eq_ok_iff (standard config) model).mpr
      ⟨resolved, Registry.get_standard condition.operation, counted, suited, prepared⟩
    refine ⟨_, settled, ?_⟩
    show Backend.predicates.build config (Entry.standard condition.operation).builder
      subject operands = .ok predicate
    rw [Backend.build_eq_map_primitive, Entry.builder_standard]
    exact map_eq_ok_iff.mpr ⟨primitive, asked, applied⟩

/-- The predicates for two primitives on an attribute are the same only if the primitives are. -/
theorem apply_predicates_inj {subject : Attribute} {left right : Primitive} :
    left.apply Backend.predicates subject = right.apply Backend.predicates subject ↔
      left = right := by
  -- The layer has a constructor of its own for each primitive.
  cases left <;> cases right <;> simp [Primitive.apply, Backend.predicates]

/-- Operands that are prepared for an operation on texts are texts. -/
theorem exists_text_of_prepares {operation : Operation} {kind : FieldKind}
    {raws operands : List Value} (onText : (Entry.standard operation).requirement = .text)
    (suited : (Entry.standard operation).requirement.admits kind = true)
    (prepared : (Entry.standard operation).Prepares kind raws operands) :
    ∀ value ∈ operands, ∃ content, value = .text content := by
  -- Such an operation is for texts only, and converts its operands to them.
  rw [onText] at suited
  have kindIsText := FieldKind.eq_text_of_isText suited
  subst kindIsText
  have coerces : (Entry.standard operation).coerces = true := by
    cases operation <;> first | rfl | cases onText
  exact fun value member =>
    FieldKind.exists_text_of_isNative (prepared.isNative coerces rfl value member)

/-- A criterion has a predicate again after it was sent as JSON, and the same one exactly if its
operands are kept. -/
theorem criterionOutcome_exchanged {condition : Criterion} {predicate : Predicate}
    (writes : ∀ operand ∈ condition.operands, ∃ written, operand.toJson? = some written)
    (compiled : (standard config).criterionOutcome model condition = .ok predicate) :
    ∃ again, (standard config).criterionOutcome model condition.exchanged = .ok again ∧
      (again = predicate ↔ condition.IsKept model) := by
  -- The path and the operation stay, and so does what the operation asks of the attribute.
  obtain ⟨subject, operands, primitive, resolved, counted, suited, prepared, asked, applied⟩ :=
    standard_criterionOutcome_eq_ok_iff.mp compiled
  -- There are as many operands as before, and where texts are needed, they are texts again.
  obtain ⟨others, preparedAgain, sameOperands⟩ := prepared.exchanged writes
  have length : others.length = operands.length := by
    rw [preparedAgain.length_eq, prepared.length_eq, List.length_map]
  have countedOperands : (Entry.standard condition.operation).arity.accepts operands.length =
      true := by rwa [prepared.length_eq]
  have texts : (Entry.standard condition.operation).requirement = .text →
      ∀ value ∈ operands ++ others, ∃ content, value = .text content := by
    intro onText
    exact List.forall_mem_append.mpr ⟨exists_text_of_prepares onText suited prepared,
      exists_text_of_prepares onText suited preparedAgain⟩
  obtain ⟨again, askedAgain, samePrimitive⟩ :=
    Operation.exists_primitive asked countedOperands length texts
  -- So the operation asks for a primitive again.
  refine ⟨again.apply Backend.predicates subject, ?_, ?_⟩
  · have countedAgain : (Entry.standard condition.operation).arity.accepts
        (condition.operands.map Value.exchanged).length = true := by rwa [List.length_map]
    exact standard_criterionOutcome_eq_ok_iff.mpr ⟨subject, others, again, resolved, countedAgain,
      suited, preparedAgain, askedAgain, rfl⟩
  · rw [← applied, apply_predicates_inj, samePrimitive, sameOperands]
    -- The path of a criterion leads to one attribute only.
    constructor
    · intro kept other resolvedOther
      cases resolved.symm.trans resolvedOther
      exact kept
    · exact fun kept => kept subject resolved

/-- As many other predicates combine to another one, and to the same one only if they are the
same. -/
theorem exists_combine {combinator : Combinator} {images others : List Predicate}
    {predicate : Predicate} (admitted : combinator.Admits images.length)
    (length : others.length = images.length)
    (combined : (standard config).combine combinator images = .ok predicate) :
    ∃ again, (standard config).combine combinator others = .ok again ∧
      (again = predicate ↔ others = images) := by
  -- The combined predicate has all of its parts in it.
  cases combinator with
  | and | or =>
    cases combined
    exact ⟨_, rfl, by simp [standard, Backend.predicates]⟩
  | not =>
    -- A negation has the one that it negates in it.
    obtain ⟨image, rfl⟩ := List.length_eq_one_iff.mp admitted
    obtain ⟨other, rfl⟩ := List.length_eq_one_iff.mp length
    cases combined
    exact ⟨_, rfl, by simp [standard, Backend.predicates]⟩

/-- A filter has a predicate again after it was sent as JSON, and the same one exactly if the
operands of all its criteria are kept. -/
theorem outcomeAt_exchanged {filter : Filter} {depth : Nat} {predicate : Predicate}
    (writes : ∀ condition ∈ filter.criteria, ∀ operand ∈ condition.operands,
      ∃ written, operand.toJson? = some written)
    (compiled : (standard config).outcomeAt model depth filter = .ok predicate) :
    ∃ again, (standard config).outcomeAt model depth (filter.mapCriteria Criterion.exchanged) =
        .ok again ∧
      (again = predicate ↔ ∀ condition ∈ filter.criteria, condition.IsKept model) := by
  -- The induction follows the tree that both requests have.
  induction filter generalizing depth predicate with
  | criterion condition =>
    obtain ⟨fits, made⟩ := (outcomeAt_criterion_eq_ok_iff _ _).mp compiled
    -- A criterion is the only one of its filter.
    obtain ⟨again, madeAgain, same⟩ :=
      criterionOutcome_exchanged (writes condition (Filter.mem_criteria_self condition)) made
    refine ⟨again, (outcomeAt_criterion_eq_ok_iff _ _).mpr ⟨fits, madeAgain⟩, ?_⟩
    rw [same, Filter.criteria, List.forall_mem_singleton]
  | group combinator children ih =>
    obtain ⟨fits, admitted, images, each, combined⟩ :=
      (outcomeAt_group_eq_ok_iff _ _).mp compiled
    -- Each child is compiled again to an image of its own, and these are combined as before.
    have step : ∀ child ∈ children, ∀ image,
        (standard config).outcomeAt model (depth + 1) child = .ok image →
        ∃ again, (standard config).outcomeAt model (depth + 1)
            (child.mapCriteria Criterion.exchanged) = .ok again ∧
          (again = image ↔ ∀ condition ∈ child.criteria, condition.IsKept model) := by
      intro child member image made
      refine ih child member (fun condition inside => ?_) made
      exact writes condition (Filter.mem_criteria_of_child member inside)
    -- The images stay the same if all of them do.
    obtain ⟨others, eachAgain, sameImages⟩ :
        ∃ others, List.Forall₂
          (fun child image => (standard config).outcomeAt model (depth + 1) child = .ok image)
          (children.map (Filter.mapCriteria Criterion.exchanged)) others ∧
        (others = images ↔
          ∀ child ∈ children, ∀ condition ∈ child.criteria, condition.IsKept model) :=
      exists_forall₂_map each step
    have length : others.length = images.length := by
      rw [← eachAgain.length_eq, List.length_map, each.length_eq]
    obtain ⟨again, combinedAgain, same⟩ :=
      exists_combine (each.length_eq ▸ admitted) length combined
    refine ⟨again, ?_, ?_⟩
    · -- The group is as large and as deep as before.
      rw [Filter.mapCriteria, Filter.mapAllCriteria_eq_map]
      refine (outcomeAt_group_eq_ok_iff _ _).mpr ⟨fits, ?_, others, eachAgain, combinedAgain⟩
      rwa [List.length_map]
    · -- Its criteria are those of its children.
      rw [same, sameImages, Filter.criteria, Filter.allCriteria_eq_flatMap,
        List.forall_mem_flatMap]

/-- A request without floats that compiles is read from its own text as a request that compiles as
well, to a query with the same sort terms, and with the same predicate exactly if all its operands
are kept.

Dates and date-times are kept where they are converted to a scalar kind, other than offset date-times
in universal time that are converted to texts; members of lists are not converted at all. -/
theorem compile_exchanged_iff {config : Config} {model : EntityModel} {request : SearchRequest}
    {query : RowQuery} {text : String}
    (exact : ∀ condition ∈ request.criteria, ∀ operand ∈ condition.operands, ∀ number,
      operand ≠ .float number)
    (levels : request.levels ≤ 63)
    (compiled : (standard config).compile model request = .ok query)
    (writes : request.toText? = some text) :
    ∃ read again, SearchRequest.ofText (some Json.usualNesting) text = .ok read ∧
      (standard config).compile model read = .ok again ∧ again.order = query.order ∧
      (again.predicate = query.predicate ↔
        ∀ condition ∈ request.criteria, condition.IsKept model) := by
  -- What is read from the text is the request with its operands as they were sent.
  have room : 2 * request.levels < Json.usualNesting := by
    rw [Json.usualNesting]
    omega
  have reads := SearchRequest.ofText_exchanged exact (by decide) room writes
  obtain ⟨written, writesJson, -⟩ := Option.map_eq_some_iff.mp writes
  refine ⟨request.exchanged, ?_⟩
  rcases request with ⟨filter, sort⟩
  cases filter with
  | none =>
    -- Without a filter, the request is read as it was.
    exact ⟨query, reads, compiled, rfl, iff_of_true rfl (by simp [SearchRequest.criteria])⟩
  | some filter =>
    obtain ⟨made, sorted⟩ := (compile_some_eq_ok_iff _ _).mp compiled
    rw [SearchRequest.toJson?_some] at writesJson
    obtain ⟨image, writesFilter, -⟩ := Option.map_eq_some_iff.mp writesJson
    -- The sort keys have no operands, and so the filter decides.
    obtain ⟨again, madeAgain, same⟩ :=
      outcomeAt_exchanged (Filter.exists_toJson?_of_mem_criteria writesFilter) made
    exact ⟨⟨again, query.order⟩, reads, (compile_some_eq_ok_iff _ _).mpr ⟨madeAgain, sorted⟩, rfl,
      same⟩

/-- The day on which the first student of the school was born. -/
def birthday : Date :=
  ⟨⟨2001, 3, 14⟩, by decide, by decide, by decide⟩

/-- A search for the students with a good grade who were born on that day or later. -/
def bornSince : SearchRequest :=
  ⟨some (.group .and
    [ .criterion ⟨"dateOfBirth", .greaterThanEqual, [.date birthday]⟩,
      .criterion ⟨"gpaLetter", .isIn, [.text "A", .text "B+"]⟩ ]),
    [⟨"dateOfBirth", .ascending⟩]⟩

/-- A search for the students who were born on that day, as the only member of a list. -/
def bornOn : SearchRequest :=
  ⟨some (.criterion ⟨"dateOfBirth", .isIn, [.date birthday]⟩), []⟩

/-- The search with the date in a comparison compiles to an equal query after it was sent as
JSON. -/
theorem compile_exchanged_iff_bornSince :
    ∃ query text read again, (standard .default).compile School.student bornSince = .ok query ∧
      bornSince.toText? = some text ∧
      SearchRequest.ofText (some Json.usualNesting) text = .ok read ∧
      (standard .default).compile School.student read = .ok again ∧
      again.order = query.order ∧ again.predicate = query.predicate := by
  -- The search compiles and is written, so only its operands are left to be looked at.
  obtain ⟨query, compiled⟩ :
      ∃ query, (standard .default).compile School.student bornSince = .ok query := ⟨_, rfl⟩
  obtain ⟨text, writes⟩ : ∃ text, bornSince.toText? = some text := ⟨_, rfl⟩
  have criteria : bornSince.criteria =
      [⟨"dateOfBirth", .greaterThanEqual, [.date birthday]⟩,
        ⟨"gpaLetter", .isIn, [.text "A", .text "B+"]⟩] := rfl
  have exact : ∀ condition ∈ bornSince.criteria, ∀ operand ∈ condition.operands, ∀ number,
      operand ≠ .float number := by
    simp [criteria]
  obtain ⟨read, again, reads, compiledAgain, order, same⟩ :=
    compile_exchanged_iff exact (by decide) compiled writes
  refine ⟨query, text, read, again, compiled, writes, reads, compiledAgain, order, same.mpr ?_⟩
  obtain ⟨born, known, isScalar⟩ : ∃ born, School.student.resolve "dateOfBirth" = .ok born ∧
      born.kind.isScalar = true := ⟨_, rfl, rfl⟩
  rw [criteria, List.forall_mem_cons, List.forall_mem_singleton]
  constructor
  · -- The date is converted, and a date of birth is a scalar.
    intro subject resolved
    cases known.symm.trans resolved
    exact List.forall_mem_singleton.mpr (.inr ⟨rfl, isScalar⟩)
  · -- Texts stay as they are, in a list too.
    intro subject resolved
    simp [Value.IsKept, Value.exchanged]

/-- Not every request without floats that compiles is read from its own text as one with an equal
query: a date in a list is read as a text. -/
theorem not_compile_exchanged_eq :
    ¬∀ (config : Config) (model : EntityModel) (request : SearchRequest) (query : RowQuery)
      (text : String),
      (∀ condition ∈ request.criteria, ∀ operand ∈ condition.operands, ∀ number,
        operand ≠ .float number) →
      request.levels ≤ 63 → (standard config).compile model request = .ok query →
      request.toText? = some text →
      ∃ read, SearchRequest.ofText (some Json.usualNesting) text = .ok read ∧
        (standard config).compile model read = .ok query := by
  -- A list takes its members as they are, and a date is sent as a text.
  intro lossless
  have exact : ∀ condition ∈ bornOn.criteria, ∀ operand ∈ condition.operands, ∀ number,
      operand ≠ .float number := by
    simp [SearchRequest.criteria, bornOn, Filter.criteria]
  obtain ⟨text, writes⟩ : ∃ text, bornOn.toText? = some text := ⟨_, rfl⟩
  obtain ⟨read, reads, compiledAgain⟩ :=
    lossless .default School.student bornOn _ text exact (by decide) rfl writes
  have sent : SearchRequest.ofText (some Json.usualNesting) text = .ok bornOn.exchanged :=
    SearchRequest.ofText_exchanged exact (by decide) (by decide) writes
  -- The list of the one query has a text for its member, and that of the other has a date.
  cases sent.symm.trans reads
  cases compiledAgain

end Compiler

end Criteria

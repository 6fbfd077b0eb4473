import Criteria.Proofs.Compiler.Meaning
import Criteria.Proofs.Predicate.Tree
import Criteria.Proofs.Value.Native

/-! A compiled predicate has the shape of its filter, and no part of it is out of place. -/

namespace Criteria

namespace Predicate

/-- A predicate tests an attribute alone, in a way that the kind of the attribute allows.

Only scalars are tested for their order and only texts against patterns, and scalars are compared
with values that they may have themselves. Only the question whether an attribute is among no values
at all, or is not, needs no test. -/
inductive Tests (condition : Criterion) (subject : Attribute) : Predicate → Prop
  | always (notIn : condition.operation = .notIn) (none : condition.operands = []) :
      Tests condition subject .always
  | never (isIn : condition.operation = .isIn) (none : condition.operands = []) :
      Tests condition subject .never
  | compare {comparison : Comparison} {value : Value}
      (ordered : comparison = .equal ∨ comparison = .notEqual ∨ subject.kind.isScalar = true)
      (native : subject.kind.isScalar = true → subject.kind.IsNative value) :
      Tests condition subject (.compare subject.path comparison value)
  | between {low high : Value} (scalar : subject.kind.isScalar = true)
      (lowNative : subject.kind.IsNative low) (highNative : subject.kind.IsNative high) :
      Tests condition subject (.between subject.path low high)
  | like {pattern : String} (isText : subject.kind = .text) :
      Tests condition subject (.like subject.path pattern)
  | notLike {pattern : String} (isText : subject.kind = .text) :
      Tests condition subject (.notLike subject.path pattern)
  | isNull : Tests condition subject (.isNull subject.path)
  | isNotNull : Tests condition subject (.isNotNull subject.path)
  | inList {values : List Value} (filled : values ≠ []) :
      Tests condition subject (.inList subject.path values)
  | notInList {values : List Value} (filled : values ≠ []) :
      Tests condition subject (.notInList subject.path values)

variable {condition : Criterion} {subject : Attribute} {predicate : Predicate}

/-- A test of one attribute is a single node. -/
theorem Tests.depth_eq_one (tests : predicate.Tests condition subject) : predicate.depth = 1 := by
  -- None of the tests has children.
  cases tests <;> rfl

/-- A test of one attribute has no node but itself. -/
theorem Tests.nodes_eq (tests : predicate.Tests condition subject) : predicate.nodes = [predicate] := by
  -- None of the tests has children.
  cases tests <;> rfl

/-- A test of one attribute has a member if it is a list. -/
theorem Tests.isFilled (tests : predicate.Tests condition subject) : predicate.IsFilled := by
  -- Only lists have members to ask for.
  cases tests with
  | inList filled | notInList filled => exact filled
  | always | never | compare | between | like | notLike | isNull | isNotNull => trivial

end Predicate

/-- A predicate mirrors a filter: each group is the combination of its children's images, in order,
and each criterion is a leaf of its own. -/
inductive Filter.IsMirroredBy (leaf : Criterion → Predicate → Prop) : Filter → Predicate → Prop
  | criterion {condition : Criterion} {predicate : Predicate} (isLeaf : leaf condition predicate) :
      IsMirroredBy leaf (.criterion condition) predicate
  | and {children : List Filter} {images : List Predicate}
      (each : List.Forall₂ (IsMirroredBy leaf) children images) :
      IsMirroredBy leaf (.group .and children) (.and images)
  | or {children : List Filter} {images : List Predicate}
      (each : List.Forall₂ (IsMirroredBy leaf) children images) :
      IsMirroredBy leaf (.group .or children) (.or images)
  | not {child : Filter} {image : Predicate} (only : IsMirroredBy leaf child image) :
      IsMirroredBy leaf (.group .not [child]) (.not image)

/-- A predicate tests the attribute that the path of a criterion leads to. -/
def Criterion.IsTestedBy (model : EntityModel) (condition : Criterion) (predicate : Predicate) :
    Prop :=
  ∃ subject, model.resolve condition.field = .ok subject ∧
    subject.path = AttributePath.ofText condition.field ∧ predicate.Tests condition subject

/-- Operands that are converted are values that attributes of the kind store. -/
theorem Entry.Prepares.isNative {entry : Entry} {kind : FieldKind} {raws operands : List Value}
    (coerces : entry.coerces = true) (prepared : entry.Prepares kind raws operands)
    (scalar : kind.isScalar = true) : ∀ native ∈ operands, kind.IsNative native := by
  -- Each operand is what converting one of those that were supplied has given.
  rw [Prepares, if_pos coerces] at prepared
  induction prepared with
  | nil => simp
  | cons becomes _ ih =>
    exact List.forall_mem_cons.mpr ⟨Value.isNative_of_coerce scalar becomes, ih⟩

namespace Predicate

variable {config : Config} {condition : Criterion} {subject : Attribute}
  {raws operands : List Value} {predicate : Predicate}

/-- A comparison with one converted operand tests the attribute as its kind allows. -/
theorem tests_of_buildComparison {operation : Operation} {comparison : Comparison} {entry : Entry}
    (coerces : entry.coerces = true) (prepared : entry.Prepares subject.kind raws operands)
    (ordered : comparison = .equal ∨ comparison = .notEqual ∨ subject.kind.isScalar = true)
    (built : Backend.predicates.buildComparison subject operation comparison operands =
      .ok predicate) : predicate.Tests condition subject := by
  -- The builder takes its one operand, and that is native to the kind.
  obtain ⟨native, alone, same⟩ := bind_eq_ok_iff.mp built
  cases same
  have natives := prepared.isNative coerces
  rw [oneOperand_eq_ok_iff.mp alone] at natives
  exact .compare ordered fun scalar => natives scalar native List.mem_cons_self

/-- What the library's own layer builds for a criterion tests the attribute as its kind allows. -/
theorem tests_of_build
    (suited : (Entry.standard condition.operation).requirement.admits subject.kind = true)
    (prepared : (Entry.standard condition.operation).Prepares subject.kind condition.operands
      operands)
    (built : Backend.predicates.build config condition.operation subject operands =
      .ok predicate) : predicate.Tests condition subject := by
  -- What an operation requires of the kind is what its test needs.
  obtain ⟨field, operation, raws⟩ := condition
  cases operation with
  | equal => exact tests_of_buildComparison rfl prepared (.inl rfl) built
  | notEqual => exact tests_of_buildComparison rfl prepared (.inr (.inl rfl)) built
  | lessThan | lessThanEqual | greaterThan | greaterThanEqual =>
    exact tests_of_buildComparison rfl prepared (.inr (.inr suited)) built
  | between =>
    -- A range has two native bounds, on a scalar.
    obtain ⟨⟨low, high⟩, both, same⟩ := bind_eq_ok_iff.mp built
    cases same
    have natives := prepared.isNative rfl suited
    rw [twoOperands_eq_ok_iff.mp both] at natives
    exact .between suited (natives low (by simp)) (natives high (by simp))
  -- A wildcard test is asked of texts only.
  | like =>
    obtain ⟨native, -, same⟩ := bind_eq_ok_iff.mp built
    cases same
    exact .like (FieldKind.eq_text_of_isText suited)
  | notLike =>
    obtain ⟨native, -, same⟩ := bind_eq_ok_iff.mp built
    cases same
    exact .notLike (FieldKind.eq_text_of_isText suited)
  | isIn =>
    -- Lists take their operands as they are, so there are none to test only if none were given.
    cases prepared
    cases raws with
    | nil =>
      cases built
      exact .never rfl rfl
    | cons first rest =>
      cases built
      exact .inList (List.cons_ne_nil first rest)
  | notIn =>
    cases prepared
    cases raws with
    | nil =>
      cases built
      exact .always rfl rfl
    | cons first rest =>
      cases built
      exact .notInList (List.cons_ne_nil first rest)
  -- The tests for null are asked of every kind.
  | isNull =>
    cases built
    exact .isNull
  | isNotNull =>
    cases built
    exact .isNotNull
  | isTrue | isFalse =>
    cases built
    -- The truth values are native to the one kind that is tested for them.
    refine .compare (.inl rfl) fun _ => ?_
    rw [FieldKind.eq_bool_of_isBool suited]
    trivial
  | isEmptyString | isNotEmptyString =>
    cases built
    -- The empty text is native to the one kind that is tested for it.
    refine .compare (by simp) fun _ => ?_
    rw [FieldKind.eq_text_of_isText suited]
    trivial

end Predicate

namespace Compiler

variable {config : Config} {model : EntityModel}

/-- The predicate of a criterion tests the attribute that the path of the criterion leads to. -/
theorem criterionOutcome_isTestedBy {condition : Criterion} {predicate : Predicate}
    (compiled : (standard config).criterionOutcome model condition = .ok predicate) :
    condition.IsTestedBy model predicate := by
  -- What is settled with the standard entry is built by the operation itself.
  obtain ⟨⟨subject, entry, operands⟩, settled, built⟩ := bind_eq_ok_iff.mp compiled
  obtain ⟨resolved, registered, -, suited, prepared⟩ := (settle_eq_ok_iff _ _).mp settled
  cases (Registry.get_standard condition.operation).symm.trans registered
  simp only [Entry.builder_standard] at built
  exact ⟨subject, resolved, (model.resolve_eq_ok resolved).1,
    Predicate.tests_of_build suited prepared built⟩

/-- What holds of the predicates of criteria, and of a combination whenever it holds of the parts,
holds of the predicates of filters. -/
theorem outcomeAt_induction {motive : Nat → Filter → Predicate → Prop}
    (criterion : ∀ depth condition predicate, depth ≤ config.maxDepth →
      condition.IsTestedBy model predicate → motive depth (.criterion condition) predicate)
    (and : ∀ depth children images, depth ≤ config.maxDepth → 2 ≤ images.length →
      List.Forall₂ (motive (depth + 1)) children images →
      motive depth (.group .and children) (.and images))
    (or : ∀ depth children images, depth ≤ config.maxDepth → 2 ≤ images.length →
      List.Forall₂ (motive (depth + 1)) children images →
      motive depth (.group .or children) (.or images))
    (not : ∀ depth child image, motive (depth + 1) child image →
      motive depth (.group .not [child]) (.not image))
    {filter : Filter} {depth : Nat} {predicate : Predicate}
    (compiled : outcomeAt (standard config) model depth filter = .ok predicate) :
    motive depth filter predicate := by
  -- The induction follows the tree, with the depth left open for the children.
  induction filter generalizing depth predicate with
  | criterion condition =>
    -- The predicate of a criterion tests one attribute.
    obtain ⟨fits, alone⟩ := (outcomeAt_criterion_eq_ok_iff _ _).mp compiled
    exact criterion depth condition predicate fits (criterionOutcome_isTestedBy alone)
  | group combinator children ih =>
    obtain ⟨fits, admitted, images, each, combined⟩ :=
      (outcomeAt_group_eq_ok_iff _ _).mp compiled
    -- There is one image for each child, and it has what the motive asks for.
    have length : children.length = images.length := each.length_eq
    have parts : List.Forall₂ (motive (depth + 1)) children images :=
      forall₂_imp_of_mem each fun child member image made => ih child member made
    cases combinator with
    | and =>
      cases combined
      exact and depth children images fits (length ▸ admitted) parts
    | or =>
      cases combined
      exact or depth children images fits (length ▸ admitted) parts
    | not =>
      -- A negation has exactly one child, whose image is the last one.
      obtain ⟨child, rfl⟩ := List.length_eq_one_iff.mp admitted
      obtain ⟨image, others, only, none, rfl⟩ := List.forall₂_cons_left_iff.mp parts
      cases none
      cases combined
      exact not depth child image only

/-- The predicate of a filter mirrors it. -/
theorem outcomeAt_mirrors {filter : Filter} {depth : Nat} {predicate : Predicate}
    (compiled : outcomeAt (standard config) model depth filter = .ok predicate) :
    filter.IsMirroredBy (Criterion.IsTestedBy model) predicate := by
  -- Each case of the induction is one of the mirror's own.
  refine outcomeAt_induction (motive := fun _ filter predicate =>
    filter.IsMirroredBy (Criterion.IsTestedBy model) predicate) ?_ ?_ ?_ ?_ compiled
  · intro _ _ _ _ tested
    exact .criterion tested
  · intro _ _ _ _ _ each
    exact .and each
  · intro _ _ _ _ _ each
    exact .or each
  · intro _ _ _ only
    exact .not only

/-- The predicate of a filter that stands at some depth ends where the settings allow. -/
theorem outcomeAt_depth_le {filter : Filter} {depth : Nat} {predicate : Predicate}
    (compiled : outcomeAt (standard config) model depth filter = .ok predicate) :
    depth + predicate.depth ≤ config.maxDepth + 1 := by
  -- The children of a group are as deep as the group without its own level.
  have below {depth : Nat} {children : List Filter} {images : List Predicate}
      (fits : depth ≤ config.maxDepth)
      (each : List.Forall₂ (fun _ image => depth + 1 + image.depth ≤ config.maxDepth + 1)
        children images) : depth + (Predicate.depths images + 1) ≤ config.maxDepth + 1 := by
    have bounded : Predicate.depths images ≤ config.maxDepth - depth := by
      refine Predicate.depths_le fun image member => ?_
      have within := forall_mem_of_forall₂_right each image member
      omega
    omega
  refine outcomeAt_induction (motive := fun depth _ predicate =>
    depth + predicate.depth ≤ config.maxDepth + 1) ?_ ?_ ?_ ?_ compiled
  · -- A test of one attribute takes one level.
    intro depth _ _ fits tested
    obtain ⟨subject, -, -, tests⟩ := tested
    rw [tests.depth_eq_one]
    omega
  · -- A conjunction and a disjunction both take one level more than their children.
    intro depth children images fits _ each
    rw [Predicate.depth]
    exact below fits each
  · intro depth children images fits _ each
    rw [Predicate.depth]
    exact below fits each
  · -- A negation takes one level more than what it negates.
    intro depth child image only
    rw [Predicate.depth]
    omega

/-- Every node in the predicate of a filter has the members that it needs. -/
theorem outcomeAt_filled {filter : Filter} {depth : Nat} {predicate : Predicate}
    (compiled : outcomeAt (standard config) model depth filter = .ok predicate) :
    ∀ node ∈ predicate.nodes, node.IsFilled := by
  -- The nodes of a group are the group itself and the nodes of its children.
  have within {children : List Filter} {images : List Predicate}
      (each : List.Forall₂ (fun _ image => ∀ node ∈ image.nodes, node.IsFilled) children images) :
      ∀ node ∈ Predicate.allNodes images, node.IsFilled := by
    intro node member
    obtain ⟨image, chosen, inside⟩ := Predicate.mem_allNodes_iff.mp member
    exact forall_mem_of_forall₂_right each image chosen node inside
  refine outcomeAt_induction (motive := fun _ _ predicate =>
    ∀ node ∈ predicate.nodes, node.IsFilled) ?_ ?_ ?_ ?_ compiled
  · -- A test of one attribute is its own only node.
    intro _ _ predicate _ tested
    obtain ⟨subject, -, -, tests⟩ := tested
    rw [tests.nodes_eq]
    exact List.forall_mem_singleton.mpr tests.isFilled
  · -- A group is compiled only if it has the children that its combinator asks for.
    intro _ children images _ enough each
    rw [Predicate.nodes]
    exact List.forall_mem_cons.mpr ⟨enough, within each⟩
  · intro _ children images _ enough each
    rw [Predicate.nodes]
    exact List.forall_mem_cons.mpr ⟨enough, within each⟩
  · -- A negation needs no more than the one that it negates.
    intro _ child image only
    rw [Predicate.nodes]
    exact List.forall_mem_cons.mpr ⟨trivial, only⟩

/-- Sort terms have the split paths and the directions of the sort keys that they are made of. -/
theorem compileSort_eq_map {sort : List SortKey} {terms : List SortTerm}
    (compiled : compileSort Backend.predicates model sort = .ok terms) :
    terms = sort.map fun key => ⟨AttributePath.ofText key.field, key.direction⟩ := by
  -- Each key is resolved to an attribute that has its own path.
  rw [compileSort_eq_mapM, mapM_eq_ok_iff] at compiled
  induction compiled with
  | nil => rfl
  | cons made _ ih =>
    obtain ⟨subject, resolved, same⟩ := bind_eq_ok_iff.mp made
    cases same
    have path := (model.resolve_eq_ok (mapError_eq_ok_iff.mp resolved)).1
    rw [List.map_cons, ← ih, ← path]
    rfl

/-- A compiled query is well formed.

Its predicate mirrors the filter, with a test of the attribute that a criterion's path leads to for
each criterion; it is no deeper than the settings allow, and no combination or list in it has too
few members. Its sort terms are the sort keys with their paths split. -/
theorem compile_isWellFormed {filter : Filter} {sort : List SortKey} {query : RowQuery}
    (compiled : (standard config).compile model ⟨some filter, sort⟩ = .ok query) :
    filter.IsMirroredBy (Criterion.IsTestedBy model) query.predicate ∧
      query.predicate.depth ≤ config.maxDepth ∧
      (∀ node ∈ query.predicate.nodes, node.IsFilled) ∧
      query.order = sort.map fun key => ⟨AttributePath.ofText key.field, key.direction⟩ := by
  -- The filter is compiled at the first level, and the sort keys come after it.
  obtain ⟨made, sorted⟩ := (compile_some_eq_ok_iff _ _).mp compiled
  have deep := outcomeAt_depth_le made
  exact ⟨outcomeAt_mirrors made, by omega, outcomeAt_filled made, compileSort_eq_map sorted⟩

/-- A filter for full-time students by their credits, given as text, or for students with other
grades than some. -/
def fullTime : Filter :=
  .group .or
    [ .group .and
        [ .criterion ⟨"isFullTime", .isTrue, []⟩,
          .criterion ⟨"credits", .between, [.text "3", .text "12"]⟩ ],
      .group .not [.criterion ⟨"gpaLetter", .isIn, [.text "A", .int 4]⟩] ]

/-- The query of a search with the filter for full-time students is well formed, three levels deep
as it is allowed to be. -/
theorem compile_isWellFormed_fullTime :
    ∃ query : RowQuery, (standard ⟨3, false⟩).compile School.student
        ⟨some fullTime, [⟨"community.className", .descending⟩]⟩ = .ok query ∧
      query.predicate.depth = 3 ∧
      fullTime.IsMirroredBy (Criterion.IsTestedBy School.student) query.predicate ∧
      (∀ node ∈ query.predicate.nodes, node.IsFilled) ∧
      query.order = [⟨⟨["community", "className"]⟩, .descending⟩] := by
  -- The query is computed, and its form is what the theorem says of it.
  refine ⟨_, rfl, rfl, ?_⟩
  obtain ⟨mirrored, -, filled, -⟩ := @compile_isWellFormed ⟨3, false⟩ School.student fullTime
    [⟨"community.className", .descending⟩] _ rfl
  exact ⟨mirrored, filled, rfl⟩

end Compiler

end Criteria

import Criteria.Proofs.Compiler.Faults
import Criteria.Proofs.Compiler.Meaning

/-! The order of siblings in a filter makes no difference to what compiles and what is selected. -/

namespace Criteria

/-- Two lists of operands are the same to an operation, which looks past the order of the members of
a list and at nothing else. -/
def Operation.Reorders (operands others : List Value) : Operation → Prop
  | .isIn | .notIn => operands.Perm others
  | _ => operands = others

/-- Two lists of children are the same to a combinator up to order, if it has several children. -/
def Combinator.Reorders (children others : List Filter) : Combinator → Prop
  | .and | .or => children.Perm others
  | .not => children = others

/-- Two filters differ at most in the order of the children of conjunctions and disjunctions and of
the members of lists, at any depth. -/
inductive Filter.Rearranges : Filter → Filter → Prop
  | criterion (field : String) {operation : Operation} {operands others : List Value}
      (order : operation.Reorders operands others) :
      Rearranges (.criterion ⟨field, operation, operands⟩) (.criterion ⟨field, operation, others⟩)
  -- The children are rearranged themselves first, and change places then.
  | group {combinator : Combinator} {children middle others : List Filter}
      (each : List.Forall₂ Rearranges children middle)
      (order : combinator.Reorders middle others) :
      Rearranges (.group combinator children) (.group combinator others)

/-- Two requests have the same sort keys, and filters that differ at most in the order of siblings. -/
structure SearchRequest.Rearranges (left right : SearchRequest) : Prop where
  filter : Option.Rel Filter.Rearranges left.filter right.filter
  sort : left.sort = right.sort

/-- Children that are the same to a combinator are the same up to order. -/
theorem Combinator.Reorders.perm {combinator : Combinator} {children others : List Filter}
    (order : combinator.Reorders children others) : children.Perm others := by
  -- Only the one child of a negation stays where it is.
  cases combinator with
  | and | or => exact order
  | not => exact .of_eq order

namespace Filter

/-- What all children of a group have in common is what those of a rearranged group have. -/
theorem forall_mem_iff_of_reorders {property : Filter → Prop} {combinator : Combinator}
    {children middle others : List Filter}
    (same : List.Forall₂ (fun child image => property image ↔ property child) children middle)
    (order : combinator.Reorders middle others) :
    (∀ child ∈ others, property child) ↔ ∀ child ∈ children, property child := by
  -- The children have the same images, and these only change places.
  rw [← forall_mem_iff_of_forall₂ same]
  exact forall_congr' fun child => imp_congr_left order.perm.mem_iff.symm

/-- What some child of a group has is what some child of a rearranged group has. -/
theorem exists_mem_iff_of_reorders {property : Filter → Prop} {combinator : Combinator}
    {children middle others : List Filter}
    (same : List.Forall₂ (fun child image => property image ↔ property child) children middle)
    (order : combinator.Reorders middle others) :
    (∃ child ∈ others, property child) ↔ ∃ child ∈ children, property child := by
  -- The children have the same images, and these only change places.
  rw [← exists_mem_iff_of_forall₂ same]
  exact exists_congr fun child => and_congr_left' order.perm.mem_iff.symm

/-- A rearranged filter holds as the filter does, if the order of operands makes no difference to
its criteria. -/
theorem Rearranges.holds_iff {met : Criterion → Prop}
    (alike : ∀ field operation operands others, Operation.Reorders operands others operation →
      (met ⟨field, operation, others⟩ ↔ met ⟨field, operation, operands⟩))
    {left right : Filter} (rearranged : left.Rearranges right) :
    right.Holds met ↔ left.Holds met := by
  -- The induction follows the tree on the left, which the one on the right has the shape of.
  induction left generalizing right with
  | criterion condition =>
    cases rearranged with
    | criterion field order =>
      rw [Holds, Holds]
      exact alike _ _ _ _ order
  | group combinator children ih =>
    cases rearranged with
    | group each order =>
      -- Each child holds where its counterpart does.
      have same := forall₂_imp_of_mem each fun child member image => ih child member
      cases combinator with
      -- All of the children hold, or one of them, in whatever order they stand.
      | and =>
        rw [Holds, Holds]
        exact forall_mem_iff_of_reorders same order
      | or =>
        rw [Holds, Holds]
        simp only [exists_prop]
        exact exists_mem_iff_of_reorders same order
      -- A negation keeps its children in their places, so each is replaced by its counterpart.
      | not =>
        rw [Holds, Holds]
        exact forall_mem_iff_of_reorders (same.imp fun _ _ => not_congr) order

/-- The nodes of a rearranged filter pass a test if those of the filter do, and only then, if the
test looks at the number of children of a group alone and past the order of operands. -/
theorem Rearranges.forall_mem_preorder_iff {passes : Nat × Filter → Prop}
    (criteria : ∀ depth field operation operands others,
      Operation.Reorders operands others operation →
      (passes (depth, .criterion ⟨field, operation, others⟩) ↔
        passes (depth, .criterion ⟨field, operation, operands⟩)))
    (groups : ∀ depth combinator children others, others.length = children.length →
      (passes (depth, .group combinator others) ↔ passes (depth, .group combinator children)))
    {left right : Filter} (rearranged : left.Rearranges right) (depth : Nat) :
    (∀ node ∈ right.preorder depth, passes node) ↔
      ∀ node ∈ left.preorder depth, passes node := by
  -- The induction follows the tree, with the depth left open for the children.
  induction left generalizing right depth with
  | criterion condition =>
    cases rearranged with
    -- A criterion is its own only node.
    | criterion field order =>
      rw [preorder, preorder, List.forall_mem_singleton, List.forall_mem_singleton]
      exact criteria _ _ _ _ _ order
  | group combinator children ih =>
    cases rearranged with
    | @group _ _ middle others each order =>
      -- The group itself is as large as before, and the nodes below it are those of its children.
      have length : others.length = children.length :=
        order.perm.length_eq.symm.trans each.length_eq.symm
      have same := forall₂_imp_of_mem each fun child member image rearranged =>
        ih child member rearranged (depth + 1)
      rw [preorder, preorder, List.forall_mem_cons, List.forall_mem_cons, preorders_eq_flatMap,
        preorders_eq_flatMap, List.forall_mem_flatMap, List.forall_mem_flatMap]
      exact and_congr (groups _ _ _ _ length) (forall_mem_iff_of_reorders same order)

end Filter

/-- The order of operands makes no difference to whether a criterion is satisfied. -/
theorem Operation.Reorders.isSatisfied_iff {operation : Operation} {operands others : List Value}
    (order : operation.Reorders operands others) (config : Config) (model : EntityModel)
    (row : Row) (field : String) :
    Criterion.IsSatisfied config model row ⟨field, operation, others⟩ ↔
      Criterion.IsSatisfied config model row ⟨field, operation, operands⟩ := by
  -- The path leads to the same value, so only the operands matter.
  unfold Criterion.IsSatisfied
  refine exists_congr fun subject => and_congr_right fun _ => ?_
  cases operation with
  -- A value is looked for among the members of a list, wherever they stand.
  | isIn =>
    have members : operands.Perm others := order
    simp only [Operation.IsMet, members.mem_iff]
  | notIn =>
    have members : operands.Perm others := order
    have empty : others = [] ↔ operands = [] := by
      rw [← List.length_eq_zero_iff, ← List.length_eq_zero_iff, members.length_eq]
    simp only [Operation.IsMet, members.mem_iff, empty]
  -- The operands of all other operations keep their places.
  | equal | notEqual | lessThan | lessThanEqual | greaterThan | greaterThanEqual | between | like
    | notLike | isNull | isNotNull | isTrue | isFalse | isEmptyString | isNotEmptyString =>
    have same : operands = others := order
    rw [same]

/-- The order of operands makes no difference to the faults of a criterion. -/
theorem Operation.Reorders.faults_eq {operation : Operation} {operands others : List Value}
    (order : operation.Reorders operands others) (registry : Registry Entry) (model : EntityModel)
    (field : String) :
    Criterion.faults registry model ⟨field, operation, others⟩ =
      Criterion.faults registry model ⟨field, operation, operands⟩ := by
  cases operation with
  -- Lists may have any number of members, which are not converted.
  | isIn | notIn => rfl
  | equal | notEqual | lessThan | lessThanEqual | greaterThan | greaterThanEqual | between | like
    | notLike | isNull | isNotNull | isTrue | isFalse | isEmptyString | isNotEmptyString =>
    have same : operands = others := order
    rw [same]

/-- Queries with the same sort terms that keep the same rows select the same records in the same
order. -/
theorem Query.select?_congr {query other : RowQuery} (order : other.order = query.order)
    (kept : ∀ row, other.predicate.holds row = query.predicate.holds row) {α : Type}
    (row : α → Row) (records : List α) :
    other.select? row records = query.select? row records := by
  -- Selecting looks at nothing but the kept rows and the sort terms.
  unfold select?
  rw [order]
  simp only [kept]

namespace Compiler

variable {config : Config} {model : EntityModel} {left right : SearchRequest}

/-- A rearranged request has faults if and only if the request has some. -/
theorem faults_eq_nil_iff_of_rearranges {P O : Type} (compiler : Compiler P O)
    (rearranged : left.Rearranges right) :
    compiler.faults model right = [] ↔ compiler.faults model left = [] := by
  rcases left with ⟨filter, sort⟩
  rcases right with ⟨filter', sort'⟩
  obtain ⟨filters, rfl⟩ := rearranged
  unfold faults
  rw [List.append_eq_nil_iff, List.append_eq_nil_iff, List.flatMap_eq_nil_iff,
    List.flatMap_eq_nil_iff]
  -- The sort keys are the same, so only the nodes of the filters are left to compare.
  refine and_congr_left' ?_
  cases filters with
  -- Without a filter, there are no nodes.
  | none => exact Iff.rfl
  | some rearranged =>
    refine rearranged.forall_mem_preorder_iff ?_ ?_ 1
    · -- The faults of a criterion are the same for any order of its operands.
      intro depth field operation operands others order
      have same := order.faults_eq compiler.registry model field
      simp only [nodeFaults, Filter.ownFaults, same]
    · -- Those of a group depend on the number of its children.
      intro depth combinator children others length
      simp only [nodeFaults, Filter.ownFaults, length]

/-- The query of a rearranged request keeps the same rows as the query of the request. -/
theorem holds_eq_of_rearranges {query other : RowQuery} (rearranged : left.Rearranges right)
    (compiled : (standard config).compile model left = .ok query)
    (compiled' : (standard config).compile model right = .ok other) (row : Row) :
    other.predicate.holds row = query.predicate.holds row := by
  -- Both predicates hold of the rows that satisfy their requests.
  have meaning {request : SearchRequest} {query : RowQuery}
      (compiled : (standard config).compile model request = .ok query) :
      query.predicate.holds row = true ↔ request.IsSatisfied config model row :=
    compile_holds_iff Backend.predicates_isLogical
      (fun _ _ _ made => criterionOutcome_holds_iff config model row made) compiled
  rw [Bool.eq_iff_iff, meaning compiled, meaning compiled']
  rcases left with ⟨filter, sort⟩
  rcases right with ⟨filter', sort'⟩
  obtain ⟨filters, -⟩ := rearranged
  -- Without a filter, both requests are satisfied by every row.
  cases filters with
  | none => exact Iff.rfl
  | some alike =>
    have same := alike.holds_iff fun field _ _ _ order =>
      order.isSatisfied_iff config model row field
    simpa [SearchRequest.IsSatisfied, SearchRequest.Holds] using same

/-- The sort terms of a query are compiled from the sort keys alone. -/
theorem compileSort_eq_ok_of_compile {P O : Type} {compiler : Compiler P O}
    {request : SearchRequest} {query : Query P O}
    (compiled : compiler.compile model request = .ok query) :
    compileSort compiler.backend model request.sort = .ok query.order := by
  -- The sort keys come last, whether there is a filter or not.
  rcases request with ⟨filter, sort⟩
  cases filter with
  | none => exact ((compile_none_eq_ok_iff _ _).mp compiled).2
  | some filter => exact ((compile_some_eq_ok_iff _ _).mp compiled).2

/-- Requests that differ at most in the order of siblings compile together, and their queries select
the same records of any list in the same order. -/
theorem compile_rearranged (rearranged : left.Rearranges right) :
    ((∃ query, (standard config).compile model left = .ok query) ↔
      ∃ query, (standard config).compile model right = .ok query) ∧
    ∀ query other, (standard config).compile model left = .ok query →
      (standard config).compile model right = .ok other →
      ∀ (α : Type) (row : α → Row) (records : List α),
        other.select? row records = query.select? row records := by
  -- Faults are compared for the one half, and the queries themselves for the other.
  constructor
  · -- What compiles is what has no faults.
    have reports (request : SearchRequest) :
        Reports ((standard config).compile model request)
          ((standard config).faults model request) :=
      compile_reports Registry.onlyStandard_standard request
    rw [(reports left).exists_ok_iff, (reports right).exists_ok_iff]
    exact (faults_eq_nil_iff_of_rearranges (standard config) rearranged).symm
  · -- The two queries have the same sort terms and keep the same rows.
    intro query other compiled compiled' α row records
    have sorted := compileSort_eq_ok_of_compile compiled
    have sorted' := compileSort_eq_ok_of_compile compiled'
    rw [rearranged.sort] at sorted
    have order : other.order = query.order := Except.ok.inj (sorted'.symm.trans sorted)
    exact Query.select?_congr order (holds_eq_of_rearranges rearranged compiled compiled')
      row records

/-- A search for the students with a good grade or an even better one, in some classes. -/
def goodGrades : SearchRequest :=
  ⟨some (.group .and
    [ .criterion ⟨"community.className", .notIn, [.text "Class 9A", .null, .text "Class 10B"]⟩,
      .group .not
        [ .group .or
          [ .criterion ⟨"gpaLetter", .isIn, [.text "C+", .text "B-"]⟩,
            .criterion ⟨"gpa", .between, [.int 0, .text "3.0"]⟩ ] ] ]),
    [⟨"gpaLetter", .descending⟩]⟩

/-- The search for good grades with all its siblings in another order. -/
def goodGradesReversed : SearchRequest :=
  ⟨some (.group .and
    [ .group .not
        [ .group .or
          [ .criterion ⟨"gpa", .between, [.int 0, .text "3.0"]⟩,
            .criterion ⟨"gpaLetter", .isIn, [.text "B-", .text "C+"]⟩ ] ],
      .criterion ⟨"community.className", .notIn, [.text "Class 10B", .null, .text "Class 9A"]⟩ ]),
    [⟨"gpaLetter", .descending⟩]⟩

/-- Both searches for good grades select the same students in the same order. -/
theorem compile_rearranged_goodGrades :
    goodGrades.Rearranges goodGradesReversed ∧
      ∃ query other, (standard .default).compile School.student goodGrades = .ok query ∧
        (standard .default).compile School.student goodGradesReversed = .ok other ∧
        other.select? School.StudentRecord.row School.students =
          query.select? School.StudentRecord.row School.students := by
  -- The two lists of operands are reversed, and the bounds of the range keep their places.
  have letters : Filter.Rearranges (.criterion ⟨"gpaLetter", .isIn, [.text "C+", .text "B-"]⟩)
      (.criterion ⟨"gpaLetter", .isIn, [.text "B-", .text "C+"]⟩) :=
    .criterion _ (List.reverse_perm [Value.text "C+", .text "B-"]).symm
  have classes : Filter.Rearranges
      (.criterion ⟨"community.className", .notIn, [.text "Class 9A", .null, .text "Class 10B"]⟩)
      (.criterion ⟨"community.className", .notIn, [.text "Class 10B", .null, .text "Class 9A"]⟩) :=
    .criterion _ (List.reverse_perm [Value.text "Class 9A", .null, .text "Class 10B"]).symm
  have grades : Filter.Rearranges (.criterion ⟨"gpa", .between, [.int 0, .text "3.0"]⟩)
      (.criterion ⟨"gpa", .between, [.int 0, .text "3.0"]⟩) := .criterion _ rfl
  -- The children of each group are taken in turn first, and change places then.
  have either : Filter.Rearranges
      (.group .or
        [ .criterion ⟨"gpaLetter", .isIn, [.text "C+", .text "B-"]⟩,
          .criterion ⟨"gpa", .between, [.int 0, .text "3.0"]⟩ ])
      (.group .or
        [ .criterion ⟨"gpa", .between, [.int 0, .text "3.0"]⟩,
          .criterion ⟨"gpaLetter", .isIn, [.text "B-", .text "C+"]⟩ ]) :=
    .group (.cons letters (.cons grades .nil)) (List.Perm.swap _ _ _)
  have neither := Filter.Rearranges.group (.cons either .nil)
    (show Combinator.Reorders _ _ .not from rfl)
  have rearranged : goodGrades.Rearranges goodGradesReversed :=
    ⟨.some (.group (.cons classes (.cons neither .nil)) (List.Perm.swap _ _ _)), rfl⟩
  -- Both requests compile, so what they select is the same.
  obtain ⟨query, compiled⟩ :
      ∃ query, (standard .default).compile School.student goodGrades = .ok query := ⟨_, rfl⟩
  obtain ⟨other, compiled'⟩ :
      ∃ query, (standard .default).compile School.student goodGradesReversed = .ok query :=
    ⟨_, rfl⟩
  exact ⟨rearranged, query, other, compiled, compiled',
    (compile_rearranged rearranged).2 _ _ compiled compiled' _ _ _⟩

end Compiler

end Criteria

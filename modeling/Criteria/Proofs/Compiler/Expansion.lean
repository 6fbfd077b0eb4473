import Criteria.Proofs.Compiler.Faults
import Criteria.Proofs.Compiler.Meaning

/-! Ranges and lists ask for the same as groups of simple comparisons. -/

namespace Criteria

namespace Value

/-- An operand converts to itself in a kind: to the operand as it is, or to one equal to it. -/
def ConvertsToItself (kind : FieldKind) (raw : Value) : Prop :=
  raw.ConvertsTo kind fun native => native = raw ∨ native.same raw = true

/-- An operand that converts to itself compares before and after in the same way. -/
theorem ConvertsToItself.compares_iff {kind : FieldKind} {raw : Value}
    (itself : raw.ConvertsToItself kind) (value : Value) (orders : List Ordering) :
    raw.ConvertsTo kind (value.Compares orders) ↔ value.Compares orders raw := by
  -- The native value is the operand or equal to it, and equal values compare alike.
  obtain ⟨native, converted, same⟩ := itself
  have alike : value.compare? native = value.compare? raw :=
    same.elim (fun equal => equal ▸ rfl) fun equal => compare?_congr_of_same equal value
  rw [convertsTo_iff converted, Compares, Compares, alike]

end Value

/-- An operation takes operands on an attribute of some kind: as many of them as it needs, on a
kind that it can be applied to, and each of them can be converted unless they are the members of a
list. -/
structure Operation.Takes (kind : FieldKind) (operands : List Value) (operation : Operation) :
    Prop where
  counted : (Entry.standard operation).arity.accepts operands.length = true
  suited : (Entry.standard operation).requirement.admits kind = true
  converted (coerces : (Entry.standard operation).coerces = true) :
    ∀ raw ∈ operands, ∃ native, raw.coerce kind = .ok native

/-- A criterion can be compiled: its path leads to an attribute on which its operation takes its
operands. -/
def Criterion.IsTaken (model : EntityModel) (condition : Criterion) : Prop :=
  ∃ subject, model.resolve condition.field = .ok subject ∧
    condition.operation.Takes subject.kind condition.operands

/-- Operands can be prepared for an entry exactly if each can be converted, if they must be. -/
theorem Entry.exists_prepares_iff {entry : Entry} {kind : FieldKind} {raws : List Value} :
    (∃ operands, entry.Prepares kind raws operands) ↔
      (entry.coerces = true → ∀ raw ∈ raws, ∃ native, raw.coerce kind = .ok native) := by
  -- An entry that does not convert prepares all operands, as they are.
  unfold Prepares
  split
  · rename_i coerces
    rw [forall_prop_of_true coerces]
    -- Operands are converted one by one.
    induction raws with
    | nil => simp
    | cons raw rest ih => simp [List.forall₂_cons_left_iff, ← ih]
  · rename_i kept
    simp [kept]

/-- A number of children has no faults exactly if the combinator admits it. -/
theorem Combinator.faults_eq_nil_iff {combinator : Combinator} {count : Nat} :
    combinator.faults count = [] ↔ combinator.Admits count := by
  -- No combinator admits a group without children.
  have nonempty (admitted : combinator.Admits count) : count ≠ 0 := by
    rintro rfl
    cases combinator <;> simp [Admits] at admitted
  -- So a number that is admitted passes both tests, and any other one fails the second.
  unfold faults
  by_cases admitted : combinator.Admits count
  · simp [admitted, nonempty admitted]
  · simp [admitted]

/-- A group with one criterion for each operand, all of them on one attribute and with one
operation. -/
def Filter.oneEach (combinator : Combinator) (field : String) (operation : Operation)
    (operands : List Value) : Filter :=
  .group combinator
    ((operands.map fun operand => (⟨field, operation, [operand]⟩ : Criterion)).map .criterion)

/-- A disjunction of one criterion for each operand holds if one of them is met. -/
theorem Filter.oneEach_or_holds_iff {met : Criterion → Prop} {field : String}
    {operation : Operation} {operands : List Value} :
    (oneEach .or field operation operands).Holds met ↔
      ∃ operand ∈ operands, met ⟨field, operation, [operand]⟩ := by
  simp [oneEach, Holds]

/-- A conjunction of one criterion for each operand holds if all of them are met. -/
theorem Filter.oneEach_and_holds_iff {met : Criterion → Prop} {field : String}
    {operation : Operation} {operands : List Value} :
    (oneEach .and field operation operands).Holds met ↔
      ∀ operand ∈ operands, met ⟨field, operation, [operand]⟩ := by
  simp [oneEach, Holds]

namespace Compiler

variable {config : Config} {model : EntityModel}

/-- A criterion has no faults exactly if it can be compiled. -/
theorem criterion_faults_eq_nil_iff {condition : Criterion} :
    condition.faults .standard model = [] ↔ condition.IsTaken model := by
  -- What settles has no faults, and settling is done in the steps of the definition.
  have reports : Reports ((standard .default).settle model condition)
      (condition.faults (standard .default).registry model) :=
    settle_reports Registry.onlyStandard_standard condition
  rw [show Registry.standard = (standard .default).registry from rfl, ← reports.exists_ok_iff]
  constructor
  · -- What is settled has an attribute and operands to show for it.
    rintro ⟨⟨subject, entry, operands⟩, settled⟩
    obtain ⟨resolved, registered, counted, suited, prepared⟩ := (settle_eq_ok_iff _ _).mp settled
    cases (Registry.get_standard condition.operation).symm.trans registered
    exact ⟨subject, resolved, counted, suited, Entry.exists_prepares_iff.mp ⟨operands, prepared⟩⟩
  · -- From an attribute that takes the operands, the criterion is settled.
    rintro ⟨subject, resolved, counted, suited, converted⟩
    obtain ⟨operands, prepared⟩ := Entry.exists_prepares_iff.mpr converted
    exact ⟨(subject, .standard condition.operation, operands), (settle_eq_ok_iff _ _).mpr
      ⟨resolved, Registry.get_standard condition.operation, counted, suited, prepared⟩⟩

/-- A node has no faults exactly if it stands high enough and is right by itself. -/
theorem nodeFaults_eq_nil_iff {depth : Nat} {node : Filter} :
    (standard config).nodeFaults model (depth, node) = [] ↔
      depth ≤ config.maxDepth ∧ node.ownFaults .standard model = [] := by
  -- The faults of the depth come in front of those of the node.
  unfold nodeFaults
  rw [List.append_eq_nil_iff]
  refine and_congr_left' ?_
  change (if config.maxDepth < depth then _ else _) = _ ↔ _
  rw [ite_eq_right_iff]
  simp

/-- A request for a criterion alone compiles exactly if the criterion and the sort keys do. -/
theorem exists_compile_criterion_iff (deep : 1 ≤ config.maxDepth) {condition : Criterion}
    {sort : List SortKey} :
    (∃ query, (standard config).compile model ⟨some (.criterion condition), sort⟩ = .ok query) ↔
      condition.IsTaken model ∧ sort.filterMap (SortKey.fault? model) = [] := by
  -- A request compiles exactly if it has no faults, and its filter has one node.
  rw [(compile_reports Registry.onlyStandard_standard _).exists_ok_iff, faults,
    List.append_eq_nil_iff]
  simp only [Option.map_some, Option.getD_some, Filter.preorder, List.flatMap_singleton,
    nodeFaults_eq_nil_iff, Filter.ownFaults, criterion_faults_eq_nil_iff, deep, true_and]

/-- A request for a group of criteria compiles exactly if the combinator admits their number and
the criteria and the sort keys compile. -/
theorem exists_compile_group_iff (deep : 2 ≤ config.maxDepth) {combinator : Combinator}
    {conditions : List Criterion} {sort : List SortKey} :
    (∃ query, (standard config).compile model
        ⟨some (.group combinator (conditions.map .criterion)), sort⟩ = .ok query) ↔
      (combinator.Admits conditions.length ∧ ∀ condition ∈ conditions, condition.IsTaken model) ∧
        sort.filterMap (SortKey.fault? model) = [] := by
  -- A request compiles exactly if it has no faults, and its filter has two levels of nodes.
  have top : 1 ≤ config.maxDepth := by omega
  rw [(compile_reports Registry.onlyStandard_standard _).exists_ok_iff, faults,
    List.append_eq_nil_iff]
  simp only [Option.map_some, Option.getD_some, Filter.preorder, Filter.preorders_eq_flatMap,
    List.flatMap_map, List.flatMap_cons, List.append_eq_nil_iff, List.flatMap_eq_nil_iff,
    ← List.map_eq_flatMap, nodeFaults_eq_nil_iff, Filter.ownFaults, List.length_map,
    Combinator.faults_eq_nil_iff, criterion_faults_eq_nil_iff, top, deep, true_and]

/-- Two filters ask for the same of some rows: with any sort keys, one compiles exactly if the other
does, and their queries keep the same of these rows. -/
structure AskAlike (config : Config) (model : EntityModel) (among : Row → Prop)
    (left right : Filter) : Prop where
  compiles (sort : List SortKey) :
    (∃ query, (standard config).compile model ⟨some left, sort⟩ = .ok query) ↔
      ∃ query, (standard config).compile model ⟨some right, sort⟩ = .ok query
  keeps {sort : List SortKey} {query other : RowQuery}
    (compiled : (standard config).compile model ⟨some left, sort⟩ = .ok query)
    (compiled' : (standard config).compile model ⟨some right, sort⟩ = .ok other) {row : Row}
    (member : among row) : query.predicate.holds row = other.predicate.holds row

/-- The query of a filter keeps the rows on which the filter holds with the criteria that they
satisfy. -/
theorem holds_iff_of_compile {filter : Filter} {sort : List SortKey} {query : RowQuery}
    (compiled : (standard config).compile model ⟨some filter, sort⟩ = .ok query) (row : Row) :
    query.predicate.holds row = true ↔
      filter.Holds fun condition => condition.IsSatisfied config model row := by
  -- A request with a filter holds as its filter does.
  have meaning := compile_holds_iff Backend.predicates_isLogical
    (fun _ _ _ made => criterionOutcome_holds_iff config model row made) compiled
  simpa [SearchRequest.Holds] using meaning

/-- A criterion asks for the same as a group of criteria if it compiles exactly when all of them do
and is satisfied exactly when the group holds. -/
theorem AskAlike.of_criteria (deep : 2 ≤ config.maxDepth) {among : Row → Prop}
    {condition : Criterion} {combinator : Combinator} {conditions : List Criterion}
    (admitted : combinator.Admits conditions.length)
    (taken : condition.IsTaken model ↔ ∀ part ∈ conditions, part.IsTaken model)
    (satisfied : ∀ row, among row → (condition.IsSatisfied config model row ↔
      (Filter.group combinator (conditions.map .criterion)).Holds
        fun part => part.IsSatisfied config model row)) :
    AskAlike config model among (.criterion condition)
      (.group combinator (conditions.map .criterion)) where
  compiles sort := by
    -- The faults of the two requests differ in their filters only.
    have top : 1 ≤ config.maxDepth := by omega
    rw [exists_compile_criterion_iff top, exists_compile_group_iff deep, taken]
    simp only [admitted, true_and]
  keeps compiled compiled' row member := by
    -- Either predicate holds as its own filter does.
    rw [Bool.eq_iff_iff, holds_iff_of_compile compiled, holds_iff_of_compile compiled',
      Filter.Holds]
    exact satisfied row member

/-- A range can be compiled exactly if the comparisons with its two bounds can. -/
theorem isTaken_between_iff {field : String} {low high : Value} :
    Criterion.IsTaken model ⟨field, .between, [low, high]⟩ ↔
      Criterion.IsTaken model ⟨field, .greaterThanEqual, [low]⟩ ∧
        Criterion.IsTaken model ⟨field, .lessThanEqual, [high]⟩ := by
  -- All three operations are for the same kinds, and convert their operands.
  have parts (kind : FieldKind) : Operation.Takes kind [low, high] .between ↔
      Operation.Takes kind [low] .greaterThanEqual ∧
        Operation.Takes kind [high] .lessThanEqual := by
    constructor
    · -- A range converts each of its bounds.
      rintro ⟨-, suited, converted⟩
      obtain ⟨below, above⟩ := List.forall_mem_cons.mp (converted rfl)
      exact ⟨⟨rfl, suited, fun _ => List.forall_mem_singleton.mpr below⟩,
        ⟨rfl, suited, fun _ => above⟩⟩
    · rintro ⟨⟨-, suited, below⟩, ⟨-, -, above⟩⟩
      have low_converted := below rfl low (List.mem_singleton_self low)
      exact ⟨rfl, suited, fun _ => List.forall_mem_cons.mpr ⟨low_converted, above rfl⟩⟩
  -- All three criteria have the same path.
  unfold Criterion.IsTaken
  cases model.resolve field with
  | error => simp
  | ok subject => simp [parts]

variable (config model) in
/-- A range asks of every row for the same as its two bounds together. -/
theorem between_asks_alike (deep : 2 ≤ config.maxDepth) (field : String) (low high : Value) :
    AskAlike config model (fun _ => True) (.criterion ⟨field, .between, [low, high]⟩)
      (.group .and [ .criterion ⟨field, .greaterThanEqual, [low]⟩,
        .criterion ⟨field, .lessThanEqual, [high]⟩ ]) := by
  -- The conjunction has one criterion for each bound.
  change AskAlike config model _ _ (.group .and (List.map Filter.criterion
    [⟨field, .greaterThanEqual, [low]⟩, ⟨field, .lessThanEqual, [high]⟩]))
  refine .of_criteria deep (Nat.le_refl 2) ?_ fun row _ => ?_
  · rw [isTaken_between_iff, List.forall_mem_cons, List.forall_mem_singleton]
  · -- The bounds are tested on the value at one and the same path.
    unfold Criterion.IsSatisfied
    cases resolved : model.resolve field with
    | error => simp [Filter.Holds, resolved]
    | ok subject => simp [Filter.Holds, resolved, Operation.IsMet]

section Lists

variable {field : String} {subject : Attribute} {members : List Value}

/-- A list of any operands can be compiled where its path leads to an attribute. -/
theorem isTaken_list {operation : Operation} (list : operation = .isIn ∨ operation = .notIn)
    (resolved : model.resolve field = .ok subject) (members : List Value) :
    Criterion.IsTaken model ⟨field, operation, members⟩ := by
  -- A list takes any number of members on any kind, and converts none of them.
  refine ⟨subject, resolved, ?_⟩
  rcases list with rfl | rfl <;>
    exact ⟨of_decide_eq_true rfl, rfl, fun coerces => by cases coerces⟩

/-- A comparison for equality can be compiled where its path leads to an attribute, if its operand
converts to itself. -/
theorem isTaken_equality {single : Operation} (equality : single = .equal ∨ single = .notEqual)
    (resolved : model.resolve field = .ok subject) {member : Value}
    (itself : member.ConvertsToItself subject.kind) :
    Criterion.IsTaken model ⟨field, single, [member]⟩ := by
  -- An equality takes one operand on any kind, if it converts.
  obtain ⟨native, converted, -⟩ := itself
  refine ⟨subject, resolved, ?_⟩
  rcases equality with rfl | rfl <;>
    exact ⟨rfl, rfl, fun _ => List.forall_mem_singleton.mpr ⟨native, converted⟩⟩

/-- A criterion whose path leads to an attribute is satisfied if the value there meets the
operation. -/
theorem isSatisfied_iff (resolved : model.resolve field = .ok subject) {operation : Operation}
    {operands : List Value} {row : Row} :
    Criterion.IsSatisfied config model row ⟨field, operation, operands⟩ ↔
      operation.IsMet config subject.kind (row subject.path) operands := by
  -- The path leads to one attribute only, and a row is asked for the value at its path.
  unfold Criterion.IsSatisfied
  simp [resolved, (model.resolve_eq_ok resolved).1]

/-- A list asks for the same as comparisons with its members one by one, if it is met by the values
for which these hold together. -/
theorem AskAlike.of_members (deep : 2 ≤ config.maxDepth) {among : Row → Prop}
    {operation single : Operation} {combinator : Combinator}
    (list : operation = .isIn ∨ operation = .notIn)
    (equality : single = .equal ∨ single = .notEqual)
    (resolved : model.resolve field = .ok subject) (admitted : combinator.Admits members.length)
    (itself : ∀ member ∈ members, member.ConvertsToItself subject.kind)
    (met : ∀ row, among row →
      (operation.IsMet config subject.kind (row subject.path) members ↔
        (Filter.oneEach combinator field single members).Holds fun part =>
          part.IsSatisfied config model row)) :
    AskAlike config model among (.criterion ⟨field, operation, members⟩)
      (.oneEach combinator field single members) := by
  -- Both sides compile in any case, so only the rows that they keep are to be compared.
  refine .of_criteria deep (by simpa using admitted) ?_ fun row member => ?_
  · refine iff_of_true (isTaken_list list resolved members) ?_
    rw [List.forall_mem_map]
    exact fun member within => isTaken_equality equality resolved (itself member within)
  · -- Of a row, both ask for the value at the same path.
    rw [isSatisfied_iff resolved]
    exact met row member

/-- A list asks of every row for the same as an equality with one of its members. -/
theorem isIn_asks_alike (deep : 2 ≤ config.maxDepth)
    (resolved : model.resolve field = .ok subject) (several : 2 ≤ members.length)
    (itself : ∀ member ∈ members, member.ConvertsToItself subject.kind) :
    AskAlike config model (fun _ => True) (.criterion ⟨field, .isIn, members⟩)
      (.oneEach .or field .equal members) := by
  -- A value is met by the list if it is equal to a member, and null is equal to none.
  refine .of_members deep (.inl rfl) (.inl rfl) resolved several itself fun row _ => ?_
  rw [Filter.oneEach_or_holds_iff]
  have single (member : Value) (within : member ∈ members) :
      Criterion.IsSatisfied config model row ⟨field, .equal, [member]⟩ ↔
        (row subject.path).compare? member = some .eq := by
    rw [isSatisfied_iff resolved]
    refine ((itself member within).compares_iff _ _).trans ?_
    simp [Value.Compares]
  constructor
  · -- The member that the value is equal to has an equality of its own.
    rintro ⟨-, member, within, equal⟩
    exact ⟨member, within, (single member within).mpr equal⟩
  · -- A value that is equal to a member is not null.
    rintro ⟨member, within, satisfied⟩
    have equal := (single member within).mp satisfied
    exact ⟨Value.ne_null_of_compare?_eq_some equal, member, within, equal⟩

/-- A list asks for the same as inequalities with all its members, of rows whose value is null or
has an order to each member. -/
theorem notIn_asks_alike (deep : 2 ≤ config.maxDepth)
    (resolved : model.resolve field = .ok subject) (several : 2 ≤ members.length)
    (itself : ∀ member ∈ members, member.ConvertsToItself subject.kind) :
    AskAlike config model
      (fun row => row subject.path = .null ∨
        ∀ member ∈ members, ∃ order, (row subject.path).compare? member = some order)
      (.criterion ⟨field, .notIn, members⟩) (.oneEach .and field .notEqual members) := by
  -- A value is met by the list if it is not null and not equal to any member.
  refine .of_members deep (.inr rfl) (.inr rfl) resolved several itself fun row ordered => ?_
  rw [Filter.oneEach_and_holds_iff]
  have single (member : Value) (within : member ∈ members) :
      Criterion.IsSatisfied config model row ⟨field, .notEqual, [member]⟩ ↔
        (row subject.path).Compares [.lt, .gt] member := by
    rw [isSatisfied_iff resolved]
    exact (itself member within).compares_iff _ _
  have nonempty : members ≠ [] := by
    rintro rfl
    cases several
  constructor
  · rintro (empty | ⟨present, apart⟩) member within
    · exact absurd empty nonempty
    · -- A value that is not null has an order to the member, and it is not equality.
      obtain ⟨order, compared⟩ := ordered.resolve_left present member within
      rw [single member within]
      refine ⟨order, ?_, compared⟩
      cases order with
      | lt | gt => simp
      | eq => exact absurd compared (apart member within)
  · -- A value with an order to each member, and never as an equal, is not null.
    intro satisfied
    have unequal (member : Value) (within : member ∈ members) :=
      (single member within).mp (satisfied member within)
    refine .inr ⟨?_, fun member within equal => ?_⟩
    · -- There is some member, and only what is not null has an order to it.
      obtain ⟨member, within⟩ := List.exists_mem_of_ne_nil members nonempty
      obtain ⟨order, -, compared⟩ := unequal member within
      exact Value.ne_null_of_compare?_eq_some compared
    · -- An equal value has the one order that an inequality leaves out.
      obtain ⟨order, listed, compared⟩ := unequal member within
      rw [equal] at compared
      cases compared
      simp at listed

end Lists

/-- Ranges and lists agree with the groups of simple comparisons that they stand for, if groups are
allowed at all: a range with the conjunction of its bounds, and a list of several operands that
convert to themselves with the disjunction of equalities or, where the value of a row is null or
has an order to each member, the conjunction of inequalities. -/
theorem compounds_ask_as_expanded (deep : 2 ≤ config.maxDepth) (model : EntityModel)
    (field : String) :
    (∀ low high, AskAlike config model (fun _ => True)
      (.criterion ⟨field, .between, [low, high]⟩)
      (.group .and [ .criterion ⟨field, .greaterThanEqual, [low]⟩,
        .criterion ⟨field, .lessThanEqual, [high]⟩ ])) ∧
    ∀ subject, model.resolve field = .ok subject → ∀ members : List Value, 2 ≤ members.length →
      (∀ member ∈ members, member.ConvertsToItself subject.kind) →
      (∃ query, (standard config).compile model
        ⟨some (.criterion ⟨field, .isIn, members⟩), []⟩ = .ok query) ∧
      AskAlike config model (fun _ => True) (.criterion ⟨field, .isIn, members⟩)
        (.oneEach .or field .equal members) ∧
      (∃ query, (standard config).compile model
        ⟨some (.criterion ⟨field, .notIn, members⟩), []⟩ = .ok query) ∧
      AskAlike config model
        (fun row => row subject.path = .null ∨
          ∀ member ∈ members, ∃ order, (row subject.path).compare? member = some order)
        (.criterion ⟨field, .notIn, members⟩) (.oneEach .and field .notEqual members) := by
  -- A range is compared as it stands, and a list at the attribute that its path leads to.
  refine ⟨between_asks_alike config model deep field, ?_⟩
  intro subject resolved members several itself
  -- A criterion alone needs one level.
  have compiles {operation : Operation} (list : operation = .isIn ∨ operation = .notIn) :
      ∃ query, (standard config).compile model
        ⟨some (.criterion ⟨field, operation, members⟩), []⟩ = .ok query :=
    (exists_compile_criterion_iff (by omega)).mpr ⟨isTaken_list list resolved members, rfl⟩
  exact ⟨compiles (.inl rfl), isIn_asks_alike deep resolved several itself, compiles (.inr rfl),
    notIn_asks_alike deep resolved several itself⟩

/-- Numbers of credits that a search lists. -/
def listedCredits : List Value := [.int 3, .int 12, .int (-60)]

/-- A search for listed numbers of credits asks for the same as one equality for each of them, and
a search for all others as one inequality for each. -/
theorem compounds_ask_as_expanded_credits :
    2 ≤ (⟨2, true⟩ : Config).maxDepth ∧
      (∃ subject, School.student.resolve "credits" = .ok subject ∧
        2 ≤ listedCredits.length ∧ ∀ member ∈ listedCredits, member.ConvertsToItself subject.kind) ∧
      (∃ query, (standard ⟨2, true⟩).compile School.student
        ⟨some (.criterion ⟨"credits", .isIn, listedCredits⟩), []⟩ = .ok query) ∧
      AskAlike ⟨2, true⟩ School.student (fun _ => True)
        (.criterion ⟨"credits", .isIn, listedCredits⟩)
        (.oneEach .or "credits" .equal listedCredits) := by
  -- Each of the three integers is converted to itself.
  have deep : 2 ≤ (⟨2, true⟩ : Config).maxDepth := Nat.le_refl 2
  have itself : ∀ member ∈ listedCredits, member.ConvertsToItself .int := by
    simp only [listedCredits, List.forall_mem_cons, List.not_mem_nil, false_implies,
      implies_true, and_true]
    exact ⟨⟨_, rfl, .inl rfl⟩, ⟨_, rfl, .inl rfl⟩, ⟨_, rfl, .inl rfl⟩⟩
  have several : 2 ≤ listedCredits.length := by decide
  obtain ⟨compiles, alike, -⟩ :=
    (compounds_ask_as_expanded deep School.student "credits").2 _ rfl listedCredits several itself
  exact ⟨deep, ⟨_, rfl, several, itself⟩, compiles, alike⟩

end Compiler

end Criteria

import Criteria.School
import Criteria.Search
import Criteria.Proofs.Compiler.Outcome
import Criteria.Proofs.Interchange.RoundTrip
import Criteria.Proofs.Json.Nesting

/-! Requests that compile may be nested deeper than the texts that are read. -/

namespace Criteria

/-- How many levels of nodes the filter of a request has, which are none without a filter. -/
def SearchRequest.levels (request : SearchRequest) : Nat :=
  (request.filter.map Filter.depth).getD 0

namespace Filter

/-- Filters that are written side by side are nested two containers deep for each level of nodes,
if each of them is. -/
theorem two_mul_depths_le_elementNesting {filters : List Filter} {written : List Json}
    (each : ∀ filter ∈ filters, ∀ written, filter.toJson? = some written →
      2 * filter.depth ≤ written.nesting)
    (writes : allToJson? filters = some written) :
    2 * depths filters ≤ Json.elementNesting written := by
  -- The deepest filter is the first one or among the others.
  induction filters generalizing written with
  | nil => exact Nat.zero_le _
  | cons first rest ih =>
    -- The first filter and the rest are written one after the other.
    obtain ⟨image, writesFirst, others, writesRest, same⟩ :
        ∃ image, first.toJson? = some image ∧
          ∃ others, allToJson? rest = some others ∧ image :: others = written := by
      simpa [allToJson?, Option.bind_eq_some_iff] using writes
    have firstFits := each first List.mem_cons_self image writesFirst
    have restFits := ih (fun filter member => each filter (List.mem_cons_of_mem first member))
      writesRest
    rw [← same, depths, Json.elementNesting]
    omega

/-- A filter is written with two containers for each level of nodes. -/
theorem two_mul_depth_le_nesting {filter : Filter} {written : Json}
    (writes : filter.toJson? = some written) : 2 * filter.depth ≤ written.nesting := by
  -- The induction follows the tree.
  induction filter generalizing written with
  | criterion condition =>
    -- The object of a criterion holds the array of its operands.
    obtain ⟨operands, -, same⟩ := Option.bind_eq_some_iff.mp writes
    cases same
    simp [depth, Json.ofMembers, Json.nesting, Json.memberNesting]
  | group combinator children ih =>
    -- The object of a group holds the array of its children, which are one level less deep.
    obtain ⟨images, writesChildren, same⟩ := Option.bind_eq_some_iff.mp writes
    cases same
    have within := two_mul_depths_le_elementNesting
      (fun child member image => @ih child member image) writesChildren
    simp only [depth, Json.ofMembers, List.map_cons, List.map_nil, Json.nesting,
      Json.memberNesting]
    omega

end Filter

namespace SearchRequest

/-- A request with a filter is written as an object with that of the filter in it. -/
theorem toJson?_some (filter : Filter) (sort : List SortKey) :
    toJson? ⟨some filter, sort⟩ = filter.toJson?.map fun written => .ofMembers
      [("criteria", written), ("sort", .array (sort.map SortKey.toJson))] := by
  -- The sort keys are written in any case, so the filter decides.
  show (filter.toJson? >>= _) = _
  cases filter.toJson? <;> rfl

/-- A request is written with one more container than its filter. -/
theorem two_mul_levels_lt_nesting {request : SearchRequest} {written : Json}
    (writes : request.toJson? = some written) : 2 * request.levels < written.nesting := by
  -- The filter is a member of the object that a request is written as.
  rcases request with ⟨filter, sort⟩
  cases filter with
  | none =>
    -- Without a filter, the object itself is a container.
    cases writes
    exact Nat.zero_lt_succ _
  | some filter =>
    rw [toJson?_some] at writes
    obtain ⟨image, writesFilter, rfl⟩ := Option.map_eq_some_iff.mp writes
    have within := Filter.two_mul_depth_le_nesting writesFilter
    simp only [levels, Option.map_some, Option.getD_some, Json.ofMembers, List.map_cons,
      List.map_nil, Json.nesting, Json.memberNesting]
    omega

/-- A request with plain operands round-trips, with room for the sort keys and for two containers
for each level of nodes. -/
theorem roundTrips_of_plain {request : SearchRequest}
    (plain : ∀ condition ∈ request.criteria, ∀ operand ∈ condition.operands, operand.IsPlain) :
    RoundTrips toJson? JsonReader.request (max 2 (2 * request.levels) + 1) request := by
  -- Plain operands round-trip, and so does a filter of them.
  refine roundTrips (Nat.le_max_left 2 _) fun filter there => ?_
  have each : ∀ condition ∈ filter.criteria, ∀ operand ∈ condition.operands,
      RoundTrips Value.toJson? JsonReader.operand 0 operand := by
    intro condition inside operand member
    refine (plain condition ?_ operand member).roundTrips
    rw [criteria, there]
    exact inside
  have levels : request.levels = filter.depth := by simp [levels, there]
  rw [levels]
  exact (Filter.roundTrips each).mono (Nat.le_max_right 2 _)

/-- The text of a request with plain operands is read under a limit exactly if there is room for two
containers for each level of nodes and one for the request, and then it is read as the request. -/
theorem ofText_eq_ok_iff {request read : SearchRequest} {text : String} {most : Nat}
    (plain : ∀ condition ∈ request.criteria, ∀ operand ∈ condition.operands, operand.IsPlain)
    (enough : 3 ≤ most) (writes : request.toText? = some text) :
    ofText (some most) text = .ok read ↔ read = request ∧ 2 * request.levels < most := by
  -- A limit refuses a text exactly if what it spells is nested deeper.
  obtain ⟨written, writes', exact, reads⟩ := roundTrips_of_plain plain
  rw [toText?, writes'] at writes
  cases writes
  -- Without a limit, the text is read as what was written in any case.
  have spelled : written.display.toList = written.write := String.toList_ofList
  have unlimited : Json.read none written.write = ⟨written, true⟩ :=
    exact.read_write fun _ none => by cases none
  rw [ofText, spelled, JsonDocument.readAs_eq_ok_iff]
  constructor
  · rintro ⟨accepted, complete⟩
    -- What is read to its end is what is read without a limit, which is what was written.
    obtain ⟨same, within⟩ := Json.read_of_complete complete
    rw [← same, unlimited] at accepted within
    have nested : 2 * request.levels < written.nesting := two_mul_levels_lt_nesting writes'
    exact ⟨Except.ok.inj (accepted.symm.trans reads), Nat.lt_of_lt_of_le nested within⟩
  · rintro ⟨rfl, room⟩
    -- There is room for the sort keys too, which are nested less deep than three containers.
    have limited : Json.read (some most) written.write = ⟨written, true⟩ := by
      refine exact.read_write fun limit same => ?_
      cases same
      omega
    rw [limited]
    exact ⟨reads, rfl⟩

end SearchRequest

namespace Compiler

variable {P O : Type} {compiler : Compiler P O} {model : EntityModel}

/-- A filter with a predicate has no node deeper than the settings allow. -/
theorem depth_le_of_outcomeAt {filter : Filter} {depth : Nat} {predicate : P}
    (compiled : compiler.outcomeAt model depth filter = .ok predicate) :
    depth + filter.depth ≤ compiler.config.maxDepth + 1 := by
  -- The induction follows the tree, with the depth left open for the children.
  induction filter generalizing depth predicate with
  | criterion condition =>
    -- A criterion is one level, and it has passed the depth check.
    have fits := ((outcomeAt_criterion_eq_ok_iff _ _).mp compiled).1
    rw [Filter.depth]
    omega
  | group combinator children ih =>
    obtain ⟨fits, -, images, each, -⟩ := (outcomeAt_group_eq_ok_iff _ _).mp compiled
    -- What is left for the children is the limit without the levels above them.
    have bounded : Filter.depths children ≤ compiler.config.maxDepth - depth := by
      refine Filter.depths_le_iff.mpr (forall_mem_of_forall₂_left (forall₂_imp_of_mem each ?_))
      intro child member image made
      have within := ih child member made
      omega
    rw [Filter.depth]
    omega

/-- A request with a query has no more levels than the settings allow. -/
theorem levels_le_of_compile {request : SearchRequest} {query : Query P O}
    (compiled : compiler.compile model request = .ok query) :
    request.levels ≤ compiler.config.maxDepth := by
  -- The filter is compiled at the first level, if there is one.
  rcases request with ⟨filter, sort⟩
  cases filter with
  | none => exact Nat.zero_le _
  | some filter =>
    have within := depth_le_of_outcomeAt ((compile_some_eq_ok_iff _ _).mp compiled).1
    simp only [SearchRequest.levels, Option.map_some, Option.getD_some]
    omega

end Compiler

namespace SearchRequest

/-- A request compiles under the default settings if the compiler gives a query for it. -/
theorem compile_eq_ok_iff {request : SearchRequest} {model : EntityModel} {query : RowQuery} :
    request.compile model = .ok query ↔
      (Compiler.standard .default).compile model request = .ok query := by
  -- The default settings are valid, so only the compiler is left to be asked.
  rw [compile, compileWith, bind_eq_ok_iff]
  simp only [mapError_eq_ok_iff]
  constructor
  · rintro ⟨-, -, compiled⟩
    exact compiled
  · intro compiled
    exact ⟨(), rfl, compiled⟩

/-- A request with plain operands that compiles under the default settings has at most 64 levels,
and its text is read, as the request itself, exactly if it has at most 63 of them. -/
theorem compile_text_reads_iff {request : SearchRequest} {model : EntityModel} {query : RowQuery}
    (plain : ∀ condition ∈ request.criteria, ∀ operand ∈ condition.operands, operand.IsPlain)
    (compiled : request.compile model = .ok query) :
    request.levels ≤ 64 ∧ ∃ text, request.toText? = some text ∧
      ∀ read, ofText (some Json.usualNesting) text = .ok read ↔
        read = request ∧ request.levels ≤ 63 := by
  -- A request with plain operands is always written, and the limit decides whether its text is
  -- read.
  refine ⟨Compiler.levels_le_of_compile (compile_eq_ok_iff.mp compiled), ?_⟩
  obtain ⟨written, writes, -, -⟩ := roundTrips_of_plain plain
  have text : request.toText? = some written.display := by rw [toText?, writes, Option.map_some]
  refine ⟨written.display, text, fun read => ?_⟩
  rw [ofText_eq_ok_iff plain (by decide) text]
  -- An odd limit has room for the request and as many pairs of containers as levels.
  have room : 2 * request.levels < Json.usualNesting ↔ request.levels ≤ 63 := by
    rw [Json.usualNesting]
    omega
  rw [room]

/-- A condition on the grade point average of students, negated so many times. -/
def gpaNegated (count : Nat) : Filter :=
  count.repeat (fun filter => .group .not [filter]) (.criterion ⟨"gpa", .greaterThan, [.int 3]⟩)

/-- A search for the students that meet the negated condition. -/
def negatedGpa (count : Nat) : SearchRequest :=
  ⟨some (gpaNegated count), []⟩

/-- The negated condition has a predicate wherever its criterion does not stand too deep. -/
theorem exists_outcomeAt_gpaNegated {count depth : Nat} (fits : depth + count ≤ 64) :
    ∃ predicate, (Compiler.standard .default).outcomeAt School.student depth
      (gpaNegated count) = .ok predicate := by
  -- Each negation leaves one level less to the condition.
  induction count generalizing depth with
  | zero => exact ⟨_, (Compiler.outcomeAt_criterion_eq_ok_iff _ _).mpr ⟨fits, rfl⟩⟩
  | succ count ih =>
    obtain ⟨image, made⟩ := @ih (depth + 1) (by omega)
    have high : depth ≤ 64 := by omega
    exact ⟨_, (Compiler.outcomeAt_group_eq_ok_iff _ _).mpr
      ⟨high, rfl, [image], .cons made .nil, rfl⟩⟩

/-- The search for students compiles with up to 63 negations. -/
theorem exists_compile_negatedGpa {count : Nat} (few : count ≤ 63) :
    ∃ query, (negatedGpa count).compile School.student = .ok query := by
  -- The condition stands one level deeper than it is negated.
  obtain ⟨predicate, made⟩ := @exists_outcomeAt_gpaNegated count 1 (by omega)
  exact ⟨⟨predicate, []⟩,
    compile_eq_ok_iff.mpr ((Compiler.compile_some_eq_ok_iff _ _).mpr ⟨made, rfl⟩)⟩

/-- Each negation is one more level. -/
theorem levels_negatedGpa (count : Nat) : (negatedGpa count).levels = count + 1 := by
  -- The negated filter is the one child of the negation.
  induction count with
  | zero => rfl
  | succ count ih =>
    show max (negatedGpa count).levels 0 + 1 = _
    rw [Nat.max_zero, ih]

/-- The negated search has the one criterion, whose operand is plain. -/
theorem isPlain_negatedGpa (count : Nat) :
    ∀ condition ∈ (negatedGpa count).criteria, ∀ operand ∈ condition.operands,
      operand.IsPlain := by
  -- Negating a filter leaves its criteria.
  have only : (negatedGpa count).criteria = [⟨"gpa", .greaterThan, [.int 3]⟩] := by
    induction count with
    | zero => rfl
    | succ count ih =>
      show (negatedGpa count).criteria ++ [] = _
      rw [List.append_nil, ih]
  simp [only, Value.IsPlain]

/-- With 62 negations, the search for students still compiles and its text is read. -/
theorem compile_text_reads_iff_negatedGpa :
    ∃ query text, (negatedGpa 62).compile School.student = .ok query ∧
      (negatedGpa 62).toText? = some text ∧
      ofText (some Json.usualNesting) text = .ok (negatedGpa 62) := by
  -- With 62 negations, the search has 63 levels.
  obtain ⟨query, compiled⟩ := @exists_compile_negatedGpa 62 (by decide)
  obtain ⟨-, text, writes, reads⟩ := compile_text_reads_iff (isPlain_negatedGpa 62) compiled
  have levels : (negatedGpa 62).levels ≤ 63 := by rw [levels_negatedGpa]
  exact ⟨query, text, compiled, writes, (reads _).mpr ⟨rfl, levels⟩⟩

/-- Not every request that compiles has a text that is read: with 63 negations, the search for
students compiles, and its text is refused. -/
theorem not_compile_implies_readable :
    ¬∀ (request : SearchRequest) (model : EntityModel) (query : RowQuery),
      (∀ condition ∈ request.criteria, ∀ operand ∈ condition.operands, operand.IsPlain) →
      request.compile model = .ok query →
      ∃ text read, request.toText? = some text ∧
        ofText (some Json.usualNesting) text = .ok read := by
  -- With 63 negations, the search has 64 levels, which compile but are not read.
  intro readable
  obtain ⟨query, compiled⟩ := @exists_compile_negatedGpa 63 (by decide)
  have plain := isPlain_negatedGpa 63
  obtain ⟨text, read, writes, reads⟩ := readable _ _ query plain compiled
  have room := ((ofText_eq_ok_iff plain (by decide) writes).mp reads).2
  rw [levels_negatedGpa, Json.usualNesting] at room
  omega

end SearchRequest

end Criteria

import Criteria.Interchange.Request
import Criteria.Interchange.Writer
import Criteria.Proofs.Filter.Tree
import Criteria.Proofs.Interchange.Kinds
import Criteria.Proofs.Json.Reading
import Criteria.Proofs.Value.Literal

/-! Search requests that are written as JSON texts read back as they were. -/

namespace Criteria

/-- Whether a value is written as JSON that is kept exactly, is nested no deeper than some depth,
and is read as the value again. -/
def RoundTrips {α : Type} (write : α → Option Json) (reader : JsonReader α) (depth : Nat)
    (value : α) : Prop :=
  ∃ written, write value = some written ∧ written.IsExact depth ∧ reader written = .ok value

namespace RoundTrips

variable {α : Type} {write : α → Option Json} {reader : JsonReader α} {depth : Nat}

/-- What is nested no deeper than some depth is nested no deeper than any greater one. -/
theorem mono {value : α} {deeper : Nat} (survives : RoundTrips write reader depth value)
    (le : depth ≤ deeper) : RoundTrips write reader deeper value := by
  -- Only the depth at which the JSON is exact depends on the bound.
  obtain ⟨written, writes, exact, reads⟩ := survives
  exact ⟨written, writes, exact.mono le, reads⟩

/-- Values that round-trip are written and read as the elements of an array, one by one. -/
theorem elements {values : List α} (each : ∀ value ∈ values, RoundTrips write reader depth value) :
    ∃ written, values.mapM write = some written ∧
      (∀ element ∈ written, element.IsExact depth) ∧
      JsonReader.elements reader written = .ok values := by
  -- The first value and the rest are written and read one after the other.
  induction values with
  | nil => exact ⟨[], rfl, by simp, rfl⟩
  | cons value rest ih =>
    obtain ⟨first, writes, exact, reads⟩ := each value List.mem_cons_self
    obtain ⟨others, writeRest, exactRest, readRest⟩ :=
      ih fun other member => each other (List.mem_cons_of_mem value member)
    -- One list is written from both, and read in the same two steps.
    refine ⟨first :: others, ?_, List.forall_mem_cons.mpr ⟨exact, exactRest⟩, ?_⟩
    · rw [List.mapM_cons, writes, writeRest]
      rfl
    · rw [JsonReader.elements, reads, readRest]
      rfl

/-- What round-trips is written as a text that the reader reads as it was. -/
theorem text {value : α} {most : Nat} (survives : RoundTrips write reader depth value)
    (fits : depth ≤ most) :
    ∃ text, (write value).map Json.display = some text ∧
      (Json.read (some most) text.toList).readAs reader = .ok value := by
  -- The text spells the JSON that was written, and nothing stands after it.
  obtain ⟨written, writes, exact, reads⟩ := survives
  refine ⟨written.display, by rw [writes, Option.map_some], ?_⟩
  -- The depth stays within the limit, so the text is read to the end.
  have kept : Json.read (some most) written.write = ⟨written, true⟩ := by
    refine exact.read_write ?_
    intro limit same
    cases same
    exact fits
  rw [Json.display, String.toList_ofList, kept, JsonDocument.readAs, reads]
  rfl

end RoundTrips

/-- An integer of 64 bits is one among those of at most 64 bits. -/
theorem boundedInt?_toInt (number : Int64) : boundedInt? 64 number.toInt = some number := by
  -- The bounds are those of the type.
  have least := number.le_toInt
  have below := number.toInt_lt
  have bound : ((Nat.pow 2 (64 - 1) : Nat) : Int) = 2 ^ 63 := by decide
  rw [boundedInt?, bound, if_pos ⟨least, below⟩, Int64.ofInt_toInt]

/-- A null, a truth value, an integer or a text round-trips as an operand. -/
theorem Value.IsPlain.roundTrips {operand : Value} (plain : operand.IsPlain) :
    RoundTrips Value.toJson? JsonReader.operand 0 operand := by
  -- Each of the four is written as a scalar of its own.
  cases operand with
  | null => exact ⟨_, rfl, .null 0, rfl⟩
  | bool truth => exact ⟨_, rfl, .boolean 0 truth, rfl⟩
  | int number =>
    -- Integers of 64 bits with a sign are among those that JSON keeps exactly.
    have least := number.le_toInt
    have below := number.toInt_lt
    refine ⟨_, rfl, .integer 0 (by rw [JsonNumber.leastInteger]; omega)
      (by rw [JsonNumber.greatestInteger]; omega), ?_⟩
    rw [Json.ofInt, JsonReader.operand, boundedInt?_toInt]
  | text content => exact ⟨_, rfl, .string 0 content, rfl⟩
  | float | date | dateTime | offsetDateTime => cases plain

/-- An operation is read from its name. -/
theorem JsonReader.operation_name (operation : Operation) :
    JsonReader.operation (.string operation.name) = .ok operation := by
  cases operation <;> rfl

/-- A combinator is read from its name. -/
theorem JsonReader.combinator_name (combinator : Combinator) :
    JsonReader.combinator (.string combinator.name) = .ok combinator := by
  cases combinator <;> rfl

/-- A direction is read from its name. -/
theorem JsonReader.direction_name (direction : Direction) :
    JsonReader.direction (.string direction.name) = .ok direction := by
  cases direction <;> rfl

/-- Something that is not null is read where null would be read as nothing. -/
theorem JsonReader.optional_eq_ok {α : Type} {reader : JsonReader α} {found : Json} {value : α}
    (reads : reader found = .ok value) (there : found ≠ .null) :
    JsonReader.optional reader found = .ok (some value) := by
  -- What is there is read, and null alone counts as missing.
  rw [JsonReader.optional_of_ne_null there, reads]
  rfl

/-- A member with a known key that was not met before adds its part to a shape. -/
theorem JsonShape.readMembers_text {σ : Type} {shape : JsonShape σ} {seen : List String}
    {key : String} (known : key ∈ shape.fields) (fresh : key ∉ seen) {value : Json} {read next : σ}
    (adds : shape.part key value read = .ok next) (rest : List (JsonKey × Json)) :
    shape.readMembers seen read ((.text key, value) :: rest) =
      shape.readMembers (key :: seen) next rest := by
  -- The key passes all tests, and so its part is read.
  have listed : shape.fields.contains key = true := List.contains_iff_mem.mpr known
  rw [readMembers, listed, Bool.not_true, Bool.and_false, if_neg Bool.false_ne_true,
    knownKey, if_pos known, if_neg fresh]
  show (shape.part key value read >>= _) = _
  rw [adds]
  rfl

/-- A sort key round-trips. -/
theorem SortKey.roundTrips (key : SortKey) :
    RoundTrips (fun key => some key.toJson) JsonReader.sortKey 1 key := by
  -- A sort key is written as an object of two texts, and both are read in turn.
  refine ⟨_, rfl, .object ?_, ?_⟩
  · -- No member holds a container.
    simp only [List.forall_mem_cons]
    exact ⟨.string 0 _, .string 0 _, by simp⟩
  · have direction : sortKeyShape.part "direction" (.string key.direction.name)
        ⟨some key.field, none⟩ = .ok ⟨some key.field, some key.direction⟩ := by
      show (JsonReader.direction _ >>= _) = _
      rw [JsonReader.direction_name]
      rfl
    -- The field is any text, so only the direction has to be found by its name.
    have parts : sortKeyShape.reader ⟨none, none⟩ key.toJson =
        .ok ⟨some key.field, some key.direction⟩ := by
      show sortKeyShape.readMembers [] ⟨none, none⟩ [(.text "field", .string key.field),
        (.text "direction", .string key.direction.name)] = _
      rw [JsonShape.readMembers_text (by decide) (by decide) rfl,
        JsonShape.readMembers_text (by decide) (by decide) direction]
      rfl
    rw [JsonReader.sortKey, parts]
    rfl

namespace JsonReader

/-- A member with a known key that was not met before adds its part to a filter node. -/
theorem nodeMembers_text {seen : List String} {key : String} (known : key ∈ NodeParts.fields)
    (fresh : key ∉ seen) {value : Json} {parts next : NodeParts}
    (adds : nodePart parts key value = .ok next) (rest : List (JsonKey × Json)) :
    nodeMembers seen parts ((.text key, value) :: rest) = nodeMembers (key :: seen) next rest := by
  -- The key passes all tests, and so its part is read.
  rw [nodeMembers, JsonShape.knownKey, if_pos known, if_neg fresh]
  show (nodePart parts key value >>= _) = _
  rw [adds]
  rfl

/-- Filters are read as the elements of an array are. -/
theorem filters_eq_elements (found : List Json) : filters found = elements filter found := by
  -- Both go through the array in the same way.
  induction found with
  | nil => rw [filters, elements]
  | cons first rest ih => rw [filters, elements, ih]

/-- A criterion is read from its members. -/
theorem filter_criterion (field : String) (operation : Operation) {written : List Json}
    {operands : List Value} (reads : elements operand written = .ok operands) :
    filter (.ofMembers [("field", .string field), ("operation", .string operation.name),
      ("operands", .array written)]) = .ok (.criterion ⟨field, operation, operands⟩) := by
  -- Each member adds its part to those read before it.
  have fieldPart : nodePart .none "field" (.string field) =
      .ok { NodeParts.none with field := some field } := by
    rw [nodePart, if_neg (by decide)]
    rfl
  have operationPart : nodePart { NodeParts.none with field := some field } "operation"
      (.string operation.name) =
      .ok { NodeParts.none with field := some field, operation := some operation } := by
    rw [nodePart, if_neg (by decide)]
    show (optional JsonReader.operation _ >>= _) = _
    rw [optional_eq_ok (operation_name operation) Json.noConfusion]
    rfl
  have operandsPart : nodePart { NodeParts.none with
        field := some field, operation := some operation } "operands" (.array written) =
      .ok ⟨some field, some operation, some operands, none, none⟩ := by
    have listed : list operand (.array written) = .ok operands := reads
    rw [nodePart, if_neg (by decide)]
    show (optional (list operand) _ >>= _) = _
    rw [optional_eq_ok listed Json.noConfusion]
    rfl
  -- None of the parts of a group is there, so these make a criterion.
  rw [Json.ofMembers, filter, List.map_cons, List.map_cons, List.map_cons, List.map_nil,
    nodeMembers_text (by decide) (by decide) fieldPart,
    nodeMembers_text (by decide) (by decide) operationPart,
    nodeMembers_text (by decide) (by decide) operandsPart, nodeMembers]
  rfl

/-- A group is read from its members. -/
theorem filter_group (combinator : Combinator) {written : List Json} {children : List Filter}
    (reads : elements filter written = .ok children) :
    filter (.ofMembers [("combinator", .string combinator.name), ("children", .array written)]) =
      .ok (.group combinator children) := by
  -- Each member adds its part to those read before it.
  have combinatorPart : nodePart .none "combinator" (.string combinator.name) =
      .ok { NodeParts.none with combinator := some combinator } := by
    rw [nodePart, if_neg (by decide)]
    show (optional JsonReader.combinator _ >>= _) = _
    rw [optional_eq_ok (combinator_name combinator) Json.noConfusion]
    rfl
  have childrenPart : nodePart { NodeParts.none with combinator := some combinator } "children"
      (.array written) = .ok ⟨none, none, none, some combinator, some children⟩ := by
    rw [nodePart, if_pos rfl, optionalFilters, filters_eq_elements, reads]
    rfl
  -- None of the parts of a criterion is there, so these make a group.
  rw [Json.ofMembers, filter, List.map_cons, List.map_cons, List.map_nil,
    nodeMembers_text (by decide) (by decide) combinatorPart,
    nodeMembers_text (by decide) (by decide) childrenPart, nodeMembers]
  rfl

/-- Null is no filter. -/
theorem ne_null_of_filter_eq_ok {found : Json} {value : Filter} (reads : filter found = .ok value) :
    found ≠ .null := by
  -- A filter is read from objects only.
  rintro rfl
  rw [filter] at reads
  · cases reads
  · exact fun _ => Json.noConfusion
  · exact fun _ => Json.noConfusion

end JsonReader

namespace Filter

/-- Filters are written one by one as the elements of any list are. -/
theorem allToJson?_eq_mapM (filters : List Filter) :
    allToJson? filters = filters.mapM toJson? := by
  -- The list is gone through as the function itself does.
  induction filters with
  | nil => rfl
  | cons first rest ih =>
    rw [allToJson?, List.mapM_cons, ih]
    rfl

/-- A criterion round-trips if its operands do. -/
theorem criterion_roundTrips {condition : Criterion}
    (each : ∀ operand ∈ condition.operands,
      RoundTrips Value.toJson? JsonReader.operand 0 operand) :
    RoundTrips toJson? JsonReader.filter 2 (.criterion condition) := by
  -- The operands are written as an array within the object of the criterion.
  obtain ⟨written, writes, exact, reads⟩ := RoundTrips.elements each
  refine ⟨_, ?_, .object ?_, JsonReader.filter_criterion condition.field condition.operation reads⟩
  · rw [toJson?, Criterion.toJson?, writes]
    rfl
  · -- The array of operands is the one container in the object.
    simp only [List.forall_mem_cons]
    exact ⟨.string 1 _, .string 1 _, .array exact, by simp⟩

/-- A group round-trips if its children do, nested two containers deeper than they are. -/
theorem group_roundTrips {depth : Nat} {children : List Filter} (combinator : Combinator)
    (each : ∀ child ∈ children, RoundTrips toJson? JsonReader.filter depth child) :
    RoundTrips toJson? JsonReader.filter (depth + 2) (.group combinator children) := by
  -- The children are written as an array within the object of the group.
  obtain ⟨written, writes, exact, reads⟩ := RoundTrips.elements each
  refine ⟨_, ?_, .object ?_, JsonReader.filter_group combinator reads⟩
  · rw [toJson?, allToJson?_eq_mapM, writes]
    rfl
  · -- The array of children is the one container in the object.
    simp only [List.forall_mem_cons]
    exact ⟨.string _ _, .array exact, by simp⟩

/-- A filter whose operands round-trip does so itself, nested two containers deep for each level
of nodes. -/
theorem roundTrips {filter : Filter}
    (each : ∀ condition ∈ filter.criteria, ∀ operand ∈ condition.operands,
      RoundTrips Value.toJson? JsonReader.operand 0 operand) :
    RoundTrips toJson? JsonReader.filter (2 * filter.depth) filter := by
  -- The induction follows the tree, two containers for each level.
  induction filter with
  | criterion condition => exact criterion_roundTrips (each condition (mem_criteria_self condition))
  | group combinator children ih =>
    show RoundTrips toJson? JsonReader.filter (2 * depths children + 2) _
    -- No child is deeper than the deepest, for which there is room.
    refine group_roundTrips combinator fun child member => ?_
    have within := ih child member fun condition inside =>
      each condition (mem_criteria_of_child member inside)
    have level := depth_le_depths member
    exact within.mono (Nat.mul_le_mul_left 2 level)

end Filter

namespace SearchRequest

/-- The filter of a request is written as null if there is none, and read as what it was. -/
theorem exists_writtenFilter {depth : Nat} {request : SearchRequest}
    (each : ∀ filter, request.filter = some filter →
      RoundTrips Filter.toJson? JsonReader.filter depth filter) :
    ∃ written, (∀ keys, toJson? ⟨request.filter, keys⟩ = some (.ofMembers
        [("criteria", written), ("sort", .array (keys.map SortKey.toJson))])) ∧
      written.IsExact depth ∧
      JsonReader.optional JsonReader.filter written = .ok request.filter := by
  -- Null stands for a filter that is missing.
  cases same : request.filter with
  | none => exact ⟨.null, fun _ => rfl, .null depth, rfl⟩
  | some filter =>
    -- A filter is never written as null, so it is not mistaken for none.
    obtain ⟨written, writes, exact, reads⟩ := each filter same
    refine ⟨written, fun keys => ?_, exact,
      JsonReader.optional_eq_ok reads (JsonReader.ne_null_of_filter_eq_ok reads)⟩
    show (filter.toJson? >>= _) = _
    rw [writes]
    rfl

/-- A request round-trips if its filter does, nested one container deeper. -/
theorem roundTrips {depth : Nat} {request : SearchRequest} (enough : 2 ≤ depth)
    (each : ∀ filter, request.filter = some filter →
      RoundTrips Filter.toJson? JsonReader.filter depth filter) :
    RoundTrips toJson? JsonReader.request (depth + 1) request := by
  -- The filter and the sort keys are two members of one object.
  obtain ⟨filter, writes, exactFilter, readFilter⟩ := exists_writtenFilter each
  obtain ⟨keys, writeKeys, exactKeys, readKeys⟩ :=
    @RoundTrips.elements SortKey _ _ 1 request.sort fun key _ => key.roundTrips
  -- Sort keys can always be written, so writing them one by one is a map.
  have mapped : request.sort.map SortKey.toJson = keys := by
    have pure := @List.mapM_pure Option _ _ _ _ request.sort SortKey.toJson
    exact Option.some.inj (pure.symm.trans writeKeys)
  refine ⟨_, writes request.sort, .object ?_, ?_⟩
  · -- Neither member is nested deeper than there is room for.
    rw [mapped]
    simp only [List.forall_mem_cons]
    exact ⟨exactFilter, (Json.IsExact.array exactKeys).mono enough, by simp⟩
  · -- Each member adds its part to those read before it.
    have filterPart : requestShape.part "criteria" filter ⟨none, []⟩ =
        .ok ⟨request.filter, []⟩ := by
      show (JsonReader.optional JsonReader.filter filter >>= _) = _
      rw [readFilter]
      rfl
    have sortPart : requestShape.part "sort" (.array keys) ⟨request.filter, []⟩ = .ok request := by
      show (JsonReader.elements JsonReader.sortKey keys >>= _) = _
      rw [readKeys]
      rfl
    rw [mapped]
    show requestShape.readMembers [] ⟨none, []⟩
      [(.text "criteria", filter), (.text "sort", .array keys)] = _
    rw [JsonShape.readMembers_text (by decide) (by decide) filterPart,
      JsonShape.readMembers_text (by decide) (by decide) sortPart]
    rfl

/-- A request with plain operands and a filter of at most 63 levels is written as a text that reads
back as the request, whatever its names and texts are. -/
theorem text_roundTrips {request : SearchRequest}
    (levels : ∀ filter, request.filter = some filter → filter.depth ≤ 63)
    (plain : ∀ condition ∈ request.criteria, ∀ operand ∈ condition.operands, operand.IsPlain) :
    ∃ text, request.toText? = some text ∧ ofText (some Json.usualNesting) text = .ok request := by
  -- Each level of nodes is nested two containers deep, and the request is one more.
  have survives : RoundTrips toJson? JsonReader.request 127 request := by
    refine roundTrips (by decide) fun filter there => ?_
    have each : ∀ condition ∈ filter.criteria, ∀ operand ∈ condition.operands,
        RoundTrips Value.toJson? JsonReader.operand 0 operand := by
      intro condition inside operand member
      refine (plain condition ?_ operand member).roundTrips
      rw [criteria, there]
      exact inside
    -- With 63 levels, the containers of the filter stay below the limit of the reader.
    have atMost := levels filter there
    exact (Filter.roundTrips each).mono (by omega)
  exact survives.text (le_refl 127)

/-- A request whose names and texts have quotes, backslashes, line breaks and other controls in
them, and whose groups have no or too few children. -/
def oddlyNamed : SearchRequest :=
  ⟨some (.group .or
      [ .group .and [],
        .group .not
          [ .criterion ⟨"a \"name\"\\", .isIn, [.null, .bool true, .int (-9223372036854775808)]⟩,
            .criterion ⟨"", .like, [.text "\x00\n\t\x7f/\u00e9", .text "\"\x7d, null"]⟩ ] ]),
    [⟨"a \"name\"\\", .descending⟩]⟩

/-- The request with the odd names is written as a text that reads back as the request. -/
theorem text_roundTrips_oddlyNamed :
    ∃ text, oddlyNamed.toText? = some text ∧
      ofText (some Json.usualNesting) text = .ok oddlyNamed := by
  -- The filter has three levels, and each operand is looked at.
  refine text_roundTrips ?_ ?_
  · intro filter there
    cases there
    decide
  · intro condition inside operand member
    simp only [criteria, oddlyNamed, Option.map_some, Option.getD_some, Filter.criteria,
      Filter.allCriteria, List.nil_append, List.append_nil, List.singleton_append,
      List.mem_cons, List.not_mem_nil, or_false] at inside
    rcases inside with rfl | rfl <;>
      simp only [List.mem_cons, List.not_mem_nil, or_false] at member
    · rcases member with rfl | rfl | rfl <;> trivial
    · rcases member with rfl | rfl <;> trivial

end SearchRequest

end Criteria

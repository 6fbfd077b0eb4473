import Criteria.Interchange.Request
import Criteria.Proofs.Result

/-! A filter node is read from an object as the criterion or the group that its keys spell. -/

namespace Criteria

/-- What a document is read as is what its value is read as, if nothing follows the value. -/
theorem JsonDocument.readAs_eq_ok_iff {α : Type} {document : JsonDocument} {reader : JsonReader α}
    {value : α} :
    document.readAs reader = .ok value ↔
      reader document.value = .ok value ∧ document.complete = true := by
  -- The value is read first, and then the document is asked whether it went on.
  rw [readAs, bind_eq_ok_iff]
  simp only [ite_eq_iff, reduceCtorEq, and_false, or_false, Except.ok.injEq]
  constructor
  · rintro ⟨middle, reads, complete, rfl⟩
    exact ⟨reads, complete⟩
  · rintro ⟨reads, complete⟩
    exact ⟨value, reads, complete, rfl⟩

/-- The parts of a criterion among those of a filter node. -/
def CriterionParts.toNode (parts : CriterionParts) : NodeParts :=
  ⟨parts.field, parts.operation, parts.operands, none, none⟩

/-- The parts of a group among those of a filter node. -/
def GroupParts.toNode (parts : GroupParts) : NodeParts :=
  ⟨none, none, none, parts.combinator, parts.children⟩

/-- Whether no member of an object is null. -/
def Json.HaveValues (members : List (JsonKey × Json)) : Prop :=
  ∀ member ∈ members, member.2 ≠ .null

/-- A known key that was not met before is a text among the fields that is not among those met. -/
theorem JsonShape.knownKey_eq_ok_iff {fields seen : List String} {key : JsonKey} {field : String} :
    knownKey fields seen key = .ok field ↔ key = .text field ∧ field ∈ fields ∧ field ∉ seen := by
  -- A key that is no text is refused in any case.
  cases key with
  | text content =>
    -- The two tests are those of the statement, made on the content of the key.
    rw [knownKey]
    grind
  | unpaired | missing => simp [knownKey]

/-- A shape that skips no key reads a member exactly if its key is known and new and its part is
read, and goes on with the rest. -/
theorem JsonShape.readMembers_cons_eq_ok_iff {σ : Type} {shape : JsonShape σ}
    (strict : shape.lenient = false) {seen : List String} {key : JsonKey} {value : Json}
    {rest : List (JsonKey × Json)} {read last : σ} :
    shape.readMembers seen read ((key, value) :: rest) = .ok last ↔
      ∃ field, knownKey shape.fields seen key = .ok field ∧
        ∃ next, shape.part field value read = .ok next ∧
          shape.readMembers (field :: seen) next rest = .ok last := by
  -- The key decides whether the member is looked at.
  cases key with
  | text content =>
    -- Without leniency, every key has to be a known one.
    rw [readMembers, strict, Bool.false_and, if_neg Bool.false_ne_true]
    simp only [bind_eq_ok_iff]
  -- A key that is no text is refused on both sides.
  | unpaired | missing => simp [readMembers, knownKey]

namespace JsonReader

/-- What is not null is read as something where null would be read as nothing. -/
theorem optional_of_ne_null {α : Type} {reader : JsonReader α} {found : Json}
    (there : found ≠ .null) : optional reader found = (reader found).map some := by
  -- Only null is read as nothing.
  rw [optional]
  exact there

/-- The children of a filter node are read as a list that may be null. -/
theorem optionalFilters_eq_optional (found : Json) :
    optionalFilters found = optional filterList found := by
  -- The two readers differ in how they tell null apart from the rest.
  cases found with
  | null => rw [optionalFilters, optional]
  | array found =>
    -- An array is read as its filters.
    rw [optionalFilters, optional_of_ne_null Json.noConfusion, filterList]
    cases filters found <;> rfl
  | _ =>
    -- Anything else is a mismatch in both, and mapping leaves the error as it is.
    rw [optionalFilters, optional_of_ne_null Json.noConfusion, filterList]
    · unfold ReadError.mismatch
      split <;> rfl
    all_goals simp

/-- A filter node reads a member exactly if its key is known and new and its part is read, and goes
on with the rest. -/
theorem nodeMembers_cons_eq_ok_iff {seen : List String} {key : JsonKey} {value : Json}
    {rest : List (JsonKey × Json)} {parts last : NodeParts} :
    nodeMembers seen parts ((key, value) :: rest) = .ok last ↔
      ∃ field, JsonShape.knownKey NodeParts.fields seen key = .ok field ∧
        ∃ next, nodePart parts field value = .ok next ∧
          nodeMembers (field :: seen) next rest = .ok last := by
  -- The key is looked up, then its part is read, and then the rest.
  rw [nodeMembers]
  simp only [bind_eq_ok_iff]

/-- A member of a filter node that is not null adds what is read from it under its key. -/
theorem nodePart_eq_ok_iff {parts next : NodeParts} {field : String} {value : Json}
    (known : field ∈ NodeParts.fields) (there : value ≠ .null) :
    nodePart parts field value = .ok next ↔
      (field = "field" ∧ ∃ found, text value = .ok found ∧
        { parts with field := some found } = next) ∨
      (field = "operation" ∧ ∃ found, operation value = .ok found ∧
        { parts with operation := some found } = next) ∨
      (field = "operands" ∧ ∃ found, list operand value = .ok found ∧
        { parts with operands := some found } = next) ∨
      (field = "combinator" ∧ ∃ found, combinator value = .ok found ∧
        { parts with combinator := some found } = next) ∨
      (field = "children" ∧ ∃ found, filterList value = .ok found ∧
        { parts with children := some found } = next) := by
  simp only [NodeParts.fields, List.mem_cons, List.not_mem_nil, or_false] at known
  -- One case for each key; the children are the part that is read by the filter reader itself.
  rcases known with rfl | rfl | rfl | rfl | rfl
  case inr.inr.inr.inr =>
    rw [nodePart, if_pos rfl, optionalFilters_eq_optional, optional_of_ne_null there]
    simp [bind_eq_ok_iff, map_eq_ok_iff]
  all_goals
    rw [nodePart, if_neg (by decide)]
    simp [NodeParts.addSimple, optional_of_ne_null there, bind_eq_ok_iff, map_eq_ok_iff]

end JsonReader

/-- A shape whose parts are some of those of a filter node: what a node reads from a member that is
not null is among the parts of the shape exactly if the shape reads the member. -/
structure JsonShape.IsKindOfNode {σ : Type} (shape : JsonShape σ) (toNode : σ → NodeParts) :
    Prop where
  strict : shape.lenient = false
  known : ∀ field ∈ shape.fields, field ∈ NodeParts.fields
  refusesNull : ∀ field ∈ shape.fields, ∀ read next, shape.part field .null read ≠ .ok next
  injective : Function.Injective toNode
  part : ∀ field ∈ NodeParts.fields, ∀ value ≠ .null, ∀ parts next,
    JsonReader.nodePart parts field value = .ok (toNode next) ↔
      field ∈ shape.fields ∧
        ∃ read, toNode read = parts ∧ shape.part field value read = .ok next

namespace JsonShape.IsKindOfNode

variable {σ : Type} {shape : JsonShape σ} {toNode : σ → NodeParts}

/-- What such a shape reads has no null in it. -/
theorem haveValues (kind : shape.IsKindOfNode toNode) {seen : List String} {read last : σ}
    {members : List (JsonKey × Json)} (reads : shape.readMembers seen read members = .ok last) :
    Json.HaveValues members := by
  -- Member by member: a null makes its part fail, and then nothing is read.
  induction members generalizing seen read with
  | nil => simp [Json.HaveValues]
  | cons member rest ih =>
    obtain ⟨field, knows, next, adds, others⟩ := (readMembers_cons_eq_ok_iff kind.strict).mp reads
    have listed := (knownKey_eq_ok_iff.mp knows).2.1
    refine List.forall_mem_cons.mpr ⟨?_, ih others⟩
    intro null
    rw [null] at adds
    exact kind.refusesNull field listed read next adds

/-- Where no member is null, a node ends up with parts of such a shape exactly if it starts with
them and the shape reads the members as well. -/
theorem nodeMembers_eq_ok_iff (kind : shape.IsKindOfNode toNode) {seen : List String}
    {parts : NodeParts} {last : σ} {members : List (JsonKey × Json)}
    (values : Json.HaveValues members) :
    JsonReader.nodeMembers seen parts members = .ok (toNode last) ↔
      ∃ read, toNode read = parts ∧ shape.readMembers seen read members = .ok last := by
  -- Backwards from the last parts, each member leaves the parts among those of the shape.
  induction members generalizing seen parts with
  | nil =>
    -- Without members, both stay with the parts that they start with.
    rw [JsonReader.nodeMembers]
    simp only [readMembers, Except.ok.injEq]
    constructor
    · intro same
      exact ⟨last, same.symm, rfl⟩
    · rintro ⟨_, same, rfl⟩
      exact same.symm
  | cons member rest ih =>
    obtain ⟨key, value⟩ := member
    obtain ⟨there, others⟩ := List.forall_mem_cons.mp values
    simp only [JsonReader.nodeMembers_cons_eq_ok_iff, readMembers_cons_eq_ok_iff kind.strict,
      knownKey_eq_ok_iff, ih others]
    constructor
    · -- The rest says which parts follow, so the member has to be one of the shape.
      rintro ⟨field, ⟨key, listed, fresh⟩, _, adds, next, rfl, readRest⟩
      obtain ⟨own, read, same, part⟩ := (kind.part field listed _ there _ _).mp adds
      exact ⟨read, same, field, ⟨key, own, fresh⟩, next, part, readRest⟩
    · -- A key of the shape is one of the node too, and its part is read alike.
      rintro ⟨read, same, field, ⟨key, own, fresh⟩, next, part, readRest⟩
      have listed := kind.known field own
      have adds := (kind.part field listed _ there _ _).mpr ⟨own, read, same, part⟩
      exact ⟨field, ⟨key, listed, fresh⟩, _, adds, next, rfl, readRest⟩

/-- Such a shape reads parts that make something from an object exactly if nothing in the object is
null and it is a filter node, provided that this node is what the parts make and no other parts. -/
theorem exists_reader_object_iff (kind : shape.IsKindOfNode toNode) {start : σ}
    (nothing : toNode start = .none) {make : σ → Prop} {node : Filter}
    (makes : ∀ parts : NodeParts,
      parts.toFilter = .ok node ↔ ∃ own, toNode own = parts ∧ make own)
    {members : List (JsonKey × Json)} :
    (∃ own, shape.reader start (.object members) = .ok own ∧ make own) ↔
      Json.HaveValues members ∧ JsonReader.filter (.object members) = .ok node := by
  -- Both readers go through the members, and then make something of the parts.
  rw [JsonReader.filter, bind_eq_ok_iff]
  simp only [makes, reader]
  constructor
  · -- What the shape has read has no null in it, so the node reads it as well.
    rintro ⟨own, reads, made⟩
    have values := kind.haveValues reads
    have readsNode := (kind.nodeMembers_eq_ok_iff values).mpr ⟨start, nothing, reads⟩
    exact ⟨values, toNode own, readsNode, own, rfl, made⟩
  · rintro ⟨values, _, readsNode, own, rfl, made⟩
    -- The node starts with no part, and so does the shape.
    obtain ⟨read, same, reads⟩ := (kind.nodeMembers_eq_ok_iff values).mp readsNode
    obtain rfl : read = start := kind.injective (same.trans nothing.symm)
    exact ⟨own, reads, made⟩

end JsonShape.IsKindOfNode

/-- A criterion is a kind of filter node. -/
theorem criterionShape_isKindOfNode : criterionShape.IsKindOfNode CriterionParts.toNode where
  strict := rfl
  known := by decide
  refusesNull := by
    -- No part is read from null.
    intro field own read next
    simp only [criterionShape, List.mem_cons, List.not_mem_nil, or_false] at own
    rcases own with rfl | rfl | rfl <;> nofun
  injective := by
    -- The parts of a node show those that they came from.
    intro first second same
    cases first
    cases second
    simpa [CriterionParts.toNode] using same
  part := by
    -- The node reads one part for each key.
    intro field known value there parts next
    rw [JsonReader.nodePart_eq_ok_iff known there]
    constructor
    · -- Under a key of a group, a part is added that the parts of a criterion do not have.
      rcases parts with ⟨_, _, _, _, _⟩
      rcases next with ⟨_, _, _⟩
      rintro (⟨rfl, found, reads, same⟩ | ⟨rfl, found, reads, same⟩ | ⟨rfl, found, reads, same⟩ |
        ⟨rfl, found, reads, same⟩ | ⟨rfl, found, reads, same⟩) <;> cases same
      all_goals
        refine ⟨by decide, ⟨_, _, _⟩, rfl, ?_⟩
        simp only [criterionShape, reads]
        rfl
    · -- Under each key of its own, the shape reads what the node reads there.
      rintro ⟨own, ⟨_, _, _⟩, rfl, adds⟩
      simp only [criterionShape, List.mem_cons, List.not_mem_nil, or_false] at own
      rcases own with rfl | rfl | rfl
      all_goals
        obtain ⟨found, reads, same⟩ := bind_eq_ok_iff.mp adds
        cases same
        simp [reads, CriterionParts.toNode]

/-- A group is a kind of filter node. -/
theorem groupShape_isKindOfNode : groupShape.IsKindOfNode GroupParts.toNode where
  strict := rfl
  known := by decide
  refusesNull := by
    -- No part is read from null.
    intro field own read next
    simp only [groupShape, List.mem_cons, List.not_mem_nil, or_false] at own
    rcases own with rfl | rfl <;> nofun
  injective := by
    -- The parts of a node show those that they came from.
    intro first second same
    cases first
    cases second
    simpa [GroupParts.toNode] using same
  part := by
    -- The node reads one part for each key.
    intro field known value there parts next
    rw [JsonReader.nodePart_eq_ok_iff known there]
    constructor
    · -- Under a key of a criterion, a part is added that the parts of a group do not have.
      rcases parts with ⟨_, _, _, _, _⟩
      rcases next with ⟨_, _⟩
      rintro (⟨rfl, found, reads, same⟩ | ⟨rfl, found, reads, same⟩ | ⟨rfl, found, reads, same⟩ |
        ⟨rfl, found, reads, same⟩ | ⟨rfl, found, reads, same⟩) <;> cases same
      all_goals
        refine ⟨by decide, ⟨_, _⟩, rfl, ?_⟩
        simp only [groupShape, reads]
        rfl
    · -- Under each key of its own, the shape reads what the node reads there.
      rintro ⟨own, ⟨_, _⟩, rfl, adds⟩
      simp only [groupShape, List.mem_cons, List.not_mem_nil, or_false] at own
      rcases own with rfl | rfl
      all_goals
        obtain ⟨found, reads, same⟩ := bind_eq_ok_iff.mp adds
        cases same
        simp [reads, GroupParts.toNode]

/-- Whether the parts of a criterion make a condition, with no operands if they are left out. -/
def CriterionParts.Make (parts : CriterionParts) (condition : Criterion) : Prop :=
  ∃ field operation, parts.field = some field ∧ parts.operation = some operation ∧
    condition = ⟨field, operation, parts.operands.getD []⟩

/-- Whether the parts of a group make one, with no children if they are left out. -/
def GroupParts.Make (parts : GroupParts) (made : Group) : Prop :=
  ∃ combinator, parts.combinator = some combinator ∧ made = ⟨combinator, parts.children.getD []⟩

/-- The parts of a filter node make a criterion exactly if they are those of a criterion only, and
make it. -/
theorem NodeParts.toFilter_eq_criterion_iff {parts : NodeParts} {condition : Criterion} :
    parts.toFilter = .ok (.criterion condition) ↔
      ∃ own : CriterionParts, own.toNode = parts ∧ own.Make condition := by
  -- Which parts are there decides what is made of them.
  constructor
  · -- Any part of a group leads to a group or to an error.
    rcases parts with ⟨_ | field, _ | operation, operands, _ | combinator, _ | children⟩ <;>
      intro made <;> cases operands <;> cases made
    all_goals exact ⟨⟨_, _, _⟩, rfl, _, _, rfl, rfl, rfl⟩
  · -- The parts of a criterion alone make it, with its operands or without.
    rintro ⟨⟨_, _, operands⟩, rfl, field, operation, rfl, rfl, rfl⟩
    cases operands <;> rfl

/-- The parts of a filter node make a group exactly if they are those of a group only, and make
it. -/
theorem NodeParts.toFilter_eq_group_iff {parts : NodeParts} {made : Group} :
    parts.toFilter = .ok made.toFilter ↔
      ∃ own : GroupParts, own.toNode = parts ∧ own.Make made := by
  -- Which parts are there decides what is made of them.
  rcases made with ⟨combinator, found⟩
  constructor
  · -- Any part of a criterion leads to a criterion or to an error.
    rcases parts with ⟨_ | field, _ | operation, _ | operands, _ | combinator, children⟩ <;>
      intro made <;> cases children <;> cases made
    all_goals exact ⟨⟨_, _⟩, rfl, _, rfl, rfl⟩
  · -- The parts of a group alone make it, with its children or without.
    rintro ⟨⟨_, children⟩, rfl, combinator, rfl, same⟩
    cases same
    cases children <;> rfl

namespace JsonReader

/-- A criterion is read by itself exactly if its parts are read and make it. -/
theorem criterion_eq_ok_iff {found : Json} {condition : Criterion} :
    criterion found = .ok condition ↔
      ∃ parts, criterionShape.reader ⟨none, none, none⟩ found = .ok parts ∧
        parts.Make condition := by
  -- A criterion needs a field and an operation, and may leave out its operands.
  rw [criterion, bind_eq_ok_iff]
  refine exists_congr fun parts => and_congr_right fun _ => ?_
  rcases parts with ⟨_ | field, _ | operation, operands⟩ <;>
    simp [CriterionParts.Make, JsonShape.missing, eq_comm]

/-- A group is read by itself exactly if its parts are read and make it. -/
theorem group_eq_ok_iff {found : Json} {made : Group} :
    group found = .ok made ↔
      ∃ parts, groupShape.reader ⟨none, none⟩ found = .ok parts ∧ parts.Make made := by
  -- A group needs a combinator, and may leave out its children.
  rw [group, bind_eq_ok_iff]
  refine exists_congr fun parts => and_congr_right fun _ => ?_
  rcases parts with ⟨_ | combinator, children⟩ <;>
    simp [GroupParts.Make, JsonShape.missing, eq_comm]

/-- An object is read as a criterion by itself exactly if nothing in it is null and it is a filter
node that is this criterion. -/
theorem criterion_object_eq_ok_iff {members : List (JsonKey × Json)} {condition : Criterion} :
    criterion (.object members) = .ok condition ↔
      Json.HaveValues members ∧ filter (.object members) = .ok (.criterion condition) := by
  -- A criterion is a kind of node, and its parts are the only ones that make it.
  rw [criterion_eq_ok_iff]
  exact criterionShape_isKindOfNode.exists_reader_object_iff rfl
    fun _ => NodeParts.toFilter_eq_criterion_iff

/-- An object is read as a group by itself exactly if nothing in it is null and it is a filter node
that is this group. -/
theorem group_object_eq_ok_iff {members : List (JsonKey × Json)} {made : Group} :
    group (.object members) = .ok made ↔
      Json.HaveValues members ∧ filter (.object members) = .ok made.toFilter := by
  -- A group is a kind of node, and its parts are the only ones that make it.
  rw [group_eq_ok_iff]
  exact groupShape_isKindOfNode.exists_reader_object_iff rfl
    fun _ => NodeParts.toFilter_eq_group_iff

section Documents

variable {members : List (JsonKey × Json)} {complete : Bool}

/-- A document that is an object is read as a criterion by itself exactly if nothing in it is null
and it is read as a filter node that is this criterion. -/
theorem readAs_criterion_iff {condition : Criterion} :
    JsonDocument.readAs ⟨.object members, complete⟩ criterion = .ok condition ↔
      Json.HaveValues members ∧
        JsonDocument.readAs ⟨.object members, complete⟩ filter = .ok (.criterion condition) := by
  -- Nothing may follow the object, whichever reader is used.
  rw [JsonDocument.readAs_eq_ok_iff, JsonDocument.readAs_eq_ok_iff, criterion_object_eq_ok_iff,
    and_assoc]

/-- A document that is an object is read as a group by itself exactly if nothing in it is null and
it is read as a filter node that is this group. -/
theorem readAs_group_iff {made : Group} :
    JsonDocument.readAs ⟨.object members, complete⟩ group = .ok made ↔
      Json.HaveValues members ∧
        JsonDocument.readAs ⟨.object members, complete⟩ filter = .ok made.toFilter := by
  -- Nothing may follow the object, whichever reader is used.
  rw [JsonDocument.readAs_eq_ok_iff, JsonDocument.readAs_eq_ok_iff, group_object_eq_ok_iff,
    and_assoc]

/-- No document that is an object is read as a criterion by itself and as a group by itself. -/
theorem not_readAs_both {condition : Criterion} {made : Group} :
    ¬(JsonDocument.readAs ⟨.object members, complete⟩ criterion = .ok condition ∧
      JsonDocument.readAs ⟨.object members, complete⟩ group = .ok made) := by
  intro both
  -- The node that both would read is a criterion and a group at once.
  have first := (readAs_criterion_iff.mp both.1).2
  have second := (readAs_group_iff.mp both.2).2
  rw [first] at second
  cases second

end Documents

/-- An object that is read as a criterion or as a group by itself is read as the same filter node, and
none is read as both. Where no member is null, an object that is read as a filter node is read as the
same by itself, as just the one of the two that the node is. -/
theorem filter_agrees_with_kinds (members : List (JsonKey × Json)) (complete : Bool) :
    let document : JsonDocument := ⟨.object members, complete⟩
    (∀ condition, document.readAs criterion = .ok condition →
      document.readAs filter = .ok (.criterion condition)) ∧
    (∀ made, document.readAs group = .ok made → document.readAs filter = .ok made.toFilter) ∧
    (∀ condition made,
      ¬(document.readAs criterion = .ok condition ∧ document.readAs group = .ok made)) ∧
    ∀ node, document.readAs filter = .ok node → Json.HaveValues members →
      (∃ condition, node = .criterion condition ∧ document.readAs criterion = .ok condition ∧
        ∀ made, document.readAs group ≠ .ok made) ∨
      (∃ made : Group, node = made.toFilter ∧ document.readAs group = .ok made ∧
        ∀ condition, document.readAs criterion ≠ .ok condition) := by
  -- What is read by itself is read as a node, and a node without nulls is read by itself.
  intro document
  refine ⟨fun condition reads => (readAs_criterion_iff.mp reads).2,
    fun made reads => (readAs_group_iff.mp reads).2, fun _ _ => not_readAs_both, ?_⟩
  intro node reads values
  -- The shape of the node says which of the two readers gives it.
  cases node with
  | criterion condition =>
    have own : document.readAs criterion = .ok condition :=
      readAs_criterion_iff.mpr ⟨values, reads⟩
    exact .inl ⟨condition, rfl, own, fun made other => not_readAs_both ⟨own, other⟩⟩
  | group combinator children =>
    have own : document.readAs group = .ok ⟨combinator, children⟩ :=
      readAs_group_iff.mpr ⟨values, reads⟩
    exact .inr ⟨⟨combinator, children⟩, rfl, own,
      fun condition other => not_readAs_both ⟨other, own⟩⟩

/-- A null combinator leaves a node the criterion that it is, which no longer reads by itself. -/
example :
    filter (.object [(.text "field", .string "gpa"), (.text "operation", .string "IS_NULL"),
      (.text "combinator", .null)]) = .ok (.criterion ⟨"gpa", .isNull, []⟩) ∧
    criterion (.object [(.text "field", .string "gpa"), (.text "operation", .string "IS_NULL"),
      (.text "combinator", .null)]) =
      .error (.unexpected
        "unknown field `combinator`, expected one of `field`, `operation`, `operands`") :=
  ⟨by cbv, by cbv⟩

end JsonReader

end Criteria

import Criteria.Proofs.Interchange.Nesting
import Criteria.Proofs.Value.Exchange

/-! Requests that were sent as JSON: the request that is read has texts for dates and date-times. -/

namespace Criteria

mutual

/-- A filter with each criterion changed. -/
def Filter.mapCriteria (change : Criterion → Criterion) : Filter → Filter
  | .criterion condition => .criterion (change condition)
  | .group combinator children => .group combinator (Filter.mapAllCriteria change children)

/-- Filters that stand side by side with each criterion changed. -/
def Filter.mapAllCriteria (change : Criterion → Criterion) : List Filter → List Filter
  | [] => []
  | child :: rest => child.mapCriteria change :: Filter.mapAllCriteria change rest

end

/-- The criterion that the JSON of a criterion is read as. -/
def Criterion.exchanged (condition : Criterion) : Criterion :=
  ⟨condition.field, condition.operation, condition.operands.map Value.exchanged⟩

/-- The request that the JSON of a request is read as. -/
def SearchRequest.exchanged (request : SearchRequest) : SearchRequest :=
  ⟨request.filter.map (Filter.mapCriteria Criterion.exchanged), request.sort⟩

namespace Filter

variable {change : Criterion → Criterion}

/-- Filters that stand side by side are changed one by one. -/
theorem mapAllCriteria_eq_map (filters : List Filter) :
    mapAllCriteria change filters = filters.map (mapCriteria change) := by
  -- The list is gone through as the function itself does.
  induction filters with
  | nil => rfl
  | cons first rest ih => rw [mapAllCriteria, ih, List.map_cons]

/-- The criteria of a changed filter are the changed criteria. -/
theorem criteria_mapCriteria (filter : Filter) :
    (filter.mapCriteria change).criteria = filter.criteria.map change := by
  -- The criteria of a group are those of its children in turn, changed or not.
  induction filter with
  | criterion condition => rfl
  | group combinator children ih =>
    rw [mapCriteria, criteria, criteria, mapAllCriteria_eq_map, allCriteria_eq_flatMap,
      allCriteria_eq_flatMap, List.flatMap_map, List.map_flatMap]
    exact List.flatMap_congr ih

/-- A changed filter has as many levels of nodes. -/
theorem depth_mapCriteria (filter : Filter) : (filter.mapCriteria change).depth = filter.depth := by
  induction filter with
  | criterion condition => rfl
  | group combinator children ih =>
    -- The children stay within the same bounds one by one.
    have same : depths (children.map (mapCriteria change)) = depths children := by
      refine eq_of_forall_ge_iff fun bound => ?_
      rw [depths_le_iff, depths_le_iff, List.forall_mem_map]
      exact forall₂_congr fun child member => by rw [ih child member]
    rw [mapCriteria, depth, depth, mapAllCriteria_eq_map, same]

end Filter

/-- If each value can be changed without a difference to what a step gives, so can a list. -/
theorem mapM_map_eq_some {α β : Type} {step : α → Option β} {change : α → α} {values : List α}
    {images : List β}
    (each : ∀ value ∈ values, ∀ image, step value = some image → step (change value) = some image)
    (all : values.mapM step = some images) : (values.map change).mapM step = some images := by
  -- Each image is one of the changed value as well.
  rw [mapM_eq_some_iff] at all ⊢
  rw [List.forall₂_map_left_iff]
  exact forall₂_imp_of_mem all each

/-- What a criterion is read as has the same JSON as the criterion. -/
theorem Criterion.toJson?_exchanged {condition : Criterion} {written : Json}
    (writes : condition.toJson? = some written) : condition.exchanged.toJson? = some written := by
  -- The operands keep their JSON, and the rest of the criterion stays.
  obtain ⟨operands, each, same⟩ := Option.bind_eq_some_iff.mp writes
  have steps : ∀ operand ∈ condition.operands, ∀ image, operand.toJson? = some image →
      operand.exchanged.toJson? = some image := fun _ _ _ => Value.toJson?_exchanged
  have again := mapM_map_eq_some steps each
  rw [toJson?, exchanged, again, ← same]
  rfl

/-- What a filter is read as has the same JSON as the filter. -/
theorem Filter.toJson?_exchanged {filter : Filter} {written : Json}
    (writes : filter.toJson? = some written) :
    (filter.mapCriteria Criterion.exchanged).toJson? = some written := by
  induction filter generalizing written with
  | criterion condition => exact Criterion.toJson?_exchanged writes
  | group combinator children ih =>
    -- Each child keeps its JSON, and so does the array of them.
    obtain ⟨images, each, same⟩ := Option.bind_eq_some_iff.mp writes
    rw [allToJson?_eq_mapM] at each
    have again := mapM_map_eq_some (fun child member _ => ih child member) each
    rw [mapCriteria, toJson?, mapAllCriteria_eq_map, allToJson?_eq_mapM, again, ← same]
    rfl

/-- The operands of a filter that is written are written themselves. -/
theorem Filter.exists_toJson?_of_mem_criteria {filter : Filter} {written : Json}
    (writes : filter.toJson? = some written) :
    ∀ condition ∈ filter.criteria, ∀ operand ∈ condition.operands,
      ∃ image, operand.toJson? = some image := by
  -- The induction follows the tree, whose leaves are the criteria.
  induction filter generalizing written with
  | criterion condition =>
    -- A criterion is written only if all its operands are.
    obtain ⟨operands, all, -⟩ := Option.bind_eq_some_iff.mp writes
    have each := mapM_eq_some_iff.mp all
    rw [criteria, List.forall_mem_singleton]
    exact forall_mem_of_forall₂_left (each.imp fun _ image same => ⟨image, same⟩)
  | group combinator children ih =>
    -- A group is written only if all its children are.
    obtain ⟨images, all, -⟩ := Option.bind_eq_some_iff.mp writes
    rw [allToJson?_eq_mapM] at all
    have each := mapM_eq_some_iff.mp all
    rw [criteria, allCriteria_eq_flatMap, List.forall_mem_flatMap]
    exact forall_mem_of_forall₂_left (forall₂_imp_of_mem each fun child member _ => ih child member)

namespace SearchRequest

variable {request : SearchRequest}

/-- What a request is read as has the same JSON as the request. -/
theorem toJson?_exchanged {written : Json} (writes : request.toJson? = some written) :
    request.exchanged.toJson? = some written := by
  -- Only the filter is changed, if there is one.
  rcases request with ⟨filter, sort⟩
  cases filter with
  | none => exact writes
  | some filter =>
    rw [toJson?_some] at writes
    obtain ⟨image, writesFilter, rfl⟩ := Option.map_eq_some_iff.mp writes
    rw [exchanged, Option.map_some, toJson?_some, Filter.toJson?_exchanged writesFilter,
      Option.map_some]

/-- What a request is read as has as many levels as the request. -/
theorem levels_exchanged (request : SearchRequest) : request.exchanged.levels = request.levels := by
  -- Only the filter has levels, if there is one.
  rcases request with ⟨filter, sort⟩
  cases filter with
  | none => rfl
  | some filter => exact filter.depth_mapCriteria

/-- The criteria of what a request is read as are what its criteria are read as. -/
theorem criteria_exchanged (request : SearchRequest) :
    request.exchanged.criteria = request.criteria.map Criterion.exchanged := by
  -- Only the filter has criteria, if there is one.
  rcases request with ⟨filter, sort⟩
  cases filter with
  | none => rfl
  | some filter => exact filter.criteria_mapCriteria

/-- The text of a request without floats is read as the request with texts for its dates and
date-times, where there is room for its levels. -/
theorem ofText_exchanged {text : String} {most : Nat}
    (exact : ∀ condition ∈ request.criteria, ∀ operand ∈ condition.operands, ∀ number,
      operand ≠ .float number)
    (enough : 3 ≤ most) (room : 2 * request.levels < most) (writes : request.toText? = some text) :
    ofText (some most) text = .ok request.exchanged := by
  obtain ⟨written, writesJson, same⟩ := Option.map_eq_some_iff.mp writes
  -- Both requests have the same text, and the one that is read has plain operands.
  have writesAgain : request.exchanged.toText? = some text := by
    rw [toText?, toJson?_exchanged writesJson, Option.map_some, same]
  have plain : ∀ condition ∈ request.exchanged.criteria, ∀ operand ∈ condition.operands,
      operand.IsPlain := by
    rw [criteria_exchanged, List.forall_mem_map]
    intro condition inside
    rw [Criterion.exchanged, List.forall_mem_map]
    exact fun operand member => Value.isPlain_exchanged (exact condition inside operand member)
  -- A request of plain operands is what its own text is read to.
  refine (ofText_eq_ok_iff plain enough writesAgain).mpr ⟨rfl, ?_⟩
  rw [levels_exchanged]
  exact room

end SearchRequest

end Criteria

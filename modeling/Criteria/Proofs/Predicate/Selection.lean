import Criteria.Proofs.Sorting.Stability
import Criteria.Proofs.Value.Order
import Criteria.School
import Mathlib.Data.List.FinRange
import Mathlib.Data.List.Perm.Basic

/-! A query selects the records that it keeps, in the one arrangement that its terms ask for. -/

namespace Criteria

namespace SortTerm

/-- A term puts a row before another: the value is below, or above if the term is descending. -/
def Puts (term : SortTerm) (left right : Row) : Prop :=
  match term.direction with
  | .ascending => (left term.path).IsBelow (right term.path)
  | .descending => (right term.path).IsBelow (left term.path)

/-- A row precedes another by some terms: the first of them at which the values are not level puts
it before, or there is none and the row was there earlier. -/
def Precedes (terms : List SortTerm) (left right : Row) (earlier : Prop) : Prop :=
  (∃ before term after, terms = before ++ term :: after ∧
    (∀ other ∈ before, (left other.path).IsLevel (right other.path)) ∧
    ¬(left term.path).IsLevel (right term.path) ∧ term.Puts left right) ∨
  (∀ term ∈ terms, (left term.path).IsLevel (right term.path)) ∧ earlier

/-- Rows with nothing to sort by stay in the order they came in. -/
theorem precedes_nil_iff {left right : Row} {earlier : Prop} :
    Precedes [] left right earlier ↔ earlier := by
  -- No term can decide, and all of them, being none, find the rows level.
  simp [Precedes]

/-- The first term decides unless it finds the rows level, and then the others do. -/
theorem precedes_cons_iff {term : SortTerm} {terms : List SortTerm} {left right : Row}
    {earlier : Prop} :
    Precedes (term :: terms) left right earlier ↔
      ¬(left term.path).IsLevel (right term.path) ∧ term.Puts left right ∨
      (left term.path).IsLevel (right term.path) ∧ Precedes terms left right earlier := by
  -- The deciding term is the first one, or one of those after it.
  constructor
  · intro precedes
    rcases precedes with ⟨before, decisive, after, split, level, apart, puts⟩ | ⟨level, first⟩
    · -- If the deciding term is the first one, the rows are not level there.
      cases before with
      | nil =>
        cases split
        exact Or.inl ⟨apart, puts⟩
      | cons other before =>
        cases split
        have levelRest := fun other member => level other (List.mem_cons_of_mem _ member)
        exact Or.inr ⟨level _ List.mem_cons_self,
          Or.inl ⟨before, decisive, after, rfl, levelRest, apart, puts⟩⟩
    · -- Rows that are level under all terms keep the order they came in.
      have levelRest := fun other member => level other (List.mem_cons_of_mem _ member)
      exact Or.inr ⟨level _ List.mem_cons_self, Or.inr ⟨levelRest, first⟩⟩
  · intro decided
    -- Before the deciding term, the first one is one more that finds the rows level.
    rcases decided with ⟨apart, puts⟩ | ⟨level, precedes⟩
    · exact Or.inl ⟨[], term, terms, rfl, by simp, apart, puts⟩
    · rcases precedes with ⟨before, decisive, after, rfl, levels, apart, puts⟩ | ⟨levels, first⟩
      · have levelAll : ∀ other ∈ term :: before, (left other.path).IsLevel (right other.path) :=
          List.forall_mem_cons.mpr ⟨level, levels⟩
        exact Or.inl ⟨term :: before, decisive, after, rfl, levelAll, apart, puts⟩
      · exact Or.inr ⟨List.forall_mem_cons.mpr ⟨level, levels⟩, first⟩

/-- The order of two rows by the keys of their values at the path of a term. -/
def keyOrder (term : SortTerm) (left right : Row) : Ordering :=
  match term.direction with
  | .ascending => compare (left term.path).sortKey (right term.path).sortKey
  | .descending => compare (right term.path).sortKey (left term.path).sortKey

instance (term : SortTerm) : Std.TransCmp term.keyOrder := by
  rcases term with ⟨path, direction⟩
  have ascending : Std.TransCmp (compareOn fun row : Row => (row path).sortKey) := inferInstance
  cases direction with
  | ascending => exact ascending
  | descending => exact @Std.TransCmp.opposite Row _ ascending

/-- The order of two rows by the keys of their values, term after term. -/
def keyOrderBy : List SortTerm → Row → Row → Ordering
  | [] => fun _ _ => .eq
  | term :: rest => compareLex term.keyOrder (keyOrderBy rest)

instance (terms : List SortTerm) : Std.TransCmp (keyOrderBy terms) := by
  induction terms with
  | nil => exact { eq_swap := rfl, isLE_trans := fun _ _ => rfl }
  | cons term rest ih => exact inferInstanceAs (Std.TransCmp (compareLex _ _))

/-- Every term finds values in two rows that fit one variant. -/
def Fits (terms : List SortTerm) (left right : Row) : Prop :=
  ∀ term ∈ terms, ∃ variant, (left term.path).Fits variant ∧ (right term.path).Fits variant

variable {term : SortTerm} {terms : List SortTerm} {left right : Row}

/-- A term orders rows by keys where it finds values that fit one variant. -/
theorem order_eq_keyOrder {variant : String} (leftFits : (left term.path).Fits variant)
    (rightFits : (right term.path).Fits variant) :
    term.order left right = term.keyOrder left right := by
  -- Keys are ordered as the values are, and turning the order round swaps the rows.
  unfold order keyOrder
  rw [leftFits.sortOrder_eq_compare rightFits]
  cases term.direction with
  | ascending => rfl
  | descending => exact Std.OrientedCmp.eq_swap.symm

/-- Terms order rows by keys where they find values that fit one variant. -/
theorem orderBy_eq_keyOrderBy (fits : Fits terms left right) :
    orderBy left right terms = keyOrderBy terms left right := by
  -- Both leave ties to the terms that follow.
  induction terms with
  | nil => rfl
  | cons term rest ih =>
    obtain ⟨variant, leftFits, rightFits⟩ := fits term List.mem_cons_self
    rw [orderBy, order_eq_keyOrder leftFits rightFits,
      ih fun other member => fits other (List.mem_cons_of_mem term member)]
    rfl

/-- A term has rows level exactly when their values stand level. -/
theorem keyOrder_eq_eq_iff {variant : String} (leftFits : (left term.path).Fits variant)
    (rightFits : (right term.path).Fits variant) :
    term.keyOrder left right = .eq ↔ (left term.path).IsLevel (right term.path) := by
  rw [← order_eq_keyOrder leftFits rightFits, ← leftFits.sortOrder_eq_eq_iff rightFits]
  unfold order
  -- Turning an order round leaves it level.
  cases term.direction with
  | ascending => exact Iff.rfl
  | descending => exact Ordering.swap_eq_eq

/-- A term has a row first exactly when it puts it before the other. -/
theorem keyOrder_eq_lt_iff {variant : String} (leftFits : (left term.path).Fits variant)
    (rightFits : (right term.path).Fits variant) :
    term.keyOrder left right = .lt ↔ term.Puts left right := by
  -- In descending order, the other row is the one below.
  unfold keyOrder Puts
  cases term.direction with
  | ascending => exact leftFits.compare_sortKey_eq_lt_iff rightFits
  | descending => exact rightFits.compare_sortKey_eq_lt_iff leftFits

/-- A row comes first by the keys of its values, and then by where it was, exactly when it precedes
the other by the terms. -/
theorem keyOrderBy_then_eq_lt_iff (fits : Fits terms left right) (tie : Ordering) :
    (keyOrderBy terms left right).then tie = .lt ↔ Precedes terms left right (tie = .lt) := by
  -- The induction is on the terms, and where the row was decides when there are none left.
  induction terms with
  | nil => exact precedes_nil_iff.symm
  | cons term rest ih =>
    obtain ⟨variant, leftFits, rightFits⟩ := fits term List.mem_cons_self
    have follow := ih fun other member => fits other (List.mem_cons_of_mem term member)
    have level := keyOrder_eq_eq_iff leftFits rightFits
    have puts := keyOrder_eq_lt_iff leftFits rightFits
    rw [precedes_cons_iff, ← follow, ← level, ← puts, keyOrderBy, compareLex,
      Ordering.then_assoc, Ordering.then_eq_lt]
    -- What comes first is not level.
    have apart : term.keyOrder left right = .lt → term.keyOrder left right ≠ .eq := by
      intro first
      rw [first]
      decide
    exact or_congr_left (and_iff_right_of_imp apart).symm

end SortTerm

namespace Query

open scoped List

variable {α : Type} (query : RowQuery) (row : α → Row) (records : List α)

/-- Every term of a query finds values of one variant, or null, in the records that it keeps. -/
def IsUniform : Prop :=
  ∀ term ∈ query.order, ∃ variant, ∀ record ∈ records,
    query.predicate.holds (row record) = true → (row record term.path).Fits variant

/-- The terms of a query do not contradict themselves on the records that it keeps. -/
def IsConsistent : Prop :=
  Sorting.Ranks (fun left right => SortTerm.orderBy (row left) (row right) query.order)
    (records.filter fun candidate => query.predicate.holds (row candidate))

/-- Positions of records arranged by a query: those of the records that it keeps, each once, and
one before another exactly when its record precedes the other's by the terms of the query. -/
structure Arranges (positions : List (Fin records.length)) : Prop where
  nodup : positions.Nodup
  mem_iff : ∀ position, position ∈ positions ↔
    query.predicate.holds (row (records.get position)) = true
  lt_iff : ∀ first second : Fin positions.length, first < second ↔
    SortTerm.Precedes query.order (row (records.get (positions.get first)))
      (row (records.get (positions.get second))) (positions.get first < positions.get second)

/-- The positions of the records that a query keeps, in the order of the records. -/
def positions : List (Fin records.length) :=
  (List.finRange records.length).filter fun position =>
    query.predicate.holds (row (records.get position))

/-- The order of two positions by the keys of their records. -/
def recordOrder (first second : Fin records.length) : Ordering :=
  SortTerm.keyOrderBy query.order (row (records.get first)) (row (records.get second))

instance : Std.TransCmp (query.recordOrder row records) where
  eq_swap := by
    unfold recordOrder
    exact Std.OrientedCmp.eq_swap
  isLE_trans := by
    unfold recordOrder
    exact Std.TransCmp.isLE_trans

/-- The order of two positions by the keys of their records, and then by themselves. -/
def positionOrder : Fin records.length → Fin records.length → Ordering :=
  compareLex (query.recordOrder row records) compare

instance : Std.TransCmp (query.positionOrder row records) :=
  inferInstanceAs (Std.TransCmp (compareLex _ _))

/-- The positions of the records that a query keeps, sorted by its terms. -/
def arranged : List (Fin records.length) :=
  Sorting.stableSort (fun first second => SortTerm.orderBy (row (records.get first))
    (row (records.get second)) query.order = .lt) (query.positions row records)

variable {query row records}

/-- A position is kept exactly when the query holds of its record. -/
theorem mem_positions_iff {position : Fin records.length} :
    position ∈ query.positions row records ↔
      query.predicate.holds (row (records.get position)) = true := by
  simp [positions]

/-- No position is kept twice. -/
theorem nodup_positions : (query.positions row records).Nodup :=
  -- There is one position for each record, and some are left out.
  (List.nodup_finRange _).filter _

/-- The records kept are those at the positions kept. -/
theorem filter_eq_map_positions :
    records.filter (fun candidate => query.predicate.holds (row candidate)) =
      (query.positions row records).map records.get := by
  -- The records are those at all positions, and filtering either is the same.
  conv_lhs => rw [← List.map_get_finRange records, List.filter_map]
  rfl

/-- The terms of a query find values of one variant in any two records that it keeps. -/
theorem IsUniform.fits (uniform : query.IsUniform row records) {left right : α}
    (leftKept : left ∈ records.filter fun candidate => query.predicate.holds (row candidate))
    (rightKept : right ∈ records.filter fun candidate => query.predicate.holds (row candidate)) :
    SortTerm.Fits query.order (row left) (row right) := by
  -- One variant fits all records that are kept, so it fits these two.
  intro term member
  obtain ⟨variant, fits⟩ := uniform term member
  rw [List.mem_filter] at leftKept rightKept
  exact ⟨variant, fits left leftKept.1 leftKept.2, fits right rightKept.1 rightKept.2⟩

/-- The records at two positions that are kept are kept. -/
theorem IsUniform.fits_get (uniform : query.IsUniform row records)
    {first second : Fin records.length} (firstKept : first ∈ query.positions row records)
    (secondKept : second ∈ query.positions row records) :
    SortTerm.Fits query.order (row (records.get first)) (row (records.get second)) := by
  -- The records at positions that are kept are among those kept.
  refine uniform.fits ?_ ?_
  · rw [filter_eq_map_positions]
    exact List.mem_map_of_mem firstKept
  · rw [filter_eq_map_positions]
    exact List.mem_map_of_mem secondKept

/-- Terms that find values of one variant do not contradict themselves. -/
theorem IsUniform.isConsistent (uniform : query.IsUniform row records) :
    query.IsConsistent row records := by
  -- On the records kept, the terms order them by keys, and keys are in a linear order.
  have keyed : Std.TransCmp fun left right : α =>
      SortTerm.keyOrderBy query.order (row left) (row right) :=
    { eq_swap := Std.OrientedCmp.eq_swap, isLE_trans := Std.TransCmp.isLE_trans }
  exact Sorting.Ranks.of_agree fun left leftKept right rightKept =>
    SortTerm.orderBy_eq_keyOrderBy (uniform.fits leftKept rightKept)

/-- Terms that do not contradict themselves select the records at the arranged positions. -/
theorem IsConsistent.select?_eq (consistent : query.IsConsistent row records) :
    query.select? row records = some ((query.arranged row records).map records.get) := by
  -- Without contradictions there is one sorted list, and positions are sorted as their records are.
  unfold select?
  rw [consistent.sort?_eq, filter_eq_map_positions, Sorting.stableSort_map]
  rfl

/-- Positions are arranged exactly as the keys of their records are ordered. -/
theorem IsUniform.arranged_pairwise (uniform : query.IsUniform row records) :
    (query.arranged row records).Pairwise fun first second =>
      query.positionOrder row records first second = .lt := by
  -- Stable sorting leaves ties in the order of the positions.
  have agree : ∀ first ∈ query.positions row records, ∀ second ∈ query.positions row records,
      SortTerm.orderBy (row (records.get first)) (row (records.get second)) query.order =
        query.recordOrder row records first second := fun _ firstKept _ secondKept =>
    SortTerm.orderBy_eq_keyOrderBy (uniform.fits_get firstKept secondKept)
  refine Sorting.stableSort_pairwise_compareLex agree ?_
  -- As they come, positions ascend.
  have ascending : (query.positions row records).Pairwise fun first second => first < second :=
    (List.pairwise_lt_finRange _).filter _
  refine ascending.imp ?_
  intro first second before
  exact Nat.compare_eq_lt.mpr before

/-- Among positions that are kept, one comes first exactly when its record precedes the other's. -/
theorem IsUniform.positionOrder_eq_lt_iff (uniform : query.IsUniform row records)
    {first second : Fin records.length} (firstKept : first ∈ query.positions row records)
    (secondKept : second ∈ query.positions row records) :
    query.positionOrder row records first second = .lt ↔
      SortTerm.Precedes query.order (row (records.get first)) (row (records.get second))
        (first < second) := by
  -- Ties are broken by the positions themselves.
  have tie : (first < second) = (compare first second = .lt) := propext Nat.compare_eq_lt.symm
  rw [tie]
  exact SortTerm.keyOrderBy_then_eq_lt_iff (uniform.fits_get firstKept secondKept) _

/-- Positions are arranged by a query exactly when they are those kept and ordered by the keys of
their records. -/
theorem IsUniform.arranges_iff (uniform : query.IsUniform row records)
    {candidates : List (Fin records.length)} :
    query.Arranges row records candidates ↔ candidates ~ query.positions row records ∧
      candidates.Pairwise fun first second =>
        query.positionOrder row records first second = .lt := by
  -- Positions are the same up to their order, and ordered pair by pair.
  constructor
  · intro arranges
    -- Lists without repetitions are rearrangements if they have the same members.
    have same : candidates ~ query.positions row records :=
      (List.perm_ext_iff_of_nodup arranges.nodup nodup_positions).mpr fun position =>
        (arranges.mem_iff position).trans mem_positions_iff.symm
    refine ⟨same, ?_⟩
    -- Of two candidates, the order decides which one has to stand first.
    rw [List.pairwise_iff_getElem]
    intro first second firstBound secondBound before
    rw [uniform.positionOrder_eq_lt_iff (same.subset (List.getElem_mem firstBound))
      (same.subset (List.getElem_mem secondBound))]
    exact (arranges.lt_iff ⟨first, firstBound⟩ ⟨second, secondBound⟩).mp before
  · intro sorted
    obtain ⟨same, ordered⟩ := sorted
    refine ⟨same.nodup_iff.mpr nodup_positions, fun position =>
      same.mem_iff.trans mem_positions_iff, ?_⟩
    rw [List.pairwise_iff_getElem] at ordered
    intro first second
    rw [← uniform.positionOrder_eq_lt_iff (same.subset (List.get_mem candidates first))
      (same.subset (List.get_mem candidates second))]
    constructor
    · exact ordered first second first.isLt second.isLt
    · -- Otherwise the second is the first or stands before it.
      intro before
      by_contra late
      rcases Nat.lt_or_eq_of_le (Nat.le_of_not_lt late) with earlier | equal
      · have back := ordered second first second.isLt first.isLt earlier
        have turned := Std.OrientedCmp.gt_of_lt back
        simp only [List.get_eq_getElem] at before
        rw [before] at turned
        cases turned
      · have level : query.positionOrder row records (candidates.get first)
            (candidates.get first) = .eq := Std.ReflCmp.compare_self
        rw [Fin.eq_of_val_eq equal, level] at before
        cases before

/-- There is one arrangement, in which the query's terms put the positions. -/
theorem IsUniform.arranges_iff_eq_arranged (uniform : query.IsUniform row records)
    {candidates : List (Fin records.length)} :
    query.Arranges row records candidates ↔ candidates = query.arranged row records := by
  -- Two rearrangements of the same positions that are both strictly ordered are one list.
  have same : query.arranged row records ~ query.positions row records :=
    Sorting.stableSort_perm _
  rw [uniform.arranges_iff]
  constructor
  · intro sorted
    obtain ⟨perm, ordered⟩ := sorted
    refine List.Perm.eq_of_pairwise ?_ ordered uniform.arranged_pairwise (perm.trans same.symm)
    -- No two positions come before one another.
    intro first second _ _ before after
    rw [Std.OrientedCmp.gt_of_lt before] at after
    cases after
  · intro equal
    rw [equal]
    exact ⟨same, uniform.arranged_pairwise⟩

/-- A query whose terms find values of one variant selects the records that it keeps in the one
arrangement that its terms ask for.

Any query selects as many records as it counts, and selects none at all only if its terms contradict
themselves on more than twenty records. -/
theorem selects_arranged_records (query : RowQuery) (row : α → Row) (records : List α) :
    (query.IsUniform row records → ∃ arranged,
      (∀ candidates, query.Arranges row records candidates ↔ candidates = arranged) ∧
        query.select? row records = some (arranged.map records.get)) ∧
    match query.select? row records with
    | some selected =>
      selected ~ records.filter (fun candidate => query.predicate.holds (row candidate)) ∧
        selected.length = query.count row records
    | none => 20 < query.count row records ∧ ¬query.IsConsistent row records := by
  refine ⟨fun uniform => ⟨query.arranged row records, fun candidates =>
    uniform.arranges_iff_eq_arranged, uniform.isConsistent.select?_eq⟩, ?_⟩
  -- Sorting loses no record and adds none, whatever the order is.
  cases sorted : query.select? row records with
  | some selected =>
    have perm := Sorting.sort?_rearranges _ _ sorted
    exact ⟨perm, perm.length_eq⟩
  | none => exact Sorting.sort?_eq_none sorted

/-- The students with the grade A, the classes in descending order. -/
def gradeA : RowQuery :=
  ⟨.compare ⟨["gpaLetter"]⟩ .equal (.text "A"),
    [⟨⟨["community", "className"]⟩, .descending⟩, ⟨⟨["isFullTime"]⟩, .ascending⟩]⟩

/-- Two students of one class stay in order, and the one without a class comes last. -/
theorem selects_arranged_records_gradeA :
    gradeA.IsUniform School.StudentRecord.row School.students ∧ ∃ arranged,
      (∀ candidates, gradeA.Arranges School.StudentRecord.row School.students candidates ↔
        candidates = arranged) ∧
      (arranged.map School.students.get).map School.StudentRecord.id = [9, 1, 17, 15, 13] := by
  -- Both terms find values of one variant, which is decided on the sample.
  have uniform : gradeA.IsUniform School.StudentRecord.row School.students := by
    intro term member
    simp only [gradeA, List.mem_cons, List.not_mem_nil, or_false] at member
    rcases member with rfl | rfl
    · exact ⟨"Text", by unfold Value.Fits; decide +kernel⟩
    · exact ⟨"Bool", by unfold Value.Fits; decide +kernel⟩
  obtain ⟨arranged, unique, selected⟩ := (selects_arranged_records gradeA _ _).1 uniform
  refine ⟨uniform, arranged, unique, ?_⟩
  -- The records selected are computed, and the arrangement is theirs.
  have sorted : (gradeA.select? School.StudentRecord.row School.students).map
      (List.map School.StudentRecord.id) = some [9, 1, 17, 15, 13] := by decide +kernel
  rw [selected] at sorted
  exact Option.some.inj sorted

end Query

end Criteria

import Criteria.Sorting.Adaptive
import Mathlib.Data.List.Nodup
import Mathlib.Data.List.Perm.Subperm

/-! Sorting rearranges, whatever the order is: no element is lost and none is there twice. -/

namespace Criteria

namespace Sorting

open scoped List

variable {α : Type} {precedes : α → α → Bool}

section Insertion

/-- Inserting an element adds just this one. -/
theorem insertFromEnd_perm (element : α) (placed : List α) :
    insertFromEnd precedes element placed ~ element :: placed := by
  -- The induction goes through what is placed, up to the place of the element.
  induction placed with
  | nil => exact List.Perm.refl _
  | cons last rest ih =>
    rw [insertFromEnd]
    split
    -- The element goes somewhere behind the last one, so the two have changed places.
    · exact (ih.cons last).trans (List.Perm.swap element last rest)
    · exact List.Perm.refl _

/-- Inserting elements one after the other adds just these. -/
theorem foldl_insertFromEnd_perm (placed elements : List α) :
    elements.foldl (fun placed element => insertFromEnd precedes element placed) placed ~
      placed ++ elements := by
  -- The elements are inserted in turn, so what is placed is general in the induction.
  induction elements generalizing placed with
  | nil => simp
  | cons element rest ih =>
    have inserted : insertFromEnd precedes element placed ~ element :: placed :=
      insertFromEnd_perm element placed
    -- The element leaves the front of what is left for some place in what is placed.
    calc rest.foldl (fun placed element => insertFromEnd precedes element placed)
          (insertFromEnd precedes element placed)
        ~ insertFromEnd precedes element placed ++ rest := ih _
      _ ~ element :: placed ++ rest := inserted.append_right rest
      _ ~ placed ++ element :: rest := List.perm_middle.symm

/-- Inserting elements into a sorted list rearranges both together. -/
theorem insertAll_perm (sorted elements : List α) :
    insertAll precedes sorted elements ~ sorted ++ elements := by
  -- Placing goes on downwards, and turning a list round only rearranges it.
  refine (List.reverse_perm _).trans ?_
  refine (foldl_insertFromEnd_perm sorted.reverse elements).trans ?_
  exact (List.reverse_perm sorted).append_right elements

/-- Sorting by insertion rearranges. -/
theorem stableSort_perm (elements : List α) : stableSort precedes elements ~ elements :=
  -- Elements are inserted into a list that has none.
  insertAll_perm [] elements

end Insertion

section Merging

/-- Merging from the fronts rearranges both lists together. -/
theorem mergeFronts_perm (left right : List α) :
    mergeFronts precedes left right ~ left ++ right :=
  -- Merging from the fronts is the merge that lists have.
  List.merge_perm_append _

/-- Merging from the backs rearranges both lists together. -/
theorem mergeBacks_perm (left right : List α) :
    mergeBacks precedes left right ~ left ++ right := by
  -- Both lists are turned round before they are merged, and their merge after it.
  refine (List.reverse_perm _).trans ?_
  refine (List.merge_perm_append _).trans ?_
  rw [← List.reverse_append]
  exact List.reverse_perm _

/-- Merging from the side of the shorter list rearranges both lists together. -/
theorem merge_perm (left right : List α) : merge precedes left right ~ left ++ right := by
  -- Either way of merging keeps all elements.
  unfold merge
  split
  · exact mergeFronts_perm left right
  · exact mergeBacks_perm left right

/-- Elements taken from a list at both ends, with those from the positions not taken between them,
are the whole list if they are no more than it has. -/
theorem taken_perm {placed front middle back : List (α × Nat)}
    (apart : (placed.map Prod.snd).Nodup) (within : front ++ back ⊆ placed)
    (left : ∀ entry ∈ placed, entry.2 ∉ (front ++ back).map Prod.snd → entry ∈ middle)
    (full : (front ++ middle ++ back).length = placed.length) :
    front ++ middle ++ back ~ placed := by
  have distinct : placed.Nodup := List.Nodup.of_map Prod.snd apart
  -- Every element is taken or is left, so none of them is missing.
  have covers : placed ⊆ front ++ middle ++ back := by
    intro entry member
    by_cases taken : entry.2 ∈ (front ++ back).map Prod.snd
    · -- Positions are told apart, so what was taken from this one is the element itself.
      obtain ⟨other, chosen, same⟩ := List.mem_map.mp taken
      have equal : other = entry := List.inj_on_of_nodup_map apart (within chosen) member same
      subst equal
      rcases List.mem_append.mp chosen with first | last
      · exact List.mem_append_left _ (List.mem_append_left _ first)
      · exact List.mem_append_right _ last
    · exact List.mem_append_left _ (List.mem_append_right _ (left entry member taken))
  -- With no more elements than that, none of them is there twice.
  have fits : (front ++ middle ++ back).length ≤ placed.length := Nat.le_of_eq full
  exact ((List.subperm_of_subset distinct covers).perm_of_length_le fits).symm

/-- Merging from both ends rearranges both lists together, if the halves meet. -/
theorem mergeBothEnds?_perm {left right merged : List α}
    (meets : mergeBothEnds? precedes left right = some merged) : merged ~ left ++ right := by
  -- Elements are taken with their positions, which tell equal ones apart.
  unfold mergeBothEnds? at meets
  simp only [Option.ite_none_right_eq_some, Option.some.injEq] at meets
  obtain ⟨full, rfl⟩ := meets
  have placed : left ++ right = (left ++ right).zipIdx.map Prod.fst :=
    (List.zipIdx_map_fst _ _).symm
  conv_rhs => rw [placed]
  refine List.Perm.map Prod.fst (taken_perm ?_ ?_ ?_ ?_)
  · -- Every position is there once.
    rw [List.zipIdx_map_snd]
    exact List.nodup_range'
  · -- Either half comes from a merge of the placed elements, which has no others.
    intro entry taken
    rcases List.mem_append.mp taken with first | last
    · have merged := List.mem_of_mem_take first
      rwa [(mergeFronts_perm _ _).mem_iff, List.take_append_drop] at merged
    · have merged := List.mem_of_mem_drop last
      rwa [(mergeBacks_perm _ _).mem_iff, List.take_append_drop] at merged
  · -- What is left between the ends was taken from neither.
    intro entry member free
    simp only [List.mem_filter, member, true_and, Bool.not_eq_true', List.contains_eq_mem,
      decide_eq_false_iff_not]
    exact free
  · simpa using full

end Merging

section ShortLists

/-- Two elements in either order are the same two. -/
theorem swapped_perm (falls : Bool) (first second : α) :
    [if falls then second else first, if falls then first else second] ~ [first, second] := by
  cases falls with
  | false => exact List.Perm.refl _
  | true => exact List.Perm.swap first second []

/-- The least and the greatest ends of two pairs, with what remains of the pairs between them, are
the four elements of the pairs. -/
theorem crossed_perm (lowFalls highFalls : Bool) (low high otherLow otherHigh : α) :
    [if lowFalls then otherLow else low,
      if lowFalls then low else if highFalls then otherLow else high,
      if highFalls then otherHigh else if lowFalls then high else otherLow,
      if highFalls then high else otherHigh] ~ [low, high, otherLow, otherHigh] := by
  classical
  -- Whatever the comparisons say, each of the four has one place.
  refine List.perm_iff_count.mpr fun element => ?_
  cases lowFalls <;> cases highFalls <;>
    simp only [Bool.false_eq_true, if_true, if_false, List.count_cons, List.count_nil] <;> omega

/-- Four elements with the middle ones in either order are the same four. -/
theorem turned_perm (falls : Bool) (least left right greatest : α) :
    (if falls then [least, right, left, greatest] else [least, left, right, greatest]) ~
      [least, left, right, greatest] := by
  -- Only the middle ones may change places.
  cases falls with
  | false => exact List.Perm.refl _
  | true => exact (List.Perm.swap left right [greatest]).cons least

/-- Four elements sorted by comparisons are the same four. -/
theorem sortFour_perm (precedes : α → α → Bool) (elements : List α) :
    sortFour precedes elements ~ elements := by
  unfold sortFour
  split
  · rename_i a b c d
    -- Two pairs are put in order, then their ends are compared, and last the two between.
    have pairs := (swapped_perm (precedes b a) a b).append (swapped_perm (precedes d c) c d)
    refine List.Perm.trans ?_ pairs
    cases precedes b a <;> cases precedes d c <;>
      exact (turned_perm _ _ _ _ _).trans (crossed_perm _ _ _ _ _ _)
  · exact List.Perm.refl _

/-- Sorting eight elements, or whatever there is, rearranges. -/
theorem sortEight?_perm {elements sorted : List α}
    (sorts : sortEight? precedes elements = some sorted) : sorted ~ elements := by
  -- Both halves of four keep their elements, and merging keeps those of the halves.
  have halves := (sortFour_perm precedes (elements.take 4)).append
    (sortFour_perm precedes (elements.drop 4))
  rw [List.take_append_drop] at halves
  exact (mergeBothEnds?_perm sorts).trans halves

/-- Sorting half of a short list rearranges. -/
theorem sortHalf?_perm {size : Nat} {half sorted : List α}
    (sorts : sortHalf? precedes size half = some sorted) : sorted ~ half := by
  -- How many elements are sorted by themselves first depends on the size.
  unfold sortHalf? at sorts
  split at sorts
  · -- The first eight are sorted by themselves, and the others are inserted.
    obtain ⟨first, firstSorts, inserts⟩ := Option.bind_eq_some_iff.mp sorts
    cases inserts
    have parts := (sortEight?_perm firstSorts).append_right (half.drop 8)
    rw [List.take_append_drop] at parts
    exact (insertAll_perm _ _).trans parts
  · -- With fewer elements, the first four are sorted, or none.
    split at sorts
    · cases sorts
      have parts := (sortFour_perm precedes (half.take 4)).append_right (half.drop 4)
      rw [List.take_append_drop] at parts
      exact (insertAll_perm _ _).trans parts
    · cases sorts
      exact stableSort_perm half

/-- Sorting a short list rearranges. -/
theorem sortShort?_perm {elements sorted : List α}
    (sorts : sortShort? precedes elements = some sorted) : sorted ~ elements := by
  -- Both halves are sorted and then merged.
  obtain ⟨left, leftSorts, rest⟩ := Option.bind_eq_some_iff.mp sorts
  obtain ⟨right, rightSorts, meets⟩ := Option.bind_eq_some_iff.mp rest
  have halves := (sortHalf?_perm leftSorts).append (sortHalf?_perm rightSorts)
  rw [List.take_append_drop] at halves
  exact (mergeBothEnds?_perm meets).trans halves

end ShortLists

section Runs

/-- A run is made of the elements that a list begins with, of which there is at least one. -/
structure Run.Opens (run : Run α) (elements : List α) : Prop where
  nonempty : 0 < run.elements.length
  perm : run.elements ~ elements.take run.elements.length

/-- A chain is no longer than the list, and has an element if the list has one. -/
theorem chainLength_bounds (related : α → α → Bool) (first : α) (rest : List α) :
    0 < chainLength related (first :: rest) ∧
      chainLength related (first :: rest) ≤ (first :: rest).length := by
  -- Each element that goes on with the chain makes it longer by one.
  induction rest generalizing first with
  | nil => simp [chainLength]
  | cons second rest ih =>
    rw [chainLength]
    split
    · have longer := ih second
      simp only [List.length_cons] at longer ⊢
      omega
    · simp

/-- A natural run is made of the elements that the list begins with. -/
theorem naturalRun_opens (first : α) (rest : List α) :
    Run.Opens ⟨naturalRun precedes (first :: rest), true⟩ (first :: rest) := by
  -- A chain of one element is the list itself if it has no other.
  cases rest with
  | nil => exact ⟨Nat.one_pos, List.Perm.refl _⟩
  | cons second rest =>
    -- Whatever the chain is, it has as many elements as are taken.
    have taken (related : α → α → Bool) :
        ((first :: second :: rest).take
          (chainLength related (first :: second :: rest))).length =
        chainLength related (first :: second :: rest) :=
      List.length_take_of_le (chainLength_bounds related first (second :: rest)).2
    -- The first element is always in the chain.
    have positive (related : α → α → Bool) :
        0 < chainLength related (first :: second :: rest) :=
      (chainLength_bounds related first (second :: rest)).1
    simp only [naturalRun]
    split
    · -- A falling chain is turned round.
      refine ⟨?_, ?_⟩
      · rw [List.length_reverse, taken]
        exact positive _
      · rw [List.length_reverse, taken]
        exact List.reverse_perm _
    · refine ⟨?_, ?_⟩
      · rw [taken]
        exact positive _
      · rw [taken]

/-- The runs that a list is cut into hold its elements, if those that are made open what is left
of it. -/
theorem cutRuns?_perm {least : Nat} {make : List α → Option (Run α)}
    (made : ∀ first rest run, make (first :: rest) = some run → run.Opens (first :: rest))
    {elements : List α} {runs : List (Run α)}
    (cuts : cutRuns? precedes least make elements = some runs) :
    runs.flatMap Run.elements ~ elements := by
  -- Each run takes away at least one element, so the list gets shorter.
  induction length : elements.length using Nat.strongRecOn generalizing elements runs with
  | ind size ih =>
    cases elements with
    | nil =>
      rw [cutRuns?] at cuts
      cases cuts
      exact List.Perm.refl _
    | cons first rest =>
      rw [cutRuns?] at cuts
      -- A natural run is worth keeping, or a run is made from what is left.
      have step : ∃ run : Run α, run.Opens (first :: rest) ∧ ∃ others,
          cutRuns? precedes least make (rest.drop (run.elements.length - 1)) = some others ∧
            run :: others = runs := by
        split at cuts
        · obtain ⟨run, natural, later⟩ := Option.bind_eq_some_iff.mp cuts
          cases natural
          obtain ⟨others, remaining, same⟩ := Option.bind_eq_some_iff.mp later
          exact ⟨_, naturalRun_opens first rest, others, remaining, Option.some.inj same⟩
        · obtain ⟨run, opened, later⟩ := Option.bind_eq_some_iff.mp cuts
          obtain ⟨others, remaining, same⟩ := Option.bind_eq_some_iff.mp later
          exact ⟨run, made first rest run opened, others, remaining, Option.some.inj same⟩
      obtain ⟨run, opens, others, remaining, rfl⟩ := step
      -- A run has an element, so what is left is shorter and is cut in turn.
      have shorter : (rest.drop (run.elements.length - 1)).length < size := by
        simp only [List.length_cons] at length
        simp only [List.length_drop]
        omega
      have follow := ih _ shorter remaining rfl
      -- The first element is taken in any case, and as many more as the run is longer.
      have dropped : rest.drop (run.elements.length - 1) =
          (first :: rest).drop run.elements.length := by
        obtain ⟨before, taken⟩ := Nat.exists_eq_add_of_lt opens.nonempty
        simp [taken]
      rw [dropped] at follow
      have whole := opens.perm.append follow
      rwa [List.take_append_drop] at whole

/-- A way of sorting rearranges what it sorts. -/
def Rearranges (sort : List α → Option (List α)) : Prop :=
  ∀ elements sorted, sort elements = some sorted → sorted ~ elements

variable {sort : List α → Option (List α)}

/-- Putting a run in order rearranges it. -/
theorem Run.sorted?_perm (rearranges : Rearranges sort) {run : Run α} {sorted : List α}
    (sorts : run.sorted? sort = some sorted) : sorted ~ run.elements := by
  -- A run that is in order already is kept as it is.
  unfold sorted? at sorts
  split at sorts
  · cases sorts
    exact List.Perm.refl _
  · exact rearranges _ _ sorts

/-- Joining two runs rearranges both together. -/
theorem Run.join?_perm (rearranges : Rearranges sort) {left right whole : Run α}
    (joins : left.join? precedes sort right = some whole) :
    whole.elements ~ left.elements ++ right.elements := by
  -- Runs are joined by merging, or side by side to be sorted later.
  unfold join? at joins
  split at joins
  · obtain ⟨leftSorted, leftSorts, later⟩ := Option.bind_eq_some_iff.mp joins
    obtain ⟨rightSorted, rightSorts, same⟩ := Option.bind_eq_some_iff.mp later
    cases same
    have both := (sorted?_perm rearranges leftSorts).append (sorted?_perm rearranges rightSorts)
    exact (merge_perm _ _).trans both
  · -- Side by side, the elements stand as they did.
    cases joins
    exact List.Perm.refl _

/-- The elements of runs that wait to be joined. -/
def waitingElements (waiting : List (Run α × Nat)) : List α :=
  waiting.flatMap fun entry => entry.1.elements

/-- A way of joining runs rearranges what is in both. -/
def Joins (join : Run α → Run α → Option (Run α)) : Prop :=
  ∀ left right whole, join left right = some whole →
    whole.elements ~ left.elements ++ right.elements

variable {join : Run α → Run α → Option (Run α)}

/-- The last run that waits may be joined with what comes after it before all else is. -/
theorem Joins.waitingElements_perm (joins : Joins join) {entry : Run α × Nat} {run both : Run α}
    (joined : join entry.1 run = some both) (waiting : List (Run α × Nat)) :
    waitingElements waiting ++ both.elements ~
      waitingElements (entry :: waiting) ++ run.elements :=
  -- The joined run stands for its parts, and these are moved past the others that wait.
  calc waitingElements waiting ++ both.elements
      ~ waitingElements waiting ++ (entry.1.elements ++ run.elements) :=
        (joins _ _ _ joined).append_left _
    _ ~ entry.1.elements ++ waitingElements waiting ++ run.elements := by
        rw [← List.append_assoc]
        exact List.perm_append_comm.append_right _
    _ = waitingElements (entry :: waiting) ++ run.elements := rfl

/-- Joining a run with some of those waiting before it rearranges all of them together. -/
theorem joinWaiting?_perm (joins : Joins join) {height : Nat} {waiting left : List (Run α × Nat)}
    {run joined : Run α} (reached : joinWaiting? join height waiting run = some (left, joined)) :
    waitingElements left ++ joined.elements ~ waitingElements waiting ++ run.elements := by
  -- The induction is on the waiting runs, the last one first.
  induction waiting generalizing run with
  | nil =>
    rw [joinWaiting?] at reached
    cases reached
    exact List.Perm.refl _
  | cons entry waiting ih =>
    rcases entry with ⟨before, boundary⟩
    rw [joinWaiting?] at reached
    split at reached
    · -- The run takes in the one before it, and goes on as both.
      obtain ⟨both, joined_both, later⟩ := Option.bind_eq_some_iff.mp reached
      exact (ih later).trans (joins.waitingElements_perm joined_both waiting)
    · -- Runs that wait on a lower level are left as they are.
      cases reached
      exact List.Perm.refl _

/-- Joining all waiting runs with the last one rearranges all of them together. -/
theorem foldlM_join_perm (joins : Joins join) {waiting : List (Run α × Nat)} {run whole : Run α}
    (reached : waiting.foldlM (fun joined entry => join entry.1 joined) run = some whole) :
    whole.elements ~ waitingElements waiting ++ run.elements := by
  -- The waiting runs are joined one after the other, the last one first.
  induction waiting generalizing run with
  | nil =>
    cases reached
    exact List.Perm.refl _
  | cons entry waiting ih =>
    obtain ⟨both, joined_both, later⟩ := Option.bind_eq_some_iff.mp reached
    exact (ih later).trans (joins.waitingElements_perm joined_both waiting)

/-- Joining all runs rearranges all of them together. -/
theorem joinAll?_perm (joins : Joins join) {size start : Nat} {waiting : List (Run α × Nat)}
    {run whole : Run α} {runs : List (Run α)}
    (reached : joinAll? join size start waiting run runs = some whole) :
    whole.elements ~ waitingElements waiting ++ run.elements ++ runs.flatMap Run.elements := by
  -- The induction is on the runs to come, with those waiting and the current one general.
  induction runs generalizing start waiting run with
  | nil =>
    -- When no runs are to come, all that wait are joined.
    rw [joinAll?] at reached
    rw [List.flatMap_nil, List.append_nil]
    exact foldlM_join_perm joins reached
  | cons next rest ih =>
    rw [joinAll?] at reached
    obtain ⟨⟨left, joined⟩, joined_some, later⟩ := Option.bind_eq_some_iff.mp reached
    have grown := joinWaiting?_perm joins joined_some
    -- What is joined so far waits in front of the next run.
    have waits : waitingElements ((joined, boundaryHeight size start (start + run.elements.length)
        (start + run.elements.length + next.elements.length)) :: left) ~
        waitingElements left ++ joined.elements := List.perm_append_comm
    calc whole.elements
        ~ waitingElements ((joined, _) :: left) ++ next.elements ++ rest.flatMap Run.elements :=
          ih later
      _ ~ waitingElements left ++ joined.elements ++ next.elements ++ rest.flatMap Run.elements :=
          (waits.append_right _).append_right _
      _ ~ waitingElements waiting ++ run.elements ++ next.elements ++ rest.flatMap Run.elements :=
          (grown.append_right _).append_right _
      _ = waitingElements waiting ++ run.elements ++ (next :: rest).flatMap Run.elements := by
          rw [List.flatMap_cons, List.append_assoc]

/-- Sorting runs rearranges all of them together. -/
theorem sortRuns?_perm (rearranges : Rearranges sort) {size : Nat} {runs : List (Run α)}
    {sorted : List α} (sorts : sortRuns? precedes sort size runs = some sorted) :
    sorted ~ runs.flatMap Run.elements := by
  -- The first run is the current one, and the others are to come.
  cases runs with
  | nil =>
    cases sorts
    exact List.Perm.refl _
  | cons first rest =>
    obtain ⟨whole, joined, last⟩ := Option.bind_eq_some_iff.mp sorts
    have joins : Joins (Run.join? precedes sort) := fun _ _ _ => Run.join?_perm rearranges
    have all := joinAll?_perm joins joined
    exact (Run.sorted?_perm rearranges last).trans all

/-- Sorting by runs rearranges. -/
theorem mergeSort?_rearranges : Rearranges (mergeSort? precedes) := by
  -- The list is cut into runs, and these are joined.
  intro elements sorted sorts
  obtain ⟨runs, cuts, joined⟩ := Option.bind_eq_some_iff.mp sorts
  -- Runs that are sorted when they are made are not sorted again.
  have unchanged : Rearranges (some : List α → Option (List α)) := by
    intro elements sorted same
    cases same
    exact List.Perm.refl _
  refine (sortRuns?_perm unchanged joined).trans (cutRuns?_perm ?_ cuts)
  -- A run that is made is a short list sorted by itself.
  intro first rest run made
  obtain ⟨short, shortSorts, same⟩ := Option.bind_eq_some_iff.mp made
  cases same
  have perm := sortShort?_perm shortSorts
  have length : short.length = ((first :: rest).take shortLength).length := perm.length_eq
  refine ⟨?_, ?_⟩
  · simp only [length, List.length_take, List.length_cons, shortLength]
    omega
  · simp only [length]
    rwa [List.length_take, ← List.take_eq_take_min]

end Runs

section Partition

/-- The two sides of a partition are the whole list. -/
theorem partition_fst_perm (test : α × Nat → Bool) (elements : List α) :
    (elements.zipIdx.partition test).1.map Prod.fst ++
      (elements.zipIdx.partition test).2.map Prod.fst ~ elements := by
  -- What passes the test and what fails it are all there is.
  rw [List.partition_eq_filter_filter, ← List.map_append]
  have sides := (List.filter_append_perm test elements.zipIdx).map Prod.fst
  rw [List.zipIdx_map_fst] at sides
  exact sides

/-- Sorting by partition rearranges. -/
theorem partitionSort?_rearranges (rounds : Nat) (floor : Option α) :
    Rearranges (partitionSort? precedes rounds floor) := by
  -- The induction is on the rounds that are left, with the floor general.
  induction rounds generalizing floor with
  -- Without rounds left, the elements are merged instead.
  | zero =>
    intro elements sorted sorts
    rw [partitionSort?] at sorts
    split at sorts
    · exact sortShort?_perm sorts
    · exact mergeSort?_rearranges _ _ sorts
  | succ rounds ih =>
    intro elements sorted sorts
    cases elements with
    | nil => exact sortShort?_perm sorts
    | cons head rest =>
      -- A short list is sorted at once, and a longer one is parted around a pivot.
      rw [partitionSort?] at sorts
      split at sorts
      · exact sortShort?_perm sorts
      · simp only at sorts
        split at sorts
        · -- What is level with the pivot is set apart, and only the rest is sorted further.
          obtain ⟨above, aboveSorts, same⟩ := Option.bind_eq_some_iff.mp sorts
          cases same
          refine ((ih _ _ _ aboveSorts).append_left _).trans ?_
          exact partition_fst_perm _ _
        · -- Otherwise both sides are sorted further.
          obtain ⟨upper, upperSorts, later⟩ := Option.bind_eq_some_iff.mp sorts
          obtain ⟨lower, lowerSorts, same⟩ := Option.bind_eq_some_iff.mp later
          cases same
          refine ((ih _ _ _ lowerSorts).append (ih _ _ _ upperSorts)).trans ?_
          exact partition_fst_perm _ _

end Partition

/-- The least length of a natural run worth keeping is positive in a list too long for a short
sort. -/
theorem worthwhileLength_pos {size : Nat} (long : 2 * shortLength < size) :
    0 < worthwhileLength size := by
  -- The length is a constant or grows with the root of the size.
  unfold worthwhileLength
  split
  · simp only [shortLength] at long
    omega
  · unfold approximateRoot
    -- The power of two that the root starts from is at least two.
    have shifted : 1 ≤ (1 + Nat.log2 size) / 2 := by
      have bits : 1 ≤ Nat.log2 size := (Nat.le_log2 (by omega)).mpr (by omega)
      omega
    have power : 2 ^ 1 ≤ 2 ^ ((1 + Nat.log2 size) / 2) := Nat.pow_le_pow_right (by omega) shifted
    simp only [Nat.one_shiftLeft]
    exact Nat.div_pos (Nat.le_trans power (Nat.le_add_right _ _)) (by omega)

/-- Sorting in runs, which are joined in order or left to a partition, rearranges. -/
theorem adaptiveSort?_rearranges : Rearranges (adaptiveSort? precedes) := by
  -- Shorter lists are merged, and longer ones are cut into runs that may stay unsorted.
  intro elements sorted sorts
  unfold adaptiveSort? at sorts
  split at sorts
  · exact mergeSort?_rearranges _ _ sorts
  · rename_i long
    obtain ⟨runs, cuts, joined⟩ := Option.bind_eq_some_iff.mp sorts
    -- A part that is not sorted yet is partitioned, in as many rounds as its length allows.
    have partition : Rearranges fun part : List α =>
        partitionSort? precedes (partitionRounds part.length) none part :=
      fun part _ => partitionSort?_rearranges _ _ part _
    refine (sortRuns?_perm partition joined).trans (cutRuns?_perm ?_ cuts)
    -- A run that is made is what comes next, unsorted.
    intro first rest run made
    cases made
    have positive := worthwhileLength_pos (Nat.lt_of_not_le long)
    refine ⟨?_, ?_⟩
    · simp only [List.length_take, List.length_cons]
      omega
    · rw [List.length_take, ← List.take_eq_take_min]

/-- Sorting rearranges, under any order and in any of its ways. -/
theorem sort?_rearranges : Rearranges (sort? precedes) := by
  -- Few elements, and orders without contradictions, are left to insertion.
  intro elements sorted sorts
  unfold sort? at sorts
  split at sorts
  · cases sorts
    exact stableSort_perm elements
  · exact adaptiveSort?_rearranges _ _ sorts

end Sorting

end Criteria

import Criteria.Number.Layout
import Criteria.Proofs.Text.Numeral

/-! No float is written like an integer: behind its first character something is no digit. -/

namespace Criteria.NumberLayout

open Numeral (HasMark hasMark_of_ne_nil)

/-- Digits with a point have the point for a mark. -/
theorem hasMark_positional {run : List Char} (nonempty : run ≠ []) (places : Int) :
    HasMark (positional run places) := by
  -- The point stands in front of all digits, behind them or between them.
  unfold positional
  split
  · exact ⟨'.', List.mem_cons_self, rfl⟩
  · split
    · -- The point stands behind the digits and the zeros after them.
      exact hasMark_of_ne_nil (List.append_ne_nil_of_left_ne_nil nonempty _) rfl _
    · -- At least one digit stands before the point.
      refine hasMark_of_ne_nil ?_ rfl _
      rw [Ne, List.take_eq_nil_iff, not_or]
      exact ⟨by omega, nonempty⟩

/-- Digits with an exponent have its letter for a mark. -/
theorem hasMark_scientific (layout : NumberLayout) {run : List Char} (nonempty : run ≠ [])
    (order : Int) : HasMark (layout.scientific run order) := by
  -- The exponent is the mark, as long as a digit stands before it.
  have mantissa (digits : List Char) (some : digits ≠ []) (rest : List Char) :
      HasMark (digits ++ 'e' :: rest) := hasMark_of_ne_nil some rfl rest
  unfold scientific
  simp only [List.append_assoc, List.cons_append]
  -- The mantissa has a digit whether or not it goes on behind a point.
  refine mantissa _ ?_ _
  split
  · exact absurd rfl nonempty
  · exact List.cons_ne_nil _ _
  · exact List.cons_ne_nil _ _

/-- A finite magnitude has a mark. -/
theorem hasMark_magnitude (layout : NumberLayout) (rank : Nat) :
    HasMark (layout.magnitude rank) := by
  -- Zero is written with a point, and other magnitudes in one of the two forms.
  unfold magnitude
  split
  · exact ⟨'.', List.mem_cons_self, rfl⟩
  · -- Its digits are a numeral, which is not empty.
    have nonempty (coefficient : Nat) : Numeral.digits coefficient ≠ [] := Nat.toDigits_ne_nil
    simp only
    split
    · exact hasMark_positional (nonempty _) _
    · exact hasMark_scientific layout (nonempty _) _

/-- Any double has a mark, the special ones being words. -/
theorem hasMark_write (layout : NumberLayout) (number : Double) : HasMark (layout.write number) := by
  -- The sign is no mark, but what comes behind it has one.
  cases number with
  | nan => exact ⟨'a', List.mem_cons_self, rfl⟩
  | signed negative rank =>
    simp only [write]
    split
    · exact (hasMark_magnitude layout rank.val).append _
    · exact HasMark.append ⟨'n', List.mem_cons_self, rfl⟩ _

end Criteria.NumberLayout

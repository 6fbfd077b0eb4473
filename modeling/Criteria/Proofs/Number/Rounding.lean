import Criteria.Number.Double
import Mathlib.Order.Basic

/-! Rounding integers to a floating format may make two of them one, but never turns them round. -/

namespace Criteria

namespace Precision

/-- A greater numerator never rounds to a lesser whole number. -/
theorem roundHalfEven_mono {lesser greater denominator : Nat} (ascends : lesser ≤ greater) :
    roundHalfEven lesser denominator ≤ roundHalfEven greater denominator := by
  -- A quotient is rounded by its remainder.
  have quotients : lesser / denominator ≤ greater / denominator := Nat.div_le_div_right ascends
  have lesserParts := Nat.div_add_mod lesser denominator
  have greaterParts := Nat.div_add_mod greater denominator
  unfold roundHalfEven
  dsimp only
  -- Rounding adds one at most, so only numbers with one quotient need their remainders compared.
  rcases Nat.lt_or_eq_of_le quotients with apart | same
  · split_ifs <;> omega
  · rw [same] at lesserParts ⊢
    split_ifs <;> omega

/-- A multiple of the denominator rounds to the number of times that it holds it. -/
theorem roundHalfEven_mul {denominator : Nat} (positive : 0 < denominator) (times : Nat) :
    roundHalfEven (times * denominator) denominator = times := by
  -- Nothing remains of a multiple, so nothing is rounded.
  simp [roundHalfEven, Nat.mul_div_cancel times positive, positive]

variable (format : Precision) {whole : Nat}

/-- The power of two that a whole number is rounded to multiples of. -/
def grid (whole : Nat) : Int :=
  max format.finest (whole.log2 - (format.bits - 1 : Nat))

/-- How many times its power of two a whole number is once it is rounded. -/
def steps (whole : Nat) : Nat :=
  roundHalfEven (whole * Nat.pow 2 (-format.grid whole).toNat)
    (Nat.pow 2 (format.grid whole).toNat)

/-- The order of a whole number is the place of its highest bit. -/
theorem binaryOrder_one (positive : whole ≠ 0) : binaryOrder whole 1 = whole.log2 := by
  -- The number is no less than the power of two of its highest bit.
  have highest : 2 ^ whole.log2 ≤ whole := Nat.log2_self_le positive
  have one : Nat.log2 1 = 0 := by decide
  unfold binaryOrder
  simp [one, highest]

/-- A whole number is ranked by its power of two first, and then by its steps. -/
theorem nearest_one (positive : whole ≠ 0) :
    format.nearest whole 1 = min format.infinite
      ((format.grid whole - format.finest).toNat * format.binade + format.steps whole) := by
  -- Over one, the order of the quotient is the highest bit.
  rw [nearest, if_neg positive]
  simp only [binaryOrder_one positive, Nat.one_mul]
  rfl

/-- Steps never fill more than two binades. -/
theorem steps_le (whole : Nat) : format.steps whole ≤ 2 * format.binade := by
  have positive : 0 < 2 ^ (format.grid whole).toNat := Nat.two_pow_pos _
  -- The number has no bit above its highest one, which the grid leaves no more than the bits for.
  have highest : whole * 2 ^ (-format.grid whole).toNat ≤
      2 * format.binade * 2 ^ (format.grid whole).toNat := by
    have fits : whole.log2 + 1 + (-format.grid whole).toNat ≤
        format.bits - 1 + 1 + (format.grid whole).toNat := by
      unfold grid
      omega
    calc whole * 2 ^ (-format.grid whole).toNat
        ≤ 2 ^ (whole.log2 + 1) * 2 ^ (-format.grid whole).toNat :=
          Nat.mul_le_mul_right _ (Nat.le_of_lt Nat.lt_log2_self)
      _ = 2 ^ (whole.log2 + 1 + (-format.grid whole).toNat) := (Nat.pow_add _ _ _).symm
      _ ≤ 2 ^ (format.bits - 1 + 1 + (format.grid whole).toNat) :=
          Nat.pow_le_pow_right Nat.two_pos fits
      _ = 2 * format.binade * 2 ^ (format.grid whole).toNat := by
          rw [Nat.pow_add, Nat.pow_succ', binade, Nat.pow_eq]
  -- The bound is a whole number of steps, which rounding keeps.
  calc format.steps whole
      ≤ roundHalfEven (2 * format.binade * 2 ^ (format.grid whole).toNat)
          (2 ^ (format.grid whole).toNat) := roundHalfEven_mono highest
    _ = 2 * format.binade := roundHalfEven_mul positive _

/-- Above the finest grid, steps fill one binade at least. -/
theorem le_steps (positive : whole ≠ 0) (above : format.finest < format.grid whole) :
    format.binade ≤ format.steps whole := by
  have stepped : 0 < 2 ^ (format.grid whole).toNat := Nat.two_pow_pos _
  -- The highest bit is as far above the grid as a significand has further bits.
  have highest : format.binade * 2 ^ (format.grid whole).toNat ≤
      whole * 2 ^ (-format.grid whole).toNat := by
    have fits : format.bits - 1 + (format.grid whole).toNat =
        whole.log2 + (-format.grid whole).toNat := by
      unfold grid at above ⊢
      omega
    calc format.binade * 2 ^ (format.grid whole).toNat
        = 2 ^ (whole.log2 + (-format.grid whole).toNat) := by
          rw [binade, Nat.pow_eq, ← Nat.pow_add, fits]
      _ = 2 ^ whole.log2 * 2 ^ (-format.grid whole).toNat := Nat.pow_add _ _ _
      _ ≤ whole * 2 ^ (-format.grid whole).toNat :=
          Nat.mul_le_mul_right _ (Nat.log2_self_le positive)
  -- The bound is a whole number of steps, which rounding keeps.
  calc format.binade
      = roundHalfEven (format.binade * 2 ^ (format.grid whole).toNat)
          (2 ^ (format.grid whole).toNat) := (roundHalfEven_mul stepped _).symm
    _ ≤ format.steps whole := roundHalfEven_mono highest

/-- A greater whole number never rounds to a lesser magnitude. -/
theorem nearest_one_mono {lesser greater : Nat} (ascends : lesser ≤ greater) :
    format.nearest lesser 1 ≤ format.nearest greater 1 := by
  -- Zero comes first, and of two other numbers the lesser has no coarser grid.
  by_cases none : lesser = 0
  · rw [nearest, if_pos none]
    exact Nat.zero_le _
  have some : greater ≠ 0 := by omega
  rw [nearest_one format none, nearest_one format some]
  refine Nat.le_min.mpr ⟨Nat.min_le_left _ _, Nat.le_trans (Nat.min_le_right _ _) ?_⟩
  -- The grid grows with the highest bit, and so with the number.
  have bits : lesser.log2 ≤ greater.log2 :=
    (Nat.le_log2 some).mpr (Nat.le_trans (Nat.log2_self_le none) ascends)
  have grids : format.grid lesser ≤ format.grid greater := by
    unfold grid
    omega
  have finest : format.finest ≤ format.grid lesser := Int.le_max_left _ _
  rcases Int.lt_or_eq_of_le grids with coarser | same
  · -- The lesser number ends where the next binade starts, and the greater one is beyond that.
    have full := format.steps_le lesser
    have started := format.le_steps some (Int.lt_of_le_of_lt finest coarser)
    have further : (format.grid lesser - format.finest).toNat + 1 ≤
        (format.grid greater - format.finest).toNat := by omega
    have binades := Nat.mul_le_mul_right format.binade further
    rw [Nat.add_mul] at binades
    omega
  · -- On one grid, rounding keeps the order.
    have rounded : format.steps lesser ≤ format.steps greater := by
      unfold steps
      rw [same]
      exact roundHalfEven_mono (Nat.mul_le_mul_right _ ascends)
    rw [same]
    omega

end Precision

namespace Double

/-- The place of the double nearest to an integer. -/
def integerPlace (number : Int) : Int :=
  if number < 0 then -(Precision.double.nearest number.natAbs 1 : Int)
  else Precision.double.nearest number.natAbs 1

/-- The double nearest to an integer has a place, so it is a number. -/
theorem place?_ofInt (number : Int) : (ofInt number).place? = some (integerPlace number) := by
  -- The rank is no greater than that of infinity, so the double is no undefined one.
  have within := Precision.nearest_le Precision.double number.natAbs 1
  unfold ofInt ofRank integerPlace
  by_cases negative : number < 0
  · simp [negative, place?, within]
  · simp [negative, place?, within]

/-- A greater integer is never nearest to a lesser double. -/
theorem integerPlace_mono {lesser greater : Int} (ascends : lesser ≤ greater) :
    integerPlace lesser ≤ integerPlace greater := by
  unfold integerPlace
  -- Magnitudes grow away from zero, on both sides of it.
  split_ifs with below above above
  · -- Of two negative integers, the lesser one has the greater magnitude.
    have magnitudes := Precision.double.nearest_one_mono
      (show greater.natAbs ≤ lesser.natAbs by omega)
    omega
  · omega
  · omega
  · have magnitudes := Precision.double.nearest_one_mono
      (show lesser.natAbs ≤ greater.natAbs by omega)
    omega

end Double

end Criteria

import Mathlib.Data.Int.ModEq
import Mathlib.Tactic.Linarith
import Mathlib.Tactic.Ring

/-! # Whole units with a carried remainder

Amounts arrive one by one, and after each of them the whole units that there are so far are emitted,
rounded towards zero, and the remainder is carried on. What has been emitted is then never a whole
unit away from what has arrived (`Balanced.abs_sub_lt`), however many amounts there have been.
-/

namespace Foundation.CarriedRemainder

variable (unit : ℤ)

/-- One amount: the units that are emitted, and the remainder. -/
def emit (carried amount : ℤ) : ℤ × ℤ :=
  ((carried + amount).tdiv unit, (carried + amount).tmod unit)

/-- What has been emitted and what is carried are what has arrived. -/
structure Balanced (emitted arrived carried : ℤ) : Prop where
  conserved : unit * emitted + carried = arrived
  small : |carried| < unit

variable {unit}

theorem abs_tmod_lt (positive : 0 < unit) (amount : ℤ) : |amount.tmod unit| < unit := by
  have below := Int.tmod_lt_of_pos amount positive
  have above := Int.tmod_lt_of_pos (-amount) positive
  rw [Int.neg_tmod] at above
  exact abs_lt.mpr ⟨by linarith, below⟩

/-- Whole units with a remainder of the sign of the amount are its truncated quotient. -/
theorem emit_eq {carried amount units rest : ℤ} (split : carried + amount = units * unit + rest)
    (small : |rest| < unit) (nonneg : 0 ≤ carried + amount → 0 ≤ rest)
    (nonpos : carried + amount ≤ 0 → rest ≤ 0) : emit unit carried amount = (units, rest) := by
  obtain ⟨above, below⟩ := abs_lt.mp small
  have positive : 0 < unit := by linarith
  unfold emit
  obtain isNonneg | isNonpos := le_total 0 (carried + amount)
  · obtain ⟨quotient, remainder⟩ := (Int.ediv_emod_unique positive).mpr
      (show rest + unit * units = carried + amount ∧ 0 ≤ rest ∧ rest < unit from
        ⟨by rw [split]; ring, nonneg isNonneg, below⟩)
    rw [Int.tdiv_eq_ediv_of_nonneg isNonneg, Int.tmod_eq_emod_of_nonneg isNonneg, quotient,
      remainder]
  · obtain ⟨quotient, remainder⟩ := (Int.ediv_emod_unique positive).mpr
      (show -rest + unit * -units = -(carried + amount) ∧ 0 ≤ -rest ∧ -rest < unit from
        ⟨by rw [split]; ring, by linarith [nonpos isNonpos], by linarith⟩)
    have isNonneg : 0 ≤ -(carried + amount) := by linarith
    rw [← Int.tdiv_eq_ediv_of_nonneg isNonneg, Int.neg_tdiv] at quotient
    rw [← Int.tmod_eq_emod_of_nonneg isNonneg, Int.neg_tmod] at remainder
    rw [neg_inj.mp quotient, neg_inj.mp remainder]

theorem balanced_zero (positive : 0 < unit) : Balanced unit 0 0 0 := by
  exact ⟨by rw [mul_zero, add_zero], by rwa [abs_zero]⟩

/-- An amount that arrives. -/
theorem Balanced.emit {emitted arrived carried : ℤ} (balanced : Balanced unit emitted arrived carried)
    (amount : ℤ) :
    Balanced unit (emitted + (emit unit carried amount).1) (arrived + amount)
      (CarriedRemainder.emit unit carried amount).2 := by
  have positive : 0 < unit := lt_of_le_of_lt (abs_nonneg carried) balanced.small
  refine ⟨?_, abs_tmod_lt positive _⟩
  have split := Int.mul_tdiv_add_tmod (carried + amount) unit
  have before := balanced.conserved
  unfold CarriedRemainder.emit
  linarith

/-- The units that have been emitted differ from what has arrived by less than one. -/
theorem Balanced.abs_sub_lt {emitted arrived carried : ℤ}
    (balanced : Balanced unit emitted arrived carried) : |arrived - unit * emitted| < unit := by
  have carriedOnly : arrived - unit * emitted = carried := by linarith [balanced.conserved]
  rw [carriedOnly]
  exact balanced.small

/-- An amount that leaves no more than so many units emits no more. -/
theorem Balanced.abs_emit_le {emitted arrived carried amount : ℤ} {most : ℕ}
    (balanced : Balanced unit emitted arrived carried) (small : |amount| ≤ unit * most) :
    |(CarriedRemainder.emit unit carried amount).1| ≤ most := by
  have positive : 0 < unit := lt_of_le_of_lt (abs_nonneg carried) balanced.small
  have sum : |carried + amount| < unit * (most + 1) := by
    have := abs_add_le carried amount
    have := balanced.small
    linarith
  have counted : (carried + amount).natAbs < unit.natAbs * (most + 1) := by
    have isUnit : (unit.natAbs : ℤ) = unit := Int.natAbs_of_nonneg positive.le
    rw [← Int.natCast_natAbs] at sum
    rw [← Int.ofNat_lt, Nat.cast_mul, isUnit]
    exact_mod_cast sum
  rw [← Int.natCast_natAbs, CarriedRemainder.emit, Int.natAbs_tdiv]
  exact_mod_cast Nat.le_of_lt_succ (Nat.div_lt_of_lt_mul counted)

end Foundation.CarriedRemainder

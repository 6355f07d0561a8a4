import Karabiner.Foundation.CarriedRemainder
import Mathlib.Tactic.Ring

/-! # The count converter of mouse keys

`mouse_key_handler::count_converter` turns the amounts of an axis into counts of the pointing
device. Its loops emit the whole units that there are (`CountConverter.update_eq`), at most 127 of
them in one report.
-/

namespace Karabiner

/-- `count_converter`. -/
structure CountConverter where
  threshold : Int
  count : Int
  threshold_pos : 0 < threshold

namespace CountConverter

open Foundation.CarriedRemainder

def ofThreshold (threshold : Int) (positive : 0 < threshold) : CountConverter :=
  ⟨threshold, 0, positive⟩

/-- The loop while the count is at most minus the threshold. -/
def unwindNegative (converter : CountConverter) (result : Int) : Int × CountConverter :=
  if converter.count ≤ -converter.threshold then
    { converter with count := converter.count + converter.threshold }.unwindNegative
      (if result > -127 then result - 1 else result)
  else (result, converter)
termination_by (-converter.count).toNat
decreasing_by
  have := converter.threshold_pos
  omega

/-- The loop while the count is at least the threshold. -/
def unwindPositive (converter : CountConverter) (result : Int) : Int × CountConverter :=
  if converter.count ≥ converter.threshold then
    { converter with count := converter.count - converter.threshold }.unwindPositive
      (if result < 127 then result + 1 else result)
  else (result, converter)
termination_by converter.count.toNat
decreasing_by
  have := converter.threshold_pos
  omega

/-- `update`. The result is in the range of a signed byte, of which the report has the bits. -/
def update (converter : CountConverter) (value : Int) : Int × CountConverter :=
  let (result, unwound) :=
    { converter with count := converter.count + value }.unwindNegative 0
  unwound.unwindPositive result

/-- `reset`. -/
def reset (converter : CountConverter) : CountConverter := { converter with count := 0 }

/-- What a report can say. -/
def clamp (units : Int) : Int := min (max units (-127)) 127

/-- The first loop emits units until less than one is left. -/
theorem exists_unwindNegative (converter : CountConverter) (result : Int)
    (negative : converter.count ≤ 0) (low : -127 ≤ result) :
    ∃ units : Int, 0 ≤ units ∧
      converter.unwindNegative result = (max (result - units) (-127),
        { converter with count := converter.count + units * converter.threshold }) ∧
      -converter.threshold < converter.count + units * converter.threshold ∧
      converter.count + units * converter.threshold ≤ 0 := by
  have positive := converter.threshold_pos
  by_cases enough : converter.count ≤ -converter.threshold
  · obtain ⟨units, nonneg, unwound, above, below⟩ := exists_unwindNegative
      { converter with count := converter.count + converter.threshold }
      (if result > -127 then result - 1 else result) (by dsimp only; omega) (by split <;> omega)
    have next : converter.count + converter.threshold + units * converter.threshold =
        converter.count + (units + 1) * converter.threshold := by ring
    dsimp only at unwound above below
    rw [next] at unwound above below
    refine ⟨units + 1, by omega, ?_, above, below⟩
    rw [unwindNegative, if_pos enough, unwound]
    congr 1
    split <;> omega
  · refine ⟨0, le_rfl, ?_, by omega, by omega⟩
    rw [unwindNegative, if_neg enough, zero_mul, add_zero, sub_zero, max_eq_left low]
termination_by (-converter.count).toNat

/-- The second loop does the same for a positive count. -/
theorem exists_unwindPositive (converter : CountConverter) (result : Int)
    (positive : 0 ≤ converter.count) (high : result ≤ 127) :
    ∃ units : Int, 0 ≤ units ∧
      converter.unwindPositive result = (min (result + units) 127,
        { converter with count := converter.count - units * converter.threshold }) ∧
      0 ≤ converter.count - units * converter.threshold ∧
      converter.count - units * converter.threshold < converter.threshold := by
  have unit := converter.threshold_pos
  by_cases enough : converter.count ≥ converter.threshold
  · obtain ⟨units, nonneg, unwound, above, below⟩ := exists_unwindPositive
      { converter with count := converter.count - converter.threshold }
      (if result < 127 then result + 1 else result) (by dsimp only; omega) (by split <;> omega)
    have next : converter.count - converter.threshold - units * converter.threshold =
        converter.count - (units + 1) * converter.threshold := by ring
    dsimp only at unwound above below
    rw [next] at unwound above below
    refine ⟨units + 1, by omega, ?_, above, below⟩
    rw [unwindPositive, if_pos enough, unwound]
    congr 1
    split <;> omega
  · refine ⟨0, le_rfl, ?_, by omega, by omega⟩
    rw [unwindPositive, if_neg enough, zero_mul, sub_zero, add_zero, min_eq_left high]
termination_by converter.count.toNat

/-- The loops emit what there is in whole units, as far as a report can say it. -/
theorem update_eq (converter : CountConverter) (value : Int) :
    converter.update value =
      (clamp (emit converter.threshold converter.count value).1,
        { converter with count := (emit converter.threshold converter.count value).2 }) := by
  have unit := converter.threshold_pos
  obtain negative | positive := le_total (converter.count + value) 0
  · obtain ⟨units, nonneg, unwound, above, below⟩ :=
      exists_unwindNegative { converter with count := converter.count + value } 0 negative
        (by omega)
    dsimp only at unwound above below
    have emitted : emit converter.threshold converter.count value =
        (-units, converter.count + value + units * converter.threshold) := by
      refine emit_eq (by ring) (abs_lt.mpr ⟨above, by omega⟩) (fun isNonneg => ?_) fun _ => below
      have zero : converter.count + value = 0 := le_antisymm negative isNonneg
      have none := mul_nonneg nonneg unit.le
      omega
    rw [update, unwound, emitted]
    dsimp only
    rw [unwindPositive, if_neg (by dsimp only; omega)]
    congr 1
    unfold clamp
    omega
  · obtain ⟨units, nonneg, unwound, above, below⟩ :=
      exists_unwindPositive { converter with count := converter.count + value } 0 positive
        (by omega)
    dsimp only at unwound above below
    have emitted : emit converter.threshold converter.count value =
        (units, converter.count + value - units * converter.threshold) := by
      refine emit_eq (by ring) (abs_lt.mpr ⟨by omega, below⟩) (fun _ => above) fun isNonpos => ?_
      have none := mul_nonneg nonneg unit.le
      omega
    rw [update, unwindNegative, if_neg (by dsimp only; omega)]
    dsimp only
    rw [unwound, emitted]
    congr 1
    unfold clamp
    omega

end CountConverter

end Karabiner

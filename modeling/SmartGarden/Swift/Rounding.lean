import Mathlib.Data.Rat.Floor
import Mathlib.Tactic.Linarith
import Mathlib.Tactic.Ring
import SmartGarden.Swift.Number

/-!
This module contains the specification of the conversion from `Double` to `Int`, which drops the fraction.
-/

namespace Swift

theorem truncated_of_nonneg {value : Rat} (h : 0 ≤ value) : truncated value = value.floor := by
  unfold truncated
  simp [h]

theorem truncated_intCast (n : Int) : truncated (n : Rat) = n := by
  unfold truncated
  split
  . apply Rat.floor_intCast
  . apply Rat.ceil_intCast

theorem truncated_eq_zero {value : Rat} (hlo : -1 < value) (hhi : value < 1) : truncated value = 0 := by
  unfold truncated
  split
  . next hnonneg =>
    have hle : 0 ≤ value.floor := Rat.le_floor_iff.mpr (by simpa using hnonneg)
    have hlt : value.floor < 1 := Rat.floor_lt_iff.mpr (by simpa using hhi)
    omega
  . next hneg =>
    have hle : value.ceil ≤ 0 := Rat.ceil_le_iff.mpr (by simpa using Rat.le_of_lt (Rat.not_le.mp hneg))
    have hlt : -1 < value.ceil := Rat.lt_ceil_iff.mpr (by simpa using hlo)
    omega

theorem truncated_neg (value : Rat) : truncated (-value) = -truncated value := by
  by_cases hzero : value = 0
  . rw [hzero]
    rfl
  . unfold truncated
    split
    . next hneg =>
      have hlt : ¬ 0 ≤ value := fun h => hzero (le_antisymm (by linarith) h)
      simp [hlt, Rat.ceil_eq_neg_floor_neg]
    . next hpos =>
      have hle : 0 ≤ value := by linarith
      simp [hle, Rat.ceil_eq_neg_floor_neg]

theorem floor_div (value : Rat) (n : Nat) : (value / n).floor = value.floor / n :=
  Int.floor_div_natCast value n

theorem truncated_truncatingRemainder {value : Rat} (h : 0 ≤ value) (n : Nat)
    : truncated (truncatingRemainder value n) = value.floor % n := by
  have hn : (0 : Rat) ≤ n := Nat.cast_nonneg n
  have hquotient : truncated (value / n) = value.floor / n := by
    rw [truncated_of_nonneg (div_nonneg h hn), floor_div]
  have hremainder : truncatingRemainder value n = value + ((-(value.floor / n * n) : Int) : Rat) := by
    unfold truncatingRemainder
    rw [hquotient]
    push_cast
    ring
  have hfloor : (truncatingRemainder value n).floor = value.floor % n := by
    rw [hremainder, Rat.floor_add_intCast, Int.emod_def, Int.mul_comm]
    rfl
  rw [← hfloor]
  apply truncated_of_nonneg
  have hnonneg : 0 ≤ (truncatingRemainder value n).floor := by
    rw [hfloor]
    by_cases hzero : n = 0
    . rw [hzero]
      have hle : 0 ≤ value.floor := Rat.le_floor_iff.mpr (by simpa using h)
      simpa using hle
    . exact Int.emod_nonneg _ (by omega)
  simpa using Rat.le_floor_iff.mp hnonneg

theorem truncatingRemainder_neg (value other : Rat)
    : truncatingRemainder (-value) other = -truncatingRemainder value other := by
  unfold truncatingRemainder
  rw [neg_div, truncated_neg]
  push_cast
  ring

theorem truncatingRemainder_eq_self {value : Rat} {n : Nat} (h : truncated (value / n) = 0)
    : truncatingRemainder value n = value := by
  unfold truncatingRemainder
  rw [h]
  simp

end Swift

import Mathlib.Algebra.Field.Rat
import Mathlib.Data.List.Induction
import Mathlib.Data.List.TakeWhile
import SmartGarden.Swift.Number

/-!
This module contains the specification of the decimal texts: what the texts of a number are read as, how
long they are, and which numbers a short text can be.
-/

namespace Swift

theorem natOfDigits_eq_ofDigitChars (ds : Str)
    : natOfDigits 10 decimalDigit ds = Nat.ofDigitChars 10 ds 0 := by
  unfold natOfDigits Nat.ofDigitChars
  congr 1
  funext acc c
  rw [Nat.mul_comm]
  rfl

theorem decimalNat?_of_isDigit {ds : Str} (hne : ds ≠ []) (hdigits : ∀ c ∈ ds, c.isDigit)
    : decimalNat? ds = some (natOfDigits 10 decimalDigit ds) := by
  unfold decimalNat?
  have hempty : ds.isEmpty = false := by simpa using hne
  have hall : ds.all Char.isDigit = true := by simpa using hdigits
  simp [hempty, hall]

theorem decimalNat?_toDigits (n : Nat) : decimalNat? (Nat.toDigits 10 n) = some n := by
  rw [decimalNat?_of_isDigit Nat.toDigits_ne_nil]
  . rw [natOfDigits_eq_ofDigitChars, Nat.ofDigitChars_ten_toDigits]
  . intro c hc
    exact Nat.isDigit_of_mem_toDigits (by decide) (by decide) hc

theorem decimalNat?_zero_toDigits (n : Nat) : decimalNat? ('0' :: Nat.toDigits 10 n) = some n := by
  rw [decimalNat?_of_isDigit (by simp)]
  . rw [natOfDigits_eq_ofDigitChars, Nat.ofDigitChars_cons]
    simp
  . intro c hc
    cases List.mem_cons.mp hc with
    | inl hzero =>
      rw [hzero]
      decide
    | inr hdigit => exact Nat.isDigit_of_mem_toDigits (by decide) (by decide) hdigit

theorem signedInt?_of_isDigit {ds : Str} (hdigits : ∀ c ∈ ds, c.isDigit)
    : signedInt? ds = (decimalNat? ds).map fun n => (n : Int) := by
  unfold signedInt?
  split
  . next ds =>
    have hminus := hdigits '-' List.mem_cons_self
    contradiction
  . next ds =>
    have hplus := hdigits '+' List.mem_cons_self
    contradiction
  . rfl

theorem isDigit_of_decimalNat? {ds : Str} {n : Nat} (h : decimalNat? ds = some n)
    : ∀ c ∈ ds, c.isDigit := by
  unfold decimalNat? at h
  split at h
  . next hds =>
    rw [Bool.and_eq_true, List.all_eq_true] at hds
    exact hds.2
  . contradiction

theorem signedInt?_of_decimalNat? {ds : Str} {n : Nat} (h : decimalNat? ds = some n)
    : signedInt? ds = some (n : Int) := by
  rw [signedInt?_of_isDigit (isDigit_of_decimalNat? h), h]
  rfl

theorem signedInt?_minus_toDigits (n : Nat)
    : signedInt? ('-' :: Nat.toDigits 10 n) = some (-(n : Int)) := by
  simp [signedInt?, decimalNat?_toDigits]

theorem signedInt?_description (n : Int) : signedInt? (description n) = some n := by
  unfold description
  split
  . next hneg =>
    rw [signedInt?_minus_toDigits]
    congr 1
    omega
  . next hpos =>
    rw [signedInt?_of_decimalNat? (decimalNat?_toDigits _)]
    congr 1
    omega

theorem description_inj {n m : Int} (h : description n = description m) : n = m := by
  have hread := congrArg signedInt? h
  rw [signedInt?_description, signedInt?_description] at hread
  exact Option.some.inj hread

theorem signedInt?_format02d (n : Int) : signedInt? (format02d n) = some (n.bmod (2 ^ 32)) := by
  unfold format02d
  dsimp
  generalize n.bmod 4294967296 = v
  split
  . next hneg =>
    rw [signedInt?_minus_toDigits]
    congr 1
    omega
  . next hpos =>
    split
    . rw [signedInt?_of_decimalNat? (decimalNat?_zero_toDigits _)]
      congr 1
      omega
    . rw [signedInt?_of_decimalNat? (decimalNat?_toDigits _)]
      congr 1
      omega

theorem decimalNat?_format02d {n : Nat} (h : n < 2 ^ 31) : decimalNat? (format02d n) = some n := by
  unfold format02d
  dsimp
  have hbmod : (n : Int).bmod 4294967296 = n := by
    apply Int.bmod_eq_of_le
    . omega
    . omega
  rw [hbmod]
  split
  . omega
  . split
    . apply decimalNat?_zero_toDigits
    . apply decimalNat?_toDigits

theorem format02d_inj {n m : Int} : format02d n = format02d m ↔ n.bmod (2 ^ 32) = m.bmod (2 ^ 32) := by
  constructor
  . intro h
    have hread := congrArg signedInt? h
    rw [signedInt?_format02d, signedInt?_format02d] at hread
    exact Option.some.inj hread
  . intro h
    unfold format02d
    rw [h]

theorem le_length_toDigits_iff (n k : Nat) (hk : 0 < k)
    : k + 1 ≤ (Nat.toDigits 10 n).length ↔ 10 ^ k ≤ n := by
  have hle := Nat.length_toDigits_le_iff (b := 10) (n := n) (by decide) hk
  omega

theorem length_format02d (n : Int)
    : 2 ≤ (format02d n).length
        ∧ ((format02d n).length = 2 ↔ -9 ≤ n.bmod (2 ^ 32) ∧ n.bmod (2 ^ 32) ≤ 99) := by
  unfold format02d
  dsimp
  generalize n.bmod 4294967296 = v
  have hone := le_length_toDigits_iff v.natAbs 1 (by decide)
  have htwo := le_length_toDigits_iff v.natAbs 2 (by decide)
  have hpos := Nat.length_toDigits_pos (b := 10) (n := v.natAbs)
  split
  . rw [List.length_cons]
    omega
  . split
    . rw [List.length_cons]
      omega
    . omega

end Swift

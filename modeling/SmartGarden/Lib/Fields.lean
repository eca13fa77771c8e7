import Mathlib.Algebra.GroupWithZero.Nat
import Mathlib.Data.List.SplitLengths

/-!
This module contains records without separators: lists that are made up of fields of fixed widths.
-/

namespace Fields

variable {α : Type u}

/--
The fields have the given widths, and each element of the record lies in exactly one of them.
-/
structure Splits (widths : List Nat) (fields : List (List α)) (record : List α) : Prop where
  widths : fields.map List.length = widths
  flatten : fields.flatten = record

theorem length_of_splits {widths : List Nat} {fields : List (List α)} {record : List α}
    (h : Splits widths fields record) : record.length = widths.sum := by
  rw [← h.flatten, List.length_flatten, h.widths]

theorem splits_splitLengths {widths : List Nat} {record : List α} (h : record.length = widths.sum)
    : Splits widths (widths.splitLengths record) record where
  widths := List.map_splitLengths_length record widths (Nat.le_of_eq h.symm)
  flatten := List.flatten_splitLengths record widths (Nat.le_of_eq h)

theorem exists_splits_iff (widths : List Nat) (record : List α)
    : (∃ fields, Splits widths fields record) ↔ record.length = widths.sum := by
  constructor
  . rintro ⟨fields, h⟩
    exact length_of_splits h
  . intro h
    exact ⟨_, splits_splitLengths h⟩

end Fields

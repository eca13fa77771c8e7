/-!
This module contains lists that are read and edited by positions counted from the end, position `0`
being the last element.
-/

namespace List

variable {α : Type u}

def fromEnd? (l : List α) (i : Nat) : Option α :=
  l.reverse[i]?

theorem fromEnd?_eq_getElem? (l : List α) (i : Nat) (h : i < l.length)
    : l.fromEnd? i = l[l.length - (i + 1)]? := by
  unfold fromEnd?
  rw [List.getElem?_reverse h]
  congr 1
  omega

theorem fromEnd?_replace (l : List α) (i : Nat) (c : α) (h : i < l.length) (j : Nat)
    : (l.take (l.length - (i + 1)) ++ [c] ++ l.drop (l.length - i)).fromEnd? j
        =
      if j = i then some c else l.fromEnd? j := by
  have hset : (l.take (l.length - (i + 1)) ++ [c] ++ l.drop (l.length - i)).reverse
      = l.reverse.set i c := by
    rw [List.set_eq_take_append_cons_drop]
    simp only [List.length_reverse, h, ↓reduceIte, List.reverse_append, List.reverse_drop,
      List.reverse_take, List.reverse_singleton]
    have hlo : l.length - (l.length - i) = i := by omega
    have hhi : l.length - (l.length - (i + 1)) = i + 1 := by omega
    rw [hlo, hhi]
    simp
  unfold fromEnd?
  rw [hset, List.getElem?_set]
  by_cases hj : j = i
  . simp [hj, h]
  . have hij : i ≠ j := fun heq => hj heq.symm
    simp [hj, hij]

theorem fromEnd?_cons_drop (l : List α) (k : Nat) (c : α) (h : k ≤ l.length) (j : Nat)
    : (c :: l.drop (l.length - k)).fromEnd? j
        =
      if j < k then l.fromEnd? j else if j = k then some c else none := by
  unfold fromEnd?
  rw [List.reverse_cons, List.reverse_drop]
  have hlen : l.length - (l.length - k) = k := by omega
  rw [hlen, List.getElem?_append]
  have hmin : min k l.length = k := by omega
  simp only [List.length_take, List.length_reverse, hmin]
  split
  . next hlt => rw [List.getElem?_take_of_lt hlt]
  . next hge =>
    by_cases hj : j = k
    . simp [hj]
    . have : j - k ≠ 0 := by omega
      simp [hj, this]

end List

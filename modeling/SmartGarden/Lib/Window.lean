import Mathlib.Data.List.DropRight

/-!
This module contains sliding windows over a stream of keyed elements. A window takes an element only if
its key differs from the key of the last element in it, and it holds a bounded number of elements. It
shows the end of the stream without repetitions, because the last element kept has the key of the last
element seen.
-/

namespace Window

variable {κ : Type u} {β : Type v} [DecidableEq κ]

def lastKey (l : List (κ × β)) : Option κ :=
  l.getLast?.map Prod.fst

/--
The elements whose key differs from the key of the element before them. The key in front of the first
element is `old`.
-/
def changes (old : Option κ) : List (κ × β) → List (κ × β)
  | [] => []
  | x :: xs => if old = some x.1 then changes (some x.1) xs else x :: changes (some x.1) xs

def push (n : Nat) (w : List (κ × β)) (x : κ × β) : List (κ × β) :=
  if lastKey w = some x.1 then w else (w ++ [x]).rtake n

omit [DecidableEq κ] in
@[simp]
theorem lastKey_concat (l : List (κ × β)) (x : κ × β) : lastKey (l ++ [x]) = some x.1 := by
  simp [lastKey]

theorem rtake_of_length_le {l : List α} {n : Nat} (h : l.length ≤ n) : l.rtake n = l := by
  unfold List.rtake
  rw [Nat.sub_eq_zero_of_le h, List.drop_zero]

theorem rtake_rtake_append (l m : List α) (n : Nat) : (l.rtake n ++ m).rtake n = (l ++ m).rtake n := by
  simp only [List.rtake_eq_reverse_take_reverse, List.reverse_append, List.reverse_reverse]
  rw [List.take_append, List.take_append, List.take_take]
  simp

theorem rtake_concat (l : List α) (x : α) {n : Nat} (hn : 0 < n)
    : (l ++ [x]).rtake n = l.rtake (n - 1) ++ [x] := by
  obtain ⟨m, rfl⟩ := Nat.exists_eq_succ_of_ne_zero (Nat.pos_iff_ne_zero.mp hn)
  rw [List.rtake_concat_succ]
  rfl

theorem length_rtake_le (l : List α) (n : Nat) : (l.rtake n).length ≤ n := by
  unfold List.rtake
  rw [List.length_drop]
  omega

theorem length_push_le {n : Nat} {w : List (κ × β)} (h : w.length ≤ n) (x : κ × β)
    : (push n w x).length ≤ n := by
  unfold push
  split
  . exact h
  . apply length_rtake_le

theorem lastKey_push {n : Nat} (hn : 0 < n) (w : List (κ × β)) (x : κ × β)
    : lastKey (push n w x) = some x.1 := by
  unfold push
  split
  . assumption
  . rw [rtake_concat _ _ hn, lastKey_concat]

theorem mem_push {n : Nat} {w : List (κ × β)} {x y : κ × β} (hy : y ∈ push n w x)
    : y ∈ w ∨ (lastKey w ≠ some x.1 ∧ y = x) := by
  unfold push at hy
  split at hy
  . exact Or.inl hy
  . next hne =>
    cases List.mem_append.mp (List.mem_of_mem_drop hy) with
    | inl hold =>
      exact Or.inl hold
    | inr hnew =>
      exact Or.inr ⟨hne, List.mem_singleton.mp hnew⟩

theorem forall_push_iff {n : Nat} (hn : 0 < n) {P : κ → Prop} {w : List (κ × β)}
    (hw : ∀ y ∈ w, P y.1) (x : κ × β) : (∀ y ∈ push n w x, P y.1) ↔ P x.1 := by
  constructor
  . intro hall
    have hlast := lastKey_push hn w x
    unfold lastKey at hlast
    obtain ⟨y, hy, hkey⟩ := Option.map_eq_some_iff.mp hlast
    rw [← hkey]
    exact hall y (List.mem_of_getLast? hy)
  . intro hx y hy
    rcases mem_push hy with hold | ⟨_, rfl⟩
    . exact hw y hold
    . exact hx

/--
After any stream the window holds the last `n` elements of its first contents followed by the changes.
-/
theorem foldl_push {n : Nat} (hn : 0 < n) (w xs : List (κ × β)) (hw : w.length ≤ n)
    : xs.foldl (push n) w = (w ++ changes (lastKey w) xs).rtake n := by
  induction xs generalizing w with
  | nil =>
    rw [List.foldl_nil, changes, List.append_nil, rtake_of_length_le hw]
  | cons x xs ih =>
    rw [List.foldl_cons, ih _ (length_push_le hw x), lastKey_push hn, changes]
    unfold push
    split
    . rfl
    . rw [rtake_rtake_append, List.append_assoc]
      rfl

end Window

import SmartGarden.Lib.FromEnd

/-!
This module contains the part of Swift's `String` that the app uses. A string is the list of its
`Character`s, so `prefix(n)` is `take n`, `dropFirst(n)` is `drop n` and `first` is `head?`. One `Char`
stands for one `Character`, also where this has several scalars. Two `Character`s that an edit puts side by
side can become one, for instance a digit and a combining mark; a `Segmentation` tells which. The default
leaves all of them apart, so it stands for the words without such a mark. Everything that traps in Swift
returns `none`.
-/

namespace Swift

abbrev Str := List Char

/--
The `Character` that two `Character`s become side by side, `none` if they stay apart as two digits do. It is
no digit, as it has the scalars of both.
-/
structure Segmentation where
  join? : Char → Char → Option Char
  join?_digit : ∀ c d : Char, c.isDigit → d.isDigit → join? c d = none
  isDigit_join? : ∀ c d e : Char, join? c d = some e → e.isDigit = false

namespace Segmentation

def apart : Segmentation where
  join? := fun _ _ => none
  join?_digit := fun _ _ _ _ => rfl
  isDigit_join? := by
    intro c d e h
    contradiction

/--
The combining acute accent after a digit. The `Char`s from U+E000 on stand for the digits that carry it.
-/
def acute : Segmentation where
  join? := fun c d =>
    if c.isDigit ∧ d = '\u0301' then some (Char.ofNat (0xE000 + (c.toNat - '0'.toNat) % 10)) else none
  join?_digit := by
    intro c d _ hd
    have hne : d ≠ '\u0301' := by
      intro heq
      rw [heq] at hd
      contradiction
    simp [hne]
  isDigit_join? := by
    intro c d e h
    have hall : ∀ n < 10, (Char.ofNat (0xE000 + n)).isDigit = false := by decide
    split at h
    . rw [← Option.some.inj h]
      exact hall _ (Nat.mod_lt _ (by decide))
    . contradiction

variable (seg : Segmentation)

/--
What the last `Character` of one string and the first of the next one become.
-/
def joined? (s t : Str) : Option Char := do
  let c ← s.getLast?
  let d ← t.head?
  seg.join? c d

def append (s t : Str) : Str :=
  match seg.joined? s t with
  | some c => s.dropLast ++ c :: t.tail
  | none => s ++ t

/--
No `Character` of the word joins a 0 or a 1 that is put in front of it or behind it.
-/
def Separates (word : Str) : Prop :=
  ∀ c ∈ word, ∀ d ∈ ['0', '1'], seg.join? c d = none ∧ seg.join? d c = none

instance (c : Char) : Decidable (∀ d ∈ ['0', '1'], seg.join? c d = none ∧ seg.join? d c = none) :=
  List.decidableBAll _ _

instance (word : Str) : Decidable (seg.Separates word) :=
  List.decidableBAll _ _

variable {seg}

theorem separates_of_isDigit {word : Str} (h : word.all Char.isDigit) : seg.Separates word := by
  intro c hc d hd
  have hleft : c.isDigit := List.all_eq_true.mp h c hc
  have hright : d.isDigit := List.all_eq_true.mp (show ['0', '1'].all Char.isDigit by rfl) d hd
  exact ⟨seg.join?_digit c d hleft hright, seg.join?_digit d c hright hleft⟩

theorem append_of_joined? {s t : Str} (h : seg.joined? s t = none) : seg.append s t = s ++ t := by
  unfold append
  rw [h]

theorem length_append (s t : Str)
    : (seg.append s t).length + (seg.joined? s t).isSome.toNat = s.length + t.length := by
  unfold append
  cases hjoined : seg.joined? s t with
  | none => simp
  | some c =>
    -- Both strings have a character at the seam.
    obtain ⟨a, ha, hjoined⟩ := Option.bind_eq_some_iff.mp hjoined
    obtain ⟨b, hb, _⟩ := Option.bind_eq_some_iff.mp hjoined
    cases s with
    | nil => contradiction
    | cons a' s =>
      cases t with
      | nil => contradiction
      | cons b' t =>
        simp
        omega

/--
The first `Character` stays in front, unless it joins the other string.
-/
theorem head?_append {s t : Str} {c d : Char} (hc : s.head? = some c)
    (hd : (seg.append s t).head? = some d) : d = c ∨ d.isDigit = false := by
  unfold append at hd
  cases hjoined : seg.joined? s t with
  | none =>
    rw [hjoined] at hd
    dsimp only at hd
    rw [List.head?_append, hc] at hd
    exact Or.inl (Option.some.inj hd).symm
  | some e =>
    rw [hjoined] at hd
    obtain ⟨a, _, hjoin⟩ := Option.bind_eq_some_iff.mp hjoined
    obtain ⟨b, _, hjoin⟩ := Option.bind_eq_some_iff.mp hjoin
    cases s with
    | nil => contradiction
    | cons c' s =>
      cases s with
      | nil =>
        right
        rw [← Option.some.inj hd]
        exact seg.isDigit_join? a b e hjoin
      | cons c'' s =>
        left
        rw [← Option.some.inj hd]
        exact Option.some.inj hc

theorem joined?_apart (s t : Str) : apart.joined? s t = none := by
  unfold joined?
  cases s.getLast? <;> cases t.head? <;> rfl

@[simp]
theorem append_apart (s t : Str) : apart.append s t = s ++ t := by
  apply append_of_joined?
  apply joined?_apart

theorem joined?_of_forall {s t : Str} (h : ∀ c ∈ s, ∀ d ∈ t, seg.join? c d = none)
    : seg.joined? s t = none := by
  unfold joined?
  cases hc : s.getLast? with
  | none => rfl
  | some c =>
    cases hd : t.head? with
    | none => rfl
    | some d => exact h c (List.mem_of_getLast? hc) d (List.mem_of_head? hd)

end Segmentation

namespace Str

/--
`s.index(s.endIndex, offsetBy: -k)`, which traps in front of `startIndex`.
-/
def indexFromEnd (s : Str) (k : Nat) : Option Nat :=
  if k ≤ s.length then some (s.length - k) else none

/--
The `Character`s at both ends of `new` can join what is put next to them.
-/
def replaceSubrange (s : Str) (lo hi : Nat) (new : Str) (seg : Segmentation := .apart) : Str :=
  seg.append (s.take lo) (seg.append new (s.drop hi))

@[simp]
theorem indexFromEnd_of_le (s : Str) (k : Nat) (h : k ≤ s.length)
    : s.indexFromEnd k = some (s.length - k) := by
  simp [indexFromEnd, h]

end Str

end Swift

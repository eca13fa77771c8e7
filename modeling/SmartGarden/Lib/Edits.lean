import SmartGarden.Lib.Machine

/-!
This module contains cells that are edited one at a time. The value of a cell is the one its last edit
gave it. A writer that keeps a copy of all cells, edits one cell of the copy and stores the whole copy
keeps every earlier edit exactly when the rest of its copy is up to date. A machine whose actions edit
one cell each shows in every cell its last edit.
-/

namespace Edits

variable {ρ : Type u} {β : Type v} [DecidableEq ρ]

def last? (edits : List (ρ × β)) (r : ρ) : Option β :=
  (edits.reverse.find? fun e => e.1 = r).map Prod.snd

def value (init : ρ → β) (edits : List (ρ × β)) (r : ρ) : β :=
  (last? edits r).getD (init r)

@[simp]
theorem value_nil (init : ρ → β) (r : ρ) : value init [] r = init r := by
  rfl

theorem last?_append (edits edits' : List (ρ × β)) (r : ρ)
    : last? (edits ++ edits') r = (last? edits' r).or (last? edits r) := by
  unfold last?
  rw [List.reverse_append, List.find?_append]
  cases edits'.reverse.find? fun e => e.1 = r <;> rfl

theorem last?_singleton (r : ρ) (b : β) (r' : ρ)
    : last? [(r, b)] r' = if r' = r then some b else none := by
  unfold last?
  rw [List.reverse_singleton, List.find?_singleton]
  by_cases h : r' = r
  . simp [h]
  . have hne : r ≠ r' := fun heq => h heq.symm
    simp [h, hne]

theorem last?_cons (r : ρ) (b : β) (edits : List (ρ × β)) (r' : ρ)
    : last? ((r, b) :: edits) r' = (last? edits r').or (if r' = r then some b else none) := by
  rw [← List.singleton_append, last?_append, last?_singleton]

theorem last?_concat (edits : List (ρ × β)) (r : ρ) (b : β) (r' : ρ)
    : last? (edits ++ [(r, b)]) r' = if r' = r then some b else last? edits r' := by
  rw [last?_append, last?_singleton]
  split <;> rfl

theorem last?_swap {r r' : ρ} (h : r ≠ r') (b b' : β) (before after : List (ρ × β))
    : last? (before ++ (r, b) :: (r', b') :: after) = last? (before ++ (r', b') :: (r, b) :: after) := by
  funext r''
  rw [last?_append, last?_append, last?_cons, last?_cons, last?_cons, last?_cons]
  by_cases hr : r'' = r
  . have hr' : r'' ≠ r' := fun heq => h (hr.symm.trans heq)
    simp [hr, h]
  . simp [hr]

theorem last?_override (r : ρ) (b b' : β) (before between after : List (ρ × β))
    : last? (before ++ (r, b) :: between ++ (r, b') :: after)
        =
      last? (before ++ between ++ (r, b') :: after) := by
  funext r'
  rw [last?_append, last?_append, last?_append (before ++ between), last?_append, last?_cons, last?_cons]
  by_cases hr : r' = r
  . simp [hr]
  . simp [hr]

theorem value_concat (init : ρ → β) (edits : List (ρ × β)) (r : ρ) (b : β) (r' : ρ)
    : value init (edits ++ [(r, b)]) r' = if r' = r then b else value init edits r' := by
  unfold value
  rw [last?_concat]
  split <;> simp

def Reflects (cells init : ρ → β) (edits : List (ρ × β)) : Prop :=
  ∀ r, cells r = value init edits r

theorem reflects_nil (init : ρ → β) : Reflects init init [] := by
  intro r
  rfl

/--
The read-modify-write rule: if `current` shows every edit and the writer stores its copy with cell `r`
set to `b`, then the stored cells show every edit exactly when the copy agrees with `current` elsewhere.
-/
theorem reflects_write_iff {current copy stored init : ρ → β} {edits : List (ρ × β)} {r : ρ} {b : β}
    (hcurrent : Reflects current init edits)
    (hstored : ∀ r', stored r' = if r' = r then b else copy r')
    : Reflects stored init (edits ++ [(r, b)]) ↔ ∀ r', r' ≠ r → copy r' = current r' := by
  constructor
  . intro h r' hne
    have hr := h r'
    rw [hstored, value_concat] at hr
    simp only [hne, ↓reduceIte] at hr
    rw [hr, hcurrent]
  . intro h r'
    rw [hstored, value_concat]
    split
    . rfl
    . next hne => rw [h r' hne, hcurrent]

section

variable {σ : Type w} {γ : Type x} {m : Machine σ (ρ × β)} {P : σ → Prop} {f : β → γ}

/--
If every action of a machine gives one cell of a view its value and keeps the other cells, then a run
leaves in every cell the value of its last edit, or the cell as it was.
-/
theorem view_run (view : σ → ρ → γ) (hinv : ∀ s e, P s → P (m.next s e))
    (hview : ∀ s r b r', P s → view (m.next s (r, b)) r' = if r' = r then f b else view s r')
    {s : σ} (hs : P s) (edits : List (ρ × β)) (r : ρ)
    : view (m.run s edits) r = (last? edits r).elim (view s r) f := by
  induction edits generalizing s with
  | nil => rfl
  | cons e edits ih =>
    obtain ⟨r', b⟩ := e
    rw [Machine.run_cons, ih (hinv s _ hs), hview s _ _ _ hs, last?_cons]
    cases last? edits r with
    | some b' => rfl
    | none => split <;> rfl

end

end Edits

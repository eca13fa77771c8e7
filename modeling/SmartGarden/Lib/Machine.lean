/-!
This module contains machines: a total `next` function together with a guard that says which actions
can be taken. A schedule is a list of actions. The rules below turn a fact about one step into
a fact about every state that a schedule passes through.
-/

structure Machine (σ : Type u) (α : Type v) where
  enabled : σ → α → Prop
  next : σ → α → σ

namespace Machine

variable {σ : Type u} {α : Type v} (m : Machine σ α)

def run (s : σ) (as : List α) : σ :=
  as.foldl m.next s

@[simp]
theorem run_nil (s : σ) : m.run s [] = s := by
  rfl

@[simp]
theorem run_cons (s : σ) (a : α) (as : List α) : m.run s (a :: as) = m.run (m.next s a) as := by
  rfl

@[simp]
theorem run_append (s : σ) (as bs : List α) : m.run s (as ++ bs) = m.run (m.run s as) bs := by
  simp [run]

/--
Every action of the schedule satisfies `C` in the state it is taken in.
-/
def Steps (C : σ → α → Prop) : σ → List α → Prop
  | _, [] => True
  | s, a :: as => C s a ∧ Steps C (m.next s a) as

/--
Every state of the schedule satisfies `P`, the first and the last one included.
-/
def Along (P : σ → Prop) : σ → List α → Prop
  | s, [] => P s
  | s, a :: as => P s ∧ Along P (m.next s a) as

def Valid (s : σ) (as : List α) : Prop :=
  m.Steps m.enabled s as

variable {m} {C : σ → α → Prop} {P Q : σ → Prop}

@[simp]
theorem steps_nil (s : σ) : m.Steps C s [] := by
  trivial

@[simp]
theorem steps_cons (s : σ) (a : α) (as : List α)
    : m.Steps C s (a :: as) ↔ C s a ∧ m.Steps C (m.next s a) as := by
  rfl

@[simp]
theorem valid_nil (s : σ) : m.Valid s [] := by
  trivial

@[simp]
theorem valid_cons (s : σ) (a : α) (as : List α)
    : m.Valid s (a :: as) ↔ m.enabled s a ∧ m.Valid (m.next s a) as := by
  rfl

@[simp]
theorem along_nil (s : σ) : m.Along P s [] ↔ P s := by
  rfl

@[simp]
theorem along_cons (s : σ) (a : α) (as : List α)
    : m.Along P s (a :: as) ↔ P s ∧ m.Along P (m.next s a) as := by
  rfl

theorem valid_append (s : σ) (as bs : List α)
    : m.Valid s (as ++ bs) ↔ m.Valid s as ∧ m.Valid (m.run s as) bs := by
  induction as generalizing s with
  | nil => simp
  | cons a as ih =>
    rw [List.cons_append, valid_cons, valid_cons, ih, run_cons]
    exact and_assoc.symm

theorem along_forall {ι : Sort w} {R : ι → σ → Prop} (s : σ) (as : List α)
    : m.Along (fun s => ∀ i, R i s) s as ↔ ∀ i, m.Along (R i) s as := by
  induction as generalizing s with
  | nil => rfl
  | cons a as ih => simp [ih, forall_and]

instance instDecidableSteps [∀ s a, Decidable (C s a)]
    : (s : σ) → (as : List α) → Decidable (m.Steps C s as)
  | _, [] => .isTrue trivial
  | s, a :: as =>
    have := instDecidableSteps (m.next s a) as
    inferInstanceAs (Decidable (C s a ∧ m.Steps C (m.next s a) as))

instance instDecidableAlong [DecidablePred P]
    : (s : σ) → (as : List α) → Decidable (m.Along P s as)
  | s, [] => inferInstanceAs (Decidable (P s))
  | s, a :: as =>
    have := instDecidableAlong (m.next s a) as
    inferInstanceAs (Decidable (P s ∧ m.Along P (m.next s a) as))

instance [∀ s a, Decidable (m.enabled s a)] (s : σ) (as : List α) : Decidable (m.Valid s as) :=
  inferInstanceAs (Decidable (m.Steps m.enabled s as))

theorem along_start {s : σ} {as : List α} (h : m.Along P s as) : P s := by
  cases as with
  | nil => exact h
  | cons a as => exact h.1

theorem along_run {s : σ} {as : List α} (h : m.Along P s as) : P (m.run s as) := by
  induction as generalizing s with
  | nil => exact h
  | cons a as ih => exact ih h.2

theorem along_mono {s : σ} {as : List α} (hmono : ∀ s, P s → Q s) (h : m.Along P s as)
    : m.Along Q s as := by
  induction as generalizing s with
  | nil => exact hmono s h
  | cons a as ih => exact ⟨hmono s h.1, ih h.2⟩

theorem run_invariant (hstep : ∀ s a, P s → m.enabled s a → P (m.next s a)) {s : σ} {as : List α}
    (hs : P s) (hv : m.Valid s as) : P (m.run s as) := by
  induction as generalizing s with
  | nil => exact hs
  | cons a as ih => exact ih (hstep s a hs hv.1) hv.2

/--
The induction over a run for a property that also depends on what has been done before.
-/
theorem run_history {H : List α → σ → Prop}
    (hstep : ∀ as s a, H as s → m.enabled s a → C s a → H (as ++ [a]) (m.next s a)) {s : σ}
    {as bs : List α} (hs : H as s) (hv : m.Valid s bs) (hc : m.Steps C s bs)
    : H (as ++ bs) (m.run s bs) := by
  induction bs generalizing s as with
  | nil =>
    rw [List.append_nil]
    exact hs
  | cons b bs ih =>
    have hnext := ih (hstep as s b hs hv.1 hc.1) hv.2 hc.2
    rw [List.append_assoc] at hnext
    exact hnext

theorem along_of_steps (hstep : ∀ s a, P s → m.enabled s a → C s a → P (m.next s a))
    {s : σ} {as : List α} (hs : P s) (hv : m.Valid s as) (hc : m.Steps C s as)
    : m.Along P s as := by
  induction as generalizing s with
  | nil => exact hs
  | cons a as ih => exact ⟨hs, ih (hstep s a hs hv.1 hc.1) hv.2 hc.2⟩

/--
If, given an invariant `P`, a step establishes `Q` again exactly when it satisfies `C`, then `Q` holds
along a schedule exactly when all its steps satisfy `C`.
-/
theorem along_iff_steps (hinv : ∀ s a, P s → m.enabled s a → P (m.next s a))
    (hstep : ∀ s a, P s → Q s → m.enabled s a → (Q (m.next s a) ↔ C s a))
    {s : σ} {as : List α} (hp : P s) (hq : Q s) (hv : m.Valid s as)
    : m.Along Q s as ↔ m.Steps C s as := by
  induction as generalizing s with
  | nil => simp [hq]
  | cons a as ih =>
    have hnext := hstep s a hp hq hv.1
    rw [along_cons, steps_cons]
    constructor
    . intro h
      have hqnext := along_start h.2
      exact ⟨hnext.mp hqnext, (ih (hinv s a hp hv.1) hqnext hv.2).mp h.2⟩
    . intro h
      have hqnext := hnext.mpr h.1
      exact ⟨hq, (ih (hinv s a hp hv.1) hqnext hv.2).mpr h.2⟩

theorem steps_of_invariant (hinv : ∀ s a, P s → P (m.next s a)) (hstep : ∀ s a, P s → C s a)
    {s : σ} (hs : P s) (as : List α) : m.Steps C s as := by
  induction as generalizing s with
  | nil => trivial
  | cons a as ih => exact ⟨hstep s a hs, ih (hinv s a hs)⟩

theorem steps_of_forall {D : α → Prop} (s : σ) {as : List α} (h : ∀ a ∈ as, D a)
    : m.Steps (fun _ a => D a) s as := by
  induction as generalizing s with
  | nil => trivial
  | cons a as ih =>
    have htail : ∀ b ∈ as, D b := fun b hb => h b (List.mem_cons_of_mem a hb)
    exact ⟨h a List.mem_cons_self, ih _ htail⟩

theorem steps_mono {D : σ → α → Prop} (hstep : ∀ s a, C s a → D s a) {s : σ} {as : List α}
    (h : m.Steps C s as) : m.Steps D s as := by
  induction as generalizing s with
  | nil => trivial
  | cons a as ih => exact ⟨hstep s a h.1, ih h.2⟩

theorem steps_congr {D E : σ → α → Prop} (hstep : ∀ s a, E s a → (C s a ↔ D s a)) {s : σ} {as : List α}
    (he : m.Steps E s as) : m.Steps C s as ↔ m.Steps D s as := by
  induction as generalizing s with
  | nil => rfl
  | cons a as ih => rw [steps_cons, steps_cons, hstep s a he.1, ih he.2]

theorem steps_true (s : σ) (as : List α) : m.Steps (fun _ _ => True) s as := by
  apply steps_of_invariant (P := fun _ => True)
  . intro _ _ _
    trivial
  . intro _ _ _
    trivial
  . trivial

theorem steps_of_steps {D : σ → α → Prop}
    (hstep : ∀ s a, P s → m.enabled s a → C s a → D s a ∧ P (m.next s a))
    {s : σ} {as : List α} (hs : P s) (hv : m.Valid s as) (hc : m.Steps C s as) : m.Steps D s as := by
  induction as generalizing s with
  | nil => trivial
  | cons a as ih =>
    have hnext := hstep s a hs hv.1 hc.1
    exact ⟨hnext.1, ih hnext.2 hv.2 hc.2⟩

/--
A schedule of actions that all decrease `f` is no longer than `f` is at its start.
-/
theorem length_le_of_steps {f : σ → Nat} (hinv : ∀ s a, P s → m.enabled s a → P (m.next s a))
    (hstep : ∀ s a, P s → m.enabled s a → C s a → f (m.next s a) < f s)
    {s : σ} {as : List α} (hs : P s) (hv : m.Valid s as) (hc : m.Steps C s as)
    : as.length + f (m.run s as) ≤ f s := by
  induction as generalizing s with
  | nil => simp
  | cons a as ih =>
    have hlt := hstep s a hs hv.1 hc.1
    have hle := ih (hinv s a hs hv.1) hv.2 hc.2
    rw [List.length_cons, run_cons]
    omega

/--
The machines offer and take the actions that satisfy `D` alike.
-/
structure Agree (m' m : Machine σ α) (D : σ → α → Prop) : Prop where
  enabled : ∀ s a, D s a → (m'.enabled s a ↔ m.enabled s a)
  next : ∀ s a, D s a → m'.next s a = m.next s a

section

variable {m' : Machine σ α} {D : σ → α → Prop}

theorem agree_run (h : Agree m' m D) {s : σ} {as : List α} (hd : m'.Steps D s as)
    : m'.run s as = m.run s as := by
  induction as generalizing s with
  | nil => rfl
  | cons a as ih =>
    rw [run_cons, run_cons, ih hd.2, h.next s a hd.1]

theorem agree_steps (h : Agree m' m D) {s : σ} {as : List α} (hd : m'.Steps D s as)
    : m'.Steps C s as ↔ m.Steps C s as := by
  induction as generalizing s with
  | nil => rfl
  | cons a as ih =>
    rw [steps_cons, steps_cons, ih hd.2, h.next s a hd.1]

theorem agree_along (h : Agree m' m D) {s : σ} {as : List α} (hd : m'.Steps D s as)
    : m'.Along P s as ↔ m.Along P s as := by
  induction as generalizing s with
  | nil => rfl
  | cons a as ih =>
    rw [along_cons, along_cons, ih hd.2, h.next s a hd.1]

theorem agree_valid (h : Agree m' m D) {s : σ} {as : List α} (hd : m'.Steps D s as)
    : m'.Valid s as ↔ m.Valid s as := by
  induction as generalizing s with
  | nil => rfl
  | cons a as ih =>
    rw [valid_cons, valid_cons, ih hd.2, h.enabled s a hd.1, h.next s a hd.1]

end

section

variable (m) {β : Type w} (output : σ → α → Option β)

def outputs : σ → List α → List β
  | _, [] => []
  | s, a :: as => (output s a).toList ++ outputs (m.next s a) as

theorem outputs_cons (s : σ) (a : α) (as : List α)
    : m.outputs output s (a :: as) = (output s a).toList ++ m.outputs output (m.next s a) as := by
  rfl

def emitted (emits : σ → α → List β) : σ → List α → List β
  | _, [] => []
  | s, a :: as => emits s a ++ emitted emits (m.next s a) as

theorem emitted_concat (emits : σ → α → List β) (s : σ) (as : List α) (a : α)
    : m.emitted emits s (as ++ [a]) = m.emitted emits s as ++ emits (m.run s as) a := by
  induction as generalizing s with
  | nil => exact List.append_nil _
  | cons b as ih =>
    show emits s b ++ m.emitted emits (m.next s b) (as ++ [a])
      = emits s b ++ m.emitted emits (m.next s b) as ++ emits (m.run (m.next s b) as) a
    rw [ih, List.append_assoc]

end

section

variable (m) (C) [∀ s a, Decidable (C s a)]

/--
The number of actions of the schedule that satisfy `C` in the state they are taken in.
-/
def count : σ → List α → Nat
  | _, [] => 0
  | s, a :: as => (if C s a then 1 else 0) + count (m.next s a) as

theorem count_nil (s : σ) : m.count C s [] = 0 := by
  rfl

theorem count_cons (s : σ) (a : α) (as : List α)
    : m.count C s (a :: as) = (if C s a then 1 else 0) + m.count C (m.next s a) as := by
  rfl

end

section

variable [∀ s a, Decidable (C s a)]

/--
If `f` grows by one with every action that satisfies `C` and by no other, a schedule keeps `f` below a
bound exactly when it has few enough of these actions.
-/
theorem along_le_iff {f : σ → Nat}
    (hstep : ∀ s a, m.enabled s a → f (m.next s a) = f s + if C s a then 1 else 0)
    {s : σ} {as : List α} (hv : m.Valid s as) (b : Nat)
    : m.Along (fun s => f s ≤ b) s as ↔ f s + m.count C s as ≤ b := by
  induction as generalizing s with
  | nil =>
    rw [along_nil, count_nil]
    rfl
  | cons a as ih =>
    have hnext := hstep s a hv.1
    rw [along_cons, count_cons, ih hv.2, hnext]
    omega

theorem eq_add_count {f : σ → Nat} (hinv : ∀ s a, P s → m.enabled s a → P (m.next s a))
    (hstep : ∀ s a, P s → m.enabled s a → f (m.next s a) = f s + if C s a then 1 else 0)
    {s : σ} {as : List α} (hs : P s) (hv : m.Valid s as) : f (m.run s as) = f s + m.count C s as := by
  induction as generalizing s with
  | nil => rfl
  | cons a as ih =>
    have hnext := hstep s a hs hv.1
    rw [run_cons, count_cons, ih (hinv s a hs hv.1) hv.2, hnext]
    omega

end

end Machine

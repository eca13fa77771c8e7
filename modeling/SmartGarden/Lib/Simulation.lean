import SmartGarden.Lib.Machine

/-!
This module contains simulations between machines. A step of the first machine is matched by one step of
the second one or by none, which may depend on the state that the step is taken in.
-/

namespace Machine

variable {σ : Type u} {α : Type v} {τ : Type w} {β : Type x} {m : Machine σ α} {n : Machine τ β}
  {f : σ → α → Option β} {R : σ → τ → Prop}

variable (m n f R) in
structure Simulates : Prop where
  step : ∀ s t a b, R s t → m.enabled s a → f s a = some b
    → n.enabled t b ∧ R (m.next s a) (n.next t b)
  stutter : ∀ s t a, R s t → m.enabled s a → f s a = none → R (m.next s a) t

/--
What the second machine does in a run of the first one is a run of its own.
-/
theorem simulates_run (h : Simulates m n f R) {s : σ} {t : τ} {as : List α} (hst : R s t)
    (hv : m.Valid s as) : n.Valid t (m.outputs f s as) ∧ R (m.run s as) (n.run t (m.outputs f s as)) := by
  induction as generalizing s t with
  | nil => exact ⟨trivial, hst⟩
  | cons a as ih =>
    rw [outputs_cons]
    cases hf : f s a with
    | some b =>
      obtain ⟨he, hnext⟩ := h.step s t a b hst hv.1 hf
      obtain ⟨hvalid, hrun⟩ := ih hnext hv.2
      exact ⟨⟨he, hvalid⟩, hrun⟩
    | none => exact ih (h.stutter s t a hst hv.1 hf) hv.2

theorem outputs_eq_filterMap (g : α → Option β) (s : σ) (as : List α)
    : m.outputs (fun _ => g) s as = as.filterMap g := by
  induction as generalizing s with
  | nil => rfl
  | cons a as ih =>
    rw [outputs_cons, ih]
    cases hg : g a with
    | some b => simp [hg]
    | none => simp [hg]

theorem filterMap_outputs {γ : Type y} (g : β → Option γ) (s : σ) (as : List α)
    : (m.outputs f s as).filterMap g = m.outputs (fun s a => (f s a).bind g) s as := by
  induction as generalizing s with
  | nil => rfl
  | cons a as ih =>
    rw [outputs_cons, outputs_cons, List.filterMap_append, ih]
    cases f s a with
    | some b => cases hg : g b <;> simp [hg]
    | none => rfl

end Machine

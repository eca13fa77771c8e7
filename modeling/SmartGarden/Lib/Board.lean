import Mathlib.Logic.Function.Basic
import SmartGarden.Lib.Machine

/-!
This module contains parties that exchange messages over a board. A party may read any message that has
been posted, however old, and an environment posts messages of its own. If a party that reads proper
messages writes proper messages, no other ones are ever posted.
-/

structure Party (σ : Type u) (α : Type v) (μ : Type w) extends Machine σ α where
  reads : α → List μ
  writes : σ → α → List μ

structure Board (ι : Type x) (σ : Type u) (μ : Type w) where
  party : ι → σ
  posted : List μ := []

namespace Board

inductive Action (ι : Type x) (α : Type v) (μ : Type w) where
  | move (p : ι) (a : α)
  | post (message : μ)

variable {ι : Type x} {σ : Type u} {α : Type v} {μ : Type w}

section

variable [DecidableEq ι] (party : Party σ α μ) (environment : μ → Prop)

def machine : Machine (Board ι σ μ) (Action ι α μ) where
  enabled s a :=
    match a with
    | .move p a => party.enabled (s.party p) a ∧ ∀ message ∈ party.reads a, message ∈ s.posted
    | .post message => environment message
  next s a :=
    match a with
    | .move p a =>
      { party := Function.update s.party p (party.next (s.party p) a)
        posted := s.posted ++ party.writes (s.party p) a }
    | .post message => { s with posted := s.posted ++ [message] }

instance [DecidableEq μ] [∀ s a, Decidable (party.enabled s a)] [DecidablePred environment]
    (s : Board ι σ μ) (a : Action ι α μ) : Decidable ((machine party environment).enabled s a) :=
  match a with
  | .move p a =>
    inferInstanceAs (Decidable (party.enabled (s.party p) a ∧ ∀ message ∈ party.reads a, message ∈ s.posted))
  | .post message => inferInstanceAs (Decidable (environment message))

end

/--
Every message that a party writes in this step satisfies `G`.
-/
def Writes (party : Party σ α μ) (G : μ → Prop) (s : Board ι σ μ) (a : Action ι α μ) : Prop :=
  match a with
  | .move p a => ∀ message ∈ party.writes (s.party p) a, G message
  | .post _ => True

structure Proper (P : σ → Prop) (R : μ → Prop) (s : Board ι σ μ) : Prop where
  party : ∀ p, P (s.party p)
  posted : ∀ message ∈ s.posted, R message

/--
A party that keeps `P` may rely on `R` for what it reads, and guarantees `G` for what it writes.
-/
structure Contract (party : Party σ α μ) (environment : μ → Prop) (P : σ → Prop) (R G : μ → Prop)
    : Prop where
  environment : ∀ message, environment message → R message
  guarantee : ∀ message, G message → R message
  step : ∀ s a, P s → party.enabled s a → (∀ message ∈ party.reads a, R message)
    → P (party.next s a) ∧ ∀ message ∈ party.writes s a, G message

variable [DecidableEq ι] {party : Party σ α μ} {environment : μ → Prop} {P : σ → Prop} {R G : μ → Prop}

theorem proper_next (hcontract : Contract party environment P R G) {s : Board ι σ μ}
    {a : Action ι α μ} (h : s.Proper P R) (he : (machine party environment).enabled s a)
    : s.Writes party G a ∧ ((machine party environment).next s a).Proper P R := by
  cases a with
  | move p a =>
    have hreads : ∀ message ∈ party.reads a, R message := by
      intro message hmessage
      apply h.posted
      exact he.2 message hmessage
    have hmove := hcontract.step (s.party p) a (h.party p) he.1 hreads
    refine ⟨hmove.2, ?_, ?_⟩
    . intro q
      dsimp only [machine]
      by_cases hq : q = p
      . rw [hq, Function.update_self]
        exact hmove.1
      . rw [Function.update_of_ne hq]
        apply h.party
    . intro message hmessage
      cases List.mem_append.mp hmessage with
      | inl hold => exact h.posted message hold
      | inr hnew => exact hcontract.guarantee message (hmove.2 message hnew)
  | post posted =>
    refine ⟨trivial, h.party, ?_⟩
    intro message hmessage
    cases List.mem_append.mp hmessage with
    | inl hold => exact h.posted message hold
    | inr hnew =>
      rw [List.mem_singleton.mp hnew]
      exact hcontract.environment posted he

/--
What the parties rely on is what they guarantee to each other.
-/
theorem proper_run (hcontract : Contract party environment P R G) {s : Board ι σ μ}
    {as : List (Action ι α μ)} (h : s.Proper P R) (hv : (machine party environment).Valid s as)
    : (machine party environment).Along (Proper P R) s as
        ∧ (machine party environment).Steps (Writes party G) s as := by
  constructor
  . apply Machine.along_of_steps (C := fun _ _ => True) _ h hv
    . apply Machine.steps_true
    . intro s a hs he _
      exact (proper_next hcontract hs he).2
  . apply Machine.steps_of_steps (C := fun _ _ => True) _ h hv
    . apply Machine.steps_true
    . intro s a hs he _
      exact proper_next hcontract hs he

end Board

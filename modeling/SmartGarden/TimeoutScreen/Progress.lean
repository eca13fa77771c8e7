import Mathlib.Data.Rat.Floor
import SmartGarden.TimeoutScreen.Timer

/-!
This module contains the progress ring of a timeout screen: the quotients that `updateTime` computes in
a run of presses and firings.
-/

open Swift

namespace SmartGarden

namespace Countdown

variable {screen : TimeoutScreen} {dateFormatter : DateFormatter}

def quotient? (s : Countdown) (a : Action) : Option Rat :=
  match a with
  | .fire _ now => if 0 < s.vc.timeLeft then some (s.fire now).vc.progress else none
  | _ => none

/--
When `updateTime` divides, there is an end time, the divisor is positive and the quotient at most one.
-/
def WellDivided (s : Countdown) (a : Action) : Prop :=
  ∀ quotient ∈ s.quotient? a, s.vc.endTime.isSome ∧ 0 < s.vc.initialTime ∧ quotient ≤ 1

def IsPress : Action → Prop
  | .press _ _ _ => True
  | _ => False

def Ticking (s : Countdown) : Prop :=
  0 < s.vc.timeLeft
    →
  ∃ endTime, s.vc.endTime = some endTime ∧ 0 < s.vc.initialTime ∧ endTime - s.now ≤ s.vc.initialTime

theorem fire_eq_of_timeLeft {s : Countdown} (hleft : 0 < s.vc.timeLeft) {endTime : Rat}
    (hend : s.vc.endTime = some endTime) (now : Rat)
    : (s.fire now).vc
        =
      { s.vc with
        timeLeft := endTime - now
        progress := (endTime - now) / s.vc.initialTime
        string := time (endTime - now) } := by
  unfold fire TimeoutViewController.updateTime
  simp only [hleft, ↓reduceIte, hend]

theorem fire_eq_of_expired {s : Countdown} (hleft : ¬ 0 < s.vc.timeLeft) (now : Rat)
    : (s.fire now).vc = { s.vc with string := time s.vc.timeLeft, text := some [] } := by
  unfold fire TimeoutViewController.updateTime
  simp only [hleft, ↓reduceIte]

theorem fire_now (s : Countdown) (now : Rat) : (s.fire now).now = now := by
  rfl

theorem ticking_press {s : Countdown} {now later last : Rat}
    (he : (machine screen dateFormatter).enabled s (.press now later last))
    : (s.press screen dateFormatter now later last).Ticking := by
  obtain ⟨⟨vc, effects⟩, hpress⟩ := Option.isSome_iff_exists.mp he.2.2.2
  obtain ⟨hinitial, hend, _⟩ := TimeoutViewController.touchUpInsideConfigButton_frame hpress
  unfold press
  rw [hpress]
  intro hleft
  refine ⟨_, hend, ?_, ?_⟩
  . rw [hinitial]
    exact hleft
  . rw [hinitial, add_sub_cancel_left]

theorem ticking_fire {s : Countdown} (h : s.Ticking) {now : Rat} (hnow : s.now ≤ now)
    : (s.fire now).Ticking := by
  by_cases hleft : 0 < s.vc.timeLeft
  . obtain ⟨endTime, hend, hinitial, hle⟩ := h hleft
    intro _
    refine ⟨endTime, ?_, ?_, ?_⟩
    . rw [fire_eq_of_timeLeft hleft hend]
      exact hend
    . rw [fire_eq_of_timeLeft hleft hend]
      exact hinitial
    . rw [fire_eq_of_timeLeft hleft hend, fire_now]
      exact le_trans (sub_le_sub_left hnow endTime) hle
  . intro hleft'
    rw [fire_eq_of_expired hleft] at hleft'
    contradiction

theorem ticking_next {s : Countdown} (h : s.Ticking) {a : Action}
    (he : (machine screen dateFormatter).enabled s a)
    : ((machine screen dateFormatter).next s a).Ticking := by
  cases a with
  | edit text => exact h
  | press now later last => exact ticking_press he
  | fire k now => exact ticking_fire h he.2

theorem wellDivided_of_ticking {s : Countdown} (h : s.Ticking) {a : Action}
    (he : (machine screen dateFormatter).enabled s a) : WellDivided s a := by
  intro quotient hquotient
  cases a with
  | fire k now =>
    dsimp only [quotient?] at hquotient
    split at hquotient
    . next hleft =>
      obtain ⟨endTime, hend, hinitial, hle⟩ := h hleft
      rw [fire_eq_of_timeLeft hleft hend] at hquotient
      rw [← Option.some.inj hquotient]
      refine ⟨Option.isSome_of_eq_some hend, hinitial, ?_⟩
      show (endTime - now) / s.vc.initialTime ≤ 1
      rw [div_le_one hinitial]
      exact le_trans (sub_le_sub_left he.2 endTime) hle
    . contradiction
  | _ => contradiction

theorem quotients_le {s : Countdown} {as : List Action}
    (hv : (machine screen dateFormatter).Valid s as) (hpress : ∀ a ∈ as, ¬ IsPress a) {endTime : Rat}
    (hend : s.vc.endTime = some endTime) (hinitial : 0 < s.vc.initialTime)
    : ∀ quotient ∈ (machine screen dateFormatter).outputs quotient? s as,
        quotient ≤ (endTime - s.now) / s.vc.initialTime := by
  induction as generalizing s with
  | nil =>
    intro quotient hquotient
    contradiction
  | cons a as ih =>
    have hpress' : ∀ a ∈ as, ¬ IsPress a := fun a ha => hpress a (List.mem_cons_of_mem _ ha)
    cases a with
    | edit text => exact ih hv.2 hpress' hend hinitial
    | press now later last => exact absurd trivial (hpress _ List.mem_cons_self)
    | fire k now =>
      -- Whether time is left or not, the end time and the initial time stay.
      have hframe : (s.fire now).vc.endTime = some endTime
          ∧ (s.fire now).vc.initialTime = s.vc.initialTime := by
        by_cases hleft : 0 < s.vc.timeLeft
        . rw [fire_eq_of_timeLeft hleft hend]
          exact ⟨hend, rfl⟩
        . rw [fire_eq_of_expired hleft]
          exact ⟨hend, rfl⟩
      have hrest := ih (s := s.fire now) hv.2 hpress' hframe.1 (by rw [hframe.2]; exact hinitial)
      rw [hframe.2, fire_now] at hrest
      have hle : (endTime - now) / s.vc.initialTime ≤ (endTime - s.now) / s.vc.initialTime :=
        div_le_div_of_nonneg_right (sub_le_sub_left hv.1.2 endTime) (le_of_lt hinitial)
      intro quotient hquotient
      rw [Machine.outputs_cons] at hquotient
      cases List.mem_append.mp hquotient with
      | inl hfirst =>
        rw [Option.mem_toList] at hfirst
        dsimp only [quotient?] at hfirst
        split at hfirst
        . next hleft =>
          rw [fire_eq_of_timeLeft hleft hend] at hfirst
          rw [← Option.some.inj hfirst]
          exact hle
        . contradiction
      | inr hlater => exact le_trans (hrest quotient hlater) hle

theorem quotients_pairwise {s : Countdown} (h : s.Ticking) {as : List Action}
    (hv : (machine screen dateFormatter).Valid s as) (hpress : ∀ a ∈ as, ¬ IsPress a)
    : ((machine screen dateFormatter).outputs quotient? s as).Pairwise fun quotient later =>
        later ≤ quotient := by
  induction as generalizing s with
  | nil => exact List.Pairwise.nil
  | cons a as ih =>
    have hpress' : ∀ a ∈ as, ¬ IsPress a := fun a ha => hpress a (List.mem_cons_of_mem _ ha)
    have hrest := ih (ticking_next h hv.1) hv.2 hpress'
    cases a with
    | edit text => exact hrest
    | press now later last => exact absurd trivial (hpress _ List.mem_cons_self)
    | fire k now =>
      rw [Machine.outputs_cons]
      dsimp only [quotient?]
      split
      . next hleft =>
        obtain ⟨endTime, hend, hinitial, _⟩ := h hleft
        have hfire := fire_eq_of_timeLeft hleft hend now
        have hle := quotients_le (s := s.fire now) hv.2 hpress' (by rw [hfire]; exact hend)
          (by rw [hfire]; exact hinitial)
        rw [hfire, fire_now] at hle
        rw [hfire]
        exact List.pairwise_cons.mpr ⟨hle, hrest⟩
      . exact hrest

/--
In every run the ring is only set to well defined quotients of at most one, and between two presses it
never goes back.
-/
theorem ring_never_runs_backwards {now : Rat} {as : List Action}
    (hv : (machine screen dateFormatter).Valid { now := now } as)
    : (machine screen dateFormatter).Steps WellDivided { now := now } as
        ∧
      ∀ pre segment post,
        as = pre ++ segment ++ post
          →
        (∀ a ∈ segment, ¬ IsPress a)
          →
        ((machine screen dateFormatter).outputs quotient?
          ((machine screen dateFormatter).run { now := now } pre) segment).Pairwise
            fun quotient later => later ≤ quotient := by
  have hstart : Ticking { now := now } := by
    intro hleft
    exact absurd hleft (lt_irrefl 0)
  constructor
  . apply Machine.steps_of_steps (P := Ticking) (C := fun _ _ => True) _ hstart hv
    . exact Machine.steps_true _ _
    . intro s a h he _
      exact ⟨wellDivided_of_ticking h he, ticking_next h he⟩
  . rintro pre segment post rfl hpress
    rw [Machine.valid_append, Machine.valid_append] at hv
    apply quotients_pairwise _ hv.1.2 hpress
    apply Machine.run_invariant _ hstart hv.1.1
    intro s a h he
    exact ticking_next h he

theorem ring_never_runs_backwards_pressed_twice
    : (machine lampScreen .utc).Steps WellDivided { now := 0 } pressedTwice
        ∧
      ∀ pre segment post,
        pressedTwice = pre ++ segment ++ post
          →
        (∀ a ∈ segment, ¬ IsPress a)
          →
        ((machine lampScreen .utc).outputs quotient?
          ((machine lampScreen .utc).run { now := 0 } pre) segment).Pairwise
            fun quotient later => later ≤ quotient :=
  ring_never_runs_backwards (by decide +kernel)

end Countdown

end SmartGarden

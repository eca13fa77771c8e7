import SmartGarden.Lib.Machine
import SmartGarden.TimeoutScreen.Lemmas

/-!
This module contains a timeout screen together with its scheduled timers. Every press schedules one more
repeating timer, and each of them calls `updateTime` until it is invalidated.
-/

open Swift

namespace SmartGarden

structure Countdown where
  vc : TimeoutViewController := {}
  -- The last reading of the clock.
  now : Rat
  -- The number of timers scheduled so far, and those that are not invalidated.
  scheduled : Nat := 0
  live : List Nat := []
  -- A timer has fired since the last press and has found no time left.
  expired : Bool := false

namespace Countdown

inductive Action where
  | edit (text : Str)
  | press (now later last : Rat)
  -- Timer `k` fires.
  | fire (k : Nat) (now : Rat)

variable (screen : TimeoutScreen) (dateFormatter : DateFormatter)

def press (s : Countdown) (now later last : Rat) : Countdown :=
  match s.vc.touchUpInsideConfigButton screen dateFormatter now later last s.scheduled with
  | some (vc, _) =>
    { vc := vc
      now := last
      scheduled := s.scheduled + 1
      live := s.live ++ [s.scheduled]
      expired := false }
  | none => s

def fire (s : Countdown) (now : Rat) : Countdown :=
  let (vc, invalidated) := s.vc.updateTime now
  { s with
    vc := vc
    now := now
    live := s.live.filter fun k => some k ≠ invalidated
    expired := s.expired || s.vc.timeLeft ≤ 0 }

def machine : Machine Countdown Action where
  enabled s a :=
    match a with
    | .edit _ => True
    -- A press that traps ends the process and its timers with it.
    | .press now later last => s.now ≤ now ∧ now ≤ later ∧ later ≤ last
        ∧ (s.vc.touchUpInsideConfigButton screen dateFormatter now later last s.scheduled).isSome
    | .fire k now => k ∈ s.live ∧ s.now ≤ now
  next s a :=
    match a with
    | .edit text => { s with vc := { s.vc with text := some text } }
    | .press now later last => s.press screen dateFormatter now later last
    | .fire _ now => s.fire now

instance (s : Countdown) (a : Action) : Decidable ((machine screen dateFormatter).enabled s a) :=
  match a with
  | .edit _ => inferInstanceAs (Decidable True)
  | .press now later last =>
    inferInstanceAs (Decidable (s.now ≤ now ∧ now ≤ later ∧ later ≤ last
      ∧ (s.vc.touchUpInsideConfigButton screen dateFormatter now later last s.scheduled).isSome = true))
  | .fire k now => inferInstanceAs (Decidable (k ∈ s.live ∧ s.now ≤ now))

/--
At most one timer is live, none after the countdown has expired, and it is the one of the last press.
-/
structure OneTimer (s : Countdown) : Prop where
  one : s.live.length ≤ 1
  none : s.expired = true → s.live = []
  last : ∀ k ∈ s.live, s.vc.timer = some k

def PressedIdle (s : Countdown) (a : Action) : Prop :=
  match a with
  | .press _ _ _ => s.live = []
  | _ => True

instance (s : Countdown) (a : Action) : Decidable (PressedIdle s a) :=
  match a with
  | .edit _ => inferInstanceAs (Decidable True)
  | .press _ _ _ => inferInstanceAs (Decidable (s.live = []))
  | .fire _ _ => inferInstanceAs (Decidable True)

variable {screen dateFormatter}

theorem oneTimer_press_iff {s : Countdown} {now later last : Rat}
    (he : (machine screen dateFormatter).enabled s (.press now later last))
    : (s.press screen dateFormatter now later last).OneTimer ↔ s.live = [] := by
  obtain ⟨⟨vc, effects⟩, hpress⟩ := Option.isSome_iff_exists.mp he.2.2.2
  have htimer := (TimeoutViewController.touchUpInsideConfigButton_frame hpress).2.2
  unfold press
  rw [hpress]
  constructor
  . intro h
    have hone := h.one
    dsimp at hone
    rw [List.length_append, List.length_singleton] at hone
    exact List.length_eq_zero_iff.mp (by omega)
  . intro hlive
    rw [hlive]
    refine ⟨by simp, by simp, ?_⟩
    intro k hk
    rw [List.mem_singleton.mp hk]
    exact htimer

theorem oneTimer_fire {s : Countdown} (h : s.OneTimer) {k : Nat} (hk : k ∈ s.live) (now : Rat)
    : (s.fire now).OneTimer := by
  have hexpired : s.expired = false := by
    cases hexpired : s.expired with
    | false => rfl
    | true =>
      rw [h.none hexpired] at hk
      contradiction
  unfold fire TimeoutViewController.updateTime
  split
  . next vc invalidated heq =>
    split at heq
    . next hleft =>
      cases heq
      have hlive : s.live.filter (fun k => some k ≠ none) = s.live := by simp
      have hstill : (s.expired || decide (s.vc.timeLeft ≤ 0)) = false := by
        simp [hexpired, Rat.not_le.mpr hleft]
      rw [hlive, hstill]
      exact ⟨h.one, by simp, h.last⟩
    . -- Every live timer is the one that is invalidated.
      cases heq
      have hlive : s.live.filter (fun k => some k ≠ s.vc.timer) = [] := by
        rw [List.filter_eq_nil_iff]
        intro k hk
        simp [h.last k hk]
      rw [hlive]
      exact ⟨by simp, by simp, by simp⟩

theorem oneTimer_next_iff {s : Countdown} (h : s.OneTimer) {a : Action}
    (he : (machine screen dateFormatter).enabled s a)
    : ((machine screen dateFormatter).next s a).OneTimer ↔ PressedIdle s a := by
  cases a with
  | edit text => exact iff_of_true ⟨h.one, h.none, h.last⟩ trivial
  | press now later last => exact oneTimer_press_iff he
  | fire k now => exact iff_of_true (oneTimer_fire h he.1 now) trivial

/--
In a run of a timeout screen there is at most one timer at all times, and none after the countdown has
expired, exactly when every press is made while no timer is live.
-/
theorem oneTimer_iff {now : Rat} {as : List Action}
    (hv : (machine screen dateFormatter).Valid { now := now } as)
    : (machine screen dateFormatter).Along OneTimer { now := now } as
        ↔
      (machine screen dateFormatter).Steps PressedIdle { now := now } as := by
  apply Machine.along_iff_steps (P := fun _ => True)
  . intro s a _ _
    trivial
  . intro s a _ h he
    exact oneTimer_next_iff h he
  . trivial
  . exact ⟨by simp, by simp, by simp⟩
  . exact hv

def pressedTwice : List Action :=
  let text := ['1', '0', ':', '0', '1', ':', '0', '0']
  [.edit text, .press 36000 36000 36000, .press 36010 36010 36010, .fire 1 36060, .fire 1 36061]

theorem timer_left_over
    : (¬ ∀ as : List Action, (machine fanScreen .utc).Valid { now := 0 } as
            →
          ((machine fanScreen .utc).run { now := 0 } as).live.length ≤ 1)
        ∧
      (¬ ∀ as : List Action, (machine fanScreen .utc).Valid { now := 0 } as
            →
          ((machine fanScreen .utc).run { now := 0 } as).expired = true
            →
          ((machine fanScreen .utc).run { now := 0 } as).live = []) := by
  constructor
  . intro h
    exact absurd (h (pressedTwice.take 3) (by decide +kernel)) (by decide +kernel)
  . intro h
    exact absurd (h pressedTwice (by decide +kernel) (by decide +kernel)) (by decide +kernel)

theorem oneTimer_pressed_twice
    : (machine lampScreen .utc).Along OneTimer { now := 0 }
        [.edit ['1', '0', ':', '0', '1', ':', '0', '0'], .press 36000 36000 36000, .fire 0 36060,
          .fire 0 36061, .edit ['1', '0', ':', '0', '5', ':', '0', '0'], .press 36070 36070 36070,
          .fire 1 36071] :=
  (oneTimer_iff (by decide +kernel)).mpr (by decide +kernel)

end Countdown

end SmartGarden

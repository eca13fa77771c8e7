import Mathlib.Tactic.Ring
import SmartGarden.Swift.Decimal
import SmartGarden.Swift.Rounding
import SmartGarden.TimeoutScreen.Timer

/-!
This module contains what one press of the configure button does: what is left of a countdown when the
input is rejected, and which timeout is sent when it is accepted.
-/

open Swift

namespace SmartGarden

namespace Countdown

variable {screen : TimeoutScreen} {dateFormatter : DateFormatter}

def Rejected (dateFormatter : DateFormatter) (s : Countdown) (now : Rat) : Prop :=
  s.vc.Empty ∨ s.vc.TooEarly dateFormatter now

def Allowed (device : Device) (vc : TimeoutViewController) (write : Path × Str) : Prop :=
  device = .lamp ∧ vc.Empty ∧ write.1 = .pumpSpeed

structure LeavesAlone (device : Device) (dateFormatter : DateFormatter) (s : Countdown)
    (now later last : Rat) : Prop where
  writes : ∃ result,
    s.vc.touchUpInsideConfigButton device.screen dateFormatter now later last s.scheduled = some result
      ∧ ∀ write ∈ writes result.2, Allowed device s.vc write
  timeLeft : (s.press device.screen dateFormatter now later last).vc.timeLeft = s.vc.timeLeft
  initialTime : (s.press device.screen dateFormatter now later last).vc.initialTime = s.vc.initialTime
  endTime : (s.press device.screen dateFormatter now later last).vc.endTime = s.vc.endTime
  live : ∀ k, k ∈ (s.press device.screen dateFormatter now later last).live ↔ k ∈ s.live

theorem configure_of_rejected {device : Device} {s : Countdown} {now : Rat}
    (h : s.Rejected dateFormatter now) (later : Rat)
    : ∃ effects, s.vc.configure device.screen dateFormatter now later = some (s.vc, effects)
        ∧ ∀ write ∈ writes effects, Allowed device s.vc write := by
  cases h with
  | inl hempty =>
    refine ⟨_, TimeoutViewController.configure_of_empty hempty now later, ?_⟩
    intro write hwrite
    cases device with
    | lamp => exact ⟨rfl, hempty, TimeoutViewController.path_of_mem_writeDataPumpSpeed hwrite⟩
    | _ => contradiction
  | inr hearly =>
    refine ⟨_, TimeoutViewController.configure_of_tooEarly hearly later, ?_⟩
    intro write hwrite
    contradiction

/--
A rejected press issues no other writes and keeps the time left, but restarts the countdown from it and
schedules one more timer.
-/
theorem press_of_rejected {device : Device} {s : Countdown} {now : Rat}
    (h : s.Rejected dateFormatter now) (later last : Rat)
    : s.press device.screen dateFormatter now later last
        =
      { vc := { s.vc with
          initialTime := s.vc.timeLeft
          endTime := some (last + s.vc.timeLeft)
          timer := some s.scheduled }
        now := last
        scheduled := s.scheduled + 1
        live := s.live ++ [s.scheduled]
        expired := false } := by
  obtain ⟨effects, hconfigure, _⟩ := @configure_of_rejected dateFormatter device s now h later
  unfold press
  rw [TimeoutViewController.touchUpInsideConfigButton_eq hconfigure]

def Numbered (s : Countdown) : Prop :=
  ∀ k ∈ s.live, k < s.scheduled

theorem numbered_press {s : Countdown} (h : s.Numbered) (now later last : Rat)
    : (s.press screen dateFormatter now later last).Numbered := by
  unfold press
  split
  . intro k hk
    cases List.mem_append.mp hk with
    | inl hold =>
      have := h k hold
      dsimp
      omega
    | inr hnew =>
      rw [List.mem_singleton.mp hnew]
      apply Nat.lt_succ_self
  . exact h

theorem numbered_next {s : Countdown} (h : s.Numbered) (a : Action)
    : ((machine screen dateFormatter).next s a).Numbered := by
  cases a with
  | edit text => exact h
  | press now later last => exact numbered_press h now later last
  | fire k now =>
    intro k hk
    exact h k (List.mem_filter.mp hk).1

/--
No rejected press leaves the set of live timers alone.
-/
theorem not_leavesAlone {device : Device} {start now : Rat} {as : List Action}
    (hv : (machine device.screen dateFormatter).Valid { now := start } as)
    (hrejected : ((machine device.screen dateFormatter).run { now := start } as).Rejected dateFormatter
      now) (later last : Rat)
    : ¬ LeavesAlone device dateFormatter ((machine device.screen dateFormatter).run { now := start } as)
        now later last := by
  have hnumbered : ((machine device.screen dateFormatter).run { now := start } as).Numbered := by
    apply Machine.run_invariant _ _ hv
    . intro s a h _
      exact numbered_next h a
    . intro k hk
      contradiction
  generalize (machine device.screen dateFormatter).run { now := start } as = s at hrejected hnumbered
  intro h
  have hlive := h.live s.scheduled
  rw [press_of_rejected hrejected] at hlive
  have hmem := hlive.mp (by simp)
  have hlt := hnumbered s.scheduled hmem
  exact absurd hlt (Nat.lt_irrefl _)

def pressedTooEarly : List Action :=
  [.edit ['1', '0', ':', '0', '1', ':', '0', '0'], .press 36000 36000 36000, .fire 0 36010,
    .edit ['0', '9', ':', '0', '0', ':', '0', '0']]

theorem tooEarly_after_pressedTooEarly
    : ((machine Device.fan.screen .utc).run { now := 0 } pressedTooEarly).Rejected .utc 36020 :=
  Or.inr ⟨['0', '9', ':', '0', '0', ':', '0', '0'], by decide +kernel, by decide, 32400,
    by decide +kernel, 36020, by decide +kernel, by decide +kernel⟩

theorem timer_added_by_rejected_press
    : ¬ ∀ (device : Device) (dateFormatter : DateFormatter) (start now later last : Rat)
          (as : List Action),
        (machine device.screen dateFormatter).Valid { now := start } as
          →
        ((machine device.screen dateFormatter).run { now := start } as).Rejected dateFormatter now
          →
        LeavesAlone device dateFormatter ((machine device.screen dateFormatter).run { now := start } as)
          now later last := by
  intro h
  have halone := h .fan .utc 0 36020 36020 36020 pressedTooEarly (by decide +kernel)
    tooEarly_after_pressedTooEarly
  have hlive := (halone.live 1).mp (by decide +kernel)
  exact absurd hlive (by decide +kernel)

theorem not_leavesAlone_idle_lamp
    : ¬ LeavesAlone .lamp .utc ((machine Device.lamp.screen .utc).run { now := 0 } []) 36000 36000 36000 :=
  not_leavesAlone (by decide) (Or.inl (Or.inr rfl)) 36000 36000

/--
The timeouts that a press sends are between zero and the input minus the time of day at the check.
-/
def SendsWhatItChecked (device : Device) (dateFormatter : DateFormatter) (timeOfDay : Rat → Int)
    (input : Int) (vc : TimeoutViewController) (now later last : Rat) (timer : Nat) : Prop :=
  ∀ result,
    vc.touchUpInsideConfigButton device.screen dateFormatter now later last timer = some result
      →
    ∀ data ∈ writesTo device.screen.path result.2,
      ∃ n : Int, data = description n ∧ 0 ≤ n ∧ n ≤ input - timeOfDay now

theorem writesTo_writeDataTimer (device : Device) (vc : TimeoutViewController) (timeLeft : Str)
    : writesTo device.screen.path (vc.writeDataTimer device.screen timeLeft) = [timeLeft] := by
  cases device with
  | lamp =>
    show writesTo .timeoutPump (.setValue .timeoutPump timeLeft :: vc.writeDataPumpSpeed) = [timeLeft]
    unfold TimeoutViewController.writeDataPumpSpeed
    split <;> rfl
  | bulb | fan | canopy => rfl

theorem getTimeLeft_eq {day : Rat} {timeOfDay : Rat → Int}
    (htime : dateFormatter.TellsTime day timeOfDay) {text : Str} {input : Int}
    (hinput : dateFormatter.date text = some (day + input)) (later : Rat)
    : TimeoutViewController.getTimeLeft dateFormatter text later
        =
      ((input - timeOfDay later : Int) : Rat) := by
  unfold TimeoutViewController.getTimeLeft
  rw [htime.string later, hinput]
  dsimp
  rw [Rat.intCast_sub]
  ring

/--
A press sends what it has checked exactly when the time of day at the second reading is neither before
the one at the first reading nor after the input.
-/
theorem sendsWhatItChecked_iff {device : Device} {day : Rat} {timeOfDay : Rat → Int}
    (htime : dateFormatter.TellsTime day timeOfDay) {vc : TimeoutViewController} {text : Str}
    {input : Int} (htext : vc.text = some text) (hne : text ≠ [])
    (hinput : dateFormatter.date text = some (day + input)) (now later last : Rat) (timer : Nat)
    : SendsWhatItChecked device dateFormatter timeOfDay input vc now later last timer
        ↔
      (timeOfDay now ≤ input → timeOfDay now ≤ timeOfDay later ∧ timeOfDay later ≤ input) := by
  have hcompare : day + (input : Rat) < day + (timeOfDay now : Rat) ↔ input < timeOfDay now := by
    rw [Rat.add_lt_add_left, Rat.intCast_lt_intCast]
  have hconfigure := @TimeoutViewController.configure_of_text device.screen dateFormatter vc text htext
    hne now later
  rw [TimeoutViewController.compareTime_eq hinput (htime.string now)] at hconfigure
  unfold SendsWhatItChecked
  by_cases hadmitted : timeOfDay now ≤ input
  . have hnot : ¬ day + (input : Rat) < day + (timeOfDay now : Rat) := by
      rw [hcompare]
      omega
    simp only [hnot, ↓reduceIte, getTimeLeft_eq htime hinput, truncated_intCast] at hconfigure
    rw [TimeoutViewController.touchUpInsideConfigButton_eq hconfigure]
    simp only [Option.some.injEq, forall_eq', writesTo_writeDataTimer, List.mem_singleton, forall_eq,
      hadmitted, forall_const]
    constructor
    . rintro ⟨n, hn, hle, hge⟩
      have heq := description_inj hn
      omega
    . intro h
      exact ⟨_, rfl, by omega, by omega⟩
  . have hlt : day + (input : Rat) < day + (timeOfDay now : Rat) := by
      rw [hcompare]
      omega
    simp only [hlt, ↓reduceIte] at hconfigure
    rw [TimeoutViewController.touchUpInsideConfigButton_eq hconfigure]
    refine iff_of_true ?_ (by omega)
    rintro result hresult data hdata
    rw [← Option.some.inj hresult] at hdata
    contradiction

theorem negative_timeout_sent
    : ¬ ∀ (device : Device) (dateFormatter : DateFormatter) (day : Rat) (timeOfDay : Rat → Int),
        dateFormatter.TellsTime day timeOfDay
          →
        ∀ (vc : TimeoutViewController) (text : Str) (input : Int) (now later last : Rat) (timer : Nat),
          vc.text = some text
            →
          text ≠ []
            →
          dateFormatter.date text = some (day + input)
            →
          now ≤ later
            →
          later ≤ last
            →
          SendsWhatItChecked device dateFormatter timeOfDay input vc now later last timer := by
  intro h
  have hsends := h .fan .utc 0 _ DateFormatter.utc_tellsTime
    { text := some ['1', '0', ':', '0', '0', ':', '0', '0'] } ['1', '0', ':', '0', '0', ':', '0', '0']
    36000 (360009 / 10) 36001 36001 0 rfl (by decide) (by decide +kernel) (by decide +kernel)
    (by decide +kernel)
  have hwritten : (TimeoutViewController.touchUpInsideConfigButton Device.fan.screen .utc
      { text := some ['1', '0', ':', '0', '0', ':', '0', '0'] } (360009 / 10) 36001 36001 0).map
        (fun result => writesTo Device.fan.screen.path result.2)
      = some [description (-1)] := by
    decide +kernel
  obtain ⟨result, hresult, hwrites⟩ := Option.map_eq_some_iff.mp hwritten
  obtain ⟨n, hn, hle, _⟩ := hsends result hresult (description (-1)) (by simp [hwrites])
  have heq := description_inj hn
  omega

theorem sendsWhatItChecked_within_a_minute
    : SendsWhatItChecked .lamp .utc (fun now => now.floor % 86400) 36060
        { text := some ['1', '0', ':', '0', '1', ':', '0', '0'] } 36000 36001 36002 0 :=
  (sendsWhatItChecked_iff DateFormatter.utc_tellsTime rfl (by decide) (by decide +kernel) 36000 36001
    36002 0).mpr (by decide +kernel)

end Countdown

end SmartGarden

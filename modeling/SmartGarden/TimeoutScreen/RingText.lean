import SmartGarden.Swift.Decimal
import SmartGarden.Swift.Rounding
import SmartGarden.TimeoutScreen.Progress

/-!
This module contains the text on the ring of a timeout screen: which durations `TimeInterval.time` shows
as a time, and which durations reach it in a run of presses and firings.
-/

open Swift

namespace SmartGarden

/--
Two or more digits, and nothing else, that denote `n`.
-/
def IsField (field : Str) (n : Nat) : Prop :=
  2 ≤ field.length ∧ decimalNat? field = some n

/--
The text has the form `H:M:S` and tells the whole seconds of `timeLeft`, or zero after the deadline.
-/
def ShowsRemaining (text : Str) (timeLeft : Rat) : Prop :=
  ∃ hours minutes seconds h m s, text = hours ++ ':' :: minutes ++ ':' :: seconds
    ∧ IsField hours h
    ∧ IsField minutes m
    ∧ IsField seconds s
    ∧ m ≤ 59
    ∧ s ≤ 59
    ∧ ((3600 * h + 60 * m + s : Nat) : Int) = (max timeLeft 0).floor

def clock (n : Int) : Str :=
  format02d (n / 3600) ++ ':' :: format02d (n / 60 % 60) ++ ':' :: format02d (n % 60)

section

variable {timeInterval : Rat} (h : 0 ≤ timeInterval)

include h

theorem truncated_hours : truncated (timeInterval / 3600) = timeInterval.floor / 3600 := by
  rw [truncated_of_nonneg (div_nonneg h (by norm_num))]
  exact floor_div timeInterval 3600

theorem truncated_minutes
    : truncated (truncatingRemainder (timeInterval / 60) 60) = timeInterval.floor / 60 % 60 := by
  have hremainder := truncated_truncatingRemainder (div_nonneg h (by norm_num : (0 : Rat) ≤ 60)) 60
  have hfloor : (timeInterval / 60).floor = timeInterval.floor / 60 := floor_div timeInterval 60
  rw [hfloor] at hremainder
  exact hremainder

theorem truncated_seconds
    : truncated (truncatingRemainder timeInterval 60) = timeInterval.floor % 60 :=
  truncated_truncatingRemainder h 60

theorem time_of_nonneg : time timeInterval = clock timeInterval.floor := by
  unfold time clock
  rw [truncated_hours h, truncated_minutes h, truncated_seconds h]

theorem time_neg
    : time (-timeInterval)
        =
      format02d (-(timeInterval.floor / 3600))
        ++ ':' :: format02d (-(timeInterval.floor / 60 % 60))
        ++ ':' :: format02d (-(timeInterval.floor % 60)) := by
  unfold time
  rw [neg_div, neg_div, truncatingRemainder_neg, truncatingRemainder_neg]
  rw [truncated_neg, truncated_neg, truncated_neg]
  rw [truncated_hours h, truncated_minutes h, truncated_seconds h]

end

theorem time_of_just_late {timeInterval : Rat} (hlo : -1 < timeInterval) (hhi : timeInterval < 0)
    : time timeInterval = clock 0 := by
  have hhours : truncated (timeInterval / 3600) = 0 := by
    apply truncated_eq_zero <;> linarith
  have hsixty : truncated (timeInterval / 60) = 0 := by
    apply truncated_eq_zero <;> linarith
  have hminutes : truncatingRemainder (timeInterval / 60) 60 = timeInterval / 60 := by
    apply truncatingRemainder_eq_self (n := 60)
    apply truncated_eq_zero
    . push_cast
      linarith
    . push_cast
      linarith
  have hseconds : truncatingRemainder timeInterval 60 = timeInterval :=
    truncatingRemainder_eq_self (n := 60) hsixty
  unfold time clock
  rw [hhours, hminutes, hsixty, hseconds, truncated_eq_zero hlo (by linarith)]
  rfl

theorem time_eq {timeInterval : Rat} (h : -1 < timeInterval)
    : time timeInterval = clock (max timeInterval 0).floor := by
  by_cases hnonneg : 0 ≤ timeInterval
  . rw [time_of_nonneg hnonneg, max_eq_left hnonneg]
  . have hneg := not_le.mp hnonneg
    rw [time_of_just_late h hneg, max_eq_right (le_of_lt hneg)]
    rfl

theorem isField_format02d {n : Nat} (h : n < 2 ^ 31) : IsField (format02d n) n :=
  ⟨(length_format02d n).1, decimalNat?_format02d h⟩

theorem showsRemaining_time {timeInterval : Rat} (hlo : -1 < timeInterval)
    (hhi : timeInterval < 3600 * 2 ^ 31) : ShowsRemaining (time timeInterval) timeInterval := by
  rw [time_eq hlo]
  unfold ShowsRemaining
  have hfloor : 0 ≤ (max timeInterval 0).floor :=
    Rat.le_floor_iff.mpr (by simp)
  have hbound : (max timeInterval 0).floor < 3600 * 2 ^ 31 := by
    apply Rat.floor_lt_iff.mpr
    apply max_lt
    . exact_mod_cast hhi
    . norm_num
  generalize (max timeInterval 0).floor = n at hfloor hbound
  obtain ⟨seconds, rfl⟩ := Int.eq_ofNat_of_zero_le hfloor
  refine ⟨_, _, _, seconds / 3600, seconds / 60 % 60, seconds % 60, rfl, ?_, ?_, ?_, ?_, ?_, ?_⟩
  . exact isField_format02d (n := seconds / 3600) (by omega)
  . exact isField_format02d (n := seconds / 60 % 60) (by omega)
  . exact isField_format02d (n := seconds % 60) (by omega)
  . omega
  . omega
  . omega

theorem minus_not_mem_field {field : Str} {n : Nat} (h : IsField field n) : '-' ∉ field := by
  intro hminus
  have hdigit := isDigit_of_decimalNat? h.2 '-' hminus
  contradiction

theorem minus_not_mem {text : Str} {timeLeft : Rat} (h : ShowsRemaining text timeLeft)
    : '-' ∉ text := by
  obtain ⟨hours, minutes, seconds, _, _, _, rfl, hhours, hminutes, hseconds, _⟩ := h
  simp [minus_not_mem_field hhours, minus_not_mem_field hminutes, minus_not_mem_field hseconds]

theorem minus_mem_format02d {n : Int} (hlo : -2 ^ 31 < n) (hhi : n < 0) : '-' ∈ format02d n := by
  have hbmod : n.bmod 4294967296 = n := by
    apply Int.bmod_eq_of_le
    . omega
    . omega
  unfold format02d
  dsimp
  rw [hbmod]
  simp [hhi]

theorem minus_mem_time {timeInterval : Rat} (hlo : -(3600 * 2 ^ 31) < timeInterval)
    (hhi : timeInterval ≤ -1) : '-' ∈ time timeInterval := by
  have hlate : 1 ≤ -timeInterval := by linarith
  have htime := time_neg (le_trans zero_le_one hlate)
  rw [neg_neg] at htime
  have hfloor : 1 ≤ (-timeInterval).floor := Rat.le_floor_iff.mpr (by simpa using hlate)
  have hbound : (-timeInterval).floor < 3600 * 2 ^ 31 := by
    apply Rat.floor_lt_iff.mpr
    push_cast
    linarith
  rw [htime]
  generalize (-timeInterval).floor = n at hfloor hbound
  by_cases hhours : 0 < n / 3600
  . have hminus := minus_mem_format02d (n := -(n / 3600)) (by omega) (by omega)
    simp [hminus]
  . by_cases hminutes : 0 < n / 60 % 60
    . have hminus := minus_mem_format02d (n := -(n / 60 % 60)) (by omega) (by omega)
      simp [hminus]
    . have hminus := minus_mem_format02d (n := -(n % 60)) (by omega) (by omega)
      simp [hminus]

/--
Within the range of `%02d`, `TimeInterval.time` shows a time exactly for the durations above minus one.
-/
theorem showsRemaining_time_iff {timeInterval : Rat} (hlo : -(3600 * 2 ^ 31) < timeInterval)
    (hhi : timeInterval < 3600 * 2 ^ 31)
    : ShowsRemaining (time timeInterval) timeInterval ↔ -1 < timeInterval := by
  constructor
  . intro h
    by_contra hlate
    exact minus_not_mem h (minus_mem_time hlo (not_lt.mp hlate))
  . intro h
    exact showsRemaining_time h hhi

namespace Countdown

variable {screen : TimeoutScreen} {dateFormatter : DateFormatter}

def TextShowsRemaining (s : Countdown) (a : Action) : Prop :=
  match a with
  | .fire _ now => ShowsRemaining (s.fire now).vc.string (s.fire now).vc.timeLeft
  | _ => True

/--
A firing comes less than a second after the deadline.
-/
def InTime (s : Countdown) (a : Action) : Prop :=
  match a with
  | .fire _ now =>
    if 0 < s.vc.timeLeft then ∀ endTime ∈ s.vc.endTime, now < endTime + 1 else -1 < s.vc.timeLeft
  | _ => True

instance (s : Countdown) (a : Action) : Decidable (InTime s a) :=
  match a with
  | .fire _ now =>
    inferInstanceAs (Decidable
      (if 0 < s.vc.timeLeft then ∀ endTime ∈ s.vc.endTime, now < endTime + 1 else -1 < s.vc.timeLeft))
  | .edit _ => inferInstanceAs (Decidable True)
  | .press _ _ _ => inferInstanceAs (Decidable True)

structure WithinDay (s : Countdown) : Prop where
  timeLeft : s.vc.timeLeft < 86400
  endTime : ∀ endTime ∈ s.vc.endTime, endTime - s.now < 86400

theorem textShowsRemaining_of_inTime {s : Countdown} (hticking : s.Ticking) (h : s.WithinDay)
    {a : Action} (he : (machine screen dateFormatter).enabled s a) (hin : InTime s a)
    : TextShowsRemaining s a := by
  cases a with
  | fire k now =>
    have hday : (86400 : Rat) ≤ 3600 * 2 ^ 31 := by norm_num
    dsimp only [InTime] at hin
    dsimp only [TextShowsRemaining]
    split at hin
    . next hleft =>
      obtain ⟨endTime, hend, _⟩ := hticking hleft
      rw [fire_eq_of_timeLeft hleft hend]
      have hdeadline := hin endTime hend
      have hlater := lt_of_le_of_lt (sub_le_sub_left he.2 endTime) (h.endTime endTime hend)
      exact showsRemaining_time (by linarith) (lt_of_lt_of_le hlater hday)
    . next hleft =>
      rw [fire_eq_of_expired hleft]
      exact showsRemaining_time hin (lt_of_lt_of_le h.timeLeft hday)
  | _ => trivial

section

variable {day : Rat} {timeOfDay : Rat → Int} (htime : dateFormatter.TellsTime day timeOfDay)

include htime

theorem withinDay_press {s : Countdown} (h : s.WithinDay) {now later last : Rat}
    (he : (machine screen dateFormatter).enabled s (.press now later last))
    : (s.press screen dateFormatter now later last).WithinDay := by
  obtain ⟨⟨vc, effects⟩, hpress⟩ := Option.isSome_iff_exists.mp he.2.2.2
  obtain ⟨_, hend, _⟩ := TimeoutViewController.touchUpInsideConfigButton_frame hpress
  have hleft : vc.timeLeft < 86400 := by
    cases TimeoutViewController.touchUpInsideConfigButton_timeLeft hpress with
    | inl hold =>
      rw [hold]
      exact h.timeLeft
    | inr hnew =>
      obtain ⟨text, hnew⟩ := hnew
      rw [hnew]
      exact TimeoutViewController.getTimeLeft_lt htime text later
  unfold press
  rw [hpress]
  refine ⟨hleft, ?_⟩
  intro endTime hendTime
  rw [Option.mem_def, hend] at hendTime
  rw [← Option.some.inj hendTime, add_sub_cancel_left]
  exact hleft

theorem withinDay_next {s : Countdown} (hticking : s.Ticking) (h : s.WithinDay) {a : Action}
    (he : (machine screen dateFormatter).enabled s a)
    : ((machine screen dateFormatter).next s a).WithinDay := by
  cases a with
  | edit text => exact ⟨h.timeLeft, h.endTime⟩
  | press now later last => exact withinDay_press htime h he
  | fire k now =>
    have hlater : ∀ endTime ∈ s.vc.endTime, endTime - now < 86400 := by
      intro endTime hendTime
      exact lt_of_le_of_lt (sub_le_sub_left he.2 endTime) (h.endTime endTime hendTime)
    show (s.fire now).WithinDay
    by_cases hleft : 0 < s.vc.timeLeft
    . obtain ⟨endTime, hend, _⟩ := hticking hleft
      have hfire := fire_eq_of_timeLeft hleft hend now
      constructor
      . rw [hfire]
        exact hlater endTime hend
      . rw [hfire, fire_now]
        exact hlater
    . have hfire := fire_eq_of_expired hleft now
      constructor
      . rw [hfire]
        exact h.timeLeft
      . rw [hfire, fire_now]
        exact hlater

end

/--
In a run in which every firing comes less than a second after the deadline, every text that `updateTime`
puts on the ring tells the time that remains.
-/
theorem text_shows_remaining {day : Rat} {timeOfDay : Rat → Int}
    (htime : dateFormatter.TellsTime day timeOfDay) {now : Rat} {as : List Action}
    (hv : (machine screen dateFormatter).Valid { now := now } as)
    (hin : (machine screen dateFormatter).Steps InTime { now := now } as)
    : (machine screen dateFormatter).Steps TextShowsRemaining { now := now } as := by
  have hstart : Ticking { now := now } ∧ WithinDay { now := now } := by
    refine ⟨?_, ?_, ?_⟩
    . intro hleft
      exact absurd hleft (lt_irrefl 0)
    . show (0 : Rat) < 86400
      norm_num
    . intro endTime hendTime
      contradiction
  apply Machine.steps_of_steps (P := fun s => s.Ticking ∧ s.WithinDay) _ hstart hv hin
  intro s a h he hin
  exact ⟨textShowsRemaining_of_inTime h.1 h.2 he hin, ticking_next h.1 he,
    withinDay_next htime h.1 h.2 he⟩

theorem negative_seconds_shown
    : ¬ ∀ (screen : TimeoutScreen) (dateFormatter : DateFormatter) (day : Rat) (timeOfDay : Rat → Int),
        dateFormatter.TellsTime day timeOfDay
          →
        ∀ (now : Rat) (as : List Action),
          (machine screen dateFormatter).Valid { now := now } as
            →
          (machine screen dateFormatter).Steps TextShowsRemaining { now := now } as := by
  intro h
  have hsteps := h fanScreen .utc 0 _ DateFormatter.utc_tellsTime 0
    [.edit ['1', '0', ':', '0', '1', ':', '0', '0'], .press 36000 36000 36000, .fire 0 36062]
    (by decide +kernel)
  exact absurd (minus_not_mem hsteps.2.2.1) (by decide +kernel)

theorem text_shows_remaining_to_the_end
    : (machine lampScreen .utc).Steps TextShowsRemaining { now := 0 }
        [.edit ['1', '0', ':', '0', '1', ':', '0', '0'], .press 36000 36000 36000, .fire 0 36001,
          .press 36010 36010 36010, .fire 1 (360605 / 10), .fire 0 36070, .fire 0 36071] :=
  text_shows_remaining DateFormatter.utc_tellsTime (by decide +kernel) (by decide +kernel)

end Countdown

end SmartGarden

import Mathlib.Tactic.NormNum
import Mathlib.Tactic.Ring
import SmartGarden.TimeoutScreen.Impl

/-!
This module contains the specification of the timeout handlers: when a press traps, and what it leaves.
-/

open Swift

namespace SmartGarden

namespace DateFormatter

def twoDigits (n : Nat) : Str :=
  [Nat.digitChar (n / 10), Nat.digitChar (n % 10)]

def twoDigits? (tens ones : Char) : Option Nat :=
  if tens.isDigit && ones.isDigit then
    some (decimalDigit tens * 10 + decimalDigit ones)
  else
    none

theorem twoDigits?_digitChar {n : Nat} (h : n < 60)
    : twoDigits? (Nat.digitChar (n / 10)) (Nat.digitChar (n % 10)) = some n := by
  have hall : ∀ n : Fin 60,
      twoDigits? (Nat.digitChar (n / 10)) (Nat.digitChar (n % 10)) = some n.val := by decide
  exact hall ⟨n, h⟩

def utcString (now : Rat) : Str :=
  let seconds := (now.floor % 86400).toNat
  twoDigits (seconds / 3600) ++ ':' :: twoDigits (seconds / 60 % 60) ++ ':' :: twoDigits (seconds % 60)

def utcDate (text : Str) : Option Rat :=
  match text with
  | [h, h', ':', m, m', ':', s, s'] => do
    let hours ← twoDigits? h h'
    let minutes ← twoDigits? m m'
    let seconds ← twoDigits? s s'
    if hours < 24 ∧ minutes < 60 ∧ seconds < 60 then
      return ((hours * 3600 + minutes * 60 + seconds : Nat) : Rat)
    else
      none
  | _ => none

theorem utcDate_clock {h m s : Nat} (hh : h < 24) (hm : m < 60) (hs : s < 60)
    : utcDate (twoDigits h ++ ':' :: twoDigits m ++ ':' :: twoDigits s)
        =
      some ((h * 3600 + m * 60 + s : Nat) : Rat) := by
  have hh' : h < 60 := by omega
  simp [twoDigits, utcDate, twoDigits?_digitChar hh', twoDigits?_digitChar hm,
    twoDigits?_digitChar hs, hh, hm, hs]

theorem utcDate_utcString (now : Rat)
    : utcDate (utcString now) = some (((now.floor % 86400).toNat : Nat) : Rat) := by
  unfold utcString
  dsimp
  rw [utcDate_clock (by omega) (by omega) (by omega)]
  congr 2
  omega

def utc : DateFormatter where
  string := utcString
  date := utcDate
  date_string := by
    intro now
    rw [utcDate_utcString]
    rfl

/--
The format `HH:mm:ss` drops the day and the fractions of a second: every text is a whole second of one
day, and the text of a reading is its time of day.
-/
structure TellsTime (dateFormatter : DateFormatter) (day : Rat) (timeOfDay : Rat → Int) : Prop where
  string : ∀ now, dateFormatter.date (dateFormatter.string now) = some (day + timeOfDay now)
  date : ∀ text, ∀ date ∈ dateFormatter.date text,
    ∃ second : Int, 0 ≤ second ∧ second < 86400 ∧ date = day + second

theorem utc_tellsTime : utc.TellsTime 0 fun now => now.floor % 86400 where
  string := by
    intro now
    have hnonneg : 0 ≤ now.floor % 86400 := Int.emod_nonneg _ (by decide)
    have hcast : (((now.floor % 86400).toNat : Nat) : Int) = now.floor % 86400 :=
      Int.toNat_of_nonneg hnonneg
    show utcDate (utcString now) = _
    rw [utcDate_utcString, ← hcast, Rat.zero_add]
    rfl
  date := by
    intro text date hdate
    have hsome : utcDate text = some date := hdate
    unfold utcDate at hsome
    split at hsome
    . obtain ⟨hours, _, hsome⟩ := Option.bind_eq_some_iff.mp hsome
      obtain ⟨minutes, _, hsome⟩ := Option.bind_eq_some_iff.mp hsome
      obtain ⟨seconds, _, hsome⟩ := Option.bind_eq_some_iff.mp hsome
      split at hsome
      . next hclock =>
        refine ⟨((hours * 3600 + minutes * 60 + seconds : Nat) : Int), by omega, by omega, ?_⟩
        rw [← Option.some.inj hsome, Rat.zero_add]
        rfl
      . contradiction
    . contradiction

end DateFormatter

namespace TimeoutViewController

variable {screen : TimeoutScreen} {dateFormatter : DateFormatter}

theorem compareTime_isSome (vc : TimeoutViewController) (inputTime : Str) (now later : Rat)
    : (vc.compareTime screen dateFormatter inputTime now later).isSome
        ↔
      (dateFormatter.date inputTime).isSome := by
  obtain ⟨currentTime, hcurrent⟩ := Option.isSome_iff_exists.mp (dateFormatter.date_string now)
  unfold compareTime
  rw [hcurrent]
  cases dateFormatter.date inputTime with
  | none => simp
  | some inputTimeDate =>
    by_cases h : inputTimeDate < currentTime
    . simp [h]
    . simp [h]

def Unreadable (dateFormatter : DateFormatter) (vc : TimeoutViewController) : Prop :=
  ∃ text ∈ vc.text, text ≠ [] ∧ dateFormatter.date text = none

instance (vc : TimeoutViewController) : Decidable (vc.Unreadable dateFormatter) :=
  inferInstanceAs (Decidable (∃ text ∈ vc.text, text ≠ [] ∧ dateFormatter.date text = none))

theorem configure_isSome (vc : TimeoutViewController) (now later : Rat)
    : (vc.configure screen dateFormatter now later).isSome ↔ ¬ vc.Unreadable dateFormatter := by
  unfold configure
  split
  . next c cs htext =>
    rw [compareTime_isSome]
    constructor
    . rintro hsome ⟨text, htext', _, hnone⟩
      rw [htext, Option.mem_some] at htext'
      rw [htext', hnone] at hsome
      contradiction
    . intro h
      rw [← Option.ne_none_iff_isSome]
      intro hnone
      exact h ⟨c :: cs, htext, by simp, hnone⟩
  . next hempty =>
    refine iff_of_true rfl ?_
    rintro ⟨text, htext, hne, _⟩
    obtain ⟨c, cs, rfl⟩ := List.exists_cons_of_ne_nil hne
    exact hempty c cs htext

theorem touchUpInsideConfigButton_isSome (vc : TimeoutViewController) (now later last : Rat)
    (timer : Nat)
    : (vc.touchUpInsideConfigButton screen dateFormatter now later last timer).isSome
        ↔
      ¬ vc.Unreadable dateFormatter := by
  apply Iff.trans ?_ (@configure_isSome screen dateFormatter vc now later)
  unfold touchUpInsideConfigButton
  cases vc.configure screen dateFormatter now later <;> simp

theorem touchUpInsideConfigButton_frame {vc vc' : TimeoutViewController} {now later last : Rat}
    {timer : Nat} {effects : List Effect}
    (h : vc.touchUpInsideConfigButton screen dateFormatter now later last timer = some (vc', effects))
    : vc'.initialTime = vc'.timeLeft
        ∧ vc'.endTime = some (last + vc'.timeLeft)
        ∧ vc'.timer = some timer := by
  unfold touchUpInsideConfigButton at h
  cases hconfigure : vc.configure screen dateFormatter now later with
  | none => simp [hconfigure] at h
  | some result =>
    simp only [hconfigure, bind, Option.bind_some, pure, Option.some.injEq, Prod.mk.injEq] at h
    rw [← h.1]
    exact ⟨rfl, rfl, rfl⟩

def Empty (vc : TimeoutViewController) : Prop :=
  vc.text = none ∨ vc.text = some []

/--
The field holds the text of a time that is earlier than the current one.
-/
def TooEarly (dateFormatter : DateFormatter) (vc : TimeoutViewController) (now : Rat) : Prop :=
  ∃ text ∈ vc.text, text ≠ []
    ∧ ∃ input ∈ dateFormatter.date text, ∃ current ∈ dateFormatter.date (dateFormatter.string now),
      input < current

instance (vc : TimeoutViewController) (now : Rat) : Decidable (vc.TooEarly dateFormatter now) :=
  inferInstanceAs (Decidable (∃ text ∈ vc.text, text ≠ []
    ∧ ∃ input ∈ dateFormatter.date text, ∃ current ∈ dateFormatter.date (dateFormatter.string now),
      input < current))

theorem configure_of_empty {vc : TimeoutViewController} (h : vc.Empty) (now later : Rat)
    : vc.configure screen dateFormatter now later = some (vc, screen.handleTextFieldEmpty vc) := by
  unfold configure
  cases h with
  | inl hnone => rw [hnone]
  | inr hnil => rw [hnil]

theorem configure_of_text {vc : TimeoutViewController} {text : Str} (htext : vc.text = some text)
    (hne : text ≠ []) (now later : Rat)
    : vc.configure screen dateFormatter now later
        =
      vc.compareTime screen dateFormatter text now later := by
  obtain ⟨c, cs, rfl⟩ := List.exists_cons_of_ne_nil hne
  unfold configure
  rw [htext]

theorem compareTime_eq {vc : TimeoutViewController} {inputTime : Str} {now later input current : Rat}
    (hinput : dateFormatter.date inputTime = some input)
    (hcurrent : dateFormatter.date (dateFormatter.string now) = some current)
    : vc.compareTime screen dateFormatter inputTime now later
        =
      if input < current then
        some (vc, handleInvalidTimeTextField)
      else
        let timeLeft := getTimeLeft dateFormatter inputTime later
        some ({ vc with timeLeft := timeLeft },
          writeDataTimer screen { vc with timeLeft := timeLeft } (description (truncated timeLeft))) := by
  unfold compareTime
  rw [hinput, hcurrent]
  rfl

theorem configure_of_tooEarly {vc : TimeoutViewController} {now : Rat}
    (h : vc.TooEarly dateFormatter now) (later : Rat)
    : vc.configure screen dateFormatter now later = some (vc, handleInvalidTimeTextField) := by
  obtain ⟨text, htext, hne, input, hinput, current, hcurrent, hlt⟩ := h
  rw [configure_of_text htext hne, compareTime_eq hinput hcurrent]
  simp [hlt]

theorem path_of_mem_writeDataPumpSpeed {vc : TimeoutViewController} {write : Path × Str}
    (h : write ∈ writes vc.writeDataPumpSpeed) : write.1 = .pumpSpeed := by
  unfold writeDataPumpSpeed at h
  split at h
  . rw [List.mem_singleton.mp h]
  . contradiction

theorem trap_mem_writeDataPumpSpeed (vc : TimeoutViewController)
    : .trap ∈ vc.writeDataPumpSpeed ↔ vc.pumpModeSlider.toInt? = none := by
  unfold writeDataPumpSpeed
  cases vc.pumpModeSlider.toInt? <;> simp

theorem trap_mem_handleTextFieldEmpty (device : Device) (vc : TimeoutViewController)
    : .trap ∈ device.screen.handleTextFieldEmpty vc
        ↔
      device = .lamp ∧ vc.pumpModeSlider.toInt? = none := by
  rw [← trap_mem_writeDataPumpSpeed]
  cases device <;> simp [Device.screen, lampScreen, bulbScreen, fanScreen, canopyScreen, handTextFieldEmpty]

theorem trap_mem_writeOther (device : Device) (vc : TimeoutViewController)
    : .trap ∈ device.screen.writeOther vc ↔ device = .lamp ∧ vc.pumpModeSlider.toInt? = none := by
  rw [← trap_mem_writeDataPumpSpeed]
  cases device <;> simp [Device.screen, lampScreen, bulbScreen, fanScreen, canopyScreen]

/--
Of the four screens only the lamp screen issues something and traps then, when it writes a speed that is no
`Int`.
-/
theorem trap_mem_configure {device : Device} {vc vc' : TimeoutViewController} {now later : Rat}
    {effects : List Effect}
    (h : vc.configure device.screen dateFormatter now later = some (vc', effects))
    : .trap ∈ effects
        ↔
      device = .lamp ∧ ¬ vc.TooEarly dateFormatter now ∧ vc.pumpModeSlider.toInt? = none := by
  unfold configure at h
  split at h
  . next c cs htext =>
    obtain ⟨current, hcurrent, h⟩ := Option.bind_eq_some_iff.mp h
    obtain ⟨input, hinput, h⟩ := Option.bind_eq_some_iff.mp h
    split at h
    . next hlt =>
      cases h
      have hearly : vc.TooEarly dateFormatter now :=
        ⟨c :: cs, htext, by simp, input, hinput, current, hcurrent, hlt⟩
      simp [handleInvalidTimeTextField, hearly]
    . next hge =>
      cases h
      have hlate : ¬ vc.TooEarly dateFormatter now := by
        rintro ⟨text, htext', _, input', hinput', current', hcurrent', hlt⟩
        rw [htext, Option.mem_def] at htext'
        cases htext'
        rw [hinput, Option.mem_def] at hinput'
        rw [hcurrent, Option.mem_def] at hcurrent'
        cases hinput'
        cases hcurrent'
        exact hge hlt
      simp [writeDataTimer, trap_mem_writeOther, hlate]
  . next hempty =>
    cases h
    have hlate : ¬ vc.TooEarly dateFormatter now := by
      rintro ⟨text, htext, hne, _⟩
      obtain ⟨c, cs, rfl⟩ := List.exists_cons_of_ne_nil hne
      exact hempty c cs htext
    simp [trap_mem_handleTextFieldEmpty, hlate]

theorem configure_timeLeft {vc vc' : TimeoutViewController} {now later : Rat} {effects : List Effect}
    (h : vc.configure screen dateFormatter now later = some (vc', effects))
    : vc'.timeLeft = vc.timeLeft ∨ ∃ text, vc'.timeLeft = getTimeLeft dateFormatter text later := by
  unfold configure compareTime at h
  split at h
  . next c cs _ =>
    obtain ⟨current, _, h⟩ := Option.bind_eq_some_iff.mp h
    obtain ⟨input, _, h⟩ := Option.bind_eq_some_iff.mp h
    split at h
    . cases h
      exact Or.inl rfl
    . cases h
      exact Or.inr ⟨c :: cs, rfl⟩
  . cases h
    exact Or.inl rfl

theorem touchUpInsideConfigButton_eq {vc vc' : TimeoutViewController} {now later : Rat}
    {effects : List Effect} (h : vc.configure screen dateFormatter now later = some (vc', effects))
    (last : Rat) (timer : Nat)
    : vc.touchUpInsideConfigButton screen dateFormatter now later last timer
        =
      some ({ vc' with
        initialTime := vc'.timeLeft
        endTime := some (last + vc'.timeLeft)
        timer := some timer }, effects) := by
  unfold touchUpInsideConfigButton
  rw [h]
  rfl

theorem getTimeLeft_lt {day : Rat} {timeOfDay : Rat → Int}
    (htime : dateFormatter.TellsTime day timeOfDay) (text : Str) (later : Rat)
    : getTimeLeft dateFormatter text later < 86400 := by
  unfold getTimeLeft
  split
  . next startTime endTime hstart hend =>
    obtain ⟨start, hstart', _, rfl⟩ := htime.date _ _ hstart
    obtain ⟨finish, _, hfinish, rfl⟩ := htime.date _ _ hend
    have hlt : ((finish - start : Int) : Rat) < ((86400 : Int) : Rat) := by
      rw [Rat.intCast_lt_intCast]
      omega
    have heq : day + (finish : Rat) - (day + (start : Rat)) = ((finish - start : Int) : Rat) := by
      rw [Rat.intCast_sub]
      ring
    rw [heq]
    exact hlt
  . norm_num

theorem touchUpInsideConfigButton_timeLeft {vc vc' : TimeoutViewController} {now later last : Rat}
    {timer : Nat} {effects : List Effect}
    (h : vc.touchUpInsideConfigButton screen dateFormatter now later last timer = some (vc', effects))
    : vc'.timeLeft = vc.timeLeft ∨ ∃ text, vc'.timeLeft = getTimeLeft dateFormatter text later := by
  obtain ⟨⟨vc'', effects'⟩, hconfigure, h⟩ := Option.bind_eq_some_iff.mp h
  have htimeLeft := configure_timeLeft hconfigure
  cases h
  exact htimeLeft

end TimeoutViewController

end SmartGarden

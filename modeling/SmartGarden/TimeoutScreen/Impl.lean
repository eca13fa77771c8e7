import SmartGarden.Common.Firebase
import SmartGarden.Swift.Number

/-!
This module contains the handlers of the four timeout screens: lamp, bulb, fan and canopy. Dates and time
intervals are seconds. A handler that traps returns `none`, or ends its effects with a trap if it has issued
some before.
-/

open Swift

namespace SmartGarden

/--
A `DateFormatter` with the format `HH:mm:ss`. It reads what it has written.
-/
structure DateFormatter where
  string : Rat → Str
  date : Str → Option Rat
  date_string : ∀ now, (date (string now)).isSome

structure TimeoutViewController where
  -- `timeoutTextField.text`
  text : Option Str := some []
  -- `pumpModeSlider.value`, which only the lamp screen has
  pumpModeSlider : FloatValue := .finite 1
  timeLeft : Rat := 0
  initialTime : Rat := 0
  endTime : Option Rat := none
  -- The number of the timer that `timer` refers to, `none` for a timer that is not scheduled.
  timer : Option Nat := none
  -- What the progress bar shows.
  progress : Rat := 0
  string : Str := ['0', '0', ':', '0', '0', ':', '0', '0']

structure TimeoutScreen where
  path : Path
  handleTextFieldEmpty : TimeoutViewController → List Effect
  -- What is written after the timeout.
  writeOther : TimeoutViewController → List Effect

/--
`TimeInterval.time`
-/
def time (timeInterval : Rat) : Str :=
  format02d (truncated (timeInterval / 3600))
    ++ ':' :: format02d (truncated (truncatingRemainder (timeInterval / 60) 60))
    ++ ':' :: format02d (truncated (truncatingRemainder timeInterval 60))

namespace TimeoutViewController

def writeDataPumpSpeed (vc : TimeoutViewController) : List Effect :=
  match vc.pumpModeSlider.toInt? with
  | some value => [.setValue .pumpSpeed (description value)]
  | none => [.trap]

def handTextFieldEmpty (_ : TimeoutViewController) : List Effect :=
  [.showAlert "Lỗi" "Thời gian không được để trống"]

def handleInvalidTimeTextField : List Effect :=
  [.showAlert "Lỗi" "Thời gian không hợp lệ"]

def handleReadDataPumpSpeedFailed : List Effect :=
  [.showAlert "Lấy dữ liệu thất bại" "Vui lòng kiểm tra lại đường truyền"]

end TimeoutViewController

def lampScreen : TimeoutScreen where
  path := .timeoutPump
  handleTextFieldEmpty := TimeoutViewController.writeDataPumpSpeed
  writeOther := TimeoutViewController.writeDataPumpSpeed

def bulbScreen : TimeoutScreen where
  path := .timeoutBulb
  handleTextFieldEmpty := TimeoutViewController.handTextFieldEmpty
  writeOther := fun _ => []

def fanScreen : TimeoutScreen where
  path := .timeoutFan
  handleTextFieldEmpty := TimeoutViewController.handTextFieldEmpty
  writeOther := fun _ => []

def canopyScreen : TimeoutScreen where
  path := .timeoutCanopy
  handleTextFieldEmpty := TimeoutViewController.handTextFieldEmpty
  writeOther := fun _ => []

inductive Device where
  | lamp
  | bulb
  | fan
  | canopy
  deriving DecidableEq

def Device.screen : Device → TimeoutScreen
  | .lamp => lampScreen
  | .bulb => bulbScreen
  | .fan => fanScreen
  | .canopy => canopyScreen

namespace TimeoutViewController

variable (screen : TimeoutScreen) (dateFormatter : DateFormatter)

/--
The slider of the lamp screen keeps what `slider` makes of the value that is set, which may be a NaN.
-/
def pumpSpeedFetched (slider : FloatValue → FloatValue) (vc : TimeoutViewController) (result : Result Str)
    : Option (TimeoutViewController × List Effect) :=
  match result with
  | .success data => do
    let value ← Double? data
    return ({ vc with pumpModeSlider := slider value }, [])
  | .failure _ => some (vc, handleReadDataPumpSpeedFailed)

def getTimeLeft (timeTextField : Str) (now : Rat) : Rat :=
  match dateFormatter.date (dateFormatter.string now), dateFormatter.date timeTextField with
  | some startTime, some endTime => endTime - startTime
  | _, _ => 0

def writeDataTimer (vc : TimeoutViewController) (timeLeft : Str) : List Effect :=
  .setValue screen.path timeLeft :: screen.writeOther vc

def compareTime (vc : TimeoutViewController) (inputTime : Str) (now later : Rat)
    : Option (TimeoutViewController × List Effect) := do
  let currentTime ← dateFormatter.date (dateFormatter.string now)
  let inputTimeDate ← dateFormatter.date inputTime
  if inputTimeDate < currentTime then
    return (vc, handleInvalidTimeTextField)
  else
    -- `getTimeLeft` reads the clock again.
    let vc := { vc with timeLeft := getTimeLeft dateFormatter inputTime later }
    return (vc, vc.writeDataTimer screen (description (truncated vc.timeLeft)))

/--
What the configure button does to the text field.
-/
def configure (vc : TimeoutViewController) (now later : Rat)
    : Option (TimeoutViewController × List Effect) :=
  match vc.text with
  | some (c :: cs) => vc.compareTime screen dateFormatter (c :: cs) now later
  | _ => some (vc, screen.handleTextFieldEmpty vc)

/--
The configure button is pressed. The clock is read at most three times, and the timer that is scheduled at
the end has the number `timer`.
-/
def touchUpInsideConfigButton (vc : TimeoutViewController) (now later last : Rat) (timer : Nat)
    : Option (TimeoutViewController × List Effect) := do
  let (vc, effects) ← vc.configure screen dateFormatter now later
  return ({ vc with
    initialTime := vc.timeLeft
    endTime := some (last + vc.timeLeft)
    timer := some timer }, effects)

def updateTime (vc : TimeoutViewController) (now : Rat) : TimeoutViewController × Option Nat :=
  if 0 < vc.timeLeft then
    let timeLeft :=
      match vc.endTime with
      | some endTime => endTime - now
      | none => 0
    ({ vc with
      timeLeft := timeLeft
      progress := timeLeft / vc.initialTime
      string := time timeLeft }, none)
  else
    -- The timer that is referred to is invalidated.
    ({ vc with string := time vc.timeLeft, text := some [] }, vc.timer)

/--
The slider of the lamp screen is moved to `value`.
-/
def valueChangedSlider (vc : TimeoutViewController) (value : Rat) : TimeoutViewController :=
  { vc with pumpModeSlider := .finite (rounded value) }

/--
The date picker shows `date`.
-/
def doneButtonTapped (vc : TimeoutViewController) (date : Rat) : TimeoutViewController :=
  { vc with text := some (dateFormatter.string date) }

end TimeoutViewController

end SmartGarden

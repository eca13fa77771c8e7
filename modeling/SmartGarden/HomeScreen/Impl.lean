import Mathlib.Data.List.DropRight
import SmartGarden.Common.Firebase
import SmartGarden.Swift.Number

/-!
This module contains the handlers of the four chart screens. They differ in the slice of the sensor word
that they show, in the keys they save under and in the look of the chart. What traps returns `none`.
Whether the chart view returns from getting its points is a parameter; the default has it return, as it
does for texts of two characters.
-/

open Swift

namespace SmartGarden

abbrev UserDefaults := String → Option (List Str)

def UserDefaults.set (userDefaults : UserDefaults) (value : List Str) (key : String) : UserDefaults :=
  fun other => if other = key then some value else userDefaults other

structure ChartDataEntry where
  x : Rat
  y : FloatValue
  deriving DecidableEq

structure LineChart where
  entries : List ChartDataEntry
  label : String
  -- The values of the `IndexAxisValueFormatter` of the x-axis.
  values : List Str
  labelCount : Option Nat
  granularity : Rat
  axisMinimum : Rat
  axisMaximum : Rat
  deriving DecidableEq

/--
The label that an `IndexAxisValueFormatter` gives to a point of the axis.
-/
def stringForValue (values : List Str) (value : Rat) : Str :=
  let index := rounded value
  if 0 ≤ index ∧ index < values.length ∧ index = truncated value then
    values.getD index.toNat []
  else
    []

structure ChartScreen where
  slice : Str → Str
  dataKey : String
  timeTitleKey : String
  label : String
  labelCount : Option Nat
  distinct : dataKey ≠ timeTitleKey

def temperatureScreen : ChartScreen where
  slice := fun data => data.take 2
  dataKey := "tempData"
  timeTitleKey := "timeTitle"
  label := "Temperature"
  labelCount := none
  distinct := by decide

def humidityScreen : ChartScreen where
  slice := fun data => (data.drop 2).take 2
  dataKey := "humidityData"
  timeTitleKey := "timeHumidityTitle"
  label := "Humidity"
  labelCount := none
  distinct := by decide

def soilMostureScreen : ChartScreen where
  slice := fun data => (data.drop 4).take 2
  dataKey := "soilMostureData"
  timeTitleKey := "timeSoilMostureTitle"
  label := "Soil Mosture"
  labelCount := some 7
  distinct := by decide

def lightScreen : ChartScreen where
  slice := fun data => (data.drop 6).take 2
  dataKey := "lightData"
  timeTitleKey := "timeLightTitle"
  label := "Light"
  labelCount := some 7
  distinct := by decide

inductive Sensor where
  | temperature
  | humidity
  | soilMosture
  | light
  deriving DecidableEq

def Sensor.screen : Sensor → ChartScreen
  | .temperature => temperatureScreen
  | .humidity => humidityScreen
  | .soilMosture => soilMostureScreen
  | .light => lightScreen

structure ChartViewController where
  data : List Str := []
  timeTitle : List Str := []
  lineChart : Option LineChart := none

namespace ChartViewController

variable (screen : ChartScreen)

def initData (vc : ChartViewController) (userDefaults : UserDefaults) : ChartViewController :=
  let vc :=
    match userDefaults screen.dataKey with
    | some savedData => { vc with data := savedData }
    | none => vc
  match userDefaults screen.timeTitleKey with
  | some savedTime => { vc with timeTitle := savedTime }
  | none => vc

def setData (vc : ChartViewController) (userDefaults : UserDefaults) : UserDefaults :=
  userDefaults.set vc.data screen.dataKey

def setTimeTitle (vc : ChartViewController) (userDefaults : UserDefaults) : UserDefaults :=
  userDefaults.set vc.timeTitle screen.timeTitleKey

def saveData (vc : ChartViewController) (userDefaults : UserDefaults) : UserDefaults :=
  vc.setTimeTitle screen (vc.setData screen userDefaults)

def appendTemperature (vc : ChartViewController) (data title : Str) : ChartViewController :=
  match vc.data.getLast? with
  | none => { vc with data := vc.data ++ [data], timeTitle := vc.timeTitle ++ [title] }
  | some lastTemp =>
    if lastTemp ≠ data then
      { vc with data := vc.data ++ [data], timeTitle := vc.timeTitle ++ [title] }
    else
      vc

def removeFirst (vc : ChartViewController) : ChartViewController :=
  { vc with data := vc.data.tail, timeTitle := vc.timeTitle.tail }

def chartDataEntry (values : List Str) (i : Nat) : Option ChartDataEntry := do
  let value ← values[i]?
  let y ← Double? value
  pure { x := i, y := y }

/--
The view, which shows a chart or none yet, `accepts` points of some heights if the setter `data` returns.
-/
def createLineChart (vc : ChartViewController) (timeTitle values : List Str)
    (accepts : Option LineChart → List FloatValue → Bool := fun _ _ => true)
    : Option ChartViewController := do
  let lineArr ← (List.range timeTitle.length).mapM (chartDataEntry values)
  let lineChart := {
    entries := lineArr
    label := screen.label
    values := timeTitle.rtake 7
    labelCount := screen.labelCount
    granularity := 1
    axisMinimum := -3 / 10
    axisMaximum := vc.data.length - 7 / 10
  }
  if accepts vc.lineChart (lineArr.map ChartDataEntry.y) then
    return { vc with lineChart := some lineChart }
  else
    none

def handleReadDataFailed : List Effect :=
  [.showAlert "Lỗi" "Lấy dữ liệu không thành công"]

def record (vc : ChartViewController) (data time : Str) : ChartViewController :=
  let vc := vc.appendTemperature (screen.slice data) time
  if vc.data.length > 7 ∧ vc.timeTitle.length > 7 then vc.removeFirst else vc

def draw (vc : ChartViewController) (data time : Str)
    (accepts : Option LineChart → List FloatValue → Bool := fun _ _ => true) : Option ChartViewController :=
  let vc := vc.record screen data time
  vc.createLineChart screen vc.timeTitle vc.data accepts

/--
What `initDataFirebase` does for one value event at `DULIEUCAMBIEN`, at the time that `getCurrentDateTime`
tells. The screen is `none` after a trap, and what is saved by then stays.
-/
def dataFetched (vc : ChartViewController) (userDefaults : UserDefaults) (result : Result Str)
    (time : Str) (accepts : Option LineChart → List FloatValue → Bool := fun _ _ => true)
    : Option ChartViewController × UserDefaults × List Effect :=
  match result with
  | .success data =>
    match vc.draw screen data time accepts with
    | some vc => (some vc, vc.saveData screen userDefaults, [.displayIndicator false])
    | none => (none, userDefaults, [.displayIndicator false])
  | .failure _ => (some vc, userDefaults, .displayIndicator false :: handleReadDataFailed)

def viewDidLoad (userDefaults : UserDefaults) : ChartViewController × List Effect :=
  (initData screen {} userDefaults, [.displayIndicator true, .observe .DULIEUCAMBIEN])

end ChartViewController

end SmartGarden

import SmartGarden.Common.Firebase

/-!
This module contains the handlers of `HomeViewController` for the two observers that slice the sensor
frame. None of them can trap.
-/

open Swift

namespace SmartGarden

structure HomeViewController where
  tempC : Str := []
  humidity : Str := []
  soilMoisture : Str := []
  lightIntensity : Str := []
  parameterValues : List Str := [[], [], [], []]
  -- The name of `rainStateImaveView.image`.
  image : String := "weather"
  deriving DecidableEq, Repr

namespace HomeViewController

def handleReadDataFailed : List Effect :=
  [.showAlert "Mất kết nối" ""]

def initDataFirebase : List Effect :=
  [.displayIndicator true, .observe .DULIEUCAMBIEN]

/--
What `initDataFirebase` does for one value event at `DULIEUCAMBIEN`.
-/
def sensorDataFetched (vc : HomeViewController) (result : Result Str)
    : HomeViewController × List Effect :=
  match result with
  | .success data =>
    let tempC := data.take 2
    let humidity := (data.drop 2).take 2
    let soilMoisture := (data.drop 4).take 2
    let lightIntensity := (data.drop 6).take 2
    ({ vc with
      tempC := tempC
      humidity := humidity
      soilMoisture := soilMoisture
      lightIntensity := lightIntensity
      parameterValues :=
        [tempC ++ ['℃'], humidity ++ ['%'], soilMoisture ++ ['%'], lightIntensity ++ ['%']] },
      [.displayIndicator false])
  | .failure _ => (vc, .displayIndicator false :: handleReadDataFailed)

def applyRainState (vc : HomeViewController) (data : Str) : HomeViewController :=
  if data = ['0'] then { vc with image := "sun-cloud" } else { vc with image := "rain" }

def initDataRaintState : List Effect :=
  [.observe .DULIEUCAMBIEN]

/--
What `initDataRaintState` does for one value event at `DULIEUCAMBIEN`.
-/
def rainStateFetched (vc : HomeViewController) (result : Result Str)
    : HomeViewController × List Effect :=
  match result with
  | .success data => (vc.applyRainState (data.drop (data.length - 1)), [.displayIndicator false])
  | .failure _ => (vc, .displayIndicator false :: handleReadDataFailed)

theorem effects_sensorDataFetched (vc : HomeViewController) (value : Value)
    : observes (vc.sensorDataFetched (fetchDataFromFirebase value)).2 = []
        ∧ writes (vc.sensorDataFetched (fetchDataFromFirebase value)).2 = []
        ∧ indicator (vc.sensorDataFetched (fetchDataFromFirebase value)).2 = some false := by
  cases value <;> exact ⟨rfl, rfl, rfl⟩

theorem effects_rainStateFetched (vc : HomeViewController) (value : Value)
    : observes (vc.rainStateFetched (fetchDataFromFirebase value)).2 = []
        ∧ writes (vc.rainStateFetched (fetchDataFromFirebase value)).2 = []
        ∧ indicator (vc.rainStateFetched (fetchDataFromFirebase value)).2 = some false := by
  cases value <;> exact ⟨rfl, rfl, rfl⟩

end HomeViewController

end SmartGarden

import SmartGarden.HomeScreen.Home
import SmartGarden.Lib.Fields

/-!
This module contains the sensor frame as the two observers of `HomeViewController` slice it: four fields
from the front and the rain code from the back.
-/

open Swift

namespace SmartGarden

/--
The widths of temperature, humidity, soil moisture, light intensity and rain code.
-/
def frameWidths : List Nat :=
  [2, 2, 2, 2, 1]

namespace HomeViewController

def fields (vc : HomeViewController) : List Str :=
  [vc.tempC, vc.humidity, vc.soilMoisture, vc.lightIntensity]

/--
The `rainCode` of `initDataRaintState`.
-/
def rainCode (data : Str) : Str :=
  data.drop (data.length - 1)

def Reported (effects : List Effect) : Prop :=
  handleReadDataFailed ⊆ effects

instance (effects : List Effect) : Decidable (Reported effects) :=
  inferInstanceAs (Decidable (handleReadDataFailed ⊆ effects))

/--
The observer of `initDataFirebase` finds the screen `vc` and the one of `initDataRaintState` the screen
`vc'` when `data` is delivered.
-/
structure UsedOnce (vc vc' : HomeViewController) (data : Str) : Prop where
  displayed :
    let result := fetchDataFromFirebase (.string data)
    ¬ Reported ((vc.sensorDataFetched result).2 ++ (vc'.rainStateFetched result).2)
      → (vc'.rainStateFetched result).1 = vc'.applyRainState (rainCode data)
        ∧ Fields.Splits frameWidths ((vc.sensorDataFetched result).1.fields ++ [rainCode data]) data
  rejected :
    let result := fetchDataFromFirebase (.string data)
    (¬ ∃ fields, Fields.Splits frameWidths fields data)
      → (vc.sensorDataFetched result).1.parameterValues = vc.parameterValues
        ∧ (vc'.rainStateFetched result).1.image = vc'.image

theorem fields_sensorDataFetched (vc : HomeViewController) {data : Str} (h : data.length = 9)
    : (vc.sensorDataFetched (.success data)).1.fields ++ [rainCode data]
        =
      frameWidths.splitLengths data := by
  have hrain : rainCode data = (data.drop 8).take 1 := by
    unfold rainCode
    rw [h, List.take_of_length_le]
    rw [List.length_drop]
    omega
  rw [hrain]
  simp [frameWidths, fields, sensorDataFetched]

/--
Each character of a string is used once exactly when the string has nine characters. Every other string is
displayed all the same.
-/
theorem usedOnce_iff (vc vc' : HomeViewController) (data : Str)
    : UsedOnce vc vc' data ↔ data.length = 9 := by
  constructor
  . intro h
    have hdisplayed : ¬ Reported ((vc.sensorDataFetched (.success data)).2
        ++ (vc'.rainStateFetched (.success data)).2) := by
      show ¬ Reported [.displayIndicator false, .displayIndicator false]
      decide
    exact Fields.length_of_splits (h.displayed hdisplayed).2
  . intro h
    constructor
    . intro result _
      refine ⟨rfl, ?_⟩
      dsimp only [result, fetchDataFromFirebase]
      rw [fields_sensorDataFetched vc h]
      exact Fields.splits_splitLengths h
    . intro _ hsplits
      exact absurd ((Fields.exists_splits_iff _ _).mpr h) hsplits

theorem light_digit_used_twice
    : ¬ ∀ (vc vc' : HomeViewController) (data : Str), UsedOnce vc vc' data := by
  intro h
  have hsplits := ((h {} {} ['2', '5', '6', '0', '4', '5', '4', '0']).displayed (by decide)).2
  exact absurd hsplits.flatten (by decide)

end HomeViewController

end SmartGarden

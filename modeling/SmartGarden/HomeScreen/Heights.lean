import Mathlib.Tactic.NormNum
import SmartGarden.HomeScreen.Run
import SmartGarden.Swift.Decimal

/-!
This module contains the chart view, which is vendored, as far as it decides whether a reading is saved: for
which heights of its points the setter `data` returns. The y-axis divides the range of the heights into
intervals, and an interval that is too small has no order of magnitude that fits a `Double`.
-/

open Swift

namespace SmartGarden

def Ordinary : FloatValue → Prop
  | .finite value => value = 0 ∨ (1 / 10 ^ 290 ≤ |value| ∧ |value| ≤ 10 ^ 290)
  | .infinity _ => False
  | .nan => True

instance : DecidablePred Ordinary
  | .finite value => inferInstanceAs (Decidable (value = 0 ∨ (1 / 10 ^ 290 ≤ |value| ∧ |value| ≤ 10 ^ 290)))
  | .infinity _ => inferInstanceAs (Decidable False)
  | .nan => inferInstanceAs (Decidable True)

/--
The y-axis has a finite range for the heights, and one that can be divided.
-/
structure Drawable (heights : List FloatValue) : Prop where
  ordinary : ∀ height ∈ heights, Ordinary height
  finite : ∃ value, .finite value ∈ heights

namespace ChartViewController

variable {screen : ChartScreen}

end ChartViewController

namespace ChartRun

variable {screen : ChartScreen} (view : LineChartView)

/--
The screen keeps the window, and its view can go on from what it shows.
-/
structure Shows (screen : ChartScreen) (s : ChartRun) (w : List (Str × Str)) : Prop where
  keeps : Keeps screen s w
  ordinary : ∀ pair ∈ w, ∀ height ∈ Double? pair.1, Ordinary height
  drawable : ∀ vc ∈ s.vc, ∀ lineChart ∈ vc.lineChart,
    Drawable (lineChart.entries.map ChartDataEntry.y)

end ChartRun

end SmartGarden

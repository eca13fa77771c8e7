import SmartGarden.HomeScreen.Frame
import SmartGarden.HomeScreen.History
import SmartGarden.HomeScreen.Kill
import SmartGarden.HomeScreen.Restart
import SmartGarden.Lib.Machine
import SmartGarden.Lib.Clients
import SmartGarden.Lib.Observed
import SmartGarden.Lib.Window
import SmartGarden.SettingScreen.Automatic
import SmartGarden.SettingScreen.Mode
import SmartGarden.SettingScreen.Thresholds
import SmartGarden.SettingScreen.Words
import SmartGarden.TimeoutScreen.Press
import SmartGarden.TimeoutScreen.Progress
import SmartGarden.TimeoutScreen.RingText
import SmartGarden.TimeoutScreen.Timer
import SmartGarden.App.Modes
import SmartGarden.App.Indicator
import SmartGarden.App.Observers
import SmartGarden.App.Traps
import SmartGarden.ConfigScreen.Converge
import SmartGarden.ConfigScreen.DeviceList
import SmartGarden.ConfigScreen.Phones
import SmartGarden.ConfigScreen.SinglePhone
import SmartGarden.ConfigScreen.PumpSpeed
import SmartGarden.Lib.Edits
import SmartGarden.ProgressHUD.Run
import SmartGarden.App.Shell
import SmartGarden.App.Switched
import SmartGarden.ConfigScreen.Reuse
import SmartGarden.App.ClosedWorld
import SmartGarden.App.Scene
import SmartGarden.App.System
import SmartGarden.TimeoutScreen.Leaks

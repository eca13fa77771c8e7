import SmartGarden.Common.Firebase
import SmartGarden.Swift.Number

/-!
This module contains the handlers of `SettingViewController`. None of them can trap.
-/

open Swift

namespace SmartGarden

inductive ModeSwitch where
  | buttonControlModeSwitch
  | appControlModeSwitch
  | automaticControlModeSwitch
  deriving DecidableEq, Repr

inductive TextField where
  | thresholdAboveTempTextField
  | thresholdBelowTempTextField
  | thresholdAboveSoilMostureTextField
  | thresholdBelowSoilMostureTextField
  | thresholdAboveLightTextField
  | thresholdBelowLightTextField
  deriving DecidableEq, Repr

abbrev Texts := TextField → Option Str

structure SettingViewController where
  isOn : ModeSwitch → Bool := fun _ => false
  workMode : Str := ['1']
  texts : Texts

namespace SettingViewController

def handleReadDateFailed : List Effect :=
  [.showAlert "Lấy dữ liệu thất bại" "Vui lòng kiểm tra lại đường truyền"]

def handleWriteDataFailed : List Effect :=
  [.showAlert "Thông báo" "Chuyển chế độ thất bại"]

def handleInvalidTextField : List Effect :=
  [.showAlert "Lỗi" "Các thông số ngưỡng không hợp lệ"]

def initDataModeFirebase : List Effect :=
  [.displayIndicator true, .observe .CHEDO]

/--
The position of a switch in the array of `handleAssignValueSwitch`.
-/
def index : ModeSwitch → Nat
  | .buttonControlModeSwitch => 0
  | .appControlModeSwitch => 1
  | .automaticControlModeSwitch => 2

def handleAssignValueSwitch (vc : SettingViewController) (workmode : Str) : SettingViewController :=
  { vc with isOn := fun control => ((index control + 1 : Nat) : Int) == (Int? workmode).getD (3 - 1) }

/--
What `initDataModeFirebase` does for one value event at `CHEDO`.
-/
def modeFetched (vc : SettingViewController) (result : Result Str)
    : SettingViewController × List Effect :=
  match result with
  | .success data => ({ vc with workMode := data }.handleAssignValueSwitch data, [.displayIndicator false])
  | .failure _ => (vc, .displayIndicator false :: handleReadDateFailed)

def viewDidLoad (texts : Texts) : SettingViewController × List Effect :=
  ({ texts := texts }, initDataModeFirebase)

def checkTextFieldsEmpty (vc : SettingViewController) : Bool :=
  if vc.isOn .automaticControlModeSwitch then
    let textFields : List TextField :=
      [.thresholdAboveTempTextField,
        .thresholdBelowTempTextField,
        .thresholdAboveSoilMostureTextField,
        .thresholdBelowSoilMostureTextField,
        .thresholdAboveLightTextField,
        .thresholdBelowLightTextField]
    textFields.any fun textField => vc.texts textField == none || vc.texts textField == some []
  else
    false

/--
The word that is written for an upper and a lower threshold. A text that is no number counts as `0`.
-/
def thresholdWord (above below : Str) : Str :=
  format02d ((Int? above).getD 0) ++ format02d ((Int? below).getD 0)

def thresholdWord? (texts : Texts) (above below : TextField) : Option Str :=
  match texts above, texts below with
  | some above, some below => some (thresholdWord above below)
  | _, _ => none

def writeThresholdData (vc : SettingViewController) (path : Path) (above below : TextField)
    : List Effect :=
  match thresholdWord? vc.texts above below with
  | some data => [.setValue path data]
  | none => []

def writeThresholdTempData (vc : SettingViewController) : List Effect :=
  vc.writeThresholdData .thresholdTemp .thresholdAboveTempTextField .thresholdBelowTempTextField

def writeThresholdSoilMostureData (vc : SettingViewController) : List Effect :=
  vc.writeThresholdData .thresholdSoilMosture .thresholdAboveSoilMostureTextField
    .thresholdBelowSoilMostureTextField

def writeThresholdLightData (vc : SettingViewController) : List Effect :=
  vc.writeThresholdData .thresholdLight .thresholdAboveLightTextField .thresholdBelowLightTextField

/--
`switchChanged` does not look at the new position of its sender.
-/
def switchChanged (vc : SettingViewController) (sender : ModeSwitch)
    : SettingViewController × List Effect :=
  match sender with
  | .buttonControlModeSwitch =>
    let isOn := fun control => control == .buttonControlModeSwitch && vc.isOn control
    ({ vc with isOn := isOn }, [.setValue .CHEDO ['1']])
  | .appControlModeSwitch =>
    let isOn := fun control => control == .appControlModeSwitch && vc.isOn control
    ({ vc with isOn := isOn }, [.setValue .CHEDO ['2']])
  | .automaticControlModeSwitch =>
    let isOn := fun control => control == .automaticControlModeSwitch && vc.isOn control
    let vc := { vc with isOn := isOn }
    if !vc.checkTextFieldsEmpty then
      (vc, [.setValue .CHEDO ['3']])
    else
      (vc, handleInvalidTextField ++ initDataModeFirebase)

/--
The completion handler of the write to `CHEDO` that `switchChanged` issues for a sender.
-/
def modeWritten (vc : SettingViewController) (sender : ModeSwitch) (result : Result Bool)
    : List Effect :=
  match sender, result with
  | .automaticControlModeSwitch, .success _ =>
    vc.writeThresholdTempData ++ vc.writeThresholdSoilMostureData ++ vc.writeThresholdLightData
  | _, .success _ => []
  | _, .failure _ => handleWriteDataFailed

def thresholdWritten (result : Result Bool) : List Effect :=
  match result with
  | .success _ => []
  | .failure _ => handleWriteDataFailed

def writeCompleted (vc : SettingViewController) (sender : Option ModeSwitch) (result : Result Bool)
    : List Effect :=
  match sender with
  | some sender => vc.modeWritten sender result
  | none => thresholdWritten result

def flip (vc : SettingViewController) (sender : ModeSwitch) (isOn : Bool)
    : SettingViewController × List Effect :=
  { vc with isOn := fun control => if control = sender then isOn else vc.isOn control }.switchChanged
    sender

def edit (vc : SettingViewController) (textField : TextField) (text : Str) : SettingViewController :=
  { vc with texts := fun other => if other = textField then some text else vc.texts other }

end SettingViewController

end SmartGarden

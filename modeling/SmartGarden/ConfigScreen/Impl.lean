import Mathlib.Algebra.GroupWithZero.Nat
import Mathlib.Data.Fin.VecNotation
import Mathlib.Data.Fintype.Basic
import SmartGarden.Common.Firebase

/-!
This module contains the handlers of `ConfigViewController` and of its cells. A handler that traps
returns `none`.
-/

open Swift

namespace SmartGarden

abbrev Row := Fin 4

-- The numerals of `Row` take this instance.
instance Row.instNeZero : NeZero 4 := ⟨by decide⟩

structure EquipmentCell where
  isOn : Bool
  isEnabled : Bool
  deriving DecidableEq, Repr

structure ConfigViewController where
  engineStates : Str := ['0', '0', '0', '0']
  workMode : Str := ['1']
  cells : Row → EquipmentCell := fun _ => { isOn := false, isEnabled := false }
  deriving DecidableEq

namespace ConfigViewController

def isAppMode (workMode : Str) : Bool :=
  workMode != ['1'] && workMode != ['3']

def cellForItemAt (vc : ConfigViewController) (row : Row) : Option EquipmentCell :=
  if isAppMode vc.workMode then do
    let index ← vc.engineStates.indexFromEnd (row + 1)
    let switchState ← vc.engineStates[index]?
    return { isOn := switchState == '1', isEnabled := true }
  else
    some { isOn := false, isEnabled := false }

/--
`configCollectionView.reloadData()`. The four cells are bound again at once.
-/
def reloadData (vc : ConfigViewController) : Option ConfigViewController := do
  let canopy ← vc.cellForItemAt 0
  let bulb ← vc.cellForItemAt 1
  let fan ← vc.cellForItemAt 2
  let pump ← vc.cellForItemAt 3
  return { vc with cells := ![canopy, bulb, fan, pump] }

def reloadItems (vc : ConfigViewController) (row : Row) : Option ConfigViewController := do
  let cell ← vc.cellForItemAt row
  return { vc with cells := Function.update vc.cells row cell }

def handleReadDataEngineFailed : List Effect :=
  [.showAlert "Lấy dữ liệu thất bại" "Vui lòng kiểm tra lại đường truyền"]

def handleWriteDataFailed : List Effect :=
  [.showAlert "Bật/tắt thiết bị thất bại" ""]

def initDataEngineFirebase : List Effect :=
  [.observe .TINHIEUDONGCO]

/--
What `initDataEngineFirebase` does for one value event at `TINHIEUDONGCO`.
-/
def engineStatesFetched (vc : ConfigViewController) (result : Result Str)
    : Option (ConfigViewController × List Effect) :=
  match result with
  | .success data => do
    let vc ← { vc with engineStates := data }.reloadData
    return (vc, [])
  | .failure _ => some (vc, handleReadDataEngineFailed)

def initDataWorkModeFirebase : List Effect :=
  [.displayIndicator true, .observe .CHEDO]

/--
What `initDataWorkModeFirebase` does for one value event at `CHEDO`.
-/
def workModeFetched (vc : ConfigViewController) (result : Result Str)
    : Option (ConfigViewController × List Effect) :=
  match result with
  | .success data => do
    let effects := if isAppMode data then initDataEngineFirebase else []
    let vc ← { vc with workMode := data }.reloadData
    return (vc, .displayIndicator false :: effects)
  | .failure _ => do
    let vc ← vc.reloadData
    return (vc, .displayIndicator false :: handleReadDataEngineFailed)

def viewDidLoad : ConfigViewController × List Effect :=
  ({}, initDataWorkModeFirebase)

/--
The edit of `engineStates` in `handleSwitchChanged`. The last row replaces the whole front part.
-/
def replaceSwitch (engineStates : Str) (row : Row) (isOn : Bool) (seg : Segmentation := .apart)
    : Option Str :=
  let bit := if isOn then ['1'] else ['0']
  match row with
  | 0 => do
    let lo ← engineStates.indexFromEnd 1
    return engineStates.replaceSubrange lo engineStates.length bit seg
  | 1 => do
    let lo ← engineStates.indexFromEnd 2
    let hi ← engineStates.indexFromEnd 1
    return engineStates.replaceSubrange lo hi bit seg
  | 2 => do
    let lo ← engineStates.indexFromEnd 3
    let hi ← engineStates.indexFromEnd 2
    return engineStates.replaceSubrange lo hi bit seg
  | 3 => do
    let hi ← engineStates.indexFromEnd 3
    return engineStates.replaceSubrange 0 hi bit seg

def handleSwitchChanged (vc : ConfigViewController) (row : Row) (isOn : Bool)
    (seg : Segmentation := .apart) : Option (ConfigViewController × List Effect) := do
  let oldValue := vc.engineStates.head?.getD '0'
  let engineStates ← replaceSwitch vc.engineStates row isOn seg
  let newValue := engineStates.head?.getD '0'
  let effects := if oldValue = '0' ∧ newValue = '1' then [.setValue .pumpSpeed ['1']] else []
  let vc ← { vc with engineStates := engineStates }.reloadItems row
  return (vc, effects)

def pumpSpeedWritten (result : Result Bool) : List Effect :=
  match result with
  | .success _ => []
  | .failure _ => handleWriteDataFailed

def updateFirebaseData (vc : ConfigViewController) : List Effect :=
  [.displayIndicator true, .setValue .TINHIEUDONGCO vc.engineStates]

def firebaseDataUpdated (result : Result Bool) : List Effect :=
  match result with
  | .success _ => [.displayIndicator false]
  | .failure _ => .displayIndicator false :: handleWriteDataFailed

/--
The `switchValueChangedHandler` that `cellForItemAt` installs.
-/
def switchValueChanged (vc : ConfigViewController) (row : Row) (isOn : Bool)
    (seg : Segmentation := .apart) : Option (ConfigViewController × List Effect) := do
  let (vc, effects) ← vc.handleSwitchChanged row isOn seg
  return (vc, effects ++ vc.updateFirebaseData)

end ConfigViewController

end SmartGarden

import SmartGarden.App.Tabs
import SmartGarden.ConfigScreen.Converge
import SmartGarden.HomeScreen.Home

/-!
This module contains any number of phones with all three tabs loaded, the three places of Firebase that the
tabs observe, and the devices that write there. Messages and events are delivered to each phone in any
order that Firebase allows.
-/

open Swift

namespace SmartGarden

structure Household.Phone where
  home : HomeViewController := {}
  setting : SettingViewController
  -- The owners of its observers at `CHEDO`, in the order in which they were registered.
  modeOwners : List Observer

structure Household (ι : Type) where
  phone : ι → Household.Phone
  -- The device lists, with their clients of `TINHIEUDONGCO`.
  lists : Viewers ι
  mode : Clients ι Value
  frame : Clients ι Value

namespace Household

inductive Action (ι : Type) where
  -- The process of phone `p` is killed and launched again.
  | relaunch (p : ι) (texts : TextField → Str)
  | flip (p : ι) (sender : ModeSwitch) (isOn : Bool)
  | edit (p : ι) (textField : TextField) (text : Str)
  | list (a : Viewers.Action ι)
  -- Observer `k` of phone `p` gets its oldest value event at `CHEDO`.
  | modeEvent (p : ι) (k : Nat)
  | frameEvent (p : ι) (k : Nat)
  | mode (a : Clients.Action ι Value)
  | frame (a : Clients.Action ι Value)

def perform (path : Path) (client : Observed Value) (effects : List Effect) : Observed Value :=
  effects.foldl (fun client effect =>
    match effect with
    | .observe other => if other = path then client.observe else client
    | .setValue other data => if other = path then client.write (.string data) else client
    | _ => client) client

/--
The owners of the observers at `DULIEUCAMBIEN`.
-/
def frameOwners : List Observer :=
  [.initDataFirebase, .initDataRaintState]

variable {ι : Type}

def Phone.launch (texts : TextField → Str) : Phone where
  setting := (SettingViewController.viewDidLoad fun textField => some (texts textField)).1
  modeOwners := [.initDataWorkModeFirebase, .initDataModeFirebase]

def launchMode (mode : Value) : Observed Value :=
  perform .CHEDO { stored := mode }
    (ConfigViewController.viewDidLoad.2 ++ SettingViewController.initDataModeFirebase)

def launchFrame (frame : Value) : Observed Value :=
  perform .DULIEUCAMBIEN { stored := frame }
    (HomeViewController.initDataFirebase ++ HomeViewController.initDataRaintState)

/--
The three `viewDidLoad` of every phone.
-/
def start (mode frame : Value) (word : Str) (texts : ι → TextField → Str) : Household ι where
  phone := fun p => Phone.launch (texts p)
  lists := Viewers.start word
  mode := { stored := mode, client := fun _ => launchMode mode }
  frame := { stored := frame, client := fun _ => launchFrame frame }

section

variable [DecidableEq ι]

/--
What the phone has seen and its unanswered writes are kept in memory only.
-/
def relaunch (s : Household ι) (p : ι) (texts : TextField → Str) : Household ι where
  phone := Function.update s.phone p (Phone.launch texts)
  lists := s.lists.update p { vc := ConfigViewController.viewDidLoad.1 } { stored := s.lists.word.stored }
  mode := s.mode.update p (launchMode s.mode.stored)
  frame := s.frame.update p (launchFrame s.frame.stored)

def flip (s : Household ι) (p : ι) (sender : ModeSwitch) (isOn : Bool) : Household ι :=
  let phone := s.phone p
  let (setting, effects) := phone.setting.flip sender isOn
  { s with
    phone := Function.update s.phone p { phone with
      setting := setting
      modeOwners := phone.modeOwners ++ (observes effects).map fun _ => .initDataModeFirebase }
    mode := s.mode.update p (perform .CHEDO (s.mode.client p) effects) }

def edit (s : Household ι) (p : ι) (textField : TextField) (text : Str) : Household ι :=
  let phone := s.phone p
  { s with
    phone := Function.update s.phone p { phone with setting := phone.setting.edit textField text } }

/--
None of the handlers writes or observes at `CHEDO`.
-/
def modeEvent (s : Household ι) (p : ι) (k : Nat) : Household ι :=
  let phone := s.phone p
  let mode := s.mode.update p ((s.mode.client p).take k)
  match (s.mode.client p).event? k, phone.modeOwners[k]? with
  | some value, some .initDataWorkModeFirebase =>
    { s with lists := s.lists.workMode p value, mode := mode }
  | some value, some .initDataModeFirebase =>
    let setting := (phone.setting.modeFetched (fetchDataFromFirebase value)).1
    { s with phone := Function.update s.phone p { phone with setting := setting }, mode := mode }
  | _, _ => s

def frameEvent (s : Household ι) (p : ι) (k : Nat) : Household ι :=
  let phone := s.phone p
  let frame := s.frame.update p ((s.frame.client p).take k)
  match (s.frame.client p).event? k, frameOwners[k]? with
  | some value, some .initDataFirebase =>
    let home := (phone.home.sensorDataFetched (fetchDataFromFirebase value)).1
    { s with phone := Function.update s.phone p { phone with home := home }, frame := frame }
  | some value, some .initDataRaintState =>
    let home := (phone.home.rainStateFetched (fetchDataFromFirebase value)).1
    { s with phone := Function.update s.phone p { phone with home := home }, frame := frame }
  | _, _ => s

def machine : Machine (Household ι) (Action ι) where
  enabled s a :=
    match a with
    | .relaunch _ _ => True
    | .flip p sender isOn => (s.phone p).setting.isOn sender ≠ isOn
    | .edit _ _ _ => True
    -- The device lists learn the mode from `CHEDO`.
    | .list (.workMode _ _) => False
    | .list a => Viewers.machine.enabled s.lists a
    | .modeEvent p k => ((s.mode.client p).event? k).isSome
    | .frameEvent p k => ((s.frame.client p).event? k).isSome
    | .mode a => s.mode.enabled a
    | .frame a => s.frame.enabled a
  next s a :=
    match a with
    | .relaunch p texts => s.relaunch p texts
    | .flip p sender isOn => s.flip p sender isOn
    | .edit p textField text => s.edit p textField text
    | .list a => { s with lists := Viewers.machine.next s.lists a }
    | .modeEvent p k => s.modeEvent p k
    | .frameEvent p k => s.frameEvent p k
    | .mode a => { s with mode := s.mode.next a }
    | .frame a => { s with frame := s.frame.next a }

instance (s : Household ι) (a : Action ι) : Decidable (machine.enabled s a) :=
  match a with
  | .relaunch _ _ => inferInstanceAs (Decidable True)
  | .flip p sender isOn => inferInstanceAs (Decidable ((s.phone p).setting.isOn sender ≠ isOn))
  | .edit _ _ _ => inferInstanceAs (Decidable True)
  | .list (.workMode _ _) => inferInstanceAs (Decidable False)
  | .list (.toggle p row isOn) =>
    inferInstanceAs (Decidable (Viewers.machine.enabled s.lists (.toggle p row isOn)))
  | .list (.event p k) => inferInstanceAs (Decidable (Viewers.machine.enabled s.lists (.event p k)))
  | .list (.receive p) => inferInstanceAs (Decidable (Viewers.machine.enabled s.lists (.receive p)))
  | .list (.listen p) => inferInstanceAs (Decidable (Viewers.machine.enabled s.lists (.listen p)))
  | .list (.put data) => inferInstanceAs (Decidable (Viewers.machine.enabled s.lists (.put data)))
  | .list (.accept p) => inferInstanceAs (Decidable (Viewers.machine.enabled s.lists (.accept p)))
  | .list (.refuse p) => inferInstanceAs (Decidable (Viewers.machine.enabled s.lists (.refuse p)))
  | .modeEvent p k => inferInstanceAs (Decidable (((s.mode.client p).event? k).isSome = true))
  | .frameEvent p k => inferInstanceAs (Decidable (((s.frame.client p).event? k).isSome = true))
  | .mode a => inferInstanceAs (Decidable (s.mode.enabled a))
  | .frame a => inferInstanceAs (Decidable (s.frame.enabled a))

end

end Household

end SmartGarden

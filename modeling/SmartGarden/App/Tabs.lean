import SmartGarden.ConfigScreen.Lemmas
import SmartGarden.HomeScreen.Home
import SmartGarden.Lib.Machine
import SmartGarden.SettingScreen.Lemmas

/-!
This module contains the three tabs of the app, all loaded: what they have registered with Firebase, which
of their writes are unanswered, and the blocking indicator that they share. Every observer may get any
value at any time, and writes are answered in any order.
-/

open Swift

namespace SmartGarden

inductive Screen where
  | home
  | config
  | setting
  deriving DecidableEq

/--
The functions whose completion handlers observe a path.
-/
inductive Observer where
  | initDataFirebase
  | initDataRaintState
  | initDataWorkModeFirebase
  | initDataEngineFirebase
  | initDataModeFirebase
  deriving DecidableEq

def Observer.screen : Observer → Screen
  | .initDataFirebase => .home
  | .initDataRaintState => .home
  | .initDataWorkModeFirebase => .config
  | .initDataEngineFirebase => .config
  | .initDataModeFirebase => .setting

inductive PendingWrite where
  | updateFirebaseData
  | pumpSpeed
  | switchChanged (sender : ModeSwitch)
  | writeThreshold
  deriving DecidableEq

structure Tabs where
  home : HomeViewController
  config : ConfigViewController
  setting : SettingViewController
  observers : List Observer := []
  pending : List PendingWrite := []
  -- What `displayIndicator` has set last.
  isShown : Bool := false

namespace Tabs

inductive Action where
  -- Observer `k` is called.
  | event (k : Nat) (value : Value)
  | toggle (row : Row) (isOn : Bool)
  | flip (sender : ModeSwitch) (isOn : Bool)
  | edit (textField : TextField) (text : Str)
  -- Write `k` is answered.
  | complete (k : Nat) (error : Option String)

def perform (s : Tabs) (observer : Path → Observer) (request : Path → PendingWrite) (effects : List Effect)
    : Tabs :=
  effects.foldl (fun s effect =>
    match effect with
    | .observe path => { s with observers := s.observers ++ [observer path] }
    | .setValue path _ => { s with pending := s.pending ++ [request path] }
    | .displayIndicator isShow => { s with isShown := isShow }
    -- The handlers of the tabs put no trap among their effects.
    | .showAlert _ _ | .trap => s) s

def performHome (s : Tabs) (observer : Observer) (result : HomeViewController × List Effect) : Tabs :=
  -- The home screen issues no writes.
  perform { s with home := result.1 } (fun _ => observer) (fun _ => .writeThreshold) result.2

def performConfig (s : Tabs) (result : ConfigViewController × List Effect) : Tabs :=
  perform { s with config := result.1 }
    (fun path => if path = .CHEDO then .initDataWorkModeFirebase else .initDataEngineFirebase)
    (fun path => if path = .TINHIEUDONGCO then .updateFirebaseData else .pumpSpeed)
    result.2

def performSetting (s : Tabs) (request : PendingWrite) (result : SettingViewController × List Effect)
    : Tabs :=
  perform { s with setting := result.1 } (fun _ => .initDataModeFirebase) (fun _ => request) result.2

/--
`viewDidLoad` of the three tabs.
-/
def start (texts : TextField → Str) : Tabs :=
  let setting := SettingViewController.viewDidLoad fun textField => some (texts textField)
  let s : Tabs := { home := {}, config := {}, setting := setting.1 }
  let s := s.performHome .initDataFirebase ({}, HomeViewController.initDataFirebase)
  let s := s.performHome .initDataRaintState ({}, HomeViewController.initDataRaintState)
  let s := s.performConfig ConfigViewController.viewDidLoad
  s.performSetting .writeThreshold setting

def event (s : Tabs) (k : Nat) (value : Value) : Option Tabs := do
  let result := fetchDataFromFirebase value
  match ← s.observers[k]? with
  | .initDataFirebase =>
    return s.performHome .initDataFirebase (s.home.sensorDataFetched result)
  | .initDataRaintState =>
    return s.performHome .initDataRaintState (s.home.rainStateFetched result)
  | .initDataWorkModeFirebase => return s.performConfig (← s.config.workModeFetched result)
  | .initDataEngineFirebase => return s.performConfig (← s.config.engineStatesFetched result)
  | .initDataModeFirebase => return s.performSetting .writeThreshold (s.setting.modeFetched result)

def complete (s : Tabs) (k : Nat) (error : Option String) : Option Tabs := do
  let result := writeDataToFirebase error
  let request ← s.pending[k]?
  let s := { s with pending := s.pending.eraseIdx k }
  match request with
  | .updateFirebaseData =>
    return s.performConfig (s.config, ConfigViewController.firebaseDataUpdated result)
  | .pumpSpeed => return s.performConfig (s.config, ConfigViewController.pumpSpeedWritten result)
  | .switchChanged sender =>
    return s.performSetting .writeThreshold
      (s.setting, s.setting.writeCompleted (some sender) result)
  | .writeThreshold =>
    return s.performSetting .writeThreshold (s.setting, s.setting.writeCompleted none result)

/--
A step that traps has no result.
-/
def step (s : Tabs) (a : Action) : Option Tabs :=
  match a with
  | .event k value => s.event k value
  | .toggle row isOn =>
    if (s.config.cells row).isEnabled then
      (s.config.switchValueChanged row isOn).map s.performConfig
    else
      none
  | .flip sender isOn =>
    if s.setting.isOn sender ≠ isOn then
      some (s.performSetting (.switchChanged sender) (s.setting.flip sender isOn))
    else
      none
  | .edit textField text => some { s with setting := s.setting.edit textField text }
  | .complete k error => s.complete k error

def machine : Machine Tabs Action where
  enabled s a := (s.step a).isSome
  next s a := (s.step a).getD s

instance (s : Tabs) (a : Action) : Decidable (machine.enabled s a) :=
  inferInstanceAs (Decidable ((s.step a).isSome = true))

theorem next_eq {s s' : Tabs} {a : Action} (h : s.step a = some s') : machine.next s a = s' := by
  dsimp [machine]
  rw [h]
  rfl

theorem perform_eq (s : Tabs) (observer : Path → Observer) (request : Path → PendingWrite)
    (effects : List Effect)
    : s.perform observer request effects
        =
      { s with
        observers := s.observers ++ (observes effects).map observer
        pending := s.pending ++ (writes effects).map fun write => request write.1
        isShown := (indicator effects).getD s.isShown } := by
  induction effects generalizing s with
  | nil => simp [perform, observes, writes, indicator]
  | cons effect effects ih =>
    have hcons : s.perform observer request (effect :: effects)
        = (s.perform observer request [effect]).perform observer request effects := rfl
    rw [hcons, ih]
    have hobserves : observes (effect :: effects) = observes [effect] ++ observes effects := by
      rw [← observes_append]
      rfl
    have hwrites : writes (effect :: effects) = writes [effect] ++ writes effects := by
      rw [← writes_append]
      rfl
    have hindicator : indicator (effect :: effects) = (indicator effects).or (indicator [effect]) := by
      rw [← indicator_append]
      rfl
    rw [hobserves, hwrites, hindicator]
    cases effect with
    | displayIndicator isShow =>
      cases indicator effects <;> simp [perform, observes, writes, indicator, Effect.observe?,
        Effect.write?, Effect.displayIndicator?]
    | _ => simp [perform, observes, writes, indicator, Effect.observe?, Effect.write?,
        Effect.displayIndicator?]

def registered (s : Tabs) (screen : Screen) : Nat :=
  s.observers.countP fun observer => observer.screen = screen

theorem registered_perform {observer : Path → Observer} {owner : Screen}
    (howner : ∀ path, (observer path).screen = owner) (s : Tabs) (request : Path → PendingWrite)
    (effects : List Effect) (screen : Screen)
    : (s.perform observer request effects).registered screen
        =
      s.registered screen + if screen = owner then (observes effects).length else 0 := by
  rw [perform_eq]
  unfold registered
  rw [List.countP_append, List.countP_map]
  have hcomp : (fun other : Observer => decide (other.screen = screen)) ∘ observer
      = fun _ => decide (owner = screen) := by
    funext path
    simp [howner path]
  rw [hcomp]
  by_cases hscreen : screen = owner
  . simp [hscreen]
  . have hscreen' : owner ≠ screen := fun heq => hscreen heq.symm
    simp [hscreen, hscreen']

theorem registered_performHome (s : Tabs) {observer : Observer} (hobserver : observer.screen = .home)
    (result : HomeViewController × List Effect) (screen : Screen)
    : (s.performHome observer result).registered screen
        =
      s.registered screen + if screen = .home then (observes result.2).length else 0 :=
  registered_perform (fun _ => hobserver) _ _ _ _

theorem registered_performConfig (s : Tabs) (result : ConfigViewController × List Effect)
    (screen : Screen)
    : (s.performConfig result).registered screen
        =
      s.registered screen + if screen = .config then (observes result.2).length else 0 := by
  apply registered_perform
  intro path
  split <;> rfl

theorem registered_performSetting (s : Tabs) (request : PendingWrite)
    (result : SettingViewController × List Effect) (screen : Screen)
    : (s.performSetting request result).registered screen
        =
      s.registered screen + if screen = .setting then (observes result.2).length else 0 :=
  registered_perform (fun _ => rfl) _ _ _ _

theorem perform_pending (s : Tabs) (observer : Path → Observer) (request : Path → PendingWrite)
    {effects : List Effect} (h : writes effects = [])
    : (s.perform observer request effects).pending = s.pending := by
  rw [perform_eq, h]
  simp

theorem mem_pending_perform (s : Tabs) (observer : Path → Observer) {request : Path → PendingWrite}
    {effects : List Effect} (h : ∀ write ∈ writes effects, request write.1 ≠ .updateFirebaseData)
    : .updateFirebaseData ∈ (s.perform observer request effects).pending
        ↔
      .updateFirebaseData ∈ s.pending := by
  rw [perform_eq]
  dsimp only
  rw [List.mem_append]
  constructor
  . intro hmem
    cases hmem with
    | inl hold => exact hold
    | inr hnew =>
      obtain ⟨write, hwrite, heq⟩ := List.mem_map.mp hnew
      exact absurd heq (h write hwrite)
  . exact Or.inl

theorem perform_isShown (s : Tabs) (observer : Path → Observer) (request : Path → PendingWrite)
    (effects : List Effect)
    : (s.perform observer request effects).isShown = (indicator effects).getD s.isShown := by
  rw [perform_eq]

theorem event_frame {s s' : Tabs} {k : Nat} {value : Value} (h : s.event k value = some s')
    : ∃ observer, s.observers[k]? = some observer
        ∧ (∀ screen, s'.registered screen = s.registered screen
          + if screen = .config ∧ observer = .initDataWorkModeFirebase
            ∧ ConfigViewController.entersAppMode value = true then 1 else 0)
        ∧ s'.pending = s.pending
        ∧ s'.isShown = if observer = .initDataEngineFirebase then s.isShown else false := by
  obtain ⟨observer, hobserver, h⟩ := Option.bind_eq_some_iff.mp h
  refine ⟨observer, hobserver, ?_⟩
  cases observer with
  | initDataFirebase =>
    cases h
    obtain ⟨hobserves, hwrites, hindicator⟩ := s.home.effects_sensorDataFetched value
    refine ⟨?_, perform_pending _ _ _ hwrites, ?_⟩
    . intro screen
      rw [registered_performHome _ rfl, hobserves]
      simp
    . unfold performHome
      rw [perform_isShown, hindicator]
      rfl
  | initDataRaintState =>
    cases h
    obtain ⟨hobserves, hwrites, hindicator⟩ := s.home.effects_rainStateFetched value
    refine ⟨?_, perform_pending _ _ _ hwrites, ?_⟩
    . intro screen
      rw [registered_performHome _ rfl, hobserves]
      simp
    . unfold performHome
      rw [perform_isShown, hindicator]
      rfl
  | initDataWorkModeFirebase =>
    obtain ⟨result, hresult, h⟩ := Option.bind_eq_some_iff.mp h
    cases h
    obtain ⟨hobserves, hwrites, hindicator⟩ := ConfigViewController.effects_workModeFetched hresult
    refine ⟨?_, perform_pending _ _ _ hwrites, ?_⟩
    . intro screen
      rw [registered_performConfig, hobserves]
      by_cases hscreen : screen = .config
      . by_cases henters : ConfigViewController.entersAppMode value <;> simp [hscreen, henters]
      . simp [hscreen]
    . unfold performConfig
      rw [perform_isShown, hindicator]
      rfl
  | initDataEngineFirebase =>
    obtain ⟨result, hresult, h⟩ := Option.bind_eq_some_iff.mp h
    cases h
    obtain ⟨hobserves, hwrites, hindicator⟩ := ConfigViewController.effects_engineStatesFetched hresult
    refine ⟨?_, perform_pending _ _ _ hwrites, ?_⟩
    . intro screen
      rw [registered_performConfig, hobserves]
      simp
    . unfold performConfig
      rw [perform_isShown, hindicator]
      rfl
  | initDataModeFirebase =>
    cases h
    obtain ⟨hobserves, hwrites, hindicator⟩ := s.setting.effects_modeFetched value
    refine ⟨?_, perform_pending _ _ _ hwrites, ?_⟩
    . intro screen
      rw [registered_performSetting, hobserves]
      simp
    . unfold performSetting
      rw [perform_isShown, hindicator]
      rfl

theorem toggle_frame {s s' : Tabs} {row : Row} {isOn : Bool} (h : s.step (.toggle row isOn) = some s')
    : (∀ screen, s'.registered screen = s.registered screen) ∧ s'.isShown = true := by
  dsimp only [step] at h
  split at h
  . obtain ⟨result, hresult, rfl⟩ := Option.map_eq_some_iff.mp h
    obtain ⟨hobserves, _, hindicator⟩ := ConfigViewController.effects_switchValueChanged hresult
    refine ⟨?_, ?_⟩
    . intro screen
      rw [registered_performConfig, hobserves]
      simp
    . unfold performConfig
      rw [perform_isShown, hindicator]
      rfl
  . contradiction

theorem flip_frame {s s' : Tabs} {sender : ModeSwitch} {isOn : Bool}
    (h : s.step (.flip sender isOn) = some s')
    : (∀ screen, s'.registered screen = s.registered screen
          + if screen = .setting ∧ s.setting.Rejected sender isOn then 1 else 0)
        ∧ (.updateFirebaseData ∈ s'.pending ↔ .updateFirebaseData ∈ s.pending)
        ∧ s'.isShown = if s.setting.Rejected sender isOn then true else s.isShown := by
  dsimp only [step] at h
  split at h
  . cases h
    obtain ⟨hobserves, hindicator⟩ := s.setting.effects_flip sender isOn
    refine ⟨?_, mem_pending_perform _ _ (by simp), ?_⟩
    . intro screen
      rw [registered_performSetting, hobserves]
      by_cases hscreen : screen = .setting
      . by_cases hrejected : s.setting.Rejected sender isOn <;> simp [hscreen, hrejected]
      . simp [hscreen]
    . unfold performSetting
      rw [perform_isShown, hindicator]
      split <;> rfl
  . contradiction

theorem complete_frame {s s' : Tabs} {k : Nat} {error : Option String}
    (h : s.complete k error = some s')
    : ∃ request, s.pending[k]? = some request
        ∧ (∀ screen, s'.registered screen = s.registered screen)
        ∧ (.updateFirebaseData ∈ s'.pending ↔ .updateFirebaseData ∈ s.pending.eraseIdx k)
        ∧ s'.isShown = if request = .updateFirebaseData then false else s.isShown := by
  obtain ⟨request, hrequest, h⟩ := Option.bind_eq_some_iff.mp h
  have herase : ∀ screen, registered { s with pending := s.pending.eraseIdx k } screen
      = s.registered screen := fun _ => rfl
  refine ⟨request, hrequest, ?_⟩
  cases request with
  | updateFirebaseData =>
    cases h
    obtain ⟨hobserves, hwrites, hindicator⟩ := ConfigViewController.effects_firebaseDataUpdated error
    refine ⟨?_, mem_pending_perform _ _ (by simp [hwrites]), ?_⟩
    . intro screen
      rw [registered_performConfig, herase, hobserves]
      simp
    . unfold performConfig
      rw [perform_isShown, hindicator]
      rfl
  | pumpSpeed =>
    cases h
    obtain ⟨hobserves, hwrites, hindicator⟩ := ConfigViewController.effects_pumpSpeedWritten error
    refine ⟨?_, mem_pending_perform _ _ (by simp [hwrites]), ?_⟩
    . intro screen
      rw [registered_performConfig, herase, hobserves]
      simp
    . unfold performConfig
      rw [perform_isShown, hindicator]
      rfl
  | switchChanged sender =>
    cases h
    obtain ⟨hobserves, hindicator⟩ := s.setting.effects_writeCompleted (some sender) error
    refine ⟨?_, mem_pending_perform _ _ (by simp), ?_⟩
    . intro screen
      rw [registered_performSetting, herase, hobserves]
      simp
    . unfold performSetting
      rw [perform_isShown, hindicator]
      rfl
  | writeThreshold =>
    cases h
    obtain ⟨hobserves, hindicator⟩ := s.setting.effects_writeCompleted none error
    refine ⟨?_, mem_pending_perform _ _ (by simp), ?_⟩
    . intro screen
      rw [registered_performSetting, herase, hobserves]
      simp
    . unfold performSetting
      rw [perform_isShown, hindicator]
      rfl

end Tabs

end SmartGarden

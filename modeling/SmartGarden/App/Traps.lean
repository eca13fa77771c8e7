import SmartGarden.ConfigScreen.Lemmas
import SmartGarden.HomeScreen.Run
import SmartGarden.TimeoutScreen.Lemmas

/-!
This module contains the screens whose handlers can trap: the device list, the four timeout screens and the
four chart screens. After a trap there is no app left.
-/

open Swift

namespace SmartGarden

structure App where
  config : ConfigViewController
  timeouts : Device → TimeoutViewController
  charts : Sensor → ChartViewController
  userDefaults : UserDefaults

namespace App

inductive Action where
  | workMode (value : Value)
  | engineStates (value : Value)
  | toggle (row : Row) (isOn : Bool)
  | pumpSpeed (value : Value)
  | edit (device : Device) (text : Str)
  | press (device : Device) (now later last : Rat) (timer : Nat)
  | sensorData (sensor : Sensor) (value : Value) (time : Str)
  | openChart (sensor : Sensor)

variable (seg : Segmentation) (dateFormatter : DateFormatter) (slider : FloatValue → FloatValue)

def start : App where
  config := ConfigViewController.viewDidLoad.1
  timeouts := fun _ => {}
  charts := fun sensor => (ChartViewController.viewDidLoad sensor.screen fun _ => none).1
  userDefaults := fun _ => none

def setTimeout (app : App) (device : Device) (vc : TimeoutViewController) : App :=
  { app with timeouts := fun other => if other = device then vc else app.timeouts other }

def setChart (app : App) (sensor : Sensor) (vc : ChartViewController) : App :=
  { app with charts := fun other => if other = sensor then vc else app.charts other }

def pumpSpeed (app : App) (value : Value) : Option App := do
  let (vc, _) ← (app.timeouts .lamp).pumpSpeedFetched slider (fetchDataFromFirebase value)
  return app.setTimeout .lamp vc

def press (app : App) (device : Device) (now later last : Rat) (timer : Nat) : Option App := do
  let (vc, effects) ← (app.timeouts device).touchUpInsideConfigButton device.screen dateFormatter now later
    last timer
  if .trap ∈ effects then none else return app.setTimeout device vc

def sensorData (app : App) (sensor : Sensor) (value : Value) (time : Str) : Option App :=
  let (vc, userDefaults, _) :=
    (app.charts sensor).dataFetched sensor.screen app.userDefaults (fetchDataFromFirebase value) time
  vc.map fun vc => { app.setChart sensor vc with userDefaults := userDefaults }

def step (app : App) (a : Action) : Option App :=
  match a with
  | .workMode value =>
    (app.config.workModeFetched (fetchDataFromFirebase value)).map fun result =>
      { app with config := result.1 }
  | .engineStates value =>
    (app.config.engineStatesFetched (fetchDataFromFirebase value)).map fun result =>
      { app with config := result.1 }
  | .toggle row isOn =>
    (app.config.switchValueChanged row isOn seg).map fun result => { app with config := result.1 }
  | .pumpSpeed value => app.pumpSpeed slider value
  | .edit device text => some (app.setTimeout device { app.timeouts device with text := some text })
  | .press device now later last timer => app.press dateFormatter device now later last timer
  | .sensorData sensor value time => app.sensorData sensor value time
  | .openChart sensor =>
    some (app.setChart sensor (ChartViewController.viewDidLoad sensor.screen app.userDefaults).1)

def Enabled (app : App) (a : Action) : Prop :=
  match a with
  | .toggle row _ => (app.config.cells row).isEnabled = true
  | _ => True

def machine : Machine (Option App) Action where
  enabled app? a :=
    match app? with
    | some app => app.Enabled a
    | none => False
  next app? a := app?.bind fun app => app.step seg dateFormatter slider a

/--
What a step delivers, edits or reads has the format that the handler needs.
-/
def Safe (app : App) (a : Action) : Prop :=
  match a with
  | .workMode (.string data) =>
    data = ['1'] ∨ data = ['3'] ∨ 4 ≤ app.config.engineStates.length
  -- The list is reloaded for a value of another type, too.
  | .workMode .other =>
    app.config.workMode = ['1'] ∨ app.config.workMode = ['3'] ∨ 4 ≤ app.config.engineStates.length
  | .engineStates (.string data) =>
    app.config.workMode = ['1'] ∨ app.config.workMode = ['3'] ∨ 4 ≤ data.length
  | .toggle row isOn => Room seg app.config.engineStates row isOn
  | .pumpSpeed (.string data) => Parses data
  | .press device now _ _ _ =>
    ¬ (app.timeouts device).Unreadable dateFormatter
      ∧ (device = .lamp → ¬ (app.timeouts device).TooEarly dateFormatter now
        → (app.timeouts device).pumpModeSlider.toInt?.isSome)
  | .sensorData sensor (.string data) _ => Parses (sensor.screen.slice data)
  | _ => True

instance (app : App) (a : Action) : Decidable (app.Enabled a) :=
  match a with
  | .toggle row _ => inferInstanceAs (Decidable ((app.config.cells row).isEnabled = true))
  | .workMode _ | .engineStates _ | .pumpSpeed _ | .edit _ _ | .press _ _ _ _ _ | .sensorData _ _ _
  | .openChart _ => inferInstanceAs (Decidable True)

instance (app? : Option App) (a : Action)
    : Decidable ((machine seg dateFormatter slider).enabled app? a) :=
  match app? with
  | some app => inferInstanceAs (Decidable (app.Enabled a))
  | none => inferInstanceAs (Decidable False)

instance (app : App) (a : Action) : Decidable (app.Safe seg dateFormatter a) :=
  match a with
  | .workMode (.string data) =>
    inferInstanceAs (Decidable (data = ['1'] ∨ data = ['3'] ∨ 4 ≤ app.config.engineStates.length))
  | .workMode .other =>
    inferInstanceAs (Decidable (app.config.workMode = ['1'] ∨ app.config.workMode = ['3']
      ∨ 4 ≤ app.config.engineStates.length))
  | .engineStates (.string data) =>
    inferInstanceAs (Decidable (app.config.workMode = ['1'] ∨ app.config.workMode = ['3']
      ∨ 4 ≤ data.length))
  | .toggle row isOn => inferInstanceAs (Decidable (Room seg app.config.engineStates row isOn))
  | .pumpSpeed (.string data) => inferInstanceAs (Decidable (Parses data))
  | .press device now _ _ _ =>
    inferInstanceAs (Decidable (¬ (app.timeouts device).Unreadable dateFormatter
      ∧ (device = .lamp → ¬ (app.timeouts device).TooEarly dateFormatter now
        → (app.timeouts device).pumpModeSlider.toInt?.isSome)))
  | .sensorData sensor (.string data) _ => inferInstanceAs (Decidable (Parses (sensor.screen.slice data)))
  | .engineStates .other | .pumpSpeed .other | .sensorData _ .other _ | .edit _ _ | .openChart _ =>
    inferInstanceAs (Decidable True)

def SafeStep (app? : Option App) (a : Action) : Prop :=
  ∀ app ∈ app?, app.Safe seg dateFormatter a

instance (app? : Option App) (a : Action) : Decidable (SafeStep seg dateFormatter app? a) :=
  inferInstanceAs (Decidable (∀ app ∈ app?, app.Safe seg dateFormatter a))

def chartRun (app : App) (sensor : Sensor) : ChartRun where
  userDefaults := app.userDefaults
  vc := some (app.charts sensor)

structure Sound (app : App) : Prop where
  enabled : ∀ row, (app.config.cells row).isEnabled = true
    → ConfigViewController.isAppMode app.config.workMode
  charts : ∀ sensor, ∃ w, ChartRun.Keeps sensor.screen (app.chartRun sensor) w

theorem isAppMode_imp_iff (workMode : Str) (p : Prop)
    : (ConfigViewController.isAppMode workMode → p) ↔ workMode = ['1'] ∨ workMode = ['3'] ∨ p := by
  unfold ConfigViewController.isAppMode
  by_cases hbutton : workMode = ['1']
  . simp [hbutton]
  . by_cases hautomatic : workMode = ['3']
    . simp [hautomatic]
    . simp [hbutton, hautomatic]

theorem sound_start : start.Sound where
  enabled := by
    intro row h
    contradiction
  charts := by
    intro sensor
    exact ⟨[], ChartRun.keeps_empty⟩

theorem sound_of_reloaded {app : App} (h : app.Sound) (config : ConfigViewController)
    : Sound { app with config := config.reloaded } where
  enabled := by
    intro row hrow
    exact (config.isEnabled_shownCell row).symm.trans hrow
  charts := h.charts

theorem sound_setTimeout {app : App} (h : app.Sound) (device : Device) (vc : TimeoutViewController)
    : (app.setTimeout device vc).Sound :=
  ⟨h.enabled, h.charts⟩

def Handles (app : App) (a : Action) : Prop :=
  ((app.step seg dateFormatter slider a).isSome ↔ app.Safe seg dateFormatter a)
    ∧
  ∀ app' ∈ app.step seg dateFormatter slider a, app'.Sound

variable {seg dateFormatter slider}

theorem handles_of_eq_some {app next : App} {a : Action}
    (hstep : app.step seg dateFormatter slider a = some next) (hsafe : app.Safe seg dateFormatter a)
    (hsound : next.Sound) : app.Handles seg dateFormatter slider a := by
  refine ⟨iff_of_true (Option.isSome_of_eq_some hstep) hsafe, ?_⟩
  intro app' happ'
  rw [hstep] at happ'
  rw [← Option.some.inj happ']
  exact hsound

theorem handles_of_reloaded {app : App} (h : app.Sound) {a : Action} {config : ConfigViewController}
    {result? : Option (ConfigViewController × List Effect)} {effects : List Effect}
    (hstep : app.step seg dateFormatter slider a
      = result?.map fun result => { app with config := result.1 })
    (hsome : result?.isSome ↔ config.Indexable)
    (heq : config.Indexable → result? = some (config.reloaded, effects))
    (hsafe : config.Indexable ↔ app.Safe seg dateFormatter a)
    : app.Handles seg dateFormatter slider a := by
  refine ⟨?_, ?_⟩
  . rw [hstep, Option.isSome_map, hsome]
    exact hsafe
  . intro app' happ'
    rw [hstep] at happ'
    obtain ⟨result, hresult, rfl⟩ := Option.map_eq_some_iff.mp happ'
    have hindexable := hsome.mp (Option.isSome_of_eq_some hresult)
    rw [heq hindexable] at hresult
    rw [← Option.some.inj hresult]
    exact sound_of_reloaded h config

theorem handles_workMode {app : App} (h : app.Sound) (value : Value)
    : app.Handles seg dateFormatter slider (.workMode value) := by
  cases value with
  | string data =>
    apply handles_of_reloaded h
    . rfl
    . apply ConfigViewController.workModeFetched_isSome
    . apply ConfigViewController.workModeFetched_eq
    . apply isAppMode_imp_iff
  | other =>
    apply handles_of_reloaded h
    . rfl
    . apply ConfigViewController.workModeFetched_failure_isSome
    . apply ConfigViewController.workModeFetched_failure_eq
    . apply isAppMode_imp_iff

theorem handles_engineStates {app : App} (h : app.Sound) (value : Value)
    : app.Handles seg dateFormatter slider (.engineStates value) := by
  cases value with
  | string data =>
    apply handles_of_reloaded h
    . rfl
    . apply ConfigViewController.engineStatesFetched_isSome
    . apply ConfigViewController.engineStatesFetched_eq
    . apply isAppMode_imp_iff
  | other => exact handles_of_eq_some rfl trivial h

theorem handles_toggle {app : App} (h : app.Sound) (row : Row) (isOn : Bool)
    (he : app.Enabled (.toggle row isOn)) : app.Handles seg dateFormatter slider (.toggle row isOn) := by
  have hmode := h.enabled row he
  refine ⟨?_, ?_⟩
  . dsimp only [step]
    rw [Option.isSome_map]
    exact ConfigViewController.switchValueChanged_isSome seg hmode row isOn
  . intro app' happ'
    obtain ⟨result, hresult, rfl⟩ := Option.map_eq_some_iff.mp happ'
    refine ⟨?_, h.charts⟩
    intro _ _
    dsimp only
    rw [ConfigViewController.switchValueChanged_workMode hresult]
    exact hmode

theorem handles_pumpSpeed {app : App} (h : app.Sound) (value : Value)
    : app.Handles seg dateFormatter slider (.pumpSpeed value) := by
  cases value with
  | string data =>
    refine ⟨?_, ?_⟩
    . dsimp [step, pumpSpeed, fetchDataFromFirebase, TimeoutViewController.pumpSpeedFetched, Safe, Parses]
      cases Double? data <;> simp
    . intro app' happ'
      dsimp [step, pumpSpeed, fetchDataFromFirebase, TimeoutViewController.pumpSpeedFetched] at happ'
      obtain ⟨value, _, hvalue⟩ := Option.bind_eq_some_iff.mp happ'
      rw [← Option.some.inj hvalue]
      apply sound_setTimeout h
  | other => exact handles_of_eq_some rfl trivial (sound_setTimeout h _ _)

theorem handles_press {app : App} (h : app.Sound) (device : Device) (now later last : Rat) (timer : Nat)
    : app.Handles seg dateFormatter slider (.press device now later last timer) := by
  refine ⟨?_, ?_⟩
  . dsimp only [step, press, Safe]
    rw [← @TimeoutViewController.configure_isSome device.screen dateFormatter (app.timeouts device) now later]
    cases hconfigure : (app.timeouts device).configure device.screen dateFormatter now later with
    | none => simp [TimeoutViewController.touchUpInsideConfigButton, hconfigure]
    | some result =>
      obtain ⟨vc, effects⟩ := result
      have htrap := TimeoutViewController.trap_mem_configure hconfigure
      rw [TimeoutViewController.touchUpInsideConfigButton_eq hconfigure]
      dsimp only [bind, Option.bind_some]
      rw [Option.isSome_iff_ne_none (o := (app.timeouts device).pumpModeSlider.toInt?)]
      by_cases hmem : .trap ∈ effects
      . rw [if_pos hmem]
        obtain ⟨hlamp, hlate, hnone⟩ := htrap.mp hmem
        refine iff_of_false (by simp) ?_
        rintro ⟨_, hsome⟩
        exact hsome hlamp hlate hnone
      . rw [if_neg hmem]
        refine iff_of_true rfl ⟨rfl, ?_⟩
        intro hlamp hlate hnone
        exact hmem (htrap.mpr ⟨hlamp, hlate, hnone⟩)
  . intro app' happ'
    obtain ⟨result, _, hresult⟩ := Option.bind_eq_some_iff.mp happ'
    dsimp only at hresult
    split at hresult
    . contradiction
    . rw [← Option.some.inj hresult]
      apply sound_setTimeout h

theorem keys_distinct {sensor other : Sensor} (h : other ≠ sensor)
    : other.screen.dataKey ≠ sensor.screen.dataKey
        ∧ other.screen.dataKey ≠ sensor.screen.timeTitleKey
        ∧ other.screen.timeTitleKey ≠ sensor.screen.dataKey
        ∧ other.screen.timeTitleKey ≠ sensor.screen.timeTitleKey := by
  cases sensor <;> cases other <;> first | contradiction | decide

theorem sound_setChart {app : App} (h : app.Sound) (sensor : Sensor) {vc : ChartViewController}
    {userDefaults : UserDefaults} {w : List (Str × Str)}
    (hkeeps : ChartRun.Keeps sensor.screen { userDefaults := userDefaults, vc := some vc } w)
    (hother : ∀ key, key ≠ sensor.screen.dataKey → key ≠ sensor.screen.timeTitleKey
      → userDefaults key = app.userDefaults key)
    : Sound { app.setChart sensor vc with userDefaults := userDefaults } where
  enabled := h.enabled
  charts := by
    intro other
    by_cases heq : other = sensor
    . rw [heq]
      refine ⟨w, ?_⟩
      simpa [chartRun, setChart] using hkeeps
    . obtain ⟨w', hkeeps'⟩ := h.charts other
      obtain ⟨hdata, hdata', htimeTitle, htimeTitle'⟩ := keys_distinct heq
      refine ⟨w', ?_, ?_, hkeeps'.length, hkeeps'.parses, ?_⟩
      . unfold ChartRun.saved chartRun
        dsimp only
        rw [hother _ hdata hdata']
        exact hkeeps'.data
      . unfold ChartRun.saved chartRun
        dsimp only
        rw [hother _ htimeTitle htimeTitle']
        exact hkeeps'.timeTitle
      . simpa [chartRun, setChart, heq] using hkeeps'.holds

theorem sensorData_eq (app : App) (sensor : Sensor) (value : Value) (time : Str)
    : app.sensorData sensor value time
        =
      ((app.chartRun sensor).deliver sensor.screen value time).vc.map fun vc =>
        { app.setChart sensor vc with
          userDefaults := ((app.chartRun sensor).deliver sensor.screen value time).userDefaults } := by
  rfl

theorem handles_sensorData {app : App} (h : app.Sound) (sensor : Sensor) (value : Value) (time : Str)
    : app.Handles seg dateFormatter slider (.sensorData sensor value time) := by
  obtain ⟨w, hkeeps⟩ := h.charts sensor
  have halive : (app.chartRun sensor).vc.isSome := rfl
  refine ⟨?_, ?_⟩
  . dsimp only [step]
    rw [sensorData_eq, Option.isSome_map]
    cases value with
    | string data =>
      by_cases hdata : Parses (sensor.screen.slice data)
      . obtain ⟨vc, _, heq, _⟩ := ChartRun.deliver_of_parses hkeeps halive hdata time
        rw [heq]
        exact iff_of_true rfl hdata
      . rw [ChartRun.deliver_of_not_parses hkeeps halive hdata]
        exact iff_of_false (by simp) hdata
    | other =>
      rw [ChartRun.deliver_of_failure halive]
      exact iff_of_true halive trivial
  . intro app' happ'
    dsimp only [step] at happ'
    rw [sensorData_eq] at happ'
    obtain ⟨vc, hvc, rfl⟩ := Option.map_eq_some_iff.mp happ'
    have hnext := ChartRun.keeps_next (a := .deliver value time) hkeeps halive
    dsimp [ChartRun.machine] at hnext
    apply sound_setChart h sensor
    . rw [← hvc]
      exact hnext
    . intro key hdata htimeTitle
      exact ChartRun.deliver_userDefaults_other _ value time hdata htimeTitle

theorem handles {app : App} (h : app.Sound) {a : Action} (he : app.Enabled a)
    : app.Handles seg dateFormatter slider a := by
  cases a with
  | workMode value => apply handles_workMode h
  | engineStates value => apply handles_engineStates h
  | toggle row isOn => exact handles_toggle h row isOn he
  | pumpSpeed value => apply handles_pumpSpeed h
  | press device now later last timer => apply handles_press h
  | sensorData sensor value time => apply handles_sensorData h
  | edit device text => exact handles_of_eq_some rfl trivial (sound_setTimeout h _ _)
  | openChart sensor =>
    obtain ⟨w, hkeeps⟩ := h.charts sensor
    have hsound := sound_setChart h sensor (ChartRun.keeps_reopen hkeeps) (fun _ _ _ => rfl)
    exact handles_of_eq_some rfl trivial hsound

/--
No handler traps in a run exactly when every string that it delivers, every word that it edits and every
text and slider that it reads has the format that the handler needs.
-/
theorem neverTraps_iff {as : List Action} (hv : (machine seg dateFormatter slider).Valid (some start) as)
    : (machine seg dateFormatter slider).Along (fun app? => app?.isSome) (some start) as
        ↔
      (machine seg dateFormatter slider).Steps (SafeStep seg dateFormatter) (some start) as := by
  apply Machine.along_iff_steps (P := fun app? => ∀ app ∈ app?, app.Sound)
  . intro app? a h he
    cases app? with
    | none => contradiction
    | some app => exact (handles (h app rfl) he).2
  . intro app? a h _ he
    cases app? with
    | none => contradiction
    | some app =>
      have hhandles : ((machine seg dateFormatter slider).next (some app) a).isSome
          ↔ app.Safe seg dateFormatter a := (handles (h app rfl) he).1
      rw [hhandles]
      simp [SafeStep]
  . intro app happ
    rw [← Option.some.inj happ]
    exact sound_start
  . rfl
  . exact hv

/--
`UISlider.value` of a slider from 1 to 3.
-/
def clamped : FloatValue → FloatValue
  | .finite value => .finite (max 1 (min 3 value))
  | .infinity negative => .finite (if negative then 1 else 3)
  | .nan => .nan

theorem short_word_traps
    : ¬ ∀ as : List Action, (machine .apart .utc clamped).Valid (some start) as
          →
        ((machine .apart .utc clamped).run (some start) as).isSome := by
  intro h
  exact absurd (h [.workMode (.string ['2']), .engineStates (.string ['1'])] (by decide)) (by decide)

theorem neverTraps_of_formatted_strings
    : (machine .acute .utc clamped).Along (fun app? => app?.isSome) (some start)
        [.workMode (.string ['2']), .engineStates (.string ['1', '0', '1', '0']), .toggle 3 false,
          .pumpSpeed (.string ['2']), .edit .lamp ['1', '0', ':', '0', '1', ':', '0', '0'],
          .press .lamp 36000 36000 36000 0, .sensorData .light (.string ['2', '0', '5', '5', '6', '0', '7', '0'])
            ['a'], .openChart .light, .workMode (.string ['3']), .engineStates (.string [])] :=
  (neverTraps_iff (by decide +kernel)).mpr (by decide +kernel)

end App

end SmartGarden

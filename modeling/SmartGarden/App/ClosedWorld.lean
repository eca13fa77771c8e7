import SmartGarden.App.Traps
import SmartGarden.Lib.Board

/-!
This module contains any number of phones and devices that read each other's strings from Firebase. What
the device lists and the timeout screens write is what these and the chart screens can read, so that none of
them traps. The settings screens write elsewhere, where every string will do.
-/

open Swift

namespace SmartGarden

namespace App

variable (seg : Segmentation) (dateFormatter : DateFormatter) (slider : FloatValue → FloatValue)

def effects (app : App) (a : Action) : List Effect :=
  match a with
  | .workMode value => (app.config.workModeFetched (fetchDataFromFirebase value)).elim [] Prod.snd
  | .engineStates value => (app.config.engineStatesFetched (fetchDataFromFirebase value)).elim [] Prod.snd
  | .toggle row isOn => (app.config.switchValueChanged row isOn seg).elim [] Prod.snd
  | .pumpSpeed value =>
    ((app.timeouts .lamp).pumpSpeedFetched slider (fetchDataFromFirebase value)).elim [] Prod.snd
  | .edit _ _ => []
  | .press device now later last timer =>
    ((app.timeouts device).touchUpInsideConfigButton device.screen dateFormatter now later last
      timer).elim [] Prod.snd
  | .sensorData sensor value time =>
    ((app.charts sensor).dataFetched sensor.screen app.userDefaults (fetchDataFromFirebase value) time).2.2
  | .openChart sensor => (ChartViewController.viewDidLoad sensor.screen app.userDefaults).2

end App

namespace ClosedWorld

inductive Action where
  | app (a : App.Action)
  | valueChangedSlider (value : Rat)
  | doneButtonTapped (device : Device) (date : Rat)
  | updateTime (device : Device) (now : Rat)

def reads (a : Action) : List (Path × Str) :=
  match a with
  | .app (.workMode (.string data)) => [(.CHEDO, data)]
  | .app (.engineStates (.string data)) => [(.TINHIEUDONGCO, data)]
  | .app (.pumpSpeed (.string data)) => [(.pumpSpeed, data)]
  | .app (.sensorData _ (.string data) _) => [(.DULIEUCAMBIEN, data)]
  | _ => []

def enabled (app : App) (a : Action) : Prop :=
  match a with
  -- The field has no keyboard but the date picker.
  | .app (.edit _ _) => False
  | .app a => app.Enabled a
  | .valueChangedSlider value => 1 ≤ value ∧ value ≤ 3
  | .doneButtonTapped _ _ => True
  | .updateTime _ _ => True

variable (seg : Segmentation) (dateFormatter : DateFormatter) (slider : FloatValue → FloatValue)

def step (app : App) (a : Action) : Option App :=
  match a with
  | .app a => app.step seg dateFormatter slider a
  | .valueChangedSlider value =>
    some (app.setTimeout .lamp ((app.timeouts .lamp).valueChangedSlider value))
  | .doneButtonTapped device date =>
    some (app.setTimeout device ((app.timeouts device).doneButtonTapped dateFormatter date))
  | .updateTime device now => some (app.setTimeout device ((app.timeouts device).updateTime now).1)

def written (app : App) (a : Action) : List (Path × Str) :=
  match a with
  | .app a => writes (app.effects seg dateFormatter slider a)
  | _ => []

def phone : Party (Option App) Action (Path × Str) where
  enabled app? a := ∃ app ∈ app?, enabled app a
  next app? a := app?.bind fun app => step seg dateFormatter slider app a
  reads := reads
  writes app? a := app?.elim [] fun app => written seg dateFormatter slider app a

/--
What a device may store, and what a phone relies on.
-/
def Formatted (message : Path × Str) : Prop :=
  match message.1 with
  | .TINHIEUDONGCO => Editable seg message.2
  | .DULIEUCAMBIEN => ∀ sensor : Sensor, Parses (sensor.screen.slice message.2)
  | .pumpSpeed => ∃ value : Rat, Double? message.2 = some (.finite value)
  | _ => True

/--
What a phone writes.
-/
def Written (message : Path × Str) : Prop :=
  match message.1 with
  | .TINHIEUDONGCO => Editable seg message.2
  | .pumpSpeed => message.2 = ['1'] ∨ message.2 = ['2'] ∨ message.2 = ['3']
  | .timeoutPump | .timeoutBulb | .timeoutFan | .timeoutCanopy => ∃ n : Int, message.2 = description n
  | _ => False

def machine (ι : Type) [DecidableEq ι] : Machine (Board ι (Option App) (Path × Str))
    (Board.Action ι Action (Path × Str)) :=
  Board.machine (phone seg dateFormatter slider) (Formatted seg)

def start (ι : Type) : Board ι (Option App) (Path × Str) where
  party := fun _ => some App.start

variable {seg dateFormatter slider}

/--
The field is empty or holds what the date picker has put there.
-/
structure Ready (dateFormatter : DateFormatter) (vc : TimeoutViewController) : Prop where
  text : vc.text = some [] ∨ ∃ date, vc.text = some (dateFormatter.string date)
  slider : ∃ value, vc.pumpModeSlider = .finite value ∧ 1 ≤ value ∧ value ≤ 3

theorem Ready.of_timeLeft {vc : TimeoutViewController} (h : Ready dateFormatter vc) (timeLeft : Rat)
    : Ready dateFormatter { vc with timeLeft := timeLeft } :=
  ⟨h.text, h.slider⟩

structure Orderly (seg : Segmentation) (dateFormatter : DateFormatter) (app : App) : Prop where
  sound : app.Sound
  engineStates : Editable seg app.config.engineStates
  timeouts : ∀ device, Ready dateFormatter (app.timeouts device)

theorem orderly_start : Orderly seg dateFormatter App.start where
  sound := App.sound_start
  engineStates := ⟨by decide, Segmentation.separates_of_isDigit (by decide)⟩
  timeouts := by
    intro device
    exact ⟨Or.inl rfl, 1, rfl, le_refl 1, by decide⟩

theorem orderly_setTimeout {app : App} (h : Orderly seg dateFormatter app) (device : Device)
    {vc : TimeoutViewController} (hready : Ready dateFormatter vc)
    : Orderly seg dateFormatter (app.setTimeout device vc) where
  sound := App.sound_setTimeout h.sound device vc
  engineStates := h.engineStates
  timeouts := by
    intro other
    unfold App.setTimeout
    dsimp only
    split
    . exact hready
    . apply h.timeouts

theorem not_unreadable {vc : TimeoutViewController} (h : Ready dateFormatter vc)
    : ¬ vc.Unreadable dateFormatter := by
  rintro ⟨text, htext, hne, hnone⟩
  rw [Option.mem_def] at htext
  cases h.text with
  | inl hempty =>
    rw [hempty] at htext
    exact hne (Option.some.inj htext).symm
  | inr hpicked =>
    obtain ⟨date, hdate⟩ := hpicked
    rw [hdate] at htext
    rw [← Option.some.inj htext] at hnone
    have hread := dateFormatter.date_string date
    rw [hnone] at hread
    contradiction

theorem le_floor {value : Rat} (hlo : 1 ≤ value) (hhi : value ≤ 3) : 1 ≤ value.floor ∧ value.floor ≤ 3 := by
  constructor
  . apply Rat.le_floor_iff.mpr
    simpa using hlo
  . have hlt : value.floor < 4 := by
      apply Rat.floor_lt_iff.mpr
      push_cast
      linarith
    omega

theorem toInt?_of_le {value : Rat} (hlo : 1 ≤ value) (hhi : value ≤ 3)
    : (FloatValue.finite value).toInt? = some value.floor := by
  obtain ⟨hle, hge⟩ := le_floor hlo hhi
  unfold FloatValue.toInt?
  dsimp only
  rw [truncated_of_nonneg (by linarith)]
  apply if_pos
  omega

theorem written_pumpSpeed {n : Int} (hlo : 1 ≤ n) (hhi : n ≤ 3)
    : Written seg (.pumpSpeed, description n) := by
  unfold Written
  dsimp only
  have hcases : n = 1 ∨ n = 2 ∨ n = 3 := by omega
  rcases hcases with rfl | rfl | rfl <;> decide

theorem written_timeout (device : Device) (n : Int)
    : Written seg (device.screen.path, description n) := by
  cases device <;> exact ⟨n, rfl⟩

theorem written_writeDataPumpSpeed {vc : TimeoutViewController} (h : Ready dateFormatter vc)
    : ∀ message ∈ writes vc.writeDataPumpSpeed, Written seg message := by
  obtain ⟨value, hvalue, hlo, hhi⟩ := h.slider
  obtain ⟨hle, hge⟩ := le_floor hlo hhi
  unfold TimeoutViewController.writeDataPumpSpeed
  rw [hvalue, toInt?_of_le hlo hhi]
  intro message hmessage
  rw [List.mem_singleton.mp hmessage]
  exact written_pumpSpeed hle hge

theorem writes_handleTextFieldEmpty (device : Device) (vc : TimeoutViewController)
    : writes (device.screen.handleTextFieldEmpty vc) ⊆ writes vc.writeDataPumpSpeed := by
  cases device with
  | lamp => apply List.Subset.refl
  | bulb | fan | canopy => apply List.nil_subset

theorem writes_writeOther (device : Device) (vc : TimeoutViewController)
    : writes (device.screen.writeOther vc) ⊆ writes vc.writeDataPumpSpeed := by
  cases device with
  | lamp => apply List.Subset.refl
  | bulb | fan | canopy => apply List.nil_subset

theorem ready_configure {vc vc' : TimeoutViewController} (h : Ready dateFormatter vc) {device : Device}
    {now later : Rat} {effects : List Effect}
    (hconfigure : vc.configure device.screen dateFormatter now later = some (vc', effects))
    : Ready dateFormatter vc' ∧ ∀ message ∈ writes effects, Written seg message := by
  unfold TimeoutViewController.configure TimeoutViewController.compareTime at hconfigure
  split at hconfigure
  . next c cs _ =>
    obtain ⟨current, _, hconfigure⟩ := Option.bind_eq_some_iff.mp hconfigure
    obtain ⟨input, _, hconfigure⟩ := Option.bind_eq_some_iff.mp hconfigure
    split at hconfigure
    . cases hconfigure
      refine ⟨h, ?_⟩
      intro message hmessage
      contradiction
    . cases hconfigure
      have hready := h.of_timeLeft (TimeoutViewController.getTimeLeft dateFormatter (c :: cs) later)
      refine ⟨hready, ?_⟩
      intro message hmessage
      cases List.mem_cons.mp hmessage with
      | inl htimeout =>
        rw [htimeout]
        apply written_timeout
      | inr hother =>
        exact written_writeDataPumpSpeed hready message (writes_writeOther device _ hother)
  . cases hconfigure
    refine ⟨h, ?_⟩
    intro message hmessage
    exact written_writeDataPumpSpeed h message (writes_handleTextFieldEmpty device vc hmessage)

theorem ready_press {vc vc' : TimeoutViewController} (h : Ready dateFormatter vc) {device : Device}
    {now later last : Rat} {timer : Nat} {effects : List Effect}
    (hpress : vc.touchUpInsideConfigButton device.screen dateFormatter now later last timer
      = some (vc', effects))
    : Ready dateFormatter vc' ∧ ∀ message ∈ writes effects, Written seg message := by
  obtain ⟨⟨vc'', effects'⟩, hconfigure, hpress⟩ := Option.bind_eq_some_iff.mp hpress
  obtain ⟨hready, hwritten⟩ := ready_configure h hconfigure
  cases hpress
  exact ⟨⟨hready.text, hready.slider⟩, hwritten⟩

/--
The step does not trap, and what it leaves and writes is as it should be.
-/
def Proceeds (seg : Segmentation) (dateFormatter : DateFormatter) (slider : FloatValue → FloatValue)
    (app : App) (a : Action) : Prop :=
  ∃ next, step seg dateFormatter slider app a = some next ∧ Orderly seg dateFormatter next
    ∧ ∀ message ∈ written seg dateFormatter slider app a, Written seg message

theorem proceeds_of_safe {app : App} (h : Orderly seg dateFormatter app) {a : App.Action}
    (he : app.Enabled a) (hsafe : app.Safe seg dateFormatter a)
    (hnext : ∀ next ∈ app.step seg dateFormatter slider a,
      Editable seg next.config.engineStates ∧ ∀ device, Ready dateFormatter (next.timeouts device))
    (hwritten : ∀ message ∈ writes (app.effects seg dateFormatter slider a), Written seg message)
    : Proceeds seg dateFormatter slider app (.app a) := by
  obtain ⟨hsome, hsound⟩ := App.handles h.sound he
  obtain ⟨next, hstep⟩ := Option.isSome_iff_exists.mp (hsome.mpr hsafe)
  obtain ⟨hengineStates, htimeouts⟩ := hnext next hstep
  exact ⟨next, hstep, ⟨hsound next hstep, hengineStates, htimeouts⟩, hwritten⟩

theorem written_elim {result? : Option (σ × List Effect)}
    (h : ∀ result ∈ result?, ∀ message ∈ writes result.2, Written seg message)
    : ∀ message ∈ writes (result?.elim [] Prod.snd), Written seg message := by
  cases result? with
  | none =>
    intro message hmessage
    contradiction
  | some result => exact h result rfl

theorem indexable {app : App} (h : Orderly seg dateFormatter app) (workMode : Str)
    : ConfigViewController.Indexable { app.config with workMode := workMode } :=
  fun _ => h.engineStates.1

theorem proceeds_workMode {app : App} (h : Orderly seg dateFormatter app) (value : Value)
    : Proceeds seg dateFormatter slider app (.app (.workMode value)) := by
  apply proceeds_of_safe h
  . trivial
  . cases value with
    | string data | other => exact Or.inr (Or.inr h.engineStates.1)
  . intro next hnext
    obtain ⟨result, hresult, rfl⟩ := Option.map_eq_some_iff.mp hnext
    refine ⟨?_, h.timeouts⟩
    cases value with
    | string data =>
      rw [fetchDataFromFirebase, ConfigViewController.workModeFetched_eq _ _ (indexable h data)] at hresult
      rw [← Option.some.inj hresult]
      exact h.engineStates
    | other =>
      have heq := ConfigViewController.workModeFetched_failure_eq app.config "Invalid data type"
        fun _ => h.engineStates.1
      rw [fetchDataFromFirebase, heq] at hresult
      rw [← Option.some.inj hresult]
      exact h.engineStates
  . apply written_elim
    intro result hresult message hmessage
    rw [(ConfigViewController.effects_workModeFetched hresult).2.1] at hmessage
    contradiction

theorem proceeds_engineStates {app : App} (h : Orderly seg dateFormatter app) {value : Value}
    (hvalue : ∀ data, value = .string data → Editable seg data)
    : Proceeds seg dateFormatter slider app (.app (.engineStates value)) := by
  apply proceeds_of_safe h
  . trivial
  . cases value with
    | string data => exact Or.inr (Or.inr (hvalue data rfl).1)
    | other => trivial
  . intro next hnext
    obtain ⟨result, hresult, rfl⟩ := Option.map_eq_some_iff.mp hnext
    refine ⟨?_, h.timeouts⟩
    cases value with
    | string data =>
      have hindexable : ConfigViewController.Indexable { app.config with engineStates := data } :=
        fun _ => (hvalue data rfl).1
      rw [fetchDataFromFirebase, ConfigViewController.engineStatesFetched_eq _ _ hindexable] at hresult
      rw [← Option.some.inj hresult]
      exact hvalue data rfl
    | other =>
      cases hresult
      exact h.engineStates
  . apply written_elim
    intro result hresult message hmessage
    rw [(ConfigViewController.effects_engineStatesFetched hresult).2.1] at hmessage
    contradiction

theorem written_pumpStarted (vc : ConfigViewController) (row : Row) (isOn : Bool)
    : ∀ message ∈ writes (vc.pumpStarted row isOn), Written seg message := by
  intro message hmessage
  unfold ConfigViewController.pumpStarted at hmessage
  dsimp only at hmessage
  split at hmessage
  . rw [List.mem_singleton.mp hmessage]
    exact Or.inl rfl
  . contradiction

theorem proceeds_toggle {app : App} (h : Orderly seg dateFormatter app) {row : Row} {isOn : Bool}
    (he : app.Enabled (.toggle row isOn))
    : Proceeds seg dateFormatter slider app (.app (.toggle row isOn)) := by
  have hfits := fits_of_separates h.engineStates.2 row isOn
  have heq := ConfigViewController.switchValueChanged_of_fits hfits
  rw [app.config.switchValueChanged_eq row isOn h.engineStates.1] at heq
  have heditable := editable_setEngineState h.engineStates row isOn
  apply proceeds_of_safe h he
  . exact room_of_fits hfits h.engineStates.1
  . intro next hnext
    obtain ⟨result, hresult, rfl⟩ := Option.map_eq_some_iff.mp hnext
    rw [heq] at hresult
    rw [← Option.some.inj hresult]
    exact ⟨heditable, h.timeouts⟩
  . dsimp only [App.effects]
    rw [heq]
    dsimp only [Option.elim]
    rw [writes_append]
    intro message hmessage
    cases List.mem_append.mp hmessage with
    | inl hpump => exact written_pumpStarted app.config row isOn message hpump
    | inr hword =>
      rw [List.mem_singleton.mp hword]
      exact heditable

theorem proceeds_pumpSpeed {value : FloatValue}
    (hvalue : ∃ kept, slider value = .finite kept ∧ 1 ≤ kept ∧ kept ≤ 3)
    {app : App} (h : Orderly seg dateFormatter app) {data : Str} (hdata : Double? data = some value)
    : Proceeds seg dateFormatter slider app (.app (.pumpSpeed (.string data))) := by
  have heq : (app.timeouts .lamp).pumpSpeedFetched slider (.success data)
      = some ({ app.timeouts .lamp with pumpModeSlider := slider value }, []) := by
    unfold TimeoutViewController.pumpSpeedFetched
    dsimp only
    rw [hdata]
    rfl
  have hready : Ready dateFormatter { app.timeouts .lamp with pumpModeSlider := slider value } :=
    ⟨(h.timeouts .lamp).text, hvalue⟩
  refine ⟨_, ?_, orderly_setTimeout h .lamp hready, ?_⟩
  . dsimp only [step, App.step, App.pumpSpeed, fetchDataFromFirebase]
    rw [heq]
    rfl
  . dsimp only [written, App.effects, fetchDataFromFirebase]
    rw [heq]
    intro message hmessage
    contradiction

theorem proceeds_press {app : App} (h : Orderly seg dateFormatter app) (device : Device)
    (now later last : Rat) (timer : Nat)
    : Proceeds seg dateFormatter slider app (.app (.press device now later last timer)) := by
  have hready : ∀ result ∈ (app.timeouts device).touchUpInsideConfigButton device.screen dateFormatter
      now later last timer, Ready dateFormatter result.1 ∧ ∀ message ∈ writes result.2, Written seg message :=
    fun _ hresult => ready_press (h.timeouts device) hresult
  apply proceeds_of_safe h
  . trivial
  . refine ⟨not_unreadable (h.timeouts device), ?_⟩
    intro _ _
    obtain ⟨value, hvalue, hlo, hhi⟩ := (h.timeouts device).slider
    rw [hvalue, toInt?_of_le hlo hhi]
    rfl
  . intro next hnext
    obtain ⟨result, hresult, hnext⟩ := Option.bind_eq_some_iff.mp hnext
    dsimp only at hnext
    split at hnext
    . contradiction
    . rw [← Option.some.inj hnext]
      have horderly := orderly_setTimeout h device (hready result hresult).1
      exact ⟨horderly.engineStates, horderly.timeouts⟩
  . apply written_elim
    intro result hresult
    exact (hready result hresult).2

theorem proceeds_sensorData {app : App} (h : Orderly seg dateFormatter app) (sensor : Sensor)
    {value : Value} (hvalue : ∀ data, value = .string data → Parses (sensor.screen.slice data)) (time : Str)
    : Proceeds seg dateFormatter slider app (.app (.sensorData sensor value time)) := by
  apply proceeds_of_safe h
  . trivial
  . cases value with
    | string data => exact hvalue data rfl
    | other => trivial
  . intro next hnext
    obtain ⟨vc, _, rfl⟩ := Option.map_eq_some_iff.mp hnext
    exact ⟨h.engineStates, h.timeouts⟩
  . intro message hmessage
    unfold App.effects ChartViewController.dataFetched at hmessage
    dsimp only at hmessage
    split at hmessage
    . split at hmessage <;> contradiction
    . contradiction

theorem proceeds_openChart {app : App} (h : Orderly seg dateFormatter app) (sensor : Sensor)
    : Proceeds seg dateFormatter slider app (.app (.openChart sensor)) := by
  apply proceeds_of_safe h
  . trivial
  . trivial
  . intro next hnext
    cases hnext
    exact ⟨h.engineStates, h.timeouts⟩
  . intro message hmessage
    contradiction

theorem proceeds_setTimeout {app : App} (h : Orderly seg dateFormatter app) {a : Action} {device : Device}
    {vc : TimeoutViewController} (hstep : step seg dateFormatter slider app a = some (app.setTimeout device vc))
    (hwritten : written seg dateFormatter slider app a = []) (hready : Ready dateFormatter vc)
    : Proceeds seg dateFormatter slider app a := by
  refine ⟨_, hstep, orderly_setTimeout h device hready, ?_⟩
  rw [hwritten]
  intro message hmessage
  contradiction

theorem rounded_le {value : Rat} (hlo : 1 ≤ value) (hhi : value ≤ 3)
    : (1 : Rat) ≤ rounded value ∧ (rounded value : Rat) ≤ 3 := by
  have hnonneg : 0 ≤ value := by linarith
  unfold rounded
  rw [if_pos hnonneg]
  have hle : 1 ≤ (value + 1 / 2).floor := by
    apply Rat.le_floor_iff.mpr
    push_cast
    linarith
  have hlt : (value + 1 / 2).floor < 4 := by
    apply Rat.floor_lt_iff.mpr
    push_cast
    linarith
  constructor
  . exact_mod_cast hle
  . exact_mod_cast Int.le_of_lt_add_one hlt

theorem ready_updateTime {vc : TimeoutViewController} (h : Ready dateFormatter vc) (now : Rat)
    : Ready dateFormatter (vc.updateTime now).1 := by
  unfold TimeoutViewController.updateTime
  split
  . exact ⟨h.text, h.slider⟩
  . exact ⟨Or.inl rfl, h.slider⟩

theorem proceeds
    (hslider : ∀ value : Rat, ∃ kept, slider (.finite value) = .finite kept ∧ 1 ≤ kept ∧ kept ≤ 3)
    {app : App} (h : Orderly seg dateFormatter app) {a : Action} (he : enabled app a)
    (hreads : ∀ message ∈ reads a, Formatted seg message) : Proceeds seg dateFormatter slider app a := by
  cases a with
  | app a =>
    cases a with
    | workMode value => exact proceeds_workMode h value
    | engineStates value =>
      apply proceeds_engineStates h
      intro data hdata
      subst hdata
      exact hreads _ List.mem_cons_self
    | toggle row isOn => exact proceeds_toggle h he
    | pumpSpeed value =>
      cases value with
      | string data =>
        obtain ⟨value, hvalue⟩ := hreads _ List.mem_cons_self
        exact proceeds_pumpSpeed (hslider value) h hvalue
      | other => exact proceeds_setTimeout h rfl rfl (h.timeouts .lamp)
    | edit device text => contradiction
    | press device now later last timer => exact proceeds_press h device now later last timer
    | sensorData sensor value time =>
      apply proceeds_sensorData h
      intro data hdata
      subst hdata
      exact hreads _ List.mem_cons_self sensor
    | openChart sensor => exact proceeds_openChart h sensor
  | valueChangedSlider value =>
    obtain ⟨hlo, hhi⟩ := rounded_le he.1 he.2
    have hready : Ready dateFormatter ((app.timeouts .lamp).valueChangedSlider value) :=
      ⟨(h.timeouts .lamp).text, _, rfl, hlo, hhi⟩
    exact proceeds_setTimeout h rfl rfl hready
  | doneButtonTapped device date =>
    have hready : Ready dateFormatter ((app.timeouts device).doneButtonTapped dateFormatter date) :=
      ⟨Or.inr ⟨date, rfl⟩, (h.timeouts device).slider⟩
    exact proceeds_setTimeout h rfl rfl hready
  | updateTime device now =>
    exact proceeds_setTimeout h rfl rfl (ready_updateTime (h.timeouts device) now)

theorem formatted_of_written (message : Path × Str) (h : Written seg message) : Formatted seg message := by
  obtain ⟨path, data⟩ := message
  cases path with
  | TINHIEUDONGCO => exact h
  | pumpSpeed =>
    rcases h with hdata | hdata | hdata
    . exact ⟨1, by rw [hdata]; decide +kernel⟩
    . exact ⟨2, by rw [hdata]; decide +kernel⟩
    . exact ⟨3, by rw [hdata]; decide +kernel⟩
  | DULIEUCAMBIEN => contradiction
  | _ => trivial

theorem contract
    (hslider : ∀ value : Rat, ∃ kept, slider (.finite value) = .finite kept ∧ 1 ≤ kept ∧ kept ≤ 3)
    : Board.Contract (phone seg dateFormatter slider) (Formatted seg)
        (fun app? => ∃ app, app? = some app ∧ Orderly seg dateFormatter app) (Formatted seg)
        (Written seg) where
  environment := fun _ h => h
  guarantee := formatted_of_written
  step := by
    rintro app? a ⟨app, rfl, horderly⟩ ⟨app', happ', he⟩ hreads
    cases happ'
    obtain ⟨next, hstep, hnext, hwritten⟩ := proceeds hslider horderly he hreads
    exact ⟨⟨next, hstep, hnext⟩, hwritten⟩

/--
If the devices store words of the expected format, and anything at the places that the settings screens
write, none of these screens ever traps, and what they write has the expected format too.
-/
theorem closed_world_never_traps [DecidableEq ι]
    (hslider : ∀ value : Rat, ∃ kept, slider (.finite value) = .finite kept ∧ 1 ≤ kept ∧ kept ≤ 3)
    {as : List (Board.Action ι Action (Path × Str))}
    (hv : (machine seg dateFormatter slider ι).Valid (start ι) as)
    : (machine seg dateFormatter slider ι).Along (fun s => ∀ p, (s.party p).isSome) (start ι) as
        ∧ (machine seg dateFormatter slider ι).Steps
          (Board.Writes (phone seg dateFormatter slider) (Written seg)) (start ι) as := by
  have hstart : (start ι).Proper (fun app? => ∃ app, app? = some app ∧ Orderly seg dateFormatter app)
      (Formatted seg) := by
    constructor
    . intro _
      exact ⟨App.start, rfl, orderly_start⟩
    . intro message hmessage
      contradiction
  obtain ⟨halong, hsteps⟩ := Board.proper_run (contract hslider) hstart hv
  refine ⟨?_, hsteps⟩
  apply Machine.along_mono _ halong
  intro s hs p
  obtain ⟨app, happ, _⟩ := hs.party p
  exact Option.isSome_of_eq_some happ

instance (app : App) (a : Action) : Decidable (enabled app a) :=
  match a with
  | .app (.edit _ _) => inferInstanceAs (Decidable False)
  | .app (.workMode value) => inferInstanceAs (Decidable (app.Enabled (.workMode value)))
  | .app (.engineStates value) => inferInstanceAs (Decidable (app.Enabled (.engineStates value)))
  | .app (.toggle row isOn) => inferInstanceAs (Decidable (app.Enabled (.toggle row isOn)))
  | .app (.pumpSpeed value) => inferInstanceAs (Decidable (app.Enabled (.pumpSpeed value)))
  | .app (.press device now later last timer) =>
    inferInstanceAs (Decidable (app.Enabled (.press device now later last timer)))
  | .app (.sensorData sensor value time) =>
    inferInstanceAs (Decidable (app.Enabled (.sensorData sensor value time)))
  | .app (.openChart sensor) => inferInstanceAs (Decidable (app.Enabled (.openChart sensor)))
  | .valueChangedSlider value => inferInstanceAs (Decidable (1 ≤ value ∧ value ≤ 3))
  | .doneButtonTapped _ _ | .updateTime _ _ => inferInstanceAs (Decidable True)

instance (app? : Option App) (a : Action) : Decidable ((phone seg dateFormatter slider).enabled app? a) :=
  inferInstanceAs (Decidable (∃ app ∈ app?, enabled app a))

instance (value? : Option FloatValue) : Decidable (∃ value : Rat, value? = some (.finite value)) :=
  match value? with
  | some (.finite value) => .isTrue ⟨value, rfl⟩
  | some (.infinity _) | some .nan | none => .isFalse (by rintro ⟨_, _, _⟩)

instance (p : Sensor → Prop) [DecidablePred p] : Decidable (∀ sensor, p sensor) :=
  decidable_of_iff (p .temperature ∧ p .humidity ∧ p .soilMosture ∧ p .light)
    ⟨fun ⟨htemperature, hhumidity, hsoilMosture, hlight⟩ sensor => by cases sensor <;> assumption,
      fun h => ⟨h _, h _, h _, h _⟩⟩

instance (message : Path × Str) : Decidable (Formatted seg message) :=
  match message with
  | (.TINHIEUDONGCO, data) => inferInstanceAs (Decidable (Editable seg data))
  | (.DULIEUCAMBIEN, data) =>
    inferInstanceAs (Decidable (∀ sensor : Sensor, Parses (sensor.screen.slice data)))
  | (.pumpSpeed, data) => inferInstanceAs (Decidable (∃ value : Rat, Double? data = some (.finite value)))
  | (.CHEDO, _) | (.thresholdTemp, _) | (.thresholdSoilMosture, _) | (.thresholdLight, _)
  | (.timeoutPump, _) | (.timeoutBulb, _) | (.timeoutFan, _) | (.timeoutCanopy, _) =>
    inferInstanceAs (Decidable True)

instance (ι : Type) [DecidableEq ι] (s : Board ι (Option App) (Path × Str))
    (a : Board.Action ι Action (Path × Str))
    : Decidable ((machine seg dateFormatter slider ι).enabled s a) :=
  inferInstanceAs (Decidable ((Board.machine (phone seg dateFormatter slider) (Formatted seg)).enabled s a))

theorem clamped_le (value : Rat)
    : ∃ kept, App.clamped (.finite value) = .finite kept ∧ 1 ≤ kept ∧ kept ≤ 3 := by
  refine ⟨max 1 (min 3 value), rfl, ?_, ?_⟩
  . exact le_max_left 1 (min 3 value)
  . exact max_le (by norm_num) (min_le_left 3 value)

def garden : List (Board.Action Bool Action (Path × Str)) :=
  [.post (.CHEDO, ['2']), .post (.TINHIEUDONGCO, ['1', '0', '1', '0']),
    .post (.DULIEUCAMBIEN, ['2', '0', '5', '5', '6', '0', '7', '0', '0']), .post (.pumpSpeed, ['9']),
    .move true (.app (.workMode (.string ['2']))),
    .move true (.app (.engineStates (.string ['1', '0', '1', '0']))),
    .move true (.app (.toggle 3 false)),
    .move false (.app (.workMode (.string ['2']))),
    .move false (.app (.engineStates (.string ['0', '0', '1', '0']))),
    .move false (.app (.toggle 3 true)),
    .move false (.app (.pumpSpeed (.string ['9']))),
    .move false (.valueChangedSlider (5 / 2)),
    .move false (.doneButtonTapped .lamp 36060),
    .move false (.app (.press .lamp 36000 36000 36000 0)),
    .move true (.app (.pumpSpeed (.string ['3']))),
    .move true (.updateTime .lamp 36100),
    .move true (.app (.sensorData .light (.string ['2', '0', '5', '5', '6', '0', '7', '0', '0']) ['a']))]

theorem closed_world_never_traps_garden
    : (machine .acute .utc App.clamped Bool).Along (fun s => ∀ p, (s.party p).isSome) (start Bool) garden
        ∧ (machine .acute .utc App.clamped Bool).Steps
          (Board.Writes (phone .acute .utc App.clamped) (Written .acute)) (start Bool) garden :=
  closed_world_never_traps clamped_le (by decide +kernel)

end ClosedWorld

end SmartGarden

import SmartGarden.App.Traps
import SmartGarden.Lib.Simulation

/-!
This module contains the four chart screens over the user defaults that they share. A screen that is closed
is gone, but its observer stays registered and finds its `self` to be `nil` from then on.
-/

open Swift

namespace SmartGarden

structure Presented where
  sensor : Sensor
  -- The screen is the one of this opening.
  number : Nat
  vc : ChartViewController

structure Charts where
  userDefaults : UserDefaults := fun _ => none
  presented : Option Presented := none
  -- The openings whose screens the observers at `DULIEUCAMBIEN` refer to.
  observers : List Nat := []
  opened : Nat := 0
  -- No handler has trapped since the app was launched.
  running : Bool := true

namespace Charts

inductive Action where
  | didSelectItemAt (row : Nat)
  | dismiss
  -- Observer `k` is called.
  | event (k : Nat) (value : Value) (time : Str)
  | relaunch

def viewController (row : Nat) : Option Sensor :=
  match row with
  | 0 => some .temperature
  | 1 => some .humidity
  | 2 => some .soilMosture
  | 3 => some .light
  | _ => none

def present (s : Charts) (sensor : Sensor) : Charts :=
  { s with
    presented := some {
      sensor := sensor
      number := s.opened
      vc := (ChartViewController.viewDidLoad sensor.screen s.userDefaults).1
    }
    observers := s.observers ++ [s.opened]
    opened := s.opened + 1 }

def deliver (s : Charts) (screen : Presented) (value : Value) (time : Str) : Charts :=
  let (vc, userDefaults, _) :=
    screen.vc.dataFetched screen.sensor.screen s.userDefaults (fetchDataFromFirebase value) time
  match vc with
  | some vc => { s with userDefaults := userDefaults, presented := some { screen with vc := vc } }
  | none => { s with userDefaults := userDefaults, presented := none, running := false }

/--
The screen that observer `k` refers to, if it is still there.
-/
def target (s : Charts) (k : Nat) : Option Presented :=
  s.presented.filter fun screen => s.observers[k]? = some screen.number

def event (s : Charts) (k : Nat) (value : Value) (time : Str) : Charts :=
  match s.target k with
  | some screen => s.deliver screen value time
  | none => s

def machine : Machine Charts Action where
  enabled s a :=
    match a with
    | .didSelectItemAt _ => s.running = true ∧ s.presented.isNone
    | .dismiss => s.running = true ∧ s.presented.isSome
    | .event k _ _ => s.running = true ∧ k < s.observers.length
    | .relaunch => True
  next s a :=
    match a with
    | .didSelectItemAt row =>
      match viewController row with
      | some sensor => s.present sensor
      | none => s
    | .dismiss => { s with presented := none }
    | .event k value time => s.event k value time
    | .relaunch => { userDefaults := s.userDefaults }

instance (s : Charts) (a : Action) : Decidable (machine.enabled s a) :=
  match a with
  | .didSelectItemAt _ => inferInstanceAs (Decidable (s.running = true ∧ s.presented.isNone = true))
  | .dismiss => inferInstanceAs (Decidable (s.running = true ∧ s.presented.isSome = true))
  | .event k _ _ => inferInstanceAs (Decidable (s.running = true ∧ k < s.observers.length))
  | .relaunch => inferInstanceAs (Decidable True)

/--
What the step is for the screens of `sensor` when they are looked at alone.
-/
def alone? (sensor : Sensor) (s : Charts) (a : Action) : Option ChartRun.Action :=
  match a with
  | .didSelectItemAt row => if viewController row = some sensor then some .reopen else none
  | .event k value time =>
    if (s.target k).any fun screen => screen.sensor = sensor then some (.deliver value time) else none
  | _ => none

structure Matches (sensor : Sensor) (s : Charts) (t : ChartRun) : Prop where
  data : s.userDefaults sensor.screen.dataKey = t.userDefaults sensor.screen.dataKey
  timeTitle : s.userDefaults sensor.screen.timeTitleKey = t.userDefaults sensor.screen.timeTitleKey
  vc : ∀ screen ∈ s.presented, screen.sensor = sensor → t.vc = some screen.vc

theorem target_eq {s : Charts} {k : Nat} {screen : Presented} (h : s.target k = some screen)
    : s.presented = some screen ∧ s.observers[k]? = some screen.number := by
  obtain ⟨hpresented, hnumber⟩ := Option.filter_eq_some_iff.mp h
  exact ⟨hpresented, by simpa using hnumber⟩

theorem viewDidLoad_congr {screen : ChartScreen} {userDefaults other : UserDefaults}
    (hdata : userDefaults screen.dataKey = other screen.dataKey)
    (htimeTitle : userDefaults screen.timeTitleKey = other screen.timeTitleKey)
    : (ChartViewController.viewDidLoad screen userDefaults).1
        =
      (ChartViewController.viewDidLoad screen other).1 := by
  unfold ChartViewController.viewDidLoad
  rw [ChartViewController.initData_eq, ChartViewController.initData_eq, hdata, htimeTitle]

theorem matches_present {sensor : Sensor} {s : Charts} {t : ChartRun} (h : Matches sensor s t)
    : Matches sensor (s.present sensor) (ChartRun.start sensor.screen t.userDefaults) where
  data := h.data
  timeTitle := h.timeTitle
  vc := by
    intro screen hscreen _
    cases hscreen
    unfold ChartRun.start
    rw [viewDidLoad_congr h.data h.timeTitle]

theorem matches_present_other {sensor other : Sensor} (hother : other ≠ sensor) {s : Charts}
    {t : ChartRun} (h : Matches sensor s t) : Matches sensor (s.present other) t where
  data := h.data
  timeTitle := h.timeTitle
  vc := by
    intro screen hscreen hsensor
    cases hscreen
    contradiction

theorem matches_closed {sensor : Sensor} {s s' : Charts} {t : ChartRun} (h : Matches sensor s t)
    (huserDefaults : s'.userDefaults = s.userDefaults) (hclosed : s'.presented = none)
    : Matches sensor s' t where
  data := by rw [huserDefaults]; exact h.data
  timeTitle := by rw [huserDefaults]; exact h.timeTitle
  vc := by
    intro screen hscreen
    rw [hclosed] at hscreen
    contradiction

theorem matches_deliver {s : Charts} {t : ChartRun} {screen : Presented}
    (h : Matches screen.sensor s t) (hpresented : s.presented = some screen) (value : Value) (time : Str)
    : Matches screen.sensor (s.deliver screen value time) (t.deliver screen.sensor.screen value time) := by
  have hvc := h.vc screen hpresented rfl
  unfold deliver ChartRun.deliver ChartViewController.dataFetched
  rw [hvc]
  cases value with
  | other =>
    refine ⟨h.data, h.timeTitle, ?_⟩
    intro screen' hscreen' _
    cases hscreen'
    rfl
  | string data =>
    dsimp only [fetchDataFromFirebase]
    cases screen.vc.draw screen.sensor.screen data time with
    | none =>
      refine ⟨h.data, h.timeTitle, ?_⟩
      intro screen' hscreen'
      contradiction
    | some vc =>
      constructor
      . dsimp only
        rw [ChartViewController.saveData_dataKey, ChartViewController.saveData_dataKey]
      . dsimp only
        rw [ChartViewController.saveData_timeTitleKey, ChartViewController.saveData_timeTitleKey]
      . intro screen' hscreen' _
        cases hscreen'
        rfl

theorem deliver_userDefaults (s : Charts) (screen : Presented) (value : Value) (time : Str)
    {key : String} (hdata : key ≠ screen.sensor.screen.dataKey)
    (htimeTitle : key ≠ screen.sensor.screen.timeTitleKey)
    : (s.deliver screen value time).userDefaults key = s.userDefaults key := by
  unfold deliver ChartViewController.dataFetched
  cases value with
  | other => rfl
  | string data =>
    dsimp only [fetchDataFromFirebase]
    cases screen.vc.draw screen.sensor.screen data time with
    | none => rfl
    | some vc => exact vc.saveData_other s.userDefaults hdata htimeTitle

theorem deliver_presented (s : Charts) (screen : Presented) (value : Value) (time : Str)
    : ∀ screen' ∈ (s.deliver screen value time).presented,
        screen'.sensor = screen.sensor ∧ screen'.number = screen.number := by
  intro screen' hscreen'
  unfold deliver at hscreen'
  dsimp only at hscreen'
  split at hscreen'
  . cases hscreen'
    exact ⟨rfl, rfl⟩
  . contradiction

theorem matches_deliver_other {sensor : Sensor} {s : Charts} {t : ChartRun} {screen : Presented}
    (hother : screen.sensor ≠ sensor) (h : Matches sensor s t) (value : Value) (time : Str)
    : Matches sensor (s.deliver screen value time) t := by
  obtain ⟨hdata, hdata', htimeTitle, htimeTitle'⟩ := App.keys_distinct hother.symm
  constructor
  . rw [deliver_userDefaults _ _ _ _ hdata hdata']
    exact h.data
  . rw [deliver_userDefaults _ _ _ _ htimeTitle htimeTitle']
    exact h.timeTitle
  . intro screen' hscreen' hsensor
    obtain ⟨hsensor', _⟩ := s.deliver_presented screen value time screen' hscreen'
    rw [hsensor'] at hsensor
    contradiction

theorem simulates (sensor : Sensor)
    : Machine.Simulates machine (ChartRun.machine sensor.screen) (alone? sensor) (Matches sensor) where
  step := by
    intro s t a b h he hb
    cases a with
    | didSelectItemAt row =>
      dsimp only [alone?] at hb
      split at hb
      . next hrow =>
        cases hb
        refine ⟨trivial, ?_⟩
        dsimp only [machine]
        rw [hrow]
        exact matches_present h
      . contradiction
    | dismiss => contradiction
    | relaunch => contradiction
    | event k value time =>
      dsimp only [alone?] at hb
      split at hb
      . next hany =>
        cases hb
        obtain ⟨screen, htarget, hsensor⟩ := (Option.any_eq_true _ _).mp hany
        obtain rfl := of_decide_eq_true hsensor
        have hpresented := (target_eq htarget).1
        refine ⟨Option.isSome_of_eq_some (h.vc screen hpresented rfl), ?_⟩
        dsimp only [machine, event]
        rw [htarget]
        exact matches_deliver h hpresented value time
      . contradiction
  stutter := by
    intro s t a h he hnone
    cases a with
    | didSelectItemAt row =>
      dsimp only [alone?] at hnone
      split at hnone
      . contradiction
      . next hrow =>
        dsimp only [machine]
        split
        . next other hother =>
          apply matches_present_other _ h
          intro heq
          rw [hother, heq] at hrow
          contradiction
        . exact h
    | dismiss => exact matches_closed h rfl rfl
    | relaunch => exact matches_closed h rfl rfl
    | event k value time =>
      dsimp only [alone?] at hnone
      split at hnone
      . contradiction
      . next hany =>
        dsimp only [machine, event]
        cases htarget : s.target k with
        | none => exact h
        | some screen =>
          apply matches_deliver_other _ h
          intro heq
          simp [htarget, heq] at hany

/--
The observer of the open screen is one of those that are registered, and no other one refers to it.
-/
structure Inv (s : Charts) : Prop where
  lt : ∀ number ∈ s.observers, number < s.opened
  nodup : s.observers.Nodup
  mem : ∀ screen ∈ s.presented, screen.number ∈ s.observers

theorem inv_start : Inv {} where
  lt := by simp
  nodup := List.nodup_nil
  mem := by
    intro screen hscreen
    contradiction

theorem inv_present {s : Charts} (h : s.Inv) (sensor : Sensor) : (s.present sensor).Inv where
  lt := by
    intro number hnumber
    dsimp only [present] at hnumber ⊢
    cases List.mem_append.mp hnumber with
    | inl hold =>
      have hlt := h.lt number hold
      omega
    | inr hnew =>
      rw [List.mem_singleton.mp hnew]
      omega
  nodup := by
    apply List.nodup_append.mpr
    refine ⟨h.nodup, by simp, ?_⟩
    intro number hnumber other hother
    rw [List.mem_singleton.mp hother]
    have hlt := h.lt number hnumber
    omega
  mem := by
    intro screen hscreen
    cases hscreen
    exact List.mem_append_right _ (List.mem_singleton_self _)

theorem deliver_observers (s : Charts) (screen : Presented) (value : Value) (time : Str)
    : (s.deliver screen value time).observers = s.observers
        ∧ (s.deliver screen value time).opened = s.opened := by
  unfold deliver
  dsimp only
  split <;> exact ⟨rfl, rfl⟩

theorem inv_next {s : Charts} (h : s.Inv) (a : Action) : (machine.next s a).Inv := by
  cases a with
  | didSelectItemAt row =>
    dsimp only [machine]
    split
    . exact inv_present h _
    . exact h
  | dismiss =>
    refine ⟨h.lt, h.nodup, ?_⟩
    intro screen hscreen
    contradiction
  | relaunch =>
    refine ⟨by simp [machine], List.nodup_nil, ?_⟩
    intro screen hscreen
    contradiction
  | event k value time =>
    dsimp only [machine, event]
    cases htarget : s.target k with
    | none => exact h
    | some screen =>
      obtain ⟨hobservers, hopened⟩ := s.deliver_observers screen value time
      refine ⟨?_, ?_, ?_⟩
      . rw [hobservers, hopened]
        exact h.lt
      . rw [hobservers]
        exact h.nodup
      . intro screen' hscreen'
        obtain ⟨_, hnumber⟩ := s.deliver_presented screen value time screen' hscreen'
        rw [hobservers, hnumber]
        exact h.mem screen (target_eq htarget).1

/--
The reading that the step adds to the history of `sensor`.
-/
def accepted? (sensor : Sensor) (s : Charts) (a : Action) : Option (Str × Str) :=
  (s.alone? sensor a).bind (ChartRun.accepted? sensor.screen)

def history (sensor : Sensor) (as : List Action) : List (Str × Str) :=
  (Window.changes none (machine.outputs (accepted? sensor) {} as)).rtake 7

theorem keeps_history (sensor : Sensor) {as : List Action} (hv : machine.Valid {} as)
    : ∃ t, Matches sensor (machine.run {} as) t ∧ ChartRun.Keeps sensor.screen t (history sensor as) := by
  have hstart : Matches sensor {} (ChartRun.start sensor.screen fun _ => none) :=
    ⟨rfl, rfl, fun _ hscreen => by contradiction⟩
  obtain ⟨hvalid, hmatches⟩ := Machine.simulates_run (simulates sensor) hstart hv
  have hkeeps := ChartRun.keeps_run ChartRun.keeps_empty hvalid
  rw [Machine.filterMap_outputs, Window.foldl_push (by decide) _ _ (by decide)] at hkeeps
  exact ⟨_, hmatches, hkeeps⟩

/--
However the chart screens are opened, closed and told of new readings, each sensor keeps the last seven
changes of what its own screens have read, and of the observers that have piled up only one still records.
-/
theorem own_history (sensor : Sensor) {as : List Action} (hv : machine.Valid {} as)
    : let s := machine.run {} as
      (s.userDefaults sensor.screen.dataKey).getD [] = (history sensor as).map Prod.fst
        ∧
      (s.userDefaults sensor.screen.timeTitleKey).getD [] = (history sensor as).map Prod.snd
        ∧
      ∀ screen ∈ s.presented, s.observers.count screen.number = 1
        ∧ (screen.sensor = sensor → screen.vc.Holds (history sensor as)) := by
  intro s
  obtain ⟨t, hmatches, hkeeps⟩ := keeps_history sensor hv
  have hinv : s.Inv := Machine.run_invariant (P := Inv) (fun _ a h _ => inv_next h a) inv_start hv
  refine ⟨?_, ?_, ?_⟩
  . rw [hmatches.data]
    exact hkeeps.data
  . rw [hmatches.timeTitle]
    exact hkeeps.timeTitle
  . intro screen hscreen
    refine ⟨List.count_eq_one_of_mem hinv.nodup (hinv.mem screen hscreen), ?_⟩
    intro hsensor
    exact hkeeps.holds screen.vc (hmatches.vc screen hscreen hsensor)

theorem own_history_light
    : let as : List Action :=
        [.didSelectItemAt 3, .event 0 (.string ['2', '0', '5', '5', '6', '0', '7', '0']) ['a'], .dismiss,
          .didSelectItemAt 0, .event 0 (.string ['2', '1', '5', '5', '6', '0', '8', '0']) ['b'],
          .event 1 (.string ['2', '1', '5', '5', '6', '0', '8', '0']) ['b'], .dismiss, .didSelectItemAt 3,
          .event 2 (.string ['2', '1', '5', '5', '6', '0', '9', '0']) ['c'], .event 0 (.string []) ['d']]
      ((machine.run {} as).userDefaults "lightData").getD [] = [['7', '0'], ['9', '0']] := by
  intro as
  exact (own_history .light (by decide +kernel)).1.trans (by decide +kernel)

end Charts

end SmartGarden

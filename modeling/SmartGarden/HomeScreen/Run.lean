import SmartGarden.HomeScreen.Lemmas
import SmartGarden.Lib.Machine

/-!
This module contains a chart screen together with the user defaults that it saves to. A reading that traps
ends the process, and what is saved by then is loaded when the screen is opened again.
-/

open Swift

namespace SmartGarden

structure ChartRun where
  userDefaults : UserDefaults
  -- `none` after a trap
  vc : Option ChartViewController

namespace ChartRun

inductive Action where
  | deliver (value : Value) (time : Str)
  | reopen

variable (screen : ChartScreen)

def start (userDefaults : UserDefaults) : ChartRun where
  userDefaults := userDefaults
  vc := some (ChartViewController.viewDidLoad screen userDefaults).1

def deliver (s : ChartRun) (value : Value) (time : Str)
    (accepts : Option LineChart → List FloatValue → Bool := fun _ _ => true) : ChartRun :=
  match s.vc with
  | some vc =>
    let (vc, userDefaults, _) :=
      vc.dataFetched screen s.userDefaults (fetchDataFromFirebase value) time accepts
    { userDefaults := userDefaults, vc := vc }
  | none => s

def machine (accepts : Option LineChart → List FloatValue → Bool := fun _ _ => true)
    : Machine ChartRun Action where
  enabled s a :=
    match a with
    | .deliver _ _ => s.vc.isSome
    | .reopen => True
  next s a :=
    match a with
    | .deliver value time => s.deliver screen value time accepts
    | .reopen => start screen s.userDefaults

instance (s : ChartRun) (a : Action) : Decidable ((machine screen).enabled s a) :=
  match a with
  | .deliver _ _ => inferInstanceAs (Decidable (s.vc.isSome = true))
  | .reopen => inferInstanceAs (Decidable True)

def reading? (a : Action) : Option (Str × Str) :=
  match a with
  | .deliver (.string data) time => some (screen.slice data, time)
  | _ => none

def accepted? (a : Action) : Option (Str × Str) :=
  (reading? screen a).filter fun reading => Parses reading.1

variable {screen}

def saved (s : ChartRun) (key : String) : List Str :=
  (s.userDefaults key).getD []

/--
The saved lists, and those of the screen if it is open, are the halves of the window `w`.
-/
structure Keeps (screen : ChartScreen) (s : ChartRun) (w : List (Str × Str)) : Prop where
  data : s.saved screen.dataKey = w.map Prod.fst
  timeTitle : s.saved screen.timeTitleKey = w.map Prod.snd
  length : w.length ≤ 7
  parses : ∀ pair ∈ w, Parses pair.1
  holds : ∀ vc ∈ s.vc, vc.Holds w

theorem start_holds {userDefaults : UserDefaults} {w : List (Str × Str)}
    (hdata : (userDefaults screen.dataKey).getD [] = w.map Prod.fst)
    (htimeTitle : (userDefaults screen.timeTitleKey).getD [] = w.map Prod.snd)
    : (ChartViewController.viewDidLoad screen userDefaults).1.Holds w := by
  unfold ChartViewController.viewDidLoad
  rw [ChartViewController.initData_eq]
  exact ⟨hdata, htimeTitle⟩

theorem keeps_empty : Keeps screen (start screen fun _ => none) [] where
  data := rfl
  timeTitle := rfl
  length := by decide
  parses := by
    intro pair hpair
    contradiction
  holds := by
    intro vc hvc
    rw [← Option.some.inj hvc]
    exact start_holds rfl rfl

theorem keeps_reopen {s : ChartRun} {w : List (Str × Str)} (h : Keeps screen s w)
    : Keeps screen (start screen s.userDefaults) w where
  data := h.data
  timeTitle := h.timeTitle
  length := h.length
  parses := h.parses
  holds := by
    intro vc hvc
    rw [← Option.some.inj hvc]
    exact start_holds h.data h.timeTitle

theorem deliver_of_not_parses {s : ChartRun} {w : List (Str × Str)} (h : Keeps screen s w)
    (halive : s.vc.isSome) {data : Str} (hdata : ¬ Parses (screen.slice data)) (time : Str)
    : s.deliver screen (.string data) time = { s with vc := none } := by
  obtain ⟨vc, hvc⟩ := Option.isSome_iff_exists.mp halive
  have hdraw : vc.draw screen data time = none := by
    rw [← Option.not_isSome_iff_eq_none]
    rw [ChartViewController.draw_isSome (h.holds vc hvc) h.length h.parses]
    exact hdata
  simp [deliver, hvc, fetchDataFromFirebase, ChartViewController.dataFetched, hdraw]

theorem deliver_of_parses {s : ChartRun} {w : List (Str × Str)} (h : Keeps screen s w)
    (halive : s.vc.isSome) {data : Str} (hdata : Parses (screen.slice data)) (time : Str)
    : ∃ vc lineChart, s.deliver screen (.string data) time
          = { userDefaults := vc.saveData screen s.userDefaults, vc := some vc }
        ∧ vc.Holds (Window.push 7 w (screen.slice data, time))
        ∧ vc.lineChart = some lineChart
        ∧ ChartViewController.Depicts lineChart (Window.push 7 w (screen.slice data, time)) := by
  obtain ⟨vc, hvc⟩ := Option.isSome_iff_exists.mp halive
  have hdraw : (vc.draw screen data time).isSome := by
    rw [ChartViewController.draw_isSome (h.holds vc hvc) h.length h.parses]
    exact hdata
  obtain ⟨vc', hvc'⟩ := Option.isSome_iff_exists.mp hdraw
  obtain ⟨hholds, lineChart, hlineChart, hdepicts⟩ :=
    ChartViewController.draw_eq (h.holds vc hvc) h.length hvc'
  refine ⟨vc', lineChart, ?_, hholds, hlineChart, hdepicts⟩
  simp [deliver, hvc, fetchDataFromFirebase, ChartViewController.dataFetched, hvc']

theorem deliver_of_failure {s : ChartRun} (halive : s.vc.isSome) (time : Str)
    : s.deliver screen .other time = s := by
  obtain ⟨vc, hvc⟩ := Option.isSome_iff_exists.mp halive
  cases s
  simp only at hvc
  simp [deliver, hvc, fetchDataFromFirebase, ChartViewController.dataFetched]

theorem deliver_userDefaults_other (s : ChartRun) (value : Value) (time : Str) {key : String}
    (hdata : key ≠ screen.dataKey) (htimeTitle : key ≠ screen.timeTitleKey)
    : (s.deliver screen value time).userDefaults key = s.userDefaults key := by
  unfold deliver ChartViewController.dataFetched
  split
  . next vc _ =>
    cases fetchDataFromFirebase value with
    | failure message => rfl
    | success data =>
      dsimp only
      cases vc.draw screen data time with
      | none => rfl
      | some vc' => exact vc'.saveData_other s.userDefaults hdata htimeTitle
  . rfl

def window (screen : ChartScreen) (w : List (Str × Str)) (a : Action) : List (Str × Str) :=
  match accepted? screen a with
  | some reading => Window.push 7 w reading
  | none => w

theorem keeps_next {s : ChartRun} {w : List (Str × Str)} (h : Keeps screen s w) {a : Action}
    (he : (machine screen).enabled s a) : Keeps screen ((machine screen).next s a) (window screen w a) := by
  cases a with
  | reopen => exact keeps_reopen h
  | deliver value time =>
    cases value with
    | other =>
      dsimp [machine]
      rw [deliver_of_failure he]
      exact h
    | string data =>
      dsimp [machine]
      by_cases hdata : Parses (screen.slice data)
      . have hwindow : window screen w (.deliver (.string data) time)
            = Window.push 7 w (screen.slice data, time) := by
          simp [window, accepted?, reading?, Option.filter, hdata]
        obtain ⟨vc, lineChart, heq, hholds, _, _⟩ := deliver_of_parses h he hdata time
        rw [hwindow, heq]
        refine ⟨?_, ?_, Window.length_push_le h.length _, ?_, ?_⟩
        . rw [← hholds.data]
          simp [saved, ChartViewController.saveData_dataKey]
        . rw [← hholds.timeTitle]
          simp [saved, ChartViewController.saveData_timeTitleKey]
        . exact (Window.forall_push_iff (by decide) h.parses _).mpr hdata
        . intro vc' hvc'
          rw [← Option.some.inj hvc']
          exact hholds
      . have hwindow : window screen w (.deliver (.string data) time) = w := by
          simp [window, accepted?, reading?, Option.filter, hdata]
        rw [hwindow, deliver_of_not_parses h he hdata]
        refine ⟨h.data, h.timeTitle, h.length, h.parses, ?_⟩
        intro vc hvc
        contradiction

theorem keeps_run {s : ChartRun} {w : List (Str × Str)} (h : Keeps screen s w) {as : List Action}
    (hv : (machine screen).Valid s as)
    : Keeps screen ((machine screen).run s as)
        ((as.filterMap (accepted? screen)).foldl (Window.push 7) w) := by
  induction as generalizing s w with
  | nil => exact h
  | cons a as ih =>
    have hrun := ih (keeps_next h hv.1) hv.2
    unfold window at hrun
    rw [Machine.run_cons]
    cases haccepted : accepted? screen a with
    | none =>
      rw [haccepted] at hrun
      rw [List.filterMap_cons_none haccepted]
      exact hrun
    | some reading =>
      rw [haccepted] at hrun
      rw [List.filterMap_cons_some haccepted]
      exact hrun

end ChartRun

end SmartGarden

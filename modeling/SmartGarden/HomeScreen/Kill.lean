import SmartGarden.HomeScreen.Lemmas
import SmartGarden.Lib.Machine

/-!
This module contains a chart screen whose process can be killed at any time, also between the two steps of
`saveData`. What is in memory is lost then, and the next start loads what the steps taken have saved.
-/

open Swift

namespace SmartGarden

inductive SaveStep where
  | idle
  | setData
  | setTimeTitle
  deriving DecidableEq

structure ChartProcess where
  userDefaults : UserDefaults
  -- `none` if the process does not run
  vc : Option ChartViewController
  step : SaveStep := .idle
  -- Every pair that has been appended to the lists of the screen so far.
  recorded : List (Str × Str) := []

namespace ChartProcess

inductive Action where
  | deliver (data time : Str)
  | setData
  | setTimeTitle
  | kill
  | reopen

variable (screen : ChartScreen)

def start (userDefaults : UserDefaults) : ChartProcess where
  userDefaults := userDefaults
  vc := some (ChartViewController.viewDidLoad screen userDefaults).1

def deliver (s : ChartProcess) (data time : Str) : ChartProcess :=
  match s.vc with
  | some vc =>
    let reading := (screen.slice data, time)
    let recorded := if vc.data.getLast? = some reading.1 then s.recorded else s.recorded ++ [reading]
    match vc.draw screen data time with
    | some vc => { s with vc := some vc, step := .setData, recorded := recorded }
    | none => { s with vc := none, recorded := recorded }
  | none => s

def setData (s : ChartProcess) : ChartProcess :=
  match s.vc with
  | some vc => { s with userDefaults := vc.setData screen s.userDefaults, step := .setTimeTitle }
  | none => s

def setTimeTitle (s : ChartProcess) : ChartProcess :=
  match s.vc with
  | some vc => { s with userDefaults := vc.setTimeTitle screen s.userDefaults, step := .idle }
  | none => s

def machine : Machine ChartProcess Action where
  enabled s a :=
    match a with
    | .deliver data _ => s.step = .idle ∧ s.vc.isSome ∧ Parses (screen.slice data)
    | .setData => s.step = .setData
    | .setTimeTitle => s.step = .setTimeTitle
    | .kill => True
    | .reopen => s.step = .idle
  next s a :=
    match a with
    | .deliver data time => s.deliver screen data time
    | .setData => s.setData screen
    | .setTimeTitle => s.setTimeTitle screen
    | .kill => { s with vc := none, step := .idle }
    | .reopen => { s with vc := some (ChartViewController.viewDidLoad screen s.userDefaults).1 }

instance (s : ChartProcess) (a : Action) : Decidable ((machine screen).enabled s a) :=
  match a with
  | .deliver data _ =>
    inferInstanceAs (Decidable (s.step = .idle ∧ s.vc.isSome = true ∧ Parses (screen.slice data)))
  | .setData => inferInstanceAs (Decidable (s.step = .setData))
  | .setTimeTitle => inferInstanceAs (Decidable (s.step = .setTimeTitle))
  | .kill => inferInstanceAs (Decidable True)
  | .reopen => inferInstanceAs (Decidable (s.step = .idle))

theorem dataFetched_eq_steps (s : ChartProcess) (vc : ChartViewController) (hvc : s.vc = some vc)
    (data time : Str) (hdraw : (vc.draw screen data time).isSome)
    : let s' := (machine screen).run s [.deliver data time, .setData, .setTimeTitle]
      (s'.vc, s'.userDefaults)
        =
      ((vc.dataFetched screen s.userDefaults (.success data) time).1,
        (vc.dataFetched screen s.userDefaults (.success data) time).2.1) := by
  obtain ⟨vc', hvc'⟩ := Option.isSome_iff_exists.mp hdraw
  simp [machine, deliver, setData, setTimeTitle, hvc, hvc', ChartViewController.dataFetched,
    ChartViewController.saveData]

variable {screen}

def saved (s : ChartProcess) (key : String) : List Str :=
  (s.userDefaults key).getD []

/--
A kill in front of the second step of a save comes when this step would not change the saved titles.
-/
def CleanKill (screen : ChartScreen) (s : ChartProcess) (a : Action) : Prop :=
  match a with
  | .kill => s.step = .setTimeTitle → ∀ vc ∈ s.vc, s.saved screen.timeTitleKey = vc.timeTitle
  | _ => True

structure Fits (timeTitle data : List Str) : Prop where
  le : timeTitle.length ≤ data.length
  seven : timeTitle.length ≤ 7
  parses : ∀ value ∈ data, Parses value

structure Ordered (screen : ChartScreen) (s : ChartProcess) : Prop where
  saved : Fits (s.saved screen.timeTitleKey) (s.saved screen.dataKey)
  shown : ∀ vc ∈ s.vc, Fits vc.timeTitle vc.data
  mixed : ∀ vc ∈ s.vc, Fits (s.saved screen.timeTitleKey) vc.data
  half : s.step = .setTimeTitle → ∀ vc ∈ s.vc, s.saved screen.dataKey = vc.data

theorem record_fits {vc : ChartViewController} (h : Fits vc.timeTitle vc.data) {data : Str}
    (hdata : Parses (screen.slice data)) (time : Str)
    : Fits (vc.record screen data time).timeTitle (vc.record screen data time).data
        ∧
      vc.data.length ≤ (vc.record screen data time).data.length := by
  have hle := h.le
  have hseven := h.seven
  unfold ChartViewController.record
  rcases vc.appendTemperature_cases (screen.slice data) time with ⟨_, heq⟩ | ⟨_, heq⟩
  . have htrim : ¬ (vc.data.length > 7 ∧ vc.timeTitle.length > 7) := by omega
    simp only [heq, htrim, ↓reduceIte]
    exact ⟨h, Nat.le_refl _⟩
  . have hparses : ∀ value ∈ vc.data ++ [screen.slice data], Parses value := by
      intro value hvalue
      cases List.mem_append.mp hvalue with
      | inl hold =>
        exact h.parses value hold
      | inr hnew =>
        rw [List.mem_singleton.mp hnew]
        exact hdata
    simp only [heq, List.length_append, List.length_singleton]
    split
    . refine ⟨⟨?_, ?_, ?_⟩, ?_⟩
      . simp [ChartViewController.removeFirst, hle]
      . simp [ChartViewController.removeFirst, hseven]
      . intro value hvalue
        exact hparses value (List.mem_of_mem_tail hvalue)
      . simp [ChartViewController.removeFirst]
    . refine ⟨⟨?_, ?_, hparses⟩, ?_⟩
      . simpa using hle
      . simp only [List.length_append, List.length_singleton]
        omega
      . simp

theorem draw_isSome_of_fits {vc : ChartViewController} (h : Fits vc.timeTitle vc.data) {data : Str}
    (hdata : Parses (screen.slice data)) (time : Str) : (vc.draw screen data time).isSome := by
  obtain ⟨hfits, _⟩ := record_fits h hdata time
  unfold ChartViewController.draw
  dsimp
  rw [ChartViewController.createLineChart_isSome]
  intro i hi
  have hle := hfits.le
  have hi' : i < (vc.record screen data time).data.length := by omega
  exact ⟨_, List.getElem?_eq_getElem hi', hfits.parses _ (List.getElem_mem hi')⟩

def recordedAfter (s : ChartProcess) (vc : ChartViewController) (reading : Str × Str)
    : List (Str × Str) :=
  if vc.data.getLast? = some reading.1 then s.recorded else s.recorded ++ [reading]

theorem deliver_of_fits {s : ChartProcess} {vc : ChartViewController} (hvc : s.vc = some vc)
    (h : Fits vc.timeTitle vc.data) {data : Str} (hdata : Parses (screen.slice data)) (time : Str)
    : ∃ vc' : ChartViewController, s.deliver screen data time = { s with
          vc := some vc'
          step := .setData
          recorded := s.recordedAfter vc (screen.slice data, time) }
        ∧ vc'.data = (vc.record screen data time).data
        ∧ vc'.timeTitle = (vc.record screen data time).timeTitle := by
  obtain ⟨vc', hvc'⟩ := Option.isSome_iff_exists.mp (draw_isSome_of_fits h hdata time)
  refine ⟨vc', ?_, ChartViewController.createLineChart_lists hvc'⟩
  simp only [deliver, hvc, hvc']
  rfl

theorem saved_setData (screen : ChartScreen) {s : ChartProcess} {vc : ChartViewController} (hvc : s.vc = some vc)
    : (s.setData screen).saved screen.dataKey = vc.data
        ∧
      (s.setData screen).saved screen.timeTitleKey = s.saved screen.timeTitleKey
        ∧
      (s.setData screen).vc = some vc := by
  simp only [setData, hvc, saved, ChartViewController.setData]
  refine ⟨?_, ?_, trivial⟩
  . rw [UserDefaults.set_self, Option.getD_some]
  . rw [UserDefaults.set_other _ _ screen.distinct.symm]

theorem saved_setTimeTitle (screen : ChartScreen) {s : ChartProcess} {vc : ChartViewController} (hvc : s.vc = some vc)
    : (s.setTimeTitle screen).saved screen.dataKey = s.saved screen.dataKey
        ∧
      (s.setTimeTitle screen).saved screen.timeTitleKey = vc.timeTitle
        ∧
      (s.setTimeTitle screen).vc = some vc := by
  simp only [setTimeTitle, hvc, saved, ChartViewController.setTimeTitle]
  refine ⟨?_, ?_, trivial⟩
  . rw [UserDefaults.set_other _ _ screen.distinct]
  . rw [UserDefaults.set_self, Option.getD_some]

theorem setData_of_none {s : ChartProcess} (hvc : s.vc = none) : s.setData screen = s := by
  unfold setData
  rw [hvc]

theorem setTimeTitle_of_none {s : ChartProcess} (hvc : s.vc = none) : s.setTimeTitle screen = s := by
  unfold setTimeTitle
  rw [hvc]

theorem saved_viewDidLoad (screen : ChartScreen) (s : ChartProcess)
    : (ChartViewController.viewDidLoad screen s.userDefaults).1.data = s.saved screen.dataKey
        ∧
      (ChartViewController.viewDidLoad screen s.userDefaults).1.timeTitle
        = s.saved screen.timeTitleKey := by
  unfold ChartViewController.viewDidLoad
  rw [ChartViewController.initData_eq]
  exact ⟨rfl, rfl⟩

theorem ordered_start : Ordered screen (start screen fun _ => none) := by
  have hfits : Fits [] [] := ⟨by decide, by decide, by simp⟩
  refine ⟨hfits, ?_, ?_, ?_⟩
  . intro vc hvc
    rw [← Option.some.inj hvc]
    exact hfits
  . intro vc hvc
    rw [← Option.some.inj hvc]
    exact hfits
  . intro hstep
    contradiction

theorem ordered_next {s : ChartProcess} (h : Ordered screen s) {a : Action}
    (he : (machine screen).enabled s a) : Ordered screen ((machine screen).next s a) := by
  cases a with
  | kill => exact ⟨h.saved, by simp [machine], by simp [machine], by simp [machine]⟩
  | reopen =>
    obtain ⟨hdata, htimeTitle⟩ := saved_viewDidLoad screen s
    have hfits : Fits (s.saved screen.timeTitleKey)
        (ChartViewController.viewDidLoad screen s.userDefaults).1.data := by
      rw [hdata]
      exact h.saved
    refine ⟨h.saved, ?_, ?_, ?_⟩
    . intro vc hvc
      rw [← Option.some.inj hvc, htimeTitle]
      exact hfits
    . intro vc hvc
      rw [← Option.some.inj hvc]
      exact hfits
    . intro hstep
      have hidle : s.step = .idle := he
      have hstep' : s.step = .setTimeTitle := hstep
      rw [hidle] at hstep'
      contradiction
  | deliver data time =>
    obtain ⟨hidle, halive, hdata⟩ := he
    obtain ⟨vc, hvc⟩ := Option.isSome_iff_exists.mp halive
    have hfits := record_fits (h.shown vc hvc) hdata time
    have hmixed := h.mixed vc hvc
    obtain ⟨vc', heq, hdata', htimeTitle'⟩ := deliver_of_fits hvc (h.shown vc hvc) hdata time
    dsimp [machine]
    rw [heq]
    refine ⟨h.saved, ?_, ?_, by simp⟩
    . intro vc'' hvc''
      rw [← Option.some.inj hvc'', hdata', htimeTitle']
      exact hfits.1
    . intro vc'' hvc''
      rw [← Option.some.inj hvc'', hdata']
      exact ⟨Nat.le_trans hmixed.le hfits.2, hmixed.seven, hfits.1.parses⟩
  | setData =>
    dsimp [machine]
    cases hvc : s.vc with
    | none => rwa [setData_of_none hvc]
    | some vc =>
      obtain ⟨hdata, htimeTitle, hvc'⟩ := saved_setData screen hvc
      have hmixed := h.mixed vc hvc
      refine ⟨by rwa [hdata, htimeTitle], ?_, ?_, ?_⟩
      . rw [hvc', ← hvc]
        exact h.shown
      . rw [hvc', ← hvc, htimeTitle]
        exact h.mixed
      . intro _ vc'' hvc''
        rw [hvc'] at hvc''
        rw [hdata, Option.some.inj hvc'']
  | setTimeTitle =>
    dsimp [machine]
    cases hvc : s.vc with
    | none => rwa [setTimeTitle_of_none hvc]
    | some vc =>
      obtain ⟨hdata, htimeTitle, hvc'⟩ := saved_setTimeTitle screen hvc
      have hshown := h.shown vc hvc
      refine ⟨?_, ?_, ?_, ?_⟩
      . rwa [hdata, htimeTitle, h.half he vc hvc]
      . rw [hvc', ← hvc]
        exact h.shown
      . intro vc'' hvc''
        rw [hvc'] at hvc''
        rwa [htimeTitle, ← Option.some.inj hvc'']
      . intro hstep
        simp [setTimeTitle, hvc] at hstep

structure Paired (screen : ChartScreen) (s : ChartProcess) (old new : List (Str × Str)) : Prop where
  recorded : ∀ pair ∈ old ++ new, pair ∈ s.recorded
  oldLength : old.length ≤ 7
  newLength : new.length ≤ 7
  holds : ∀ vc ∈ s.vc, vc.Holds new
  data : s.saved screen.dataKey = (if s.step = .setTimeTitle then new else old).map Prod.fst
  timeTitle : s.saved screen.timeTitleKey = old.map Prod.snd
  idle : s.step = .idle → old = new
  alive : s.step ≠ .idle → s.vc.isSome

theorem paired_start : Paired screen (start screen fun _ => none) [] [] := by
  refine ⟨by simp, by decide, by decide, ?_, rfl, rfl, fun _ => rfl, by simp [start]⟩
  intro vc hvc
  rw [← Option.some.inj hvc]
  unfold ChartViewController.viewDidLoad
  rw [ChartViewController.initData_eq]
  exact ⟨rfl, rfl⟩

theorem mem_recordedAfter {s : ChartProcess} {vc : ChartViewController} {w : List (Str × Str)}
    (hholds : vc.Holds w) (hw : ∀ pair ∈ w, pair ∈ s.recorded) {reading pair : Str × Str}
    (hpair : pair ∈ w ++ Window.push 7 w reading) : pair ∈ s.recordedAfter vc reading := by
  have hold : ∀ pair ∈ w, pair ∈ s.recordedAfter vc reading := by
    intro pair hpair
    unfold recordedAfter
    split
    . exact hw pair hpair
    . exact List.mem_append_left _ (hw pair hpair)
  cases List.mem_append.mp hpair with
  | inl hmem =>
    exact hold pair hmem
  | inr hmem =>
    rcases Window.mem_push hmem with hmem | ⟨hne, rfl⟩
    . exact hold pair hmem
    . rw [← ChartViewController.getLast?_of_holds hholds] at hne
      simp [recordedAfter, hne]

theorem paired_deliver {s : ChartProcess} {w : List (Str × Str)} (hordered : Ordered screen s)
    (h : Paired screen s w w) (halive : s.vc.isSome) {data : Str} (hdata : Parses (screen.slice data))
    (time : Str)
    : Paired screen (s.deliver screen data time) w (Window.push 7 w (screen.slice data, time)) := by
  obtain ⟨vc, hvc⟩ := Option.isSome_iff_exists.mp halive
  obtain ⟨vc', heq, hdata', htimeTitle'⟩ := deliver_of_fits hvc (hordered.shown vc hvc) hdata time
  have hholds := h.holds vc hvc
  have hrecord := ChartViewController.record_holds screen hholds h.newLength data time
  have hsaved := h.data
  rw [ite_self] at hsaved
  rw [heq]
  refine ⟨?_, h.newLength, Window.length_push_le h.newLength _, ?_, hsaved, h.timeTitle, ?_, ?_⟩
  . intro pair hpair
    apply mem_recordedAfter hholds _ hpair
    intro pair hpair
    exact h.recorded pair (List.mem_append_left _ hpair)
  . intro vc'' hvc''
    rw [← Option.some.inj hvc'']
    exact ⟨hdata'.trans hrecord.data, htimeTitle'.trans hrecord.timeTitle⟩
  . simp
  . simp

theorem paired_reopen {s : ChartProcess} {w : List (Str × Str)} (h : Paired screen s w w)
    : Paired screen
        { s with vc := some (ChartViewController.viewDidLoad screen s.userDefaults).1 } w w := by
  obtain ⟨hdata, htimeTitle⟩ := saved_viewDidLoad screen s
  have hsaved := h.data
  rw [ite_self] at hsaved
  refine ⟨h.recorded, h.newLength, h.newLength, ?_, h.data, h.timeTitle, fun _ => rfl, fun _ => rfl⟩
  intro vc hvc
  rw [← Option.some.inj hvc]
  exact ⟨hdata.trans hsaved, htimeTitle.trans h.timeTitle⟩

theorem paired_setData {s : ChartProcess} {old new : List (Str × Str)} (h : Paired screen s old new)
    (hstep : s.step = .setData) : Paired screen (s.setData screen) old new := by
  have halive : s.vc.isSome := h.alive (by simp [hstep])
  obtain ⟨vc, hvc⟩ := Option.isSome_iff_exists.mp halive
  obtain ⟨hdata, htimeTitle, hvc'⟩ := saved_setData screen hvc
  have hnext : (s.setData screen).step = .setTimeTitle ∧ (s.setData screen).recorded = s.recorded := by
    simp [setData, hvc]
  refine ⟨?_, h.oldLength, h.newLength, ?_, ?_, ?_, ?_, ?_⟩
  . rw [hnext.2]
    exact h.recorded
  . rw [hvc', ← hvc]
    exact h.holds
  . rw [hdata, hnext.1]
    exact (h.holds vc hvc).data
  . rw [htimeTitle]
    exact h.timeTitle
  . simp [hnext.1]
  . simp [hvc']

theorem paired_setTimeTitle {s : ChartProcess} {old new : List (Str × Str)}
    (h : Paired screen s old new) (hstep : s.step = .setTimeTitle)
    : Paired screen (s.setTimeTitle screen) new new := by
  have halive : s.vc.isSome := h.alive (by simp [hstep])
  obtain ⟨vc, hvc⟩ := Option.isSome_iff_exists.mp halive
  obtain ⟨hdata, htimeTitle, hvc'⟩ := saved_setTimeTitle screen hvc
  have hnext : (s.setTimeTitle screen).step = .idle
      ∧ (s.setTimeTitle screen).recorded = s.recorded := by
    simp [setTimeTitle, hvc]
  have hsaved := h.data
  simp only [hstep, ↓reduceIte] at hsaved
  refine ⟨?_, h.newLength, h.newLength, ?_, ?_, ?_, fun _ => rfl, ?_⟩
  . intro pair hpair
    rw [hnext.2]
    apply h.recorded
    rcases List.mem_append.mp hpair with hpair | hpair <;> exact List.mem_append_right _ hpair
  . rw [hvc', ← hvc]
    exact h.holds
  . rw [hdata, ite_self]
    exact hsaved
  . rw [htimeTitle]
    exact (h.holds vc hvc).timeTitle
  . simp [hnext.1]

theorem paired_kill {s : ChartProcess} {old new : List (Str × Str)} (h : Paired screen s old new)
    (hclean : CleanKill screen s .kill)
    : ∃ w, Paired screen { s with vc := none, step := .idle } w w := by
  have hkill : ∀ w, (∀ pair ∈ w, pair ∈ old ++ new) → w.length ≤ 7
      → s.saved screen.dataKey = w.map Prod.fst → s.saved screen.timeTitleKey = w.map Prod.snd
      → Paired screen { s with vc := none, step := .idle } w w := by
    intro w hmem hlength hdata htimeTitle
    refine ⟨?_, hlength, hlength, by simp, ?_, htimeTitle, fun _ => rfl, by simp⟩
    . intro pair hpair
      apply h.recorded
      apply hmem
      rcases List.mem_append.mp hpair with hpair | hpair <;> exact hpair
    . rw [ite_self]
      exact hdata
  have hdata := h.data
  by_cases hstep : s.step = .setTimeTitle
  . -- The second step would not change the saved titles, so the save is as good as complete.
    have halive : s.vc.isSome := h.alive (by simp [hstep])
    obtain ⟨vc, hvc⟩ := Option.isSome_iff_exists.mp halive
    simp only [hstep, ↓reduceIte] at hdata
    refine ⟨new, hkill new (fun pair hpair => List.mem_append_right _ hpair) h.newLength hdata ?_⟩
    rw [hclean hstep vc hvc]
    exact (h.holds vc hvc).timeTitle
  . simp only [hstep, ↓reduceIte] at hdata
    exact ⟨old, hkill old (fun pair hpair => List.mem_append_left _ hpair) h.oldLength hdata h.timeTitle⟩

theorem paired_next {s : ChartProcess} {old new : List (Str × Str)} (hordered : Ordered screen s)
    (h : Paired screen s old new) {a : Action} (he : (machine screen).enabled s a)
    (hclean : CleanKill screen s a)
    : ∃ old' new', Paired screen ((machine screen).next s a) old' new' := by
  cases a with
  | deliver data time =>
    obtain ⟨hidle, halive, hdata⟩ := he
    rw [h.idle hidle] at h
    exact ⟨_, _, paired_deliver hordered h halive hdata time⟩
  | reopen =>
    rw [h.idle he] at h
    exact ⟨_, _, paired_reopen h⟩
  | setData => exact ⟨_, _, paired_setData h he⟩
  | setTimeTitle => exact ⟨_, _, paired_setTimeTitle h he⟩
  | kill =>
    obtain ⟨w, hw⟩ := paired_kill h hclean
    exact ⟨w, w, hw⟩

instance (s : ChartProcess) (a : Action) : Decidable (CleanKill screen s a) :=
  match a with
  | .kill =>
    inferInstanceAs (Decidable (s.step = .setTimeTitle →
      ∀ vc ∈ s.vc, s.saved screen.timeTitleKey = vc.timeTitle))
  | .deliver _ _ => inferInstanceAs (Decidable True)
  | .setData => inferInstanceAs (Decidable True)
  | .setTimeTitle => inferInstanceAs (Decidable True)
  | .reopen => inferInstanceAs (Decidable True)

/--
The lists that `initData` would load have one length, and each title is the time at which the value next to
it has been recorded.
-/
def Reloads (screen : ChartScreen) (s : ChartProcess) : Prop :=
  let vc := (ChartViewController.viewDidLoad screen s.userDefaults).1
  vc.timeTitle.length = vc.data.length ∧ ∀ pair ∈ vc.data.zip vc.timeTitle, pair ∈ s.recorded

theorem reloads_of_paired {s : ChartProcess} {old new : List (Str × Str)}
    (h : Paired screen s old new) (hidle : s.step = .idle) : Reloads screen s := by
  obtain ⟨hdata, htimeTitle⟩ := saved_viewDidLoad screen s
  have hsaved := h.data
  rw [h.idle hidle, ite_self] at hsaved
  unfold Reloads
  dsimp
  rw [hdata, htimeTitle, hsaved, h.timeTitle, h.idle hidle, List.length_map, List.length_map]
  refine ⟨rfl, ?_⟩
  intro pair hpair
  rw [List.zip_map', List.map_id'] at hpair
  exact h.recorded pair (List.mem_append_right _ hpair)

theorem paired_run {s : ChartProcess} {old new : List (Str × Str)} (hordered : Ordered screen s)
    (h : Paired screen s old new) {as : List Action} (hv : (machine screen).Valid s as)
    (hclean : (machine screen).Steps (CleanKill screen) s as)
    : ∃ old' new', Paired screen ((machine screen).run s as) old' new' := by
  induction as generalizing s old new with
  | nil => exact ⟨old, new, h⟩
  | cons a as ih =>
    obtain ⟨old', new', hnext⟩ := paired_next hordered h hv.1 hclean.1
    exact ih (ordered_next hordered hv.1) hnext hv.2 hclean.2

/--
In every run from empty user defaults no reading traps, and the lists that are loaded have a value for every
title. They have one length, and each title belongs to its value, if all kills are clean.
-/
theorem reloads_of_cleanKill (screen : ChartScreen) {as : List Action}
    (hv : (machine screen).Valid (start screen fun _ => none) as)
    : let s := (machine screen).run (start screen fun _ => none) as
      (∀ data time, (machine screen).enabled s (.deliver data time)
        → ((machine screen).next s (.deliver data time)).vc.isSome)
        ∧
      ((machine screen).enabled s .reopen
        →
      (s.saved screen.timeTitleKey).length ≤ (s.saved screen.dataKey).length
        ∧
      ((machine screen).Steps (CleanKill screen) (start screen fun _ => none) as → Reloads screen s)) := by
  intro s
  have hordered : Ordered screen s :=
    Machine.run_invariant (P := Ordered screen) (fun s a h he => ordered_next h he) ordered_start hv
  refine ⟨?_, ?_⟩
  . rintro data time ⟨_, halive, hdata⟩
    obtain ⟨vc, hvc⟩ := Option.isSome_iff_exists.mp halive
    obtain ⟨vc', heq, _⟩ := deliver_of_fits hvc (hordered.shown vc hvc) hdata time
    dsimp [machine]
    rw [heq]
    rfl
  . intro hidle
    refine ⟨hordered.saved.le, ?_⟩
    intro hclean
    obtain ⟨old, new, hpaired⟩ := paired_run ordered_start paired_start hv hclean
    exact reloads_of_paired hpaired hidle

theorem title_lost
    : ¬ ∀ as : List Action,
        (machine temperatureScreen).Valid (start temperatureScreen fun _ => none) as
          →
        (machine temperatureScreen).enabled
            ((machine temperatureScreen).run (start temperatureScreen fun _ => none) as) .reopen
          →
        Reloads temperatureScreen
          ((machine temperatureScreen).run (start temperatureScreen fun _ => none) as) := by
  intro h
  have hreloads := h [.deliver ['2', '0'] ['a'], .setData, .kill] (by decide +kernel) (by decide +kernel)
  exact absurd hreloads.1 (by decide +kernel)

theorem reloads_of_repeated_reading
    : Reloads temperatureScreen ((machine temperatureScreen).run (start temperatureScreen fun _ => none)
        [.deliver ['2', '0'] ['a'], .setData, .setTimeTitle, .deliver ['2', '0'] ['b'], .setData, .kill,
          .reopen]) :=
  ((reloads_of_cleanKill temperatureScreen (by decide +kernel)).2 (by decide +kernel)).2
    (by decide +kernel)

end ChartProcess

end SmartGarden

import SmartGarden.HomeScreen.Run

/-!
This module contains what a chart screen keeps when words of any length and content arrive and the process
is started again after every trap.
-/

open Swift

namespace SmartGarden

namespace ChartRun

variable {screen : ChartScreen}

theorem deliver_trap_iff {s : ChartRun} {w : List (Str × Str)} (h : Keeps screen s w)
    (halive : s.vc.isSome) (data time : Str)
    : (s.deliver screen (.string data) time).vc = none ↔ ¬ Parses (screen.slice data) := by
  constructor
  . intro htrap hdata
    obtain ⟨vc, _, heq, _⟩ := deliver_of_parses h halive hdata time
    rw [heq] at htrap
    contradiction
  . intro hdata
    rw [deliver_of_not_parses h halive hdata]

def Loadable (screen : ChartScreen) (s : ChartRun) : Prop :=
  (s.saved screen.dataKey).length = (s.saved screen.timeTitleKey).length
    ∧
  ∀ value ∈ s.saved screen.dataKey, Parses value

def Charted (screen : ChartScreen) (s : ChartRun) (slice : Str) : Prop :=
  ∃ vc lineChart w, s.vc = some vc ∧ vc.lineChart = some lineChart ∧ Window.lastKey w = some slice
    ∧ ChartViewController.Depicts lineChart w
    ∧ s.userDefaults screen.dataKey = some (w.map Prod.fst)
    ∧ s.userDefaults screen.timeTitleKey = some (w.map Prod.snd)

theorem loadable_of_keeps {s : ChartRun} {w : List (Str × Str)} (h : Keeps screen s w)
    : Loadable screen s := by
  unfold Loadable
  rw [h.data, h.timeTitle, List.length_map, List.length_map]
  refine ⟨rfl, ?_⟩
  intro value hvalue
  obtain ⟨pair, hpair, rfl⟩ := List.mem_map.mp hvalue
  exact h.parses pair hpair

theorem charted_of_parses {s : ChartRun} {w : List (Str × Str)} (h : Keeps screen s w)
    (halive : s.vc.isSome) {data : Str} (hdata : Parses (screen.slice data)) (time : Str)
    : Charted screen (s.deliver screen (.string data) time) (screen.slice data) := by
  obtain ⟨vc, lineChart, heq, hholds, hlineChart, hdepicts⟩ := deliver_of_parses h halive hdata time
  rw [heq]
  refine ⟨vc, lineChart, _, rfl, hlineChart, Window.lastKey_push (by decide) _ _, hdepicts, ?_, ?_⟩
  . rw [← hholds.data]
    apply vc.saveData_dataKey
  . rw [← hholds.timeTitle]
    apply vc.saveData_timeTitleKey

/--
In every state of a run from empty user defaults the saved lists can be loaded. While the screen is open,
a word traps exactly when its slice does not parse, nothing is saved then, and every other word is charted
and saved.
-/
theorem bad_reading_not_saved (screen : ChartScreen) {as : List Action}
    (hv : (machine screen).Valid (start screen fun _ => none) as)
    : let s := (machine screen).run (start screen fun _ => none) as
      Loadable screen s
        ∧
      (s.vc.isSome → ∀ data time,
        let after := (machine screen).next s (.deliver (.string data) time)
        (after.vc = none ↔ ¬ Parses (screen.slice data))
          ∧
        (after.vc = none → after.userDefaults = s.userDefaults)
          ∧
        (Parses (screen.slice data) → Charted screen after (screen.slice data))) := by
  intro s
  have hkeeps := keeps_run keeps_empty hv
  refine ⟨loadable_of_keeps hkeeps, ?_⟩
  intro halive data time after
  have htrap := deliver_trap_iff hkeeps halive data time
  refine ⟨htrap, ?_, ?_⟩
  . intro hnone
    have hafter := congrArg ChartRun.userDefaults
      (deliver_of_not_parses hkeeps halive (htrap.mp hnone) time)
    exact hafter
  . intro hdata
    apply charted_of_parses hkeeps halive hdata

theorem bad_reading_not_saved_twice
    : let s := (machine humidityScreen).run (start humidityScreen fun _ => none)
        [.deliver (.string ['2', '0', '5', '5']) ['a'], .deliver (.string ['2', '0']) ['b'], .reopen]
      Loadable humidityScreen s
        ∧
      (((machine humidityScreen).next s (.deliver (.string ['2', '0', '5', 'x']) ['c'])).vc = none
        ↔ ¬ Parses ['5', 'x'])
        ∧
      Charted humidityScreen
        ((machine humidityScreen).next s (.deliver (.string ['2', '0', '5', '6']) ['c'])) ['5', '6'] := by
  have hrun := @bad_reading_not_saved humidityScreen
    [.deliver (.string ['2', '0', '5', '5']) ['a'], .deliver (.string ['2', '0']) ['b'], .reopen]
    (by decide +kernel)
  have halive := hrun.2 rfl
  exact ⟨hrun.1, (halive ['2', '0', '5', 'x'] ['c']).1,
    (halive ['2', '0', '5', '6'] ['c']).2.2 (by decide +kernel)⟩

end ChartRun

end SmartGarden

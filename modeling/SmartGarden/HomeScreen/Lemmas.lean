import Mathlib.Data.Rat.Cast.Order
import Mathlib.Tactic.Linarith
import SmartGarden.HomeScreen.Impl
import SmartGarden.Lib.Window
import SmartGarden.Swift.Rounding

/-!
This module contains the specification of the chart handlers over the list of pairs that the two parallel
lists of a screen stand for.
-/

open Swift

namespace SmartGarden

def Parses (text : Str) : Prop :=
  (Double? text).isSome

instance (text : Str) : Decidable (Parses text) :=
  inferInstanceAs (Decidable ((Double? text).isSome = true))

namespace UserDefaults

@[simp]
theorem set_self (userDefaults : UserDefaults) (value : List Str) (key : String)
    : userDefaults.set value key key = some value := by
  simp [set]

theorem set_other (userDefaults : UserDefaults) (value : List Str) {key other : String}
    (h : other ≠ key) : userDefaults.set value key other = userDefaults other := by
  simp [set, h]

end UserDefaults

theorem mapM_isSome {f : α → Option β} (l : List α)
    : (l.mapM f).isSome ↔ ∀ a ∈ l, (f a).isSome := by
  induction l with
  | nil => simp
  | cons a l ih =>
    rw [List.mapM_cons, List.forall_mem_cons, ← ih]
    cases f a <;> cases l.mapM f <;> simp

theorem map_of_mapM {f : α → Option β} {l : List α} {l' : List β} (h : l.mapM f = some l')
    : l.map f = l'.map some := by
  induction l generalizing l' with
  | nil =>
    cases h
    rfl
  | cons a l ih =>
    rw [List.mapM_cons] at h
    cases hb : f a with
    | none => simp [hb] at h
    | some b =>
      cases hl : l.mapM f with
      | none => simp [hb, hl] at h
      | some bs =>
        simp only [hb, hl, bind, Option.bind_some, pure, Option.some.injEq] at h
        rw [← h, List.map_cons, List.map_cons, hb, ih hl]

theorem rounded_natCast (i : Nat) : rounded i = i := by
  have hnonneg : (0 : Rat) ≤ i := Nat.cast_nonneg i
  have hle : (i : Int) ≤ ((i : Rat) + 1 / 2).floor := by
    rw [Rat.le_floor_iff]
    push_cast
    linarith
  have hlt : ((i : Rat) + 1 / 2).floor < (i : Int) + 1 := by
    rw [Rat.floor_lt_iff]
    push_cast
    linarith
  simp only [rounded, hnonneg, ↓reduceIte]
  omega

theorem truncated_natCast (i : Nat) : truncated i = i := by
  exact truncated_intCast i

theorem stringForValue_natCast (values : List Str) (i : Nat) (h : i < values.length)
    : stringForValue values i = values[i] := by
  simp [stringForValue, rounded_natCast, truncated_natCast, h]

namespace ChartViewController

variable {screen : ChartScreen}

theorem initData_eq (vc : ChartViewController) (userDefaults : UserDefaults)
    : vc.initData screen userDefaults
        =
      { vc with
        data := (userDefaults screen.dataKey).getD vc.data
        timeTitle := (userDefaults screen.timeTitleKey).getD vc.timeTitle } := by
  unfold initData
  cases userDefaults screen.dataKey <;> cases userDefaults screen.timeTitleKey <;> rfl

theorem saveData_dataKey (vc : ChartViewController) (userDefaults : UserDefaults)
    : vc.saveData screen userDefaults screen.dataKey = some vc.data := by
  unfold saveData setTimeTitle setData
  rw [UserDefaults.set_other _ _ screen.distinct, UserDefaults.set_self]

theorem saveData_timeTitleKey (vc : ChartViewController) (userDefaults : UserDefaults)
    : vc.saveData screen userDefaults screen.timeTitleKey = some vc.timeTitle := by
  unfold saveData setTimeTitle
  rw [UserDefaults.set_self]

theorem saveData_other (vc : ChartViewController) (userDefaults : UserDefaults) {key : String}
    (hdata : key ≠ screen.dataKey) (htimeTitle : key ≠ screen.timeTitleKey)
    : vc.saveData screen userDefaults key = userDefaults key := by
  unfold saveData setTimeTitle setData
  rw [UserDefaults.set_other _ _ htimeTitle, UserDefaults.set_other _ _ hdata]

structure Holds (vc : ChartViewController) (w : List (Str × Str)) : Prop where
  data : vc.data = w.map Prod.fst
  timeTitle : vc.timeTitle = w.map Prod.snd

theorem appendTemperature_cases (vc : ChartViewController) (data title : Str)
    : (vc.data.getLast? = some data ∧ vc.appendTemperature data title = vc)
        ∨
      (vc.data.getLast? ≠ some data
        ∧ vc.appendTemperature data title
            = { vc with data := vc.data ++ [data], timeTitle := vc.timeTitle ++ [title] }) := by
  unfold appendTemperature
  cases vc.data.getLast? with
  | none => simp
  | some lastTemp =>
    by_cases h : lastTemp = data
    . simp [h]
    . simp [h]

theorem getLast?_of_holds {vc : ChartViewController} {w : List (Str × Str)} (h : vc.Holds w)
    : vc.data.getLast? = Window.lastKey w := by
  rw [h.data, List.getLast?_map]
  rfl

theorem appendTemperature_holds {vc : ChartViewController} {w : List (Str × Str)} (h : vc.Holds w)
    (data time : Str)
    : (vc.appendTemperature data time).Holds
        (if Window.lastKey w = some data then w else w ++ [(data, time)]) := by
  rw [← getLast?_of_holds h]
  rcases vc.appendTemperature_cases data time with ⟨hrepeats, heq⟩ | ⟨hrepeats, heq⟩
  . simpa [hrepeats, heq] using h
  . simp only [hrepeats, ↓reduceIte, heq]
    constructor
    . simp [h.data]
    . simp [h.timeTitle]

theorem removeFirst_holds {vc : ChartViewController} {w : List (Str × Str)} (h : vc.Holds w)
    : vc.removeFirst.Holds w.tail where
  data := by rw [List.map_tail, ← h.data]; rfl
  timeTitle := by rw [List.map_tail, ← h.timeTitle]; rfl

theorem record_holds (screen : ChartScreen) {vc : ChartViewController} {w : List (Str × Str)} (h : vc.Holds w)
    (hw : w.length ≤ 7) (data time : Str)
    : (vc.record screen data time).Holds (Window.push 7 w (screen.slice data, time)) := by
  have hrecord := appendTemperature_holds h (screen.slice data) time
  unfold record Window.push
  generalize vc.appendTemperature (screen.slice data) time = vc' at hrecord
  dsimp
  rw [hrecord.data, hrecord.timeTitle, List.length_map, List.length_map]
  by_cases hlast : Window.lastKey w = some (screen.slice data)
  . have hle : ¬ 7 < w.length := by omega
    simpa [hlast, hle] using hrecord
  . simp only [hlast, ↓reduceIte] at hrecord ⊢
    split
    . next hgt =>
      have hdrop : (w ++ [(screen.slice data, time)]).length - 7 = 1 := by
        simp only [List.length_append, List.length_singleton] at hgt ⊢
        omega
      unfold List.rtake
      rw [hdrop, List.drop_one]
      exact removeFirst_holds hrecord
    . next hgt =>
      rw [Window.rtake_of_length_le (by omega)]
      exact hrecord

structure Depicts (lineChart : LineChart) (w : List (Str × Str)) : Prop where
  length : lineChart.entries.length = w.length
  point : ∀ i (h : i < w.length), ∃ y, Double? w[i].1 = some y
    ∧ lineChart.entries[i]? = some { x := (i : Rat), y := y }
    ∧ stringForValue lineChart.values i = w[i].2

theorem chartDataEntry_of_holds {vc : ChartViewController} {w : List (Str × Str)} (h : vc.Holds w)
    (i : Nat) (hi : i < w.length)
    : chartDataEntry vc.data i = (Double? w[i].1).map fun y => { x := (i : Rat), y := y } := by
  have hvalue : vc.data[i]? = some w[i].1 := by simp [h.data, hi]
  unfold chartDataEntry
  rw [hvalue]
  dsimp
  cases Double? w[i].1 <;> rfl

theorem createLineChart_isSome (vc : ChartViewController) (timeTitle values : List Str)
    : (vc.createLineChart screen timeTitle values).isSome
        ↔
      ∀ i < timeTitle.length, ∃ value, values[i]? = some value ∧ Parses value := by
  have hentry : ∀ i, (chartDataEntry values i).isSome
      ↔ ∃ value, values[i]? = some value ∧ Parses value := by
    intro i
    unfold chartDataEntry
    cases values[i]? with
    | none => simp
    | some value => cases hvalue : Double? value <;> simp [Parses, hvalue]
  have hlineArr : (vc.createLineChart screen timeTitle values).isSome
      = ((List.range timeTitle.length).mapM (chartDataEntry values)).isSome := by
    unfold createLineChart
    cases (List.range timeTitle.length).mapM (chartDataEntry values) <;> rfl
  rw [hlineArr, mapM_isSome]
  simp only [List.mem_range, hentry]

theorem createLineChart_isSome_of_holds {vc : ChartViewController} {w : List (Str × Str)}
    (h : vc.Holds w)
    : (vc.createLineChart screen vc.timeTitle vc.data).isSome ↔ ∀ pair ∈ w, Parses pair.1 := by
  rw [createLineChart_isSome, h.timeTitle, h.data, List.length_map]
  constructor
  . intro hall pair hpair
    obtain ⟨i, hi, rfl⟩ := List.getElem_of_mem hpair
    obtain ⟨value, hvalue, hparses⟩ := hall i hi
    rw [List.getElem?_map, List.getElem?_eq_getElem hi, Option.map_some, Option.some.injEq] at hvalue
    rw [hvalue]
    exact hparses
  . intro hall i hi
    refine ⟨w[i].1, by simp [hi], hall w[i] (List.getElem_mem hi)⟩

theorem createLineChart_cases {vc vc' : ChartViewController} {timeTitle values : List Str}
    (hdraw : vc.createLineChart screen timeTitle values = some vc')
    : ∃ lineChart, vc' = { vc with lineChart := some lineChart }
        ∧ (List.range timeTitle.length).mapM (chartDataEntry values) = some lineChart.entries
        ∧ lineChart.values = timeTitle.rtake 7 := by
  unfold createLineChart at hdraw
  cases harr : (List.range timeTitle.length).mapM (chartDataEntry values) with
  | none => simp [harr] at hdraw
  | some lineArr =>
    simp only [harr, bind, Option.bind_some, pure, ↓reduceIte, Option.some.injEq] at hdraw
    exact ⟨_, hdraw.symm, rfl, rfl⟩

theorem createLineChart_lists {vc vc' : ChartViewController} {timeTitle values : List Str}
    (hdraw : vc.createLineChart screen timeTitle values = some vc')
    : vc'.data = vc.data ∧ vc'.timeTitle = vc.timeTitle := by
  obtain ⟨lineChart, rfl, _⟩ := createLineChart_cases hdraw
  exact ⟨rfl, rfl⟩

theorem createLineChart_eq {vc vc' : ChartViewController} {w : List (Str × Str)} (h : vc.Holds w)
    (hw : w.length ≤ 7) (hdraw : vc.createLineChart screen vc.timeTitle vc.data = some vc')
    : vc'.Holds w ∧ ∃ lineChart, vc'.lineChart = some lineChart ∧ Depicts lineChart w := by
  obtain ⟨lineChart, rfl, hentries, hvalues⟩ := createLineChart_cases hdraw
  refine ⟨⟨h.data, h.timeTitle⟩, lineChart, rfl, ?_⟩
  have hmap := map_of_mapM hentries
  rw [h.timeTitle, List.length_map] at hmap
  have hlength : lineChart.entries.length = w.length := by
    simpa using (congrArg List.length hmap).symm
  have hlabels : lineChart.values = w.map Prod.snd := by
    rw [hvalues, h.timeTitle]
    apply Window.rtake_of_length_le
    rw [List.length_map]
    exact hw
  refine ⟨hlength, ?_⟩
  intro i hi
  have hentry := congrArg (fun l => l[i]?) hmap
  rw [List.getElem?_map, List.getElem?_range hi, List.getElem?_map, Option.map_some] at hentry
  rw [chartDataEntry_of_holds h i hi] at hentry
  have hi' : i < lineChart.entries.length := by omega
  rw [List.getElem?_eq_getElem hi', Option.map_some, Option.some.injEq, Option.map_eq_some_iff]
    at hentry
  obtain ⟨y, hy, hentry⟩ := hentry
  refine ⟨y, hy, ?_, ?_⟩
  . rw [List.getElem?_eq_getElem hi', hentry]
  . rw [hlabels]
    rw [stringForValue_natCast _ _ (by rw [List.length_map]; exact hi)]
    rw [List.getElem_map]

theorem draw_isSome {vc : ChartViewController} {w : List (Str × Str)} (h : vc.Holds w)
    (hw : w.length ≤ 7) (hparses : ∀ pair ∈ w, Parses pair.1) (data time : Str)
    : (vc.draw screen data time).isSome ↔ Parses (screen.slice data) := by
  unfold draw
  rw [createLineChart_isSome_of_holds (record_holds screen h hw data time)]
  exact Window.forall_push_iff (by decide) hparses _

theorem draw_eq {vc vc' : ChartViewController} {w : List (Str × Str)} (h : vc.Holds w)
    (hw : w.length ≤ 7) {data time : Str} (hdraw : vc.draw screen data time = some vc')
    : vc'.Holds (Window.push 7 w (screen.slice data, time))
        ∧
      ∃ lineChart, vc'.lineChart = some lineChart
        ∧ Depicts lineChart (Window.push 7 w (screen.slice data, time)) :=
  createLineChart_eq (record_holds screen h hw data time) (Window.length_push_le hw _) hdraw

end ChartViewController

end SmartGarden

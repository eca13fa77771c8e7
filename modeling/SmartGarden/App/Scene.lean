import SmartGarden.App.Awaits
import SmartGarden.App.Charts

/-!
This module contains the app with the chart screens that it presents over its tabs. All of them share the
indicator, and a chart screen that is closed leaves behind an observer which cannot dismiss it any more.
-/

open Swift

namespace SmartGarden

namespace Charts

/--
What the handlers that a step calls do to the outside world.
-/
def effects (s : Charts) (a : Action) : List Effect :=
  match a with
  | .didSelectItemAt row =>
    match viewController row with
    | some sensor => (ChartViewController.viewDidLoad sensor.screen s.userDefaults).2
    | none => []
  | .event k value time =>
    match s.target k with
    | some screen =>
      (screen.vc.dataFetched screen.sensor.screen s.userDefaults (fetchDataFromFirebase value) time).2.2
    | none => []
  | .dismiss => []
  | .relaunch => []

theorem indicator_dataFetched (screen : ChartScreen) (vc : ChartViewController)
    (userDefaults : UserDefaults) (result : Result Str) (time : Str)
    : indicator (vc.dataFetched screen userDefaults result time).2.2 = some false := by
  cases result with
  | success data =>
    dsimp only [ChartViewController.dataFetched]
    cases vc.draw screen data time <;> rfl
  | failure message => rfl

def Called (as : List Action) (k : Nat) : Prop :=
  ∃ value time, .event k value time ∈ as

/--
After `as`, the observer of the open screen has not been called yet.
-/
def Awaits (as : List Action) (s : Charts) : Prop :=
  ∃ screen ∈ s.presented, ∃ k : Nat, s.observers[k]? = some screen.number ∧ ¬ Called as k

theorem called_concat {as : List Action} {a : Action} {k : Nat} (h : Called (as ++ [a]) k)
    : Called as k ∨ ∃ value time, a = .event k value time := by
  obtain ⟨value, time, hevent⟩ := h
  cases List.mem_append.mp hevent with
  | inl hold => exact Or.inl ⟨value, time, hold⟩
  | inr hnew => exact Or.inr ⟨value, time, (List.mem_singleton.mp hnew).symm⟩

theorem observers_next {s : Charts} {a : Action} (ha : a ≠ .relaunch)
    : s.observers <+: (machine.next s a).observers := by
  cases a with
  | didSelectItemAt row =>
    dsimp only [machine]
    split
    . exact List.prefix_append _ _
    . exact List.prefix_refl _
  | dismiss => exact List.prefix_refl _
  | event k value time =>
    dsimp only [machine, event]
    split
    . next screen _ => rw [(s.deliver_observers screen value time).1]
    . exact List.prefix_refl _
  | relaunch => contradiction

theorem called_next {s : Charts} {as : List Action} {a : Action}
    (hs : ∀ k, Called as k → k < s.observers.length) (he : machine.enabled s a) (ha : a ≠ .relaunch)
    (k : Nat) (hk : Called (as ++ [a]) k) : k < (machine.next s a).observers.length := by
  apply Nat.lt_of_lt_of_le _ (observers_next ha).length_le
  cases called_concat hk with
  | inl hold => exact hs k hold
  | inr hnew =>
    obtain ⟨value, time, rfl⟩ := hnew
    exact he.2

theorem awaits_present {s : Charts} {as : List Action} (hs : ∀ k, Called as k → k < s.observers.length)
    (sensor : Sensor) {a : Action} (ha : ∀ k value time, a ≠ .event k value time)
    : (s.present sensor).Awaits (as ++ [a]) := by
  refine ⟨_, rfl, s.observers.length, List.getElem?_concat_length, ?_⟩
  intro hcalled
  cases called_concat hcalled with
  | inl hold => exact Nat.lt_irrefl _ (hs _ hold)
  | inr hnew =>
    obtain ⟨value, time, heq⟩ := hnew
    exact ha _ value time heq

/--
Another observer is called.
-/
theorem awaits_concat {s : Charts} {as : List Action} {a : Action} (h : s.Awaits as)
    (ha : ∀ k value time, a = .event k value time → s.target k = none) : s.Awaits (as ++ [a]) := by
  obtain ⟨screen, hpresented, k, hk, hcalled⟩ := h
  refine ⟨screen, hpresented, k, hk, ?_⟩
  intro hcalled'
  cases called_concat hcalled' with
  | inl hold => exact hcalled hold
  | inr hnew =>
    obtain ⟨value, time, rfl⟩ := hnew
    have hnone := ha k value time rfl
    unfold target at hnone
    rw [Option.filter_eq_none_iff] at hnone
    exact hnone screen hpresented (by simpa using hk)

end Charts

namespace Overlay

/--
The indicator is up, or a block is waiting that may put it up.
-/
def Covers (s : Overlay String) : Prop :=
  s.queue ≠ [] ∨ s.hud.viewBackground.isSome

end Overlay

structure Scene where
  shell : Shell
  charts : Charts

namespace Scene

inductive Action where
  | shell (a : Shell.Action)
  | charts (a : Charts.Action)

/--
A presented screen covers the tabs. A trap of one of its handlers ends the process.
-/
def machine : Machine Scene Action where
  enabled s a :=
    s.charts.running = true ∧
      match a with
      | .shell (.tabs a) => Shell.machine.enabled s.shell (.tabs a)
          ∧ (Shell.touches a → s.charts.presented.isNone)
      | .shell (.overlay a) => Shell.machine.enabled s.shell (.overlay a)
      | .charts (.didSelectItemAt row) => Charts.machine.enabled s.charts (.didSelectItemAt row)
          ∧ s.shell.overlay.hud.viewBackground = none
      -- The close button leaves the closing to the main queue, where the indicator may have come up.
      | .charts .dismiss => Charts.machine.enabled s.charts .dismiss
      | .charts (.event k value time) => Charts.machine.enabled s.charts (.event k value time)
      -- A launch begins a new scene.
      | .charts .relaunch => False
  next s a :=
    match a with
    | .shell a => { s with shell := Shell.machine.next s.shell a }
    | .charts a => {
      shell := { s.shell with
        overlay := { s.shell.overlay with
          queue := s.shell.overlay.queue ++ Shell.calls (s.charts.effects a) } }
      charts := Charts.machine.next s.charts a }

instance (s : Scene) (a : Action) : Decidable (machine.enabled s a) :=
  match a with
  | .shell (.tabs a) =>
    inferInstanceAs (Decidable (s.charts.running = true ∧ Shell.machine.enabled s.shell (.tabs a)
      ∧ (Shell.touches a = true → s.charts.presented.isNone = true)))
  | .shell (.overlay a) =>
    inferInstanceAs (Decidable (s.charts.running = true ∧ Shell.machine.enabled s.shell (.overlay a)))
  | .charts (.didSelectItemAt row) =>
    inferInstanceAs (Decidable (s.charts.running = true
      ∧ Charts.machine.enabled s.charts (.didSelectItemAt row)
      ∧ s.shell.overlay.hud.viewBackground = none))
  | .charts .dismiss =>
    inferInstanceAs (Decidable (s.charts.running = true ∧ Charts.machine.enabled s.charts .dismiss))
  | .charts (.event k value time) =>
    inferInstanceAs (Decidable (s.charts.running = true
      ∧ Charts.machine.enabled s.charts (.event k value time)))
  | .charts .relaunch => inferInstanceAs (Decidable (s.charts.running = true ∧ False))

def start (texts : TextField → Str) (userDefaults : UserDefaults) : Scene where
  shell := Shell.start texts
  charts := { userDefaults := userDefaults }

def Action.tabs? : Action → Option Tabs.Action
  | .shell (.tabs a) => some a
  | _ => none

def Action.charts? : Action → Option Charts.Action
  | .charts a => some a
  | .shell _ => none

/--
After `as`, Firebase owes the app an answer that dismisses the indicator.
-/
def Awaits (as : List Action) (s : Scene) : Prop :=
  s.shell.tabs.Awaits (as.filterMap Action.tabs?) ∨ s.charts.Awaits (as.filterMap Action.charts?)

/--
A chart screen is closed only while the indicator is gone.
-/
def ClosesUncovered (s : Scene) (a : Action) : Prop :=
  match a with
  | .charts .dismiss => s.shell.overlay.queue.length = 0 ∧ s.shell.overlay.hud.viewBackground = none
  | _ => True

instance (s : Scene) (a : Action) : Decidable (ClosesUncovered s a) :=
  match a with
  | .charts .dismiss =>
    inferInstanceAs (Decidable (s.shell.overlay.queue.length = 0
      ∧ s.shell.overlay.hud.viewBackground = none))
  | .charts (.didSelectItemAt _) | .charts (.event _ _ _) | .charts .relaunch | .shell _ =>
    inferInstanceAs (Decidable True)

structure Owed (as : List Action) (s : Scene) : Prop where
  overlay : s.shell.overlay.Inv
  tabs : s.shell.tabs.Owed (as.filterMap Action.tabs?)
  charts : ∀ k, Charts.Called (as.filterMap Action.charts?) k → k < s.charts.observers.length
  awaits : s.shell.overlay.Covers → Shell.Asks s.shell.overlay
    → s.shell.tabs.isShown = true ∨ s.charts.Awaits (as.filterMap Action.charts?)

theorem filterMap_concat {α β : Type} (f : α → Option β) (as : List α) {a : α} (ha : f a = none)
    : (as ++ [a]).filterMap f = as.filterMap f := by
  rw [List.filterMap_append, List.filterMap_cons_none ha]
  exact List.append_nil _

theorem owed_start (texts : TextField → Str) (userDefaults : UserDefaults)
    : (start texts userDefaults).Owed [] where
  overlay := (Shell.inv_start texts).overlay
  tabs := Tabs.owed_start texts
  charts := by
    rintro k ⟨value, time, hevent⟩
    contradiction
  awaits := by
    intro _ _
    exact Or.inl rfl

theorem covers_of_silent {s : Overlay String} {effects : List Effect} (h : indicator effects = none)
    (hcovers : Overlay.Covers { s with queue := s.queue ++ Shell.calls effects }) : s.Covers := by
  rw [Shell.calls_eq_nil h, List.append_nil] at hcovers
  exact hcovers

theorem owed_tabs {as : List Action} {s : Scene} {a : Tabs.Action} (h : s.Owed as)
    (he : machine.enabled s (.shell (.tabs a)))
    : (machine.next s (.shell (.tabs a))).Owed (as ++ [.shell (.tabs a)]) := by
  obtain ⟨tabs, htabs⟩ := Option.isSome_iff_exists.mp he.2.1.1
  have hnext : (machine.next s (.shell (.tabs a))).shell.tabs = tabs := Tabs.next_eq htabs
  have hsame := filterMap_concat Action.charts? as (a := .shell (.tabs a)) rfl
  refine ⟨Shell.inv_queue h.overlay _, ?_, ?_, ?_⟩
  . rw [List.filterMap_append, hnext]
    exact Tabs.owed_step h.tabs htabs
  . rw [hsame]
    exact h.charts
  . intro hcovers hasks
    rw [hsame, hnext, Tabs.isShown_step htabs]
    have hasks' := (Shell.asks_queue s.shell.overlay (s.shell.tabs.effects a)).mp hasks
    cases hindicator : indicator (s.shell.tabs.effects a) with
    | some isShow =>
      rw [hindicator] at hasks'
      exact Or.inl hasks'
    | none =>
      rw [hindicator] at hasks'
      exact h.awaits (covers_of_silent hindicator hcovers) hasks'

theorem covers_of_next {s : Overlay String} {a : Overlay.Action String} (he : Overlay.machine.enabled s a)
    (ha : a.internal = true) (h : (Overlay.machine.next s a).Covers) : s.Covers := by
  cases a with
  | call call => contradiction
  | execute => exact Or.inl (List.ne_nil_of_length_pos he)
  | fire k =>
    have hbackground : (s.hud.fired k).viewBackground = s.hud.viewBackground := by
      unfold ProgressHUD.fired ProgressHUD.hudHide
      dsimp only
      split <;> rfl
    unfold Overlay.Covers at h
    dsimp only [Overlay.machine] at h
    rw [hbackground] at h
    exact h
  | finish =>
    cases h with
    | inl hqueue => exact Or.inl hqueue
    | inr hbackground => contradiction

theorem owed_overlay {as : List Action} {s : Scene} {a : Overlay.Action String} (h : s.Owed as)
    (he : machine.enabled s (.shell (.overlay a)))
    : (machine.next s (.shell (.overlay a))).Owed (as ++ [.shell (.overlay a)]) := by
  have htabs := filterMap_concat Action.tabs? as (a := .shell (.overlay a)) rfl
  have hcharts := filterMap_concat Action.charts? as (a := .shell (.overlay a)) rfl
  have hinternal : a.internal = true := by
    cases a with
    | call call => exact he.2.elim
    | _ => rfl
  have henabled := Shell.enabled_overlay he.2
  refine ⟨Overlay.inv_next h.overlay henabled, ?_, ?_, ?_⟩
  . rw [htabs]
    exact h.tabs
  . rw [hcharts]
    exact h.charts
  . intro hcovers hasks
    rw [hcharts]
    apply h.awaits (covers_of_next henabled hinternal hcovers)
    cases a with
    | call call => contradiction
    | execute => exact (Shell.asks_execute _).mp hasks
    | fire k => exact hasks
    | finish => exact hasks

theorem owed_charts {as : List Action} {s : Scene} {a : Charts.Action} (h : s.Owed as)
    (he : Charts.machine.enabled s.charts a) (ha : a ≠ .relaunch)
    (hawaits : (machine.next s (.charts a)).shell.overlay.Covers
      → (indicator (s.charts.effects a)).elim (Shell.Asks s.shell.overlay) (fun isShow => isShow = true)
      → s.shell.tabs.isShown = true
        ∨ (Charts.machine.next s.charts a).Awaits (as.filterMap Action.charts? ++ [a]))
    : (machine.next s (.charts a)).Owed (as ++ [.charts a]) := by
  have htabs := filterMap_concat Action.tabs? as (a := .charts a) rfl
  refine ⟨Shell.inv_queue h.overlay _, ?_, ?_, ?_⟩
  . rw [htabs]
    exact h.tabs
  . rw [List.filterMap_append]
    exact Charts.called_next h.charts he ha
  . rw [List.filterMap_append]
    intro hcovers hasks
    exact hawaits hcovers ((Shell.asks_queue _ _).mp hasks)

theorem owed_didSelectItemAt {as : List Action} {s : Scene} {row : Nat} (h : s.Owed as)
    (he : Charts.machine.enabled s.charts (.didSelectItemAt row))
    : (machine.next s (.charts (.didSelectItemAt row))).Owed (as ++ [.charts (.didSelectItemAt row)]) := by
  apply owed_charts h he (by simp)
  intro hcovers hasks
  dsimp only [Charts.machine]
  cases hrow : Charts.viewController row with
  | some sensor =>
    right
    exact Charts.awaits_present h.charts sensor (by simp)
  | none =>
    have hindicator : indicator (s.charts.effects (.didSelectItemAt row)) = none := by
      unfold Charts.effects
      dsimp only
      rw [hrow]
      rfl
    rw [hindicator] at hasks
    apply (h.awaits (covers_of_silent hindicator hcovers) hasks).imp_right
    intro hawaits
    apply Charts.awaits_concat hawaits
    intro k value time heq
    contradiction

theorem owed_event {as : List Action} {s : Scene} {k : Nat} {value : Value} {time : Str} (h : s.Owed as)
    (he : Charts.machine.enabled s.charts (.event k value time))
    : (machine.next s (.charts (.event k value time))).Owed (as ++ [.charts (.event k value time)]) := by
  apply owed_charts h he (by simp)
  intro hcovers hasks
  cases htarget : s.charts.target k with
  | some screen =>
    have hindicator : indicator (s.charts.effects (.event k value time)) = some false := by
      unfold Charts.effects
      dsimp only
      rw [htarget]
      apply Charts.indicator_dataFetched
    rw [hindicator] at hasks
    contradiction
  | none =>
    have hindicator : indicator (s.charts.effects (.event k value time)) = none := by
      unfold Charts.effects
      dsimp only
      rw [htarget]
      rfl
    rw [hindicator] at hasks
    have hnext : Charts.machine.next s.charts (.event k value time) = s.charts := by
      dsimp only [Charts.machine, Charts.event]
      rw [htarget]
    rw [hnext]
    apply (h.awaits (covers_of_silent hindicator hcovers) hasks).imp_right
    intro hawaits
    apply Charts.awaits_concat hawaits
    intro j value' time' heq
    cases heq
    exact htarget

theorem owed_dismiss {as : List Action} {s : Scene} (h : s.Owed as)
    (he : Charts.machine.enabled s.charts .dismiss) (hcloses : ClosesUncovered s (.charts .dismiss))
    : (machine.next s (.charts .dismiss)).Owed (as ++ [.charts .dismiss]) := by
  apply owed_charts h he (by simp)
  intro hcovers _
  obtain ⟨hlength, hbackground⟩ := hcloses
  cases covers_of_silent rfl hcovers with
  | inl hqueue => exact absurd (List.length_eq_zero_iff.mp hlength) hqueue
  | inr hup =>
    rw [hbackground] at hup
    contradiction

theorem owed_next {as : List Action} {s : Scene} {a : Action} (h : s.Owed as) (he : machine.enabled s a)
    (hcloses : ClosesUncovered s a) : (machine.next s a).Owed (as ++ [a]) := by
  cases a with
  | shell a =>
    cases a with
    | tabs a => exact owed_tabs h he
    | overlay a => exact owed_overlay h he
  | charts a =>
    cases a with
    | didSelectItemAt row => exact owed_didSelectItemAt h he.2.1
    | dismiss => exact owed_dismiss h he.2 hcloses
    | event k value time => exact owed_event h he.2
    | relaunch => exact he.2.elim

/--
As long as chart screens are closed only while the indicator is gone, an app at rest with the screen blocked
is owed an answer that unblocks it: the call of an observer which has never been called and whose screen is
there, or the answer to a write of the device list.
-/
theorem blocked_awaits {texts : TextField → Str} {userDefaults : UserDefaults} {as : List Action}
    (hv : machine.Valid (start texts userDefaults) as)
    (hcloses : machine.Steps ClosesUncovered (start texts userDefaults) as)
    (hrest : (machine.run (start texts userDefaults) as).shell.AtRest)
    (hblocked : (machine.run (start texts userDefaults) as).shell.overlay.hud.viewBackground.isSome)
    : (machine.run (start texts userDefaults) as).Awaits as := by
  have h : (machine.run (start texts userDefaults) as).Owed ([] ++ as) := by
    apply Machine.run_history (H := fun as s => s.Owed as) _ (owed_start texts userDefaults) hv hcloses
    intro as s a hs he ha
    exact owed_next hs he ha
  have hkept : (machine.run (start texts userDefaults) as).shell.overlay.Kept := by
    by_contra hkept
    have hdown := Overlay.not_kept_down h.overlay hrest.2 hkept
    rw [hdown.viewBackground] at hblocked
    contradiction
  have hasks : Shell.Asks (machine.run (start texts userDefaults) as).shell.overlay := by
    unfold Shell.Asks
    rw [hrest.1]
    exact hkept
  exact (h.awaits (Or.inr hblocked) hasks).imp_left h.tabs.awaits

/--
A run that ends with a chart screen waiting for its first reading.
-/
def charted : List Action :=
  [.shell (.overlay .execute), .shell (.overlay .execute), .shell (.overlay .execute),
    .shell (.tabs (.event 0 (.string ['3', '0', '7', '0', '5', '0', '4', '0', '1']))),
    .shell (.overlay .execute), .shell (.overlay .finish), .charts (.didSelectItemAt 0),
    .shell (.overlay .execute),
    .charts (.event 0 (.string ['3', '0', '7', '0', '5', '0', '4', '0', '1']) ['a']),
    .shell (.overlay .execute), .shell (.overlay .finish), .charts .dismiss,
    .charts (.didSelectItemAt 3), .charts (.event 0 (.string []) ['b']), .shell (.overlay .execute)]

theorem blocked_awaits_charted
    : (machine.run (start (fun _ => []) fun _ => none) charted).Awaits charted :=
  blocked_awaits (by decide +kernel) (by decide +kernel) ⟨by decide +kernel, by decide +kernel⟩
    (by decide +kernel)

end Scene

end SmartGarden

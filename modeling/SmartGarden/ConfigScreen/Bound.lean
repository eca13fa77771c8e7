import SmartGarden.ConfigScreen.Converge
import SmartGarden.ConfigScreen.DeviceList

/-!
This module contains what one step of the network can do to one device list, and what its cells show in
between.
-/

open Swift

namespace SmartGarden

namespace Viewers

variable {ι : Type} [DecidableEq ι]

theorem workMode_step {s : Viewers ι} (h : s.AllFollow) (p : ι) (value : Value)
    : ∃ result, (s.viewer p).vc.workModeFetched (fetchDataFromFirebase value) = some result
        ∧ (s.workMode p value).viewer = Function.update s.viewer p { s.viewer p with vc := result.1 }
        ∧ (s.workMode p value).word = s.word.update p
          (if ConfigViewController.entersAppMode value then
            (s.word.client p).observe
          else
            s.word.client p) := by
  have hp := h.follows p
  unfold workMode
  cases value with
  | string data =>
    simp only [fetchDataFromFirebase, ConfigViewController.entersAppMode]
    rw [ConfigViewController.workModeFetched_eq _ data (fun _ => hp.engineStates)]
    refine ⟨_, rfl, rfl, ?_⟩
    by_cases hmode : ConfigViewController.isAppMode data
    . simp only [hmode, ↓reduceIte]
      rfl
    . simp only [hmode]
      rfl
  | other =>
    simp only [fetchDataFromFirebase, ConfigViewController.entersAppMode]
    rw [ConfigViewController.workModeFetched_failure_eq _ _ (fun _ => hp.engineStates)]
    exact ⟨_, rfl, rfl, rfl⟩

theorem toggle_step {s : Viewers ι} (h : s.AllFollow) (p : ι) (row : Row) (isOn : Bool)
    : ∃ result, (s.viewer p).vc.switchValueChanged row isOn = some result
        ∧ (s.toggle p row isOn).viewer = Function.update s.viewer p { s.viewer p with vc := result.1 }
        ∧ (s.toggle p row isOn).word
          = s.word.update p ((s.word.client p).write result.1.engineStates) := by
  have hp := h.follows p
  unfold toggle
  rw [ConfigViewController.switchValueChanged_eq _ _ _ hp.engineStates]
  refine ⟨_, rfl, rfl, ?_⟩
  dsimp only
  rw [perform_toggle]
  rfl

theorem event_step {s : Viewers ι} (h : s.AllFollow) {p : ι} {k : Nat}
    (hk : ((s.word.client p).event? k).isSome)
    : ∃ data result, (s.word.client p).event? k = some data
        ∧ (s.viewer p).vc.engineStatesFetched (fetchDataFromFirebase (.string data)) = some result
        ∧ (s.event p k).viewer
          = Function.update s.viewer p { vc := result.1, received := (s.viewer p).received + 1 }
        ∧ (s.event p k).word = s.word.update p ((s.word.client p).take k) := by
  obtain ⟨data, hdata⟩ := Option.isSome_iff_exists.mp hk
  have hlen : 4 ≤ data.length := Observed.all_event? (h.follows p).words hdata
  unfold event
  simp only [hdata, fetchDataFromFirebase]
  rw [ConfigViewController.engineStatesFetched_eq _ _ (fun _ => hlen)]
  exact ⟨data, _, rfl, ConfigViewController.engineStatesFetched_eq _ _ (fun _ => hlen), rfl, rfl⟩

/--
What a step can do to a device list.
-/
inductive Bound (a : Action ι) (p : ι) (vc : ConfigViewController) : ConfigViewController → Prop where
  | same : Bound a p vc vc
  | toggled (row : Row) (isOn : Bool) : Bound a p vc (vc.toggled row isOn)
  | engineStates (data : Str)
    : Bound a p vc (ConfigViewController.reloaded { vc with engineStates := data })
  | workMode (data : Str) (h : a = .workMode p (.string data))
    : Bound a p vc (ConfigViewController.reloaded { vc with workMode := data })
  | reloaded : Bound a p vc vc.reloaded

theorem bound_update {s : Viewers ι} {a : Action ι} {q : ι} {viewer : Viewer}
    (h : Bound a q (s.viewer q).vc viewer.vc) (p : ι)
    : Bound a p (s.viewer p).vc (Function.update s.viewer q viewer p).vc := by
  by_cases hp : p = q
  . subst hp
    rw [Function.update_self]
    exact h
  . rw [Function.update_of_ne hp]
    exact .same

theorem bound_next {s : Viewers ι} (h : s.AllFollow) {a : Action ι} (he : machine.enabled s a) (p : ι)
    : Bound a p (s.viewer p).vc ((machine.next s a).viewer p).vc := by
  cases a with
  | workMode q value =>
    obtain ⟨result, hresult, hviewer, _⟩ := workMode_step h q value
    have hq := (h.follows q).engineStates
    dsimp only [machine]
    rw [hviewer]
    apply bound_update
    cases value with
    | string data =>
      rw [fetchDataFromFirebase, ConfigViewController.workModeFetched_eq _ data (fun _ => hq)] at hresult
      cases hresult
      exact .workMode data rfl
    | other =>
      rw [fetchDataFromFirebase, ConfigViewController.workModeFetched_failure_eq _ _ (fun _ => hq)]
        at hresult
      cases hresult
      exact .reloaded
  | toggle q row isOn =>
    obtain ⟨result, hresult, hviewer, _⟩ := toggle_step h q row isOn
    dsimp only [machine]
    rw [hviewer]
    apply bound_update
    rw [ConfigViewController.switchValueChanged_eq _ _ _ (h.follows q).engineStates] at hresult
    cases hresult
    exact .toggled row isOn
  | event q k =>
    obtain ⟨data, result, hdata, hresult, hviewer, _⟩ := event_step h he
    have hlen : 4 ≤ data.length := Observed.all_event? (h.follows q).words hdata
    dsimp only [machine]
    rw [hviewer]
    apply bound_update
    rw [fetchDataFromFirebase, ConfigViewController.engineStatesFetched_eq _ _ (fun _ => hlen)] at hresult
    cases hresult
    exact .engineStates data
  | _ => exact .same

theorem cells_next {s : Viewers ι} (h : s.AllFollow) {a : Action ι} (he : machine.enabled s a) {p : ι}
    (hcells : (s.viewer p).vc.cells = (s.viewer p).vc.shownCell)
    : ((machine.next s a).viewer p).vc.cells = ((machine.next s a).viewer p).vc.shownCell := by
  have hbound := bound_next h he p
  generalize ((machine.next s a).viewer p).vc = vc at hbound
  cases hbound with
  | same => exact hcells
  | toggled row isOn => exact DeviceList.cells_toggled row isOn (h.follows p).engineStates hcells
  | engineStates data => rfl
  | workMode data _ => rfl
  | reloaded => rfl

theorem workMode_next {s : Viewers ι} (h : s.AllFollow) {a : Action ι} (he : machine.enabled s a) {p : ι}
    (ha : ∀ data, a ≠ .workMode p (.string data))
    : ((machine.next s a).viewer p).vc.workMode = (s.viewer p).vc.workMode := by
  have hbound := bound_next h he p
  generalize ((machine.next s a).viewer p).vc = vc at hbound
  cases hbound with
  | workMode data heq => exact absurd heq (ha data)
  | _ => rfl

theorem workMode_fetched {s : Viewers ι} (h : s.AllFollow) (p : ι) (data : Str)
    : ((s.workMode p (.string data)).viewer p).vc.workMode = data := by
  obtain ⟨result, hresult, hviewer, _⟩ := workMode_step h p (.string data)
  have hp := (h.follows p).engineStates
  rw [fetchDataFromFirebase, ConfigViewController.workModeFetched_eq _ data (fun _ => hp)] at hresult
  cases hresult
  rw [hviewer, Function.update_self]
  rfl

end Viewers

end SmartGarden

import SmartGarden.ConfigScreen.Lemmas
import SmartGarden.Lib.Machine

/-!
This module contains the device list as the user sees it: the four cells, whatever is delivered to the
screen and whatever switches are toggled. The user moves a switch before its handler is called.
-/

open Swift

namespace SmartGarden

structure IssuedWrite where
  path : Path
  data : Str
  -- The last string delivered at `CHEDO` when the write was issued.
  mode : Option Str
  deriving DecidableEq

structure DeviceList where
  vc : ConfigViewController := ConfigViewController.viewDidLoad.1
  mode : Option Str := none
  issued : List IssuedWrite := []
  -- A handler has trapped, and the process has ended.
  trapped : Bool := false

/--
The switch of a cell has been moved, and its handler has not been called yet.
-/
def ConfigViewController.moved (vc : ConfigViewController) (row : Row) (isOn : Bool)
    : ConfigViewController :=
  { vc with cells := Function.update vc.cells row { vc.cells row with isOn := isOn } }

namespace DeviceList

inductive Action where
  | workMode (value : Value)
  | engineStates (value : Value)
  | toggle (row : Row) (isOn : Bool)

def delivered (mode : Option Str) (value : Value) : Option Str :=
  match value with
  | .string data => some data
  | .other => mode

/--
The screen after a handler.
-/
def perform (s : DeviceList) (mode : Option Str) (result? : Option (ConfigViewController × List Effect))
    : DeviceList :=
  match result? with
  | some (vc, effects) =>
    { s with
      vc := vc
      mode := mode
      issued := s.issued ++ (writes effects).map fun write => ⟨write.1, write.2, mode⟩ }
  | none => { s with trapped := true }

def machine (seg : Segmentation := .apart) : Machine DeviceList Action where
  enabled s a :=
    s.trapped = false
      ∧ match a with
        | .workMode _ => True
        | .engineStates (.string data) => 4 ≤ data.length
        | .engineStates .other => True
        | .toggle row _ => (s.vc.cells row).isEnabled = true
  next s a :=
    match a with
    | .workMode value =>
      s.perform (delivered s.mode value) (s.vc.workModeFetched (fetchDataFromFirebase value))
    | .engineStates value => s.perform s.mode (s.vc.engineStatesFetched (fetchDataFromFirebase value))
    | .toggle row isOn =>
      let s := { s with vc := s.vc.moved row isOn }
      s.perform s.mode (s.vc.switchValueChanged row isOn seg)

instance (seg : Segmentation) (s : DeviceList) (a : Action) : Decidable ((machine seg).enabled s a) :=
  match a with
  | .workMode _ => inferInstanceAs (Decidable (s.trapped = false ∧ True))
  | .engineStates (.string data) => inferInstanceAs (Decidable (s.trapped = false ∧ 4 ≤ data.length))
  | .engineStates .other => inferInstanceAs (Decidable (s.trapped = false ∧ True))
  | .toggle row _ => inferInstanceAs (Decidable (s.trapped = false ∧ (s.vc.cells row).isEnabled = true))

/--
The digit that a toggle puts into `engineStates` joins none of its neighbours.
-/
def Fitting (seg : Segmentation) (s : DeviceList) (a : Action) : Prop :=
  match a with
  | .toggle row isOn => Fits seg s.vc.engineStates row isOn
  | _ => True

instance (seg : Segmentation) (s : DeviceList) (a : Action) : Decidable (Fitting seg s a) :=
  match a with
  | .toggle row isOn => inferInstanceAs (Decidable (Fits seg s.vc.engineStates row isOn))
  | .workMode _ => inferInstanceAs (Decidable True)
  | .engineStates _ => inferInstanceAs (Decidable True)

def AppMode (mode : Option Str) : Prop :=
  ∃ m ∈ mode, m ≠ ['1'] ∧ m ≠ ['3']

structure ShowsModel (s : DeviceList) : Prop where
  running : s.trapped = false
  enabled : ∀ row, (s.vc.cells row).isEnabled = true ↔ AppMode s.mode
  on : ∀ row, (s.vc.cells row).isEnabled = true
    → ((s.vc.cells row).isOn = true ↔ engineState s.vc.engineStates row = some '1')
  off : ∀ row, (s.vc.cells row).isEnabled = false → (s.vc.cells row).isOn = false
  handsOff : ∀ write ∈ s.issued, AppMode write.mode

structure Consistent (s : DeviceList) : Prop where
  running : s.trapped = false
  engineStates : 4 ≤ s.vc.engineStates.length
  workMode : s.vc.workMode = s.mode.getD ['1']
  cells : s.vc.cells = s.vc.shownCell
  handsOff : ∀ write ∈ s.issued, AppMode write.mode

theorem isAppMode_getD (mode : Option Str)
    : ConfigViewController.isAppMode (mode.getD ['1']) = true ↔ AppMode mode := by
  unfold ConfigViewController.isAppMode AppMode
  cases mode with
  | none => simp
  | some m => simp

theorem isEnabled_iff {s : DeviceList} (h : s.Consistent) (row : Row)
    : (s.vc.cells row).isEnabled = true ↔ AppMode s.mode := by
  rw [h.cells]
  rw [ConfigViewController.isEnabled_shownCell]
  rw [h.workMode]
  apply isAppMode_getD

theorem showsModel_of_consistent {s : DeviceList} (h : s.Consistent) : s.ShowsModel where
  running := h.running
  enabled := isEnabled_iff h
  on := by
    intro row henabled
    rw [h.cells] at henabled ⊢
    rw [ConfigViewController.isEnabled_shownCell] at henabled
    simp [ConfigViewController.shownCell, henabled]
  off := by
    intro row henabled
    rw [h.cells] at henabled ⊢
    rw [ConfigViewController.isEnabled_shownCell] at henabled
    simp [ConfigViewController.shownCell, henabled]
  handsOff := h.handsOff

theorem consistent_start : Consistent {} where
  running := rfl
  engineStates := Nat.le_refl 4
  workMode := rfl
  cells := by
    funext row
    rfl
  handsOff := by simp

theorem consistent_reloaded {s : DeviceList} (h : s.Consistent) {mode : Option Str}
    {result? : Option (ConfigViewController × List Effect)} {vc : ConfigViewController}
    {effects : List Effect} (hresult : result? = some (vc.reloaded, effects))
    (hlen : 4 ≤ vc.engineStates.length) (hmode : vc.workMode = mode.getD ['1'])
    (hwrites : writes effects = []) : (s.perform mode result?).Consistent := by
  unfold perform
  rw [hresult]
  refine ⟨h.running, hlen, hmode, rfl, ?_⟩
  simpa [hwrites] using h.handsOff

theorem writes_initDataEngineFirebase (data : Str)
    : writes (.displayIndicator false
        :: if ConfigViewController.isAppMode data then ConfigViewController.initDataEngineFirebase else [])
        =
      [] := by
  split <;> rfl

theorem consistent_workMode {s : DeviceList} (h : s.Consistent) (value : Value)
    : (machine.next s (.workMode value)).Consistent := by
  cases value with
  | string data =>
    apply consistent_reloaded h
    . exact ConfigViewController.workModeFetched_eq s.vc data (fun _ => h.engineStates)
    . exact h.engineStates
    . rfl
    . apply writes_initDataEngineFirebase
  | other =>
    apply consistent_reloaded h
    . exact ConfigViewController.workModeFetched_failure_eq s.vc _ (fun _ => h.engineStates)
    . exact h.engineStates
    . exact h.workMode
    . rfl

theorem consistent_engineStates {s : DeviceList} (h : s.Consistent) {value : Value}
    (he : machine.enabled s (.engineStates value))
    : (machine.next s (.engineStates value)).Consistent := by
  cases value with
  | string data =>
    apply consistent_reloaded h
    . exact ConfigViewController.engineStatesFetched_eq s.vc data (fun _ => he.2)
    . exact he.2
    . exact h.workMode
    . rfl
  | other =>
    refine ⟨h.running, h.engineStates, h.workMode, h.cells, ?_⟩
    intro write hwrite
    apply h.handsOff
    simpa [machine, perform, fetchDataFromFirebase, ConfigViewController.engineStatesFetched,
      ConfigViewController.handleReadDataEngineFailed, writes, Effect.write?] using hwrite

theorem cells_toggled {vc : ConfigViewController} (row : Row) (isOn : Bool)
    (hlen : 4 ≤ vc.engineStates.length) (hcells : vc.cells = vc.shownCell)
    : (vc.toggled row isOn).cells = (vc.toggled row isOn).shownCell := by
  funext row'
  rw [ConfigViewController.toggled_cells _ _ _ hlen]
  rw [ConfigViewController.shownCell_toggled _ _ _ hlen]
  rw [hcells]

/--
The handler binds the row of the switch again, whatever its position is.
-/
theorem next_toggle {s : DeviceList} (h : 4 ≤ s.vc.engineStates.length) (row : Row) (isOn : Bool)
    : machine.next s (.toggle row isOn) = s.perform s.mode (s.vc.switchValueChanged row isOn) := by
  have hmoved : (s.vc.moved row isOn).switchValueChanged row isOn = s.vc.switchValueChanged row isOn := by
    rw [ConfigViewController.switchValueChanged_eq (s.vc.moved row isOn) _ _ h]
    rw [ConfigViewController.switchValueChanged_eq s.vc _ _ h]
    unfold ConfigViewController.toggled ConfigViewController.moved
    dsimp only
    rw [Function.update_idem]
    rfl
  dsimp only [machine]
  rw [hmoved, ConfigViewController.switchValueChanged_eq s.vc _ _ h]
  rfl

theorem consistent_toggle {s : DeviceList} (h : s.Consistent) {row : Row} {isOn : Bool}
    (he : machine.enabled s (.toggle row isOn))
    : (machine.next s (.toggle row isOn)).Consistent := by
  have hmode := (isEnabled_iff h row).mp he.2
  rw [next_toggle h.engineStates]
  rw [ConfigViewController.switchValueChanged_eq _ _ _ h.engineStates]
  constructor
  . exact h.running
  . exact le_length_setEngineState _ row isOn h.engineStates
  . exact h.workMode
  . exact cells_toggled row isOn h.engineStates h.cells
  . intro write hwrite
    cases List.mem_append.mp hwrite with
    | inl hold => exact h.handsOff write hold
    | inr hnew =>
      -- Both writes of a toggle carry the mode in which the switch was enabled.
      obtain ⟨_, _, rfl⟩ := List.mem_map.mp hnew
      exact hmode

theorem consistent_next {s : DeviceList} (h : s.Consistent) {a : Action} (he : machine.enabled s a)
    : (machine.next s a).Consistent := by
  cases a with
  | workMode value => exact consistent_workMode h value
  | engineStates value => exact consistent_engineStates h he
  | toggle row isOn => exact consistent_toggle h he

theorem agree (seg : Segmentation) : Machine.Agree (machine seg) machine (Fitting seg) where
  enabled := by
    intro s a _
    rfl
  next := by
    intro s a h
    cases a with
    | toggle row isOn =>
      have hfits : Fits seg (s.vc.moved row isOn).engineStates row isOn := h
      dsimp only [machine]
      rw [ConfigViewController.switchValueChanged_of_fits hfits]
    | _ => rfl

/--
In every state of a run in which no digit joins its neighbours, nothing has trapped, the four cells show the
mode and the engine word, and everything that has been written was written in app mode.
-/
theorem cells_show_model {seg : Segmentation} {as : List Action} (hv : (machine seg).Valid {} as)
    (hf : (machine seg).Steps (Fitting seg) {} as) : ((machine seg).run {} as).ShowsModel := by
  rw [Machine.agree_valid (agree seg) hf] at hv
  rw [Machine.agree_run (agree seg) hf]
  apply showsModel_of_consistent
  apply Machine.run_invariant _ consistent_start hv
  intro s a h he
  exact consistent_next h he

theorem cells_show_model_switched_over
    : ((machine .acute).run {}
        [.engineStates .other, .workMode (.string ['2']), .engineStates (.string ['0', '1', '0', '1', '1']),
          .toggle 3 true, .workMode .other, .toggle 0 false, .workMode (.string ['3']),
          .engineStates (.string ['\n', '\u0301', '1', '1', '1', '1']), .workMode (.string []),
          .toggle 1 false]).ShowsModel :=
  cells_show_model (by decide) (by decide)

/--
The digit that a toggle puts in front of a combining mark takes a character away, and the rows behind it move.
-/
theorem joined_digit_not_shown
    : ¬ ∀ as : List Action, (machine .acute).Valid {} as → ((machine .acute).run {} as).ShowsModel := by
  intro h
  have hshows := h [.workMode (.string ['2']), .engineStates (.string ['0', '1', '\n', '\u0301', '0']),
    .toggle 2 true] (by decide)
  exact absurd ((hshows.on 3 (by decide)).mp (by decide)) (by decide)

end DeviceList

end SmartGarden

import SmartGarden.ConfigScreen.Lemmas
import SmartGarden.Lib.Edits

/-!
This module contains the switches of one device list: what the list shows after any sequence of toggles
of one engine word.
-/

open Swift

namespace SmartGarden

namespace ConfigViewController

/--
The `switchState` of `cellForItemAt`.
-/
def switchState (vc : ConfigViewController) (row : Row) : Option Char := do
  let index ← vc.engineStates.indexFromEnd (row + 1)
  vc.engineStates[index]?

theorem cellForItemAt_switchState (vc : ConfigViewController) (row : Row)
    (happ : isAppMode vc.workMode = true)
    : vc.cellForItemAt row
        =
      (vc.switchState row).map fun switchState => { isOn := switchState == '1', isEnabled := true } := by
  unfold cellForItemAt switchState
  rw [if_pos happ]
  cases vc.engineStates.indexFromEnd (row + 1) with
  | none => rfl
  | some index =>
    dsimp
    cases vc.engineStates[index]? <;> rfl

theorem switchState_eq (vc : ConfigViewController) (row : Row) (h : 4 ≤ vc.engineStates.length)
    : vc.switchState row = engineState vc.engineStates row := by
  have := row.isLt
  unfold switchState engineState
  rw [Str.indexFromEnd_of_le _ _ (by omega)]
  rw [List.fromEnd?_eq_getElem? _ _ (by omega)]
  rfl

structure ShowsSame (vc vc' : ConfigViewController) : Prop where
  cells : vc.cells = vc'.cells
  cellForItemAt : ∀ row, vc.cellForItemAt row = vc'.cellForItemAt row

end ConfigViewController

namespace Switches

/--
A toggle is enabled if `handleSwitchChanged` does not trap.
-/
def machine (seg : Segmentation := .apart) : Machine ConfigViewController (Row × Bool) where
  enabled vc toggle := (vc.handleSwitchChanged toggle.1 toggle.2 seg).isSome = true
  next vc toggle :=
    match vc.handleSwitchChanged toggle.1 toggle.2 seg with
    | some (vc, _) => vc
    | none => vc

structure ReadsBack (vc : ConfigViewController) : Prop where
  inBounds : ∀ toggles, machine.Valid vc toggles
  length : ∀ toggles, 4 ≤ (machine.run vc toggles).engineStates.length
  shown : ∀ toggles row, ConfigViewController.isAppMode vc.workMode = true →
    ∃ switchState,
      (machine.run vc toggles).switchState row = some switchState
        ∧ (machine.run vc toggles).cellForItemAt row
            =
          some { isOn := switchState == '1', isEnabled := true }
  switchState : ∀ toggles row,
    (machine.run vc toggles).switchState row
      =
    (Edits.last? toggles row).elim (vc.switchState row) fun isOn => some (bit isOn)
  commute : ∀ before after row row' isOn isOn', row ≠ row' →
    (machine.run vc (before ++ (row, isOn) :: (row', isOn') :: after)).ShowsSame
      (machine.run vc (before ++ (row', isOn') :: (row, isOn) :: after))
  override : ∀ before between after row isOn isOn',
    (machine.run vc (before ++ (row, isOn) :: between ++ (row, isOn') :: after)).ShowsSame
      (machine.run vc (before ++ between ++ (row, isOn') :: after))

theorem next_eq {vc : ConfigViewController} (h : 4 ≤ vc.engineStates.length) (toggle : Row × Bool)
    : machine.next vc toggle = vc.toggled toggle.1 toggle.2 := by
  dsimp only [machine]
  rw [ConfigViewController.handleSwitchChanged_eq _ _ _ h]

def Indexed (workMode : Str) (vc : ConfigViewController) : Prop :=
  4 ≤ vc.engineStates.length ∧ vc.workMode = workMode

theorem indexed_next {workMode : Str} (vc : ConfigViewController) (toggle : Row × Bool)
    (h : Indexed workMode vc) : Indexed workMode (machine.next vc toggle) := by
  rw [next_eq h.1]
  constructor
  . exact le_length_setEngineState _ _ _ h.1
  . exact h.2

theorem valid_of_indexed {workMode : Str} {vc : ConfigViewController} (h : Indexed workMode vc)
    (toggles : List (Row × Bool)) : machine.Valid vc toggles := by
  apply Machine.steps_of_invariant indexed_next _ h
  intro vc toggle h
  dsimp only [machine]
  rw [ConfigViewController.handleSwitchChanged_eq _ _ _ h.1]
  rfl

theorem indexed_run {workMode : Str} {vc : ConfigViewController} (h : Indexed workMode vc)
    (toggles : List (Row × Bool)) : Indexed workMode (machine.run vc toggles) := by
  apply Machine.run_invariant _ h (valid_of_indexed h toggles)
  intro vc toggle h _
  exact indexed_next vc toggle h

theorem shown_of_indexed {workMode : Str} {vc : ConfigViewController} (h : Indexed workMode vc)
    (happ : ConfigViewController.isAppMode workMode = true) (row : Row)
    : ∃ switchState,
        vc.switchState row = some switchState
          ∧ vc.cellForItemAt row = some { isOn := switchState == '1', isEnabled := true } := by
  have hlt : row < vc.engineStates.length := by
    have := row.isLt
    have := h.1
    omega
  have hread := vc.cellForItemAt_eq row (fun _ => hlt)
  rw [← h.2] at happ
  rw [ConfigViewController.cellForItemAt_switchState _ _ happ] at hread ⊢
  cases hstate : vc.switchState row with
  | none =>
    rw [hstate] at hread
    contradiction
  | some switchState => exact ⟨switchState, rfl, rfl⟩

theorem switchState_run {workMode : Str} {vc : ConfigViewController} (h : Indexed workMode vc)
    (toggles : List (Row × Bool)) (row : Row)
    : (machine.run vc toggles).switchState row
        =
      (Edits.last? toggles row).elim (vc.switchState row) fun isOn => some (bit isOn) := by
  apply Edits.view_run ConfigViewController.switchState indexed_next _ h
  intro vc row isOn row' h
  have hnext := indexed_next vc (row, isOn) h
  rw [ConfigViewController.switchState_eq _ _ hnext.1, ConfigViewController.switchState_eq _ _ h.1]
  rw [next_eq h.1]
  apply engineState_setEngineState _ _ _ h.1

theorem cells_run {workMode : Str} {vc : ConfigViewController} (h : Indexed workMode vc)
    (toggles : List (Row × Bool)) (row : Row)
    : (machine.run vc toggles).cells row
        =
      (Edits.last? toggles row).elim (vc.cells row) (ConfigViewController.toggledCell workMode) := by
  apply Edits.view_run ConfigViewController.cells indexed_next _ h
  intro vc row isOn row' h
  rw [next_eq h.1, ← h.2]
  apply ConfigViewController.toggled_cells _ _ _ h.1

theorem shownCell_run {workMode : Str} {vc : ConfigViewController} (h : Indexed workMode vc)
    (toggles : List (Row × Bool)) (row : Row)
    : (machine.run vc toggles).shownCell row
        =
      (Edits.last? toggles row).elim (vc.shownCell row) (ConfigViewController.toggledCell workMode) := by
  apply Edits.view_run ConfigViewController.shownCell indexed_next _ h
  intro vc row isOn row' h
  rw [next_eq h.1, ← h.2]
  apply ConfigViewController.shownCell_toggled _ _ _ h.1

theorem cellForItemAt_run {workMode : Str} {vc : ConfigViewController} (h : Indexed workMode vc)
    (toggles : List (Row × Bool)) (row : Row)
    : (machine.run vc toggles).cellForItemAt row
        =
      some ((machine.run vc toggles).shownCell row) := by
  apply ConfigViewController.cellForItemAt_of_indexable
  intro _
  exact (indexed_run h toggles).1

theorem showsSame_of_last? {workMode : Str} {vc : ConfigViewController} (h : Indexed workMode vc)
    {toggles toggles' : List (Row × Bool)} (hlast : Edits.last? toggles = Edits.last? toggles')
    : (machine.run vc toggles).ShowsSame (machine.run vc toggles') := by
  constructor
  . funext row
    rw [cells_run h, cells_run h, hlast]
  . intro row
    rw [cellForItemAt_run h, cellForItemAt_run h]
    rw [shownCell_run h, shownCell_run h, hlast]

/--
No toggle of a word with a character for each row traps, and every row shows its last toggle, or its
original character.
-/
theorem toggles_read_back {vc : ConfigViewController} (h : 4 ≤ vc.engineStates.length)
    : ReadsBack vc := by
  have hindexed : Indexed vc.workMode vc := ⟨h, rfl⟩
  constructor
  . exact valid_of_indexed hindexed
  . intro toggles
    exact (indexed_run hindexed toggles).1
  . intro toggles row happ
    exact shown_of_indexed (indexed_run hindexed toggles) happ row
  . exact switchState_run hindexed
  . intro before after row row' isOn isOn' hrow
    apply showsSame_of_last? hindexed
    apply Edits.last?_swap hrow
  . intro before between after row isOn isOn'
    apply showsSame_of_last? hindexed
    apply Edits.last?_override

theorem toggles_read_back_six_characters
    : ReadsBack { engineStates := ['x', '1', '0', '0', '1', '0'], workMode := ['2'] } :=
  toggles_read_back (by decide)

end Switches

end SmartGarden

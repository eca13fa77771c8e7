import SmartGarden.ConfigScreen.Lemmas
import SmartGarden.SettingScreen.Lemmas

/-!
This module contains the two readings of the mode at `CHEDO`: the device list compares the string with
`"1"` and `"3"`, the settings screen reads it as a number.
-/

open Swift

namespace SmartGarden

/--
The settings screen turns on one switch for `workMode`, and the device list is enabled exactly when this
is the switch of the app.
-/
def ReadsAlike (vc : SettingViewController) (workMode : Str) : Prop :=
  ∃ control,
    (∀ other, (vc.handleAssignValueSwitch workMode).isOn other = true ↔ other = control)
      ∧
    (ConfigViewController.isAppMode workMode = true ↔ control = .appControlModeSwitch)

namespace Modes

theorem isAppMode_iff (workMode : Str)
    : ConfigViewController.isAppMode workMode = true
        ↔
      ∀ control, workMode = SettingViewController.modeOf control → control = .appControlModeSwitch := by
  unfold ConfigViewController.isAppMode
  rw [Bool.and_eq_true, bne_iff_ne, bne_iff_ne]
  constructor
  . rintro ⟨hbutton, hautomatic⟩ control hmode
    cases control with
    | buttonControlModeSwitch => exact absurd hmode hbutton
    | appControlModeSwitch => rfl
    | automaticControlModeSwitch => exact absurd hmode hautomatic
  . intro h
    constructor
    . intro hmode
      exact absurd (h .buttonControlModeSwitch hmode) (by decide)
    . intro hmode
      exact absurd (h .automaticControlModeSwitch hmode) (by decide)

theorem shows_iff (vc : SettingViewController) (workMode : Str) (control : ModeSwitch)
    : (∀ other, (vc.handleAssignValueSwitch workMode).isOn other = true ↔ other = control)
        ↔
      (Int? workMode).getD 2 = ((SettingViewController.index control + 1 : Nat) : Int) := by
  constructor
  . intro h
    rw [← vc.handleAssignValueSwitch_isOn]
    apply (h control).mpr
    rfl
  . intro hcontrol other
    rw [SettingViewController.handleAssignValueSwitch_isOn, hcontrol]
    rw [← SettingViewController.index_inj]
    omega

/--
The two screens agree on `workMode` exactly when it is `"1"` or `"3"`, denotes `2`, or is no number.
-/
theorem readsAlike_iff (vc : SettingViewController) (workMode : Str)
    : ReadsAlike vc workMode
        ↔
      workMode = ['1'] ∨ workMode = ['3'] ∨ Int? workMode = some 2 ∨ Int? workMode = none := by
  unfold ReadsAlike
  constructor
  . rintro ⟨control, hshows, hmode⟩
    rw [shows_iff] at hshows
    cases control with
    | appControlModeSwitch =>
      cases hnumber : Int? workMode with
      | none => simp
      | some n =>
        rw [hnumber] at hshows
        simp only [Option.getD_some, SettingViewController.index] at hshows
        simp [hshows]
    | _ =>
      -- The device list is disabled, which only two strings do.
      have hdisabled : ¬ ConfigViewController.isAppMode workMode = true := by
        rw [hmode]
        decide
      rw [isAppMode_iff] at hdisabled
      simp only [not_forall] at hdisabled
      obtain ⟨other, hother, hne⟩ := hdisabled
      cases other with
      | buttonControlModeSwitch => exact Or.inl hother
      | appControlModeSwitch => contradiction
      | automaticControlModeSwitch => exact Or.inr (Or.inl hother)
  . intro h
    have hcontrol : ∃ control,
        (Int? workMode).getD 2 = ((SettingViewController.index control + 1 : Nat) : Int)
          ∧ (ConfigViewController.isAppMode workMode = true ↔ control = .appControlModeSwitch) := by
      have happ : Int? workMode = some 2 ∨ Int? workMode = none
          → ConfigViewController.isAppMode workMode = true := by
        intro hnumber
        rw [isAppMode_iff]
        rintro control rfl
        rw [SettingViewController.Int?_modeOf] at hnumber
        cases control with
        | appControlModeSwitch => rfl
        | _ => simp [SettingViewController.index] at hnumber
      rcases h with rfl | rfl | hnumber | hnumber
      . exact ⟨.buttonControlModeSwitch, by decide, by decide⟩
      . exact ⟨.automaticControlModeSwitch, by decide, by decide⟩
      . refine ⟨.appControlModeSwitch, ?_, iff_of_true (happ (Or.inl hnumber)) rfl⟩
        rw [hnumber]
        rfl
      . refine ⟨.appControlModeSwitch, ?_, iff_of_true (happ (Or.inr hnumber)) rfl⟩
        rw [hnumber]
        rfl
    obtain ⟨control, hnumber, hmode⟩ := hcontrol
    exact ⟨control, (shows_iff vc workMode control).mpr hnumber, hmode⟩

theorem no_switch_for_seven
    : ¬ ∀ (vc : SettingViewController) (workMode : Str), ReadsAlike vc workMode := by
  intro h
  obtain ⟨control, hshows, _⟩ := h { texts := fun _ => some [] } ['7']
  rw [shows_iff] at hshows
  cases control <;> exact absurd hshows (by decide)

end Modes

end SmartGarden

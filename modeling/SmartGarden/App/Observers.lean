import SmartGarden.App.Tabs

/-!
This module contains the number of observers that the tabs have registered: how it grows with each step,
and in which runs it stays bounded.
-/

open Swift

namespace SmartGarden

namespace Tabs

/--
The steps that register one more observer: the device list is told of app mode, or automatic mode is
asked for with an empty text field.
-/
def Registers (screen : Screen) (s : Tabs) (a : Action) : Prop :=
  match a with
  | .event k value =>
    screen = .config ∧ s.observers[k]? = some .initDataWorkModeFirebase
      ∧ ConfigViewController.entersAppMode value = true
  | .flip sender isOn => screen = .setting ∧ s.setting.Rejected sender isOn
  | _ => False

instance (screen : Screen) (s : Tabs) (a : Action) : Decidable (Registers screen s a) :=
  match a with
  | .event k value =>
    inferInstanceAs (Decidable (screen = .config ∧ s.observers[k]? = some .initDataWorkModeFirebase
      ∧ ConfigViewController.entersAppMode value = true))
  | .flip sender isOn =>
    inferInstanceAs (Decidable (screen = .setting ∧ s.setting.Rejected sender isOn))
  | .toggle _ _ => inferInstanceAs (Decidable False)
  | .edit _ _ => inferInstanceAs (Decidable False)
  | .complete _ _ => inferInstanceAs (Decidable False)

theorem registered_step {s s' : Tabs} {a : Action} (h : s.step a = some s') (screen : Screen)
    : s'.registered screen = s.registered screen + if Registers screen s a then 1 else 0 := by
  cases a with
  | event k value =>
    obtain ⟨observer, hobserver, hregistered, _⟩ := event_frame h
    rw [hregistered]
    unfold Registers
    simp only [hobserver, Option.some.injEq]
  | toggle row isOn => exact (toggle_frame h).1 screen
  | flip sender isOn => exact (flip_frame h).1 screen
  | edit textField text =>
    cases h
    rfl
  | complete k error =>
    obtain ⟨request, _, hregistered, _⟩ := complete_frame h
    exact hregistered screen

def Bounded (b : Nat) (s : Tabs) : Prop :=
  ∀ screen, s.registered screen ≤ b

theorem along_bounded_iff {s : Tabs} {as : List Action} (hv : machine.Valid s as) (b : Nat)
    : machine.Along (Bounded b) s as
        ↔
      ∀ screen, s.registered screen + machine.count (Registers screen) s as ≤ b := by
  unfold Bounded
  rw [Machine.along_forall]
  apply forall_congr'
  intro screen
  apply Machine.along_le_iff _ hv
  intro s a he
  obtain ⟨s', hs'⟩ := Option.isSome_iff_exists.mp he
  rw [next_eq hs']
  exact registered_step hs' screen

theorem registered_start (texts : TextField → Str) (screen : Screen)
    : (start texts).registered screen ≤ 2 := by
  have hobservers : (start texts).observers = [.initDataFirebase, .initDataRaintState,
      .initDataWorkModeFirebase, .initDataModeFirebase] := rfl
  unfold registered
  rw [hobservers]
  cases screen <;> decide

/--
The observers of a family of runs have a common bound exactly when the steps that register one have.
-/
theorem bounded_iff (texts : TextField → Str) (runs : List Action → Prop)
    : (∃ b, ∀ as, runs as → machine.Valid (start texts) as
        → machine.Along (Bounded b) (start texts) as)
        ↔
      ∃ n, ∀ as, runs as → machine.Valid (start texts) as
        → ∀ screen, machine.count (Registers screen) (start texts) as ≤ n := by
  constructor
  . rintro ⟨b, hb⟩
    refine ⟨b, ?_⟩
    intro as has hv screen
    have hle := (along_bounded_iff hv b).mp (hb as has hv) screen
    omega
  . rintro ⟨n, hn⟩
    refine ⟨2 + n, ?_⟩
    intro as has hv
    rw [along_bounded_iff hv]
    intro screen
    have hcount := hn as has hv screen
    have hstart := registered_start texts screen
    omega

/--
Automatic mode is asked for `n` times while all text fields are empty and `"1"` is stored at `CHEDO`.
-/
def attempts : Nat → List Action
  | 0 => [.event 2 (.string ['1']), .event 3 (.string ['1'])]
  | n + 1 => attempts n ++ [.flip .automaticControlModeSwitch true, .event (4 + n) (.string ['1'])]

structure Attempted (n : Nat) (s : Tabs) : Prop where
  observers : s.observers = [.initDataFirebase, .initDataRaintState, .initDataWorkModeFirebase]
    ++ List.replicate (n + 1) .initDataModeFirebase
  isOn : s.setting.isOn .automaticControlModeSwitch = false
  texts : ¬ AllFilled s.setting.texts

theorem step_rejected {s : Tabs} (hisOn : s.setting.isOn .automaticControlModeSwitch = false)
    (htexts : ¬ AllFilled s.setting.texts)
    : ∃ s', s.step (.flip .automaticControlModeSwitch true) = some s'
        ∧ s'.observers = s.observers ++ [.initDataModeFirebase]
        ∧ s'.setting.texts = s.setting.texts := by
  have hrejected : s.setting.Rejected .automaticControlModeSwitch true := ⟨rfl, rfl, htexts⟩
  have hstep : s.step (.flip .automaticControlModeSwitch true)
      = some (s.performSetting (.switchChanged .automaticControlModeSwitch)
        (s.setting.flip .automaticControlModeSwitch true)) := by
    simp [step, hisOn]
  refine ⟨_, hstep, ?_, ?_⟩
  . unfold performSetting
    rw [perform_eq]
    dsimp only
    rw [SettingViewController.flip_snd_of_rejected _ _ _ hrejected]
    rfl
  . unfold performSetting
    rw [perform_eq]
    dsimp only
    rw [SettingViewController.flip_fst]

theorem step_mode_one {s : Tabs} {k : Nat} (hk : s.observers[k]? = some .initDataModeFirebase)
    : ∃ s', s.step (.event k (.string ['1'])) = some s'
        ∧ s'.observers = s.observers
        ∧ s'.setting.isOn .automaticControlModeSwitch = false
        ∧ s'.setting.texts = s.setting.texts := by
  have hstep : s.step (.event k (.string ['1']))
      = some (s.performSetting .writeThreshold
        (s.setting.modeFetched (fetchDataFromFirebase (.string ['1'])))) := by
    simp only [step, event, hk]
    rfl
  refine ⟨_, hstep, ?_⟩
  unfold performSetting
  rw [perform_eq, (s.setting.effects_modeFetched (.string ['1'])).1]
  exact ⟨List.append_nil _, rfl, rfl⟩

theorem attempted_next {n : Nat} {s : Tabs} (h : s.Attempted n)
    : machine.Valid s [.flip .automaticControlModeSwitch true, .event (4 + n) (.string ['1'])]
        ∧ (machine.run s
          [.flip .automaticControlModeSwitch true, .event (4 + n) (.string ['1'])]).Attempted (n + 1) := by
  obtain ⟨s', hflip, hobservers, htexts⟩ := step_rejected h.isOn h.texts
  have hobservers' : s'.observers
      = [.initDataFirebase, .initDataRaintState, .initDataWorkModeFirebase]
        ++ List.replicate (n + 1 + 1) .initDataModeFirebase := by
    rw [hobservers, h.observers, List.append_assoc, ← List.replicate_succ']
  have hlast : s'.observers[4 + n]? = some .initDataModeFirebase := by
    rw [hobservers']
    rw [List.getElem?_append_right (by simp; omega)]
    rw [List.getElem?_replicate]
    simp
    omega
  obtain ⟨s'', hevent, hobservers'', hisOn, htexts'⟩ := step_mode_one hlast
  have hrun : machine.run s [.flip .automaticControlModeSwitch true, .event (4 + n) (.string ['1'])]
      = s'' := by
    simp [machine, hflip, hevent]
  refine ⟨by simp [machine, hflip, hevent], ?_⟩
  rw [hrun]
  constructor
  . rw [hobservers'', hobservers']
  . exact hisOn
  . rw [htexts', htexts]
    exact h.texts

theorem attempted_attempts (n : Nat)
    : machine.Valid (start fun _ => []) (attempts n)
        ∧ (machine.run (start fun _ => []) (attempts n)).Attempted n := by
  induction n with
  | zero =>
    refine ⟨by decide, ?_⟩
    exact ⟨by decide, by decide, by decide⟩
  | succ n ih =>
    obtain ⟨hvalid, hattempted⟩ := ih
    obtain ⟨hnext, hattempted'⟩ := attempted_next hattempted
    dsimp only [attempts]
    rw [Machine.valid_append, Machine.run_append]
    exact ⟨⟨hvalid, hnext⟩, hattempted'⟩

theorem observers_pile_up
    : ¬ ∃ b, ∀ (texts : TextField → Str) (as : List Action),
        machine.Valid (start texts) as
          →
        machine.Along (Bounded b) (start texts) as := by
  rintro ⟨b, hb⟩
  obtain ⟨hvalid, hattempted⟩ := attempted_attempts b
  have hbounded := Machine.along_run (hb _ _ hvalid) .setting
  unfold registered at hbounded
  rw [hattempted.observers, List.countP_append, List.countP_replicate] at hbounded
  have hsetting : decide (Observer.initDataModeFirebase.screen = .setting) = true := rfl
  rw [if_pos hsetting] at hbounded
  omega

end Tabs

end SmartGarden

import SmartGarden.App.Screens

/-!
This module contains the switches of the settings in the household, which a flip changes before the stored
mode does.
-/

open Swift

namespace SmartGarden

namespace Household

variable {ι : Type}

def shownSwitches (mode : Str) (control : ModeSwitch) : Bool :=
  ((SettingViewController.index control + 1 : Nat) : Int) == (Int? mode).getD (3 - 1)

def settingShows (setting : SettingViewController) (owner : Observer) (value : Value) : Prop :=
  owner = .initDataModeFirebase → ∀ mode, value = .string mode → setting.isOn = shownSwitches mode

/--
The switches of a phone mirror what its client of `CHEDO` sees.
-/
structure Phone.Switched (phone : Phone) (client : Observed Value) : Prop where
  watches : .initDataModeFirebase ∈ phone.modeOwners
  shown : client.Mirrors phone.modeOwners (settingShows phone.setting)

/--
Phone `p` turns no switch off while its settings see the mode of that switch and have no event to come.
-/
def KeepsMode (p : ι) (s : Household ι) (a : Action ι) : Prop :=
  match a with
  | .flip q sender false =>
    q = p → (s.mode.client p).seen = some (.string (SettingViewController.modeOf sender))
      → ¬ (s.mode.client p).IdleFor (s.phone p).modeOwners .initDataModeFirebase
  | _ => True

instance (p : ι) [DecidableEq ι] (s : Household ι) (a : Action ι) : Decidable (KeepsMode p s a) :=
  match a with
  | .relaunch _ _ => inferInstanceAs (Decidable True)
  | .flip q sender false =>
    inferInstanceAs (Decidable (q = p
      → (s.mode.client p).seen = some (.string (SettingViewController.modeOf sender))
      → ¬ (s.mode.client p).IdleFor (s.phone p).modeOwners .initDataModeFirebase))
  | .flip _ _ true => inferInstanceAs (Decidable True)
  | .edit _ _ _ => inferInstanceAs (Decidable True)
  | .list _ => inferInstanceAs (Decidable True)
  | .modeEvent _ _ => inferInstanceAs (Decidable True)
  | .frameEvent _ _ => inferInstanceAs (Decidable True)
  | .mode _ => inferInstanceAs (Decidable True)
  | .frame _ => inferInstanceAs (Decidable True)

theorem settingShows_modeFetched (setting : SettingViewController) (value : Value)
    : settingShows (setting.modeFetched (fetchDataFromFirebase value)).1 .initDataModeFirebase value := by
  intro _ mode hmode
  rw [hmode]
  rfl

theorem shownSwitches_modeOf (control : ModeSwitch)
    : shownSwitches (SettingViewController.modeOf control) = fun other => other == control := by
  rw [← SettingViewController.modeFetched_modeOf { texts := fun _ => none } control]
  rfl

theorem switched_launch (texts : TextField → Str) (mode : Value)
    : (Phone.launch texts).Switched (launchMode mode) where
  watches := List.mem_cons_of_mem _ List.mem_cons_self
  shown := mirrors_launchMode mode _

theorem switched_start (mode frame : Value) (word : Str) (texts : ι → TextField → Str) (p : ι)
    : ((start mode frame word texts).phone p).Switched ((start mode frame word texts).mode.client p) :=
  switched_launch (texts p) mode

section

variable [DecidableEq ι]

theorem switched_flip {phone : Phone} {client : Observed Value} (h : phone.Switched client)
    {sender : ModeSwitch} {isOn : Bool}
    (hkeeps : isOn = false → client.seen = some (.string (SettingViewController.modeOf sender))
      → ¬ client.IdleFor phone.modeOwners .initDataModeFirebase)
    : Phone.Switched
        { phone with
          setting := (phone.setting.flip sender isOn).1
          modeOwners := phone.modeOwners
            ++ (observes (phone.setting.flip sender isOn).2).map fun _ => .initDataModeFirebase }
        (perform .CHEDO client (phone.setting.flip sender isOn).2) where
  watches := List.mem_append_left _ h.watches
  shown := by
    dsimp only
    rw [perform_flip, owners_flip]
    split
    . apply Observed.mirrors_observe h.shown
      intro other hother v _ howner
      contradiction
    . apply Observed.mirrors_write h.shown (List.ne_nil_of_mem h.watches)
      intro o _ hidle hseen howner mode hmode
      have hon : isOn = true := by
        cases isOn with
        | true => rfl
        | false =>
          rw [howner] at hidle
          exact absurd hidle (hkeeps rfl hseen)
      rw [← Value.string.inj hmode, shownSwitches_modeOf, phone.setting.flip_fst, hon]
      simp

/--
Another phone's screens and client are none of `p`'s.
-/
theorem switched_update {s : Household ι} {p : ι} (h : (s.phone p).Switched (s.mode.client p)) (q : ι)
    (phone : Phone) (client : Observed Value) (hnew : q = p → phone.Switched client)
    : (Function.update s.phone q phone p).Switched ((s.mode.update q client).client p) := by
  dsimp only [Clients.update]
  by_cases hq : p = q
  . subst hq
    rw [Function.update_self, Function.update_self]
    exact hnew rfl
  . rw [Function.update_of_ne hq, Function.update_of_ne hq]
    exact h

theorem switched_modeEvent {s : Household ι} {p : ι} (h : (s.phone p).Switched (s.mode.client p)) (q : ι)
    (k : Nat) : ((s.modeEvent q k).phone p).Switched ((s.modeEvent q k).mode.client p) := by
  unfold modeEvent
  dsimp only
  split
  . next value hevent hk =>
    have hupdate := switched_update h q (s.phone q) ((s.mode.client q).take k)
    rw [Function.update_eq_self] at hupdate
    apply hupdate
    rintro rfl
    refine ⟨h.watches, ?_⟩
    apply Observed.mirrors_take h.shown hevent hk
    . intro howner
      contradiction
    . intro _ _ _ hshows
      exact hshows
  . next value hevent hk =>
    apply switched_update h
    rintro rfl
    refine ⟨h.watches, ?_⟩
    apply Observed.mirrors_take h.shown hevent hk
    . exact settingShows_modeFetched _ value
    . intro other hother _ _ howner
      contradiction
  . exact h

theorem switched_home {s : Household ι} {p : ι} (h : (s.phone p).Switched (s.mode.client p)) (q : ι)
    (home : HomeViewController)
    : (Function.update s.phone q { s.phone q with home := home } p).Switched (s.mode.client p) := by
  have hupdate := switched_update h q { s.phone q with home := home } (s.mode.client q)
  rw [Clients.update_client] at hupdate
  apply hupdate
  rintro rfl
  exact ⟨h.watches, h.shown⟩

omit [DecidableEq ι] in
theorem stable_switched (phone : Phone) : Clients.Stable phone.Switched := by
  have hstable : ∀ client, phone.Switched client
      → Clients.Stable fun client => client.Mirrors phone.modeOwners (settingShows phone.setting) :=
    fun _ h => Observed.stable_mirrors (List.ne_nil_of_mem h.watches) _
  exact ⟨fun c h => ⟨h.watches, (hstable c h).receive c h.shown⟩,
    fun c h => ⟨h.watches, (hstable c h).listen c h.shown⟩,
    fun c v h => ⟨h.watches, (hstable c h).put c v h.shown⟩,
    fun c h => ⟨h.watches, (hstable c h).accept c h.shown⟩,
    fun c h => ⟨h.watches, (hstable c h).refuse c h.shown⟩⟩

theorem switched_next {s : Household ι} {p : ι} (h : (s.phone p).Switched (s.mode.client p))
    {a : Action ι} (he : machine.enabled s a) (hkeeps : KeepsMode p s a)
    : ((machine.next s a).phone p).Switched ((machine.next s a).mode.client p) := by
  cases a with
  | relaunch q texts =>
    apply switched_update h
    intro _
    exact switched_launch texts s.mode.stored
  | flip q sender isOn =>
    apply switched_update h
    rintro rfl
    apply switched_flip h
    intro hoff
    rw [hoff] at hkeeps
    exact hkeeps rfl
  | edit q textField text =>
    have hupdate := switched_update h q
      { s.phone q with setting := (s.phone q).setting.edit textField text } (s.mode.client q)
    rw [Clients.update_client] at hupdate
    apply hupdate
    rintro rfl
    exact ⟨h.watches, h.shown⟩
  | list a => exact h
  | modeEvent q k => exact switched_modeEvent h q k
  | frameEvent q k =>
    dsimp only [machine, frameEvent]
    split
    . exact switched_home h q _
    . exact switched_home h q _
    . exact h
  | mode a =>
    apply Clients.forall_next (I := fun q client => q = p → (s.phone p).Switched client) _ _ he p rfl
    . intro q
      exact Clients.stable_imp _ (stable_switched (s.phone p))
    . rintro q rfl
      exact h
  | frame a => exact h

/--
Once nothing of the mode is on its way to a phone that keeps its modes, the switches of its settings are
the ones of the stored mode.
-/
theorem switches_eq_stored {mode frame : Value} {word : Str} {texts : ι → TextField → Str}
    {as : List (Action ι)} (hword : 4 ≤ word.length)
    (hv : machine.Valid (start mode frame word texts) as) (p : ι)
    (hkeeps : machine.Steps (KeepsMode p) (start mode frame word texts) as)
    : machine.Along (fun s => (s.mode.client p).Quiet
        → ∀ data, s.mode.stored = .string data
          → (s.phone p).setting.isOn = shownSwitches data) (start mode frame word texts) as := by
  have hrun := Machine.along_of_steps (m := machine) (C := KeepsMode p)
    (P := fun s => s.Inv ∧ (s.phone p).Switched (s.mode.client p))
    (fun s a h he hk => ⟨inv_next h.1 he, switched_next h.2 he hk⟩)
    ⟨inv_start mode frame hword texts, switched_start mode frame word texts p⟩ hv hkeeps
  apply Machine.along_mono _ hrun
  intro s h hquiet data hdata
  have hshows := Observed.shows_stored h.2.shown h.2.watches hquiet
  rw [h.1.modeAgree p, hdata] at hshows
  exact hshows rfl data rfl

theorem switches_eq_stored_two
    : machine.Along (fun s => (s.mode.client true).Quiet
        → ∀ data, s.mode.stored = .string data
          → (s.phone true).setting.isOn = shownSwitches data)
        (start (.string ['2']) .other ['0', '0', '0', '0'] fun _ _ => [])
        [.mode (.listen true), .mode (.receive true), .modeEvent true 0, .modeEvent true 1,
          .flip false .buttonControlModeSwitch true, .mode (.listen false), .mode (.accept false),
          .mode (.receive true), .flip true .appControlModeSwitch false, .modeEvent true 1,
          .modeEvent true 0] :=
  switches_eq_stored (by decide) (by decide) true (by decide)

end

end Household

end SmartGarden

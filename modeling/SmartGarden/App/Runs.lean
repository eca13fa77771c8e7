import SmartGarden.App.Awaits
import SmartGarden.App.Screens

/-!
This module contains what a phone of the household has in common with the three tabs, and how both take the
same step when a handler is called.
-/

open Swift

namespace SmartGarden

namespace Tabs

theorem performHome_eq (s : Tabs) (observer : Observer) (result : HomeViewController × List Effect)
    : s.performHome observer result
        =
      { s with
        home := result.1
        observers := s.observers ++ (observes result.2).map fun _ => observer
        pending := s.pending ++ (writes result.2).map fun _ => .writeThreshold
        isShown := (indicator result.2).getD s.isShown } :=
  perform_eq _ _ _ _

theorem performConfig_eq (s : Tabs) (result : ConfigViewController × List Effect)
    : s.performConfig result
        =
      { s with
        config := result.1
        observers := s.observers ++ (observes result.2).map fun path =>
          if path = .CHEDO then .initDataWorkModeFirebase else .initDataEngineFirebase
        pending := s.pending ++ (writes result.2).map fun write =>
          if write.1 = .TINHIEUDONGCO then .updateFirebaseData else .pumpSpeed
        isShown := (indicator result.2).getD s.isShown } :=
  perform_eq _ _ _ _

theorem performSetting_eq (s : Tabs) (request : PendingWrite)
    (result : SettingViewController × List Effect)
    : s.performSetting request result
        =
      { s with
        setting := result.1
        observers := s.observers ++ (observes result.2).map fun _ => .initDataModeFirebase
        pending := s.pending ++ (writes result.2).map fun _ => request
        isShown := (indicator result.2).getD s.isShown } :=
  perform_eq _ _ _ _

/--
A write of the device list can be answered as long as one is unanswered, and the answer dismisses the
indicator.
-/
theorem complete_deviceWrite {s : Tabs} (h : s.deviceWrites ≠ 0)
    : ∃ k s', s.step (.complete k none) = some s'
        ∧ s.effects (.complete k none) = ConfigViewController.firebaseDataUpdated (writeDataToFirebase none)
        ∧ s'.home = s.home ∧ s'.config = s.config ∧ s'.setting = s.setting
        ∧ s'.observers = s.observers
        ∧ s'.deviceWrites + 1 = s.deviceWrites
        ∧ s'.isShown = false := by
  obtain ⟨k, hk⟩ := List.getElem?_of_mem (List.count_pos_iff.mp (Nat.pos_of_ne_zero h))
  obtain ⟨hlt, hget⟩ := List.getElem?_eq_some_iff.mp hk
  have hcount : deviceWrites { s with pending := s.pending.eraseIdx k } + 1 = s.deviceWrites := by
    have hperm := List.getElem_cons_eraseIdx_perm hlt
    rw [hget] at hperm
    unfold deviceWrites
    rw [← hperm.count_eq, List.count_cons_self]
  refine ⟨k, performConfig { s with pending := s.pending.eraseIdx k }
    (s.config, ConfigViewController.firebaseDataUpdated (writeDataToFirebase none)), ?_, ?_, ?_⟩
  . dsimp only [step, complete]
    rw [hk]
    rfl
  . dsimp only [effects]
    rw [hk]
  . obtain ⟨hobserves, hwrites, hindicator⟩ := ConfigViewController.effects_firebaseDataUpdated none
    rw [performConfig_eq, hobserves, hwrites, hindicator]
    refine ⟨rfl, rfl, rfl, List.append_nil _, ?_, rfl⟩
    simpa [deviceWrites] using hcount

/--
What the handlers have done to the outside world since the tabs were loaded.
-/
def issued (texts : TextField → Str) (as : List Action) : List Effect :=
  startEffects ++ machine.emitted effects (start texts) as

def Reaches (texts : TextField → Str) (as : List Action) (es : List Effect) (s : Tabs) : Prop :=
  machine.Valid (start texts) as ∧ issued texts as = es ∧ machine.run (start texts) as = s

theorem reaches_next {texts : TextField → Str} {as : List Action} {es : List Effect} {s : Tabs}
    (h : Reaches texts as es s) {a : Action} (he : machine.enabled s a)
    : Reaches texts (as ++ [a]) (es ++ s.effects a) (machine.next s a) := by
  obtain ⟨hv, rfl, rfl⟩ := h
  refine ⟨?_, ?_, ?_⟩
  . rw [Machine.valid_append]
    exact ⟨hv, he, trivial⟩
  . unfold issued
    rw [Machine.emitted_concat, List.append_assoc]
  . rw [Machine.run_append]
    rfl

end Tabs

namespace Household

/--
A phone is in the state `tabs`. The indicator is on only if an answer is on its way that dismisses it.
-/
structure Phone.Runs (phone : Phone) (vc : ConfigViewController) (word : Observed Str)
    (mode frame : Observed Value) (tabs : Tabs) : Prop where
  home : tabs.home = phone.home
  config : tabs.config = vc
  setting : tabs.setting = phone.setting
  observers : tabs.observers.Perm
    (frameOwners ++ phone.modeOwners ++ List.replicate word.queues.length .initDataEngineFirebase)
  deviceWrites : tabs.deviceWrites = word.pending.length
  isShown : tabs.isShown = true → frame.Owes ∨ mode.Owes ∨ tabs.deviceWrites ≠ 0

/--
What the phone does when it gets the oldest message about the device word. Whether the write was committed
does not matter to the indicator.
-/
def answer (word : Observed Str) : List Effect :=
  match word.inbox, word.pending with
  | .answered :: _, _ :: _ => ConfigViewController.firebaseDataUpdated (writeDataToFirebase none)
  | _, _ => []

theorem perm_append_middle {α : Type} {l first middle last : List α}
    (h : l.Perm (first ++ middle ++ last)) (new : List α)
    : (l ++ new).Perm (first ++ (middle ++ new) ++ last) := by
  have hlast : (first ++ middle ++ (last ++ new)).Perm (first ++ middle ++ (new ++ last)) :=
    List.perm_append_comm.append_left _
  have hnew := h.append_right new
  rw [List.append_assoc _ last new] at hnew
  have hall := hnew.trans hlast
  rw [← List.append_assoc, List.append_assoc first middle new] at hall
  exact hall

section

variable {phone : Phone} {vc : ConfigViewController} {word : Observed Str} {mode frame : Observed Value}
  {tabs : Tabs}

/--
What goes on between Firebase and the phone leaves the tabs as they are.
-/
theorem runs_network (h : phone.Runs vc word mode frame tabs) {word' : Observed Str}
    {mode' frame' : Observed Value} (hqueues : word'.queues.length = word.queues.length)
    (hpending : word'.pending.length = word.pending.length) (hmode : mode.Owes → mode'.Owes)
    (hframe : frame.Owes → frame'.Owes) : phone.Runs vc word' mode' frame' tabs where
  home := h.home
  config := h.config
  setting := h.setting
  observers := by
    rw [hqueues]
    exact h.observers
  deviceWrites := by
    rw [hpending]
    exact h.deviceWrites
  isShown := by
    intro hshown
    exact (h.isShown hshown).imp hframe fun hrest => hrest.imp_left hmode

theorem runs_flip (h : phone.Runs vc word mode frame tabs) (hmode : mode.Coherent) {sender : ModeSwitch}
    {isOn : Bool} (he : phone.setting.isOn sender ≠ isOn)
    : ∃ tabs', tabs.step (.flip sender isOn) = some tabs'
        ∧ tabs.effects (.flip sender isOn) = (phone.setting.flip sender isOn).2
        ∧ Phone.Runs
            { phone with
              setting := (phone.setting.flip sender isOn).1
              modeOwners := phone.modeOwners
                ++ (observes (phone.setting.flip sender isOn).2).map fun _ => .initDataModeFirebase }
            vc word (perform .CHEDO mode (phone.setting.flip sender isOn).2) frame tabs' := by
  have hstep : tabs.step (.flip sender isOn)
      = some (tabs.performSetting (.switchChanged sender) (phone.setting.flip sender isOn)) := by
    dsimp only [Tabs.step]
    rw [h.setting, if_pos he]
  have heffects : tabs.effects (.flip sender isOn) = (phone.setting.flip sender isOn).2 := by
    rw [← h.setting]
    rfl
  have hwrites := Tabs.deviceWrites_flip hstep
  obtain ⟨hobserves, hindicator⟩ := phone.setting.effects_flip sender isOn
  refine ⟨_, hstep, heffects, ?_⟩
  rw [Tabs.performSetting_eq] at hwrites ⊢
  refine ⟨h.home, h.config, rfl, ?_, hwrites.trans h.deviceWrites, ?_⟩
  . exact perm_append_middle h.observers _
  . intro hshown
    rw [hwrites, perform_flip]
    dsimp only at hshown
    rw [hindicator] at hshown
    split
    . exact Or.inr (Or.inl (Observed.owes_observe mode))
    . next hrejected =>
      rw [if_neg hrejected] at hshown
      refine (h.isShown hshown).imp_right fun hrest => hrest.imp_left fun howes => ?_
      exact Observed.owes_write hmode howes _

theorem runs_edit (h : phone.Runs vc word mode frame tabs) (textField : TextField) (text : Str)
    : ∃ tabs', tabs.step (.edit textField text) = some tabs'
        ∧ Phone.Runs { phone with setting := phone.setting.edit textField text } vc word mode frame
          tabs' := by
  refine ⟨_, rfl, h.home, h.config, ?_, h.observers, h.deviceWrites, h.isShown⟩
  rw [h.setting]

theorem runs_toggle (h : phone.Runs vc word mode frame tabs) {row : Row} {isOn : Bool}
    (he : (vc.cells row).isEnabled = true) {result : ConfigViewController × List Effect}
    (hresult : vc.switchValueChanged row isOn = some result)
    : ∃ tabs', tabs.step (.toggle row isOn) = some tabs'
        ∧ tabs.effects (.toggle row isOn) = result.2
        ∧ phone.Runs result.1 (word.write result.1.engineStates) mode frame tabs' := by
  have hstep : tabs.step (.toggle row isOn) = some (tabs.performConfig result) := by
    dsimp only [Tabs.step]
    rw [h.config, if_pos he, hresult]
    rfl
  have heffects : tabs.effects (.toggle row isOn) = result.2 := by
    dsimp only [Tabs.effects]
    rw [h.config, hresult]
    rfl
  have hwrites := Tabs.deviceWrites_toggle hstep
  obtain ⟨hobserves, _, _⟩ := ConfigViewController.effects_switchValueChanged hresult
  refine ⟨_, hstep, heffects, ?_⟩
  rw [Tabs.performConfig_eq] at hwrites ⊢
  refine ⟨h.home, rfl, h.setting, ?_, ?_, ?_⟩
  . dsimp only
    rw [hobserves, Observed.length_queues_write]
    simpa using h.observers
  . rw [hwrites, Observed.length_pending_write, h.deviceWrites]
  . intro _
    rw [hwrites]
    exact Or.inr (Or.inr (Nat.succ_ne_zero _))

/--
An observer of the phone is an observer of the tabs.
-/
theorem exists_observer (h : phone.Runs vc word mode frame tabs) (owner : Observer)
    (howner : owner ∈ frameOwners ++ phone.modeOwners
      ++ List.replicate word.queues.length .initDataEngineFirebase)
    : ∃ k : Nat, tabs.observers[k]? = some owner :=
  List.getElem?_of_mem (h.observers.mem_iff.mpr howner)

/--
A handler of the home screen only changes this screen and dismisses the indicator.
-/
theorem runs_home (h : phone.Runs vc word mode frame tabs) (owner : Observer)
    (howner : owner ∈ frameOwners) {value : Value} {result : HomeViewController × List Effect}
    (hstep : ∀ k : Nat, tabs.observers[k]? = some owner →
      tabs.step (.event k value) = some (tabs.performHome owner result)
        ∧ tabs.effects (.event k value) = result.2)
    (heffects : observes result.2 = [] ∧ writes result.2 = [] ∧ indicator result.2 = some false)
    (frame' : Observed Value)
    : ∃ k tabs', tabs.step (.event k value) = some tabs'
        ∧ tabs.effects (.event k value) = result.2
        ∧ Phone.Runs { phone with home := result.1 } vc word mode frame' tabs' := by
  obtain ⟨k, hk⟩ := exists_observer h owner (by simp [howner])
  obtain ⟨hobserves, hwrites, hindicator⟩ := heffects
  refine ⟨k, tabs.performHome owner result, (hstep k hk).1, (hstep k hk).2, ?_⟩
  rw [Tabs.performHome_eq, hobserves, hwrites, hindicator]
  refine ⟨rfl, h.config, h.setting, ?_, ?_, ?_⟩
  . simpa using h.observers
  . simpa [Tabs.deviceWrites] using h.deviceWrites
  . intro hshown
    contradiction

theorem runs_sensorDataFetched (h : phone.Runs vc word mode frame tabs) (value : Value)
    (frame' : Observed Value)
    : ∃ k tabs', tabs.step (.event k value) = some tabs'
        ∧ tabs.effects (.event k value) = (phone.home.sensorDataFetched (fetchDataFromFirebase value)).2
        ∧ Phone.Runs { phone with home := (phone.home.sensorDataFetched (fetchDataFromFirebase value)).1 }
          vc word mode frame' tabs' := by
  apply runs_home h .initDataFirebase (by decide) _ (phone.home.effects_sensorDataFetched value)
  intro k hk
  rw [← h.home]
  dsimp only [Tabs.step, Tabs.event, Tabs.effects]
  rw [hk]
  exact ⟨rfl, rfl⟩

theorem runs_rainStateFetched (h : phone.Runs vc word mode frame tabs) (value : Value)
    (frame' : Observed Value)
    : ∃ k tabs', tabs.step (.event k value) = some tabs'
        ∧ tabs.effects (.event k value) = (phone.home.rainStateFetched (fetchDataFromFirebase value)).2
        ∧ Phone.Runs { phone with home := (phone.home.rainStateFetched (fetchDataFromFirebase value)).1 }
          vc word mode frame' tabs' := by
  apply runs_home h .initDataRaintState (by decide) _ (phone.home.effects_rainStateFetched value)
  intro k hk
  rw [← h.home]
  dsimp only [Tabs.step, Tabs.event, Tabs.effects]
  rw [hk]
  exact ⟨rfl, rfl⟩

theorem runs_modeFetched (h : phone.Runs vc word mode frame tabs) (value : Value)
    (howner : .initDataModeFirebase ∈ phone.modeOwners) (mode' : Observed Value)
    : ∃ k tabs', tabs.step (.event k value) = some tabs'
        ∧ tabs.effects (.event k value) = (phone.setting.modeFetched (fetchDataFromFirebase value)).2
        ∧ Phone.Runs { phone with setting := (phone.setting.modeFetched (fetchDataFromFirebase value)).1 }
          vc word mode' frame tabs' := by
  obtain ⟨k, hk⟩ := exists_observer h .initDataModeFirebase (by simp [howner])
  obtain ⟨hobserves, hwrites, hindicator⟩ := phone.setting.effects_modeFetched value
  refine ⟨k, tabs.performSetting .writeThreshold
    (phone.setting.modeFetched (fetchDataFromFirebase value)), ?_, ?_, ?_⟩
  . dsimp only [Tabs.step, Tabs.event]
    rw [hk, h.setting]
    rfl
  . dsimp only [Tabs.effects]
    rw [hk, h.setting]
  . rw [Tabs.performSetting_eq, hobserves, hwrites, hindicator]
    refine ⟨h.home, h.config, rfl, ?_, ?_, ?_⟩
    . simpa using h.observers
    . simpa [Tabs.deviceWrites] using h.deviceWrites
    . intro hshown
      contradiction

theorem runs_workModeFetched (h : phone.Runs vc word mode frame tabs) {value : Value}
    (howner : .initDataWorkModeFirebase ∈ phone.modeOwners)
    {result : ConfigViewController × List Effect}
    (hresult : vc.workModeFetched (fetchDataFromFirebase value) = some result) (mode' : Observed Value)
    : ∃ k tabs', tabs.step (.event k value) = some tabs'
        ∧ tabs.effects (.event k value) = result.2
        ∧ phone.Runs result.1
            (if ConfigViewController.entersAppMode value then word.observe else word) mode' frame tabs' := by
  obtain ⟨k, hk⟩ := exists_observer h .initDataWorkModeFirebase (by simp [howner])
  obtain ⟨hobserves, hwrites, hindicator⟩ := ConfigViewController.effects_workModeFetched hresult
  refine ⟨k, tabs.performConfig result, ?_, ?_, ?_⟩
  . dsimp only [Tabs.step, Tabs.event]
    rw [hk, h.config]
    dsimp only [Option.bind_eq_bind, Option.bind_some]
    rw [hresult]
    rfl
  . dsimp only [Tabs.effects]
    rw [hk, h.config]
    dsimp only
    rw [hresult]
    rfl
  . rw [Tabs.performConfig_eq, hobserves, hwrites, hindicator]
    by_cases henters : ConfigViewController.entersAppMode value = true
    . rw [if_pos henters, if_pos henters]
      refine ⟨h.home, rfl, h.setting, ?_, ?_, ?_⟩
      . have hobservers := h.observers.append_right [.initDataEngineFirebase]
        simpa [Observed.observe, List.replicate_succ'] using hobservers
      . simpa [Tabs.deviceWrites, Observed.observe] using h.deviceWrites
      . intro hshown
        contradiction
    . rw [if_neg henters, if_neg henters]
      refine ⟨h.home, rfl, h.setting, ?_, ?_, ?_⟩
      . simpa using h.observers
      . simpa [Tabs.deviceWrites] using h.deviceWrites
      . intro hshown
        contradiction

theorem runs_engineStatesFetched (h : phone.Runs vc word mode frame tabs) {value : Value}
    (hwatched : word.queues ≠ []) {result : ConfigViewController × List Effect}
    (hresult : vc.engineStatesFetched (fetchDataFromFirebase value) = some result) (k : Nat)
    : ∃ j tabs', tabs.step (.event j value) = some tabs'
        ∧ tabs.effects (.event j value) = result.2
        ∧ phone.Runs result.1 (word.take k) mode frame tabs' := by
  obtain ⟨j, hj⟩ := exists_observer h .initDataEngineFirebase (by simp [hwatched])
  obtain ⟨hobserves, hwrites, hindicator⟩ := ConfigViewController.effects_engineStatesFetched hresult
  refine ⟨j, tabs.performConfig result, ?_, ?_, ?_⟩
  . dsimp only [Tabs.step, Tabs.event]
    rw [hj, h.config]
    dsimp only [Option.bind_eq_bind, Option.bind_some]
    rw [hresult]
    rfl
  . dsimp only [Tabs.effects]
    rw [hj, h.config]
    dsimp only
    rw [hresult]
    rfl
  . rw [Tabs.performConfig_eq, hobserves, hwrites, hindicator]
    refine ⟨h.home, rfl, h.setting, ?_, ?_, ?_⟩
    . simpa [Observed.take] using h.observers
    . simpa [Tabs.deviceWrites, Observed.take] using h.deviceWrites
    . simpa [Tabs.deviceWrites] using h.isShown

/--
The phone gets a message of the server. An answer to a write that it waits for ends this write.
-/
theorem runs_receive (h : phone.Runs vc word mode frame tabs)
    : (∃ b tabs', tabs.step b = some tabs' ∧ tabs.effects b = answer word
          ∧ phone.Runs vc word.receive mode frame tabs')
        ∨ (phone.Runs vc word.receive mode frame tabs ∧ answer word = []) := by
  have hqueues := Observed.length_queues_receive word
  have hpending := Observed.pending_receive word
  have hwrites := h.deviceWrites
  unfold answer
  split
  . next v rest hinbox hwaits =>
    left
    rw [hwaits, List.length_cons] at hwrites
    obtain ⟨k, tabs', hstep, heffects, hhome, hconfig, hsetting, hobservers, hless, hshown⟩ :=
      Tabs.complete_deviceWrite (s := tabs) (by omega)
    refine ⟨_, tabs', hstep, heffects, hhome.trans h.home, hconfig.trans h.config,
      hsetting.trans h.setting, ?_, ?_, ?_⟩
    . rw [hobservers, hqueues]
      exact h.observers
    . rw [hpending, hinbox]
      dsimp only
      rw [hwaits, List.tail_cons]
      omega
    . rw [hshown]
      intro hon
      contradiction
  . next hnone =>
    right
    refine ⟨runs_network h hqueues ?_ id id, rfl⟩
    rw [hpending]
    split
    . next rest hinbox =>
      cases hwaits : word.pending with
      | nil => rfl
      | cons v vs => exact absurd hwaits (hnone rest v vs hinbox)
    . rfl

end

end Household

end SmartGarden

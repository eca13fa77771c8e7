import SmartGarden.App.Household
import SmartGarden.ConfigScreen.Bound
import SmartGarden.Lib.Mirror

/-!
This module contains what the home screens and the device lists of the household show: as soon as nothing is
on its way to a phone, a function of what Firebase stores.
-/

open Swift

namespace SmartGarden

namespace Household

/--
What the home screen shows once both observers have got `data`.
-/
def shownHome (data : Str) : HomeViewController :=
  ((({} : HomeViewController).sensorDataFetched (.success data)).1.rainStateFetched (.success data)).1

def homeShows (home : HomeViewController) (owner : Observer) (value : Value) : Prop :=
  ∀ data, value = .string data →
    match owner with
    | .initDataFirebase => { home with image := "" } = { shownHome data with image := "" }
    | .initDataRaintState => home.image = (shownHome data).image
    | _ => True

def listShows (viewer : Viewer) (owner : Observer) (value : Value) : Prop :=
  owner = .initDataWorkModeFirebase → ∀ data, value = .string data → viewer.vc.workMode = data

theorem image_applyRainState (home other : HomeViewController) (data : Str)
    : (home.applyRainState data).image = (other.applyRainState data).image := by
  unfold HomeViewController.applyRainState
  split <;> rfl

theorem applyRainState_frame (home : HomeViewController) (data : Str)
    : { home.applyRainState data with image := "" } = { home with image := "" } := by
  unfold HomeViewController.applyRainState
  split <;> rfl

theorem homeShows_sensorDataFetched (home : HomeViewController) (value : Value)
    : homeShows (home.sensorDataFetched (fetchDataFromFirebase value)).1 .initDataFirebase value := by
  intro data hdata
  rw [hdata]
  exact (applyRainState_frame (({} : HomeViewController).sensorDataFetched (.success data)).1 _).symm

theorem homeShows_rainStateFetched (home : HomeViewController) (value : Value)
    : homeShows (home.rainStateFetched (fetchDataFromFirebase value)).1 .initDataRaintState value := by
  intro data hdata
  rw [hdata]
  exact image_applyRainState _ _ _

/--
Neither observer touches what the other one shows.
-/
theorem homeShows_frame (home : HomeViewController) (value : Value) {owner : Observer} {w : Value}
    (h : homeShows home owner w)
    : (owner ≠ .initDataFirebase
        → homeShows (home.sensorDataFetched (fetchDataFromFirebase value)).1 owner w)
      ∧ (owner ≠ .initDataRaintState
        → homeShows (home.rainStateFetched (fetchDataFromFirebase value)).1 owner w) := by
  cases value with
  | other => exact ⟨fun _ => h, fun _ => h⟩
  | string value =>
    constructor
    . intro howner data hdata
      have hshows := h data hdata
      cases owner with
      | initDataFirebase => contradiction
      | initDataRaintState => exact hshows
      | _ => trivial
    . intro howner data hdata
      have hshows := h data hdata
      cases owner with
      | initDataFirebase => exact (applyRainState_frame home _).trans hshows
      | initDataRaintState => contradiction
      | _ => trivial

variable {ι : Type}

/--
The tabs that a phone shows mirror what its clients see.
-/
structure Mirrors (s : Household ι) (p : ι) : Prop where
  cells : (s.lists.viewer p).vc.cells = (s.lists.viewer p).vc.shownCell
  watches : .initDataWorkModeFirebase ∈ (s.phone p).modeOwners
  mode : (s.mode.client p).Mirrors (s.phone p).modeOwners (listShows (s.lists.viewer p))
  frame : (s.frame.client p).Mirrors frameOwners (homeShows (s.phone p).home)

structure Inv (s : Household ι) : Prop where
  lists : s.lists.AllFollow
  modeAgree : s.mode.Agree
  frameAgree : s.frame.Agree
  mirrors : ∀ p, s.Mirrors p

theorem mirrors_observe_twice (value : Value) (first second : Observer)
    (shows : Observer → Value → Prop)
    : Observed.Mirrors ({ stored := value } : Observed Value).observe.observe [first, second] shows := by
  have hfirst := Observed.mirrors_observe (Observed.mirrors_start value shows) first fun _ _ _ h => h
  exact Observed.mirrors_observe hfirst second fun _ _ _ h => h

theorem mirrors_launchMode (mode : Value) (shows : Observer → Value → Prop)
    : (launchMode mode).Mirrors [.initDataWorkModeFirebase, .initDataModeFirebase] shows :=
  mirrors_observe_twice mode _ _ _

theorem mirrors_launchFrame (frame : Value) (shows : Observer → Value → Prop)
    : (launchFrame frame).Mirrors frameOwners shows :=
  mirrors_observe_twice frame _ _ _

theorem inv_start (mode frame : Value) {word : Str} (hword : 4 ≤ word.length)
    (texts : ι → TextField → Str) : (start mode frame word texts).Inv where
  lists := Viewers.allFollow_start hword
  modeAgree := fun _ => rfl
  frameAgree := fun _ => rfl
  mirrors := by
    intro p
    refine ⟨?_, List.mem_cons_self, mirrors_launchMode mode _, mirrors_launchFrame frame _⟩
    funext row
    rfl

section

variable [DecidableEq ι]

theorem stored_perform (path : Path) (client : Observed Value) (effects : List Effect)
    : (perform path client effects).stored = client.stored := by
  induction effects generalizing client with
  | nil => rfl
  | cons effect effects ih =>
    have hcons : perform path client (effect :: effects)
        = perform path (perform path client [effect]) effects := rfl
    rw [hcons, ih]
    unfold perform
    cases effect with
    | observe other =>
      dsimp only [List.foldl]
      split <;> rfl
    | setValue other data =>
      dsimp only [List.foldl]
      split
      . exact Observed.write_stored client _
      . rfl
    | _ => rfl

/--
A flip writes a mode or has the mode fetched again.
-/
theorem perform_flip (setting : SettingViewController) (sender : ModeSwitch) (isOn : Bool)
    (client : Observed Value)
    : perform .CHEDO client (setting.flip sender isOn).2
        =
      if setting.Rejected sender isOn then
        client.observe
      else
        client.write (.string (SettingViewController.modeOf sender)) := by
  by_cases hrejected : setting.Rejected sender isOn
  . rw [setting.flip_snd_of_rejected _ _ hrejected, if_pos hrejected]
    rfl
  . rw [setting.flip_snd _ _ hrejected, if_neg hrejected]
    rfl

theorem owners_flip (setting : SettingViewController) (sender : ModeSwitch) (isOn : Bool)
    (owners : List Observer)
    : owners ++ (observes (setting.flip sender isOn).2).map (fun _ => .initDataModeFirebase)
        =
      if setting.Rejected sender isOn then owners ++ [.initDataModeFirebase] else owners := by
  rw [(setting.effects_flip sender isOn).1]
  split
  . rfl
  . exact List.append_nil owners

/--
Whatever is shown of the mode and does not change with a flip is still shown after it.
-/
theorem mirrors_flip {client : Observed Value} {owners : List Observer} {shows : Observer → Value → Prop}
    (h : client.Mirrors owners shows) (howners : owners ≠ []) (setting : SettingViewController)
    (sender : ModeSwitch) (isOn : Bool)
    : (perform .CHEDO client (setting.flip sender isOn).2).Mirrors
        (owners ++ (observes (setting.flip sender isOn).2).map fun _ => .initDataModeFirebase) shows := by
  rw [perform_flip, owners_flip]
  split
  . exact Observed.mirrors_observe h _ fun _ _ _ hshows => hshows
  . apply Observed.mirrors_write h howners
    intro o ho hidle hseen
    exact h.shown o ho hidle _ hseen

theorem inv_update {s : Household ι} (h : s.Inv) (p : ι) (phone : Phone) (mode frame : Observed Value)
    (hmode : mode.stored = (s.mode.client p).stored) (hframe : frame.stored = (s.frame.client p).stored)
    (hwatches : .initDataWorkModeFirebase ∈ phone.modeOwners)
    (hshown : mode.Mirrors phone.modeOwners (listShows (s.lists.viewer p)))
    (hhome : frame.Mirrors frameOwners (homeShows phone.home))
    : Inv { s with
      phone := Function.update s.phone p phone
      mode := s.mode.update p mode
      frame := s.frame.update p frame } where
  lists := h.lists
  modeAgree := Clients.agree_update h.modeAgree hmode
  frameAgree := Clients.agree_update h.frameAgree hframe
  mirrors := by
    intro q
    by_cases hq : q = p
    . subst hq
      refine ⟨(h.mirrors q).cells, ?_, ?_, ?_⟩
      all_goals simpa [Clients.update]
    . have hold := h.mirrors q
      refine ⟨hold.cells, ?_, ?_, ?_⟩
      . simpa [hq] using hold.watches
      . simpa [Clients.update, hq] using hold.mode
      . simpa [Clients.update, hq] using hold.frame

theorem inv_relaunch {s : Household ι} (h : s.Inv) (p : ι) (texts : TextField → Str)
    : (s.relaunch p texts).Inv where
  lists := by
    apply Viewers.allFollow_update h.lists
    . exact (h.lists.agree p).symm
    . apply Viewers.follows_start
      rw [← h.lists.agree p]
      exact (h.lists.follows p).words.stored
  modeAgree := Clients.agree_update h.modeAgree (h.modeAgree p).symm
  frameAgree := Clients.agree_update h.frameAgree (h.frameAgree p).symm
  mirrors := by
    intro q
    by_cases hq : q = p
    . subst hq
      refine ⟨?_, ?_, ?_, ?_⟩
      . simp only [relaunch, Viewers.update, Function.update_self]
        funext row
        rfl
      . simp [relaunch, Phone.launch]
      . simpa [relaunch, Phone.launch, Clients.update] using mirrors_launchMode s.mode.stored _
      . simpa [relaunch, Clients.update] using mirrors_launchFrame s.frame.stored _
    . have hold := h.mirrors q
      refine ⟨?_, ?_, ?_, ?_⟩
      . simpa [relaunch, Viewers.update, hq] using hold.cells
      . simpa [relaunch, hq] using hold.watches
      . simpa [relaunch, Viewers.update, Clients.update, hq] using hold.mode
      . simpa [relaunch, Clients.update, hq] using hold.frame

theorem inv_setting {s : Household ι} (h : s.Inv) (p : ι) (setting : SettingViewController)
    (owners : List Observer) (mode : Observed Value) (hmode : mode.stored = (s.mode.client p).stored)
    (hwatches : .initDataWorkModeFirebase ∈ owners)
    (hshown : mode.Mirrors owners (listShows (s.lists.viewer p)))
    : Inv { s with
      phone := Function.update s.phone p { s.phone p with setting := setting, modeOwners := owners }
      mode := s.mode.update p mode } := by
  have hupdate := inv_update h p { s.phone p with setting := setting, modeOwners := owners } mode
    (s.frame.client p) hmode rfl hwatches hshown (h.mirrors p).frame
  rw [Clients.update_client] at hupdate
  exact hupdate

theorem inv_flip {s : Household ι} (h : s.Inv) (p : ι) (sender : ModeSwitch) (isOn : Bool)
    : (s.flip p sender isOn).Inv := by
  have hp := h.mirrors p
  apply inv_setting h p
  . exact stored_perform .CHEDO _ _
  . exact List.mem_append_left _ hp.watches
  . exact mirrors_flip hp.mode (List.ne_nil_of_mem hp.watches) (s.phone p).setting sender isOn

theorem inv_edit {s : Household ι} (h : s.Inv) (p : ι) (textField : TextField) (text : Str)
    : (s.edit p textField text).Inv := by
  have hp := h.mirrors p
  have hsetting := inv_setting h p ((s.phone p).setting.edit textField text) (s.phone p).modeOwners
    (s.mode.client p) rfl hp.watches hp.mode
  rw [Clients.update_client] at hsetting
  exact hsetting

theorem inv_lists {s : Household ι} (h : s.Inv) {a : Viewers.Action ι}
    (he : Viewers.machine.enabled s.lists a) (ha : ∀ p data, a ≠ .workMode p (.string data))
    : Inv { s with lists := Viewers.machine.next s.lists a } where
  lists := Viewers.allFollow_next h.lists he
  modeAgree := h.modeAgree
  frameAgree := h.frameAgree
  mirrors := by
    intro p
    have hp := h.mirrors p
    refine ⟨Viewers.cells_next h.lists he hp.cells, hp.watches, ?_, hp.frame⟩
    apply Observed.mirrors_mono hp.mode
    intro o _ _ v _ hshows ho data hdata
    dsimp only
    rw [Viewers.workMode_next h.lists he (ha p)]
    exact hshows ho data hdata

/--
The observer of the device list gets a value: its mode changes, and no other phone's does.
-/
theorem inv_workMode {s : Household ι} (h : s.Inv) {p : ι} {k : Nat} {value : Value}
    (hevent : (s.mode.client p).event? k = some value)
    (hk : (s.phone p).modeOwners[k]? = some .initDataWorkModeFirebase)
    : Inv { s with
      lists := s.lists.workMode p value
      mode := s.mode.update p ((s.mode.client p).take k) } where
  lists := Viewers.allFollow_workMode h.lists p value
  modeAgree := Clients.agree_update h.modeAgree rfl
  frameAgree := h.frameAgree
  mirrors := by
    intro q
    have hold := h.mirrors q
    have henabled : Viewers.machine.enabled s.lists (.workMode p value) := trivial
    refine ⟨Viewers.cells_next h.lists henabled hold.cells, hold.watches, ?_, hold.frame⟩
    by_cases hq : q = p
    . subst hq
      have htake : ((s.mode.client q).take k).Mirrors (s.phone q).modeOwners
          (listShows ((s.lists.workMode q value).viewer q)) := by
        apply Observed.mirrors_take hold.mode hevent hk
        . intro _ data hdata
          rw [hdata]
          exact Viewers.workMode_fetched h.lists q data
        . intro other hother w _ howner
          contradiction
      simpa [Clients.update] using htake
    . have hsame : ((s.lists.workMode p value).viewer q).vc.workMode = (s.lists.viewer q).vc.workMode := by
        apply Viewers.workMode_next h.lists henabled
        intro data heq
        exact hq (Viewers.Action.workMode.inj heq).1.symm
      dsimp only [Clients.update]
      rw [Function.update_of_ne hq]
      apply Observed.mirrors_mono hold.mode
      intro o _ _ v _ hshows ho data hdata
      rw [hsame]
      exact hshows ho data hdata

theorem inv_modeEvent {s : Household ι} (h : s.Inv) (p : ι) (k : Nat) : (s.modeEvent p k).Inv := by
  have hp := h.mirrors p
  unfold modeEvent
  dsimp only
  split
  . next value hevent hk => exact inv_workMode h hevent hk
  . next value hevent hk =>
    apply inv_setting h p
    . rfl
    . exact hp.watches
    . apply Observed.mirrors_take hp.mode hevent hk
      . intro howner
        contradiction
      . intro _ _ _ hshows
        exact hshows
  . exact h

theorem inv_home {s : Household ι} (h : s.Inv) (p : ι) (home : HomeViewController)
    (frame : Observed Value) (hframe : frame.stored = (s.frame.client p).stored)
    (hhome : frame.Mirrors frameOwners (homeShows home))
    : Inv { s with
      phone := Function.update s.phone p { s.phone p with home := home }
      frame := s.frame.update p frame } := by
  have hp := h.mirrors p
  have hupdate := inv_update h p { s.phone p with home := home } (s.mode.client p) frame rfl hframe
    hp.watches hp.mode hhome
  rw [Clients.update_client] at hupdate
  exact hupdate

theorem inv_frameEvent {s : Household ι} (h : s.Inv) (p : ι) (k : Nat) : (s.frameEvent p k).Inv := by
  have hp := h.mirrors p
  unfold frameEvent
  dsimp only
  split
  . next value hevent hk =>
    apply inv_home h p
    . rfl
    . apply Observed.mirrors_take hp.frame hevent hk
      . exact homeShows_sensorDataFetched _ value
      . intro other hother w hshows
        exact (homeShows_frame _ value hshows).1 hother
  . next value hevent hk =>
    apply inv_home h p
    . rfl
    . apply Observed.mirrors_take hp.frame hevent hk
      . exact homeShows_rainStateFetched _ value
      . intro other hother w hshows
        exact (homeShows_frame _ value hshows).2 hother
  . exact h

theorem inv_next {s : Household ι} (h : s.Inv) {a : Action ι} (he : machine.enabled s a)
    : (machine.next s a).Inv := by
  cases a with
  | relaunch p texts => exact inv_relaunch h p texts
  | flip p sender isOn => exact inv_flip h p sender isOn
  | edit p textField text => exact inv_edit h p textField text
  | list a =>
    cases a with
    | workMode p value => exact he.elim
    | _ => exact inv_lists h he (by simp)
  | modeEvent p k => exact inv_modeEvent h p k
  | frameEvent p k => exact inv_frameEvent h p k
  | mode a =>
    refine ⟨h.lists, Clients.agree_next h.modeAgree a, h.frameAgree, ?_⟩
    intro p
    have hp := h.mirrors p
    refine ⟨hp.cells, hp.watches, ?_, hp.frame⟩
    apply Clients.forall_next (I := fun p client => client.Mirrors (s.phone p).modeOwners
      (listShows (s.lists.viewer p))) _ _ he
    . intro q
      exact Observed.stable_mirrors (List.ne_nil_of_mem (h.mirrors q).watches) _
    . intro q
      exact (h.mirrors q).mode
  | frame a =>
    refine ⟨h.lists, h.modeAgree, Clients.agree_next h.frameAgree a, ?_⟩
    intro p
    have hp := h.mirrors p
    refine ⟨hp.cells, hp.watches, hp.mode, ?_⟩
    apply Clients.forall_next (I := fun p client => client.Mirrors frameOwners
      (homeShows (s.phone p).home)) _ _ he
    . intro q
      exact Observed.stable_mirrors (List.cons_ne_nil _ _) _
    . intro q
      exact (h.mirrors q).frame

theorem inv_run {mode frame : Value} {word : Str} (hword : 4 ≤ word.length)
    {texts : ι → TextField → Str} {as : List (Action ι)}
    (hv : machine.Valid (start mode frame word texts) as)
    : (machine.run (start mode frame word texts) as).Inv := by
  apply Machine.run_invariant _ (inv_start mode frame hword texts) hv
  intro s a hs he
  exact inv_next hs he

end

def shownCells (mode word : Str) : Row → EquipmentCell :=
  ConfigViewController.shownCell { engineStates := word, workMode := mode }

/--
Nothing is on its way to phone `p`.
-/
def Quiet (s : Household ι) (p : ι) : Prop :=
  (s.frame.client p).Quiet ∧ (s.mode.client p).Quiet
    ∧ ((s.lists.word.client p).queues ≠ [] → (s.lists.word.client p).Quiet)

instance (s : Household ι) (p : ι) : Decidable (s.Quiet p) :=
  inferInstanceAs (Decidable ((s.frame.client p).Quiet ∧ (s.mode.client p).Quiet
    ∧ ((s.lists.word.client p).queues ≠ [] → (s.lists.word.client p).Quiet)))

/--
The home screen and the device list of phone `p` are functions of what Firebase stores.
-/
structure ShowsStored (s : Household ι) (p : ι) : Prop where
  home : ∀ data, s.frame.stored = .string data → (s.phone p).home = shownHome data
  cells : ∀ mode, s.mode.stored = .string mode
    → (s.lists.viewer p).vc.cells = shownCells mode s.lists.word.stored

theorem home_eq {home : HomeViewController} {data : Str}
    (hsensor : homeShows home .initDataFirebase (.string data))
    (hrain : homeShows home .initDataRaintState (.string data)) : home = shownHome data := by
  have hfields := hsensor data rfl
  have himage := hrain data rfl
  cases home
  cases hshown : shownHome data
  rw [hshown] at hfields himage
  simp_all

theorem cells_eq {vc : ConfigViewController} {mode word : Str} (hcells : vc.cells = vc.shownCell)
    (hmode : vc.workMode = mode)
    (hword : ConfigViewController.isAppMode mode → vc.engineStates = word)
    : vc.cells = shownCells mode word := by
  rw [hcells]
  funext row
  unfold shownCells ConfigViewController.shownCell
  dsimp only
  rw [hmode]
  split
  . next happ => rw [hword happ]
  . rfl

theorem showsStored_of_quiet {s : Household ι} (h : s.Inv) {p : ι} (hquiet : s.Quiet p)
    : s.ShowsStored p := by
  obtain ⟨hframe, hmode, hword⟩ := hquiet
  have hp := h.mirrors p
  have hfollows := h.lists.follows p
  constructor
  . intro data hdata
    have hstored : (s.frame.client p).stored = .string data := (h.frameAgree p).trans hdata
    have hsensor := Observed.shows_stored hp.frame (o := .initDataFirebase) (by decide) hframe
    have hrain := Observed.shows_stored hp.frame (o := .initDataRaintState) (by decide) hframe
    rw [hstored] at hsensor hrain
    exact home_eq hsensor hrain
  . intro mode hdata
    have hstored : (s.mode.client p).stored = .string mode := (h.modeAgree p).trans hdata
    have hshows := Observed.shows_stored hp.mode hp.watches hmode
    have hworkMode := hshows rfl mode hstored
    apply cells_eq hp.cells hworkMode
    intro happ
    rw [← hworkMode] at happ
    have hwatched := hfollows.watched happ
    have hq := hword hwatched
    have hseen := Observed.seen_of_quiet (hfollows.coherent hwatched) hq
    rw [hfollows.shows hq.2.2.2 _ hseen]
    exact h.lists.agree p

section

variable [DecidableEq ι]

/--
Once nothing is on its way to a phone, its home screen and its device list show what Firebase stores,
whatever the phones, the devices and the network have done.
-/
theorem screens_show_stored {mode frame : Value} {word : Str} {texts : ι → TextField → Str}
    {as : List (Action ι)} (hword : 4 ≤ word.length)
    (hv : machine.Valid (start mode frame word texts) as) (p : ι)
    (hquiet : (machine.run (start mode frame word texts) as).Quiet p)
    : (machine.run (start mode frame word texts) as).ShowsStored p :=
  showsStored_of_quiet (inv_run hword hv) hquiet

def twoPhones : List (Action Bool) :=
  [.mode (.listen true), .mode (.receive true), .modeEvent true 0, .modeEvent true 1,
    .frame (.listen true), .frame (.receive true), .frameEvent true 1, .frameEvent true 0,
    .mode (.listen false), .relaunch false fun _ => ['9'], .mode (.listen false),
    .mode (.receive false), .modeEvent false 1, .modeEvent false 0,
    .list (.listen true), .list (.receive true), .list (.event true 0), .list (.toggle true 0 true),
    .list (.event true 0), .flip false .buttonControlModeSwitch true, .modeEvent false 1,
    .modeEvent false 0, .frame (.put (.string ['3', '1', '7', '0', '5', '0', '4', '0', '0'])),
    .frame (.receive true), .frameEvent true 0, .frameEvent true 1, .list (.accept true),
    .list (.receive true), .list (.receive true), .mode (.accept false), .mode (.receive true),
    .flip true .appControlModeSwitch false, .modeEvent true 0, .modeEvent true 1, .modeEvent true 0,
    .modeEvent true 1, .list (.event true 1), .mode (.accept true), .mode (.receive true),
    .mode (.receive true)]

theorem screens_show_stored_two
    : ShowsStored
        (machine.run
          (start (.string ['2']) (.string ['3', '0', '7', '0', '5', '0', '4', '0', '1']) ['0', '0', '0', '0']
            fun _ _ => [])
          twoPhones)
        true :=
  screens_show_stored (by decide) (by decide) true (by decide)

end

end Household

end SmartGarden

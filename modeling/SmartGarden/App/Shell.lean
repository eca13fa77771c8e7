import SmartGarden.App.Indicator
import SmartGarden.ProgressHUD.Run

/-!
This module contains the tabs below the indicator that they show: each `displayIndicator` leaves a block to
the main queue, and as long as the background of the indicator is there no switch can be touched.
-/

open Swift

namespace SmartGarden

open ProgressHUD (Call)

namespace Tabs

/--
What the handlers that a step calls do to the outside world.
-/
def effects (s : Tabs) (a : Action) : List Effect :=
  match a with
  | .event k value =>
    let result := fetchDataFromFirebase value
    match s.observers[k]? with
    | some .initDataFirebase => (s.home.sensorDataFetched result).2
    | some .initDataRaintState => (s.home.rainStateFetched result).2
    | some .initDataWorkModeFirebase => ((s.config.workModeFetched result).map Prod.snd).getD []
    | some .initDataEngineFirebase => ((s.config.engineStatesFetched result).map Prod.snd).getD []
    | some .initDataModeFirebase => (s.setting.modeFetched result).2
    | none => []
  | .toggle row isOn => ((s.config.switchValueChanged row isOn).map Prod.snd).getD []
  | .flip sender isOn => (s.setting.flip sender isOn).2
  | .edit _ _ => []
  | .complete k error =>
    let result := writeDataToFirebase error
    match s.pending[k]? with
    | some .updateFirebaseData => ConfigViewController.firebaseDataUpdated result
    | some .pumpSpeed => ConfigViewController.pumpSpeedWritten result
    | some (.switchChanged sender) => s.setting.writeCompleted (some sender) result
    | some .writeThreshold => s.setting.writeCompleted none result
    | none => []

/--
The effects of the three `viewDidLoad`.
-/
def startEffects : List Effect :=
  HomeViewController.initDataFirebase
    ++ HomeViewController.initDataRaintState
    ++ ConfigViewController.viewDidLoad.2
    ++ SettingViewController.initDataModeFirebase

theorem isShown_start (texts : TextField → Str)
    : (start texts).isShown = (indicator startEffects).getD false := by
  rfl

/--
A step changes a screen or forgets a write, and then its effects are performed.
-/
theorem step_cases {s s' : Tabs} {a : Action} (h : s.step a = some s')
    : ∃ (t : Tabs) (observer : Path → Observer) (request : Path → PendingWrite),
        s' = t.perform observer request (s.effects a)
          ∧ t.observers = s.observers ∧ t.isShown = s.isShown := by
  cases a with
  | event k value =>
    obtain ⟨observer, hobserver, h⟩ := Option.bind_eq_some_iff.mp h
    unfold effects
    dsimp only
    rw [hobserver]
    cases observer with
    | initDataFirebase =>
      cases h
      exact ⟨_, _, _, rfl, rfl, rfl⟩
    | initDataRaintState =>
      cases h
      exact ⟨_, _, _, rfl, rfl, rfl⟩
    | initDataWorkModeFirebase =>
      obtain ⟨result, hresult, h⟩ := Option.bind_eq_some_iff.mp h
      cases h
      dsimp only
      rw [hresult]
      exact ⟨_, _, _, rfl, rfl, rfl⟩
    | initDataEngineFirebase =>
      obtain ⟨result, hresult, h⟩ := Option.bind_eq_some_iff.mp h
      cases h
      dsimp only
      rw [hresult]
      exact ⟨_, _, _, rfl, rfl, rfl⟩
    | initDataModeFirebase =>
      cases h
      exact ⟨_, _, _, rfl, rfl, rfl⟩
  | toggle row isOn =>
    dsimp only [step] at h
    split at h
    . obtain ⟨result, hresult, rfl⟩ := Option.map_eq_some_iff.mp h
      unfold effects
      dsimp only
      rw [hresult]
      exact ⟨_, _, _, rfl, rfl, rfl⟩
    . contradiction
  | flip sender isOn =>
    dsimp only [step] at h
    split at h
    . cases h
      exact ⟨_, _, _, rfl, rfl, rfl⟩
    . contradiction
  | edit textField text =>
    cases h
    exact ⟨_, fun _ => .initDataFirebase, fun _ => .pumpSpeed, rfl, rfl, rfl⟩
  | complete k error =>
    obtain ⟨request, hrequest, h⟩ := Option.bind_eq_some_iff.mp h
    unfold effects
    dsimp only
    rw [hrequest]
    cases request with
    | updateFirebaseData =>
      cases h
      exact ⟨_, _, _, rfl, rfl, rfl⟩
    | pumpSpeed =>
      cases h
      exact ⟨_, _, _, rfl, rfl, rfl⟩
    | switchChanged sender =>
      cases h
      exact ⟨_, _, _, rfl, rfl, rfl⟩
    | writeThreshold =>
      cases h
      exact ⟨_, _, _, rfl, rfl, rfl⟩

theorem isShown_step {s s' : Tabs} {a : Action} (h : s.step a = some s')
    : s'.isShown = (indicator (s.effects a)).getD s.isShown := by
  obtain ⟨t, observer, request, rfl, _, hshown⟩ := step_cases h
  rw [perform_isShown, hshown]

/--
The number of unanswered writes of the device list.
-/
def deviceWrites (s : Tabs) : Nat :=
  s.pending.count .updateFirebaseData

theorem deviceWrites_perform (s : Tabs) (observer : Path → Observer) (request : Path → PendingWrite)
    (effects : List Effect)
    : (s.perform observer request effects).deviceWrites
        =
      s.deviceWrites + (writes effects).countP fun write => request write.1 = .updateFirebaseData := by
  rw [perform_eq]
  unfold deviceWrites
  dsimp only
  rw [List.count_append]
  rw [List.count_eq_countP (l := (writes effects).map _)]
  rw [List.countP_map]
  rfl

theorem deviceWrites_perform_other (s : Tabs) (observer : Path → Observer)
    {request : Path → PendingWrite} (hrequest : ∀ path, request path ≠ .updateFirebaseData)
    (effects : List Effect) : (s.perform observer request effects).deviceWrites = s.deviceWrites := by
  rw [deviceWrites_perform]
  simp [hrequest]

theorem deviceWrites_event {s s' : Tabs} {k : Nat} {value : Value} (h : s.event k value = some s')
    : s'.deviceWrites = s.deviceWrites := by
  obtain ⟨_, _, _, hpending, _⟩ := event_frame h
  unfold deviceWrites
  rw [hpending]

theorem deviceWrites_toggle {s s' : Tabs} {row : Row} {isOn : Bool}
    (h : s.step (.toggle row isOn) = some s') : s'.deviceWrites = s.deviceWrites + 1 := by
  dsimp only [step] at h
  split at h
  . obtain ⟨result, hresult, rfl⟩ := Option.map_eq_some_iff.mp h
    obtain ⟨⟨vc, effects⟩, hhandle, heq⟩ := Option.bind_eq_some_iff.mp hresult
    cases heq
    obtain ⟨engineStates, _, hhandle⟩ := Option.bind_eq_some_iff.mp hhandle
    obtain ⟨vc', _, hhandle⟩ := Option.bind_eq_some_iff.mp hhandle
    cases hhandle
    unfold performConfig
    rw [deviceWrites_perform, writes_append, List.countP_append]
    have hdevice : ({ s with config := vc } : Tabs).deviceWrites = s.deviceWrites := rfl
    rw [hdevice]
    split <;> rfl
  . contradiction

theorem deviceWrites_flip {s s' : Tabs} {sender : ModeSwitch} {isOn : Bool}
    (h : s.step (.flip sender isOn) = some s') : s'.deviceWrites = s.deviceWrites := by
  dsimp only [step] at h
  split at h
  . cases h
    exact deviceWrites_perform_other _ _ (by simp) _
  . contradiction

theorem deviceWrites_complete {s s' : Tabs} {k : Nat} {error : Option String}
    (h : s.complete k error = some s') : s'.deviceWrites ≤ s.deviceWrites := by
  obtain ⟨request, _, h⟩ := Option.bind_eq_some_iff.mp h
  have hle : deviceWrites { s with pending := s.pending.eraseIdx k } ≤ s.deviceWrites :=
    (List.eraseIdx_sublist s.pending k).count_le _
  cases request with
  | updateFirebaseData =>
    cases h
    obtain ⟨_, hwrites, _⟩ := ConfigViewController.effects_firebaseDataUpdated error
    unfold performConfig
    rw [deviceWrites_perform, hwrites]
    exact hle
  | pumpSpeed =>
    cases h
    obtain ⟨_, hwrites, _⟩ := ConfigViewController.effects_pumpSpeedWritten error
    unfold performConfig
    rw [deviceWrites_perform, hwrites]
    exact hle
  | switchChanged sender =>
    cases h
    unfold performSetting
    rw [deviceWrites_perform_other _ _ (by simp)]
    exact hle
  | writeThreshold =>
    cases h
    unfold performSetting
    rw [deviceWrites_perform_other _ _ (by simp)]
    exact hle

end Tabs

structure Shell where
  tabs : Tabs
  overlay : Overlay String

namespace Shell

def displayIndicator (isShow : Bool) : Call String :=
  if isShow then .show none false else .dismiss

/--
The blocks that effects leave to the main queue.
-/
def calls (effects : List Effect) : List (Call String) :=
  (effects.filterMap Effect.displayIndicator?).map displayIndicator

inductive Action where
  | tabs (a : Tabs.Action)
  | overlay (a : Overlay.Action String)

/--
The step moves a switch.
-/
def touches : Tabs.Action → Bool
  | .toggle _ _ => true
  | .flip _ _ => true
  | _ => false

def machine : Machine Shell Action where
  enabled s a :=
    match a with
    | .tabs a => Tabs.machine.enabled s.tabs a
        ∧ (touches a → s.overlay.hud.viewBackground = none)
    -- The calls are those of the tabs.
    | .overlay (.call _) => False
    | .overlay a => Overlay.machine.enabled s.overlay a
  next s a :=
    match a with
    | .tabs a =>
      { tabs := Tabs.machine.next s.tabs a
        overlay := { s.overlay with queue := s.overlay.queue ++ calls (s.tabs.effects a) } }
    | .overlay a => { s with overlay := Overlay.machine.next s.overlay a }

instance (s : Shell) (a : Action) : Decidable (machine.enabled s a) :=
  match a with
  | .tabs a =>
    inferInstanceAs (Decidable (Tabs.machine.enabled s.tabs a
      ∧ (touches a → s.overlay.hud.viewBackground = none)))
  | .overlay (.call _) => inferInstanceAs (Decidable False)
  | .overlay .execute =>
    inferInstanceAs (Decidable (Overlay.machine.enabled s.overlay .execute))
  | .overlay (.fire k) =>
    inferInstanceAs (Decidable (Overlay.machine.enabled s.overlay (.fire k)))
  | .overlay .finish =>
    inferInstanceAs (Decidable (Overlay.machine.enabled s.overlay .finish))

def launchOverlay : Overlay String :=
  { Overlay.start "checkmark" "remove" with queue := calls Tabs.startEffects }

def start (texts : TextField → Str) : Shell where
  tabs := Tabs.start texts
  overlay := launchOverlay

/--
The last call, made or waiting, is the one that `isShown` says.
-/
def Linked (s : Shell) : Prop :=
  (s.overlay.queue.getLast?.or s.overlay.last).any Call.keeps = s.tabs.isShown

theorem keeps_displayIndicator (isShow : Bool) : (displayIndicator isShow).keeps = isShow := by
  cases isShow <;> rfl

theorem getLast?_calls (effects : List Effect)
    : (calls effects).getLast? = (indicator effects).map displayIndicator := by
  unfold calls indicator
  rw [List.getLast?_map]

theorem calls_eq_nil {effects : List Effect} (h : indicator effects = none) : calls effects = [] := by
  have hnil : effects.filterMap Effect.displayIndicator? = [] := List.getLast?_eq_none_iff.mp h
  unfold calls
  rw [hnil]
  rfl

/--
The last call, made or waiting, keeps the indicator up.
-/
def Asks (s : Overlay String) : Prop :=
  (s.queue.getLast?.or s.last).any Call.keeps = true

theorem asks_queue (s : Overlay String) (effects : List Effect)
    : Asks { s with queue := s.queue ++ calls effects }
        ↔
      (indicator effects).elim (Asks s) fun isShow => isShow = true := by
  unfold Asks
  dsimp only
  rw [List.getLast?_append, getLast?_calls]
  cases hindicator : indicator effects with
  | none => rfl
  | some isShow => simp [keeps_displayIndicator]

theorem asks_execute (s : Overlay String) : Asks s.execute ↔ Asks s := by
  unfold Overlay.execute Asks
  cases hqueue : s.queue with
  | nil =>
    dsimp only
    rw [hqueue]
  | cons call queue =>
    cases queue with
    | nil => rfl
    | cons other queue => simp [List.getLast?_cons]

theorem linked_iff (s : Shell) : s.Linked ↔ (Asks s.overlay ↔ s.tabs.isShown = true) :=
  Bool.eq_iff_iff

theorem linked_start (texts : TextField → Str) : (start texts).Linked := by
  unfold Linked
  dsimp only [start, launchOverlay]
  rw [getLast?_calls, Tabs.isShown_start]
  rfl

theorem linked_tabs {s : Shell} {a : Tabs.Action} (h : s.Linked)
    (he : Tabs.machine.enabled s.tabs a) : (machine.next s (.tabs a)).Linked := by
  obtain ⟨tabs, htabs⟩ := Option.isSome_iff_exists.mp he
  rw [linked_iff] at h ⊢
  dsimp only [machine]
  rw [Tabs.next_eq htabs, Tabs.isShown_step htabs]
  rw [asks_queue]
  cases hindicator : indicator (s.tabs.effects a) with
  | some isShow => exact Iff.rfl
  | none => exact h

theorem linked_overlay {s : Shell} {a : Overlay.Action String} (h : s.Linked)
    (he : machine.enabled s (.overlay a)) : (machine.next s (.overlay a)).Linked := by
  cases a with
  | call call => exact he.elim
  | execute =>
    rw [linked_iff] at h ⊢
    dsimp only [machine, Overlay.machine]
    rw [asks_execute]
    exact h
  | fire k => exact h
  | finish => exact h

structure Inv (s : Shell) : Prop where
  overlay : s.overlay.Inv
  linked : s.Linked

theorem inv_queue {s : Overlay String} (h : s.Inv) (queue : List (Call String))
    : Overlay.Inv { s with queue := queue } :=
  ⟨h.upOrDown, ⟨h.driven.leaving, h.driven.kept⟩⟩

theorem enabled_overlay {s : Shell} {a : Overlay.Action String} (he : machine.enabled s (.overlay a))
    : Overlay.machine.enabled s.overlay a := by
  cases a with
  | call call => exact he.elim
  | _ => exact he

theorem inv_start (texts : TextField → Str) : (start texts).Inv :=
  ⟨inv_queue (Overlay.inv_start "checkmark" "remove") _, linked_start texts⟩

theorem inv_next {s : Shell} {a : Action} (h : s.Inv) (he : machine.enabled s a)
    : (machine.next s a).Inv := by
  cases a with
  | tabs a => exact ⟨inv_queue h.overlay _, linked_tabs h.linked he.1⟩
  | overlay a =>
    exact ⟨Overlay.inv_next h.overlay (enabled_overlay he), linked_overlay h.linked he⟩

/--
The main queue is empty, and no timer and no animation is under way.
-/
def AtRest (s : Shell) : Prop :=
  s.overlay.queue = [] ∧ s.overlay.AtRest

theorem kept_of_drained {s : Shell} (h : s.Linked) (hqueue : s.overlay.queue = [])
    : s.overlay.Kept ↔ s.tabs.isShown = true := by
  unfold Linked at h
  rw [hqueue] at h
  rw [← h]
  rfl

theorem isShown_of_blocked {s : Shell} (h : s.Inv) (hrest : s.AtRest)
    (hblocked : s.overlay.hud.viewBackground.isSome) : s.tabs.isShown = true := by
  rw [← kept_of_drained h.linked hrest.1]
  by_contra hkept
  have hdown := Overlay.not_kept_down h.overlay hrest.2 hkept
  rw [hdown.viewBackground] at hblocked
  contradiction

theorem blocked_of_isShown {s : Shell} (h : s.Inv) (hcalm : s.overlay.Calm)
    (hqueue : s.overlay.queue = []) (hshown : s.tabs.isShown = true)
    : s.overlay.hud.viewBackground.isSome := by
  have hkept := (kept_of_drained h.linked hqueue).mpr hshown
  exact (Overlay.visible_of_calm h.overlay.upOrDown hcalm hkept).1

/--
No block puts the indicator up while it is fading out.
-/
def FadesAlone (s : Shell) (a : Action) : Prop :=
  match a with
  | .tabs _ => True
  | .overlay a => Overlay.RunsAtRest s.overlay a

instance (s : Shell) (a : Action) : Decidable (FadesAlone s a) :=
  match a with
  | .tabs _ => inferInstanceAs (Decidable True)
  | .overlay a => inferInstanceAs (Decidable (Overlay.RunsAtRest s.overlay a))

theorem calm_next {s : Shell} {a : Action} (h : s.Inv) (hcalm : s.overlay.Calm)
    (he : machine.enabled s a) (ha : FadesAlone s a) : (machine.next s a).overlay.Calm := by
  cases a with
  | tabs a => exact hcalm
  | overlay a => exact (Overlay.calm_next h.overlay hcalm (enabled_overlay he)).mpr ha

/--
Whenever the app is at rest, the screen is blocked only if the last `displayIndicator` has asked for it.
-/
theorem never_stuck {texts : TextField → Str} {as : List Action} (hv : machine.Valid (start texts) as)
    (hrest : (machine.run (start texts) as).AtRest)
    (hblocked : (machine.run (start texts) as).overlay.hud.viewBackground.isSome)
    : (machine.run (start texts) as).tabs.isShown = true := by
  have h := Machine.run_invariant (P := Inv) (fun _ _ => inv_next) (inv_start texts) hv
  exact isShown_of_blocked h hrest hblocked

structure Settled (s : Shell) : Prop where
  inv : s.Inv
  calm : s.overlay.Calm

theorem settled_start (texts : TextField → Str) : (start texts).Settled := by
  refine ⟨inv_start texts, ?_⟩
  intro hkept
  contradiction

theorem settled_next {s : Shell} {a : Action} (h : s.Settled) (he : machine.enabled s a)
    (ha : FadesAlone s a) : (machine.next s a).Settled :=
  ⟨inv_next h.inv he, calm_next h.inv h.calm he ha⟩

/--
If no block puts the indicator up while it is fading out, what blocks the screen is what the last
`displayIndicator` has asked for, whenever the app is at rest.
-/
theorem blocked_iff {texts : TextField → Str} {as : List Action} (hv : machine.Valid (start texts) as)
    (hfades : machine.Steps FadesAlone (start texts) as)
    : machine.Along (fun s => s.AtRest → (s.overlay.hud.viewBackground.isSome ↔ s.tabs.isShown = true))
        (start texts) as := by
  have h := Machine.along_of_steps (P := Settled) (fun _ _ => settled_next) (settled_start texts) hv hfades
  apply Machine.along_mono _ h
  intro s hs hrest
  constructor
  . exact isShown_of_blocked hs.inv hrest
  . exact blocked_of_isShown hs.inv hs.calm hrest.1

/--
A run that ends with a write on its way and the screen blocked.
-/
def busy : List Action :=
  [.overlay .execute, .overlay .execute, .overlay .execute, .tabs (.event 2 (.string ['2'])),
    .overlay .execute, .overlay .finish, .tabs (.event 3 (.string ['2'])), .overlay .execute,
    .tabs (.event 4 (.string ['0', '0', '0', '0'])), .tabs (.toggle 0 true), .overlay .execute]

theorem never_stuck_busy : (machine.run (start fun _ => []) busy).tabs.isShown = true :=
  never_stuck (by decide) ⟨rfl, by decide⟩ (by decide)

theorem blocked_iff_busy
    : machine.Along (fun s => s.AtRest → (s.overlay.hud.viewBackground.isSome ↔ s.tabs.isShown = true))
        (start fun _ => []) busy :=
  blocked_iff (by decide) (by decide)

/--
No show falls into a fade-out, no switch is touched before the main queue is empty, and no event of another
observer dismisses the indicator while a write of the device list is unanswered.
-/
def Guarded (s : Shell) (a : Action) : Prop :=
  FadesAlone s a
    ∧ match a with
      | .tabs (.event k _) =>
        s.tabs.observers[k]? ≠ some .initDataEngineFirebase → .updateFirebaseData ∉ s.tabs.pending
      | .tabs a => touches a → s.overlay.queue.length = 0
      | .overlay _ => True

instance (s : Shell) (a : Action) : Decidable (Guarded s a) :=
  match a with
  | .tabs (.event k value) =>
    inferInstanceAs (Decidable (FadesAlone s (.tabs (.event k value))
      ∧ (s.tabs.observers[k]? ≠ some .initDataEngineFirebase → .updateFirebaseData ∉ s.tabs.pending)))
  | .tabs (.toggle row isOn) =>
    inferInstanceAs (Decidable (FadesAlone s (.tabs (.toggle row isOn))
      ∧ (touches (.toggle row isOn) → s.overlay.queue.length = 0)))
  | .tabs (.flip sender isOn) =>
    inferInstanceAs (Decidable (FadesAlone s (.tabs (.flip sender isOn))
      ∧ (touches (.flip sender isOn) → s.overlay.queue.length = 0)))
  | .tabs (.edit textField text) =>
    inferInstanceAs (Decidable (FadesAlone s (.tabs (.edit textField text))
      ∧ (touches (.edit textField text) → s.overlay.queue.length = 0)))
  | .tabs (.complete k error) =>
    inferInstanceAs (Decidable (FadesAlone s (.tabs (.complete k error))
      ∧ (touches (.complete k error) → s.overlay.queue.length = 0)))
  | .overlay a => inferInstanceAs (Decidable (FadesAlone s (.overlay a) ∧ True))

structure OneWrite (s : Shell) : Prop where
  settled : s.Settled
  covered : s.tabs.Covered
  one : s.tabs.deviceWrites ≤ 1

/--
The answer to the only write of the device list leaves none unanswered.
-/
theorem keepsCovered_of_guarded {s : Shell} {a : Tabs.Action} (h : s.OneWrite)
    (ha : Guarded s (.tabs a)) : Tabs.KeepsCovered s.tabs a := by
  cases a with
  | event k value => exact ha.2
  | complete k error =>
    intro hk hmem
    have hone : s.tabs.pending.count .updateFirebaseData ≤ 1 := h.one
    have hpos := List.count_pos_iff.mpr hmem
    obtain ⟨hlt, hget⟩ := List.getElem?_eq_some_iff.mp hk
    have hcount := (List.getElem_cons_eraseIdx_perm hlt).count_eq .updateFirebaseData
    rw [hget, List.count_cons_self] at hcount
    omega
  | _ => trivial

theorem oneWrite_tabs {s : Shell} {a : Tabs.Action} (h : s.OneWrite)
    (he : machine.enabled s (.tabs a)) (ha : Guarded s (.tabs a))
    : (machine.next s (.tabs a)).OneWrite := by
  obtain ⟨tabs, htabs⟩ := Option.isSome_iff_exists.mp he.1
  have hnext : (machine.next s (.tabs a)).tabs = tabs := Tabs.next_eq htabs
  refine ⟨settled_next h.settled he ha.1, ?_, ?_⟩
  . rw [hnext]
    exact (Tabs.covered_step h.covered htabs).mpr (keepsCovered_of_guarded h ha)
  . rw [hnext]
    have hone := h.one
    cases a with
    | event k value =>
      rw [Tabs.deviceWrites_event htabs]
      exact hone
    | toggle row isOn =>
      -- An unanswered write would have the screen blocked.
      have hzero : s.tabs.deviceWrites = 0 := by
        by_contra hpos
        have hmem : .updateFirebaseData ∈ s.tabs.pending := by
          apply List.count_pos_iff.mp
          unfold Tabs.deviceWrites at hpos
          omega
        have hqueue : s.overlay.queue = [] := List.length_eq_zero_iff.mp (ha.2 rfl)
        have hblocked := blocked_of_isShown h.settled.inv h.settled.calm hqueue (h.covered hmem)
        rw [he.2 rfl] at hblocked
        contradiction
      rw [Tabs.deviceWrites_toggle htabs]
      omega
    | flip sender isOn =>
      rw [Tabs.deviceWrites_flip htabs]
      exact hone
    | edit textField text =>
      cases htabs
      exact hone
    | complete k error =>
      have hle := Tabs.deviceWrites_complete htabs
      omega

theorem oneWrite_next {s : Shell} {a : Action} (h : s.OneWrite) (he : machine.enabled s a)
    (ha : Guarded s a) : (machine.next s a).OneWrite := by
  cases a with
  | tabs a => exact oneWrite_tabs h he ha
  | overlay a => exact ⟨settled_next h.settled he ha.1, h.covered, h.one⟩

/--
The indicator keeps a second write of the device list from being issued while one is unanswered.
-/
theorem one_device_write {texts : TextField → Str} {as : List Action}
    (hv : machine.Valid (start texts) as) (hguarded : machine.Steps Guarded (start texts) as)
    : machine.Along (fun s => s.tabs.deviceWrites ≤ 1) (start texts) as := by
  have hnone : (start texts).tabs.deviceWrites = 0 := rfl
  have hstart : (start texts).OneWrite := ⟨settled_start texts, fun _ => rfl, by omega⟩
  have h := Machine.along_of_steps (P := OneWrite) (fun _ _ => oneWrite_next) hstart hv hguarded
  exact Machine.along_mono (fun s hs => hs.one) h

theorem one_device_write_twice
    : machine.Along (fun s => s.tabs.deviceWrites ≤ 1) (start fun _ => [])
        (busy ++ [.tabs (.event 4 (.string ['0', '0', '0', '1'])), .tabs (.complete 0 none),
          .overlay .execute, .overlay .finish, .tabs (.toggle 1 true)]) :=
  one_device_write (by decide) (by decide)

end Shell

end SmartGarden

import SmartGarden.Lib.Machine
import SmartGarden.Lib.Observed
import SmartGarden.SettingScreen.Lemmas

/-!
This module contains the settings screen together with the stored mode at `CHEDO` that it observes and
writes. The completion handlers of its writes are left out: none of them touches a switch or `CHEDO`.
-/

open Swift

namespace SmartGarden

structure ModeScreen where
  vc : SettingViewController
  firebase : Observed Value

namespace ModeScreen

inductive Action where
  | flip (sender : ModeSwitch) (isOn : Bool)
  | edit (textField : TextField) (text : Str)
  -- Observer `k` gets its oldest value event.
  | event (k : Nat)
  | receive
  | listen
  -- Somebody else sets the stored mode.
  | put (value : Value)
  | accept
  | refuse

def perform (firebase : Observed Value) (effects : List Effect) : Observed Value :=
  effects.foldl (fun firebase effect =>
    match effect with
    | .observe .CHEDO => firebase.observe
    | .setValue .CHEDO data => firebase.write (.string data)
    | _ => firebase) firebase

def start (stored : Value) (texts : TextField → Str) : ModeScreen :=
  let (vc, effects) := SettingViewController.viewDidLoad fun textField => some (texts textField)
  { vc := vc, firebase := perform { stored := stored } effects }

def flip (s : ModeScreen) (sender : ModeSwitch) (isOn : Bool) : ModeScreen :=
  let (vc, effects) := s.vc.flip sender isOn
  { vc := vc, firebase := perform s.firebase effects }

def event (s : ModeScreen) (k : Nat) : ModeScreen :=
  match s.firebase.event? k with
  | some value =>
    let (vc, effects) := s.vc.modeFetched (fetchDataFromFirebase value)
    { vc := vc, firebase := perform (s.firebase.take k) effects }
  | none => s

def machine : Machine ModeScreen Action where
  enabled s a :=
    match a with
    | .flip sender isOn => s.vc.isOn sender ≠ isOn
    | .event k => (s.firebase.event? k).isSome
    | .receive => s.firebase.inbox ≠ []
    | .listen => s.firebase.listening = false
    | .accept => s.firebase.next?.isSome
    | .refuse => s.firebase.next?.isSome
    | _ => True
  next s a :=
    match a with
    | .flip sender isOn => s.flip sender isOn
    | .edit textField text => { s with vc := s.vc.edit textField text }
    | .event k => s.event k
    | .receive => { s with firebase := s.firebase.receive }
    | .listen => { s with firebase := s.firebase.listen }
    | .put value => { s with firebase := s.firebase.put value }
    | .accept => { s with firebase := s.firebase.accept }
    | .refuse => { s with firebase := s.firebase.refuse }

instance (s : ModeScreen) (a : Action) : Decidable (machine.enabled s a) :=
  match a with
  | .flip sender isOn => inferInstanceAs (Decidable (s.vc.isOn sender ≠ isOn))
  | .event k => inferInstanceAs (Decidable ((s.firebase.event? k).isSome = true))
  | .receive => inferInstanceAs (Decidable (s.firebase.inbox ≠ []))
  | .listen => inferInstanceAs (Decidable (s.firebase.listening = false))
  | .accept => inferInstanceAs (Decidable (s.firebase.next?.isSome = true))
  | .refuse => inferInstanceAs (Decidable (s.firebase.next?.isSome = true))
  | .edit _ _ => inferInstanceAs (Decidable True)
  | .put _ => inferInstanceAs (Decidable True)

def Shows (s : ModeScreen) (control : ModeSwitch) : Prop :=
  ∀ other, s.vc.isOn other = true ↔ other = control

/--
When nothing is in flight, the one switch that is on is the switch of the stored mode.
-/
def TellsTruth (s : ModeScreen) : Prop :=
  s.firebase.Quiet
    →
  ∀ control, s.firebase.stored = .string (SettingViewController.modeOf control) → s.Shows control

/--
No switch is turned off while the screen sees its mode and has no event to come.
-/
def KeepsMode (s : ModeScreen) (a : Action) : Prop :=
  match a with
  | .flip sender false =>
    s.firebase.seen = some (.string (SettingViewController.modeOf sender)) → ¬ s.firebase.Idle
  | _ => True

instance (s : ModeScreen) (a : Action) : Decidable (KeepsMode s a) :=
  match a with
  | .flip sender false =>
    inferInstanceAs (Decidable (s.firebase.seen = some (.string (SettingViewController.modeOf sender))
      → ¬ s.firebase.Idle))
  | .flip _ true => inferInstanceAs (Decidable True)
  | .edit _ _ => inferInstanceAs (Decidable True)
  | .event _ => inferInstanceAs (Decidable True)
  | .receive => inferInstanceAs (Decidable True)
  | .listen => inferInstanceAs (Decidable True)
  | .put _ => inferInstanceAs (Decidable True)
  | .accept => inferInstanceAs (Decidable True)
  | .refuse => inferInstanceAs (Decidable True)

structure Agrees (s : ModeScreen) : Prop where
  coherent : s.firebase.Coherent
  shows : s.firebase.Idle
    →
    ∀ control, s.firebase.seen = some (.string (SettingViewController.modeOf control))
      →
    s.Shows control

theorem tellsTruth_of_agrees {s : ModeScreen} (h : s.Agrees) : s.TellsTruth := by
  intro hquiet control hstored
  apply h.shows hquiet.2.2.2
  rw [Observed.seen_of_quiet h.coherent hquiet, hstored]

theorem agrees_start (stored : Value) (texts : TextField → Str) : (start stored texts).Agrees where
  coherent := by
    apply Observed.observe_coherent
    . intro hlistening
      contradiction
    . intro v hv
      contradiction
  shows := by
    intro _ control hseen
    contradiction

theorem shows_iff (s : ModeScreen) (control : ModeSwitch)
    : s.Shows control ↔ s.vc.isOn = fun other => other == control := by
  constructor
  . intro h
    funext other
    rw [Bool.eq_iff_iff, beq_iff_eq]
    apply h
  . intro h other
    rw [h, beq_iff_eq]

theorem event_eq {s : ModeScreen} {k : Nat} {value : Value} (h : s.firebase.event? k = some value)
    : s.event k
        =
      { vc := (s.vc.modeFetched (fetchDataFromFirebase value)).1, firebase := s.firebase.take k } := by
  unfold event
  rw [h]
  cases value <;> rfl

theorem agrees_event {s : ModeScreen} (h : s.Agrees) {k : Nat} (hk : (s.firebase.event? k).isSome)
    : (s.event k).Agrees := by
  obtain ⟨value, hvalue⟩ := Option.isSome_iff_exists.mp hk
  rw [event_eq hvalue]
  refine ⟨Observed.take_coherent h.coherent k, ?_⟩
  intro hidle control hseen
  -- The last event carries the value that is seen.
  have heq := Observed.event?_of_idle h.coherent hvalue hidle hseen
  rw [shows_iff, heq]
  apply SettingViewController.modeFetched_modeOf

theorem flip_eq (s : ModeScreen) (sender : ModeSwitch) (isOn : Bool)
    : s.flip sender isOn
        =
      { vc := { s.vc with isOn := fun control => control == sender && isOn }
        firebase := perform s.firebase (s.vc.flip sender isOn).2 } := by
  rw [← s.vc.flip_fst]
  rfl

theorem agrees_flip {s : ModeScreen} (h : s.Agrees) {sender : ModeSwitch} {isOn : Bool}
    (hkeeps : KeepsMode s (.flip sender isOn)) : (s.flip sender isOn).Agrees := by
  rw [flip_eq]
  by_cases hrejected : s.vc.Rejected sender isOn
  . rw [s.vc.flip_snd_of_rejected _ _ hrejected]
    refine ⟨Observed.observe_coherent h.coherent.synced h.coherent.told, ?_⟩
    -- The new observer is about to get the stored mode.
    intro hidle control hseen
    have hnone : s.firebase.seen = none := Observed.observe_idle hidle
    have hsome : s.firebase.seen = some (.string (SettingViewController.modeOf control)) := hseen
    rw [hnone] at hsome
    contradiction
  . rw [s.vc.flip_snd _ _ hrejected]
    refine ⟨Observed.write_coherent h.coherent _, ?_⟩
    intro hidle control hseen
    have hwrite := Observed.write_idle h.coherent hidle
    have hcontrol : control = sender := by
      have hmode := hseen.symm.trans (Observed.write_seen s.firebase _)
      simp only [Option.some.injEq, Value.string.injEq] at hmode
      exact SettingViewController.modeOf_inj.mp hmode
    have hisOn : isOn = true := by
      cases isOn with
      | true => rfl
      | false => exact absurd hwrite.1 (hkeeps hwrite.2)
    rw [shows_iff, hcontrol, hisOn]
    simp

theorem agrees_server {s : ModeScreen} (h : s.Agrees) {firebase : Observed Value}
    (hcoherent : firebase.Coherent) (hqueues : firebase.queues = s.firebase.queues)
    (hseen : firebase.seen = s.firebase.seen) : Agrees { s with firebase := firebase } where
  coherent := hcoherent
  shows := by
    unfold Observed.Idle
    rw [hqueues, hseen]
    exact h.shows

theorem agrees_next {s : ModeScreen} (h : s.Agrees) {a : Action} (he : machine.enabled s a)
    (hkeeps : KeepsMode s a) : (machine.next s a).Agrees := by
  cases a with
  | flip sender isOn => exact agrees_flip h hkeeps
  | edit textField text => exact ⟨h.coherent, h.shows⟩
  | event k => exact agrees_event h he
  | receive =>
    refine ⟨Observed.receive_coherent h.coherent, ?_⟩
    intro hidle control hseen
    obtain ⟨hidle', hnone | hold⟩ := Observed.receive_idle h.coherent hidle
    . have hnone' := hseen.symm.trans hnone
      contradiction
    . exact h.shows hidle' control (hold.symm.trans hseen)
  | listen => exact agrees_server h (Observed.listen_coherent h.coherent) rfl rfl
  | put value => exact agrees_server h (Observed.put_coherent h.coherent value) rfl rfl
  | accept =>
    have hframe := s.firebase.accept_frame
    exact agrees_server h (Observed.accept_coherent h.coherent) hframe.1 hframe.2
  | refuse => exact agrees_server h (Observed.refuse_coherent h.coherent) rfl rfl

/--
The screen tells the truth in every state of a run in which no switch is turned off while the screen
sees its mode and has no event to come.
-/
theorem tellsTruth_of_keepsMode {stored : Value} {texts : TextField → Str} {as : List Action}
    (hv : machine.Valid (start stored texts) as) (hk : machine.Steps KeepsMode (start stored texts) as)
    : machine.Along TellsTruth (start stored texts) as := by
  apply Machine.along_mono (P := Agrees)
  . intro s h
    exact tellsTruth_of_agrees h
  . apply Machine.along_of_steps (C := KeepsMode) _ (agrees_start stored texts) hv hk
    intro s a h he hkeeps
    exact agrees_next h he hkeeps

def turnedOff : List Action :=
  [.listen, .receive, .event 0, .flip .buttonControlModeSwitch false, .accept, .receive, .receive]

theorem no_switch_on
    : ¬ ∀ (stored : Value) (texts : TextField → Str) (as : List Action),
        machine.Valid (start stored texts) as
          →
        (machine.run (start stored texts) as).TellsTruth := by
  intro h
  have htruth := h (.string ['1']) (fun _ => []) turnedOff (by decide) (by decide)
    .buttonControlModeSwitch (by decide) .buttonControlModeSwitch
  exact absurd htruth (by decide)

theorem tellsTruth_of_many_changes
    : machine.Along TellsTruth (start (.string ['1']) fun _ => [])
        [.listen, .receive, .event 0, .flip .appControlModeSwitch true, .event 0, .accept,
          .flip .automaticControlModeSwitch true, .event 1, .receive, .receive,
          .flip .buttonControlModeSwitch true, .refuse, .event 0, .receive, .event 0, .event 1,
          .event 1, .put (.string ['3']), .receive, .event 0, .event 1] :=
  tellsTruth_of_keepsMode (by decide) (by decide)

end ModeScreen

end SmartGarden

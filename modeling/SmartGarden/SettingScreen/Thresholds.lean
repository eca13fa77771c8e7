import SmartGarden.Lib.Machine
import SmartGarden.SettingScreen.Lemmas

/-!
This module contains the settings screen together with the writes that it has issued and that are not
completed yet. The threshold words are built when the write of the automatic mode completes, so each
request keeps the texts it was built from next to those that the check of its submission has read.
-/

open Swift

namespace SmartGarden

structure Request where
  path : Path
  data : Str
  -- The switch whose event issued the request, if a switch event did.
  sender : Option ModeSwitch
  -- What `checkTextFieldsEmpty` has read in the switch event that led to the request.
  checked : Option Texts
  -- The texts in the fields when the request was issued.
  built : Texts

namespace Request

def ofWrites (sender : Option ModeSwitch) (checked : Option Texts) (built : Texts)
    (writes : List (Path × Str)) : List Request :=
  writes.map fun write =>
    { path := write.1, data := write.2, sender := sender, checked := checked, built := built }

theorem mem_ofWrites {sender : Option ModeSwitch} {checked : Option Texts} {built : Texts}
    {writes : List (Path × Str)} {r : Request}
    : r ∈ ofWrites sender checked built writes
        ↔
      (r.path, r.data) ∈ writes ∧ r.sender = sender ∧ r.checked = checked ∧ r.built = built := by
  unfold ofWrites
  rw [List.mem_map]
  constructor
  . rintro ⟨write, hwrite, rfl⟩
    exact ⟨hwrite, rfl, rfl, rfl⟩
  . rintro ⟨hwrite, rfl, rfl, rfl⟩
    exact ⟨(r.path, r.data), hwrite, rfl⟩

/--
The word of a threshold is built from the two texts that the check has read, and the check has found all
six texts filled.
-/
def Validated (r : Request) : Prop :=
  ∀ above below, thresholdFields r.path = some (above, below)
    →
  SettingViewController.thresholdWord? r.built above below = some r.data
    ∧
  ∃ checked, r.checked = some checked ∧ AllFilled checked
    ∧ r.built above = checked above ∧ r.built below = checked below

end Request

structure Submissions where
  vc : SettingViewController
  -- Requests without a completion, oldest first, and all requests ever issued.
  pending : List Request := []
  issued : List Request := []

namespace Submissions

inductive Action where
  | flip (sender : ModeSwitch) (isOn : Bool)
  | edit (textField : TextField) (text : Str)
  | mode (value : Value)
  -- The `k`-th pending request completes, with an error or without.
  | complete (k : Nat) (error : Option String)

def start (texts : TextField → Str) : Submissions where
  vc := (SettingViewController.viewDidLoad fun textField => some (texts textField)).1

def flip (s : Submissions) (sender : ModeSwitch) (isOn : Bool) : Submissions :=
  let (vc, effects) := s.vc.flip sender isOn
  let checked := if vc.isOn .automaticControlModeSwitch then some s.vc.texts else none
  let requests := Request.ofWrites (some sender) checked s.vc.texts (writes effects)
  { vc := vc, pending := s.pending ++ requests, issued := s.issued ++ requests }

def complete (s : Submissions) (k : Nat) (error : Option String) : Submissions :=
  match s.pending[k]? with
  | some r =>
    let effects := s.vc.writeCompleted r.sender (writeDataToFirebase error)
    let requests := Request.ofWrites none r.checked s.vc.texts (writes effects)
    { s with pending := s.pending.eraseIdx k ++ requests, issued := s.issued ++ requests }
  | none => s

def machine : Machine Submissions Action where
  enabled s a :=
    match a with
    | .flip sender isOn => s.vc.isOn sender ≠ isOn
    | .complete k _ => k < s.pending.length
    | _ => True
  next s a :=
    match a with
    | .flip sender isOn => s.flip sender isOn
    | .edit textField text => { s with vc := s.vc.edit textField text }
    | .mode value => { s with vc := (s.vc.modeFetched (fetchDataFromFirebase value)).1 }
    | .complete k error => s.complete k error

instance (s : Submissions) (a : Action) : Decidable (machine.enabled s a) :=
  match a with
  | .complete k _ => inferInstanceAs (Decidable (k < s.pending.length))
  | .flip sender isOn => inferInstanceAs (Decidable (s.vc.isOn sender ≠ isOn))
  | .edit _ _ => inferInstanceAs (Decidable True)
  | .mode _ => inferInstanceAs (Decidable True)

def AllValidated (s : Submissions) : Prop :=
  ∀ r ∈ s.issued, r.Validated

def Unedited (texts texts' : Texts) : Prop :=
  ∀ textField, texts textField = texts' textField

instance (texts texts' : Texts) : Decidable (Unedited texts texts') :=
  decidable_of_iff (∀ textField ∈ textFields, texts textField = texts' textField)
    ⟨fun h textField => h textField (mem_textFields textField), fun h textField _ => h textField⟩

/--
When a change to automatic mode succeeds, its switch had been turned on, so that the check has read the
fields, and the fields hold the same texts.
-/
def StillChecked (s : Submissions) (a : Action) : Prop :=
  match a with
  | .complete k none =>
    ∀ r ∈ s.pending[k]?, r.sender = some .automaticControlModeSwitch
      →
    ∃ checked ∈ r.checked, Unedited checked s.vc.texts
  | _ => True

instance (s : Submissions) (a : Action) : Decidable (StillChecked s a) :=
  match a with
  | .complete k none =>
    inferInstanceAs (Decidable (∀ r ∈ s.pending[k]?, r.sender = some .automaticControlModeSwitch →
      ∃ checked ∈ r.checked, Unedited checked s.vc.texts))
  | .complete _ (some _) => inferInstanceAs (Decidable True)
  | .flip _ _ => inferInstanceAs (Decidable True)
  | .edit _ _ => inferInstanceAs (Decidable True)
  | .mode _ => inferInstanceAs (Decidable True)

structure WellFormed (s : Submissions) : Prop where
  texts : ∀ textField, s.vc.texts textField ≠ none
  checked : ∀ r ∈ s.pending, ∀ texts, r.checked = some texts → AllFilled texts

theorem wellFormed_start (texts : TextField → Str) : (start texts).WellFormed where
  texts := by intro textField; simp [start, SettingViewController.viewDidLoad]
  checked := by simp [start]

theorem wellFormed_flip {s : Submissions} (h : s.WellFormed) (sender : ModeSwitch) (isOn : Bool)
    : (s.flip sender isOn).WellFormed := by
  unfold flip
  simp only [s.vc.flip_fst sender isOn]
  refine ⟨h.texts, ?_⟩
  intro r hr texts htexts
  cases List.mem_append.mp hr with
  | inl hold =>
    exact h.checked r hold texts htexts
  | inr hnew =>
    obtain ⟨hwrite, _, hchecked, _⟩ := Request.mem_ofWrites.mp hnew
    rw [htexts] at hchecked
    split at hchecked
    . next hon =>
      -- The switch is on, so the check has read the fields and let the flip pass.
      rw [Option.some.inj hchecked]
      simp only [Bool.and_eq_true, beq_iff_eq] at hon
      apply Classical.byContradiction
      intro hfilled
      have hrejected := s.vc.flip_snd_of_rejected sender isOn ⟨hon.1.symm, hon.2, hfilled⟩
      rw [hrejected] at hwrite
      contradiction
    . contradiction

theorem wellFormed_complete {s : Submissions} (h : s.WellFormed) (k : Nat) (error : Option String)
    : (s.complete k error).WellFormed := by
  unfold complete
  split
  . next r hk =>
    refine ⟨h.texts, ?_⟩
    intro r' hr' texts htexts
    cases List.mem_append.mp hr' with
    | inl hold =>
      exact h.checked r' (List.mem_of_mem_eraseIdx hold) texts htexts
    | inr hnew =>
      rw [(Request.mem_ofWrites.mp hnew).2.2.1] at htexts
      exact h.checked r (List.mem_of_getElem? hk) texts htexts
  . exact h

theorem wellFormed_next {s : Submissions} (h : s.WellFormed) (a : Action)
    : (machine.next s a).WellFormed := by
  cases a with
  | flip sender isOn => apply wellFormed_flip h
  | edit textField text => exact ⟨s.vc.edit_texts_ne_none textField text h.texts, h.checked⟩
  | mode value => exact ⟨by cases value <;> exact h.texts, h.checked⟩
  | complete k error => apply wellFormed_complete h

theorem allValidated_append {s : Submissions} (hs : s.AllValidated) (vc : SettingViewController)
    (pending requests : List Request)
    : AllValidated { vc := vc, pending := pending, issued := s.issued ++ requests }
        ↔
      ∀ r ∈ requests, r.Validated := by
  constructor
  . intro h r hr
    exact h r (List.mem_append_right _ hr)
  . intro h r hr
    cases List.mem_append.mp hr with
    | inl hold =>
      exact hs r hold
    | inr hnew =>
      exact h r hnew

theorem allValidated_flip {s : Submissions} (hs : s.AllValidated) (sender : ModeSwitch) (isOn : Bool)
    : (s.flip sender isOn).AllValidated := by
  unfold flip
  dsimp
  rw [allValidated_append hs]
  intro r hr above below hfields
  have hwrite := (Request.mem_ofWrites.mp hr).1
  cases s.vc.writes_flip sender isOn with
  | inl hwrites =>
    rw [hwrites, List.mem_singleton] at hwrite
    rw [(Prod.mk.inj hwrite).1] at hfields
    contradiction
  | inr hwrites =>
    rw [hwrites.1] at hwrite
    contradiction

theorem exists_thresholdFields (textField : TextField)
    : ∃ path above below, thresholdFields path = some (above, below)
        ∧ (textField = above ∨ textField = below) := by
  cases textField with
  | thresholdAboveTempTextField => exact ⟨.thresholdTemp, _, _, rfl, Or.inl rfl⟩
  | thresholdBelowTempTextField => exact ⟨.thresholdTemp, _, _, rfl, Or.inr rfl⟩
  | thresholdAboveSoilMostureTextField => exact ⟨.thresholdSoilMosture, _, _, rfl, Or.inl rfl⟩
  | thresholdBelowSoilMostureTextField => exact ⟨.thresholdSoilMosture, _, _, rfl, Or.inr rfl⟩
  | thresholdAboveLightTextField => exact ⟨.thresholdLight, _, _, rfl, Or.inl rfl⟩
  | thresholdBelowLightTextField => exact ⟨.thresholdLight, _, _, rfl, Or.inr rfl⟩

/--
The three words of a submission are built from all six texts.
-/
theorem checked_of_validated {s : Submissions} (h : s.WellFormed) {checked : Option Texts}
    (hvalidated : ∀ r ∈ Request.ofWrites none checked s.vc.texts
      (writes (s.vc.modeWritten .automaticControlModeSwitch (.success true))), r.Validated)
    (textField : TextField)
    : ∃ texts, checked = some texts ∧ texts textField = s.vc.texts textField := by
  obtain ⟨path, above, below, hfields, htextField⟩ := exists_thresholdFields textField
  have hpath : path ∈ thresholdPaths := by
    rw [mem_thresholdPaths, hfields]
    rfl
  obtain ⟨data, hdata⟩ := Option.ne_none_iff_exists'.mp
    (submittedWord_ne_none s.vc.texts path h.texts hpath)
  have hwrite := (s.vc.mem_writes_modeWritten path data).mpr hdata
  obtain ⟨_, texts, hchecked, _, habove, hbelow⟩ :=
    hvalidated ⟨path, data, none, checked, s.vc.texts⟩
      (Request.mem_ofWrites.mpr ⟨hwrite, rfl, rfl, rfl⟩) above below hfields
  refine ⟨texts, hchecked, ?_⟩
  cases htextField with
  | inl heq =>
    rw [heq]
    exact habove.symm
  | inr heq =>
    rw [heq]
    exact hbelow.symm

theorem allValidated_success_iff {s : Submissions} (h : s.WellFormed) {r : Request}
    (hr : r ∈ s.pending)
    : (∀ r' ∈ Request.ofWrites none r.checked s.vc.texts
          (writes (s.vc.modeWritten .automaticControlModeSwitch (.success true))), r'.Validated)
        ↔
      ∃ checked ∈ r.checked, Unedited checked s.vc.texts := by
  constructor
  . intro hvalidated
    obtain ⟨checked, hchecked, _⟩ := checked_of_validated h hvalidated .thresholdAboveTempTextField
    refine ⟨checked, hchecked, ?_⟩
    intro textField
    obtain ⟨texts, htexts, heq⟩ := checked_of_validated h hvalidated textField
    rw [hchecked] at htexts
    rw [Option.some.inj htexts]
    exact heq
  . rintro ⟨checked, hchecked, hunedited⟩ r' hr' above below hfields
    obtain ⟨hwrite, _, hchecked', hbuilt⟩ := Request.mem_ofWrites.mp hr'
    have hword := (s.vc.mem_writes_modeWritten r'.path r'.data).mp hwrite
    unfold submittedWord at hword
    rw [hfields] at hword
    rw [hbuilt]
    exact ⟨hword, checked, hchecked'.trans hchecked, h.checked r hr checked hchecked,
      (hunedited above).symm, (hunedited below).symm⟩

theorem allValidated_complete_iff {s : Submissions} (h : s.WellFormed) (hs : s.AllValidated) (k : Nat)
    (error : Option String)
    : (s.complete k error).AllValidated ↔ StillChecked s (.complete k error) := by
  unfold complete
  split
  . next r hk =>
    rw [allValidated_append hs]
    by_cases hr : r.sender = some .automaticControlModeSwitch ∧ error = none
    . obtain ⟨hsender, rfl⟩ := hr
      have hcondition : StillChecked s (.complete k none)
          ↔
          ∃ checked ∈ r.checked, Unedited checked s.vc.texts := by
        simp [StillChecked, hk, hsender]
      rw [hcondition, hsender]
      apply allValidated_success_iff h (List.mem_of_getElem? hk)
    . rw [s.vc.writes_writeCompleted_eq_nil _ _ hr]
      refine iff_of_true (by simp [Request.ofWrites]) ?_
      cases error with
      | some message => trivial
      | none =>
        intro r' hr' hsender
        rw [hk] at hr'
        rw [← Option.some.inj hr'] at hsender
        exact absurd ⟨hsender, rfl⟩ hr
  . next hk =>
    refine iff_of_true hs ?_
    cases error <;> simp [StillChecked, hk]

theorem allValidated_next_iff {s : Submissions} (h : s.WellFormed) (hs : s.AllValidated) (a : Action)
    : (machine.next s a).AllValidated ↔ StillChecked s a := by
  cases a with
  | flip sender isOn => exact iff_of_true (allValidated_flip hs sender isOn) trivial
  | edit textField text => exact iff_of_true hs trivial
  | mode value => exact iff_of_true hs trivial
  | complete k error => apply allValidated_complete_iff h hs

/--
Every threshold word of a run is validated at all times exactly when every change to automatic mode that
succeeds was made by turning the switch on and finds the texts that its check has read.
-/
theorem allValidated_iff {texts : TextField → Str} {as : List Action}
    (hv : machine.Valid (start texts) as)
    : machine.Along AllValidated (start texts) as ↔ machine.Steps StillChecked (start texts) as := by
  apply Machine.along_iff_steps (P := WellFormed)
  . intro s a h _
    apply wellFormed_next h
  . intro s a h hs _
    apply allValidated_next_iff h hs
  . apply wellFormed_start
  . intro r hr
    simp [start] at hr
  . exact hv

def turnedOff : List Action :=
  [.mode (.string ['3']), .flip .automaticControlModeSwitch false, .complete 0 none]

theorem unchecked_thresholds_written
    : ¬ ∀ (texts : TextField → Str) (as : List Action),
        machine.Valid (start texts) as
          →
        (machine.run (start texts) as).AllValidated := by
  intro h
  have hvalidated := h (fun _ => []) turnedOff (by decide)
    { path := .thresholdTemp, data := ['0', '0', '0', '0'], sender := none, checked := none
      built := fun _ => some [] }
  obtain ⟨_, checked, hchecked, _⟩ := hvalidated (List.mem_of_getElem? (i := 1) rfl)
    .thresholdAboveTempTextField .thresholdBelowTempTextField rfl
  contradiction

theorem allValidated_of_filled_fields
    : machine.Along AllValidated (start fun _ => ['3', '0'])
        [.edit .thresholdBelowTempTextField ['7'], .flip .automaticControlModeSwitch true,
          .complete 0 none, .complete 0 none] :=
  (allValidated_iff (by decide)).mpr (by decide)

end Submissions

end SmartGarden

import SmartGarden.SettingScreen.Impl

/-!
This module contains the specification of the `SettingViewController` handlers: what the check of the
text fields says, which words an accepted submission writes, and how the switches end up.
-/

open Swift

namespace SmartGarden

def AllFilled (texts : Texts) : Prop :=
  ∀ textField, texts textField ≠ none ∧ texts textField ≠ some []

def textFields : List TextField :=
  [.thresholdAboveTempTextField,
    .thresholdBelowTempTextField,
    .thresholdAboveSoilMostureTextField,
    .thresholdBelowSoilMostureTextField,
    .thresholdAboveLightTextField,
    .thresholdBelowLightTextField]

theorem mem_textFields (textField : TextField) : textField ∈ textFields := by
  cases textField <;> simp [textFields]

instance AllFilled.instDecidable (texts : Texts) : Decidable (AllFilled texts) :=
  decidable_of_iff (∀ textField ∈ textFields, texts textField ≠ none ∧ texts textField ≠ some [])
    ⟨fun h textField => h textField (mem_textFields textField), fun h textField _ => h textField⟩

def thresholdFields : Path → Option (TextField × TextField)
  | .thresholdTemp => some (.thresholdAboveTempTextField, .thresholdBelowTempTextField)
  | .thresholdSoilMosture =>
    some (.thresholdAboveSoilMostureTextField, .thresholdBelowSoilMostureTextField)
  | .thresholdLight => some (.thresholdAboveLightTextField, .thresholdBelowLightTextField)
  | _ => none

def submittedWord (texts : Texts) (path : Path) : Option Str :=
  match thresholdFields path with
  | some (above, below) => SettingViewController.thresholdWord? texts above below
  | none => none

def thresholdPaths : List Path :=
  [.thresholdTemp, .thresholdSoilMosture, .thresholdLight]

theorem mem_thresholdPaths (path : Path)
    : path ∈ thresholdPaths ↔ (thresholdFields path).isSome := by
  cases path <;> simp [thresholdPaths, thresholdFields]

theorem submittedWord_ne_none (texts : Texts) (path : Path)
    (htexts : ∀ textField, texts textField ≠ none) (hpath : path ∈ thresholdPaths)
    : submittedWord texts path ≠ none := by
  rw [mem_thresholdPaths, Option.isSome_iff_exists] at hpath
  obtain ⟨⟨above, below⟩, hfields⟩ := hpath
  obtain ⟨a, ha⟩ := Option.ne_none_iff_exists'.mp (htexts above)
  obtain ⟨b, hb⟩ := Option.ne_none_iff_exists'.mp (htexts below)
  simp [submittedWord, hfields, SettingViewController.thresholdWord?, ha, hb]

theorem mem_thresholdPaths_of_submittedWord {texts : Texts} {path : Path} {data : Str}
    (h : submittedWord texts path = some data) : path ∈ thresholdPaths := by
  rw [mem_thresholdPaths]
  cases hfields : thresholdFields path with
  | some fields => rfl
  | none => simp [submittedWord, hfields] at h

namespace SettingViewController

theorem checkTextFieldsEmpty_eq_false_iff (vc : SettingViewController)
    (h : vc.isOn .automaticControlModeSwitch = true)
    : vc.checkTextFieldsEmpty = false ↔ AllFilled vc.texts := by
  unfold checkTextFieldsEmpty
  simp only [h, ↓reduceIte, List.any_eq_false, Bool.or_eq_true, beq_iff_eq, not_or]
  constructor
  . intro hall textField
    apply hall
    cases textField <;> simp
  . intro hall textField _
    apply hall

theorem writes_writeThresholdData (vc : SettingViewController) (path : Path) (above below : TextField)
    (h : thresholdFields path = some (above, below))
    : writes (vc.writeThresholdData path above below)
        =
      (submittedWord vc.texts path).toList.map fun data => (path, data) := by
  unfold writeThresholdData submittedWord
  simp only [h]
  cases thresholdWord? vc.texts above below <;> rfl

theorem writes_modeWritten (vc : SettingViewController)
    : writes (vc.modeWritten .automaticControlModeSwitch (.success true))
        =
      thresholdPaths.flatMap fun path =>
        (submittedWord vc.texts path).toList.map fun data => (path, data) := by
  unfold modeWritten writeThresholdTempData writeThresholdSoilMostureData writeThresholdLightData
  dsimp
  rw [writes_append, writes_append]
  rw [writes_writeThresholdData _ .thresholdTemp _ _ rfl]
  rw [writes_writeThresholdData _ .thresholdSoilMosture _ _ rfl]
  rw [writes_writeThresholdData _ .thresholdLight _ _ rfl]
  simp [thresholdPaths]

theorem mem_writes_modeWritten (vc : SettingViewController) (path : Path) (data : Str)
    : (path, data) ∈ writes (vc.modeWritten .automaticControlModeSwitch (.success true))
        ↔
      submittedWord vc.texts path = some data := by
  rw [writes_modeWritten]
  simp only [List.mem_flatMap, List.mem_map, Option.mem_toList, Prod.mk.injEq]
  constructor
  . rintro ⟨_, _, _, hdata, rfl, rfl⟩
    exact hdata
  . intro hdata
    exact ⟨path, mem_thresholdPaths_of_submittedWord hdata, data, hdata, rfl, rfl⟩

theorem writes_writeCompleted_eq_nil (vc : SettingViewController) (sender : Option ModeSwitch)
    (error : Option String) (h : ¬ (sender = some .automaticControlModeSwitch ∧ error = none))
    : writes (vc.writeCompleted sender (writeDataToFirebase error)) = [] := by
  cases sender with
  | none => cases error <;> rfl
  | some sender =>
    cases error with
    | some message => cases sender <;> rfl
    | none =>
      cases sender with
      | automaticControlModeSwitch => simp at h
      | _ => rfl

theorem edit_texts_ne_none (vc : SettingViewController) (textField : TextField) (text : Str)
    (h : ∀ other, vc.texts other ≠ none) (other : TextField)
    : (vc.edit textField text).texts other ≠ none := by
  unfold edit
  dsimp
  split
  . simp
  . apply h

def modeOf : ModeSwitch → Str
  | .buttonControlModeSwitch => ['1']
  | .appControlModeSwitch => ['2']
  | .automaticControlModeSwitch => ['3']

theorem modeOf_inj {control other : ModeSwitch} : modeOf control = modeOf other ↔ control = other := by
  cases control <;> cases other <;> decide

def Rejected (vc : SettingViewController) (sender : ModeSwitch) (isOn : Bool) : Prop :=
  sender = .automaticControlModeSwitch ∧ isOn = true ∧ ¬ AllFilled vc.texts

instance (vc : SettingViewController) (sender : ModeSwitch) (isOn : Bool)
    : Decidable (vc.Rejected sender isOn) :=
  inferInstanceAs (Decidable (sender = .automaticControlModeSwitch ∧ isOn = true
    ∧ ¬ AllFilled vc.texts))

theorem flip_fst (vc : SettingViewController) (sender : ModeSwitch) (isOn : Bool)
    : (vc.flip sender isOn).1 = { vc with isOn := fun control => control == sender && isOn } := by
  have hisOn : (fun control => control == sender && if control = sender then isOn else vc.isOn control)
      = fun control => control == sender && isOn := by
    funext control
    by_cases hcontrol : control = sender
    . simp [hcontrol]
    . simp [beq_false_of_ne hcontrol]
  cases sender with
  | buttonControlModeSwitch => simp [flip, switchChanged, hisOn]
  | appControlModeSwitch => simp [flip, switchChanged, hisOn]
  | automaticControlModeSwitch =>
    simp only [flip, switchChanged, hisOn]
    split <;> rfl

theorem flip_snd (vc : SettingViewController) (sender : ModeSwitch) (isOn : Bool)
    (h : ¬ vc.Rejected sender isOn)
    : (vc.flip sender isOn).2 = [.setValue .CHEDO (modeOf sender)] := by
  cases sender with
  | buttonControlModeSwitch => rfl
  | appControlModeSwitch => rfl
  | automaticControlModeSwitch =>
    unfold flip switchChanged
    dsimp
    have hcheck : checkTextFieldsEmpty { vc with isOn := fun control =>
        control == .automaticControlModeSwitch
          && if control = .automaticControlModeSwitch then isOn else vc.isOn control } = false := by
      cases isOn with
      | false => rfl
      | true =>
        rw [checkTextFieldsEmpty_eq_false_iff _ rfl]
        apply Classical.byContradiction
        intro hfilled
        exact h ⟨rfl, rfl, hfilled⟩
    rw [hcheck]
    rfl

theorem flip_snd_of_rejected (vc : SettingViewController) (sender : ModeSwitch) (isOn : Bool)
    (h : vc.Rejected sender isOn)
    : (vc.flip sender isOn).2 = handleInvalidTextField ++ initDataModeFirebase := by
  obtain ⟨rfl, rfl, hfilled⟩ := h
  unfold flip switchChanged
  dsimp
  have hcheck : checkTextFieldsEmpty { vc with isOn := fun control =>
      control == .automaticControlModeSwitch
        && if control = .automaticControlModeSwitch then true else vc.isOn control } = true := by
    apply Bool.of_not_eq_false
    rw [checkTextFieldsEmpty_eq_false_iff _ rfl]
    exact hfilled
  rw [hcheck]
  rfl

theorem effects_modeFetched (vc : SettingViewController) (value : Value)
    : observes (vc.modeFetched (fetchDataFromFirebase value)).2 = []
        ∧ writes (vc.modeFetched (fetchDataFromFirebase value)).2 = []
        ∧ indicator (vc.modeFetched (fetchDataFromFirebase value)).2 = some false := by
  cases value <;> exact ⟨rfl, rfl, rfl⟩

theorem effects_flip (vc : SettingViewController) (sender : ModeSwitch) (isOn : Bool)
    : observes (vc.flip sender isOn).2 = (if vc.Rejected sender isOn then [.CHEDO] else [])
        ∧ indicator (vc.flip sender isOn).2 = if vc.Rejected sender isOn then some true else none := by
  by_cases h : vc.Rejected sender isOn
  . rw [flip_snd_of_rejected _ _ _ h]
    simp only [h, ↓reduceIte]
    exact ⟨rfl, rfl⟩
  . rw [flip_snd _ _ _ h]
    simp only [h]
    exact ⟨rfl, rfl⟩

theorem effects_writeThresholdData (vc : SettingViewController) (path : Path)
    (above below : TextField)
    : observes (vc.writeThresholdData path above below) = []
        ∧ indicator (vc.writeThresholdData path above below) = none := by
  unfold writeThresholdData
  split <;> exact ⟨rfl, rfl⟩

theorem effects_writeCompleted (vc : SettingViewController) (sender : Option ModeSwitch)
    (error : Option String)
    : observes (vc.writeCompleted sender (writeDataToFirebase error)) = []
        ∧ indicator (vc.writeCompleted sender (writeDataToFirebase error)) = none := by
  cases sender with
  | none => cases error <;> exact ⟨rfl, rfl⟩
  | some sender =>
    cases error with
    | some message => cases sender <;> exact ⟨rfl, rfl⟩
    | none =>
      cases sender with
      | automaticControlModeSwitch =>
        simp [writeCompleted, writeDataToFirebase, modeWritten, writeThresholdTempData,
          writeThresholdSoilMostureData, writeThresholdLightData, effects_writeThresholdData]
      | _ => exact ⟨rfl, rfl⟩

theorem writes_flip (vc : SettingViewController) (sender : ModeSwitch) (isOn : Bool)
    : writes (vc.flip sender isOn).2 = [(.CHEDO, modeOf sender)]
        ∨
      writes (vc.flip sender isOn).2 = [] ∧ vc.Rejected sender isOn := by
  by_cases h : vc.Rejected sender isOn
  . rw [flip_snd_of_rejected _ _ _ h]
    exact Or.inr ⟨rfl, h⟩
  . rw [flip_snd _ _ _ h]
    exact Or.inl rfl

theorem Int?_modeOf (control : ModeSwitch)
    : Int? (modeOf control) = some ((index control + 1 : Nat) : Int) := by
  cases control <;> decide

theorem index_inj {control other : ModeSwitch} : index control = index other ↔ control = other := by
  cases control <;> cases other <;> decide

theorem handleAssignValueSwitch_isOn (vc : SettingViewController) (workMode : Str)
    (control : ModeSwitch)
    : (vc.handleAssignValueSwitch workMode).isOn control = true
        ↔
      (Int? workMode).getD 2 = ((index control + 1 : Nat) : Int) := by
  unfold handleAssignValueSwitch
  dsimp
  rw [beq_iff_eq]
  exact eq_comm

theorem modeFetched_modeOf (vc : SettingViewController) (control : ModeSwitch)
    : (vc.modeFetched (fetchDataFromFirebase (.string (modeOf control)))).1.isOn
        =
      fun other => other == control := by
  funext other
  simp only [fetchDataFromFirebase, modeFetched]
  rw [Bool.eq_iff_iff, beq_iff_eq, ← index_inj]
  rw [handleAssignValueSwitch_isOn, Int?_modeOf]
  dsimp
  omega

end SettingViewController

end SmartGarden

import SmartGarden.ConfigScreen.Switches

/-!
This module contains the reset of the pump speed. The list shows the pump by the fourth character from
the end of the engine word, while `handleSwitchChanged` detects its start by the first character.
-/

open Swift

namespace SmartGarden

/--
The first character of the word tells the pump's state as the list shows it.
-/
def TellsPump (engineStates : Str) : Prop :=
  engineStates.head? = some '0' ↔ engineState engineStates 3 ≠ some '1'

instance (engineStates : Str) : Decidable (TellsPump engineStates) :=
  inferInstanceAs (Decidable (engineStates.head? = some '0' ↔ engineState engineStates 3 ≠ some '1'))

theorem head?_setEngineState (engineStates : Str) (row : Row) (isOn : Bool)
    (h : 4 ≤ engineStates.length)
    : (setEngineState engineStates row isOn).head?
        =
      if row = 3 then some (bit isOn) else engineStates.head? := by
  unfold setEngineState
  split
  . rfl
  . next hrow =>
    have hlt : row.val < 3 := by
      have := row.isLt
      have hne : row.val ≠ 3 := fun heq => hrow (Fin.ext heq)
      omega
    have hpos : engineStates.length - (row + 1) ≠ 0 := by omega
    rw [List.append_assoc, List.head?_append, List.head?_take, if_neg hpos]
    cases engineStates with
    | nil => contradiction
    | cons c engineStates => rfl

theorem tellsPump_setEngineState (engineStates : Str) (row : Row) (isOn : Bool)
    (h : 4 ≤ engineStates.length)
    : TellsPump (setEngineState engineStates row isOn) ↔ row = 3 ∨ TellsPump engineStates := by
  unfold TellsPump
  rw [head?_setEngineState _ _ _ h, engineState_setEngineState _ _ _ h]
  by_cases hrow : row = 3
  . -- The pump's own toggle leaves one character in front of the last three.
    cases isOn <;> simp [hrow, bit]
  . have hne : ¬ (3 : Row) = row := fun heq => hrow heq.symm
    simp [hrow, hne]

namespace Switches

def firstPumpToggle (toggles : List (Row × Bool)) : Option Bool :=
  (toggles.find? fun toggle => toggle.1 = 3).map Prod.snd

/--
The toggle writes `"1"` to `pumpSpeed` exactly when it switches a pump on that is shown to be off.
-/
def ResetsAtStart (seg : Segmentation) (vc : ConfigViewController) (toggle : Row × Bool) : Prop :=
  ∃ result cell,
    vc.handleSwitchChanged toggle.1 toggle.2 seg = some result
      ∧ vc.cellForItemAt 3 = some cell
      ∧ ((.pumpSpeed, ['1']) ∈ writes result.2 ↔ toggle = (3, true) ∧ cell.isOn = false)

/--
The word has a character for each row and room for the toggle, and it tells the state of a pump that is
switched on.
-/
def Tells (seg : Segmentation) (vc : ConfigViewController) (toggle : Row × Bool) : Prop :=
  4 ≤ vc.engineStates.length
    ∧ Room seg vc.engineStates toggle.1 toggle.2
    ∧ (toggle = (3, true) → TellsPump vc.engineStates)

instance (seg : Segmentation) (vc : ConfigViewController) (toggle : Row × Bool)
    : Decidable (Tells seg vc toggle) :=
  inferInstanceAs (Decidable (4 ≤ vc.engineStates.length
    ∧ Room seg vc.engineStates toggle.1 toggle.2
    ∧ (toggle = (3, true) → TellsPump vc.engineStates)))

def Fitting (seg : Segmentation) (vc : ConfigViewController) (toggle : Row × Bool) : Prop :=
  Fits seg vc.engineStates toggle.1 toggle.2

instance (seg : Segmentation) (vc : ConfigViewController) (toggle : Row × Bool)
    : Decidable (Fitting seg vc toggle) :=
  inferInstanceAs (Decidable (Fits seg vc.engineStates toggle.1 toggle.2))

/--
The screen receives the word and the switches are toggled: no toggle traps, and the pump speed is reset at
the starts of the pump and only there.
-/
def ResetsAtStarts (seg : Segmentation) (vc : ConfigViewController) (word : Str)
    (toggles : List (Row × Bool)) : Prop :=
  ∃ result,
    vc.engineStatesFetched (fetchDataFromFirebase (.string word)) = some result
      ∧ (machine seg).Valid result.1 toggles
      ∧ (machine seg).Steps (ResetsAtStart seg) result.1 toggles

theorem edited_head? {seg : Segmentation} {engineStates : Str} {row : Row} {isOn : Bool}
    (h : 4 ≤ engineStates.length) (hroom : Room seg engineStates row isOn)
    : engineStates.head? = some '0'
          ∧ (seg.append (front engineStates row)
              (seg.append [bit isOn] (back engineStates row))).head? = some '1'
        ↔
      (row, isOn) = (3, true) ∧ engineStates.head? = some '0' := by
  by_cases hrow : row = 3
  . -- The digit of the pump joins nothing and comes first.
    unfold Room at hroom
    simp only [hrow, ↓reduceIte] at hroom ⊢
    have hfront : front engineStates 3 = [] := rfl
    have hfits : Fits seg engineStates 3 isOn := joins_eq_zero.mp hroom.2
    rw [hfront, Segmentation.append_of_joined? hfits.2]
    rw [Segmentation.append_of_joined? (show seg.joined? [] _ = none from rfl)]
    cases isOn <;> simp [bit, and_comm]
  . -- The other rows keep the first character, or it becomes one that is no digit.
    have hlt : row.val < 3 := by
      have := row.isLt
      have hne : row.val ≠ 3 := fun heq => hrow (Fin.ext heq)
      omega
    have hhead : (front engineStates row).head? = engineStates.head? := by
      unfold front
      rw [if_neg hrow, List.head?_take, if_neg (by omega)]
    refine iff_of_false ?_ (by simp [hrow])
    rintro ⟨hzero, hone⟩
    rw [← hhead] at hzero
    rcases Segmentation.head?_append hzero hone with heq | hdigit
    . contradiction
    . contradiction

theorem mem_writes_handleSwitchChanged {seg : Segmentation} {vc : ConfigViewController} {row : Row}
    {isOn : Bool} (h : 4 ≤ vc.engineStates.length) (hroom : Room seg vc.engineStates row isOn)
    {result : ConfigViewController × List Effect}
    (hresult : vc.handleSwitchChanged row isOn seg = some result)
    : (.pumpSpeed, ['1']) ∈ writes result.2
        ↔
      (row, isOn) = (3, true) ∧ vc.engineStates.head? = some '0' := by
  rw [← edited_head? h hroom]
  have hreach : reach row ≤ vc.engineStates.length := le_trans (reach_le row) h
  obtain ⟨engineStates, hedited, hresult⟩ := Option.bind_eq_some_iff.mp hresult
  obtain ⟨vc', _, hresult⟩ := Option.bind_eq_some_iff.mp hresult
  rw [ConfigViewController.replaceSwitch_eq_append seg hreach] at hedited
  rw [Option.some.inj hedited]
  rw [← Option.some.inj hresult]
  have hzero : vc.engineStates.head?.getD '0' = '0' ↔ vc.engineStates.head? = some '0' := by
    cases hnil : vc.engineStates with
    | nil =>
      rw [hnil] at h
      contradiction
    | cons c cs => simp
  have hone : engineStates.head?.getD '0' = '1' ↔ engineStates.head? = some '1' := by
    cases engineStates <;> simp
  rw [← hzero, ← hone]
  dsimp only
  split
  . next hchange => exact iff_of_true (List.mem_singleton_self _) hchange
  . next hchange => exact iff_of_false List.not_mem_nil hchange

theorem resetsAtStart_iff (seg : Segmentation) {vc : ConfigViewController}
    (happ : ConfigViewController.isAppMode vc.workMode = true) (toggle : Row × Bool)
    : ResetsAtStart seg vc toggle ↔ Tells seg vc toggle := by
  obtain ⟨row, isOn⟩ := toggle
  have hread := vc.cellForItemAt_isSome 3
  simp only [happ, forall_const] at hread
  have hsome := ConfigViewController.handleSwitchChanged_isSome seg happ row isOn
  have hshown : 4 ≤ vc.engineStates.length → vc.cellForItemAt 3 = some (vc.shownCell 3) :=
    fun hlen => vc.cellForItemAt_eq 3 (fun _ => hlen)
  have hisOn : (vc.shownCell 3).isOn = false ↔ engineState vc.engineStates 3 ≠ some '1' := by
    simp [ConfigViewController.shownCell, happ]
  constructor
  . rintro ⟨result, cell, hresult, hcell, hreset⟩
    have hlen : 4 ≤ vc.engineStates.length := hread.mp (Option.isSome_of_eq_some hcell)
    have hroom : Room seg vc.engineStates row isOn := hsome.mp (Option.isSome_of_eq_some hresult)
    refine ⟨hlen, hroom, ?_⟩
    intro htoggle
    rw [hshown hlen] at hcell
    rw [mem_writes_handleSwitchChanged hlen hroom hresult, ← Option.some.inj hcell, hisOn] at hreset
    unfold TellsPump
    simpa [htoggle] using hreset
  . rintro ⟨hlen, hroom, htells⟩
    obtain ⟨result, hresult⟩ := Option.isSome_iff_exists.mp (hsome.mpr hroom)
    refine ⟨result, _, hresult, hshown hlen, ?_⟩
    rw [mem_writes_handleSwitchChanged hlen hroom hresult, hisOn]
    exact and_congr_right htells

theorem steps_resetsAtStart_iff (seg : Segmentation) {vc : ConfigViewController}
    (happ : ConfigViewController.isAppMode vc.workMode = true) (toggles : List (Row × Bool))
    : (machine seg).Steps (ResetsAtStart seg) vc toggles ↔ (machine seg).Steps (Tells seg) vc toggles := by
  induction toggles generalizing vc with
  | nil => rfl
  | cons toggle toggles ih =>
    have hmode : ((machine seg).next vc toggle).workMode = vc.workMode := by
      dsimp only [machine]
      cases hresult : vc.handleSwitchChanged toggle.1 toggle.2 seg with
      | none => rfl
      | some result =>
        obtain ⟨_, _, hresult⟩ := Option.bind_eq_some_iff.mp hresult
        obtain ⟨_, hreload, hresult⟩ := Option.bind_eq_some_iff.mp hresult
        obtain ⟨_, _, hreload⟩ := Option.bind_eq_some_iff.mp hreload
        rw [← Option.some.inj hresult, ← Option.some.inj hreload]
    rw [Machine.steps_cons, Machine.steps_cons, resetsAtStart_iff seg happ, ih (hmode.symm ▸ happ)]

theorem agree (seg : Segmentation) : Machine.Agree (machine seg) machine (Fitting seg) where
  enabled := by
    intro vc toggle h
    dsimp only [machine]
    rw [ConfigViewController.handleSwitchChanged_of_fits h]
  next := by
    intro vc toggle h
    dsimp only [machine]
    rw [ConfigViewController.handleSwitchChanged_of_fits h]

/--
After the first toggle of the pump the word tells its state.
-/
theorem steps_tells_iff {vc : ConfigViewController} (h : 4 ≤ vc.engineStates.length)
    (toggles : List (Row × Bool))
    : machine.Steps (Tells .apart) vc toggles
        ↔
      (firstPumpToggle toggles = some true → TellsPump vc.engineStates) := by
  induction toggles generalizing vc with
  | nil => simp [firstPumpToggle]
  | cons toggle toggles ih =>
    obtain ⟨row, isOn⟩ := toggle
    have hroom : Room .apart vc.engineStates row isOn := room_of_fits (fits_apart _ row isOn) h
    rw [Machine.steps_cons, next_eq h]
    rw [@ih (vc.toggled row isOn) (le_length_setEngineState _ row isOn h)]
    rw [ConfigViewController.toggled_engineStates, tellsPump_setEngineState _ _ _ h]
    unfold firstPumpToggle Tells
    by_cases hrow : row = 3
    . cases isOn <;> simp [hrow, h, hrow ▸ hroom]
    . simp [hrow, h, hroom]

theorem resetsAtStarts_eq (seg : Segmentation) {vc : ConfigViewController} {word : Str}
    (happ : ConfigViewController.isAppMode vc.workMode = true) (h : 4 ≤ word.length)
    (toggles : List (Row × Bool))
    : ResetsAtStarts seg vc word toggles
        ↔
      (machine seg).Steps (Tells seg)
        (ConfigViewController.reloaded { vc with engineStates := word }) toggles := by
  have hfetched : vc.engineStatesFetched (fetchDataFromFirebase (.string word))
      = some (ConfigViewController.reloaded { vc with engineStates := word }, []) :=
    ConfigViewController.engineStatesFetched_eq vc word (fun _ => h)
  have hsteps := @steps_resetsAtStart_iff seg
    (ConfigViewController.reloaded { vc with engineStates := word }) happ toggles
  unfold ResetsAtStarts
  rw [hfetched, ← hsteps]
  constructor
  . rintro ⟨_, hresult, _, hresets⟩
    cases hresult
    exact hresets
  . intro hresets
    refine ⟨_, rfl, ?_, hresets⟩
    -- A toggle that resets as it should does not trap.
    apply Machine.steps_mono _ hresets
    rintro vc toggle ⟨result, _, hresult, _⟩
    exact Option.isSome_of_eq_some hresult

/--
The pump speed is reset at the starts of the pump and only there exactly when every toggle finds a word
with a character for each row and room for the toggle, and every toggle of the pump to on finds its state
told by the first character. Where no digit joins its neighbours the word that was delivered decides this:
the first toggle of the pump does not switch it on, or the word tells its state.
-/
theorem resetsAtStarts_iff {seg : Segmentation} {vc : ConfigViewController} {word : Str}
    (happ : ConfigViewController.isAppMode vc.workMode = true) (h : 4 ≤ word.length)
    (toggles : List (Row × Bool))
    : let start := ConfigViewController.reloaded { vc with engineStates := word }
      (ResetsAtStarts seg vc word toggles ↔ (machine seg).Steps (Tells seg) start toggles)
        ∧
      ((machine seg).Steps (Fitting seg) start toggles →
        (ResetsAtStarts seg vc word toggles ↔
          (firstPumpToggle toggles = some true → TellsPump word))) := by
  intro start
  have heq := resetsAtStarts_eq seg happ h toggles
  refine ⟨heq, ?_⟩
  intro hf
  have htells : machine.Steps (Tells .apart) start toggles
      ↔ (firstPumpToggle toggles = some true → TellsPump word) := steps_tells_iff h toggles
  have hsame : (machine seg).Steps (Tells seg) start toggles
      ↔ (machine seg).Steps (Tells .apart) start toggles := by
    apply Machine.steps_congr _ hf
    intro vc toggle hfits
    unfold Tells
    refine and_congr_right fun hlen => and_congr_left fun _ => ?_
    exact iff_of_true (room_of_fits hfits hlen) (room_of_fits (fits_apart _ _ _) hlen)
  rw [heq, hsame, ← htells]
  exact Machine.agree_steps (agree seg) hf

theorem start_not_detected
    : ¬ ∀ (vc : ConfigViewController) (word : Str) (toggles : List (Row × Bool)),
        ConfigViewController.isAppMode vc.workMode = true
          →
        4 ≤ word.length
          →
        ResetsAtStarts .apart vc word toggles := by
  intro h
  have hresets := h { workMode := ['2'] } ['1', '0', '0', '0', '0'] [(3, true)] (by decide) (by decide)
  rw [resetsAtStarts_eq .apart (by decide) (by decide)] at hresets
  exact absurd hresets (by decide)

theorem resetsAtStarts_four_characters
    : ResetsAtStarts .acute { workMode := ['2'] } ['0', '1', '0', '1']
        [(0, false), (3, true), (1, true), (3, true), (3, false), (3, true)] :=
  (resetsAtStarts_iff (by decide) (by decide) _).1.mpr (by decide)

end Switches

end SmartGarden

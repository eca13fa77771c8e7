import SmartGarden.ConfigScreen.Impl

/-!
This module contains the specification of the `ConfigViewController` handlers: when they trap, and what
they compute on words that have a character for each row. A toggle puts a digit between two parts of the
word, and as long as it joins neither of them the segmentation does not matter.
-/

open Swift

namespace SmartGarden

def engineState (engineStates : Str) (row : Row) : Option Char :=
  engineStates.fromEnd? row

def bit (isOn : Bool) : Char :=
  if isOn then '1' else '0'

def setEngineState (engineStates : Str) (row : Row) (isOn : Bool) : Str :=
  if row = 3 then
    bit isOn :: engineStates.drop (engineStates.length - 3)
  else
    engineStates.take (engineStates.length - (row + 1)) ++ [bit isOn]
      ++ engineStates.drop (engineStates.length - row)

/--
The part of the word in front of the character of a row. The last row has none, see `replaceSwitch`.
-/
def front (engineStates : Str) (row : Row) : Str :=
  if row = 3 then [] else engineStates.take (engineStates.length - (row + 1))

def back (engineStates : Str) (row : Row) : Str :=
  engineStates.drop (engineStates.length - row)

theorem setEngineState_eq (engineStates : Str) (row : Row) (isOn : Bool)
    : setEngineState engineStates row isOn
        =
      front engineStates row ++ ([bit isOn] ++ back engineStates row) := by
  unfold setEngineState front back
  split
  . next hrow =>
    subst hrow
    rfl
  . rw [List.append_assoc]

/--
The digit of a toggle joins neither of its neighbours.
-/
def Fits (seg : Segmentation) (engineStates : Str) (row : Row) (isOn : Bool) : Prop :=
  seg.joined? (front engineStates row) [bit isOn] = none
    ∧ seg.joined? [bit isOn] (back engineStates row) = none

instance (seg : Segmentation) (engineStates : Str) (row : Row) (isOn : Bool)
    : Decidable (Fits seg engineStates row isOn) :=
  inferInstanceAs (Decidable (_ ∧ _))

theorem bit_mem (isOn : Bool) : bit isOn ∈ ['0', '1'] := by
  cases isOn <;> decide

theorem fits_of_separates {seg : Segmentation} {engineStates : Str} (h : seg.Separates engineStates)
    (row : Row) (isOn : Bool) : Fits seg engineStates row isOn := by
  have hbit : ∀ c ∈ [bit isOn], c ∈ ['0', '1'] := by
    intro c hc
    rw [List.mem_singleton.mp hc]
    apply bit_mem
  constructor
  . apply Segmentation.joined?_of_forall
    intro c hc d hd
    unfold front at hc
    split at hc
    . contradiction
    . exact (h c (List.mem_of_mem_take hc) d (hbit d hd)).1
  . apply Segmentation.joined?_of_forall
    intro c hc d hd
    exact (h d (List.mem_of_mem_drop hd) c (hbit c hc)).2

theorem fits_apart (engineStates : Str) (row : Row) (isOn : Bool) : Fits .apart engineStates row isOn := by
  constructor
  . apply Segmentation.joined?_apart
  . apply Segmentation.joined?_apart

theorem separates_setEngineState {seg : Segmentation} {engineStates : Str}
    (h : seg.Separates engineStates) (row : Row) (isOn : Bool)
    : seg.Separates (setEngineState engineStates row isOn) := by
  intro c hc
  rw [setEngineState_eq, List.mem_append, List.mem_append, List.mem_singleton] at hc
  rcases hc with hfront | rfl | hback
  . unfold front at hfront
    split at hfront
    . contradiction
    . exact h c (List.mem_of_mem_take hfront)
  . apply @Segmentation.separates_of_isDigit seg [bit isOn]
    . cases isOn <;> rfl
    . apply List.mem_singleton_self
  . exact h c (List.mem_of_mem_drop hback)

theorem le_length_setEngineState (engineStates : Str) (row : Row) (isOn : Bool)
    (h : 4 ≤ engineStates.length) : 4 ≤ (setEngineState engineStates row isOn).length := by
  unfold setEngineState
  have := row.isLt
  split <;> simp <;> omega

/--
The word has a character for each row, and every digit that a toggle puts into it stays one.
-/
def Editable (seg : Segmentation) (engineStates : Str) : Prop :=
  4 ≤ engineStates.length ∧ seg.Separates engineStates

instance (seg : Segmentation) (engineStates : Str) : Decidable (Editable seg engineStates) :=
  inferInstanceAs (Decidable (_ ∧ _))

theorem editable_setEngineState {seg : Segmentation} {engineStates : Str}
    (h : Editable seg engineStates) (row : Row) (isOn : Bool)
    : Editable seg (setEngineState engineStates row isOn) :=
  ⟨le_length_setEngineState engineStates row isOn h.1, separates_setEngineState h.2 row isOn⟩

theorem engineState_setEngineState (engineStates : Str) (row : Row) (isOn : Bool)
    (h : 4 ≤ engineStates.length) (row' : Row)
    : engineState (setEngineState engineStates row isOn) row'
        =
      if row' = row then some (bit isOn) else engineState engineStates row' := by
  unfold engineState setEngineState
  have := row.isLt
  have := row'.isLt
  split
  . next hrow =>
    subst hrow
    rw [List.fromEnd?_cons_drop engineStates 3 _ (by omega)]
    by_cases h3 : row' = 3
    . simp [h3]
    . have hlt : row'.val < 3 := by
        have hne : row'.val ≠ 3 := fun heq => h3 (Fin.ext heq)
        omega
      simp [h3, hlt]
  . rw [List.fromEnd?_replace engineStates row _ (by omega)]
    simp [Fin.ext_iff]

/--
The number of characters that the word must have for a toggle of the row.
-/
def reach (row : Row) : Nat :=
  if row = 3 then 3 else row + 1

theorem reach_le (row : Row) : reach row ≤ 4 := by
  unfold reach
  have := row.isLt
  split <;> omega

/--
The number of neighbours that the digit of a toggle joins.
-/
def joins (seg : Segmentation) (engineStates : Str) (row : Row) (isOn : Bool) : Nat :=
  let edited := seg.append [bit isOn] (back engineStates row)
  (seg.joined? [bit isOn] (back engineStates row)).isSome.toNat
    + (seg.joined? (front engineStates row) edited).isSome.toNat

/--
The word reaches to the row, and after the toggle it still does.
-/
def Room (seg : Segmentation) (engineStates : Str) (row : Row) (isOn : Bool) : Prop :=
  if row = 3 then
    3 ≤ engineStates.length ∧ joins seg engineStates row isOn = 0
  else
    row + joins seg engineStates row isOn < engineStates.length

instance (seg : Segmentation) (engineStates : Str) (row : Row) (isOn : Bool)
    : Decidable (Room seg engineStates row isOn) :=
  inferInstanceAs (Decidable (if row = 3 then
      3 ≤ engineStates.length ∧ joins seg engineStates row isOn = 0
    else
      row + joins seg engineStates row isOn < engineStates.length))

theorem joins_eq_zero {seg : Segmentation} {engineStates : Str} {row : Row} {isOn : Bool}
    : joins seg engineStates row isOn = 0 ↔ Fits seg engineStates row isOn := by
  have hfront : seg.joined? (front engineStates row) ([bit isOn] ++ back engineStates row)
      = seg.joined? (front engineStates row) [bit isOn] := by
    rfl
  unfold joins Fits
  dsimp only
  cases hback : seg.joined? [bit isOn] (back engineStates row) with
  | none =>
    rw [Segmentation.append_of_joined? hback, hfront]
    cases seg.joined? (front engineStates row) [bit isOn] <;> simp
  | some c => simp

theorem room_of_fits {seg : Segmentation} {engineStates : Str} {row : Row} {isOn : Bool}
    (h : Fits seg engineStates row isOn) (hlen : 4 ≤ engineStates.length)
    : Room seg engineStates row isOn := by
  unfold Room
  rw [joins_eq_zero.mpr h]
  have := row.isLt
  split
  . exact ⟨by omega, rfl⟩
  . omega

theorem length_front_back (engineStates : Str) (row : Row) (h : reach row ≤ engineStates.length)
    : (front engineStates row).length + 1 + (back engineStates row).length
        =
      if row = 3 then 4 else engineStates.length := by
  unfold front back
  unfold reach at h
  have := row.isLt
  split
  . next hrow =>
    simp only [hrow, ↓reduceIte] at h
    subst hrow
    simp
    omega
  . next hrow =>
    simp only [hrow, ↓reduceIte] at h
    simp
    omega

theorem length_edited (seg : Segmentation) (engineStates : Str) (row : Row) (isOn : Bool)
    : (seg.append (front engineStates row) (seg.append [bit isOn] (back engineStates row))).length
          + joins seg engineStates row isOn
        =
      (front engineStates row).length + 1 + (back engineStates row).length := by
  have hback := @Segmentation.length_append seg [bit isOn] (back engineStates row)
  have hfront := @Segmentation.length_append seg (front engineStates row)
    (seg.append [bit isOn] (back engineStates row))
  rw [List.length_singleton] at hback
  unfold joins
  dsimp only
  omega

namespace ConfigViewController

theorem replaceSwitch_eq_append (seg : Segmentation) {engineStates : Str} {row : Row}
    (h : reach row ≤ engineStates.length) (isOn : Bool)
    : replaceSwitch engineStates row isOn seg
        =
      some (seg.append (front engineStates row) (seg.append [bit isOn] (back engineStates row))) := by
  have hbit : (if isOn then ['1'] else ['0']) = [bit isOn] := by cases isOn <;> rfl
  unfold replaceSwitch
  rw [hbit]
  match row with
  | 0 =>
    have h1 : 1 ≤ engineStates.length := h
    simp [h1, Str.replaceSubrange, front, back]
  | 1 =>
    have h2 : 2 ≤ engineStates.length := h
    have h1 : 1 ≤ engineStates.length := by omega
    simp [h1, h2, Str.replaceSubrange, front, back]
  | 2 =>
    have h3 : 3 ≤ engineStates.length := h
    have h2 : 2 ≤ engineStates.length := by omega
    simp [h2, h3, Str.replaceSubrange, front, back]
  | 3 =>
    have h3 : 3 ≤ engineStates.length := h
    simp [h3, Str.replaceSubrange, front, back]

theorem replaceSwitch_eq_none (seg : Segmentation) {engineStates : Str} {row : Row}
    (h : ¬ reach row ≤ engineStates.length) (isOn : Bool)
    : replaceSwitch engineStates row isOn seg = none := by
  unfold replaceSwitch
  match row with
  | 0 =>
    have h1 : ¬ 1 ≤ engineStates.length := h
    simp [h1, Str.indexFromEnd]
  | 1 =>
    have h2 : ¬ 2 ≤ engineStates.length := h
    simp [h2, Str.indexFromEnd]
  | 2 =>
    have h3 : ¬ 3 ≤ engineStates.length := h
    simp [h3, Str.indexFromEnd]
  | 3 =>
    have h3 : ¬ 3 ≤ engineStates.length := h
    simp [h3, Str.indexFromEnd]

@[simp]
theorem replaceSwitch_eq (engineStates : Str) (row : Row) (isOn : Bool)
    (h : 4 ≤ engineStates.length)
    : replaceSwitch engineStates row isOn = some (setEngineState engineStates row isOn) := by
  rw [replaceSwitch_eq_append _ (le_trans (reach_le row) h)]
  rw [Segmentation.append_apart, Segmentation.append_apart, setEngineState_eq]

theorem replaceSwitch_of_fits {seg : Segmentation} {engineStates : Str} {row : Row} {isOn : Bool}
    (h : Fits seg engineStates row isOn)
    : replaceSwitch engineStates row isOn seg = replaceSwitch engineStates row isOn := by
  by_cases hreach : reach row ≤ engineStates.length
  . have hback : seg.append [bit isOn] (back engineStates row) = [bit isOn] ++ back engineStates row :=
      Segmentation.append_of_joined? h.2
    have hfront : seg.append (front engineStates row) ([bit isOn] ++ back engineStates row)
        = front engineStates row ++ ([bit isOn] ++ back engineStates row) :=
      Segmentation.append_of_joined? h.1
    rw [replaceSwitch_eq_append _ hreach, replaceSwitch_eq_append _ hreach, hback, hfront]
    rw [Segmentation.append_apart, Segmentation.append_apart]
  . rw [replaceSwitch_eq_none _ hreach, replaceSwitch_eq_none _ hreach]

theorem handleSwitchChanged_of_fits {seg : Segmentation} {vc : ConfigViewController} {row : Row}
    {isOn : Bool} (h : Fits seg vc.engineStates row isOn)
    : vc.handleSwitchChanged row isOn seg = vc.handleSwitchChanged row isOn := by
  unfold handleSwitchChanged
  rw [replaceSwitch_of_fits h]

theorem switchValueChanged_of_fits {seg : Segmentation} {vc : ConfigViewController} {row : Row}
    {isOn : Bool} (h : Fits seg vc.engineStates row isOn)
    : vc.switchValueChanged row isOn seg = vc.switchValueChanged row isOn := by
  unfold switchValueChanged
  rw [handleSwitchChanged_of_fits h]

def shownCell (vc : ConfigViewController) (row : Row) : EquipmentCell :=
  if isAppMode vc.workMode then
    { isOn := engineState vc.engineStates row == some '1', isEnabled := true }
  else
    { isOn := false, isEnabled := false }

theorem isEnabled_shownCell (vc : ConfigViewController) (row : Row)
    : (vc.shownCell row).isEnabled = isAppMode vc.workMode := by
  unfold shownCell
  split
  . next hmode => rw [hmode]
  . next hmode => simpa using hmode

def Indexable (vc : ConfigViewController) : Prop :=
  isAppMode vc.workMode → 4 ≤ vc.engineStates.length

theorem cellForItemAt_isSome (vc : ConfigViewController) (row : Row)
    : (vc.cellForItemAt row).isSome ↔ (isAppMode vc.workMode → row.val < vc.engineStates.length) := by
  unfold cellForItemAt
  split
  . next hmode =>
    by_cases hlen : row.val < vc.engineStates.length
    . have hle : row.val + 1 ≤ vc.engineStates.length := by omega
      have hlt : vc.engineStates.length - (row + 1) < vc.engineStates.length := by omega
      simp [hlen, hmode, hle, hlt]
    . have hgt : ¬ row.val + 1 ≤ vc.engineStates.length := by omega
      simp [hlen, hmode, Str.indexFromEnd, hgt]
  . next hmode => simp [hmode]

theorem cellForItemAt_eq (vc : ConfigViewController) (row : Row)
    (h : isAppMode vc.workMode → row.val < vc.engineStates.length)
    : vc.cellForItemAt row = some (vc.shownCell row) := by
  unfold cellForItemAt shownCell
  split
  . next hmode =>
    have hlen := h hmode
    have hle : row.val + 1 ≤ vc.engineStates.length := by omega
    have hlt : vc.engineStates.length - (row + 1) < vc.engineStates.length := by omega
    unfold engineState
    rw [List.fromEnd?_eq_getElem? _ _ hlen]
    simp [hle, hlt]
  . rfl

theorem cellForItemAt_of_indexable {vc : ConfigViewController} (h : vc.Indexable) (row : Row)
    : vc.cellForItemAt row = some (vc.shownCell row) := by
  apply cellForItemAt_eq
  intro hmode
  have := h hmode
  omega

def reloaded (vc : ConfigViewController) : ConfigViewController :=
  { vc with cells := vc.shownCell }

@[simp]
theorem reloaded_engineStates (vc : ConfigViewController)
    : vc.reloaded.engineStates = vc.engineStates := by
  rfl

@[simp]
theorem reloaded_workMode (vc : ConfigViewController) : vc.reloaded.workMode = vc.workMode := by
  rfl

@[simp]
theorem reloadData_eq (vc : ConfigViewController) (h : vc.Indexable)
    : vc.reloadData = some vc.reloaded := by
  have hcells : ![vc.shownCell 0, vc.shownCell 1, vc.shownCell 2, vc.shownCell 3] = vc.shownCell := by
    funext row
    match row with
    | 0 => rfl
    | 1 => rfl
    | 2 => rfl
    | 3 => rfl
  simp [reloadData, reloaded, cellForItemAt_of_indexable h, hcells]

theorem reloadData_isSome (vc : ConfigViewController) : vc.reloadData.isSome ↔ vc.Indexable := by
  constructor
  . intro h hmode
    have hpump : (vc.cellForItemAt 3).isSome := by
      cases hcell : vc.cellForItemAt 3 with
      | some cell => rfl
      | none => simp [reloadData, hcell] at h
    exact (vc.cellForItemAt_isSome 3).mp hpump hmode
  . intro h
    simp [h]

@[simp]
theorem reloadItems_eq (vc : ConfigViewController) (row : Row) (h : vc.Indexable)
    : vc.reloadItems row
        =
      some { vc with cells := Function.update vc.cells row (vc.shownCell row) } := by
  simp [reloadItems, cellForItemAt_of_indexable h]

def toggled (vc : ConfigViewController) (row : Row) (isOn : Bool) : ConfigViewController :=
  let vc := { vc with engineStates := setEngineState vc.engineStates row isOn }
  { vc with cells := Function.update vc.cells row (vc.shownCell row) }

@[simp]
theorem toggled_engineStates (vc : ConfigViewController) (row : Row) (isOn : Bool)
    : (vc.toggled row isOn).engineStates = setEngineState vc.engineStates row isOn := by
  rfl

@[simp]
theorem toggled_workMode (vc : ConfigViewController) (row : Row) (isOn : Bool)
    : (vc.toggled row isOn).workMode = vc.workMode := by
  rfl

def toggledCell (workMode : Str) (isOn : Bool) : EquipmentCell :=
  if isAppMode workMode then
    { isOn := isOn, isEnabled := true }
  else
    { isOn := false, isEnabled := false }

theorem shownCell_toggled (vc : ConfigViewController) (row : Row) (isOn : Bool)
    (h : 4 ≤ vc.engineStates.length) (row' : Row)
    : (vc.toggled row isOn).shownCell row'
        =
      if row' = row then toggledCell vc.workMode isOn else vc.shownCell row' := by
  unfold shownCell toggledCell
  rw [toggled_workMode, toggled_engineStates]
  rw [engineState_setEngineState _ _ _ h]
  by_cases hrow : row' = row
  . cases isOn <;> simp [hrow, bit]
  . simp [hrow]

theorem toggled_cells (vc : ConfigViewController) (row : Row) (isOn : Bool)
    (h : 4 ≤ vc.engineStates.length) (row' : Row)
    : (vc.toggled row isOn).cells row'
        =
      if row' = row then toggledCell vc.workMode isOn else vc.cells row' := by
  have hshown := shownCell_toggled vc row isOn h row
  rw [if_pos rfl] at hshown
  rw [← hshown]
  apply Function.update_apply

def pumpStarted (vc : ConfigViewController) (row : Row) (isOn : Bool) : List Effect :=
  let newValue := (setEngineState vc.engineStates row isOn).head?.getD '0'
  if vc.engineStates.head?.getD '0' = '0' ∧ newValue = '1' then [.setValue .pumpSpeed ['1']] else []

theorem handleSwitchChanged_isSome (seg : Segmentation) {vc : ConfigViewController}
    (happ : isAppMode vc.workMode = true) (row : Row) (isOn : Bool)
    : (vc.handleSwitchChanged row isOn seg).isSome ↔ Room seg vc.engineStates row isOn := by
  unfold handleSwitchChanged Room
  by_cases hreach : reach row ≤ vc.engineStates.length
  . rw [replaceSwitch_eq_append seg hreach]
    have hlength := length_edited seg vc.engineStates row isOn
    rw [length_front_back _ _ hreach] at hlength
    generalize seg.append (front vc.engineStates row)
      (seg.append [bit isOn] (back vc.engineStates row)) = edited at hlength
    have hcell : (reloadItems { vc with engineStates := edited } row).isSome
        ↔ row.val < edited.length := by
      have hread := cellForItemAt_isSome { vc with engineStates := edited } row
      simp only [happ, forall_const] at hread
      rw [← hread]
      unfold reloadItems
      cases cellForItemAt { vc with engineStates := edited } row <;> simp
    have hsome : ((some edited).bind fun engineStates =>
        (reloadItems { vc with engineStates := engineStates } row).bind fun vc' =>
          some (vc', if vc.engineStates.head?.getD '0' = '0' ∧ engineStates.head?.getD '0' = '1' then
            [Effect.setValue .pumpSpeed ['1']] else [])).isSome
        ↔ row.val < edited.length := by
      rw [← hcell, Option.bind_some]
      cases reloadItems { vc with engineStates := edited } row <;> simp
    refine Iff.trans hsome ?_
    unfold reach at hreach
    split
    . next hrow =>
      simp only [hrow, ↓reduceIte] at hreach hlength ⊢
      have hthree : ((3 : Row) : Nat) = 3 := rfl
      omega
    . next hrow =>
      simp only [hrow, ↓reduceIte] at hlength
      omega
  . rw [replaceSwitch_eq_none seg hreach]
    refine iff_of_false (by simp) ?_
    unfold reach at hreach
    split
    . next hrow =>
      simp only [hrow, ↓reduceIte] at hreach
      exact fun h => hreach h.1
    . next hrow =>
      simp only [hrow, ↓reduceIte] at hreach
      omega

theorem switchValueChanged_isSome (seg : Segmentation) {vc : ConfigViewController}
    (happ : isAppMode vc.workMode = true) (row : Row) (isOn : Bool)
    : (vc.switchValueChanged row isOn seg).isSome ↔ Room seg vc.engineStates row isOn := by
  rw [← handleSwitchChanged_isSome seg happ]
  unfold switchValueChanged
  cases vc.handleSwitchChanged row isOn seg <;> simp

theorem switchValueChanged_workMode {seg : Segmentation} {vc : ConfigViewController} {row : Row}
    {isOn : Bool} {result : ConfigViewController × List Effect}
    (h : vc.switchValueChanged row isOn seg = some result) : result.1.workMode = vc.workMode := by
  obtain ⟨⟨vc', effects⟩, hhandle, heq⟩ := Option.bind_eq_some_iff.mp h
  cases heq
  obtain ⟨engineStates, _, hhandle⟩ := Option.bind_eq_some_iff.mp hhandle
  obtain ⟨vc'', hreload, hhandle⟩ := Option.bind_eq_some_iff.mp hhandle
  cases hhandle
  obtain ⟨cell, _, hreload⟩ := Option.bind_eq_some_iff.mp hreload
  cases hreload
  rfl

theorem handleSwitchChanged_eq (vc : ConfigViewController) (row : Row) (isOn : Bool)
    (h : 4 ≤ vc.engineStates.length)
    : vc.handleSwitchChanged row isOn = some (vc.toggled row isOn, vc.pumpStarted row isOn) := by
  have hindexable : Indexable { vc with engineStates := setEngineState vc.engineStates row isOn } := by
    intro _
    exact le_length_setEngineState vc.engineStates row isOn h
  simp [handleSwitchChanged, toggled, pumpStarted, h, hindexable]

theorem switchValueChanged_eq (vc : ConfigViewController) (row : Row) (isOn : Bool)
    (h : 4 ≤ vc.engineStates.length)
    : vc.switchValueChanged row isOn
        =
      some (vc.toggled row isOn, vc.pumpStarted row isOn ++ (vc.toggled row isOn).updateFirebaseData) := by
  simp [switchValueChanged, handleSwitchChanged_eq, h]

@[simp]
theorem writesTo_updateFirebaseData (vc : ConfigViewController)
    : writesTo .TINHIEUDONGCO vc.updateFirebaseData = [vc.engineStates] := by
  rfl

@[simp]
theorem writesTo_pumpStarted (vc : ConfigViewController) (row : Row) (isOn : Bool)
    : writesTo .TINHIEUDONGCO (vc.pumpStarted row isOn) = [] := by
  unfold pumpStarted
  dsimp
  split <;> rfl

theorem engineStatesFetched_eq (vc : ConfigViewController) (data : Str)
    (h : Indexable { vc with engineStates := data })
    : vc.engineStatesFetched (.success data) = some ({ vc with engineStates := data }.reloaded, []) := by
  simp [engineStatesFetched, h]

theorem engineStatesFetched_isSome (vc : ConfigViewController) (data : Str)
    : (vc.engineStatesFetched (.success data)).isSome ↔ Indexable { vc with engineStates := data } := by
  rw [← reloadData_isSome]
  dsimp only [engineStatesFetched]
  generalize reloadData { vc with engineStates := data } = reloaded?
  cases reloaded? <;> simp

theorem workModeFetched_eq (vc : ConfigViewController) (data : Str)
    (h : Indexable { vc with workMode := data })
    : vc.workModeFetched (.success data)
        =
      some ({ vc with workMode := data }.reloaded,
        .displayIndicator false :: if isAppMode data then initDataEngineFirebase else []) := by
  simp [workModeFetched, h]

theorem workModeFetched_isSome (vc : ConfigViewController) (data : Str)
    : (vc.workModeFetched (.success data)).isSome ↔ Indexable { vc with workMode := data } := by
  rw [← reloadData_isSome]
  dsimp only [workModeFetched]
  generalize reloadData { vc with workMode := data } = reloaded?
  cases reloaded? <;> simp

theorem workModeFetched_failure_eq (vc : ConfigViewController) (message : String) (h : vc.Indexable)
    : vc.workModeFetched (.failure message)
        =
      some (vc.reloaded, .displayIndicator false :: handleReadDataEngineFailed) := by
  simp [workModeFetched, h]

theorem workModeFetched_failure_isSome (vc : ConfigViewController) (message : String)
    : (vc.workModeFetched (.failure message)).isSome ↔ vc.Indexable := by
  rw [← reloadData_isSome]
  dsimp only [workModeFetched]
  cases vc.reloadData <;> simp

def entersAppMode : Value → Bool
  | .string data => isAppMode data
  | .other => false

theorem effects_workModeFetched {vc : ConfigViewController} {value : Value}
    {result : ConfigViewController × List Effect}
    (h : vc.workModeFetched (fetchDataFromFirebase value) = some result)
    : observes result.2 = (if entersAppMode value then [.TINHIEUDONGCO] else [])
        ∧ writes result.2 = []
        ∧ indicator result.2 = some false := by
  unfold entersAppMode
  cases value with
  | string data =>
    obtain ⟨vc', _, heq⟩ := Option.bind_eq_some_iff.mp h
    cases heq
    by_cases hmode : isAppMode data
    . simp only [hmode, ↓reduceIte]
      exact ⟨rfl, rfl, rfl⟩
    . simp only [hmode]
      exact ⟨rfl, rfl, rfl⟩
  | other =>
    obtain ⟨vc', _, heq⟩ := Option.bind_eq_some_iff.mp h
    cases heq
    exact ⟨rfl, rfl, rfl⟩

theorem effects_engineStatesFetched {vc : ConfigViewController} {value : Value}
    {result : ConfigViewController × List Effect}
    (h : vc.engineStatesFetched (fetchDataFromFirebase value) = some result)
    : observes result.2 = [] ∧ writes result.2 = [] ∧ indicator result.2 = none := by
  cases value with
  | string data =>
    obtain ⟨vc', _, heq⟩ := Option.bind_eq_some_iff.mp h
    rw [← Option.some.inj heq]
    exact ⟨rfl, rfl, rfl⟩
  | other =>
    rw [← Option.some.inj h]
    exact ⟨rfl, rfl, rfl⟩

theorem effects_switchValueChanged {vc : ConfigViewController} {row : Row} {isOn : Bool}
    {result : ConfigViewController × List Effect}
    (h : vc.switchValueChanged row isOn = some result)
    : observes result.2 = []
        ∧ (.TINHIEUDONGCO, result.1.engineStates) ∈ writes result.2
        ∧ indicator result.2 = some true := by
  obtain ⟨⟨vc', effects⟩, hhandle, heq⟩ := Option.bind_eq_some_iff.mp h
  cases heq
  obtain ⟨engineStates, _, hhandle⟩ := Option.bind_eq_some_iff.mp hhandle
  obtain ⟨vc'', _, hhandle⟩ := Option.bind_eq_some_iff.mp hhandle
  cases hhandle
  have hobserves : observes vc'.updateFirebaseData = [] := rfl
  have hwrites : writes vc'.updateFirebaseData = [(.TINHIEUDONGCO, vc'.engineStates)] := rfl
  have hindicator : indicator vc'.updateFirebaseData = some true := rfl
  dsimp
  rw [observes_append, writes_append, indicator_append, hobserves, hwrites, hindicator]
  split
  . exact ⟨rfl, by simp, rfl⟩
  . exact ⟨rfl, by simp, rfl⟩

theorem effects_firebaseDataUpdated (error : Option String)
    : observes (firebaseDataUpdated (writeDataToFirebase error)) = []
        ∧ writes (firebaseDataUpdated (writeDataToFirebase error)) = []
        ∧ indicator (firebaseDataUpdated (writeDataToFirebase error)) = some false := by
  cases error <;> exact ⟨rfl, rfl, rfl⟩

theorem effects_pumpSpeedWritten (error : Option String)
    : observes (pumpSpeedWritten (writeDataToFirebase error)) = []
        ∧ writes (pumpSpeedWritten (writeDataToFirebase error)) = []
        ∧ indicator (pumpSpeedWritten (writeDataToFirebase error)) = none := by
  cases error <;> exact ⟨rfl, rfl, rfl⟩

end ConfigViewController

end SmartGarden

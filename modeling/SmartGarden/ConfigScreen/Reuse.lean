import SmartGarden.ConfigScreen.DeviceList
import SmartGarden.Lib.Simulation

/-!
This module contains the device list with the cells that `configCollectionView` really has: views that it
takes from a pool, binds to a row and gives back. A cell keeps the handler of the row it was bound to in
app mode.
-/

open Swift

namespace SmartGarden

/--
An `EquipmentCell` of the pool, with the row whose image and name `bindData` has put there and the row that
its `switchValueChangedHandler` was made for.
-/
structure ReusedCell where
  equipmentSwitch : EquipmentCell := { isOn := true, isEnabled := true }
  row : Option Row := none
  handler : Option Row := none

structure ReusedList where
  engineStates : Str := ['0', '0', '0', '0']
  workMode : Str := ['1']
  pool : Nat → ReusedCell := fun _ => {}
  -- The cell that is on the screen at a row.
  visible : Row → Nat
  mode : Option Str := none
  issued : List IssuedWrite := []

namespace ReusedList

/--
The choice of `dequeueReusableCell` comes with the event: a cell for each row, or one for the row that is
bound again.
-/
inductive Action where
  | workMode (value : Value) (dequeued : Row → Nat)
  | engineStates (value : Value) (dequeued : Row → Nat)
  | toggle (row : Row) (isOn : Bool) (dequeued : Nat)

def cellForItemAt (s : ReusedList) (cell : ReusedCell) (row : Row) : Option ReusedCell :=
  let cell := { cell with row := some row }
  if ConfigViewController.isAppMode s.workMode then do
    let index ← s.engineStates.indexFromEnd (row + 1)
    let switchState ← s.engineStates[index]?
    return { cell with
      equipmentSwitch := { isOn := switchState == '1', isEnabled := true }
      handler := some row }
  else
    some { cell with equipmentSwitch := { isOn := false, isEnabled := false } }

def bind (s : ReusedList) (row : Row) (dequeued : Nat) : Option ReusedList := do
  let cell ← s.cellForItemAt (s.pool dequeued) row
  return { s with
    pool := Function.update s.pool dequeued cell
    visible := Function.update s.visible row dequeued }

def reloadData (s : ReusedList) (dequeued : Row → Nat) : Option ReusedList := do
  let s ← s.bind 0 (dequeued 0)
  let s ← s.bind 1 (dequeued 1)
  let s ← s.bind 2 (dequeued 2)
  s.bind 3 (dequeued 3)

def initDataWorkModeFirebase (s : ReusedList) (result : Result Str) (dequeued : Row → Nat)
    : Option ReusedList :=
  match result with
  | .success data => { s with workMode := data, mode := some data }.reloadData dequeued
  | .failure _ => s.reloadData dequeued

def initDataEngineFirebase (s : ReusedList) (result : Result Str) (dequeued : Row → Nat)
    : Option ReusedList :=
  match result with
  | .success data => { s with engineStates := data }.reloadData dequeued
  | .failure _ => some s

def write (s : ReusedList) (path : Path) (data : Str) : ReusedList :=
  { s with issued := s.issued ++ [⟨path, data, s.mode⟩] }

def handleSwitchChanged (s : ReusedList) (row : Row) (isOn : Bool) (dequeued : Nat)
    : Option ReusedList := do
  let oldValue := s.engineStates.head?.getD '0'
  let engineStates ← ConfigViewController.replaceSwitch s.engineStates row isOn
  let newValue := engineStates.head?.getD '0'
  let s := { s with engineStates := engineStates }
  let s := if oldValue = '0' ∧ newValue = '1' then s.write .pumpSpeed ['1'] else s
  s.bind row dequeued

/--
The user moves the switch of the cell that is on the screen at a row. The switch has moved before its
handler is called.
-/
def switchValueChanged (s : ReusedList) (row : Row) (isOn : Bool) (dequeued : Nat) : Option ReusedList :=
  let cell := s.pool (s.visible row)
  let moved := { cell with equipmentSwitch := { cell.equipmentSwitch with isOn := isOn } }
  let s := { s with pool := Function.update s.pool (s.visible row) moved }
  match cell.handler with
  | some row => do
    let s ← s.handleSwitchChanged row isOn dequeued
    return s.write .TINHIEUDONGCO s.engineStates
  | none => some s

def step (s : ReusedList) (a : Action) : Option ReusedList :=
  match a with
  | .workMode value dequeued => s.initDataWorkModeFirebase (fetchDataFromFirebase value) dequeued
  | .engineStates value dequeued => s.initDataEngineFirebase (fetchDataFromFirebase value) dequeued
  | .toggle row isOn dequeued => s.switchValueChanged row isOn dequeued

/--
No cell is dequeued for two rows.
-/
def machine : Machine ReusedList Action where
  enabled s a :=
    match a with
    | .workMode _ dequeued => ∀ row row', dequeued row = dequeued row' → row = row'
    | .engineStates value dequeued =>
      (∀ row row', dequeued row = dequeued row' → row = row')
        ∧ match value with
          | .string data => 4 ≤ data.length
          | .other => True
    | .toggle row _ dequeued =>
      (s.pool (s.visible row)).equipmentSwitch.isEnabled = true
        ∧ ∀ other, other ≠ row → s.visible other ≠ dequeued
  next s a := (s.step a).getD s

instance (s : ReusedList) (a : Action) : Decidable (machine.enabled s a) :=
  match a with
  | .workMode _ dequeued =>
    inferInstanceAs (Decidable (∀ row row', dequeued row = dequeued row' → row = row'))
  | .engineStates (.string data) dequeued =>
    inferInstanceAs (Decidable ((∀ row row', dequeued row = dequeued row' → row = row')
      ∧ 4 ≤ data.length))
  | .engineStates .other dequeued =>
    inferInstanceAs (Decidable ((∀ row row', dequeued row = dequeued row' → row = row') ∧ True))
  | .toggle row _ dequeued =>
    inferInstanceAs (Decidable ((s.pool (s.visible row)).equipmentSwitch.isEnabled = true
      ∧ ∀ other, other ≠ row → s.visible other ≠ dequeued))

def start (dequeued : Row → Nat) : ReusedList :=
  let s : ReusedList := { visible := dequeued }
  (s.reloadData dequeued).getD s

/--
The screen that the rows have cells of their own on.
-/
def vc (s : ReusedList) : ConfigViewController where
  engineStates := s.engineStates
  workMode := s.workMode
  cells := fun row => (s.pool (s.visible row)).equipmentSwitch

/--
The cell at a row is bound to it, and so is its handler as long as its switch can be moved.
-/
structure Binds (s : ReusedList) (row : Row) : Prop where
  equipmentSwitch : (s.pool (s.visible row)).equipmentSwitch = s.vc.shownCell row
  shown : (s.pool (s.visible row)).row = some row
  handler : (s.pool (s.visible row)).equipmentSwitch.isEnabled = true
    → (s.pool (s.visible row)).handler = some row

/--
Only cells differ.
-/
structure SameData (s t : ReusedList) : Prop where
  engineStates : t.engineStates = s.engineStates
  workMode : t.workMode = s.workMode
  mode : t.mode = s.mode
  issued : t.issued = s.issued

theorem cellForItemAt_eq {s : ReusedList} (h : s.vc.Indexable) (cell : ReusedCell) (row : Row)
    : ∃ handler, s.cellForItemAt cell row
        = some { equipmentSwitch := s.vc.shownCell row, row := some row, handler := handler }
      ∧ ((s.vc.shownCell row).isEnabled = true → handler = some row) := by
  have hcell := ConfigViewController.cellForItemAt_of_indexable h row
  unfold ConfigViewController.cellForItemAt at hcell
  unfold cellForItemAt
  dsimp only
  cases happ : ConfigViewController.isAppMode s.workMode with
  | true =>
    simp only [vc, happ, ↓reduceIte] at hcell ⊢
    obtain ⟨index, hindex, hcell⟩ := Option.bind_eq_some_iff.mp hcell
    obtain ⟨switchState, hstate, hcell⟩ := Option.bind_eq_some_iff.mp hcell
    refine ⟨some row, ?_, fun _ => rfl⟩
    rw [← Option.some.inj hcell, hindex, Option.bind_eq_bind, Option.bind_some, hstate]
    rfl
  | false =>
    refine ⟨cell.handler, ?_, ?_⟩
    . simp only [vc, happ, Bool.false_eq_true, ↓reduceIte] at hcell ⊢
      rw [← Option.some.inj hcell]
    . rw [s.vc.isEnabled_shownCell row]
      intro happ'
      rw [show ConfigViewController.isAppMode s.vc.workMode = false from happ] at happ'
      contradiction

theorem bind_spec {s : ReusedList} (h : s.vc.Indexable) (row : Row) (dequeued : Nat)
    : ∃ s', s.bind row dequeued = some s'
        ∧ SameData s s'
        ∧ s'.visible = Function.update s.visible row dequeued
        ∧ s'.Binds row
        ∧ ∀ other, other ≠ row → s.visible other ≠ dequeued → s.Binds other → s'.Binds other := by
  obtain ⟨handler, hcell, hhandler⟩ := cellForItemAt_eq h (s.pool dequeued) row
  unfold bind
  rw [hcell]
  refine ⟨_, rfl, ⟨rfl, rfl, rfl, rfl⟩, rfl, ?_, ?_⟩
  . constructor
    . dsimp only
      rw [Function.update_self, Function.update_self]
      rfl
    . simp
    . simpa using hhandler
  . intro other hother hvisible hbinds
    have hsame : Function.update s.visible row dequeued other = s.visible other :=
      Function.update_of_ne hother _ _
    obtain ⟨hswitch, hrow, hhandler'⟩ := hbinds
    constructor
    . dsimp only
      rw [hsame, Function.update_of_ne hvisible, hswitch]
      rfl
    . dsimp only
      rw [hsame, Function.update_of_ne hvisible, hrow]
    . dsimp only
      rw [hsame, Function.update_of_ne hvisible]
      exact hhandler'

theorem indexable_of_sameData {s t : ReusedList} (h : SameData s t) (hs : s.vc.Indexable)
    : t.vc.Indexable := by
  unfold ConfigViewController.Indexable at hs ⊢
  dsimp only [vc] at hs ⊢
  rw [h.engineStates, h.workMode]
  exact hs

theorem sameData_trans {s t u : ReusedList} (hst : SameData s t) (htu : SameData t u) : SameData s u where
  engineStates := htu.engineStates.trans hst.engineStates
  workMode := htu.workMode.trans hst.workMode
  mode := htu.mode.trans hst.mode
  issued := htu.issued.trans hst.issued

/--
The rows before `n` have got their cells.
-/
def Bound (s : ReusedList) (dequeued : Row → Nat) (n : Nat) : Prop :=
  ∀ row : Row, row.val < n → s.visible row = dequeued row ∧ s.Binds row

theorem bind_next {s : ReusedList} (h : s.vc.Indexable) {dequeued : Row → Nat}
    (hdistinct : ∀ row row', dequeued row = dequeued row' → row = row') (row : Row)
    (hbound : s.Bound dequeued row.val)
    : ∃ s', s.bind row (dequeued row) = some s' ∧ SameData s s' ∧ s'.Bound dequeued (row.val + 1) := by
  obtain ⟨s', heq, hsame, hvisible, hrow, hother⟩ := bind_spec h row (dequeued row)
  refine ⟨s', heq, hsame, ?_⟩
  intro other hlt
  rw [hvisible]
  by_cases hne : other = row
  . subst hne
    rw [Function.update_self]
    exact ⟨rfl, hrow⟩
  . rw [Function.update_of_ne hne]
    have hval : other.val ≠ row.val := fun heq => hne (Fin.ext heq)
    obtain ⟨hold, hbinds⟩ := hbound other (by omega)
    refine ⟨hold, hother other hne ?_ hbinds⟩
    rw [hold]
    intro hdequeued
    exact hne (hdistinct _ _ hdequeued)

theorem reloadData_spec {s : ReusedList} (h : s.vc.Indexable) {dequeued : Row → Nat}
    (hdistinct : ∀ row row', dequeued row = dequeued row' → row = row')
    : ∃ s', s.reloadData dequeued = some s' ∧ SameData s s' ∧ s'.Bound dequeued 4 := by
  have hnone : s.Bound dequeued 0 := by
    intro row hrow
    omega
  obtain ⟨s₁, h₁, hsame₁, hbound₁⟩ := bind_next h hdistinct 0 hnone
  have hindexable₁ := indexable_of_sameData hsame₁ h
  obtain ⟨s₂, h₂, hsame₂, hbound₂⟩ := bind_next hindexable₁ hdistinct 1 hbound₁
  have hindexable₂ := indexable_of_sameData hsame₂ hindexable₁
  obtain ⟨s₃, h₃, hsame₃, hbound₃⟩ := bind_next hindexable₂ hdistinct 2 hbound₂
  have hindexable₃ := indexable_of_sameData hsame₃ hindexable₂
  obtain ⟨s₄, h₄, hsame₄, hbound₄⟩ := bind_next hindexable₃ hdistinct 3 hbound₃
  refine ⟨s₄, ?_, sameData_trans (sameData_trans (sameData_trans hsame₁ hsame₂) hsame₃) hsame₄, hbound₄⟩
  unfold reloadData
  rw [h₁, Option.bind_eq_bind, Option.bind_some, h₂, Option.bind_some, h₃]
  exact h₄

/--
The cells on the screen are those of the row-indexed list `t`.
-/
structure Matches (s : ReusedList) (t : DeviceList) : Prop where
  engineStates : t.vc.engineStates = s.engineStates
  workMode : t.vc.workMode = s.workMode
  mode : t.mode = s.mode
  issued : t.issued = s.issued
  distinct : ∀ row row', s.visible row = s.visible row' → row = row'
  binds : ∀ row, s.Binds row
  consistent : t.Consistent

theorem vc_eq {s : ReusedList} {t : DeviceList} (h : Matches s t) : s.vc = t.vc := by
  have hcells : s.vc.cells = s.vc.shownCell := by
    funext row
    exact (h.binds row).equipmentSwitch
  have hshown : s.vc.shownCell = t.vc.shownCell := by
    funext row
    unfold ConfigViewController.shownCell
    rw [h.engineStates, h.workMode]
    rfl
  rw [hshown, ← h.consistent.cells] at hcells
  have hengine := h.engineStates
  have hmode := h.workMode
  cases hvc : t.vc with
  | mk engineStates workMode cells =>
    rw [hvc] at hcells hengine hmode
    dsimp only at hcells hengine hmode
    rw [← hcells, hengine, hmode]
    rfl

/--
Binding all rows again to distinct cells makes any list of the same data match.
-/
theorem matches_reloadData {s : ReusedList} {t : DeviceList} {dequeued : Row → Nat}
    (hdistinct : ∀ row row', dequeued row = dequeued row' → row = row') (hconsistent : t.Consistent)
    (hengine : t.vc.engineStates = s.engineStates) (hworkMode : t.vc.workMode = s.workMode)
    (hmode : t.mode = s.mode) (hissued : t.issued = s.issued)
    : ∃ s', s.reloadData dequeued = some s' ∧ Matches s' t := by
  have hindexable : s.vc.Indexable := by
    intro _
    dsimp only [vc]
    rw [← hengine]
    exact hconsistent.engineStates
  obtain ⟨s', heq, hsame, hbound⟩ := reloadData_spec hindexable hdistinct
  refine ⟨s', heq, hengine.trans hsame.engineStates.symm, hworkMode.trans hsame.workMode.symm,
    hmode.trans hsame.mode.symm, hissued.trans hsame.issued.symm, ?_, ?_, hconsistent⟩
  . intro row row' hvisible
    rw [(hbound row row.isLt).1, (hbound row' row'.isLt).1] at hvisible
    exact hdistinct row row' hvisible
  . intro row
    exact (hbound row row.isLt).2

theorem matches_start {dequeued : Row → Nat}
    (hdistinct : ∀ row row', dequeued row = dequeued row' → row = row')
    : Matches (start dequeued) {} := by
  obtain ⟨s', heq, hmatches⟩ := matches_reloadData (s := { visible := dequeued }) hdistinct
    DeviceList.consistent_start rfl rfl rfl rfl
  have hstart : start dequeued = s' := by
    unfold start
    dsimp only
    rw [heq]
    rfl
  rw [hstart]
  exact hmatches

/--
The row-indexed list does not choose cells.
-/
def listAction : Action → DeviceList.Action
  | .workMode value _ => .workMode value
  | .engineStates value _ => .engineStates value
  | .toggle row isOn _ => .toggle row isOn

theorem enabled_listAction {s : ReusedList} {t : DeviceList} (h : Matches s t) {a : Action}
    (he : machine.enabled s a) : DeviceList.machine.enabled t (listAction a) := by
  refine ⟨h.consistent.running, ?_⟩
  cases a with
  | workMode value dequeued => trivial
  | engineStates value dequeued =>
    cases value with
    | string data => exact he.2
    | other => trivial
  | toggle row isOn dequeued =>
    have hcells := congrArg (fun vc => (vc.cells row).isEnabled) (vc_eq h)
    exact hcells.symm.trans he.1

theorem next_eq {s s' : ReusedList} {a : Action} (h : s.step a = some s') : machine.next s a = s' := by
  dsimp only [machine]
  rw [h]
  rfl

theorem matches_workMode {s : ReusedList} {t : DeviceList} (h : Matches s t) (value : Value)
    {dequeued : Row → Nat} (hdistinct : ∀ row row', dequeued row = dequeued row' → row = row')
    : Matches (machine.next s (.workMode value dequeued)) (DeviceList.machine.next t (.workMode value)) := by
  have hconsistent := DeviceList.consistent_workMode h.consistent value
  cases value with
  | string data =>
    have ht : DeviceList.machine.next t (.workMode (.string data))
        = { t with
            vc := ConfigViewController.reloaded { t.vc with workMode := data }
            mode := some data } := by
      dsimp only [DeviceList.machine, fetchDataFromFirebase]
      rw [ConfigViewController.workModeFetched_eq t.vc data (fun _ => h.consistent.engineStates)]
      dsimp only [DeviceList.perform]
      rw [DeviceList.writes_initDataEngineFirebase]
      simp [DeviceList.delivered]
    rw [ht] at hconsistent ⊢
    obtain ⟨s', heq, hmatches⟩ := matches_reloadData (s := { s with workMode := data, mode := some data })
      hdistinct hconsistent h.engineStates rfl rfl h.issued
    rw [next_eq (a := .workMode (.string data) dequeued) heq]
    exact hmatches
  | other =>
    have ht : DeviceList.machine.next t (.workMode .other) = { t with vc := t.vc.reloaded } := by
      dsimp only [DeviceList.machine, fetchDataFromFirebase]
      rw [ConfigViewController.workModeFetched_failure_eq t.vc _ (fun _ => h.consistent.engineStates)]
      simp [DeviceList.perform, DeviceList.delivered, writes, Effect.write?,
        ConfigViewController.handleReadDataEngineFailed]
    rw [ht] at hconsistent ⊢
    obtain ⟨s', heq, hmatches⟩ := matches_reloadData hdistinct hconsistent h.engineStates h.workMode h.mode
      h.issued
    rw [next_eq (a := .workMode .other dequeued) heq]
    exact hmatches

theorem matches_engineStates {s : ReusedList} {t : DeviceList} (h : Matches s t) {value : Value}
    {dequeued : Row → Nat} (he : machine.enabled s (.engineStates value dequeued))
    : Matches (machine.next s (.engineStates value dequeued))
        (DeviceList.machine.next t (.engineStates value)) := by
  have hconsistent := DeviceList.consistent_engineStates h.consistent
    (enabled_listAction (a := .engineStates value dequeued) h he)
  cases value with
  | string data =>
    have hlen : 4 ≤ data.length := he.2
    have ht : DeviceList.machine.next t (.engineStates (.string data))
        = { t with vc := ConfigViewController.reloaded { t.vc with engineStates := data } } := by
      dsimp only [DeviceList.machine, fetchDataFromFirebase]
      rw [ConfigViewController.engineStatesFetched_eq t.vc data (fun _ => hlen)]
      simp [DeviceList.perform, writes]
    rw [ht] at hconsistent ⊢
    obtain ⟨s', heq, hmatches⟩ := matches_reloadData (s := { s with engineStates := data }) he.1 hconsistent
      rfl h.workMode h.mode h.issued
    rw [next_eq (a := .engineStates (.string data) dequeued) heq]
    exact hmatches
  | other =>
    have ht : DeviceList.machine.next t (.engineStates .other) = t := by
      have hwrites : writes ConfigViewController.handleReadDataEngineFailed = [] := rfl
      dsimp only [DeviceList.machine, fetchDataFromFirebase, ConfigViewController.engineStatesFetched,
        DeviceList.perform]
      rw [hwrites, List.map_nil, List.append_nil]
    rw [ht]
    exact h

def issuedWrites (s : ReusedList) (effects : List Effect) : List IssuedWrite :=
  (writes effects).map fun write => ⟨write.1, write.2, s.mode⟩

/--
The list after `handleSwitchChanged` has changed the word and before it binds the row again.
-/
def edited (s : ReusedList) (row : Row) (isOn : Bool) : ReusedList :=
  let cell := s.pool (s.visible row)
  let moved := { cell with equipmentSwitch := { cell.equipmentSwitch with isOn := isOn } }
  { s with
    engineStates := setEngineState s.engineStates row isOn
    pool := Function.update s.pool (s.visible row) moved
    issued := s.issued ++ s.issuedWrites (s.vc.pumpStarted row isOn) }

theorem switchValueChanged_eq {s : ReusedList} (hlen : 4 ≤ s.engineStates.length) {row : Row}
    (hhandler : (s.pool (s.visible row)).handler = some row) (isOn : Bool) (dequeued : Nat)
    : s.switchValueChanged row isOn dequeued
        =
      ((s.edited row isOn).bind row dequeued).map fun s => s.write .TINHIEUDONGCO s.engineStates := by
  unfold switchValueChanged
  dsimp only
  rw [hhandler]
  unfold handleSwitchChanged edited ConfigViewController.pumpStarted issuedWrites
  dsimp only [vc]
  rw [ConfigViewController.replaceSwitch_eq _ row isOn hlen]
  simp only [Option.bind_eq_bind, Option.bind_some]
  split
  . next hpump =>
    simp [hpump, hhandler, write, writes, Effect.write?, Option.map_eq_bind]
  . next hpump =>
    simp [hpump, hhandler, write, writes, Option.map_eq_bind]

/--
Moving a switch leaves the other rows bound.
-/
theorem edited_binds {s : ReusedList} (hlen : 4 ≤ s.engineStates.length)
    (hdistinct : ∀ row row', s.visible row = s.visible row' → row = row') {row other : Row} (isOn : Bool)
    (hother : other ≠ row) (hbinds : s.Binds other) : (s.edited row isOn).Binds other := by
  have hvisible : s.visible other ≠ s.visible row := fun heq => hother (hdistinct _ _ heq)
  have hpool : (s.edited row isOn).pool ((s.edited row isOn).visible other) = s.pool (s.visible other) :=
    Function.update_of_ne hvisible _ _
  have hshown : (s.edited row isOn).vc.shownCell other = s.vc.shownCell other := by
    have htoggled := ConfigViewController.shownCell_toggled s.vc row isOn hlen other
    rw [if_neg hother] at htoggled
    exact htoggled
  constructor
  . rw [hpool, hshown]
    exact hbinds.equipmentSwitch
  . rw [hpool]
    exact hbinds.shown
  . rw [hpool]
    exact hbinds.handler

theorem visible_distinct {visible : Row → Nat}
    (hdistinct : ∀ row row', visible row = visible row' → row = row') {row : Row} {dequeued : Nat}
    (hfresh : ∀ other, other ≠ row → visible other ≠ dequeued) {first second : Row}
    (heq : Function.update visible row dequeued first = Function.update visible row dequeued second)
    : first = second := by
  rw [Function.update_apply, Function.update_apply] at heq
  by_cases hfirst : first = row
  . by_cases hsecond : second = row
    . exact hfirst.trans hsecond.symm
    . rw [if_pos hfirst, if_neg hsecond] at heq
      exact absurd heq.symm (hfresh second hsecond)
  . by_cases hsecond : second = row
    . rw [if_neg hfirst, if_pos hsecond] at heq
      exact absurd heq (hfresh first hfirst)
    . rw [if_neg hfirst, if_neg hsecond] at heq
      exact hdistinct first second heq

theorem matches_toggle {s : ReusedList} {t : DeviceList} (h : Matches s t) {row : Row} {isOn : Bool}
    {dequeued : Nat} (he : machine.enabled s (.toggle row isOn dequeued))
    : Matches (machine.next s (.toggle row isOn dequeued)) (DeviceList.machine.next t (.toggle row isOn)) := by
  have hlist := enabled_listAction (a := .toggle row isOn dequeued) h he
  have hconsistent := DeviceList.consistent_toggle h.consistent hlist
  have hvc := vc_eq h
  have hlen : 4 ≤ s.engineStates.length := by
    rw [← h.engineStates]
    exact h.consistent.engineStates
  have hedited : 4 ≤ (s.edited row isOn).engineStates.length := le_length_setEngineState _ row isOn hlen
  obtain ⟨s', heq, hsame, hvisible, hrow, hothers⟩ := bind_spec (s := s.edited row isOn)
    (fun _ => hedited) row dequeued
  -- The handler of a cell whose switch can be moved was made for the row of the cell.
  have hstep := switchValueChanged_eq hlen ((h.binds row).handler he.1) isOn dequeued
  rw [heq] at hstep
  rw [next_eq (a := .toggle row isOn dequeued) hstep]
  rw [DeviceList.next_toggle h.consistent.engineStates] at hconsistent ⊢
  rw [ConfigViewController.switchValueChanged_eq _ _ _ h.consistent.engineStates] at hconsistent ⊢
  rw [← hvc] at hconsistent ⊢
  refine ⟨?_, ?_, ?_, ?_, ?_, ?_, hconsistent⟩
  . exact hsame.engineStates.symm
  . exact hsame.workMode.symm
  . exact h.mode.trans hsame.mode.symm
  . have hissued : s'.issued = s.issued ++ s.issuedWrites (s.vc.pumpStarted row isOn) := hsame.issued
    have hmode : s'.mode = s.mode := hsame.mode
    have hengine : s'.engineStates = setEngineState s.engineStates row isOn := hsame.engineStates
    dsimp only [DeviceList.perform, write]
    rw [hissued, hmode, hengine, h.issued, h.mode, writes_append, List.map_append, List.append_assoc]
    rfl
  . intro first second heq
    dsimp only [write] at heq
    rw [hvisible] at heq
    exact visible_distinct h.distinct he.2 heq
  . intro other
    by_cases hother : other = row
    . rw [hother]
      exact ⟨hrow.equipmentSwitch, hrow.shown, hrow.handler⟩
    . have hbinds := hothers other hother (he.2 other hother)
        (edited_binds hlen h.distinct isOn hother (h.binds other))
      exact ⟨hbinds.equipmentSwitch, hbinds.shown, hbinds.handler⟩

theorem simulates
    : Machine.Simulates machine DeviceList.machine (fun _ a => some (listAction a)) Matches where
  step := by
    intro s t a b hmatches he hb
    rw [← Option.some.inj hb]
    refine ⟨enabled_listAction hmatches he, ?_⟩
    cases a with
    | workMode value dequeued => exact matches_workMode hmatches value he
    | engineStates value dequeued => exact matches_engineStates hmatches he
    | toggle row isOn dequeued => exact matches_toggle hmatches he
  stutter := by
    intro s t a _ _ hnone
    contradiction

/--
Whichever cells are dequeued, the screen shows and writes what a list with one cell for each row does, and a
switch that can be moved edits the row that its image and name belong to.
-/
theorem reuse_is_unseen {dequeued : Row → Nat} {as : List Action}
    (hdistinct : ∀ row row', dequeued row = dequeued row' → row = row')
    (hv : machine.Valid (start dequeued) as)
    : let s := machine.run (start dequeued) as
      let t := DeviceList.machine.run {} (as.map listAction)
      DeviceList.machine.Valid {} (as.map listAction)
        ∧ s.vc = t.vc
        ∧ s.issued = t.issued
        ∧ ∀ row, (s.pool (s.visible row)).row = some row
          ∧ ((s.pool (s.visible row)).equipmentSwitch.isEnabled = true
            → (s.pool (s.visible row)).handler = some row) := by
  have hrun := Machine.simulates_run simulates (matches_start hdistinct) hv
  rw [Machine.outputs_eq_filterMap, List.filterMap_eq_map'] at hrun
  obtain ⟨hvalid, hmatches⟩ := hrun
  refine ⟨hvalid, vc_eq hmatches, hmatches.issued.symm, ?_⟩
  intro row
  exact ⟨(hmatches.binds row).shown, (hmatches.binds row).handler⟩

theorem reuse_is_unseen_turned
    : (machine.run (start fun row => row.val)
        [.workMode (.string ['2']) fun row => 3 - row.val,
          .engineStates (.string ['0', '1', '0', '1']) fun row => row.val + 2, .toggle 3 true 0,
          .workMode (.string ['1']) fun row => row.val, .workMode .other fun row => 3 - row.val]).issued
        =
      (DeviceList.machine.run {}
        [.workMode (.string ['2']), .engineStates (.string ['0', '1', '0', '1']), .toggle 3 true,
          .workMode (.string ['1']), .workMode .other]).issued :=
  (@reuse_is_unseen (fun row => row.val)
    [.workMode (.string ['2']) fun row => 3 - row.val,
      .engineStates (.string ['0', '1', '0', '1']) fun row => row.val + 2, .toggle 3 true 0,
      .workMode (.string ['1']) fun row => row.val, .workMode .other fun row => 3 - row.val]
    (by decide) (by decide)).2.2.1

end ReusedList

end SmartGarden

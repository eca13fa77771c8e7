import SmartGarden.Lib.Edits
import SmartGarden.Lib.Machine
import SmartGarden.ConfigScreen.Lemmas

/-!
This module contains several phones that show the device list of one garden. Each toggle edits the
phone's own copy of the engine word and writes the whole copy back. The lemmas are about words whose
characters stay apart; a run whose digits join none of their neighbours is the same for every segmentation.
-/

open Swift

namespace SmartGarden

structure Phone where
  vc : ConfigViewController
  undelivered : List Str := []

structure Toggle (ι : Type) where
  phone : ι
  row : Row
  isOn : Bool

structure Phones (ι : Type) where
  stored : Str
  phone : ι → Phone
  uncommitted : List (ι × Str) := []
  toggles : List (Toggle ι) := []

namespace Phones

inductive Action (ι : Type) where
  | toggle (p : ι) (row : Row) (isOn : Bool)
  | commit (k : Nat)
  | deliver (p : ι)

variable {ι : Type}

def commit (s : Phones ι) (k : Nat) : Phones ι :=
  match s.uncommitted[k]? with
  | some (_, data) =>
    { s with
      stored := data
      uncommitted := s.uncommitted.eraseIdx k
      phone := fun p =>
        if data = s.stored then
          s.phone p
        else
          { s.phone p with undelivered := (s.phone p).undelivered ++ [data] } }
  | none => s

def start (w workMode : Str) : Phones ι where
  stored := w
  phone := fun _ =>
    { vc := ConfigViewController.reloaded { engineStates := w, workMode := workMode } }

def Quiescent (s : Phones ι) : Prop :=
  s.uncommitted = [] ∧ ∀ p, (s.phone p).undelivered = []

def latest (s : Phones ι) : Str :=
  match s.uncommitted.getLast? with
  | some (_, data) => data
  | none => s.stored

def edits (s : Phones ι) : List (Row × Option Char) :=
  s.toggles.map fun t => (t.row, some (bit t.isOn))

/--
All toggles of this row were made on one phone.
-/
def Uncontested (s : Phones ι) (row : Row) : Prop :=
  ∀ t ∈ s.toggles, ∀ t' ∈ s.toggles, t.row = row → t'.row = row → t.phone = t'.phone

/--
A row that was toggled by one phone shows its last toggle, and a row that nobody toggled is unchanged.
-/
def NoLostToggle (w : Str) (s : Phones ι) : Prop :=
  ∀ row, s.Uncontested row → engineState s.stored row = Edits.value (engineState w) s.edits row

/--
Writes commit in the order of issue, and a toggle finds the latest word in the rows that it does not set.
-/
def UpToDate (s : Phones ι) (a : Action ι) : Prop :=
  match a with
  | .toggle p row _ =>
    ∀ row', row' ≠ row →
      engineState (s.phone p).vc.engineStates row' = engineState s.latest row'
  | .commit k => k = 0
  | .deliver _ => True

instance (s : Phones ι) (a : Action ι) : Decidable (UpToDate s a) :=
  match a with
  | .toggle p row _ =>
    inferInstanceAs (Decidable (∀ row', row' ≠ row →
      engineState (s.phone p).vc.engineStates row' = engineState s.latest row'))
  | .commit k => inferInstanceAs (Decidable (k = 0))
  | .deliver _ => inferInstanceAs (Decidable True)

/--
The digit that a toggle puts into the phone's copy joins none of its neighbours.
-/
def Fitting (seg : Segmentation) (s : Phones ι) (a : Action ι) : Prop :=
  match a with
  | .toggle p row isOn => Fits seg (s.phone p).vc.engineStates row isOn
  | _ => True

instance (seg : Segmentation) (s : Phones ι) (a : Action ι) : Decidable (Fitting seg s a) :=
  match a with
  | .toggle p row isOn => inferInstanceAs (Decidable (Fits seg (s.phone p).vc.engineStates row isOn))
  | .commit _ => inferInstanceAs (Decidable True)
  | .deliver _ => inferInstanceAs (Decidable True)

structure WellFormed (s : Phones ι) : Prop where
  uncommitted : ∀ write ∈ s.uncommitted, 4 ≤ write.2.length
  engineStates : ∀ p, 4 ≤ (s.phone p).vc.engineStates.length
  undelivered : ∀ p, ∀ data ∈ (s.phone p).undelivered, 4 ≤ data.length

theorem wellFormed_start {w workMode : Str} (hw : 4 ≤ w.length)
    : (start w workMode : Phones ι).WellFormed where
  uncommitted := by simp [start]
  engineStates := by intro p; exact hw
  undelivered := by simp [start]

theorem wellFormed_commit {s : Phones ι} (h : s.WellFormed) (k : Nat) : (s.commit k).WellFormed := by
  unfold commit
  split
  . next q new hk =>
    have hlen : 4 ≤ new.length := h.uncommitted (q, new) (List.mem_of_getElem? hk)
    constructor
    . intro write hwrite
      exact h.uncommitted write (List.mem_of_mem_eraseIdx hwrite)
    . intro p
      dsimp
      split
      . apply h.engineStates
      . apply h.engineStates
    . intro p data hdata
      dsimp at hdata
      split at hdata
      . exact h.undelivered p data hdata
      . cases List.mem_append.mp hdata with
        | inl hold =>
          exact h.undelivered p data hold
        | inr hnew =>
          rw [List.mem_singleton.mp hnew]
          exact hlen
  . exact h

theorem latest_commit_zero (s : Phones ι) : (s.commit 0).latest = s.latest := by
  unfold commit latest
  cases hs : s.uncommitted with
  | nil => simp [hs]
  | cons write rest =>
    cases rest with
    | nil => simp
    | cons write' rest => simp [List.getLast?_cons]

variable [DecidableEq ι]

def toggle (s : Phones ι) (p : ι) (row : Row) (isOn : Bool) (seg : Segmentation := .apart) : Phones ι :=
  match (s.phone p).vc.switchValueChanged row isOn seg with
  | some (vc, effects) =>
    { s with
      phone := Function.update s.phone p { s.phone p with vc := vc }
      uncommitted := s.uncommitted ++ (writesTo .TINHIEUDONGCO effects).map fun data => (p, data)
      toggles := s.toggles ++ [{ phone := p, row := row, isOn := isOn }] }
  -- The process traps. Words with four characters that stay apart never get here, see `toggle_eq`.
  | none => s

def deliver (s : Phones ι) (p : ι) : Phones ι :=
  match (s.phone p).undelivered with
  | data :: undelivered =>
    match (s.phone p).vc.engineStatesFetched (fetchDataFromFirebase (.string data)) with
    | some (vc, _) =>
      { s with phone := Function.update s.phone p { vc := vc, undelivered := undelivered } }
    | none => s
  | [] => s

def machine (seg : Segmentation := .apart) : Machine (Phones ι) (Action ι) where
  enabled s a :=
    match a with
    | .toggle p row _ => ((s.phone p).vc.cells row).isEnabled = true
    | .commit k => k < s.uncommitted.length
    | .deliver p => (s.phone p).undelivered ≠ []
  next s a :=
    match a with
    | .toggle p row isOn => s.toggle p row isOn seg
    | .commit k => s.commit k
    | .deliver p => s.deliver p

instance (seg : Segmentation) (s : Phones ι) (a : Action ι) : Decidable ((machine seg).enabled s a) :=
  match a with
  | .toggle p row _ => inferInstanceAs (Decidable (((s.phone p).vc.cells row).isEnabled = true))
  | .commit k => inferInstanceAs (Decidable (k < s.uncommitted.length))
  | .deliver p => inferInstanceAs (Decidable ((s.phone p).undelivered ≠ []))

theorem toggle_eq {s : Phones ι} (h : s.WellFormed) (p : ι) (row : Row) (isOn : Bool)
    : s.toggle p row isOn
        =
      { s with
        phone := Function.update s.phone p
          { s.phone p with vc := (s.phone p).vc.toggled row isOn }
        uncommitted := s.uncommitted ++ [(p, setEngineState (s.phone p).vc.engineStates row isOn)]
        toggles := s.toggles ++ [{ phone := p, row := row, isOn := isOn }] } := by
  unfold toggle
  rw [ConfigViewController.switchValueChanged_eq _ _ _ (h.engineStates p)]
  simp

theorem deliver_eq {s : Phones ι} (h : s.WellFormed) {p : ι} {data : Str} {undelivered : List Str}
    (hp : (s.phone p).undelivered = data :: undelivered)
    : s.deliver p
        =
      { s with
        phone := Function.update s.phone p
          { vc := ConfigViewController.reloaded { (s.phone p).vc with engineStates := data }
            undelivered := undelivered } } := by
  have hlen : 4 ≤ data.length := h.undelivered p data (by simp [hp])
  unfold deliver
  simp only [hp, fetchDataFromFirebase]
  rw [ConfigViewController.engineStatesFetched_eq _ _ (fun _ => hlen)]

theorem wellFormed_toggle {s : Phones ι} (h : s.WellFormed) (p : ι) (row : Row) (isOn : Bool)
    : (s.toggle p row isOn).WellFormed := by
  rw [toggle_eq h]
  have hlen := le_length_setEngineState _ row isOn (h.engineStates p)
  constructor
  . intro write hwrite
    cases List.mem_append.mp hwrite with
    | inl hold =>
      exact h.uncommitted write hold
    | inr hnew =>
      rw [List.mem_singleton.mp hnew]
      exact hlen
  . intro q
    by_cases hq : q = p
    . subst hq
      simpa using hlen
    . simpa [hq] using h.engineStates q
  . intro q data hdata
    by_cases hq : q = p
    . subst hq
      exact h.undelivered q data (by simpa using hdata)
    . exact h.undelivered q data (by simpa [hq] using hdata)

theorem wellFormed_deliver {s : Phones ι} (h : s.WellFormed) (p : ι) : (s.deliver p).WellFormed := by
  cases hp : (s.phone p).undelivered with
  | nil => simpa [deliver, hp] using h
  | cons new rest =>
    rw [deliver_eq h hp]
    constructor
    . exact h.uncommitted
    . intro q
      by_cases hq : q = p
      . subst hq
        simpa using h.undelivered q new (by simp [hp])
      . simpa [hq] using h.engineStates q
    . intro q data hdata
      by_cases hq : q = p
      . subst hq
        exact h.undelivered q data (by simp at hdata; simp [hp, hdata])
      . exact h.undelivered q data (by simpa [hq] using hdata)

theorem wellFormed_next {s : Phones ι} (h : s.WellFormed) (a : Action ι)
    : (machine.next s a).WellFormed := by
  cases a with
  | toggle p row isOn => apply wellFormed_toggle h
  | commit k => apply wellFormed_commit h
  | deliver p => apply wellFormed_deliver h

def ShowsToggles (w : Str) (s : Phones ι) : Prop :=
  Edits.Reflects (engineState s.latest) (engineState w) s.edits

theorem showsToggles_toggle {w : Str} {s : Phones ι} (h : s.WellFormed) (hs : s.ShowsToggles w)
    (p : ι) (row : Row) (isOn : Bool)
    : (s.toggle p row isOn).ShowsToggles w ↔ UpToDate s (.toggle p row isOn) := by
  rw [toggle_eq h]
  unfold ShowsToggles
  simp only [latest, edits, List.getLast?_append, List.getLast?_singleton, Option.some_or,
    List.map_append, List.map_cons, List.map_nil]
  apply Edits.reflects_write_iff hs
  intro row'
  rw [engineState_setEngineState _ _ _ (h.engineStates p)]

theorem showsToggles_next {w : Str} {s : Phones ι} (h : s.WellFormed) (hs : s.ShowsToggles w)
    (a : Action ι) (ha : UpToDate s a) : (machine.next s a).ShowsToggles w := by
  cases a with
  | toggle p row isOn => exact (showsToggles_toggle h hs p row isOn).mpr ha
  | commit k =>
    have hk : k = 0 := ha
    subst hk
    have hedits : (s.commit 0).edits = s.edits := by
      unfold commit
      split <;> rfl
    show (s.commit 0).ShowsToggles w
    unfold ShowsToggles
    rw [latest_commit_zero, hedits]
    exact hs
  | deliver p =>
    show (s.deliver p).ShowsToggles w
    cases hp : (s.phone p).undelivered with
    | nil => simpa [deliver, hp] using hs
    | cons data rest =>
      rw [deliver_eq h hp]
      exact hs

theorem showsToggles_run {w workMode : Str} {as : List (Action ι)} (hw : 4 ≤ w.length)
    (hv : machine.Valid (start w workMode) as) (hu : machine.Steps UpToDate (start w workMode) as)
    : (machine.run (start w workMode) as).ShowsToggles w := by
  have hrun := Machine.along_of_steps (m := machine)
    (P := fun s : Phones ι => s.WellFormed ∧ s.ShowsToggles w) (C := UpToDate)
    (fun s a hs _ ha => ⟨wellFormed_next hs.1 a, showsToggles_next hs.1 hs.2 a ha⟩)
    ⟨wellFormed_start hw, Edits.reflects_nil _⟩ hv hu
  exact (Machine.along_run hrun).2

theorem agree (seg : Segmentation) : Machine.Agree (machine seg) (machine (ι := ι)) (Fitting seg) where
  enabled := by
    intro s a _
    rfl
  next := by
    intro s a h
    cases a with
    | toggle p row isOn =>
      dsimp only [machine, toggle]
      rw [ConfigViewController.switchValueChanged_of_fits h]
    | commit k => rfl
    | deliver p => rfl

/--
If writes commit in the order of issue, each toggle is made on an up to date copy and no digit joins its
neighbours, then at rest the stored word shows the last toggle of every row and the original value of every
other row.
-/
theorem stored_shows_toggles {seg : Segmentation} {w workMode : Str} {as : List (Action ι)}
    (hw : 4 ≤ w.length) (hv : (machine seg).Valid (start w workMode) as)
    (hf : (machine seg).Steps (Fitting seg) (start w workMode) as)
    (hu : (machine seg).Steps UpToDate (start w workMode) as)
    (hq : ((machine seg).run (start w workMode) as).Quiescent)
    : ∀ row,
        engineState ((machine seg).run (start w workMode) as).stored row
          =
        Edits.value (engineState w) ((machine seg).run (start w workMode) as).edits row := by
  intro row
  rw [Machine.agree_valid (agree seg) hf] at hv
  rw [Machine.agree_steps (agree seg) hf] at hu
  rw [Machine.agree_run (agree seg) hf] at hq ⊢
  have hshows := showsToggles_run hw hv hu row
  unfold latest at hshows
  simpa [hq.1] using hshows

def overlappingToggles : List (Action Bool) :=
  [.toggle false 0 true, .toggle true 1 true, .commit 0, .commit 0, .deliver false, .deliver false,
    .deliver true, .deliver true]

theorem toggle_lost
    : ¬ ∀ (w workMode : Str) (as : List (Action Bool)),
        4 ≤ w.length
          →
        ConfigViewController.isAppMode workMode
          →
        machine.Valid (start w workMode) as
          →
        (machine.run (start w workMode) as).Quiescent
          →
        (machine.run (start w workMode) as).NoLostToggle w := by
  intro h
  have hlost := h ['0', '0', '0', '0'] ['2'] overlappingToggles (by decide) (by decide) (by decide)
    (by unfold Quiescent; decide) 0 (by unfold Uncontested; decide)
  revert hlost
  decide

theorem stored_shows_toggles_in_turn
    : let s := (machine .acute).run (start ['\n', '\u0301', '0', '0', '0', '0'] ['2'] : Phones Bool)
        [.toggle false 0 true, .commit 0, .deliver true, .toggle true 2 true, .commit 0,
          .deliver false, .deliver false, .deliver true]
      ∀ row, engineState s.stored row
        = Edits.value (engineState ['\n', '\u0301', '0', '0', '0', '0']) s.edits row :=
  stored_shows_toggles (by decide) (by decide) (by decide) (by decide) (by unfold Quiescent; decide)

end Phones

end SmartGarden

import SmartGarden.Lib.Edits
import SmartGarden.Lib.Machine
import SmartGarden.ConfigScreen.Lemmas

/-!
This module contains the device list of one phone that is the only writer of its garden, from
`viewDidLoad` on. Snapshots and events wait on the main queue, so a toggle can come before the first
word has been delivered and between the echoes of earlier toggles. The lemmas are about words whose
characters stay apart, as in the module on several phones.
-/

open Swift

namespace SmartGarden

structure SinglePhone where
  vc : ConfigViewController
  original : Str
  writes : List Str := []
  -- Observers of `TINHIEUDONGCO`, and how many of them wait for their first snapshot.
  observers : Nat := 0
  unanswered : Nat := 0
  -- Events raised but not delivered, oldest first, and the number of events delivered.
  undelivered : List Str := []
  delivered : Nat := 0
  toggles : List (Row × Bool) := []

namespace SinglePhone

inductive Action where
  | workMode (value : Value)
  -- Firebase raises the first snapshot of an observer.
  | answer
  | deliver
  | toggle (row : Row) (isOn : Bool)

def start (w : Str) : SinglePhone where
  vc := ConfigViewController.viewDidLoad.1
  original := w

def stored (s : SinglePhone) : Str :=
  s.writes.getLast?.getD s.original

def workMode (s : SinglePhone) (value : Value) : SinglePhone :=
  match s.vc.workModeFetched (fetchDataFromFirebase value) with
  | some (vc, effects) =>
    let registered := effects.count (.observe .TINHIEUDONGCO)
    { s with
      vc := vc
      observers := s.observers + registered
      unanswered := s.unanswered + registered }
  -- The process traps, which words with four characters that stay apart rule out.
  | none => s

def answer (s : SinglePhone) : SinglePhone :=
  { s with unanswered := s.unanswered - 1, undelivered := s.undelivered ++ [s.stored] }

def deliver (s : SinglePhone) : SinglePhone :=
  match s.undelivered with
  | data :: undelivered =>
    match s.vc.engineStatesFetched (fetchDataFromFirebase (.string data)) with
    | some (vc, _) => { s with vc := vc, undelivered := undelivered, delivered := s.delivered + 1 }
    | none => s
  | [] => s

def toggle (s : SinglePhone) (row : Row) (isOn : Bool) (seg : Segmentation := .apart) : SinglePhone :=
  match s.vc.switchValueChanged row isOn seg with
  | some (vc, effects) =>
    let written := writesTo .TINHIEUDONGCO effects
    { s with
      vc := vc
      writes := s.writes ++ written
      undelivered := s.undelivered ++ written.flatMap fun data => List.replicate s.observers data
      toggles := s.toggles ++ [(row, isOn)] }
  | none => s

def machine (seg : Segmentation := .apart) : Machine SinglePhone Action where
  enabled s a :=
    match a with
    | .workMode _ => True
    | .answer => 0 < s.unanswered
    | .deliver => s.undelivered ≠ []
    | .toggle row _ => (s.vc.cells row).isEnabled = true
  next s a :=
    match a with
    | .workMode value => s.workMode value
    | .answer => s.answer
    | .deliver => s.deliver
    | .toggle row isOn => s.toggle row isOn seg

instance (seg : Segmentation) (s : SinglePhone) (a : Action) : Decidable ((machine seg).enabled s a) :=
  match a with
  | .workMode _ => inferInstanceAs (Decidable True)
  | .answer => inferInstanceAs (Decidable (0 < s.unanswered))
  | .deliver => inferInstanceAs (Decidable (s.undelivered ≠ []))
  | .toggle row _ => inferInstanceAs (Decidable ((s.vc.cells row).isEnabled = true))

def edits (s : SinglePhone) : List (Row × Option Char) :=
  s.toggles.map fun t => (t.1, some (bit t.2))

/--
In the last word written, each toggled row shows its last toggle and every other row is as it was in `w`.
-/
def KeepsRows (w : Str) (s : SinglePhone) : Prop :=
  Edits.Reflects (engineState s.stored) (engineState w) s.edits

/--
A toggle finds in `engineStates` the stored word in the rows that it does not set.
-/
def UpToDate (s : SinglePhone) (a : Action) : Prop :=
  match a with
  | .toggle row _ => ∀ row', row' ≠ row → engineState s.vc.engineStates row' = engineState s.stored row'
  | _ => True

instance (s : SinglePhone) (a : Action) : Decidable (UpToDate s a) :=
  match a with
  | .toggle row _ =>
    inferInstanceAs (Decidable (∀ row', row' ≠ row →
      engineState s.vc.engineStates row' = engineState s.stored row'))
  | .workMode _ => inferInstanceAs (Decidable True)
  | .answer => inferInstanceAs (Decidable True)
  | .deliver => inferInstanceAs (Decidable True)

/--
The digit that a toggle puts into `engineStates` joins none of its neighbours.
-/
def Fitting (seg : Segmentation) (s : SinglePhone) (a : Action) : Prop :=
  match a with
  | .toggle row isOn => Fits seg s.vc.engineStates row isOn
  | _ => True

instance (seg : Segmentation) (s : SinglePhone) (a : Action) : Decidable (Fitting seg s a) :=
  match a with
  | .toggle row isOn => inferInstanceAs (Decidable (Fits seg s.vc.engineStates row isOn))
  | .workMode _ => inferInstanceAs (Decidable True)
  | .answer => inferInstanceAs (Decidable True)
  | .deliver => inferInstanceAs (Decidable True)

structure WellFormed (s : SinglePhone) : Prop where
  engineStates : 4 ≤ s.vc.engineStates.length
  stored : 4 ≤ s.stored.length
  undelivered : ∀ data ∈ s.undelivered, 4 ≤ data.length

theorem workMode_eq {s : SinglePhone} (h : s.WellFormed) (value : Value)
    : ∃ workMode registered,
        s.workMode value
          =
        { s with
          vc := ConfigViewController.reloaded { s.vc with workMode := workMode }
          observers := s.observers + registered
          unanswered := s.unanswered + registered } := by
  unfold workMode
  cases value with
  | string data =>
    refine ⟨data, if ConfigViewController.isAppMode data then 1 else 0, ?_⟩
    simp only [fetchDataFromFirebase]
    rw [ConfigViewController.workModeFetched_eq s.vc data (fun _ => h.engineStates)]
    by_cases hmode : ConfigViewController.isAppMode data
    . simp [hmode, ConfigViewController.initDataEngineFirebase]
    . simp [hmode]
  | other =>
    refine ⟨s.vc.workMode, 0, ?_⟩
    simp only [fetchDataFromFirebase]
    rw [ConfigViewController.workModeFetched_failure_eq _ _ (fun _ => h.engineStates)]
    rfl

theorem deliver_eq {s : SinglePhone} (h : s.WellFormed) {data : Str} {undelivered : List Str}
    (hs : s.undelivered = data :: undelivered)
    : s.deliver
        =
      { s with
        vc := ConfigViewController.reloaded { s.vc with engineStates := data }
        undelivered := undelivered
        delivered := s.delivered + 1 } := by
  have hlen : 4 ≤ data.length := h.undelivered data (by simp [hs])
  unfold deliver
  simp only [hs, fetchDataFromFirebase]
  rw [ConfigViewController.engineStatesFetched_eq _ _ (fun _ => hlen)]

theorem toggle_eq {s : SinglePhone} (h : s.WellFormed) (row : Row) (isOn : Bool)
    : s.toggle row isOn
        =
      { s with
        vc := s.vc.toggled row isOn
        writes := s.writes ++ [setEngineState s.vc.engineStates row isOn]
        undelivered := s.undelivered
          ++ List.replicate s.observers (setEngineState s.vc.engineStates row isOn)
        toggles := s.toggles ++ [(row, isOn)] } := by
  unfold toggle
  rw [ConfigViewController.switchValueChanged_eq _ _ _ h.engineStates]
  simp

theorem wellFormed_start {w : Str} (hw : 4 ≤ w.length) : (start w).WellFormed where
  engineStates := Nat.le_refl 4
  stored := hw
  undelivered := by simp [start]

theorem wellFormed_next {s : SinglePhone} (h : s.WellFormed) (a : Action)
    : (machine.next s a).WellFormed := by
  cases a with
  | workMode value =>
    obtain ⟨workMode, registered, heq⟩ := workMode_eq h value
    show (s.workMode value).WellFormed
    rw [heq]
    exact ⟨h.engineStates, h.stored, h.undelivered⟩
  | answer =>
    refine ⟨h.engineStates, h.stored, ?_⟩
    intro data hdata
    cases List.mem_append.mp hdata with
    | inl hold =>
      exact h.undelivered data hold
    | inr hnew =>
      rw [List.mem_singleton.mp hnew]
      exact h.stored
  | deliver =>
    show s.deliver.WellFormed
    cases hs : s.undelivered with
    | nil => simpa [deliver, hs] using h
    | cons data rest =>
      rw [deliver_eq h hs]
      refine ⟨h.undelivered data (by simp [hs]), h.stored, ?_⟩
      intro data' hdata'
      exact h.undelivered data' (by simp at hdata'; simp [hs, hdata'])
  | toggle row isOn =>
    show (s.toggle row isOn).WellFormed
    have hlen := le_length_setEngineState _ row isOn h.engineStates
    rw [toggle_eq h]
    refine ⟨hlen, by simpa [stored] using hlen, ?_⟩
    intro data hdata
    cases List.mem_append.mp hdata with
    | inl hold =>
      exact h.undelivered data hold
    | inr hnew =>
      rw [(List.mem_replicate.mp hnew).2]
      exact hlen

theorem keepsRows_next_iff {w : Str} {s : SinglePhone} (h : s.WellFormed) (hs : s.KeepsRows w)
    (a : Action) : (machine.next s a).KeepsRows w ↔ UpToDate s a := by
  cases a with
  | workMode value =>
    obtain ⟨workMode, registered, heq⟩ := workMode_eq h value
    have hkeeps : (s.workMode value).KeepsRows w := by
      rw [heq]
      exact hs
    exact iff_of_true hkeeps trivial
  | answer => exact iff_of_true hs trivial
  | deliver =>
    have hkeeps : s.deliver.KeepsRows w := by
      cases hundelivered : s.undelivered with
      | nil => simpa [deliver, hundelivered] using hs
      | cons data rest =>
        rw [deliver_eq h hundelivered]
        exact hs
    exact iff_of_true hkeeps trivial
  | toggle row isOn =>
    show (s.toggle row isOn).KeepsRows w ↔ _
    rw [toggle_eq h]
    unfold KeepsRows
    simp only [stored, edits, List.getLast?_append, List.getLast?_singleton, Option.some_or,
      Option.getD_some, List.map_append, List.map_cons, List.map_nil]
    apply Edits.reflects_write_iff hs
    intro row'
    rw [engineState_setEngineState _ _ _ h.engineStates]

theorem agree (seg : Segmentation) : Machine.Agree (machine seg) machine (Fitting seg) where
  enabled := by
    intro s a _
    rfl
  next := by
    intro s a h
    cases a with
    | toggle row isOn =>
      dsimp only [machine, toggle]
      rw [ConfigViewController.switchValueChanged_of_fits h]
    | _ => rfl

/--
In a run from `viewDidLoad` in which no digit joins its neighbours, the last word written shows the toggles
and nothing else all the time exactly when every toggle was made on an up to date word.
-/
theorem keepsRows_iff {seg : Segmentation} {w : Str} {as : List Action} (hw : 4 ≤ w.length)
    (hv : (machine seg).Valid (start w) as) (hf : (machine seg).Steps (Fitting seg) (start w) as)
    : (machine seg).Along (KeepsRows w) (start w) as ↔ (machine seg).Steps UpToDate (start w) as := by
  rw [Machine.agree_valid (agree seg) hf] at hv
  rw [Machine.agree_along (agree seg) hf, Machine.agree_steps (agree seg) hf]
  apply Machine.along_iff_steps (P := WellFormed)
  . intro s a h _
    apply wellFormed_next h
  . intro s a h hs _
    apply keepsRows_next_iff h hs
  . exact wellFormed_start hw
  . apply Edits.reflects_nil
  . exact hv

theorem untouched_rows_switched_off
    : ¬ ∀ (w : Str) (as : List Action),
        4 ≤ w.length
          →
        machine.Valid (start w) as
          →
        (machine.run (start w) as).KeepsRows w := by
  intro h
  have hkeeps := h ['1', '1', '1', '1'] [.workMode (.string ['2']), .toggle 0 true] (by decide)
    (by decide) 1
  revert hkeeps
  decide

theorem keepsRows_after_first_word
    : (machine .acute).Along (KeepsRows ['\n', '\u0301', '1', '1', '1', '1'])
        (start ['\n', '\u0301', '1', '1', '1', '1'])
        [.workMode (.string ['2']), .answer, .deliver, .toggle 0 false, .toggle 3 false] :=
  (keepsRows_iff (by decide) (by decide) (by decide)).mpr (by decide)

structure Echoed (s : SinglePhone) : Prop where
  observed : s.observers = 0 → s.undelivered = []
  unanswered : s.unanswered ≤ s.observers
  youngest : ∀ data, s.undelivered.getLast? = some data → data = s.stored
  engineStates : s.undelivered = [] → (0 < s.delivered ∨ s.writes ≠ []) → s.vc.engineStates = s.stored

theorem echoed_start (w : Str) : (start w).Echoed := by
  constructor <;> simp [start]

theorem echoed_next {s : SinglePhone} (h : s.WellFormed) (hs : s.Echoed) (a : Action)
    (ha : machine.enabled s a) : (machine.next s a).Echoed := by
  cases a with
  | workMode value =>
    obtain ⟨workMode, registered, heq⟩ := workMode_eq h value
    show (s.workMode value).Echoed
    rw [heq]
    refine ⟨?_, ?_, hs.youngest, hs.engineStates⟩
    . intro hobservers
      have : s.observers = 0 := by dsimp at hobservers; omega
      exact hs.observed this
    . have := hs.unanswered
      dsimp
      omega
  | answer =>
    have hpos : 0 < s.unanswered := ha
    have := hs.unanswered
    refine ⟨?_, ?_, ?_, ?_⟩
    . intro hobservers
      have : s.observers = 0 := hobservers
      omega
    . show s.unanswered - 1 ≤ s.observers
      omega
    . intro data hdata
      have hlast : some s.stored = some data := by simpa [machine, answer] using hdata
      exact (Option.some.inj hlast).symm
    . intro hnil
      simp [machine, answer] at hnil
  | deliver =>
    show s.deliver.Echoed
    cases hundelivered : s.undelivered with
    | nil => simpa [deliver, hundelivered] using hs
    | cons data rest =>
      rw [deliver_eq h hundelivered]
      refine ⟨?_, hs.unanswered, ?_, ?_⟩
      . intro hobservers
        simp [hs.observed hobservers] at hundelivered
      . intro data' hdata'
        apply hs.youngest data'
        rw [hundelivered, List.getLast?_cons]
        simp at hdata'
        simp [hdata']
      . intro hrest _
        apply hs.youngest data
        simp at hrest
        simp [hundelivered, hrest]
  | toggle row isOn =>
    show (s.toggle row isOn).Echoed
    rw [toggle_eq h]
    have hstored : ∀ word, (s.writes ++ [word]).getLast?.getD s.original = word := by simp
    refine ⟨?_, hs.unanswered, ?_, ?_⟩
    . intro hobservers
      simp [hs.observed hobservers, show s.observers = 0 from hobservers]
    . intro data hdata
      unfold stored
      rw [hstored]
      dsimp at hdata
      by_cases hobservers : s.observers = 0
      . simp [hobservers, hs.observed hobservers] at hdata
      . rw [List.getLast?_append, List.getLast?_replicate] at hdata
        simpa [hobservers, eq_comm] using hdata
    . intro _ _
      unfold stored
      rw [hstored]
      rfl

theorem upToDate_of_delivered {seg : Segmentation} {w : Str} {as : List Action} (hw : 4 ≤ w.length)
    (hv : (machine seg).Valid (start w) as) (hf : (machine seg).Steps (Fitting seg) (start w) as)
    (hdelivered : 0 < ((machine seg).run (start w) as).delivered)
    (hundelivered : ((machine seg).run (start w) as).undelivered = []) (a : Action)
    : UpToDate ((machine seg).run (start w) as) a := by
  rw [Machine.agree_valid (agree seg) hf] at hv
  rw [Machine.agree_run (agree seg) hf] at hdelivered hundelivered ⊢
  have hrun := Machine.run_invariant (m := machine)
    (P := fun s : SinglePhone => s.WellFormed ∧ s.Echoed)
    (fun s a hs ha => ⟨wellFormed_next hs.1 a, echoed_next hs.1 hs.2 a ha⟩)
    ⟨wellFormed_start hw, echoed_start w⟩ hv
  have hstates := hrun.2.engineStates hundelivered (Or.inl hdelivered)
  cases a with
  | toggle row isOn =>
    intro row' _
    rw [hstates]
  | _ => trivial

end SinglePhone

end SmartGarden

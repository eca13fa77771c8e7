import SmartGarden.App.Tabs

/-!
This module contains the blocking indicator, which the tabs share and do not count: in which runs it stays
on while a write of the device list is unanswered.
-/

open Swift

namespace SmartGarden

namespace Tabs

def Covered (s : Tabs) : Prop :=
  .updateFirebaseData ∈ s.pending → s.isShown = true

/--
The indicator is dismissed only when no write to `TINHIEUDONGCO` is left unanswered: the other observers are
not called while one is, and no two of them overlap when one is answered.
-/
def KeepsCovered (s : Tabs) (a : Action) : Prop :=
  match a with
  | .event k _ => s.observers[k]? ≠ some .initDataEngineFirebase → .updateFirebaseData ∉ s.pending
  | .complete k _ =>
    s.pending[k]? = some .updateFirebaseData → .updateFirebaseData ∉ s.pending.eraseIdx k
  | _ => True

instance (s : Tabs) : Decidable s.Covered :=
  inferInstanceAs (Decidable (.updateFirebaseData ∈ s.pending → s.isShown = true))

instance (s : Tabs) (a : Action) : Decidable (KeepsCovered s a) :=
  match a with
  | .event k _ =>
    inferInstanceAs (Decidable (s.observers[k]? ≠ some .initDataEngineFirebase
      → .updateFirebaseData ∉ s.pending))
  | .complete k _ =>
    inferInstanceAs (Decidable (s.pending[k]? = some .updateFirebaseData
      → .updateFirebaseData ∉ s.pending.eraseIdx k))
  | .toggle _ _ => inferInstanceAs (Decidable True)
  | .flip _ _ => inferInstanceAs (Decidable True)
  | .edit _ _ => inferInstanceAs (Decidable True)

theorem covered_event {s s' : Tabs} {k : Nat} {value : Value} (hs : s.Covered)
    (h : s.event k value = some s') : s'.Covered ↔ KeepsCovered s (.event k value) := by
  obtain ⟨observer, hobserver, _, hpending, hshown⟩ := event_frame h
  unfold Covered KeepsCovered
  dsimp only
  rw [hpending, hshown, hobserver]
  by_cases hengine : observer = .initDataEngineFirebase
  . simp only [hengine, ↓reduceIte]
    exact iff_of_true hs (by simp)
  . simp [hengine]

theorem covered_complete {s s' : Tabs} {k : Nat} {error : Option String} (hs : s.Covered)
    (h : s.complete k error = some s') : s'.Covered ↔ KeepsCovered s (.complete k error) := by
  obtain ⟨request, hrequest, _, hpending, hshown⟩ := complete_frame h
  unfold Covered KeepsCovered
  dsimp only
  rw [hpending, hshown, hrequest]
  by_cases hdevice : request = .updateFirebaseData
  . simp [hdevice]
  . simp only [hdevice, ↓reduceIte]
    refine iff_of_true ?_ (by simp [hdevice])
    intro hmem
    exact hs (List.mem_of_mem_eraseIdx hmem)

theorem covered_step {s s' : Tabs} {a : Action} (hs : s.Covered) (h : s.step a = some s')
    : s'.Covered ↔ KeepsCovered s a := by
  cases a with
  | event k value => exact covered_event hs h
  | toggle row isOn =>
    refine iff_of_true ?_ trivial
    intro _
    exact (toggle_frame h).2
  | flip sender isOn =>
    obtain ⟨_, hpending, hshown⟩ := flip_frame h
    refine iff_of_true ?_ trivial
    intro hmem
    rw [hshown]
    split
    . rfl
    . exact hs (hpending.mp hmem)
  | edit textField text =>
    cases h
    exact iff_of_true hs trivial
  | complete k error => exact covered_complete hs h

/--
The indicator covers the unanswered writes of the device list in every state of a run exactly when no step
dismisses it early.
-/
theorem covered_iff {texts : TextField → Str} {as : List Action}
    (hv : machine.Valid (start texts) as)
    : machine.Along Covered (start texts) as ↔ machine.Steps KeepsCovered (start texts) as := by
  apply Machine.along_iff_steps (P := fun _ => True)
  . intro s a _ _
    trivial
  . intro s a _ hs he
    obtain ⟨s', hs'⟩ := Option.isSome_iff_exists.mp he
    rw [next_eq hs']
    exact covered_step hs hs'
  . trivial
  . intro _
    rfl
  . exact hv

theorem dismissed_by_sensor_frame
    : ¬ ∀ (texts : TextField → Str) (as : List Action),
        machine.Valid (start texts) as
          →
        (machine.run (start texts) as).Covered := by
  intro h
  have hcovered := h (fun _ => [])
    [.event 2 (.string ['2']), .event 3 (.string ['2']), .event 4 (.string ['0', '0', '0', '0']),
      .toggle 0 true, .event 0 (.string ['3', '0', '7', '0', '5', '0', '4', '0', '1'])]
    (by decide)
  exact absurd hcovered (by decide)

theorem covered_between_frames
    : machine.Along Covered (start fun _ => [])
        [.event 2 (.string ['2']), .event 3 (.string ['2']), .event 4 (.string ['0', '0', '0', '0']),
          .toggle 3 true, .event 4 (.string ['1', '0', '0', '0']), .complete 0 none,
          .flip .buttonControlModeSwitch true, .complete 0 none,
          .event 0 (.string ['3', '0', '7', '0', '5', '0', '4', '0', '1']), .toggle 0 true] :=
  (covered_iff (by decide)).mpr (by decide)

end Tabs

end SmartGarden

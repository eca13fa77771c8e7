import SmartGarden.App.Shell

/-!
This module contains what a blocked screen waits for: there is always an observer that has not been called
yet or a write of the device list that has not been answered.
-/

open Swift

namespace SmartGarden

/--
The observers whose registration shows the indicator.
-/
def Observer.Displays : Observer → Prop
  | .initDataFirebase => True
  | .initDataWorkModeFirebase => True
  | .initDataModeFirebase => True
  | _ => False

namespace Tabs

def Called (as : List Action) (k : Nat) : Prop :=
  ∃ value, .event k value ∈ as

/--
After `as`, Firebase owes the tabs an answer that dismisses the indicator.
-/
def Awaits (as : List Action) (s : Tabs) : Prop :=
  .updateFirebaseData ∈ s.pending
    ∨ ∃ k observer, s.observers[k]? = some observer ∧ observer.Displays ∧ ¬ Called as k

structure Owed (as : List Action) (s : Tabs) : Prop where
  registered : ∀ k, Called as k → k < s.observers.length
  awaits : s.isShown = true → s.Awaits as

theorem called_concat {as : List Action} {a : Action} {k : Nat} (h : Called (as ++ [a]) k)
    : Called as k ∨ ∃ value, a = .event k value := by
  obtain ⟨value, hvalue⟩ := h
  cases List.mem_append.mp hvalue with
  | inl hold => exact Or.inl ⟨value, hold⟩
  | inr hnew => exact Or.inr ⟨value, (List.mem_singleton.mp hnew).symm⟩

theorem perform_observers (s : Tabs) (observer : Path → Observer) (request : Path → PendingWrite)
    (effects : List Effect)
    : (s.perform observer request effects).observers = s.observers ++ (observes effects).map observer := by
  rw [perform_eq]

theorem observers_step {s s' : Tabs} {a : Action} (h : s.step a = some s')
    : s.observers <+: s'.observers := by
  obtain ⟨t, observer, request, rfl, hobservers, _⟩ := step_cases h
  rw [perform_observers, hobservers]
  exact List.prefix_append _ _

theorem observers_flip {s s' : Tabs} {sender : ModeSwitch} {isOn : Bool}
    (h : s.step (.flip sender isOn) = some s') (hrejected : s.setting.Rejected sender isOn)
    : s'.observers = s.observers ++ [.initDataModeFirebase] := by
  dsimp only [step] at h
  split at h
  . cases h
    unfold performSetting
    rw [perform_observers, (s.setting.effects_flip sender isOn).1, if_pos hrejected]
    rfl
  . contradiction

theorem called_step {s s' : Tabs} {as : List Action} {a : Action}
    (hs : ∀ k, Called as k → k < s.observers.length) (h : s.step a = some s') (k : Nat)
    (hk : Called (as ++ [a]) k) : k < s'.observers.length := by
  apply Nat.lt_of_lt_of_le _ (observers_step h).length_le
  cases called_concat hk with
  | inl hold => exact hs k hold
  | inr hnew =>
    obtain ⟨value, rfl⟩ := hnew
    obtain ⟨observer, hobserver, _⟩ := event_frame h
    exact (List.getElem?_eq_some_iff.mp hobserver).1

/--
Firebase still owes an answer after a step that is none of those it owed.
-/
theorem awaits_step {s s' : Tabs} {as : List Action} {a : Action} (hs : s.Awaits as)
    (h : s.step a = some s')
    (hpending : .updateFirebaseData ∈ s.pending → .updateFirebaseData ∈ s'.pending)
    (hcalled : ∀ k value, a = .event k value → ∀ observer ∈ s.observers[k]?, ¬ observer.Displays)
    : s'.Awaits (as ++ [a]) := by
  cases hs with
  | inl hwrite => exact Or.inl (hpending hwrite)
  | inr hobserver =>
    obtain ⟨k, observer, hk, hdisplays, hold⟩ := hobserver
    refine Or.inr ⟨k, observer, ?_, hdisplays, ?_⟩
    . obtain ⟨observers, hobservers⟩ := observers_step h
      have hlt := (List.getElem?_eq_some_iff.mp hk).1
      rw [← hobservers, List.getElem?_append_left hlt]
      exact hk
    . intro hnew
      cases called_concat hnew with
      | inl hcall => exact hold hcall
      | inr hevent =>
        obtain ⟨value, rfl⟩ := hevent
        exact hcalled k value rfl observer hk hdisplays

theorem owed_event {s s' : Tabs} {as : List Action} {k : Nat} {value : Value} (hs : s.Owed as)
    (h : s.step (.event k value) = some s') : s'.Owed (as ++ [.event k value]) where
  registered := called_step hs.registered h
  awaits := by
    intro hshown
    obtain ⟨observer, hobserver, _, hpending, hindicator⟩ := event_frame h
    rw [hindicator] at hshown
    split at hshown
    . next hengine =>
      apply awaits_step (hs.awaits hshown) h
      . rw [hpending]
        exact id
      . rintro j value' heq other hother hdisplays
        cases heq
        rw [hobserver] at hother
        rw [← Option.some.inj hother, hengine] at hdisplays
        exact hdisplays
    . contradiction

theorem owed_toggle {s s' : Tabs} {as : List Action} {row : Row} {isOn : Bool} (hs : s.Owed as)
    (h : s.step (.toggle row isOn) = some s') : s'.Owed (as ++ [.toggle row isOn]) where
  registered := called_step hs.registered h
  awaits := by
    intro _
    left
    apply List.count_pos_iff.mp
    have hwrites := deviceWrites_toggle h
    unfold deviceWrites at hwrites
    omega

theorem owed_flip {s s' : Tabs} {as : List Action} {sender : ModeSwitch} {isOn : Bool} (hs : s.Owed as)
    (h : s.step (.flip sender isOn) = some s') : s'.Owed (as ++ [.flip sender isOn]) where
  registered := called_step hs.registered h
  awaits := by
    intro hshown
    obtain ⟨_, hpending, hindicator⟩ := flip_frame h
    rw [hindicator] at hshown
    split at hshown
    . next hrejected =>
      -- The mode is fetched again by an observer that nobody has called.
      refine Or.inr ⟨s.observers.length, .initDataModeFirebase, ?_, trivial, ?_⟩
      . rw [observers_flip h hrejected]
        simp
      . intro hcalled
        cases called_concat hcalled with
        | inl hold =>
          have hlt := hs.registered _ hold
          omega
        | inr hnew =>
          obtain ⟨value, heq⟩ := hnew
          contradiction
    . apply awaits_step (hs.awaits hshown) h
      . exact hpending.mpr
      . intro k value heq
        contradiction

theorem owed_complete {s s' : Tabs} {as : List Action} {k : Nat} {error : Option String} (hs : s.Owed as)
    (h : s.step (.complete k error) = some s') : s'.Owed (as ++ [.complete k error]) where
  registered := called_step hs.registered h
  awaits := by
    intro hshown
    obtain ⟨request, hrequest, _, hpending, hindicator⟩ := complete_frame h
    rw [hindicator] at hshown
    split at hshown
    . contradiction
    . next hother =>
      apply awaits_step (hs.awaits hshown) h
      . intro hmem
        rw [hpending, List.mem_eraseIdx_iff_getElem?]
        obtain ⟨i, hi⟩ := List.getElem?_of_mem hmem
        refine ⟨i, ?_, hi⟩
        rintro rfl
        rw [hrequest] at hi
        exact hother (Option.some.inj hi)
      . intro j value heq
        contradiction

theorem owed_step {s s' : Tabs} {as : List Action} {a : Action} (hs : s.Owed as)
    (h : s.step a = some s') : s'.Owed (as ++ [a]) := by
  cases a with
  | event k value => exact owed_event hs h
  | toggle row isOn => exact owed_toggle hs h
  | flip sender isOn => exact owed_flip hs h
  | edit textField text =>
    have hframe : s'.isShown = s.isShown ∧ s'.pending = s.pending := by
      cases h
      exact ⟨rfl, rfl⟩
    refine ⟨called_step hs.registered h, ?_⟩
    intro hshown
    rw [hframe.1] at hshown
    apply awaits_step (hs.awaits hshown) h
    . rw [hframe.2]
      exact id
    . intro k value heq
      contradiction
  | complete k error => exact owed_complete hs h

theorem owed_start (texts : TextField → Str) : (start texts).Owed [] where
  registered := by
    rintro k ⟨value, hvalue⟩
    contradiction
  awaits := by
    intro _
    refine Or.inr ⟨0, .initDataFirebase, rfl, trivial, ?_⟩
    rintro ⟨value, hvalue⟩
    contradiction

end Tabs

end SmartGarden

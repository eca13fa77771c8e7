import SmartGarden.App.Screens
import SmartGarden.Lib.Work

/-!
This module contains how the household comes to rest: the deliveries and the answers of the server always
come to an end, and when they do every phone shows what Firebase stores.
-/

open Swift

namespace SmartGarden

namespace Household

variable {ι : Type}

/--
What the network, the server and the main queues of the phones do on their own. Nobody touches a phone,
and no device writes.
-/
def Action.Delivers : Action ι → Prop
  | .relaunch _ _ => False
  | .flip _ _ _ => False
  | .edit _ _ _ => False
  | .list (.workMode _ _) => False
  | .list (.toggle _ _ _) => False
  | .list (.put _) => False
  | .list _ => True
  | .modeEvent _ _ => True
  | .frameEvent _ _ => True
  | .mode a => a.Delivers
  | .frame a => a.Delivers

instance (a : Action ι) : Decidable a.Delivers :=
  match a with
  | .relaunch _ _ => inferInstanceAs (Decidable False)
  | .flip _ _ _ => inferInstanceAs (Decidable False)
  | .edit _ _ _ => inferInstanceAs (Decidable False)
  | .list (.workMode _ _) => inferInstanceAs (Decidable False)
  | .list (.toggle _ _ _) => inferInstanceAs (Decidable False)
  | .list (.event _ _) => inferInstanceAs (Decidable True)
  | .list (.receive _) => inferInstanceAs (Decidable True)
  | .list (.listen _) => inferInstanceAs (Decidable True)
  | .list (.put _) => inferInstanceAs (Decidable False)
  | .list (.accept _) => inferInstanceAs (Decidable True)
  | .list (.refuse _) => inferInstanceAs (Decidable True)
  | .modeEvent _ _ => inferInstanceAs (Decidable True)
  | .frameEvent _ _ => inferInstanceAs (Decidable True)
  | .mode a => inferInstanceAs (Decidable a.Delivers)
  | .frame a => inferInstanceAs (Decidable a.Delivers)

/--
Every observer of a phone at `CHEDO` is one of the two that the tabs register.
-/
def Known (s : Household ι) : Prop :=
  ∀ p, ∀ owner ∈ (s.phone p).modeOwners,
    owner = .initDataWorkModeFirebase ∨ owner = .initDataModeFirebase

theorem known_start (mode frame : Value) (word : Str) (texts : ι → TextField → Str)
    : (start mode frame word texts).Known := by
  intro p owner howner
  simpa [start, Phone.launch] using howner

section

variable [Fintype ι]

/--
A bound for the deliveries that are still to come. A phone that gets a mode may observe `TINHIEUDONGCO`
once more.
-/
def work (s : Household ι) : Nat :=
  2 * s.mode.remaining 0 + s.lists.word.remaining (s.mode.remaining 0) + s.frame.remaining 0

theorem work_frame {s t : Household ι} (hframe : t.frame.remaining 0 + 1 ≤ s.frame.remaining 0)
    (hmode : t.mode = s.mode) (hlists : t.lists = s.lists) : t.work < s.work := by
  unfold work
  rw [hmode, hlists]
  omega

theorem work_word {s t : Household ι}
    (hword : t.lists.word.remaining (s.mode.remaining 0) + 1
      ≤ s.lists.word.remaining (s.mode.remaining 0))
    (hmode : t.mode = s.mode) (hframe : t.frame = s.frame) : t.work < s.work := by
  unfold work
  rw [hmode, hframe]
  omega

end

section

variable [DecidableEq ι]

theorem known_update {s : Household ι} (h : s.Known) (p : ι) {phone : Phone}
    (hphone : ∀ owner ∈ phone.modeOwners,
      owner = .initDataWorkModeFirebase ∨ owner = .initDataModeFirebase)
    (q : ι)
    : ∀ owner ∈ (Function.update s.phone p phone q).modeOwners,
        owner = .initDataWorkModeFirebase ∨ owner = .initDataModeFirebase := by
  intro owner howner
  by_cases hq : q = p
  . subst hq
    rw [Function.update_self] at howner
    exact hphone owner howner
  . rw [Function.update_of_ne hq] at howner
    exact h q owner howner

theorem known_next {s : Household ι} (h : s.Known) (a : Action ι) : (machine.next s a).Known := by
  cases a with
  | relaunch p texts =>
    apply known_update h
    intro owner howner
    simpa [Phone.launch] using howner
  | flip p sender isOn =>
    apply known_update h
    intro owner howner
    cases List.mem_append.mp howner with
    | inl hold => exact h p owner hold
    | inr hnew =>
      obtain ⟨_, _, rfl⟩ := List.mem_map.mp hnew
      exact Or.inr rfl
  | edit p textField text => exact known_update h p (h p)
  | modeEvent p k =>
    dsimp only [machine, modeEvent]
    split
    . exact h
    . exact known_update h p (h p)
    . exact h
  | frameEvent p k =>
    dsimp only [machine, frameEvent]
    split
    . exact known_update h p (h p)
    . exact known_update h p (h p)
    . exact h
  | _ => exact h

theorem lt_length_queues {client : Observed Value} {k : Nat} (h : (client.event? k).isSome)
    : k < client.queues.length := by
  obtain ⟨value, hvalue⟩ := Option.isSome_iff_exists.mp h
  obtain ⟨_, hq, _⟩ := Option.bind_eq_some_iff.mp hvalue
  exact (List.getElem?_eq_some_iff.mp hq).1

/--
The two handlers of `CHEDO`, of which only that of the device list has an effect on its observers.
-/
theorem modeEvent_cases {s : Household ι} (h : s.Inv) (hknown : s.Known) {p : ι} {k : Nat}
    (hk : ((s.mode.client p).event? k).isSome)
    : (s.modeEvent p k).mode = s.mode.update p ((s.mode.client p).take k)
        ∧ (s.modeEvent p k).frame = s.frame
        ∧ ((s.modeEvent p k).lists.word = s.lists.word
          ∨ (s.modeEvent p k).lists.word = s.lists.word.update p (s.lists.word.client p).observe) := by
  obtain ⟨value, hvalue⟩ := Option.isSome_iff_exists.mp hk
  have hlt : k < (s.phone p).modeOwners.length := (h.mirrors p).mode.length ▸ lt_length_queues hk
  have howner := List.getElem?_eq_getElem hlt
  unfold modeEvent
  dsimp only
  rw [hvalue, howner]
  cases hknown p _ (List.getElem_mem hlt) with
  | inl hlist =>
    rw [hlist]
    refine ⟨rfl, rfl, ?_⟩
    obtain ⟨_, _, _, hword⟩ := Viewers.workMode_step h.lists p value
    dsimp only
    rw [hword]
    split
    . exact Or.inr rfl
    . exact Or.inl (s.lists.word.update_client p)
  | inr hsetting =>
    rw [hsetting]
    exact ⟨rfl, rfl, Or.inl rfl⟩

theorem frameEvent_cases {s : Household ι} (h : s.Inv) {p : ι} {k : Nat}
    (hk : ((s.frame.client p).event? k).isSome)
    : (s.frameEvent p k).frame = s.frame.update p ((s.frame.client p).take k)
        ∧ (s.frameEvent p k).mode = s.mode
        ∧ (s.frameEvent p k).lists = s.lists := by
  obtain ⟨value, hvalue⟩ := Option.isSome_iff_exists.mp hk
  have hlt : k < frameOwners.length := (h.mirrors p).frame.length ▸ lt_length_queues hk
  unfold frameEvent
  dsimp only
  rw [hvalue]
  match k, hlt with
  | 0, _ => exact ⟨rfl, rfl, rfl⟩
  | 1, _ => exact ⟨rfl, rfl, rfl⟩

variable [Fintype ι]

theorem work_mode {s t : Household ι} (hmode : t.mode.remaining 0 + 1 ≤ s.mode.remaining 0)
    (hframe : t.frame = s.frame)
    (hword : t.lists.word = s.lists.word
      ∨ ∃ p, t.lists.word = s.lists.word.update p (s.lists.word.client p).observe)
    : t.work < s.work := by
  have hle : t.lists.word.remaining (t.mode.remaining 0)
      ≤ s.lists.word.remaining (s.mode.remaining 0) + 1 := by
    rcases hword with heq | ⟨p, heq⟩
    . rw [heq]
      have hmono := Clients.remaining_mono (by omega : t.mode.remaining 0 ≤ s.mode.remaining 0) s.lists.word
      omega
    . rw [heq]
      have hobserve := Clients.remaining_observe (t.mode.remaining 0) s.lists.word p
      have hmono := Clients.remaining_mono hmode s.lists.word
      omega
  unfold work
  rw [hframe]
  omega

theorem work_next {s : Household ι} (h : s.Inv) (hknown : s.Known) {a : Action ι} (ha : a.Delivers)
    (he : machine.enabled s a) : (machine.next s a).work < s.work := by
  cases a with
  | relaunch p texts => contradiction
  | flip p sender isOn => contradiction
  | edit p textField text => contradiction
  | list a =>
    have hnext : ∀ {b : Clients.Action ι Str}, b.Delivers → s.lists.word.enabled b
        → (Viewers.machine.next s.lists a).word = s.lists.word.next b
        → (machine.next s (.list a)).work < s.work := by
      intro b hb heb hword
      refine work_word ?_ rfl rfl
      dsimp only [machine]
      rw [hword]
      exact Clients.remaining_next _ hb heb
    cases a with
    | workMode p value => contradiction
    | toggle p row isOn => contradiction
    | event p k =>
      refine work_word ?_ rfl rfl
      dsimp only [machine, Viewers.machine]
      obtain ⟨_, _, _, _, _, hword⟩ := Viewers.event_step h.lists he
      rw [hword]
      exact Clients.remaining_take _ he
    | receive p => exact hnext (b := .receive p) trivial he rfl
    | listen p => exact hnext (b := .listen p) trivial he rfl
    | put data => contradiction
    | accept p => exact hnext (b := .accept p) trivial he rfl
    | refuse p => exact hnext (b := .refuse p) trivial he rfl
  | modeEvent p k =>
    obtain ⟨hmode, hframe, hword⟩ := modeEvent_cases h hknown he
    apply work_mode _ hframe (hword.imp_right fun heq => ⟨p, heq⟩)
    rw [hmode]
    exact Clients.remaining_take 0 he
  | frameEvent p k =>
    obtain ⟨hframe, hmode, hlists⟩ := frameEvent_cases h he
    apply work_frame _ hmode hlists
    rw [hframe]
    exact Clients.remaining_take 0 he
  | mode a => exact work_mode (Clients.remaining_next 0 ha he) rfl (Or.inl rfl)
  | frame a => exact work_frame (Clients.remaining_next 0 ha he) rfl rfl

end

section

variable [DecidableEq ι] [Fintype ι]

end

end Household

end SmartGarden

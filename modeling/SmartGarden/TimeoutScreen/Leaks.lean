import SmartGarden.TimeoutScreen.Press
import SmartGarden.TimeoutScreen.Progress

/-!
This module contains the timers that a timeout screen loses track of, and the firing with which the timer
that it still refers to ends.
-/

open Swift

namespace SmartGarden

namespace Countdown

variable {screen : TimeoutScreen} {dateFormatter : DateFormatter}

def Refers (s : Countdown) : Prop :=
  ∃ k ∈ s.live, s.vc.timer = some k

/--
The live timers that `timer` does not refer to.
-/
def leaked (s : Countdown) : List Nat :=
  s.live.filter fun k => some k ≠ s.vc.timer

def PressedRunning (s : Countdown) (a : Action) : Prop :=
  IsPress a ∧ s.Refers

instance (s : Countdown) : Decidable s.Refers :=
  inferInstanceAs (Decidable (∃ k ∈ s.live, s.vc.timer = some k))

instance (a : Action) : Decidable (IsPress a) :=
  match a with
  | .press _ _ _ => inferInstanceAs (Decidable True)
  | .edit _ | .fire _ _ => inferInstanceAs (Decidable False)

instance (s : Countdown) (a : Action) : Decidable (PressedRunning s a) :=
  inferInstanceAs (Decidable (IsPress a ∧ s.Refers))

structure Distinct (s : Countdown) : Prop where
  numbered : s.Numbered
  nodup : s.live.Nodup

theorem fire_live (s : Countdown) (now : Rat)
    : (s.fire now).live = if 0 < s.vc.timeLeft then s.live else s.leaked := by
  unfold fire TimeoutViewController.updateTime
  split
  . next vc invalidated heq =>
    split at heq
    . next hleft =>
      cases heq
      simp [hleft]
    . next hleft =>
      cases heq
      simp [hleft, leaked]

theorem fire_timer (s : Countdown) (now : Rat) : (s.fire now).vc.timer = s.vc.timer := by
  unfold fire TimeoutViewController.updateTime
  split
  . next vc invalidated heq =>
    split at heq <;> cases heq <;> rfl

theorem press_live {s : Countdown} {now later last : Rat}
    (he : (machine screen dateFormatter).enabled s (.press now later last))
    : (s.press screen dateFormatter now later last).live = s.live ++ [s.scheduled]
        ∧ (s.press screen dateFormatter now later last).vc.timer = some s.scheduled
        ∧ (s.press screen dateFormatter now later last).scheduled = s.scheduled + 1 := by
  obtain ⟨⟨vc, effects⟩, hpress⟩ := Option.isSome_iff_exists.mp he.2.2.2
  have htimer := (TimeoutViewController.touchUpInsideConfigButton_frame hpress).2.2
  unfold press
  rw [hpress]
  exact ⟨rfl, htimer, rfl⟩

theorem leaked_subset (s : Countdown) : s.leaked ⊆ s.live :=
  List.filter_subset_self _

theorem leaked_fire (s : Countdown) (now : Rat) : (s.fire now).leaked = s.leaked := by
  unfold leaked
  rw [fire_live, fire_timer]
  split
  . rfl
  . unfold leaked
    rw [List.filter_filter]
    simp

theorem leaked_press {s : Countdown} (h : s.Distinct) {now later last : Rat}
    (he : (machine screen dateFormatter).enabled s (.press now later last))
    : (s.press screen dateFormatter now later last).leaked = s.live := by
  obtain ⟨hlive, htimer, _⟩ := press_live he
  unfold leaked
  rw [hlive, htimer, List.filter_append]
  have hold : s.live.filter (fun k => some k ≠ some s.scheduled) = s.live := by
    rw [List.filter_eq_self]
    intro k hk
    have hlt := h.numbered k hk
    simp
    omega
  rw [hold]
  simp

theorem leaked_of_refers {s : Countdown} (h : s.Distinct) {timer : Nat}
    (htimer : s.vc.timer = some timer) : s.leaked = s.live.erase timer := by
  unfold leaked
  rw [htimer, h.nodup.erase_eq_filter]
  apply List.filter_congr
  intro k _
  by_cases hk : k = timer <;> simp [hk]

theorem leaked_of_not_refers {s : Countdown} (h : ¬ s.Refers) : s.leaked = s.live := by
  unfold leaked
  rw [List.filter_eq_self]
  intro k hk
  simp only [decide_eq_true_eq]
  intro htimer
  exact h ⟨k, hk, htimer.symm⟩

theorem length_live {s : Countdown} (h : s.Distinct)
    : s.live.length = s.leaked.length + if s.Refers then 1 else 0 := by
  split
  . next hrefers =>
    obtain ⟨timer, hmem, htimer⟩ := hrefers
    have hpos := List.length_pos_of_mem hmem
    rw [leaked_of_refers h htimer, List.length_erase_of_mem hmem]
    omega
  . next hrefers =>
    rw [leaked_of_not_refers hrefers]
    rfl

theorem distinct_next {s : Countdown} (h : s.Distinct) {a : Action}
    (he : (machine screen dateFormatter).enabled s a)
    : ((machine screen dateFormatter).next s a).Distinct where
  numbered := numbered_next h.numbered a
  nodup := by
    cases a with
    | edit text => exact h.nodup
    | press now later last =>
      dsimp only [machine]
      rw [(press_live he).1]
      apply List.nodup_append.mpr
      refine ⟨h.nodup, by simp, ?_⟩
      intro k hk other hother
      rw [List.mem_singleton.mp hother]
      have hlt := h.numbered k hk
      omega
    | fire k now =>
      dsimp only [machine]
      rw [fire_live]
      split
      . exact h.nodup
      . exact h.nodup.sublist List.filter_sublist

theorem leaked_next {s : Countdown} (h : s.Distinct) {a : Action}
    (he : (machine screen dateFormatter).enabled s a)
    : s.leaked ⊆ ((machine screen dateFormatter).next s a).leaked
        ∧ ((machine screen dateFormatter).next s a).leaked.length
          = s.leaked.length + if PressedRunning s a then 1 else 0 := by
  cases a with
  | edit text =>
    have hnot : ¬ PressedRunning s (.edit text) := fun hpressed => hpressed.1
    rw [if_neg hnot]
    exact ⟨List.Subset.refl _, rfl⟩
  | press now later last =>
    dsimp only [machine]
    rw [leaked_press h he, length_live h]
    refine ⟨s.leaked_subset, ?_⟩
    simp [PressedRunning, IsPress]
  | fire k now =>
    have hnot : ¬ PressedRunning s (.fire k now) := fun hpressed => hpressed.1
    dsimp only [machine]
    rw [leaked_fire, if_neg hnot]
    exact ⟨List.Subset.refl _, rfl⟩

theorem leaked_run {s : Countdown} (h : s.Distinct) {as : List Action}
    (hv : (machine screen dateFormatter).Valid s as)
    : s.leaked ⊆ ((machine screen dateFormatter).run s as).leaked := by
  induction as generalizing s with
  | nil => apply List.Subset.refl
  | cons a as ih =>
    have hnext := (leaked_next h hv.1).1
    exact List.Subset.trans hnext (ih (distinct_next h hv.1) hv.2)

theorem distinct_start (now : Rat) : Distinct { now := now } :=
  ⟨by simp [Numbered], List.nodup_nil⟩

theorem distinct_run {now : Rat} {as : List Action}
    (hv : (machine screen dateFormatter).Valid { now := now } as)
    : ((machine screen dateFormatter).run { now := now } as).Distinct := by
  apply Machine.run_invariant _ (distinct_start now) hv
  intro s a h he
  exact distinct_next h he

theorem length_leaked_run {now : Rat} {as : List Action}
    (hv : (machine screen dateFormatter).Valid { now := now } as)
    : ((machine screen dateFormatter).run { now := now } as).leaked.length
        =
      (machine screen dateFormatter).count PressedRunning { now := now } as := by
  have hcount := Machine.eq_add_count (P := Distinct) (f := fun s => s.leaked.length)
    (fun _ _ h he => distinct_next h he) (fun _ _ h he => (leaked_next h he).2) (distinct_start now) hv
  rw [hcount]
  exact Nat.zero_add _

/--
Every press while the timer that the screen refers to is running loses track of one more timer, and such a
timer is never invalidated.
-/
theorem leaked_forever {now : Rat} {as bs : List Action}
    (hv : (machine screen dateFormatter).Valid { now := now } (as ++ bs))
    : ((machine screen dateFormatter).run { now := now } as).leaked.length
          = (machine screen dateFormatter).count PressedRunning { now := now } as
        ∧ ((machine screen dateFormatter).run { now := now } as).leaked
          ⊆ ((machine screen dateFormatter).run { now := now } (as ++ bs)).live := by
  rw [Machine.valid_append] at hv
  refine ⟨length_leaked_run hv.1, ?_⟩
  rw [Machine.run_append]
  exact List.Subset.trans (leaked_run (distinct_run hv.1) hv.2) (leaked_subset _)

theorem leaked_forever_twice
    : ((machine lampScreen .utc).run { now := 0 }
          [.edit ['1', '0', ':', '0', '1', ':', '0', '0'], .press 36000 36000 36000,
            .press 36010 36010 36010, .press 36020 36020 36020]).leaked.length = 2
        ∧ ((machine lampScreen .utc).run { now := 0 }
            [.edit ['1', '0', ':', '0', '1', ':', '0', '0'], .press 36000 36000 36000,
              .press 36010 36010 36010, .press 36020 36020 36020]).leaked
          ⊆ ((machine lampScreen .utc).run { now := 0 }
              ([.edit ['1', '0', ':', '0', '1', ':', '0', '0'], .press 36000 36000 36000,
                .press 36010 36010 36010, .press 36020 36020 36020]
                ++ [.fire 2 36060, .fire 0 36061, .fire 1 36062])).live := by
  have hleaked := @leaked_forever lampScreen .utc 0
    [.edit ['1', '0', ':', '0', '1', ':', '0', '0'], .press 36000 36000 36000, .press 36010 36010 36010,
      .press 36020 36020 36020]
    [.fire 2 36060, .fire 0 36061, .fire 1 36062] (by decide +kernel)
  exact ⟨hleaked.1.trans (by decide +kernel), hleaked.2⟩

/--
A firing that finds the end time reached.
-/
def Late (endTime : Rat) (_ : Countdown) (a : Action) : Prop :=
  match a with
  | .fire _ now => endTime ≤ now
  | _ => False

instance (endTime : Rat) (s : Countdown) (a : Action) : Decidable (Late endTime s a) :=
  match a with
  | .fire _ now => inferInstanceAs (Decidable (endTime ≤ now))
  | .edit _ | .press _ _ _ => inferInstanceAs (Decidable False)

theorem not_refers_leaked (s : Countdown) {k : Nat} (hk : k ∈ s.leaked) : s.vc.timer ≠ some k := by
  have hleaked := (List.mem_filter.mp hk).2
  simp only [decide_eq_true_eq] at hleaked
  exact fun htimer => hleaked htimer.symm

theorem refers_fire_iff (s : Countdown) (now : Rat)
    : (s.fire now).Refers ↔ 0 < s.vc.timeLeft ∧ s.Refers := by
  unfold Refers
  rw [fire_live, fire_timer]
  split
  . next hleft => simp [hleft]
  . next hleft =>
    constructor
    . rintro ⟨k, hk, htimer⟩
      exact absurd htimer (s.not_refers_leaked hk)
    . rintro ⟨hleft', _⟩
      contradiction

theorem not_refers_run {s : Countdown} (h : ¬ s.Refers) {as : List Action}
    (hpress : ∀ a ∈ as, ¬ IsPress a) : ¬ ((machine screen dateFormatter).run s as).Refers := by
  induction as generalizing s with
  | nil => exact h
  | cons a as ih =>
    rw [Machine.run_cons]
    have hrest : ∀ b ∈ as, ¬ IsPress b := fun b hb => hpress b (List.mem_cons_of_mem a hb)
    refine ih ?_ hrest
    cases a with
    | edit text => exact h
    | press now later last => exact absurd trivial (hpress _ List.mem_cons_self)
    | fire k now =>
      intro hrefers
      exact h ((s.refers_fire_iff now).mp hrefers).2

/--
The end time is reached and the timer referred to is running: the next firing is its last.
-/
theorem refers_run_of_reached {s : Countdown} (hrefers : s.Refers) (hleft : ¬ 0 < s.vc.timeLeft)
    {endTime : Rat} (hnow : endTime ≤ s.now) {as : List Action}
    (hv : (machine screen dateFormatter).Valid s as) (hpress : ∀ a ∈ as, ¬ IsPress a)
    : ((machine screen dateFormatter).run s as).Refers
        ↔
      (machine screen dateFormatter).count (Late endTime) s as = 0 := by
  induction as generalizing s with
  | nil => exact iff_of_true hrefers rfl
  | cons a as ih =>
    have hrest : ∀ b ∈ as, ¬ IsPress b := fun b hb => hpress b (List.mem_cons_of_mem a hb)
    rw [Machine.run_cons, Machine.count_cons]
    cases a with
    | edit text =>
      have hlate : ¬ Late endTime s (.edit text) := fun hlate => hlate
      rw [if_neg hlate, Nat.zero_add]
      exact ih hrefers hleft hnow hv.2 hrest
    | press now later last => exact absurd trivial (hpress _ List.mem_cons_self)
    | fire k now =>
      have hlate : Late endTime s (.fire k now) := le_trans hnow hv.1.2
      rw [if_pos hlate]
      refine iff_of_false ?_ (by omega)
      apply not_refers_run _ hrest
      intro hrefers'
      exact hleft ((s.refers_fire_iff now).mp hrefers').1

theorem refers_run_iff {s : Countdown} (hrefers : s.Refers) (hleft : 0 < s.vc.timeLeft)
    {endTime : Rat} (hend : s.vc.endTime = some endTime) {as : List Action}
    (hv : (machine screen dateFormatter).Valid s as) (hpress : ∀ a ∈ as, ¬ IsPress a)
    : ((machine screen dateFormatter).run s as).Refers
        ↔
      (machine screen dateFormatter).count (Late endTime) s as ≤ 1 := by
  induction as generalizing s with
  | nil => exact iff_of_true hrefers (Nat.zero_le 1)
  | cons a as ih =>
    have hrest : ∀ b ∈ as, ¬ IsPress b := fun b hb => hpress b (List.mem_cons_of_mem a hb)
    rw [Machine.run_cons, Machine.count_cons]
    cases a with
    | edit text =>
      have hlate : ¬ Late endTime s (.edit text) := fun hlate => hlate
      rw [if_neg hlate, Nat.zero_add]
      exact ih hrefers hleft hend hv.2 hrest
    | press now later last => exact absurd trivial (hpress _ List.mem_cons_self)
    | fire k now =>
      have hvc := fire_eq_of_timeLeft hleft hend now
      have hrefers' : (s.fire now).Refers := (s.refers_fire_iff now).mpr ⟨hleft, hrefers⟩
      by_cases hreached : endTime ≤ now
      . have hlate : Late endTime s (.fire k now) := hreached
        have hleft' : ¬ 0 < (s.fire now).vc.timeLeft := by
          rw [hvc]
          dsimp only
          linarith
        have hreached' := refers_run_of_reached hrefers' hleft' hreached hv.2 hrest
        dsimp only [machine] at hreached' ⊢
        rw [if_pos hlate, hreached']
        omega
      . have hlate : ¬ Late endTime s (.fire k now) := hreached
        have hleft' : 0 < (s.fire now).vc.timeLeft := by
          rw [hvc]
          dsimp only
          linarith
        rw [if_neg hlate, Nat.zero_add]
        refine ih hrefers' hleft' ?_ hv.2 hrest
        show (s.fire now).vc.endTime = some endTime
        rw [hvc]
        exact hend

theorem refers_press {s : Countdown} {now later last : Rat}
    (he : (machine screen dateFormatter).enabled s (.press now later last))
    : (s.press screen dateFormatter now later last).Refers := by
  obtain ⟨hlive, htimer, _⟩ := press_live he
  refine ⟨s.scheduled, ?_, htimer⟩
  rw [hlive]
  exact List.mem_append_right _ (List.mem_singleton_self _)

theorem press_endTime {s : Countdown} {now later last : Rat}
    (he : (machine screen dateFormatter).enabled s (.press now later last))
    : (s.press screen dateFormatter now later last).vc.endTime
        =
      some (last + (s.press screen dateFormatter now later last).vc.timeLeft) := by
  obtain ⟨⟨vc, effects⟩, hpress⟩ := Option.isSome_iff_exists.mp he.2.2.2
  unfold press
  rw [hpress]
  exact (TimeoutViewController.touchUpInsideConfigButton_frame hpress).2.1

theorem leaked_run_of_not_press {s : Countdown} {as : List Action} (hpress : ∀ a ∈ as, ¬ IsPress a)
    : ((machine screen dateFormatter).run s as).leaked = s.leaked := by
  induction as generalizing s with
  | nil => rfl
  | cons a as ih =>
    have hrest : ∀ b ∈ as, ¬ IsPress b := fun b hb => hpress b (List.mem_cons_of_mem a hb)
    rw [Machine.run_cons, ih hrest]
    cases a with
    | edit text => rfl
    | press now later last => exact absurd trivial (hpress _ List.mem_cons_self)
    | fire k now => apply leaked_fire

/--
The timer of an accepted press runs until the second firing that finds the end time reached, whichever
timers fire.
-/
theorem refers_run_press_iff {s : Countdown} {now later last : Rat}
    (he : (machine screen dateFormatter).enabled s (.press now later last))
    (hleft : 0 < (s.press screen dateFormatter now later last).vc.timeLeft) {bs : List Action}
    (hv : (machine screen dateFormatter).Valid (s.press screen dateFormatter now later last) bs)
    (hpress : ∀ b ∈ bs, ¬ IsPress b)
    : ((machine screen dateFormatter).run (s.press screen dateFormatter now later last) bs).Refers
        ↔
      (machine screen dateFormatter).count
        (Late (last + (s.press screen dateFormatter now later last).vc.timeLeft))
        (s.press screen dateFormatter now later last) bs ≤ 1 :=
  refers_run_iff (refers_press he) hleft (press_endTime he) hv hpress

/--
A scheduled timer keeps its screen in memory. After an accepted press, and until the next one, the timers
are gone exactly when the end time was found reached twice and no press was made while the timer of an
earlier one was running.
-/
theorem released_iff {start now later last : Rat} {as bs : List Action}
    (hv : (machine screen dateFormatter).Valid { now := start } (as ++ [.press now later last] ++ bs))
    (hleft : 0 < ((machine screen dateFormatter).run { now := start }
      (as ++ [.press now later last])).vc.timeLeft)
    (hpress : ∀ b ∈ bs, ¬ IsPress b)
    : let s := (machine screen dateFormatter).run { now := start } (as ++ [.press now later last])
      ((machine screen dateFormatter).run s bs).live = []
        ↔
      (machine screen dateFormatter).count PressedRunning { now := start } (as ++ [.press now later last]) = 0
        ∧ 2 ≤ (machine screen dateFormatter).count (Late (last + s.vc.timeLeft)) s bs := by
  intro s
  rw [Machine.valid_append] at hv
  obtain ⟨hpressed, hbs⟩ := hv
  have hdistinct : ((machine screen dateFormatter).run s bs).Distinct := by
    apply Machine.run_invariant _ (distinct_run hpressed) hbs
    intro s a h he
    exact distinct_next h he
  have hlength := length_live hdistinct
  rw [leaked_run_of_not_press hpress, length_leaked_run hpressed] at hlength
  have hrefers : ((machine screen dateFormatter).run s bs).Refers
      ↔ (machine screen dateFormatter).count (Late (last + s.vc.timeLeft)) s bs ≤ 1 := by
    have hs : s = ((machine screen dateFormatter).run { now := start } as).press screen dateFormatter
        now later last := Machine.run_append _ _ _ _
    rw [Machine.valid_append] at hpressed
    have hiff := @refers_run_press_iff screen dateFormatter _ now later last hpressed.2.1
    rw [← hs] at hiff
    exact hiff hleft hbs hpress
  rw [← List.length_eq_zero_iff, hlength]
  split
  . next hrunning =>
    have hlate := hrefers.mp hrunning
    omega
  . next hstopped =>
    rw [hrefers] at hstopped
    omega

theorem released_iff_fan
    : let s := (machine fanScreen .utc).run { now := 0 }
        ([.edit ['1', '0', ':', '0', '1', ':', '0', '0']] ++ [.press 36000 36000 36000])
      ((machine fanScreen .utc).run s [.fire 0 36059, .fire 0 36060, .edit [], .fire 0 36061]).live = []
        ↔
      (machine fanScreen .utc).count PressedRunning { now := 0 }
            ([.edit ['1', '0', ':', '0', '1', ':', '0', '0']] ++ [.press 36000 36000 36000]) = 0
        ∧ 2 ≤ (machine fanScreen .utc).count (Late (36000 + s.vc.timeLeft)) s
          [.fire 0 36059, .fire 0 36060, .edit [], .fire 0 36061] :=
  @released_iff fanScreen .utc 0 36000 36000 36000 [.edit ['1', '0', ':', '0', '1', ':', '0', '0']]
    [.fire 0 36059, .fire 0 36060, .edit [], .fire 0 36061] (by decide +kernel) (by decide +kernel)
    (by decide +kernel)

end Countdown

end SmartGarden

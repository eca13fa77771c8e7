import SmartGarden.Lib.Machine
import SmartGarden.ProgressHUD.Lemmas

/-!
This module contains the runs of the indicator: the calls that wait in the main queue, the timers and the
animations, in any order. A call that comes while the indicator is fading out is lost.
-/

open Swift

namespace SmartGarden

open ProgressHUD (Call)

structure Overlay (Image : Type) where
  hud : ProgressHUD Image
  queue : List (Call Image) := []
  -- The last call whose block has run, and the arguments of the last setup.
  last : Option (Call Image) := none
  latest : Option (Setup Image) := none

/--
The call shows the indicator until it is dismissed.
-/
def ProgressHUD.Call.keeps : Call Image → Bool
  | .show _ _ => true
  | .showProgress _ _ _ => true
  | _ => false

namespace Overlay

variable {Image : Type}

inductive Action (Image : Type) where
  | call (call : Call Image)
  -- The main queue runs its first block.
  | execute
  | fire (k : Nat)
  -- A hide animation ends.
  | finish

def execute (s : Overlay Image) : Overlay Image :=
  match s.queue with
  | [] => s
  | call :: queue =>
    { hud := s.hud.perform call
      queue := queue
      last := some call
      latest := (call.setup? s.hud).or s.latest }

def machine : Machine (Overlay Image) (Action Image) where
  enabled s a :=
    match a with
    | .call _ => True
    | .execute => 0 < s.queue.length
    | .fire k => k ∈ s.hud.live
    | .finish => 0 < s.hud.hides
  next s a :=
    match a with
    | .call call => { s with queue := s.queue ++ [call] }
    | .execute => s.execute
    | .fire k => { s with hud := s.hud.fired k }
    | .finish => { s with hud := s.hud.hidden }

instance (s : Overlay Image) (a : Action Image) : Decidable (machine.enabled s a) :=
  match a with
  | .call _ => inferInstanceAs (Decidable True)
  | .execute => inferInstanceAs (Decidable (0 < s.queue.length))
  | .fire k => inferInstanceAs (Decidable (k ∈ s.hud.live))
  | .finish => inferInstanceAs (Decidable (0 < s.hud.hides))

def start (imageSuccess imageError : Image) : Overlay Image where
  hud := { imageSuccess, imageError }

def UpOrDown (s : Overlay Image) : Prop :=
  s.hud.Down ∨ ∃ args, s.latest = some args ∧ s.hud.Up args

theorem upOrDown_start (imageSuccess imageError : Image)
    : (start imageSuccess imageError).UpOrDown := by
  left
  constructor
  all_goals rfl

theorem timer_of_live {s : Overlay Image} (h : s.UpOrDown) : ∀ k ∈ s.hud.live, s.hud.timer = some k := by
  intro k hk
  obtain hdown | ⟨args, _, hup⟩ := h
  . rw [hdown.live] at hk
    contradiction
  . exact (hup.live k hk).2.1

theorem upOrDown_execute {s : Overlay Image} (h : s.UpOrDown) : s.execute.UpOrDown := by
  unfold execute
  split
  . exact h
  . next call queue _ =>
    unfold ProgressHUD.perform
    cases hsetup : call.setup? s.hud with
    | some args =>
      have hargs := ProgressHUD.content?_setup? hsetup
      right
      refine ⟨args, rfl, ?_⟩
      obtain hdown | ⟨before, _, hup⟩ := h
      . exact ProgressHUD.up_setup_down hdown hargs
      . exact ProgressHUD.up_setup hup hargs
    | none =>
      obtain hdown | ⟨args, hlatest, hup⟩ := h
      . left
        dsimp only
        rw [ProgressHUD.hudHide_down hdown]
        exact hdown
      . right
        exact ⟨args, hlatest, ProgressHUD.up_hudHide hup⟩

theorem upOrDown_next {s : Overlay Image} {a : Action Image} (h : s.UpOrDown)
    (he : machine.enabled s a) : (machine.next s a).UpOrDown := by
  cases a with
  | call call => exact h
  | execute => exact upOrDown_execute h
  | fire k =>
    have hk : k ∈ s.hud.live := he
    obtain hdown | ⟨args, hlatest, hup⟩ := h
    . rw [hdown.live] at hk
      contradiction
    . right
      exact ⟨args, hlatest, ProgressHUD.up_fired hup k⟩
  | finish =>
    left
    exact ProgressHUD.down_hidden (timer_of_live h)

/--
In every state the indicator either is gone, or shows the arguments of the last setup.
-/
theorem upOrDown_run {imageSuccess imageError : Image} {as : List (Action Image)}
    (hv : machine.Valid (start imageSuccess imageError) as)
    : (machine.run (start imageSuccess imageError) as).UpOrDown := by
  apply Machine.run_invariant (P := UpOrDown)
  . intro s a hs he
    exact upOrDown_next hs he
  . exact upOrDown_start imageSuccess imageError
  . exact hv

theorem upOrDown_run_success
    : (machine.run (start 'v' 'x') [.call (.show none false), .call (.showSuccess (some ['o', 'k']) none true),
        .execute, .execute, .fire 1, .finish]).UpOrDown :=
  upOrDown_run (by decide)

/--
The last call leaves the indicator up.
-/
def Kept (s : Overlay Image) : Prop :=
  s.last.any Call.keeps = true

instance (s : Overlay Image) : Decidable s.Kept :=
  inferInstanceAs (Decidable (s.last.any Call.keeps = true))

/--
An indicator that is not kept is on its way off.
-/
structure Driven (s : Overlay Image) : Prop where
  leaving : ¬ s.Kept → s.hud.alpha = 1 → 0 < s.hud.hides ∨ s.hud.live ≠ []
  kept : s.Kept → s.hud.live = []

theorem hide_eq {hud : ProgressHUD Image} {call : Call Image} {args : Setup Image}
    (h : call.setup? hud = some args) : args.hide = !call.keeps := by
  cases call with
  | dismiss => contradiction
  | _ =>
    cases h
    rfl

theorem keeps_dismiss {hud : ProgressHUD Image} {call : Call Image} (h : call.setup? hud = none)
    : call.keeps = false := by
  cases call with
  | dismiss => rfl
  | _ => contradiction

theorem hudHide_hides {hud : ProgressHUD Image} (h : hud.hudHide.alpha = 1) : 0 < hud.hudHide.hides := by
  unfold ProgressHUD.hudHide at h ⊢
  split
  . exact Nat.succ_pos hud.hides
  . next halpha =>
    rw [if_neg halpha] at h
    contradiction

theorem driven_execute {s : Overlay Image} (htimer : ∀ k ∈ s.hud.live, s.hud.timer = some k)
    (h : s.Driven) : s.execute.Driven := by
  unfold execute
  split
  . exact h
  . next call queue _ =>
    unfold ProgressHUD.perform
    cases hsetup : call.setup? s.hud with
    | some args =>
      have hhide := hide_eq hsetup
      obtain ⟨_, _, _, _, hframe⟩ := ProgressHUD.setup_frame _ htimer args
      dsimp only
      rw [hframe]
      constructor
      . intro hkept _
        have hkeeps : call.keeps = false := by simpa [Kept] using hkept
        simp [hhide, hkeeps]
      . intro hkept
        have hkeeps : call.keeps = true := hkept
        simp [hhide, hkeeps]
    | none =>
      have hkeeps := keeps_dismiss hsetup
      constructor
      . intro _ halpha
        left
        exact hudHide_hides halpha
      . intro hkept
        have hkeeps' : call.keeps = true := hkept
        rw [hkeeps] at hkeeps'
        contradiction

theorem driven_next {s : Overlay Image} {a : Action Image} (hs : s.UpOrDown) (h : s.Driven)
    (he : machine.enabled s a) : (machine.next s a).Driven := by
  cases a with
  | call call => exact ⟨h.leaving, h.kept⟩
  | execute => exact driven_execute (timer_of_live hs) h
  | fire k =>
    have hk : k ∈ s.hud.live := he
    constructor
    . intro _ halpha
      left
      exact hudHide_hides halpha
    . intro hkept
      rw [h.kept hkept] at hk
      contradiction
  | finish =>
    have hdown := ProgressHUD.down_hidden (timer_of_live hs)
    constructor
    . intro _ halpha
      have halpha' := hdown.alpha
      rw [show s.hud.hidden.alpha = 1 from halpha] at halpha'
      contradiction
    . intro _
      exact hdown.live

structure Inv (s : Overlay Image) : Prop where
  upOrDown : s.UpOrDown
  driven : s.Driven

theorem inv_start (imageSuccess imageError : Image) : (start imageSuccess imageError).Inv := by
  refine ⟨upOrDown_start imageSuccess imageError, ?_, ?_⟩
  . intro _ halpha
    contradiction
  . intro hkept
    contradiction

theorem inv_next {s : Overlay Image} {a : Action Image} (h : s.Inv) (he : machine.enabled s a)
    : (machine.next s a).Inv :=
  ⟨upOrDown_next h.upOrDown he, driven_next h.upOrDown h.driven he⟩

/--
No code of the app makes a call: only the main queue, the timers and the animations go on.
-/
def Action.internal : Action Image → Bool
  | .call _ => false
  | _ => true

/--
A bound for the blocks, timers and animations to come before the indicator is at rest. A block schedules at
most one timer or starts at most one animation.
-/
def work (s : Overlay Image) : Nat :=
  4 * s.queue.length + 2 * s.hud.live.length + s.hud.hides

theorem live_le_one {s : Overlay Image} (h : s.UpOrDown) : s.hud.live.length ≤ 1 := by
  obtain hdown | ⟨_, _, hup⟩ := h
  . rw [hdown.live]
    exact Nat.zero_le 1
  . exact hup.one

theorem hides_perform {hud : ProgressHUD Image} (h : ∀ k ∈ hud.live, hud.timer = some k)
    (call : Call Image) : (hud.perform call).hides ≤ hud.hides + 1 := by
  unfold ProgressHUD.perform
  cases call.setup? hud with
  | some args =>
    obtain ⟨_, _, _, _, hframe⟩ := ProgressHUD.setup_frame hud h args
    dsimp only
    rw [hframe]
    exact Nat.le_succ _
  | none =>
    dsimp only
    unfold ProgressHUD.hudHide
    split
    . exact Nat.le_refl _
    . exact Nat.le_succ _

theorem work_execute {s : Overlay Image} (h : s.UpOrDown) (hqueue : 0 < s.queue.length)
    : s.execute.work < s.work := by
  have hlive := live_le_one (upOrDown_execute h)
  unfold execute at hlive ⊢
  cases hcons : s.queue with
  | nil =>
    rw [hcons] at hqueue
    contradiction
  | cons call queue =>
    have hhides := hides_perform (timer_of_live h) call
    rw [hcons] at hlive
    unfold work
    rw [hcons, List.length_cons]
    dsimp only at hlive ⊢
    omega

theorem work_next {s : Overlay Image} {a : Action Image} (h : s.Inv) (he : machine.enabled s a)
    (ha : a.internal) : (machine.next s a).work < s.work := by
  cases a with
  | call call => contradiction
  | execute => exact work_execute h.upOrDown he
  | fire k =>
    have hk : k ∈ s.hud.live := he
    obtain hdown | ⟨args, _, hup⟩ := h.upOrDown
    . rw [hdown.live] at hk
      contradiction
    . have hlength := List.length_erase_of_mem hk
      have hpos := List.length_pos_of_mem hk
      simp [machine, work, ProgressHUD.fired, ProgressHUD.hudHide, hup.alpha, hlength]
      omega
  | finish =>
    have hlive := (ProgressHUD.down_hidden (timer_of_live h.upOrDown)).live
    have hhides : s.hud.hidden.hides = s.hud.hides - 1 := rfl
    have hpos : 0 < s.hud.hides := he
    simp [machine, work, hlive, hhides]
    omega

/--
No timer and no animation is under way.
-/
def AtRest (s : Overlay Image) : Prop :=
  s.hud.live = [] ∧ s.hud.hides = 0

instance (s : Overlay Image) : Decidable s.AtRest :=
  inferInstanceAs (Decidable (s.hud.live = [] ∧ s.hud.hides = 0))

theorem not_kept_down {s : Overlay Image} (h : s.Inv) (hrest : s.AtRest) (hkept : ¬ s.Kept)
    : s.hud.Down := by
  obtain hdown | ⟨args, _, hup⟩ := h.upOrDown
  . exact hdown
  . exfalso
    cases h.driven.leaving hkept hup.alpha with
    | inl hhides =>
      rw [hrest.2] at hhides
      contradiction
    | inr hlive => exact hlive hrest.1

/--
Without further calls, the indicator comes to rest after at most `work` blocks, timers and animations, and
unless the last call keeps it up, it is gone by then.
-/
theorem rests {imageSuccess imageError : Image} {as bs : List (Action Image)}
    (hv : machine.Valid (start imageSuccess imageError) (as ++ bs)) (hbs : ∀ b ∈ bs, b.internal)
    : bs.length ≤ (machine.run (start imageSuccess imageError) as).work
        ∧ ((machine.run (start imageSuccess imageError) (as ++ bs)).AtRest
          →
        ¬ (machine.run (start imageSuccess imageError) (as ++ bs)).Kept
          →
        (machine.run (start imageSuccess imageError) (as ++ bs)).hud.Down) := by
  have hinv : ∀ (s : Overlay Image) a, s.Inv → machine.enabled s a → (machine.next s a).Inv :=
    fun _ _ => inv_next
  have hstart := inv_start imageSuccess imageError
  rw [Machine.valid_append] at hv
  have has := Machine.run_invariant hinv hstart hv.1
  constructor
  . have hsteps := Machine.steps_of_forall (m := machine)
      (machine.run (start imageSuccess imageError) as) hbs
    have hlength := Machine.length_le_of_steps hinv (fun _ _ => work_next) has hv.2 hsteps
    omega
  . intro hrest hkept
    rw [Machine.run_append] at hrest hkept ⊢
    exact not_kept_down (Machine.run_invariant hinv has hv.2) hrest hkept

theorem rests_success
    : (machine.run (start 'v' 'x')
        ([.call (.showSuccess none none true)] ++ [.execute, .fire 0, .finish])).hud.Down := by
  have hv : machine.Valid (start 'v' 'x')
      ([.call (.showSuccess none none true)] ++ [.execute, .fire 0, .finish]) := by decide
  exact (rests hv (by decide)).2 (by decide) (by decide)

/--
The background is there and the toolbar is not fading out.
-/
def Visible (s : Overlay Image) : Prop :=
  s.hud.viewBackground.isSome ∧ s.hud.toolbarHUD = some 1

/--
Until the next block runs, no timer and no animation takes away what the last call has put up.
-/
def Lasting (s : Overlay Image) : Prop :=
  s.Kept → ∀ bs, machine.Valid s bs → (∀ b ∈ bs, b ≠ .execute) → (machine.run s bs).Visible

/--
A block that puts the indicator up does not run while it is fading out.
-/
def RunsAtRest (s : Overlay Image) (a : Action Image) : Prop :=
  match a with
  | .execute => s.queue.head?.any Call.keeps → s.hud.hides = 0
  | _ => True

instance (s : Overlay Image) (a : Action Image) : Decidable (RunsAtRest s a) :=
  match a with
  | .call _ => inferInstanceAs (Decidable True)
  | .execute => inferInstanceAs (Decidable (_ = true → s.hud.hides = 0))
  | .fire _ => inferInstanceAs (Decidable True)
  | .finish => inferInstanceAs (Decidable True)

def Calm (s : Overlay Image) : Prop :=
  s.Kept → s.hud.alpha = 1 ∧ s.hud.hides = 0

theorem visible_of_calm {s : Overlay Image} (h : s.UpOrDown) (hcalm : s.Calm) (hkept : s.Kept)
    : s.Visible := by
  obtain ⟨halpha, hhides⟩ := hcalm hkept
  obtain hdown | ⟨args, _, hup⟩ := h
  . rw [hdown.alpha] at halpha
    contradiction
  . refine ⟨?_, hup.visible hhides⟩
    rw [hup.viewBackground]
    rfl

theorem calm_execute {s : Overlay Image} (h : s.Inv) (hqueue : 0 < s.queue.length)
    : s.execute.Calm ↔ RunsAtRest s .execute := by
  unfold execute RunsAtRest
  split
  . next hnil =>
    rw [hnil] at hqueue
    contradiction
  . next call queue hcons =>
    rw [hcons]
    unfold ProgressHUD.perform Calm Kept
    dsimp only
    cases hsetup : call.setup? s.hud with
    | some args =>
      obtain ⟨_, _, _, _, hframe⟩ := ProgressHUD.setup_frame _ (timer_of_live h.upOrDown) args
      dsimp only
      rw [hframe]
      simp
    | none => simp [keeps_dismiss hsetup]

theorem calm_next {s : Overlay Image} {a : Action Image} (h : s.Inv) (hcalm : s.Calm)
    (he : machine.enabled s a) : (machine.next s a).Calm ↔ RunsAtRest s a := by
  cases a with
  | call call => exact iff_of_true hcalm trivial
  | execute => exact calm_execute h he
  | fire k =>
    have hk : k ∈ s.hud.live := he
    refine iff_of_true ?_ trivial
    intro hkept
    rw [h.driven.kept hkept] at hk
    contradiction
  | finish =>
    have hpos : 0 < s.hud.hides := he
    refine iff_of_true ?_ trivial
    intro hkept
    rw [(hcalm hkept).2] at hpos
    contradiction

theorem lasting_iff_calm {s : Overlay Image} (h : s.Inv) : s.Lasting ↔ s.Calm := by
  constructor
  . intro hlasting hkept
    have hvisible := hlasting hkept [] trivial (by simp)
    obtain hdown | ⟨args, _, hup⟩ := h.upOrDown
    . have hback := hvisible.1
      rw [show (machine.run s []).hud.viewBackground = none from hdown.viewBackground] at hback
      contradiction
    . refine ⟨hup.alpha, ?_⟩
      by_contra hhides
      have hpos : 0 < s.hud.hides := by omega
      -- The animation that is still to end takes the indicator away.
      have hgone := (hlasting hkept [.finish] ⟨hpos, trivial⟩ (by simp)).1
      have hdown := ProgressHUD.down_hidden (timer_of_live h.upOrDown)
      rw [show (machine.run s [.finish]).hud.viewBackground = none from hdown.viewBackground] at hgone
      contradiction
  . intro hcalm hkept bs
    induction bs generalizing s with
    | nil =>
      intro _ _
      exact visible_of_calm h.upOrDown hcalm hkept
    | cons b bs ih =>
      intro hv hbs
      have hnot : b ≠ .execute := hbs b List.mem_cons_self
      have hrest : RunsAtRest s b := by
        cases b with
        | execute => contradiction
        | _ => trivial
      have hnext : (machine.next s b).Kept := by
        cases b with
        | execute => contradiction
        | _ => exact hkept
      exact ih (inv_next h hv.1) ((calm_next h hcalm hv.1).mpr hrest) hnext hv.2
        fun c hc => hbs c (List.mem_cons_of_mem b hc)

/--
The indicator stays where the last call has put it exactly in the runs in which no block puts it up while
it is fading out.
-/
theorem lasting_iff {imageSuccess imageError : Image} {as : List (Action Image)}
    (hv : machine.Valid (start imageSuccess imageError) as)
    : machine.Along Lasting (start imageSuccess imageError) as
        ↔
      machine.Steps RunsAtRest (start imageSuccess imageError) as := by
  apply Machine.along_iff_steps (P := Inv)
  . intro s a hs he
    exact inv_next hs he
  . intro s a hs hlasting he
    rw [lasting_iff_calm (inv_next hs he)]
    exact calm_next hs ((lasting_iff_calm hs).mp hlasting) he
  . exact inv_start imageSuccess imageError
  . intro hkept
    contradiction
  . exact hv

theorem lasting_busy
    : machine.Along Lasting (start 'v' 'x') [.call (.show none false), .call .dismiss,
        .call (.show none false), .execute, .execute, .finish, .execute] :=
  (lasting_iff (by decide)).mpr (by decide)

end Overlay

end SmartGarden

import SmartGarden.App.Refines
import SmartGarden.App.Rest

/-!
This module contains the household with the indicator of each phone, and how all of it comes to rest: the
deliveries, the answers of the server, the blocks, timers and animations always come to an end, and when
they do every phone shows what Firebase stores and can be touched.
-/

open Finset Swift

namespace SmartGarden

structure System (ι : Type) where
  household : Household ι
  overlay : ι → Overlay String

namespace System

inductive Action (ι : Type) where
  | household (a : Household.Action ι)
  | overlay (p : ι) (a : Overlay.Action String)

variable {ι : Type}

/--
The phone on which the step moves a switch.
-/
def touches : Household.Action ι → Option ι
  | .flip p _ _ => some p
  | .list (.toggle p _ _) => some p
  | _ => none

/--
What goes on when nobody touches a phone, no process is killed and no device writes.
-/
def Action.Internal : Action ι → Prop
  | .household a => a.Delivers
  | .overlay _ a => a.internal = true

instance (a : Action ι) : Decidable a.Internal :=
  match a with
  | .household a => inferInstanceAs (Decidable a.Delivers)
  | .overlay _ a => inferInstanceAs (Decidable (a.internal = true))

def start (mode frame : Value) (word : Str) (texts : ι → TextField → Str) : System ι where
  household := Household.start mode frame word texts
  overlay := fun _ => Shell.launchOverlay

section

variable [DecidableEq ι]

/--
The indicators after a step of the household. The handlers leave their calls to the main queue.
-/
def overlays (s : System ι) (a : Household.Action ι) : ι → Overlay String :=
  match a with
  | .relaunch p _ => Function.update s.overlay p Shell.launchOverlay
  | a => fun p =>
    let overlay := s.overlay p
    if a.actor = some p then
      { overlay with queue := overlay.queue ++ Shell.calls (s.household.effects a) }
    else
      overlay

def machine : Machine (System ι) (Action ι) where
  enabled s a :=
    match a with
    | .household a => Household.machine.enabled s.household a
        ∧ ∀ p ∈ touches a, (s.overlay p).hud.viewBackground = none
    -- The calls are those of the handlers.
    | .overlay _ (.call _) => False
    | .overlay p a => Overlay.machine.enabled (s.overlay p) a
  next s a :=
    match a with
    | .household a => {
      household := Household.machine.next s.household a
      overlay := s.overlays a }
    | .overlay p a =>
      { s with overlay := Function.update s.overlay p (Overlay.machine.next (s.overlay p) a) }

instance (s : System ι) (a : Action ι) : Decidable (machine.enabled s a) :=
  match a with
  | .household a =>
    inferInstanceAs (Decidable (Household.machine.enabled s.household a
      ∧ ∀ p ∈ touches a, (s.overlay p).hud.viewBackground = none))
  | .overlay _ (.call _) => inferInstanceAs (Decidable False)
  | .overlay p .execute => inferInstanceAs (Decidable (Overlay.machine.enabled (s.overlay p) .execute))
  | .overlay p (.fire k) =>
    inferInstanceAs (Decidable (Overlay.machine.enabled (s.overlay p) (.fire k)))
  | .overlay p .finish => inferInstanceAs (Decidable (Overlay.machine.enabled (s.overlay p) .finish))

end

/--
The phone is a shell around its tabs.
-/
def RunsShell (s : System ι) (p : ι) : Prop :=
  ∃ tabs, s.household.RunsTabs p tabs ∧ Shell.Inv { tabs := tabs, overlay := s.overlay p }

structure Inv (s : System ι) : Prop where
  household : s.household.Inv
  known : s.household.Known
  shells : ∀ p, s.RunsShell p

theorem inv_start (mode frame : Value) {word : Str} (hword : 4 ≤ word.length)
    (texts : ι → TextField → Str) : (start mode frame word texts).Inv where
  household := Household.inv_start mode frame hword texts
  known := Household.known_start mode frame word texts
  shells := by
    intro p
    exact ⟨_, Household.runs_launch mode frame word (texts p), Shell.inv_start (texts p)⟩

theorem length_calls_workModeFetched (vc : ConfigViewController) (value : Value)
    : (Shell.calls (((vc.workModeFetched (fetchDataFromFirebase value)).map Prod.snd).getD [])).length
        ≤ 1 := by
  cases value with
  | string data =>
    dsimp only [fetchDataFromFirebase, ConfigViewController.workModeFetched]
    cases ConfigViewController.reloadData { vc with workMode := data } with
    | none => exact Nat.zero_le 1
    | some vc =>
      by_cases hmode : ConfigViewController.isAppMode data
      . simp [hmode, Shell.calls, ConfigViewController.initDataEngineFirebase, Effect.displayIndicator?]
      . simp [hmode, Shell.calls, Effect.displayIndicator?]
  | other =>
    dsimp only [fetchDataFromFirebase, ConfigViewController.workModeFetched]
    cases vc.reloadData with
    | none => exact Nat.zero_le 1
    | some vc => exact Nat.le_refl 1

theorem length_calls_engineStatesFetched (vc : ConfigViewController) (value : Value)
    : (Shell.calls (((vc.engineStatesFetched (fetchDataFromFirebase value)).map Prod.snd).getD [])).length
        ≤ 1 := by
  cases h : vc.engineStatesFetched (fetchDataFromFirebase value) with
  | none => exact Nat.zero_le 1
  | some result =>
    obtain ⟨_, _, hindicator⟩ := ConfigViewController.effects_engineStatesFetched h
    have hnil : Shell.calls result.2 = [] := Shell.calls_eq_nil hindicator
    simp [hnil]

section

variable [DecidableEq ι]

theorem runsShell_relaunch {s : System ι} {p : ι} (h : s.RunsShell p) (q : ι)
    (texts : TextField → Str)
    : (machine.next s (.household (.relaunch q texts))).RunsShell p := by
  obtain ⟨tabs, hruns, hshell⟩ := h
  refine ⟨_, Household.runsTabs_relaunch hruns q texts, ?_⟩
  dsimp only [machine, overlays]
  by_cases hq : p = q
  . subst hq
    rw [if_pos rfl, Function.update_self]
    exact Shell.inv_start texts
  . rw [if_neg hq, Function.update_of_ne hq]
    exact hshell

theorem overlays_of_ne {s : System ι} {a : Household.Action ι} (ha : ∀ q texts, a ≠ .relaunch q texts)
    (p : ι)
    : s.overlays a p =
        if a.actor = some p then
          { s.overlay p with
            queue := (s.overlay p).queue ++ Shell.calls (s.household.effects a) }
        else
          s.overlay p := by
  unfold overlays
  split
  . next q texts => exact absurd rfl (ha q texts)
  . rfl

theorem runsShell_household {s : System ι} (hs : s.Inv) {a : Household.Action ι}
    (he : Household.machine.enabled s.household a) (p : ι)
    : (machine.next s (.household a)).RunsShell p := by
  by_cases ha : ∃ q texts, a = .relaunch q texts
  . obtain ⟨q, texts, rfl⟩ := ha
    exact runsShell_relaunch (hs.shells p) q texts
  . have hne : ∀ q texts, a ≠ .relaunch q texts := fun q texts heq => ha ⟨q, texts, heq⟩
    obtain ⟨tabs, hruns, hshell⟩ := hs.shells p
    have hoverlay := overlays_of_ne (s := s) hne p
    unfold RunsShell
    dsimp only [machine]
    rw [hoverlay]
    rcases Household.reaches_next hs.household hruns he hne with
      ⟨b, hb, hruns', hactor, heffects⟩ | ⟨hruns', hnone⟩
    . refine ⟨_, hruns', ?_⟩
      rw [if_pos hactor, ← heffects]
      exact ⟨Shell.inv_queue hshell.overlay _, Shell.linked_tabs hshell.linked hb⟩
    . refine ⟨tabs, hruns', ?_⟩
      split
      . next hactor =>
        rw [hnone hactor]
        have hqueue : (s.overlay p).queue ++ Shell.calls [] = (s.overlay p).queue := List.append_nil _
        rw [hqueue]
        exact hshell
      . exact hshell

theorem inv_next {s : System ι} (h : s.Inv) {a : Action ι} (he : machine.enabled s a)
    : (machine.next s a).Inv := by
  cases a with
  | household a =>
    exact ⟨Household.inv_next h.household he.1, Household.known_next h.known a,
      runsShell_household h he.1⟩
  | overlay q a =>
    refine ⟨h.household, h.known, ?_⟩
    intro p
    obtain ⟨tabs, hruns, hshell⟩ := h.shells p
    refine ⟨tabs, hruns, ?_⟩
    dsimp only [machine]
    by_cases hq : p = q
    . subst hq
      rw [Function.update_self]
      cases a with
      | call call => exact he.elim
      | execute => exact Shell.inv_next (a := .overlay .execute) hshell he
      | fire k => exact Shell.inv_next (a := .overlay (.fire k)) hshell he
      | finish => exact Shell.inv_next (a := .overlay .finish) hshell he
    . rw [Function.update_of_ne hq]
      exact hshell

omit [DecidableEq ι] in
/--
Whatever a phone is told, its handler calls the indicator at most once.
-/
theorem length_calls_le_one {s : Household ι} {a : Household.Action ι} (ha : a.Delivers)
    : (Shell.calls (s.effects a)).length ≤ 1 := by
  cases a with
  | relaunch p texts => contradiction
  | flip p sender isOn => contradiction
  | edit p textField text => contradiction
  | list a =>
    cases a with
    | toggle p row isOn => contradiction
    | event p k =>
      dsimp only [Household.effects]
      cases (s.lists.word.client p).event? k with
      | none => exact Nat.zero_le 1
      | some data => exact length_calls_engineStatesFetched _ _
    | receive p =>
      dsimp only [Household.effects, Household.answer]
      split
      . exact Nat.le_refl 1
      . exact Nat.zero_le 1
    | _ => exact Nat.zero_le 1
  | modeEvent p k =>
    dsimp only [Household.effects]
    split
    . exact length_calls_workModeFetched _ _
    . next value _ _ => cases value <;> exact Nat.le_refl 1
    . exact Nat.zero_le 1
  | frameEvent p k =>
    dsimp only [Household.effects]
    split
    . next value _ _ => cases value <;> exact Nat.le_refl 1
    . next value _ _ => cases value <;> exact Nat.le_refl 1
    . exact Nat.zero_le 1
  | mode a => exact Nat.zero_le 1
  | frame a => exact Nat.zero_le 1

variable [Fintype ι]

/--
A bound for the steps that are still to come. A delivery makes at most one call.
-/
def work (s : System ι) : Nat :=
  5 * s.household.work + ∑ p, (s.overlay p).work

theorem work_queue (overlay : Overlay String) {calls : List (ProgressHUD.Call String)}
    (h : calls.length ≤ 1)
    : Overlay.work { overlay with queue := overlay.queue ++ calls } ≤ overlay.work + 4 := by
  have hlength : (overlay.queue ++ calls).length = overlay.queue.length + calls.length :=
    List.length_append
  unfold Overlay.work
  dsimp only
  omega

theorem work_overlay {s : System ι} {p : ι} {overlay : Overlay String}
    (h : overlay.work < (s.overlay p).work)
    : ∑ q, (Function.update s.overlay p overlay q).work < ∑ q, (s.overlay q).work := by
  apply sum_lt_sum
  . intro q _
    by_cases hq : q = p
    . subst hq
      rw [Function.update_self]
      exact Nat.le_of_lt h
    . rw [Function.update_of_ne hq]
  . refine ⟨p, mem_univ p, ?_⟩
    rw [Function.update_self]
    exact h

theorem work_overlays {s : System ι} {a : Household.Action ι} (ha : ∀ q texts, a ≠ .relaunch q texts)
    (hcalls : (Shell.calls (s.household.effects a)).length ≤ 1)
    : ∑ p, (s.overlays a p).work ≤ ∑ p, (s.overlay p).work + 4 := by
  have hle : ∀ p, (s.overlays a p).work ≤ (s.overlay p).work + if a.actor = some p then 4 else 0 := by
    intro p
    rw [overlays_of_ne ha p]
    split
    . exact work_queue (s.overlay p) hcalls
    . exact Nat.le_refl _
  have hsum := sum_le_sum fun p (_ : p ∈ univ) => hle p
  rw [sum_add_distrib] at hsum
  apply Nat.le_trans hsum
  apply Nat.add_le_add_left
  cases a.actor with
  | none => simp
  | some q => simp

theorem work_next {s : System ι} (h : s.Inv) {a : Action ι} (ha : a.Internal)
    (he : machine.enabled s a) : (machine.next s a).work < s.work := by
  cases a with
  | household a =>
    have hne : ∀ q texts, a ≠ .relaunch q texts := by
      rintro q texts rfl
      contradiction
    have hhousehold := Household.work_next h.household h.known ha he.1
    have hoverlays := work_overlays (s := s) hne (length_calls_le_one ha)
    unfold work
    dsimp only [machine]
    omega
  | overlay p a =>
    obtain ⟨tabs, _, hshell⟩ := h.shells p
    have hlt : (Overlay.machine.next (s.overlay p) a).work < (s.overlay p).work := by
      cases a with
      | call call => contradiction
      | execute => exact Overlay.work_next hshell.overlay (a := .execute) he rfl
      | fire k => exact Overlay.work_next hshell.overlay (a := .fire k) he rfl
      | finish => exact Overlay.work_next hshell.overlay (a := .finish) he rfl
    have hoverlay := work_overlay hlt
    unfold work
    dsimp only [machine]
    omega

end

section

variable [DecidableEq ι]

end

end System

end SmartGarden

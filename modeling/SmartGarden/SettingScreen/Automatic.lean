import Mathlib.Data.List.Perm.Basic
import SmartGarden.Lib.Edits
import SmartGarden.Lib.Machine
import SmartGarden.SettingScreen.Lemmas

/-!
This module contains the settings screen together with the database it writes to. A change to automatic
mode is a submission of four writes. Firebase commits the pending writes in any order or rejects them,
and the completion handler of a committed write runs at any later time.
-/

open Swift

namespace SmartGarden

structure Write where
  path : Path
  data : Str
  -- The switch whose event issued the write, if a switch event did.
  sender : Option ModeSwitch
  -- The number of the submission that the write belongs to.
  submission : Option Nat
  deriving DecidableEq

def modeWrite (n : Nat) : Write where
  path := .CHEDO
  data := ['3']
  sender := some .automaticControlModeSwitch
  submission := some n

structure Garden where
  vc : SettingViewController
  database : Path → Str
  submissions : Nat := 0
  pending : List Write := []
  -- The writes that Firebase has rejected and committed, in this order of events.
  failed : List Write := []
  commits : List Write := []
  -- The committed writes whose completion handler has still to run and has run.
  unanswered : List Write := []
  succeeded : List Write := []

namespace Garden

inductive Action where
  | flip (sender : ModeSwitch) (isOn : Bool)
  | edit (textField : TextField) (text : Str)
  | mode (value : Value)
  | commit (k : Nat)
  | answer (k : Nat)
  | fail (k : Nat)

def start (database : Path → Str) (texts : TextField → Str) : Garden where
  vc := (SettingViewController.viewDidLoad fun textField => some (texts textField)).1
  database := database

def ofWrites (sender : Option ModeSwitch) (submission : Option Nat) (writes : List (Path × Str))
    : List Write :=
  writes.map fun write =>
    { path := write.1, data := write.2, sender := sender, submission := submission }

def flip (s : Garden) (sender : ModeSwitch) (isOn : Bool) : Garden :=
  let (vc, effects) := s.vc.flip sender isOn
  if sender = .automaticControlModeSwitch then
    let new := ofWrites (some sender) (some s.submissions) (writes effects)
    { s with vc := vc, pending := s.pending ++ new, submissions := s.submissions + new.length }
  else
    let new := ofWrites (some sender) none (writes effects)
    { s with vc := vc, pending := s.pending ++ new }

def commit (s : Garden) (k : Nat) : Garden :=
  match s.pending[k]? with
  | some w =>
    { s with
      database := fun path => if path = w.path then w.data else s.database path
      pending := s.pending.eraseIdx k
      commits := s.commits ++ [w]
      unanswered := s.unanswered ++ [w] }
  | none => s

def answer (s : Garden) (k : Nat) : Garden :=
  match s.unanswered[k]? with
  | some w =>
    let effects := s.vc.writeCompleted w.sender (writeDataToFirebase none)
    { s with
      pending := s.pending ++ ofWrites none w.submission (writes effects)
      unanswered := s.unanswered.eraseIdx k
      succeeded := s.succeeded ++ [w] }
  | none => s

def fail (s : Garden) (k : Nat) : Garden :=
  match s.pending[k]? with
  | some w => { s with pending := s.pending.eraseIdx k, failed := s.failed ++ [w] }
  | none => s

def machine : Machine Garden Action where
  enabled s a :=
    match a with
    | .flip sender isOn => s.vc.isOn sender ≠ isOn
    | .commit k => k < s.pending.length
    | .fail k => k < s.pending.length
    | .answer k => k < s.unanswered.length
    | _ => True
  next s a :=
    match a with
    | .flip sender isOn => s.flip sender isOn
    | .edit textField text => { s with vc := s.vc.edit textField text }
    | .mode value => { s with vc := (s.vc.modeFetched (fetchDataFromFirebase value)).1 }
    | .commit k => s.commit k
    | .answer k => s.answer k
    | .fail k => s.fail k

instance (s : Garden) (a : Action) : Decidable (machine.enabled s a) :=
  match a with
  | .commit k => inferInstanceAs (Decidable (k < s.pending.length))
  | .fail k => inferInstanceAs (Decidable (k < s.pending.length))
  | .answer k => inferInstanceAs (Decidable (k < s.unanswered.length))
  | .flip sender isOn => inferInstanceAs (Decidable (s.vc.isOn sender ≠ isOn))
  | .edit _ _ => inferInstanceAs (Decidable True)
  | .mode _ => inferInstanceAs (Decidable True)

def issued (s : Garden) : List Write :=
  s.failed ++ s.commits ++ s.pending

def writesOf (s : Garden) (n : Nat) (path : Path) : List Write :=
  s.issued.filter fun w => w.path = path && w.submission = some n

def Settled (s : Garden) : Prop :=
  s.pending = [] ∧ s.unanswered = []

instance (s : Garden) : Decidable s.Settled :=
  inferInstanceAs (Decidable (s.pending = [] ∧ s.unanswered = []))

structure Accounted (s : Garden) : Prop where
  texts : ∀ textField, s.vc.texts textField ≠ none
  answered : s.commits.Perm (s.unanswered ++ s.succeeded)
  paths : ∀ w ∈ s.issued, w.path = .CHEDO ∨ w.path ∈ thresholdPaths
  -- Only the first write of a submission comes from the automatic switch.
  senders : ∀ w ∈ s.issued, w.sender = some .automaticControlModeSwitch → ∃ n, w = modeWrite n
  modes : ∀ n, s.writesOf n .CHEDO = if n < s.submissions then [modeWrite n] else []
  -- The threshold words of a submission are issued when its first write has succeeded, once each.
  thresholds : ∀ n, ∀ path ∈ thresholdPaths,
    (s.writesOf n path).length = if modeWrite n ∈ s.succeeded then 1 else 0
  numbered : ∀ w ∈ s.issued, w.path ∈ thresholdPaths → w.submission ≠ none

theorem accounted_start (database : Path → Str) (texts : TextField → Str)
    : (start database texts).Accounted where
  texts := by intro textField; simp [start, SettingViewController.viewDidLoad]
  answered := List.Perm.refl _
  paths := by simp [start, issued]
  senders := by simp [start, issued]
  modes := by simp [start, writesOf, issued]
  thresholds := by simp [start, writesOf, issued]
  numbered := by simp [start, issued]

theorem accounted_of_perm {s s' : Garden} (h : s.Accounted)
    (htexts : ∀ textField, s'.vc.texts textField ≠ none)
    (hsubmissions : s'.submissions = s.submissions)
    (hsucceeded : ∀ n, modeWrite n ∈ s'.succeeded ↔ modeWrite n ∈ s.succeeded)
    (hanswered : s'.commits.Perm (s'.unanswered ++ s'.succeeded))
    (hissued : s'.issued.Perm s.issued)
    : s'.Accounted where
  texts := htexts
  answered := hanswered
  paths := by
    intro w hw
    exact h.paths w (hissued.mem_iff.mp hw)
  senders := by
    intro w hw
    exact h.senders w (hissued.mem_iff.mp hw)
  modes := by
    intro n
    have hperm : (s'.writesOf n .CHEDO).Perm (s.writesOf n .CHEDO) := hissued.filter _
    rw [h.modes] at hperm
    rw [hsubmissions]
    split
    . next hn =>
      simp only [hn, ↓reduceIte] at hperm
      exact List.perm_singleton.mp hperm
    . next hn =>
      simp only [hn, ↓reduceIte] at hperm
      exact List.perm_nil.mp hperm
  thresholds := by
    intro n path hpath
    have hperm : (s'.writesOf n path).Perm (s.writesOf n path) := hissued.filter _
    rw [hperm.length_eq, h.thresholds n path hpath]
    simp only [hsucceeded n]
  numbered := by
    intro w hw
    exact h.numbered w (hissued.mem_iff.mp hw)

theorem perm_of_getElem? {l : List Write} {k : Nat} {w : Write} (h : l[k]? = some w)
    : l.Perm (w :: l.eraseIdx k) := by
  obtain ⟨hk, hw⟩ := List.getElem?_eq_some_iff.mp h
  rw [← hw]
  exact (List.getElem_cons_eraseIdx_perm hk).symm

theorem accounted_commit {s : Garden} (h : s.Accounted) (k : Nat) : (s.commit k).Accounted := by
  unfold commit
  split
  . next w hk =>
    have hanswered : (s.commits ++ [w]).Perm (s.unanswered ++ [w] ++ s.succeeded) := by
      rw [List.append_assoc]
      calc
        List.Perm (s.commits ++ [w]) (s.unanswered ++ s.succeeded ++ [w]) := h.answered.append_right _
        List.Perm _ (s.unanswered ++ ([w] ++ s.succeeded)) := by
          rw [List.append_assoc]
          apply List.perm_append_comm.append_left
    have hissued : (s.failed ++ (s.commits ++ [w]) ++ s.pending.eraseIdx k).Perm s.issued := by
      have heq : s.failed ++ (s.commits ++ [w]) ++ s.pending.eraseIdx k
          = s.failed ++ s.commits ++ (w :: s.pending.eraseIdx k) := by simp
      rw [heq]
      exact (perm_of_getElem? hk).symm.append_left _
    exact accounted_of_perm h h.texts rfl (fun _ => Iff.rfl) hanswered hissued
  . exact h

theorem accounted_fail {s : Garden} (h : s.Accounted) (k : Nat) : (s.fail k).Accounted := by
  unfold fail
  split
  . next w hk =>
    have hissued : (s.failed ++ [w] ++ s.commits ++ s.pending.eraseIdx k).Perm s.issued := by
      calc
        List.Perm (s.failed ++ [w] ++ s.commits ++ s.pending.eraseIdx k)
            (s.failed ++ (s.commits ++ [w]) ++ s.pending.eraseIdx k) := by
          rw [List.append_assoc s.failed]
          exact (List.perm_append_comm.append_left _).append_right _
        List.Perm _ (s.failed ++ s.commits ++ (w :: s.pending.eraseIdx k)) :=
          List.Perm.of_eq (by simp)
        List.Perm _ s.issued := (perm_of_getElem? hk).symm.append_left _
    exact accounted_of_perm h h.texts rfl (fun _ => Iff.rfl) h.answered hissued
  . exact h

theorem writesOf_append {s s' : Garden} {new : List Write} (h : s'.issued = s.issued ++ new) (n : Nat)
    (path : Path)
    : s'.writesOf n path
        =
      s.writesOf n path ++ new.filter fun w => w.path = path && w.submission = some n := by
  unfold writesOf
  rw [h, List.filter_append]

theorem flip_cases (s : Garden) (sender : ModeSwitch) (isOn : Bool)
    : ∃ vc : SettingViewController, vc.texts = s.vc.texts
        ∧
      (s.flip sender isOn = { s with vc := vc }
        ∨
      s.flip sender isOn = { s with
        vc := vc, pending := s.pending ++ [modeWrite s.submissions], submissions := s.submissions + 1 }
        ∨
      ∃ w : Write, w.path = .CHEDO ∧ w.sender ≠ some .automaticControlModeSwitch
        ∧ w.submission = none
        ∧ s.flip sender isOn = { s with vc := vc, pending := s.pending ++ [w] }) := by
  refine ⟨(s.vc.flip sender isOn).1, by rw [s.vc.flip_fst], ?_⟩
  rcases s.vc.writes_flip sender isOn with hwrites | ⟨hwrites, -⟩
  . by_cases hsender : sender = .automaticControlModeSwitch
    . right
      left
      subst hsender
      simp [flip, hwrites, ofWrites, modeWrite, SettingViewController.modeOf]
    . right
      right
      refine ⟨⟨.CHEDO, SettingViewController.modeOf sender, some sender, none⟩, rfl, ?_, rfl, ?_⟩
      . simpa using hsender
      . simp [flip, hwrites, ofWrites, hsender]
  . left
    simp [flip, hwrites, ofWrites]

theorem answer_cases {s : Garden} {k : Nat} {w : Write} (hk : s.unanswered[k]? = some w)
    : (w.sender = some .automaticControlModeSwitch
        ∧ s.answer k = { s with
            pending := s.pending ++ ofWrites none w.submission
              (writes (s.vc.modeWritten .automaticControlModeSwitch (.success true)))
            unanswered := s.unanswered.eraseIdx k
            succeeded := s.succeeded ++ [w] })
        ∨
      (w.sender ≠ some .automaticControlModeSwitch
        ∧ s.answer k = { s with
            unanswered := s.unanswered.eraseIdx k
            succeeded := s.succeeded ++ [w] }) := by
  by_cases hsender : w.sender = some .automaticControlModeSwitch
  . left
    refine ⟨hsender, ?_⟩
    simp only [answer, hk, hsender]
    rfl
  . right
    refine ⟨hsender, ?_⟩
    have hwrites := s.vc.writes_writeCompleted_eq_nil w.sender none fun h => hsender h.1
    simp [answer, hk, hwrites, ofWrites]

theorem accounted_of_mode {s s' : Garden} {w : Write} (h : s.Accounted)
    (htexts : s'.vc.texts = s.vc.texts) (hsucceeded : s'.succeeded = s.succeeded)
    (hanswered : s'.commits.Perm (s'.unanswered ++ s'.succeeded))
    (hissued : s'.issued = s.issued ++ [w]) (hpath : w.path = .CHEDO)
    (hw : (w = modeWrite s.submissions ∧ s'.submissions = s.submissions + 1)
      ∨ (w.sender ≠ some .automaticControlModeSwitch ∧ w.submission = none
        ∧ s'.submissions = s.submissions))
    : s'.Accounted where
  texts := by rw [htexts]; exact h.texts
  answered := hanswered
  paths := by
    intro w' hw'
    rw [hissued, List.mem_append, List.mem_singleton] at hw'
    rcases hw' with hold | rfl
    . exact h.paths w' hold
    . exact Or.inl hpath
  senders := by
    intro w' hw' hsender
    rw [hissued, List.mem_append, List.mem_singleton] at hw'
    rcases hw' with hold | rfl
    . exact h.senders w' hold hsender
    . cases hw with
      | inl hw =>
        exact ⟨_, hw.1⟩
      | inr hw =>
        exact absurd hsender hw.1
  modes := by
    intro n
    rw [writesOf_append hissued, h.modes]
    rcases hw with ⟨rfl, hsubmissions⟩ | ⟨_, hsubmission, hsubmissions⟩
    . rw [hsubmissions]
      rcases Nat.lt_trichotomy n s.submissions with hlt | rfl | hgt
      . have hne : s.submissions ≠ n := by omega
        have hlt' : n < s.submissions + 1 := by omega
        simp [hlt, hlt', modeWrite, hne]
      . simp [modeWrite]
      . have hne : s.submissions ≠ n := by omega
        have hge : ¬ n < s.submissions := by omega
        have hge' : ¬ n < s.submissions + 1 := by omega
        simp [hge, hge', modeWrite, hne]
    . simp [hsubmission, hsubmissions]
  thresholds := by
    intro n path hmem
    have hne : path ≠ .CHEDO := by
      rintro rfl
      simp [thresholdPaths] at hmem
    have hne' : ¬ Path.CHEDO = path := fun heq => hne heq.symm
    rw [writesOf_append hissued, hsucceeded, ← h.thresholds n path hmem]
    simp [hpath, hne']
  numbered := by
    intro w' hw' hmem
    rw [hissued, List.mem_append, List.mem_singleton] at hw'
    rcases hw' with hold | rfl
    . exact h.numbered w' hold hmem
    . rw [hpath] at hmem
      simp [thresholdPaths] at hmem

theorem accounted_flip {s : Garden} (h : s.Accounted) (sender : ModeSwitch) (isOn : Bool)
    : (s.flip sender isOn).Accounted := by
  obtain ⟨vc, htexts, heq | heq | ⟨w, hpath, hsender, hsubmission, heq⟩⟩ := s.flip_cases sender isOn
  . have htexts' : ∀ textField, vc.texts textField ≠ none := by
      rw [htexts]
      exact h.texts
    rw [heq]
    exact accounted_of_perm h htexts' rfl (fun _ => Iff.rfl) h.answered (List.Perm.refl _)
  . rw [heq]
    refine accounted_of_mode (w := modeWrite s.submissions) h htexts rfl h.answered ?_ rfl ?_
    . simp [issued]
    . exact Or.inl ⟨rfl, rfl⟩
  . rw [heq]
    refine accounted_of_mode h htexts rfl h.answered ?_ hpath ?_
    . simp [issued]
    . exact Or.inr ⟨hsender, hsubmission, rfl⟩

theorem answered_answer {s : Garden} (h : s.Accounted) {k : Nat} {w : Write}
    (hk : s.unanswered[k]? = some w)
    : s.commits.Perm (s.unanswered.eraseIdx k ++ (s.succeeded ++ [w])) := by
  calc
    List.Perm s.commits (s.unanswered ++ s.succeeded) := h.answered
    List.Perm _ (w :: s.unanswered.eraseIdx k ++ s.succeeded) := (perm_of_getElem? hk).append_right _
    List.Perm _ (s.unanswered.eraseIdx k ++ s.succeeded ++ [w]) := (List.perm_append_singleton _ _).symm
    List.Perm _ (s.unanswered.eraseIdx k ++ (s.succeeded ++ [w])) := List.Perm.of_eq (by simp)

theorem count_modeWrite (s : Garden) (h : s.Accounted) (n : Nat)
    : s.issued.count (modeWrite n) = if n < s.submissions then 1 else 0 := by
  have hcount : (s.writesOf n .CHEDO).count (modeWrite n) = s.issued.count (modeWrite n) := by
    apply List.count_filter
    simp [modeWrite]
  rw [← hcount, h.modes]
  split <;> simp

theorem modeWrite_not_mem_succeeded {s : Garden} (h : s.Accounted) {n : Nat}
    (hn : modeWrite n ∈ s.unanswered) : modeWrite n ∉ s.succeeded := by
  intro hmem
  have hanswered := h.answered.count_eq (modeWrite n)
  have hissued := count_modeWrite s h n
  have hone := List.count_pos_iff.mpr hn
  have hother := List.count_pos_iff.mpr hmem
  unfold issued at hissued
  rw [List.count_append] at hanswered
  rw [List.count_append, List.count_append] at hissued
  split at hissued <;> omega

def thresholdWrites (texts : Texts) (n : Nat) : List Write :=
  ofWrites none (some n) (thresholdPaths.flatMap fun path =>
    (submittedWord texts path).toList.map fun data => (path, data))

theorem mem_thresholdWrites {texts : Texts} {n : Nat} {w : Write} (h : w ∈ thresholdWrites texts n)
    : w.path ∈ thresholdPaths ∧ w.sender = none ∧ w.submission = some n := by
  simp only [thresholdWrites, ofWrites, List.mem_map, List.mem_flatMap] at h
  obtain ⟨_, ⟨path, hpath, _, _, rfl⟩, rfl⟩ := h
  exact ⟨hpath, rfl, rfl⟩

theorem thresholdWrites_length {texts : Texts} (htexts : ∀ textField, texts textField ≠ none)
    (n m : Nat) {path : Path} (hpath : path ∈ thresholdPaths)
    : ((thresholdWrites texts n).filter fun w => w.path = path && w.submission = some m).length
        =
      if m = n then 1 else 0 := by
  have hword := fun path hpath =>
    Option.ne_none_iff_exists'.mp (submittedWord_ne_none texts path htexts hpath)
  obtain ⟨temp, htemp⟩ := hword .thresholdTemp (by decide)
  obtain ⟨soil, hsoil⟩ := hword .thresholdSoilMosture (by decide)
  obtain ⟨light, hlight⟩ := hword .thresholdLight (by decide)
  have hwrites : thresholdWrites texts n
      =
      [⟨.thresholdTemp, temp, none, some n⟩, ⟨.thresholdSoilMosture, soil, none, some n⟩,
        ⟨.thresholdLight, light, none, some n⟩] := by
    simp [thresholdWrites, ofWrites, thresholdPaths, htemp, hsoil, hlight]
  rw [hwrites]
  by_cases hn : m = n
  . simp only [thresholdPaths, List.mem_cons, List.not_mem_nil, or_false] at hpath
    rcases hpath with rfl | rfl | rfl <;> simp [hn]
  . have hn' : n ≠ m := fun heq => hn heq.symm
    simp [hn, hn']

theorem accounted_of_thresholds {s s' : Garden} {n : Nat} (h : s.Accounted)
    (htexts : s'.vc.texts = s.vc.texts) (hsubmissions : s'.submissions = s.submissions)
    (hanswered : s'.commits.Perm (s'.unanswered ++ s'.succeeded))
    (hsucceeded : s'.succeeded = s.succeeded ++ [modeWrite n]) (hfresh : modeWrite n ∉ s.succeeded)
    (hissued : s'.issued = s.issued ++ thresholdWrites s.vc.texts n)
    : s'.Accounted where
  texts := by rw [htexts]; exact h.texts
  answered := hanswered
  paths := by
    intro w hw
    rw [hissued, List.mem_append] at hw
    cases hw with
    | inl hold =>
      exact h.paths w hold
    | inr hnew =>
      exact Or.inr (mem_thresholdWrites hnew).1
  senders := by
    intro w hw hsender
    rw [hissued, List.mem_append] at hw
    cases hw with
    | inl hold =>
      exact h.senders w hold hsender
    | inr hnew =>
      rw [(mem_thresholdWrites hnew).2.1] at hsender
      contradiction
  modes := by
    intro m
    have hnil : (thresholdWrites s.vc.texts n).filter
        (fun w => w.path = .CHEDO && w.submission = some m) = [] := by
      rw [List.filter_eq_nil_iff]
      intro w hw
      have hpath := (mem_thresholdWrites hw).1
      have hne : w.path ≠ .CHEDO := by
        intro heq
        rw [heq] at hpath
        simp [thresholdPaths] at hpath
      simp [hne]
    rw [writesOf_append hissued, hnil, List.append_nil, hsubmissions, h.modes]
  thresholds := by
    intro m path hpath
    rw [writesOf_append hissued, List.length_append, thresholdWrites_length h.texts n m hpath]
    rw [h.thresholds m path hpath, hsucceeded]
    by_cases hm : m = n
    . simp [hm, hfresh]
    . have hne : modeWrite m ≠ modeWrite n := by simp [modeWrite, hm]
      simp [hm, hne]
  numbered := by
    intro w hw hpath
    rw [hissued, List.mem_append] at hw
    cases hw with
    | inl hold =>
      exact h.numbered w hold hpath
    | inr hnew =>
      simp [(mem_thresholdWrites hnew).2.2]

theorem accounted_answer {s : Garden} (h : s.Accounted) (k : Nat) : (s.answer k).Accounted := by
  cases hk : s.unanswered[k]? with
  | none =>
    unfold answer
    rw [hk]
    exact h
  | some w =>
    have hunanswered := List.mem_of_getElem? hk
    have hcommits := h.answered.mem_iff.mpr (List.mem_append_left _ hunanswered)
    have hmem : w ∈ s.issued := by simp [issued, hcommits]
    rcases answer_cases hk with ⟨hsender, heq⟩ | ⟨hsender, heq⟩
    . obtain ⟨n, rfl⟩ := h.senders w hmem hsender
      rw [heq, s.vc.writes_modeWritten]
      refine accounted_of_thresholds h rfl rfl (answered_answer h hk) rfl ?_ ?_
      . exact modeWrite_not_mem_succeeded h hunanswered
      . simp [issued, thresholdWrites, modeWrite]
    . have hmode : ∀ n, modeWrite n ∈ s.succeeded ++ [w] ↔ modeWrite n ∈ s.succeeded := by
        intro n
        rw [List.mem_append, List.mem_singleton, or_iff_left]
        rintro rfl
        exact hsender rfl
      rw [heq]
      exact accounted_of_perm h h.texts rfl hmode (answered_answer h hk) (List.Perm.refl _)

theorem accounted_next {s : Garden} (h : s.Accounted) (a : Action) : (machine.next s a).Accounted := by
  cases a with
  | flip sender isOn => apply accounted_flip h
  | edit textField text =>
    have htexts := s.vc.edit_texts_ne_none textField text h.texts
    exact accounted_of_perm h htexts rfl (fun _ => Iff.rfl) h.answered (List.Perm.refl _)
  | mode value =>
    have htexts : ∀ textField,
        (s.vc.modeFetched (fetchDataFromFirebase value)).1.texts textField ≠ none := by
      cases value <;> exact h.texts
    exact accounted_of_perm h htexts rfl (fun _ => Iff.rfl) h.answered (List.Perm.refl _)
  | commit k => apply accounted_commit h
  | answer k => apply accounted_answer h
  | fail k => apply accounted_fail h

def Replays (initial : Path → Str) (s : Garden) : Prop :=
  ∀ path, s.database path = Edits.value initial (s.commits.map fun w => (w.path, w.data)) path

theorem replays_next {initial : Path → Str} {s : Garden} (h : Replays initial s) (a : Action)
    : Replays initial (machine.next s a) := by
  cases a with
  | edit textField text => exact h
  | mode value => exact h
  | flip sender isOn =>
    obtain ⟨vc, _, heq | heq | ⟨w, _, _, _, heq⟩⟩ := s.flip_cases sender isOn
    all_goals
      simp only [machine, heq]
      exact h
  | commit k =>
    simp only [machine, commit]
    split
    . intro path
      simp only [List.map_append, List.map_cons, List.map_nil, Edits.value_concat]
      rw [h path]
    . exact h
  | answer k =>
    simp only [machine, answer]
    split <;> exact h
  | fail k =>
    simp only [machine, fail]
    split <;> exact h

def Refused (s : Garden) (n : Nat) : Prop :=
  modeWrite n ∈ s.failed ∧ ∀ w ∈ s.commits, w.submission ≠ some n

/--
The change to automatic mode is committed, and of each threshold word the single write is committed or
has failed, independently of the others.
-/
def Entered (s : Garden) (n : Nat) : Prop :=
  modeWrite n ∈ s.commits
    ∧
  ∀ path ∈ thresholdPaths, ∃ w, s.writesOf n path = [w] ∧ (w ∈ s.commits ∨ w ∈ s.failed)

theorem mem_writesOf {s : Garden} {n : Nat} {path : Path} {w : Write}
    : w ∈ s.writesOf n path ↔ w ∈ s.issued ∧ w.path = path ∧ w.submission = some n := by
  simp [writesOf]

theorem mem_commits_of_succeeded {s : Garden} (h : s.Accounted) {w : Write} (hw : w ∈ s.succeeded)
    : w ∈ s.commits := by
  rw [h.answered.mem_iff]
  exact List.mem_append_right _ hw

theorem modeWrite_mem_succeeded {s : Garden} (h : s.Accounted) {w : Write} {n : Nat}
    (hw : w ∈ s.issued) (hpath : w.path ∈ thresholdPaths) (hn : w.submission = some n)
    : modeWrite n ∈ s.succeeded := by
  apply Classical.byContradiction
  intro hnot
  have hlength := h.thresholds n w.path hpath
  simp only [hnot, ↓reduceIte, List.length_eq_zero_iff] at hlength
  have hmem : w ∈ s.writesOf n w.path := mem_writesOf.mpr ⟨hw, rfl, hn⟩
  rw [hlength] at hmem
  contradiction

theorem refused_of_failed {s : Garden} (h : s.Accounted) {n : Nat} (hn : modeWrite n ∈ s.failed)
    : s.Refused n := by
  -- The first write of a submission is issued once, so it is not committed, too.
  have hcommits : modeWrite n ∉ s.commits := by
    intro hmem
    have hissued := count_modeWrite s h n
    have hone := List.count_pos_iff.mpr hn
    have hother := List.count_pos_iff.mpr hmem
    unfold issued at hissued
    rw [List.count_append, List.count_append] at hissued
    split at hissued <;> omega
  refine ⟨hn, ?_⟩
  intro w hw hsubmission
  have hissued : w ∈ s.issued := by simp [issued, hw]
  cases h.paths w hissued with
  | inl hpath =>
    have hmem : w ∈ s.writesOf n .CHEDO := mem_writesOf.mpr ⟨hissued, hpath, hsubmission⟩
    rw [h.modes] at hmem
    split at hmem
    . rw [List.mem_singleton] at hmem
      rw [hmem] at hw
      exact hcommits hw
    . contradiction
  | inr hpath =>
    have hsucceeded := modeWrite_mem_succeeded h hissued hpath hsubmission
    exact hcommits (mem_commits_of_succeeded h hsucceeded)

theorem entered_of_commits {s : Garden} (h : s.Accounted) (hs : s.Settled) {n : Nat}
    (hn : modeWrite n ∈ s.commits) : s.Entered n := by
  refine ⟨hn, ?_⟩
  intro path hpath
  have hsucceeded : modeWrite n ∈ s.succeeded := by
    rw [h.answered.mem_iff, hs.2] at hn
    exact hn
  have hlength := h.thresholds n path hpath
  simp only [hsucceeded, ↓reduceIte] at hlength
  obtain ⟨w, hw⟩ := List.length_eq_one_iff.mp hlength
  refine ⟨w, hw, ?_⟩
  have hmem : w ∈ s.writesOf n path := by rw [hw]; exact List.mem_singleton_self w
  have hissued := (mem_writesOf.mp hmem).1
  unfold issued at hissued
  rw [hs.1, List.append_nil, List.mem_append] at hissued
  exact hissued.symm

/--
Automatic mode is entered mode first. In every run, whatever commits and fails in whatever order, the
database holds the words last committed, and a threshold word of a submission is issued only after the
change of the mode is committed and has reported its success. Once no write is in flight, each submission
is refused or entered.
-/
theorem mode_first {database : Path → Str} {texts : TextField → Str} {as : List Action}
    (hv : machine.Valid (start database texts) as)
    : let s := machine.run (start database texts) as
      Replays database s
        ∧
      (∀ w ∈ s.issued, w.path ∈ thresholdPaths →
        ∃ n, w.submission = some n ∧ modeWrite n ∈ s.commits ∧ modeWrite n ∈ s.succeeded)
        ∧
      (s.Settled → ∀ n < s.submissions, s.Refused n ∨ s.Entered n) := by
  intro s
  have hs : s.Accounted :=
    Machine.run_invariant (P := Accounted) (fun s a h _ => accounted_next h a)
      (accounted_start database texts) hv
  have hreplays : Replays database s := by
    apply Machine.run_invariant (P := Replays database) (fun s a h _ => replays_next h a) _ hv
    intro path
    rfl
  refine ⟨hreplays, ?_, ?_⟩
  . intro w hw hpath
    obtain ⟨n, hn⟩ := Option.ne_none_iff_exists'.mp (hs.numbered w hw hpath)
    have hsucceeded := modeWrite_mem_succeeded hs hw hpath hn
    exact ⟨n, hn, mem_commits_of_succeeded hs hsucceeded, hsucceeded⟩
  . intro hsettled n hn
    have hmem : modeWrite n ∈ s.writesOf n .CHEDO := by simp [hs.modes, hn]
    have hissued := (mem_writesOf.mp hmem).1
    unfold issued at hissued
    rw [hsettled.1, List.append_nil, List.mem_append] at hissued
    cases hissued with
    | inl hfailed =>
      exact Or.inl (refused_of_failed hs hfailed)
    | inr hcommits =>
      exact Or.inr (entered_of_commits hs hsettled hcommits)

def lastCommit (s : Garden) (path : Path) : Option Write :=
  (s.commits.filter fun w => w.path = path).getLast?

def Mixed (s : Garden) (n : Nat) : Prop :=
  s.lastCommit .CHEDO = some (modeWrite n)
    ∧
  ∃ path ∈ thresholdPaths, ∃ w m, s.lastCommit path = some w ∧ w.submission = some m ∧ m < n

def AllOrNothing (s : Garden) (n : Nat) : Prop :=
  (∀ w ∈ s.commits, w.submission ≠ some n)
    ∨
  ∀ path ∈ Path.CHEDO :: thresholdPaths, ∃ w ∈ s.commits, w.path = path ∧ w.submission = some n

instance (s : Garden) (n : Nat) : Decidable (s.AllOrNothing n) :=
  inferInstanceAs (Decidable ((∀ w ∈ s.commits, w.submission ≠ some n)
    ∨ ∀ path ∈ Path.CHEDO :: thresholdPaths, ∃ w ∈ s.commits, w.path = path ∧ w.submission = some n))

def resubmitted : List Action :=
  [.flip .automaticControlModeSwitch true, .commit 0, .answer 0, .commit 0, .commit 0, .commit 0,
    .answer 0, .answer 0, .answer 0, .mode (.string ['2']), .edit .thresholdAboveTempTextField ['3', '5'],
    .flip .automaticControlModeSwitch true, .commit 0]

def partlyFailed : List Action :=
  resubmitted ++
    [.answer 0, .fail 0, .commit 0, .commit 0, .answer 0, .answer 0]

theorem automatic_not_atomic
    : (¬ ∀ (database : Path → Str) (texts : TextField → Str) (as : List Action),
          machine.Valid (start database texts) as
            →
          ∀ n, ¬ (machine.run (start database texts) as).Mixed n)
        ∧
      (¬ ∀ (database : Path → Str) (texts : TextField → Str) (as : List Action),
          machine.Valid (start database texts) as
            →
          (machine.run (start database texts) as).Settled
            →
          ∀ w ∈ (machine.run (start database texts) as).failed, ∀ n, w.submission = some n
            →
          (machine.run (start database texts) as).AllOrNothing n) := by
  constructor
  . intro h
    apply h (fun _ => ['1']) (fun _ => ['3', '0']) resubmitted (by decide) 1
    exact ⟨by decide, .thresholdTemp, by decide, ⟨.thresholdTemp, ['3', '0', '3', '0'], none, some 0⟩, 0,
      by decide, rfl, by decide⟩
  . intro h
    have hatomic := h (fun _ => ['1']) (fun _ => ['3', '0']) partlyFailed (by decide) (by decide)
      ⟨.thresholdTemp, ['3', '5', '3', '0'], none, some 1⟩ (by decide) 1 rfl
    exact absurd hatomic (by decide)

theorem mode_first_partlyFailed
    : let s := machine.run (start (fun _ => ['1']) fun _ => ['3', '0']) partlyFailed
      Replays (fun _ => ['1']) s ∧ (s.Refused 0 ∨ s.Entered 0) ∧ (s.Refused 1 ∨ s.Entered 1) := by
  have hmode := @mode_first (fun _ => ['1']) (fun _ => ['3', '0']) partlyFailed (by decide)
  have hsettled := hmode.2.2 (by decide)
  exact ⟨hmode.1, hsettled 0 (by decide), hsettled 1 (by decide)⟩

end Garden

end SmartGarden

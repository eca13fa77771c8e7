import SmartGarden.ConfigScreen.Lemmas
import SmartGarden.Lib.Clients
import SmartGarden.Lib.Machine

/-!
This module contains any number of phones that show the device list of one garden, each with its own view
of the word stored at `TINHIEUDONGCO`, together with the other writers of this word. The mode of a phone
may change at any time. The server handles the requests of a phone in the order in which they were made.
-/

open Swift

namespace SmartGarden

structure Viewer where
  vc : ConfigViewController
  -- The number of value events at `TINHIEUDONGCO` that the screen has got.
  received : Nat := 0

structure Viewers (ι : Type) where
  viewer : ι → Viewer
  word : Clients ι Str

namespace Viewers

inductive Action (ι : Type) where
  | workMode (p : ι) (value : Value)
  | toggle (p : ι) (row : Row) (isOn : Bool)
  -- Observer `k` of phone `p` gets its oldest value event.
  | event (p : ι) (k : Nat)
  | receive (p : ι)
  | listen (p : ι)
  -- Another writer sets the word.
  | put (data : Str)
  | accept (p : ι)
  | refuse (p : ι)

def perform (word : Observed Str) (effects : List Effect) : Observed Str :=
  effects.foldl (fun word effect =>
    match effect with
    | .observe .TINHIEUDONGCO => word.observe
    | .setValue .TINHIEUDONGCO data => word.write data
    | _ => word) word

variable {ι : Type}

def start (w : Str) : Viewers ι where
  viewer := fun _ => { vc := ConfigViewController.viewDidLoad.1 }
  word := Clients.start w

section

variable [DecidableEq ι]

def update (s : Viewers ι) (p : ι) (viewer : Viewer) (word : Observed Str) : Viewers ι where
  viewer := Function.update s.viewer p viewer
  word := s.word.update p word

def workMode (s : Viewers ι) (p : ι) (value : Value) : Viewers ι :=
  match (s.viewer p).vc.workModeFetched (fetchDataFromFirebase value) with
  | some (vc, effects) => s.update p { s.viewer p with vc := vc } (perform (s.word.client p) effects)
  -- The process traps, which words with four characters rule out.
  | none => s

def toggle (s : Viewers ι) (p : ι) (row : Row) (isOn : Bool) : Viewers ι :=
  match (s.viewer p).vc.switchValueChanged row isOn with
  | some (vc, effects) => s.update p { s.viewer p with vc := vc } (perform (s.word.client p) effects)
  | none => s

def event (s : Viewers ι) (p : ι) (k : Nat) : Viewers ι :=
  match (s.word.client p).event? k with
  | some data =>
    match (s.viewer p).vc.engineStatesFetched (fetchDataFromFirebase (.string data)) with
    | some (vc, effects) =>
      s.update p { vc := vc, received := (s.viewer p).received + 1 }
        (perform ((s.word.client p).take k) effects)
    | none => s
  | none => s

def machine : Machine (Viewers ι) (Action ι) where
  enabled s a :=
    match a with
    | .workMode _ _ => True
    | .toggle p row _ => ((s.viewer p).vc.cells row).isEnabled = true
    | .event p k => ((s.word.client p).event? k).isSome
    | .receive p => (s.word.client p).inbox ≠ []
    | .listen p => (s.word.client p).queues ≠ [] ∧ (s.word.client p).listening = false
    | .put data => 4 ≤ data.length
    | .accept p => (s.word.client p).listening = true ∧ (s.word.client p).next?.isSome
    | .refuse p => (s.word.client p).listening = true ∧ (s.word.client p).next?.isSome
  next s a :=
    match a with
    | .workMode p value => s.workMode p value
    | .toggle p row isOn => s.toggle p row isOn
    | .event p k => s.event p k
    | .receive p => { s with word := s.word.update p (s.word.client p).receive }
    | .listen p => { s with word := s.word.update p (s.word.client p).listen }
    | .put data => { s with word := s.word.put data }
    | .accept p => { s with word := s.word.accept p }
    | .refuse p => { s with word := s.word.update p (s.word.client p).refuse }

instance (s : Viewers ι) (a : Action ι) : Decidable (machine.enabled s a) :=
  match a with
  | .workMode _ _ => inferInstanceAs (Decidable True)
  | .toggle p row _ => inferInstanceAs (Decidable (((s.viewer p).vc.cells row).isEnabled = true))
  | .event p k => inferInstanceAs (Decidable (((s.word.client p).event? k).isSome = true))
  | .receive p => inferInstanceAs (Decidable ((s.word.client p).inbox ≠ []))
  | .listen p =>
    inferInstanceAs (Decidable ((s.word.client p).queues ≠ [] ∧ (s.word.client p).listening = false))
  | .put data => inferInstanceAs (Decidable (4 ≤ data.length))
  | .accept p =>
    inferInstanceAs (Decidable ((s.word.client p).listening = true
      ∧ (s.word.client p).next?.isSome = true))
  | .refuse p =>
    inferInstanceAs (Decidable ((s.word.client p).listening = true
      ∧ (s.word.client p).next?.isSome = true))

end

/--
Phone `p` waits for no answer, and no message or event is on the way to it.
-/
def Settled (s : Viewers ι) (p : ι) : Prop :=
  (s.word.client p).pending = [] ∧ (s.word.client p).inbox = [] ∧ (s.word.client p).Idle

instance (s : Viewers ι) (p : ι) : Decidable (s.Settled p) :=
  inferInstanceAs (Decidable ((s.word.client p).pending = [] ∧ (s.word.client p).inbox = []
    ∧ (s.word.client p).Idle))

structure Follows (viewer : Viewer) (word : Observed Str) : Prop where
  engineStates : 4 ≤ viewer.vc.engineStates.length
  words : word.All fun data => 4 ≤ data.length
  enabled : ∀ row, (viewer.vc.cells row).isEnabled = true
    → ConfigViewController.isAppMode viewer.vc.workMode
  watched : ConfigViewController.isAppMode viewer.vc.workMode → word.queues ≠ []
  coherent : word.queues ≠ [] → word.Coherent
  unwatched : word.queues = [] → word.listening = false ∧ word.pending = []
  silent : word.listening = false → word.inbox = [] ∧ word.known = none
    ∧ (word.pending = [] → viewer.received = 0 ∧ word.Idle)
  shows : word.Idle → ∀ data, word.seen = some data → viewer.vc.engineStates = data

theorem follows_start {w : Str} (hw : 4 ≤ w.length)
    : Follows { vc := ConfigViewController.viewDidLoad.1 } { stored := w } where
  engineStates := Nat.le_refl 4
  words := by
    constructor <;> simp [hw]
  enabled := by
    intro row hrow
    contradiction
  watched := by
    intro hmode
    contradiction
  coherent := by
    intro hqueues
    contradiction
  unwatched := by simp
  silent := by simp [Observed.Idle]
  shows := by
    intro _ data hseen
    contradiction

theorem enabled_reloaded (vc : ConfigViewController) (row : Row)
    (h : (vc.reloaded.cells row).isEnabled = true) : ConfigViewController.isAppMode vc.workMode := by
  rw [← vc.isEnabled_shownCell row]
  exact h

theorem follows_observe {viewer : Viewer} {word : Observed Str} (h : Follows viewer word)
    (workMode : Str)
    : Follows { viewer with vc := ConfigViewController.reloaded { viewer.vc with workMode := workMode } }
        word.observe where
  engineStates := h.engineStates
  words := Observed.all_observe h.words
  enabled := enabled_reloaded _
  watched := by
    intro _
    simp [Observed.observe]
  coherent := by
    intro _
    apply Observed.observe_coherent
    . by_cases hqueues : word.queues = []
      . intro hlistening
        rw [(h.unwatched hqueues).1] at hlistening
        contradiction
      . exact (h.coherent hqueues).synced
    . by_cases hqueues : word.queues = []
      . rw [hqueues]
        intro v _ q hq
        contradiction
      . exact (h.coherent hqueues).told
  unwatched := by
    intro hqueues
    simp [Observed.observe] at hqueues
  silent := by
    intro hlistening
    obtain ⟨hinbox, hknown, hreceived⟩ := h.silent hlistening
    refine ⟨hinbox, hknown, ?_⟩
    intro hpending
    obtain ⟨hzero, hidle⟩ := hreceived hpending
    refine ⟨hzero, ?_⟩
    -- Nothing is known and nothing has been written, so the new observer gets no event yet.
    have hseen : word.seen = none := by
      unfold Observed.seen
      rw [hknown, show word.pending = [] from hpending]
      rfl
    intro q hq
    cases List.mem_append.mp hq with
    | inl hold => exact hidle q hold
    | inr hnew =>
      rw [List.mem_singleton.mp hnew, hseen]
      rfl
  shows := by
    intro hidle data hseen
    have hnone : word.seen = none := Observed.observe_idle hidle
    have hsome : word.seen = some data := hseen
    rw [hnone] at hsome
    contradiction

theorem follows_reloaded {viewer : Viewer} {word : Observed Str} (h : Follows viewer word)
    {workMode : Str} (hmode : ConfigViewController.isAppMode workMode → word.queues ≠ [])
    : Follows { viewer with vc := ConfigViewController.reloaded { viewer.vc with workMode := workMode } }
        word where
  engineStates := h.engineStates
  words := h.words
  enabled := enabled_reloaded _
  watched := hmode
  coherent := h.coherent
  unwatched := h.unwatched
  silent := h.silent
  shows := h.shows

theorem follows_toggle {viewer : Viewer} {word : Observed Str} (h : Follows viewer word) {row : Row}
    (hrow : (viewer.vc.cells row).isEnabled = true) (isOn : Bool)
    : Follows { viewer with vc := viewer.vc.toggled row isOn }
        (word.write (setEngineState viewer.vc.engineStates row isOn)) := by
  have hmode := h.enabled row hrow
  have hwatched := h.watched hmode
  have hlen := le_length_setEngineState viewer.vc.engineStates row isOn h.engineStates
  have hcoherent := Observed.write_coherent (h.coherent hwatched)
    (setEngineState viewer.vc.engineStates row isOn)
  obtain ⟨queues, hframe⟩ := Observed.raise_frame word.seen
    { word with pending := word.pending ++ [setEngineState viewer.vc.engineStates row isOn] }
  have hwrite : word.write (setEngineState viewer.vc.engineStates row isOn)
      = { word with
          pending := word.pending ++ [setEngineState viewer.vc.engineStates row isOn]
          queues := queues } := hframe
  constructor
  . exact hlen
  . exact Observed.all_write h.words hlen
  . intro _ _
    exact hmode
  . intro _
    exact hcoherent.watched
  . intro _
    exact hcoherent
  . intro hqueues
    exact absurd hqueues hcoherent.watched
  . intro hlistening
    rw [hwrite] at hlistening ⊢
    obtain ⟨hinbox, hknown, _⟩ := h.silent hlistening
    refine ⟨hinbox, hknown, ?_⟩
    intro hpending
    simp at hpending
  . intro _ data hseen
    rw [Observed.write_seen] at hseen
    exact Option.some.inj hseen

theorem follows_event {viewer : Viewer} {word : Observed Str} (h : Follows viewer word) {k : Nat}
    {data : Str} (hdata : word.event? k = some data)
    : Follows
        { vc := ConfigViewController.reloaded { viewer.vc with engineStates := data }
          received := viewer.received + 1 }
        (word.take k) := by
  have hwatched : word.queues ≠ [] := by
    intro hqueues
    simp [Observed.event?, hqueues] at hdata
  have hcoherent := Observed.take_coherent (h.coherent hwatched) k
  constructor
  . exact Observed.all_event? h.words hdata
  . exact Observed.all_take h.words k
  . exact enabled_reloaded _
  . intro _
    exact hcoherent.watched
  . intro _
    exact hcoherent
  . intro hqueues
    exact absurd hqueues hcoherent.watched
  . intro hlistening
    obtain ⟨hinbox, hknown, hreceived⟩ := h.silent hlistening
    refine ⟨hinbox, hknown, ?_⟩
    intro hpending
    -- Without a write there has been no event.
    have hnone := Observed.event?_eq_none (hreceived hpending).2 k
    rw [hdata] at hnone
    contradiction
  . intro hidle data' hseen
    exact Observed.event?_of_idle (h.coherent hwatched) hdata hidle hseen

theorem follows_server {viewer : Viewer} {word word' : Observed Str} (h : Follows viewer word)
    (hwords : word'.All fun data => 4 ≤ data.length) (hqueues : word'.queues = word.queues)
    (hseen : word'.seen = word.seen) (hcoherent : word.Coherent → word'.Coherent)
    (hunwatched : word.queues = [] → word'.listening = false ∧ word'.pending = [])
    (hsilent : word'.listening = false
      → word.listening = false ∧ word'.inbox = word.inbox ∧ word'.known = word.known
        ∧ word'.pending = word.pending)
    : Follows viewer word' where
  engineStates := h.engineStates
  words := hwords
  enabled := h.enabled
  watched := by
    intro hmode
    rw [hqueues]
    exact h.watched hmode
  coherent := by
    intro hwatched
    rw [hqueues] at hwatched
    exact hcoherent (h.coherent hwatched)
  unwatched := by
    intro hnil
    rw [hqueues] at hnil
    exact hunwatched hnil
  silent := by
    intro hlistening
    obtain ⟨hlistening', hinbox, hknown, hpending⟩ := hsilent hlistening
    unfold Observed.Idle
    rw [hinbox, hknown, hpending, hqueues]
    exact h.silent hlistening'
  shows := by
    unfold Observed.Idle
    rw [hqueues, hseen]
    exact h.shows

theorem follows_listen {viewer : Viewer} {word : Observed Str} (h : Follows viewer word)
    (hwatched : word.queues ≠ []) : Follows viewer word.listen := by
  apply follows_server h
  . exact Observed.all_listen h.words
  . rfl
  . rfl
  . exact Observed.listen_coherent
  . intro hnil
    contradiction
  . intro hlistening
    contradiction

theorem follows_put {viewer : Viewer} {word : Observed Str} (h : Follows viewer word) {data : Str}
    (hdata : 4 ≤ data.length) : Follows viewer (word.put data) := by
  apply follows_server h
  . exact Observed.all_put h.words hdata
  . rfl
  . rfl
  . intro hcoherent
    exact Observed.put_coherent hcoherent data
  . exact h.unwatched
  . intro hlistening
    have hlistening' : word.listening = false := hlistening
    simp [Observed.put, hlistening']

theorem follows_refuse {viewer : Viewer} {word : Observed Str} (h : Follows viewer word)
    (hlistening : word.listening = true) : Follows viewer word.refuse := by
  apply follows_server h
  . exact Observed.all_refuse h.words
  . rfl
  . rfl
  . exact Observed.refuse_coherent
  . exact h.unwatched
  . intro hlistening'
    have hfalse : word.listening = false := hlistening'
    rw [hlistening] at hfalse
    contradiction

theorem follows_accept {viewer : Viewer} {word : Observed Str} (h : Follows viewer word)
    (hlistening : word.listening = true) : Follows viewer word.accept := by
  unfold Observed.accept
  split
  . next data hdata => exact follows_refuse (follows_put h (Observed.all_next? h.words hdata)) hlistening
  . exact h

theorem follows_receive {viewer : Viewer} {word : Observed Str} (h : Follows viewer word)
    (hinbox : word.inbox ≠ []) : Follows viewer word.receive := by
  have hlistening : word.listening = true := by
    cases hlistening : word.listening with
    | true => rfl
    | false => exact absurd (h.silent hlistening).1 hinbox
  have hwatched : word.queues ≠ [] := by
    intro hqueues
    rw [(h.unwatched hqueues).1] at hlistening
    contradiction
  have hcoherent := Observed.receive_coherent (h.coherent hwatched)
  constructor
  . exact h.engineStates
  . exact Observed.all_receive h.words
  . exact h.enabled
  . intro _
    exact hcoherent.watched
  . intro _
    exact hcoherent
  . intro hqueues
    exact absurd hqueues hcoherent.watched
  . intro hlistening'
    rw [(Observed.receive_frame word).2, hlistening] at hlistening'
    contradiction
  . intro hidle data hseen
    obtain ⟨hidle', hold⟩ := Observed.receive_idle (h.coherent hwatched) hidle
    apply h.shows hidle'
    cases hold with
    | inl hnone =>
      rw [hnone] at hseen
      contradiction
    | inr hsame =>
      rw [← hsame]
      exact hseen

structure AllFollow (s : Viewers ι) : Prop where
  agree : s.word.Agree
  follows : ∀ p, Follows (s.viewer p) (s.word.client p)

theorem allFollow_start {w : Str} (hw : 4 ≤ w.length) : (start w : Viewers ι).AllFollow where
  agree := Clients.agree_start w
  follows := by
    intro p
    exact follows_start hw

section

variable [DecidableEq ι]

theorem allFollow_update {s : Viewers ι} (h : s.AllFollow) {p : ι} {viewer : Viewer}
    {word : Observed Str} (hword : word.stored = (s.word.client p).stored)
    (hfollows : Follows viewer word) : (s.update p viewer word).AllFollow where
  agree := Clients.agree_update h.agree hword
  follows := by
    intro q
    by_cases hq : q = p
    . subst hq
      simpa [update, Clients.update] using hfollows
    . simpa [update, Clients.update, hq] using h.follows q

theorem allFollow_word {s : Viewers ι} (h : s.AllFollow) {p : ι} {word : Observed Str}
    (hword : word.stored = (s.word.client p).stored) (hfollows : Follows (s.viewer p) word)
    : AllFollow { s with word := s.word.update p word } := by
  have hupdate := allFollow_update h hword hfollows
  unfold update at hupdate
  rwa [Function.update_eq_self] at hupdate

theorem allFollow_workMode {s : Viewers ι} (h : s.AllFollow) (p : ι) (value : Value)
    : (s.workMode p value).AllFollow := by
  have hp := h.follows p
  unfold workMode
  cases value with
  | string data =>
    simp only [fetchDataFromFirebase]
    rw [ConfigViewController.workModeFetched_eq _ data (fun _ => hp.engineStates)]
    by_cases hmode : ConfigViewController.isAppMode data
    . simp only [hmode, ↓reduceIte]
      exact allFollow_update h rfl (follows_observe hp data)
    . simp only [hmode]
      apply allFollow_update h rfl
      apply follows_reloaded hp
      intro hmode'
      contradiction
  | other =>
    simp only [fetchDataFromFirebase]
    rw [ConfigViewController.workModeFetched_failure_eq _ _ (fun _ => hp.engineStates)]
    exact allFollow_update h rfl (follows_reloaded hp hp.watched)

theorem perform_toggle (vc : ConfigViewController) (row : Row) (isOn : Bool) (word : Observed Str)
    : perform word (vc.pumpStarted row isOn ++ (vc.toggled row isOn).updateFirebaseData)
        =
      word.write (setEngineState vc.engineStates row isOn) := by
  unfold ConfigViewController.pumpStarted
  dsimp
  split <;> rfl

theorem allFollow_toggle {s : Viewers ι} (h : s.AllFollow) {p : ι} {row : Row}
    (hrow : ((s.viewer p).vc.cells row).isEnabled = true) (isOn : Bool)
    : (s.toggle p row isOn).AllFollow := by
  have hp := h.follows p
  unfold toggle
  rw [ConfigViewController.switchValueChanged_eq _ _ _ hp.engineStates]
  dsimp
  rw [perform_toggle]
  exact allFollow_update h (Observed.write_stored _ _) (follows_toggle hp hrow isOn)

theorem allFollow_event {s : Viewers ι} (h : s.AllFollow) {p : ι} {k : Nat}
    (hk : ((s.word.client p).event? k).isSome) : (s.event p k).AllFollow := by
  have hp := h.follows p
  obtain ⟨data, hdata⟩ := Option.isSome_iff_exists.mp hk
  have hlen : 4 ≤ data.length := Observed.all_event? hp.words hdata
  unfold event
  simp only [hdata, fetchDataFromFirebase]
  rw [ConfigViewController.engineStatesFetched_eq _ _ (fun _ => hlen)]
  exact allFollow_update h rfl (follows_event hp hdata)

theorem allFollow_next {s : Viewers ι} (h : s.AllFollow) {a : Action ι} (he : machine.enabled s a)
    : (machine.next s a).AllFollow := by
  cases a with
  | workMode p value => exact allFollow_workMode h p value
  | toggle p row isOn => exact allFollow_toggle h he isOn
  | event p k => exact allFollow_event h he
  | receive p => exact allFollow_word h (Observed.receive_frame _).1 (follows_receive (h.follows p) he)
  | listen p => exact allFollow_word h rfl (follows_listen (h.follows p) he.1)
  | put data =>
    refine ⟨Clients.agree_put s.word data, ?_⟩
    intro p
    exact follows_put (h.follows p) he
  | accept p =>
    obtain ⟨data, hdata⟩ := Option.isSome_iff_exists.mp he.2
    have hlen : 4 ≤ data.length := Observed.all_next? (h.follows p).words hdata
    refine ⟨Clients.agree_accept h.agree p, ?_⟩
    apply Clients.forall_accept (I := fun q word => Follows (s.viewer q) word) hdata
    . exact follows_accept (h.follows p) he.1
    . intro q
      exact follows_put (h.follows q) hlen
  | refuse p => exact allFollow_word h rfl (follows_refuse (h.follows p) he.1)

/--
Whatever the phones, the other writers and the server do, a phone that has got a word and waits for
nothing has the stored word.
-/
theorem engineStates_eq_stored {w : Str} {as : List (Action ι)} (hw : 4 ≤ w.length)
    (hv : machine.Valid (start w) as) (p : ι) (hsettled : (machine.run (start w) as).Settled p)
    (hreceived : 0 < ((machine.run (start w) as).viewer p).received)
    : ((machine.run (start w) as).viewer p).vc.engineStates
        =
      (machine.run (start w) as).word.stored := by
  have hrun : (machine.run (start w) as).AllFollow := by
    apply Machine.run_invariant _ (allFollow_start hw) hv
    intro s a h he
    exact allFollow_next h he
  have hp := hrun.follows p
  obtain ⟨hpending, hinbox, hidle⟩ := hsettled
  have hlistening : ((machine.run (start w) as).word.client p).listening = true := by
    cases hlistening : ((machine.run (start w) as).word.client p).listening with
    | true => rfl
    | false =>
      have hzero := ((hp.silent hlistening).2.2 hpending).1
      omega
  have hwatched : ((machine.run (start w) as).word.client p).queues ≠ [] := by
    intro hqueues
    rw [(hp.unwatched hqueues).1] at hlistening
    contradiction
  have hseen := Observed.seen_of_quiet (hp.coherent hwatched) ⟨hlistening, hinbox, hpending, hidle⟩
  rw [hp.shows hidle _ hseen]
  apply hrun.agree

def crossedToggles : List (Action Bool) :=
  [.workMode true (.string ['2']), .workMode false (.string ['2']), .listen true, .listen false,
    .receive true, .event true 0, .toggle true 0 true, .receive false, .event false 0,
    .toggle false 1 true, .accept true, .put ['1', '1', '1', '1', '1'], .refuse false, .event false 0,
    .receive false, .receive false, .receive false, .event false 0, .receive true, .receive true,
    .event true 0, .receive true, .event true 0]

theorem engineStates_eq_stored_crossed
    : ((machine.run (start ['0', '0', '0', '0']) crossedToggles).viewer false).vc.engineStates
        =
      (machine.run (start ['0', '0', '0', '0']) crossedToggles).word.stored :=
  engineStates_eq_stored (by decide) (by decide) false (by decide) (by decide)

end

end Viewers

end SmartGarden

import SmartGarden.App.Runs

/-!
This module contains how each phone of the household runs the three tabs: what the network does to it is a
run in which observers are called with any value at any time and writes are answered in any order.
-/

open Swift

namespace SmartGarden

namespace Household

variable {ι : Type}

/--
The phone whose handlers a step calls.
-/
def Action.actor : Action ι → Option ι
  | .relaunch p _ => some p
  | .flip p _ _ => some p
  | .edit p _ _ => some p
  | .list (.toggle p _ _) => some p
  | .list (.event p _) => some p
  | .list (.receive p) => some p
  | .modeEvent p _ => some p
  | .frameEvent p _ => some p
  | _ => none

/--
What the handlers of a step do to the outside world. Those that get the answer to a mode never touch the
indicator and are left out.
-/
def effects (s : Household ι) (a : Action ι) : List Effect :=
  match a with
  | .relaunch _ _ => Tabs.startEffects
  | .flip p sender isOn => ((s.phone p).setting.flip sender isOn).2
  | .list (.toggle p row isOn) =>
    (((s.lists.viewer p).vc.switchValueChanged row isOn).map Prod.snd).getD []
  | .list (.event p k) =>
    match (s.lists.word.client p).event? k with
    | some data =>
      (((s.lists.viewer p).vc.engineStatesFetched (fetchDataFromFirebase (.string data))).map
        Prod.snd).getD []
    | none => []
  | .list (.receive p) => answer (s.lists.word.client p)
  | .modeEvent p k =>
    match (s.mode.client p).event? k, (s.phone p).modeOwners[k]? with
    | some value, some .initDataWorkModeFirebase =>
      (((s.lists.viewer p).vc.workModeFetched (fetchDataFromFirebase value)).map Prod.snd).getD []
    | some value, some .initDataModeFirebase =>
      ((s.phone p).setting.modeFetched (fetchDataFromFirebase value)).2
    | _, _ => []
  | .frameEvent p k =>
    match (s.frame.client p).event? k, frameOwners[k]? with
    | some value, some .initDataFirebase =>
      ((s.phone p).home.sensorDataFetched (fetchDataFromFirebase value)).2
    | some value, some .initDataRaintState =>
      ((s.phone p).home.rainStateFetched (fetchDataFromFirebase value)).2
    | _, _ => []
  | _ => []

def RunsTabs (s : Household ι) (p : ι) (tabs : Tabs) : Prop :=
  (s.phone p).Runs (s.lists.viewer p).vc (s.lists.word.client p) (s.mode.client p) (s.frame.client p) tabs

theorem runsTabs_of {s : Household ι} {p : ι} {phone : Phone} {vc : ConfigViewController}
    {word : Observed Str} {mode frame : Observed Value} {tabs : Tabs}
    (h : phone.Runs vc word mode frame tabs) (hphone : s.phone p = phone)
    (hvc : (s.lists.viewer p).vc = vc) (hword : s.lists.word.client p = word)
    (hmode : s.mode.client p = mode) (hframe : s.frame.client p = frame) : s.RunsTabs p tabs := by
  unfold RunsTabs
  rw [hphone, hvc, hword, hmode, hframe]
  exact h

theorem runs_launch (mode frame : Value) (word : Str) (texts : TextField → Str)
    : (Phone.launch texts).Runs ConfigViewController.viewDidLoad.1 { stored := word } (launchMode mode)
        (launchFrame frame) (Tabs.start texts) where
  home := rfl
  config := rfl
  setting := rfl
  observers := List.Perm.of_eq rfl
  deviceWrites := rfl
  isShown := by
    intro _
    exact Or.inl (Observed.owes_observe _)

/--
If `actor` is phone `p`, its tabs take the step that leads to what `s` has of it and has these effects.
Other phones leave `p` as it is.
-/
def Reaches (s : Household ι) (p : ι) (tabs : Tabs) (actor : Option ι) (effects : List Effect) : Prop :=
  (∃ b, Tabs.machine.enabled tabs b ∧ s.RunsTabs p (Tabs.machine.next tabs b)
      ∧ actor = some p ∧ tabs.effects b = effects)
    ∨ (s.RunsTabs p tabs ∧ (actor = some p → effects = []))

theorem reaches_step {s : Household ι} {p : ι} {tabs tabs' : Tabs} {b : Tabs.Action}
    {effects : List Effect} (hstep : tabs.step b = some tabs') (heffects : tabs.effects b = effects)
    (h : s.RunsTabs p tabs') : s.Reaches p tabs (some p) effects := by
  refine Or.inl ⟨b, ?_, ?_, rfl, heffects⟩
  . exact Option.isSome_of_eq_some hstep
  . rw [Tabs.next_eq hstep]
    exact h

theorem reaches_other {s : Household ι} {p q : ι} {tabs : Tabs} {effects : List Effect} (hq : p ≠ q)
    (h : s.RunsTabs p tabs) : s.Reaches p tabs (some q) effects := by
  refine Or.inr ⟨h, ?_⟩
  intro heq
  exact absurd (Option.some.inj heq).symm hq

theorem reaches_none {s : Household ι} {p : ι} {tabs : Tabs} {effects : List Effect}
    (h : s.RunsTabs p tabs) : s.Reaches p tabs none effects := by
  refine Or.inr ⟨h, ?_⟩
  intro heq
  contradiction

section

variable [DecidableEq ι]

theorem runsTabs_relaunch {s : Household ι} {p : ι} {tabs : Tabs} (h : s.RunsTabs p tabs) (q : ι)
    (texts : TextField → Str)
    : (s.relaunch q texts).RunsTabs p (if p = q then Tabs.start texts else tabs) := by
  by_cases hq : p = q
  . subst hq
    rw [if_pos rfl]
    apply runsTabs_of (runs_launch s.mode.stored s.frame.stored s.lists.word.stored texts)
    . exact Function.update_self _ _ _
    . simp [relaunch, Viewers.update]
    . exact Function.update_self _ _ _
    . exact Function.update_self _ _ _
    . exact Function.update_self _ _ _
  . rw [if_neg hq]
    apply runsTabs_of h
    . exact Function.update_of_ne hq _ _
    . simp [relaunch, Viewers.update, hq]
    . exact Function.update_of_ne hq _ _
    . exact Function.update_of_ne hq _ _
    . exact Function.update_of_ne hq _ _

/--
What phone `q` shows or has seen changes, but not its device list.
-/
theorem reaches_phone {s : Household ι} {p : ι} {tabs : Tabs} (h : s.RunsTabs p tabs) (q : ι)
    (phone : Phone) (E : List Effect) (mode frame : Observed Value)
    (hstep : p = q → ∃ b tabs', tabs.step b = some tabs' ∧ tabs.effects b = E
      ∧ phone.Runs (s.lists.viewer p).vc (s.lists.word.client p) mode frame tabs')
    : Reaches { s with
        phone := Function.update s.phone q phone
        mode := s.mode.update q mode
        frame := s.frame.update q frame } p tabs (some q) E := by
  by_cases hq : p = q
  . subst hq
    obtain ⟨b, tabs', htabs, heffects, hruns⟩ := hstep rfl
    apply reaches_step htabs heffects
    apply runsTabs_of hruns
    . exact Function.update_self _ _ _
    . rfl
    . rfl
    . exact Function.update_self _ _ _
    . exact Function.update_self _ _ _
  . apply reaches_other hq
    apply runsTabs_of h
    . exact Function.update_of_ne hq _ _
    . rfl
    . rfl
    . exact Function.update_of_ne hq _ _
    . exact Function.update_of_ne hq _ _

theorem reaches_setting {s : Household ι} {p : ι} {tabs : Tabs} (h : s.RunsTabs p tabs) {q : ι}
    {phone : Phone} {E : List Effect} (mode : Observed Value)
    (hstep : p = q → ∃ b tabs', tabs.step b = some tabs' ∧ tabs.effects b = E
      ∧ phone.Runs (s.lists.viewer p).vc (s.lists.word.client p) mode (s.frame.client p) tabs')
    : Reaches { s with phone := Function.update s.phone q phone, mode := s.mode.update q mode } p tabs
        (some q) E := by
  have hreaches := reaches_phone h q phone E mode (s.frame.client q)
  rw [Clients.update_client] at hreaches
  apply hreaches
  rintro rfl
  exact hstep rfl

theorem reaches_home {s : Household ι} {p : ι} {tabs : Tabs} (h : s.RunsTabs p tabs) {q : ι}
    {phone : Phone} {E : List Effect} (frame : Observed Value)
    (hstep : p = q → ∃ b tabs', tabs.step b = some tabs' ∧ tabs.effects b = E
      ∧ phone.Runs (s.lists.viewer p).vc (s.lists.word.client p) (s.mode.client p) frame tabs')
    : Reaches { s with phone := Function.update s.phone q phone, frame := s.frame.update q frame } p tabs
        (some q) E := by
  have hreaches := reaches_phone h q phone E (s.mode.client q) frame
  rw [Clients.update_client] at hreaches
  apply hreaches
  rintro rfl
  exact hstep rfl

theorem reaches_flip {s : Household ι} (hs : s.Inv) {p : ι} {tabs : Tabs} (h : s.RunsTabs p tabs) {q : ι}
    {sender : ModeSwitch} {isOn : Bool} (he : (s.phone q).setting.isOn sender ≠ isOn)
    : (s.flip q sender isOn).Reaches p tabs (some q) ((s.phone q).setting.flip sender isOn).2 := by
  apply reaches_setting h
  rintro rfl
  have hcoherent := (hs.mirrors p).mode.coherent (List.ne_nil_of_mem (hs.mirrors p).watches)
  exact ⟨_, runs_flip h hcoherent he⟩

theorem reaches_edit {s : Household ι} {p : ι} {tabs : Tabs} (h : s.RunsTabs p tabs) (q : ι)
    (textField : TextField) (text : Str) : (s.edit q textField text).Reaches p tabs (some q) [] := by
  have hreaches := reaches_phone h q
    { s.phone q with setting := (s.phone q).setting.edit textField text } [] (s.mode.client q)
    (s.frame.client q)
  rw [Clients.update_client, Clients.update_client] at hreaches
  apply hreaches
  rintro rfl
  obtain ⟨tabs', hstep, hruns⟩ := runs_edit h textField text
  exact ⟨_, tabs', hstep, rfl, hruns⟩

/--
The device list of phone `q` gets a value or is touched.
-/
theorem reaches_lists {s : Household ι} {p : ι} {tabs : Tabs} (h : s.RunsTabs p tabs) {q : ι}
    {lists : Viewers ι} {viewer : Viewer} {word : Observed Str} {E : List Effect}
    (mode : Observed Value) (hviewer : lists.viewer = Function.update s.lists.viewer q viewer)
    (hword : lists.word = s.lists.word.update q word)
    (hstep : p = q → ∃ b tabs', tabs.step b = some tabs' ∧ tabs.effects b = E
      ∧ (s.phone p).Runs viewer.vc word mode (s.frame.client p) tabs')
    : Reaches { s with lists := lists, mode := s.mode.update q mode } p tabs (some q) E := by
  by_cases hq : p = q
  . subst hq
    obtain ⟨b, tabs', htabs, heffects, hruns⟩ := hstep rfl
    apply reaches_step htabs heffects
    apply runsTabs_of hruns
    . rfl
    . dsimp only
      rw [hviewer, Function.update_self]
    . dsimp only
      rw [hword]
      exact Function.update_self _ _ _
    . exact Function.update_self _ _ _
    . rfl
  . apply reaches_other hq
    apply runsTabs_of h
    . rfl
    . dsimp only
      rw [hviewer, Function.update_of_ne hq]
    . dsimp only
      rw [hword]
      exact Function.update_of_ne hq _ _
    . exact Function.update_of_ne hq _ _
    . rfl

theorem reaches_modeEvent {s : Household ι} (hs : s.Inv) {p : ι} {tabs : Tabs} (h : s.RunsTabs p tabs)
    (q : ι) (k : Nat) : (s.modeEvent q k).Reaches p tabs (some q) (s.effects (.modeEvent q k)) := by
  unfold modeEvent
  dsimp only
  split
  . next value hevent hk =>
    obtain ⟨result, hresult, hviewer, hword⟩ := Viewers.workMode_step hs.lists q value
    unfold effects
    dsimp only
    rw [hevent, hk]
    dsimp only
    rw [hresult]
    apply reaches_lists h _ hviewer hword
    rintro rfl
    obtain ⟨_, htabs⟩ := runs_workModeFetched h (List.mem_of_getElem? hk) hresult
      ((s.mode.client p).take k)
    exact ⟨_, htabs⟩
  . next value hevent hk =>
    unfold effects
    dsimp only
    rw [hevent, hk]
    apply reaches_setting h
    rintro rfl
    obtain ⟨_, htabs⟩ := runs_modeFetched h value (List.mem_of_getElem? hk) ((s.mode.client p).take k)
    exact ⟨_, htabs⟩
  . next hfirst hsecond =>
    refine Or.inr ⟨h, fun _ => ?_⟩
    unfold effects
    dsimp only
    split
    . next hevent hk => exact (hfirst _ hevent hk).elim
    . next hevent hk => exact (hsecond _ hevent hk).elim
    . rfl

theorem reaches_frameEvent {s : Household ι} {p : ι} {tabs : Tabs} (h : s.RunsTabs p tabs) (q : ι)
    (k : Nat) : (s.frameEvent q k).Reaches p tabs (some q) (s.effects (.frameEvent q k)) := by
  unfold frameEvent
  dsimp only
  split
  . next value hevent hk =>
    unfold effects
    dsimp only
    rw [hevent, hk]
    apply reaches_home h
    rintro rfl
    obtain ⟨_, htabs⟩ := runs_sensorDataFetched h value ((s.frame.client p).take k)
    exact ⟨_, htabs⟩
  . next value hevent hk =>
    unfold effects
    dsimp only
    rw [hevent, hk]
    apply reaches_home h
    rintro rfl
    obtain ⟨_, htabs⟩ := runs_rainStateFetched h value ((s.frame.client p).take k)
    exact ⟨_, htabs⟩
  . next hfirst hsecond =>
    refine Or.inr ⟨h, fun _ => ?_⟩
    unfold effects
    dsimp only
    split
    . next hevent hk => exact (hfirst _ hevent hk).elim
    . next hevent hk => exact (hsecond _ hevent hk).elim
    . rfl

theorem reaches_toggle {s : Household ι} (hs : s.Inv) {p : ι} {tabs : Tabs} (h : s.RunsTabs p tabs) {q : ι}
    {row : Row} (he : ((s.lists.viewer q).vc.cells row).isEnabled = true) (isOn : Bool)
    : Reaches { s with lists := s.lists.toggle q row isOn } p tabs (some q)
        (s.effects (.list (.toggle q row isOn))) := by
  obtain ⟨result, hresult, hviewer, hword⟩ := Viewers.toggle_step hs.lists q row isOn
  have hreaches := reaches_lists (E := result.2) h (s.mode.client q) hviewer hword
  rw [Clients.update_client] at hreaches
  unfold effects
  dsimp only
  rw [hresult]
  apply hreaches
  rintro rfl
  exact ⟨_, runs_toggle h he hresult⟩

theorem reaches_event {s : Household ι} (hs : s.Inv) {p : ι} {tabs : Tabs} (h : s.RunsTabs p tabs) {q : ι}
    {k : Nat} (he : ((s.lists.word.client q).event? k).isSome)
    : Reaches { s with lists := s.lists.event q k } p tabs (some q) (s.effects (.list (.event q k))) := by
  obtain ⟨data, result, hdata, hresult, hviewer, hword⟩ := Viewers.event_step hs.lists he
  have hwatched : (s.lists.word.client q).queues ≠ [] := by
    intro hqueues
    simp [Observed.event?, hqueues] at hdata
  have hreaches := reaches_lists (E := result.2) h (s.mode.client q) hviewer hword
  rw [Clients.update_client] at hreaches
  unfold effects
  dsimp only
  rw [hdata]
  dsimp only
  rw [hresult]
  apply hreaches
  rintro rfl
  obtain ⟨_, htabs⟩ := runs_engineStatesFetched h hwatched hresult k
  exact ⟨_, htabs⟩

theorem reaches_receive {s : Household ι} {p : ι} {tabs : Tabs} (h : s.RunsTabs p tabs) (q : ι)
    : Reaches
        { s with
          lists := { s.lists with word := s.lists.word.update q (s.lists.word.client q).receive } }
        p tabs (some q) (answer (s.lists.word.client q)) := by
  by_cases hq : p = q
  . subst hq
    cases runs_receive h with
    | inl hstep =>
      obtain ⟨b, tabs', hstep, heffects, hruns⟩ := hstep
      apply reaches_step hstep heffects
      exact runsTabs_of hruns rfl rfl (Function.update_self _ _ _) rfl rfl
    | inr hruns =>
      refine Or.inr ⟨?_, fun _ => hruns.2⟩
      exact runsTabs_of hruns.1 rfl rfl (Function.update_self _ _ _) rfl rfl
  . apply reaches_other hq
    exact runsTabs_of h rfl rfl (Function.update_of_ne hq _ _) rfl rfl

omit [DecidableEq ι] in
/--
What the server does with the words of the device lists ends no write that a phone waits for.
-/
theorem reaches_server {s : Household ι} {p : ι} {tabs : Tabs} (h : s.RunsTabs p tabs)
    {word : Clients ι Str}
    (hword : ∀ q, (word.client q).queues = (s.lists.word.client q).queues
      ∧ (word.client q).pending = (s.lists.word.client q).pending)
    : Reaches { s with lists := { s.lists with word := word } } p tabs none [] := by
  obtain ⟨hqueues, hpending⟩ := hword p
  exact reaches_none (runs_network h (congrArg List.length hqueues) (congrArg List.length hpending) id id)

theorem reaches_list {s : Household ι} (hs : s.Inv) {p : ι} {tabs : Tabs} (h : s.RunsTabs p tabs)
    {a : Viewers.Action ι} (he : machine.enabled s (.list a))
    : (machine.next s (.list a)).Reaches p tabs (Action.list a).actor (s.effects (.list a)) := by
  have hupdate : ∀ (q : ι) {c : Observed Str}, c.queues = (s.lists.word.client q).queues
      → c.pending = (s.lists.word.client q).pending
      → ∀ r, ((s.lists.word.update q c).client r).queues = (s.lists.word.client r).queues
        ∧ ((s.lists.word.update q c).client r).pending = (s.lists.word.client r).pending := by
    intro q c hqueues hpending
    exact Clients.forall_update (I := fun r c => c.queues = (s.lists.word.client r).queues
      ∧ c.pending = (s.lists.word.client r).pending) (fun _ => ⟨rfl, rfl⟩) ⟨hqueues, hpending⟩
  cases a with
  | workMode q value => exact he.elim
  | toggle q row isOn => exact reaches_toggle hs h he isOn
  | event q k => exact reaches_event hs h he
  | receive q => exact reaches_receive h q
  | listen q => exact reaches_server h (hupdate q rfl rfl)
  | put data => exact reaches_server h fun _ => ⟨rfl, rfl⟩
  | accept q =>
    obtain ⟨data, hdata⟩ := Option.isSome_iff_exists.mp he.2
    apply reaches_server h
    apply Clients.forall_accept (I := fun r c => c.queues = (s.lists.word.client r).queues
      ∧ c.pending = (s.lists.word.client r).pending) hdata
    . refine ⟨(Observed.accept_frame _).1, ?_⟩
      unfold Observed.accept
      rw [hdata]
      rfl
    . intro _
      exact ⟨rfl, rfl⟩
  | refuse q => exact reaches_server h (hupdate q rfl rfl)

theorem reaches_next {s : Household ι} (hs : s.Inv) {p : ι} {tabs : Tabs} (h : s.RunsTabs p tabs)
    {a : Action ι} (he : machine.enabled s a) (ha : ∀ q texts, a ≠ .relaunch q texts)
    : (machine.next s a).Reaches p tabs a.actor (s.effects a) := by
  have hp := hs.mirrors p
  cases a with
  | relaunch q texts => exact absurd rfl (ha q texts)
  | flip q sender isOn => exact reaches_flip hs h he
  | edit q textField text => exact reaches_edit h q textField text
  | list a => exact reaches_list hs h he
  | modeEvent q k => exact reaches_modeEvent hs h q k
  | frameEvent q k => exact reaches_frameEvent h q k
  | mode a =>
    have hcoherent := hp.mode.coherent (List.ne_nil_of_mem hp.watches)
    exact reaches_none (runs_network h rfl rfl (Clients.owes_next he hcoherent) id)
  | frame a =>
    have hcoherent := hp.frame.coherent (List.cons_ne_nil _ _)
    exact reaches_none (runs_network h rfl rfl id (Clients.owes_next he hcoherent))

/--
What phone `p` has done to the outside world since it was launched: before the step it was `es`.
-/
def sinceLaunch (s : Household ι) (p : ι) (es : List Effect) (a : Action ι) : List Effect :=
  if a.actor = some p then
    match a with
    | .relaunch _ _ => s.effects a
    | _ => es ++ s.effects a
  else
    es

def issued (p : ι) : Household ι → List Effect → List (Action ι) → List Effect
  | _, es, [] => es
  | s, es, a :: as => issued p (machine.next s a) (s.sinceLaunch p es a) as

end

end Household

end SmartGarden

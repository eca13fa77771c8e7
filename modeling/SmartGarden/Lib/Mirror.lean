import SmartGarden.Lib.Clients

/-!
This module contains what the observers of one client show. Each observer has an owner, and what an owner
shows is a relation `shows` that its events and the client itself may change. Once no event is left for an
owner, it shows what the client sees.
-/

namespace Observed

variable {V : Type u} {ω : Type v}

/--
No event is left for the observers of `o`.
-/
def IdleFor (s : Observed V) (owners : List ω) (o : ω) : Prop :=
  ∀ k : Nat, owners[k]? = some o → ∀ q ∈ s.queues[k]?, q = []

instance [DecidableEq ω] (s : Observed V) (owners : List ω) (o : ω) : Decidable (s.IdleFor owners o) :=
  decidable_of_iff (∀ k < owners.length, owners[k]? = some o → s.queues[k]?.all List.isEmpty = true)
    ⟨fun h k hk q hq => by
      have hall := h k (List.getElem?_eq_some_iff.mp hk).1 hk
      rw [show s.queues[k]? = some q from hq] at hall
      exact List.isEmpty_iff.mp hall,
    fun h k _ hk => by
      cases hq : s.queues[k]? with
      | none => rfl
      | some q => exact List.isEmpty_iff.mpr (h k hk q hq)⟩

structure Mirrors (s : Observed V) (owners : List ω) (shows : ω → V → Prop) : Prop where
  length : s.queues.length = owners.length
  synced : s.Synced
  told : EndWith s.queues s.seen
  shown : ∀ o ∈ owners, s.IdleFor owners o → ∀ v, s.seen = some v → shows o v

variable {owners : List ω} {shows shows' : ω → V → Prop}

theorem idleFor_of_idle {s : Observed V} (h : s.Idle) (owners : List ω) (o : ω)
    : s.IdleFor owners o := by
  intro k _ q hq
  exact h q (List.mem_of_getElem? hq)

theorem Mirrors.coherent {s : Observed V} (h : s.Mirrors owners shows) (howners : owners ≠ [])
    : s.Coherent where
  watched := by
    intro hqueues
    have hlength := h.length
    rw [hqueues, List.length_nil] at hlength
    exact howners (List.length_eq_zero_iff.mp hlength.symm)
  synced := h.synced
  told := h.told

theorem mirrors_start (v : V) (shows : ω → V → Prop) : ({ stored := v } : Observed V).Mirrors [] shows where
  length := rfl
  synced := by
    intro hlistening
    contradiction
  told := by
    intro w hw
    contradiction
  shown := by
    intro o ho
    contradiction

/--
When nothing is on its way to the client, every owner shows the stored value.
-/
theorem shows_stored {s : Observed V} (h : s.Mirrors owners shows) {o : ω} (ho : o ∈ owners)
    (hquiet : s.Quiet) : shows o s.stored := by
  have hcoherent := h.coherent (List.ne_nil_of_mem ho)
  apply h.shown o ho (idleFor_of_idle hquiet.2.2.2 owners o)
  exact seen_of_quiet hcoherent hquiet

theorem mirrors_mono {s : Observed V} (h : s.Mirrors owners shows)
    (hshows : ∀ o ∈ owners, s.IdleFor owners o → ∀ v, s.seen = some v → shows o v → shows' o v)
    : s.Mirrors owners shows' where
  length := h.length
  synced := h.synced
  told := h.told
  shown := by
    intro o ho hidle v hv
    exact hshows o ho hidle v hv (h.shown o ho hidle v hv)

theorem mirrors_server {s t : Observed V} (h : s.Mirrors owners shows) (hsynced : t.Synced)
    (hqueues : t.queues = s.queues) (hseen : t.seen = s.seen) : t.Mirrors owners shows where
  length := by
    rw [hqueues]
    exact h.length
  synced := hsynced
  told := by
    rw [hqueues, hseen]
    exact h.told
  shown := by
    unfold IdleFor
    rw [hqueues, hseen]
    exact h.shown

/--
A new observer has an event as soon as the client sees a value.
-/
theorem mirrors_observe {s : Observed V} (h : s.Mirrors owners shows) (o : ω)
    (hframe : ∀ other, other ≠ o → ∀ v, shows other v → shows' other v)
    : s.observe.Mirrors (owners ++ [o]) shows' where
  length := by simp [observe, h.length]
  synced := h.synced
  told := (observe_coherent h.synced h.told).told
  shown := by
    intro other hother hidle v hv
    have hseen : s.seen = some v := hv
    by_cases heq : other = o
    . exfalso
      have hk : (owners ++ [o])[s.queues.length]? = some other := by simp [h.length, heq]
      have hmem : [v] ∈ s.observe.queues[s.queues.length]? := by simp [observe, hseen]
      have hnil := hidle _ hk [v] hmem
      contradiction
    . have hold : other ∈ owners := by
        cases List.mem_append.mp hother with
        | inl hold => exact hold
        | inr hlast => exact absurd (List.mem_singleton.mp hlast) heq
      apply hframe other heq
      apply h.shown other hold _ v hseen
      intro k hk q hq
      have hlt : k < s.queues.length := (List.getElem?_eq_some_iff.mp hq).1
      apply hidle k
      . rw [List.getElem?_append_left (h.length ▸ hlt)]
        exact hk
      . rw [show s.observe.queues = s.queues ++ [s.seen.toList] from rfl]
        rw [List.getElem?_append_left hlt]
        exact hq

/--
Observer `k` gets its oldest event, and its owner shows it.
-/
theorem mirrors_take {s : Observed V} (h : s.Mirrors owners shows) {k : Nat} {v : V} {o : ω}
    (hevent : s.event? k = some v) (hk : owners[k]? = some o) (hnew : shows' o v)
    (hframe : ∀ other, other ≠ o → ∀ w, shows other w → shows' other w)
    : (s.take k).Mirrors owners shows' where
  length := by simp [take, h.length]
  synced := h.synced
  told := (take_coherent (h.coherent (List.ne_nil_of_mem (List.mem_of_getElem? hk))) k).told
  shown := by
    intro other hother hidle w hw
    have hseen : s.seen = some w := hw
    by_cases heq : other = o
    . subst heq
      obtain ⟨q, hq, hhead⟩ := Option.bind_eq_some_iff.mp hevent
      obtain ⟨rest, rfl⟩ := List.head?_eq_some_iff.mp hhead
      have hrest : rest = [] := by
        apply hidle k hk
        simp [take, hq]
      have hlast := h.told w hseen (v :: rest) (List.mem_of_getElem? hq) (by simp)
      rw [hrest] at hlast
      rw [← Option.some.inj hlast]
      exact hnew
    . apply hframe other heq
      apply h.shown other hother _ w hseen
      intro j hj q hq
      have hne : k ≠ j := by
        rintro rfl
        rw [hk] at hj
        exact heq (Option.some.inj hj).symm
      apply hidle j hj
      simpa [take, List.getElem?_modify, hne] using hq

theorem mirrors_listen {s : Observed V} (h : s.Mirrors owners shows) : s.listen.Mirrors owners shows := by
  apply mirrors_server h
  . intro _
    simp [listen, Message.update?]
  . rfl
  . rfl

theorem mirrors_put {s : Observed V} (h : s.Mirrors owners shows) (v : V)
    : (s.put v).Mirrors owners shows := by
  apply mirrors_server h
  . intro hlistening
    have hlistening' : s.listening = true := hlistening
    simp [put, hlistening', Message.update?]
  . rfl
  . rfl

theorem mirrors_refuse {s : Observed V} (h : s.Mirrors owners shows) : s.refuse.Mirrors owners shows := by
  apply mirrors_server h
  . intro hlistening
    have hsynced := h.synced hlistening
    simpa [refuse, Message.update?] using hsynced
  . rfl
  . rfl

theorem mirrors_accept {s : Observed V} (h : s.Mirrors owners shows) : s.accept.Mirrors owners shows := by
  unfold accept
  split
  . next v _ => exact mirrors_refuse (mirrors_put h v)
  . exact h

theorem not_idleFor_raised {s : Observed V} (hlength : s.queues.length = owners.length) {o : ω}
    (ho : o ∈ owners) (v : V) : ¬ IdleFor { s with queues := s.queues.map (· ++ [v]) } owners o := by
  intro hidle
  obtain ⟨k, hk⟩ := List.getElem?_of_mem ho
  have hlt : k < s.queues.length := by
    rw [hlength]
    exact (List.getElem?_eq_some_iff.mp hk).1
  have hmem : s.queues[k] ++ [v] ∈ (s.queues.map (· ++ [v]))[k]? := by simp [hlt]
  have hnil := hidle k hk _ hmem
  simp at hnil

section

variable [DecidableEq V]

theorem mirrors_raise {s : Observed V} {old : Option V}
    (hlength : s.queues.length = owners.length) (hcoherent : (raise old s).Coherent)
    (hshown : ∀ o ∈ owners, s.IdleFor owners o → ∀ v, s.seen = some v → old = some v → shows o v)
    : (raise old s).Mirrors owners shows where
  length := by
    rcases raise_cases old s with ⟨heq, _⟩ | ⟨v, _, heq⟩
    . rw [heq]
      exact hlength
    . rw [heq]
      simpa using hlength
  synced := hcoherent.synced
  told := hcoherent.told
  shown := by
    intro o ho hidle v hv
    rw [raise_seen] at hv
    rcases raise_cases old s with ⟨heq, hsame⟩ | ⟨w, _, heq⟩
    . rw [heq] at hidle
      apply hshown o ho hidle v hv
      cases hsame with
      | inl hnone =>
        rw [hnone] at hv
        contradiction
      | inr hold => rw [← hold, hv]
    . rw [heq] at hidle
      exact absurd hidle (not_idleFor_raised hlength ho w)

/--
The client writes `v`. Only a client that saw `v` before leaves an owner without a new event.
-/
theorem mirrors_write {s : Observed V} (h : s.Mirrors owners shows) (howners : owners ≠ []) (v : V)
    (hshows : ∀ o ∈ owners, s.IdleFor owners o → s.seen = some v → shows' o v)
    : (s.write v).Mirrors owners shows' := by
  apply mirrors_raise
  . exact h.length
  . exact write_coherent (h.coherent howners) v
  . intro o ho hidle w hw hold
    have hwrite : w = v := by simpa [seen, eq_comm] using hw
    rw [hwrite] at hold ⊢
    exact hshows o ho hidle hold

theorem mirrors_receive {s : Observed V} (h : s.Mirrors owners shows) (howners : owners ≠ [])
    : s.receive.Mirrors owners shows := by
  have hcoherent := receive_coherent (h.coherent howners)
  unfold receive at hcoherent ⊢
  split at hcoherent
  . refine mirrors_raise h.length hcoherent ?_
    intro o ho hidle v _ hold
    exact h.shown o ho hidle v hold
  . refine mirrors_raise h.length hcoherent ?_
    intro o ho hidle v _ hold
    exact h.shown o ho hidle v hold
  . exact h

theorem stable_mirrors (howners : owners ≠ []) (shows : ω → V → Prop)
    : Clients.Stable fun s : Observed V => s.Mirrors owners shows where
  receive := fun _ h => mirrors_receive h howners
  listen := fun _ h => mirrors_listen h
  put := fun _ v h => mirrors_put h v
  accept := fun _ h => mirrors_accept h
  refuse := fun _ h => mirrors_refuse h

end

section

/--
The client has not seen a value yet, or an observer of it has an event to come.
-/
def Owes (s : Observed V) : Prop :=
  s.seen = none ∨ ¬ s.Idle

theorem owes_observe (s : Observed V) : s.observe.Owes := by
  by_cases hidle : s.observe.Idle
  . have hseen : s.seen = none := observe_idle hidle
    exact Or.inl hseen
  . exact Or.inr hidle

variable [DecidableEq V]

theorem owes_write {s : Observed V} (h : s.Coherent) (howes : s.Owes) (v : V) : (s.write v).Owes := by
  by_cases hidle : (s.write v).Idle
  . obtain ⟨hold, hseen⟩ := write_idle h hidle
    cases howes with
    | inl hnone =>
      rw [hnone] at hseen
      contradiction
    | inr hnot => exact absurd hold hnot
  . exact Or.inr hidle

theorem owes_receive {s : Observed V} (h : s.Coherent) (howes : s.Owes) : s.receive.Owes := by
  by_cases hidle : s.receive.Idle
  . obtain ⟨hold, hseen⟩ := receive_idle h hidle
    cases hseen with
    | inl hnone => exact Or.inl hnone
    | inr hsame =>
      cases howes with
      | inl hnone => exact Or.inl (hsame.trans hnone)
      | inr hnot => exact absurd hold hnot
  . exact Or.inr hidle

theorem stable_owes : Clients.Stable fun s : Observed V => s.Coherent ∧ s.Owes where
  receive := fun _ h => ⟨receive_coherent h.1, owes_receive h.1 h.2⟩
  listen := fun _ h => ⟨listen_coherent h.1, h.2⟩
  put := fun _ v h => ⟨put_coherent h.1 v, h.2⟩
  accept := by
    intro s h
    refine ⟨accept_coherent h.1, ?_⟩
    unfold Owes Idle
    rw [(accept_frame s).1, (accept_frame s).2]
    exact h.2
  refuse := fun _ h => ⟨refuse_coherent h.1, h.2⟩

end

end Observed

namespace Clients

/--
The network keeps owing a client an event until the client gets it.
-/
theorem owes_next {ι : Type u} {V : Type v} [DecidableEq ι] [DecidableEq V] {s : Clients ι V}
    {a : Action ι V} (he : s.enabled a) {p : ι} (hcoherent : (s.client p).Coherent)
    (howes : (s.client p).Owes) : ((s.next a).client p).Owes := by
  have hp : p = p → ((s.next a).client p).Coherent ∧ ((s.next a).client p).Owes := by
    apply forall_next (I := fun q c => q = p → c.Coherent ∧ c.Owes)
      (fun _ => stable_imp _ Observed.stable_owes)
    . rintro q rfl
      exact ⟨hcoherent, howes⟩
    . exact he
  exact (hp rfl).2

end Clients

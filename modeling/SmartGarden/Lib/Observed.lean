/-!
This module contains a value on a server together with one client that writes it and observes it. The
client sees its own writes before they are answered. Each observer has a queue of value events and gets
one when it is registered and one whenever the value that the client sees changes.
-/

/--
A message of the server to the client: the stored value has been set, or the oldest unanswered write of
the client has been answered.
-/
inductive Message (V : Type u) where
  | update (v : V)
  | answered
  deriving DecidableEq

def Message.update? {V : Type u} : Message V → Option V
  | .update v => some v
  | .answered => none

structure Observed (V : Type u) where
  stored : V
  -- The server sends its updates to the client.
  listening : Bool := false
  inbox : List (Message V) := []
  -- What the server has told last, and the writes that it has not answered yet, oldest first.
  known : Option V := none
  pending : List V := []
  -- The events that each observer still has to receive, oldest first.
  queues : List (List V) := []

namespace Observed

section

variable {V : Type u}

def seen (s : Observed V) : Option V :=
  s.pending.getLast?.or s.known

def observe (s : Observed V) : Observed V :=
  { s with queues := s.queues ++ [s.seen.toList] }

def take (s : Observed V) (k : Nat) : Observed V :=
  { s with queues := s.queues.modify k List.tail }

def event? (s : Observed V) (k : Nat) : Option V :=
  s.queues[k]? >>= List.head?

def listen (s : Observed V) : Observed V :=
  { s with listening := true, inbox := s.inbox ++ [.update s.stored] }

def put (s : Observed V) (v : V) : Observed V :=
  { s with stored := v, inbox := if s.listening then s.inbox ++ [.update v] else s.inbox }

def next? (s : Observed V) : Option V :=
  s.pending[s.inbox.countP fun message => message.update?.isNone]?

def refuse (s : Observed V) : Observed V :=
  { s with inbox := s.inbox ++ [.answered] }

def accept (s : Observed V) : Observed V :=
  match s.next? with
  | some v => (s.put v).refuse
  | none => s

def Idle (s : Observed V) : Prop :=
  ∀ q ∈ s.queues, q = []

instance [DecidableEq V] (s : Observed V) : Decidable s.Idle :=
  inferInstanceAs (Decidable (∀ q ∈ s.queues, q = []))

/--
The client has the first snapshot, no write is unanswered, and no message or event is undelivered.
-/
def Quiet (s : Observed V) : Prop :=
  s.listening = true ∧ s.inbox = [] ∧ s.pending = [] ∧ s.Idle

instance [DecidableEq V] (s : Observed V) : Decidable s.Quiet :=
  inferInstanceAs (Decidable (s.listening = true ∧ s.inbox = [] ∧ s.pending = [] ∧ s.Idle))

/--
The last update on the way, or else the last one received, is the stored value.
-/
def Synced (s : Observed V) : Prop :=
  s.listening = true → ((s.inbox.filterMap Message.update?).getLast?).or s.known = some s.stored

/--
Every queue with an event ends with `v?`, if this is a value.
-/
def EndWith (queues : List (List V)) (v? : Option V) : Prop :=
  ∀ v ∈ v?, ∀ q ∈ queues, q ≠ [] → q.getLast? = some v

structure Coherent (s : Observed V) : Prop where
  watched : s.queues ≠ []
  synced : s.Synced
  told : EndWith s.queues s.seen

theorem seen_of_quiet {s : Observed V} (h : s.Coherent) (hquiet : s.Quiet)
    : s.seen = some s.stored := by
  obtain ⟨hlistening, hinbox, hpending, _⟩ := hquiet
  have hsynced := h.synced hlistening
  rw [hinbox] at hsynced
  unfold seen
  rw [hpending]
  exact hsynced

theorem observe_coherent {s : Observed V} (hsynced : s.Synced) (htold : EndWith s.queues s.seen)
    : s.observe.Coherent where
  watched := by simp [observe]
  synced := hsynced
  told := by
    intro v hv q hq hne
    have hseen : s.seen = some v := hv
    cases List.mem_append.mp hq with
    | inl hold =>
      exact htold v hseen q hold hne
    | inr hnew =>
      rw [List.mem_singleton.mp hnew, hseen]
      rfl

theorem observe_idle {s : Observed V} (hidle : s.observe.Idle) : s.seen = none := by
  have hnil := hidle s.seen.toList (by simp [observe])
  rwa [Option.toList_eq_nil_iff] at hnil

theorem getLast?_tail {q : List V} (h : q.tail ≠ []) : q.tail.getLast? = q.getLast? := by
  cases q with
  | nil => rfl
  | cons v q =>
    cases q with
    | nil => contradiction
    | cons w q => simp

theorem event?_eq_none {s : Observed V} (hidle : s.Idle) (k : Nat) : s.event? k = none := by
  unfold event?
  cases hq : s.queues[k]? with
  | none => rfl
  | some q =>
    rw [hidle q (List.mem_of_getElem? hq)]
    rfl

theorem take_coherent {s : Observed V} (h : s.Coherent) (k : Nat) : (s.take k).Coherent where
  watched := by
    intro hnil
    apply h.watched
    have hlength := congrArg List.length hnil
    simp only [take, List.length_modify, List.length_nil] at hlength
    exact List.length_eq_zero_iff.mp hlength
  synced := h.synced
  told := by
    intro v hv q hq hne
    obtain ⟨i, hi⟩ := List.getElem?_of_mem hq
    simp only [take, List.getElem?_modify, Option.map_eq_map, Option.map_eq_some_iff] at hi
    obtain ⟨q', hq', rfl⟩ := hi
    have hlast := h.told v hv q' (List.mem_of_getElem? hq')
    split at hne
    . next hk =>
      simp only [hk, ↓reduceIte]
      rw [getLast?_tail hne]
      apply hlast
      rintro rfl
      contradiction
    . next hk =>
      simp only [hk, ↓reduceIte]
      exact hlast hne

theorem event?_of_idle {s : Observed V} (h : s.Coherent) {k : Nat} {v w : V}
    (hevent : s.event? k = some v) (hidle : (s.take k).Idle) (hseen : s.seen = some w) : v = w := by
  obtain ⟨q, hq, hhead⟩ := Option.bind_eq_some_iff.mp hevent
  have htail : q.tail = [] := by
    apply hidle
    apply List.mem_of_getElem? (i := k)
    simp [take, hq]
  have heq : q = [v] := by
    obtain ⟨rest, rfl⟩ := List.head?_eq_some_iff.mp hhead
    rw [List.tail_cons] at htail
    rw [htail]
  have hlast := h.told w hseen q (List.mem_of_getElem? hq) (by simp [heq])
  rw [heq] at hlast
  exact Option.some.inj hlast

theorem listen_coherent {s : Observed V} (h : s.Coherent) : s.listen.Coherent where
  watched := h.watched
  synced := by
    intro _
    simp [listen, Message.update?]
  told := h.told

theorem put_coherent {s : Observed V} (h : s.Coherent) (v : V) : (s.put v).Coherent where
  watched := h.watched
  synced := by
    intro hlistening
    have hlistening' : s.listening = true := hlistening
    simp [put, hlistening', Message.update?]
  told := h.told

theorem refuse_coherent {s : Observed V} (h : s.Coherent) : s.refuse.Coherent where
  watched := h.watched
  synced := by
    intro hlistening
    have hsynced := h.synced hlistening
    simpa [refuse, Message.update?] using hsynced
  told := h.told

theorem accept_frame (s : Observed V) : s.accept.queues = s.queues ∧ s.accept.seen = s.seen := by
  unfold accept
  split <;> exact ⟨rfl, rfl⟩

theorem accept_coherent {s : Observed V} (h : s.Coherent) : s.accept.Coherent := by
  unfold accept
  split
  . next v _ => exact refuse_coherent (put_coherent h v)
  . exact h

end

section

variable {V : Type u} [DecidableEq V]

def raise (old : Option V) (s : Observed V) : Observed V :=
  match s.seen with
  | some v => if old = some v then s else { s with queues := s.queues.map (· ++ [v]) }
  | none => s

def write (s : Observed V) (v : V) : Observed V :=
  raise s.seen { s with pending := s.pending ++ [v] }

def receive (s : Observed V) : Observed V :=
  match s.inbox with
  | .update v :: rest => raise s.seen { s with inbox := rest, known := some v }
  | .answered :: rest => raise s.seen { s with inbox := rest, pending := s.pending.tail }
  | [] => s

theorem raise_cases (old : Option V) (s : Observed V)
    : (raise old s = s ∧ (s.seen = none ∨ s.seen = old))
        ∨
      ∃ v, s.seen = some v ∧ raise old s = { s with queues := s.queues.map (· ++ [v]) } := by
  unfold raise
  split
  . next v hv =>
    split
    . next hold => exact Or.inl ⟨rfl, Or.inr (hv.trans hold.symm)⟩
    . exact Or.inr ⟨v, hv, rfl⟩
  . next hv => exact Or.inl ⟨rfl, Or.inl hv⟩

theorem raise_frame (old : Option V) (s : Observed V)
    : ∃ queues, raise old s = { s with queues := queues } := by
  rcases raise_cases old s with ⟨heq, _⟩ | ⟨v, _, heq⟩
  . exact ⟨s.queues, heq⟩
  . exact ⟨_, heq⟩

@[simp]
theorem raise_seen (old : Option V) (s : Observed V) : (raise old s).seen = s.seen := by
  rcases raise_cases old s with ⟨heq, _⟩ | ⟨v, _, heq⟩
  . rw [heq]
  . rw [heq]
    rfl

theorem write_stored (s : Observed V) (v : V) : (s.write v).stored = s.stored := by
  obtain ⟨queues, heq⟩ := raise_frame s.seen { s with pending := s.pending ++ [v] }
  unfold write
  rw [heq]

theorem receive_frame (s : Observed V)
    : s.receive.stored = s.stored ∧ s.receive.listening = s.listening := by
  unfold receive
  split
  . next v rest _ =>
    obtain ⟨queues, heq⟩ := raise_frame s.seen { s with inbox := rest, known := some v }
    rw [heq]
    exact ⟨rfl, rfl⟩
  . next rest _ =>
    obtain ⟨queues, heq⟩ := raise_frame s.seen { s with inbox := rest, pending := s.pending.tail }
    rw [heq]
    exact ⟨rfl, rfl⟩
  . exact ⟨rfl, rfl⟩

theorem length_queues_raise (old : Option V) (s : Observed V)
    : (raise old s).queues.length = s.queues.length := by
  rcases raise_cases old s with ⟨heq, _⟩ | ⟨v, _, heq⟩
  . rw [heq]
  . rw [heq, List.length_map]

theorem length_queues_write (s : Observed V) (v : V)
    : (s.write v).queues.length = s.queues.length := by
  apply length_queues_raise

theorem length_pending_write (s : Observed V) (v : V)
    : (s.write v).pending.length = s.pending.length + 1 := by
  obtain ⟨queues, heq⟩ := raise_frame s.seen { s with pending := s.pending ++ [v] }
  unfold write
  rw [heq]
  simp

theorem length_queues_receive (s : Observed V) : s.receive.queues.length = s.queues.length := by
  unfold receive
  split
  . apply length_queues_raise
  . apply length_queues_raise
  . rfl

theorem pending_receive (s : Observed V)
    : s.receive.pending =
        match s.inbox with
        | .answered :: _ => s.pending.tail
        | _ => s.pending := by
  have hraise : ∀ old (t : Observed V), (raise old t).pending = t.pending := by
    intro old t
    obtain ⟨queues, heq⟩ := raise_frame old t
    rw [heq]
  unfold receive
  split
  . next h =>
    rw [h]
    exact hraise _ _
  . next h =>
    rw [h]
    exact hraise _ _
  . next h => rw [h]

theorem raise_idle {old : Option V} {s : Observed V} (hwatched : s.queues ≠ [])
    (hidle : (raise old s).Idle) : s.Idle ∧ (s.seen = none ∨ s.seen = old) := by
  rcases raise_cases old s with ⟨heq, hseen⟩ | ⟨v, _, heq⟩
  . rw [heq] at hidle
    exact ⟨hidle, hseen⟩
  . -- There is an observer, and it has just got an event.
    obtain ⟨q, hq⟩ := List.exists_mem_of_ne_nil _ hwatched
    rw [heq] at hidle
    have hnil := hidle (q ++ [v]) (List.mem_map_of_mem hq)
    simp at hnil

theorem raise_coherent {old : Option V} {s : Observed V} (hwatched : s.queues ≠ [])
    (hsynced : s.Synced) (htold : EndWith s.queues old) : (raise old s).Coherent := by
  rcases raise_cases old s with ⟨heq, hseen⟩ | ⟨v, hv, heq⟩
  . rw [heq]
    refine ⟨hwatched, hsynced, ?_⟩
    cases hseen with
    | inl hnone =>
      rw [hnone]
      intro v hv
      contradiction
    | inr hold =>
      rw [hold]
      exact htold
  . rw [heq]
    refine ⟨by simpa using hwatched, hsynced, ?_⟩
    intro w hw q hq _
    have hw' : s.seen = some w := hw
    obtain ⟨q', _, rfl⟩ := List.mem_map.mp hq
    rw [List.getLast?_concat, ← hw', hv]

theorem write_seen (s : Observed V) (v : V) : (s.write v).seen = some v := by
  unfold write
  rw [raise_seen]
  simp [seen]

theorem write_coherent {s : Observed V} (h : s.Coherent) (v : V) : (s.write v).Coherent :=
  raise_coherent h.watched h.synced h.told

theorem write_idle {s : Observed V} (h : s.Coherent) {v : V} (hidle : (s.write v).Idle)
    : s.Idle ∧ s.seen = some v := by
  have hv := write_seen s v
  unfold write at hv hidle
  rw [raise_seen] at hv
  have hraise := raise_idle (by exact h.watched) hidle
  rw [hv] at hraise
  refine ⟨hraise.1, ?_⟩
  cases hraise.2 with
  | inl hnone =>
    contradiction
  | inr hold =>
    exact hold.symm

theorem receive_coherent {s : Observed V} (h : s.Coherent) : s.receive.Coherent := by
  unfold receive
  split
  . next v rest hinbox =>
    refine raise_coherent h.watched ?_ h.told
    intro hlistening
    have hsynced := h.synced hlistening
    rw [hinbox] at hsynced
    have hcons : (Message.update v :: rest).filterMap Message.update?
        = v :: rest.filterMap Message.update? := rfl
    rw [hcons, List.getLast?_cons] at hsynced
    dsimp
    cases hlast : (rest.filterMap Message.update?).getLast? with
    | none => simpa [hlast] using hsynced
    | some last => simpa [hlast] using hsynced
  . next rest hinbox =>
    refine raise_coherent h.watched ?_ h.told
    intro hlistening
    have hsynced := h.synced hlistening
    rw [hinbox] at hsynced
    exact hsynced
  . exact h

theorem receive_idle {s : Observed V} (h : s.Coherent) (hidle : s.receive.Idle)
    : s.Idle ∧ (s.receive.seen = none ∨ s.receive.seen = s.seen) := by
  unfold receive at hidle ⊢
  split at hidle
  . rw [raise_seen]
    exact raise_idle (by exact h.watched) hidle
  . rw [raise_seen]
    exact raise_idle (by exact h.watched) hidle
  . exact ⟨hidle, Or.inr rfl⟩

end

section

variable {V : Type u} {P : V → Prop}

/--
Every value that is stored, on the way, known, pending or queued satisfies `P`.
-/
structure All (P : V → Prop) (s : Observed V) : Prop where
  stored : P s.stored
  inbox : ∀ message ∈ s.inbox, ∀ v ∈ message.update?, P v
  known : ∀ v ∈ s.known, P v
  pending : ∀ v ∈ s.pending, P v
  queues : ∀ q ∈ s.queues, ∀ v ∈ q, P v

theorem all_seen {s : Observed V} (h : s.All P) {v : V} (hv : s.seen = some v) : P v := by
  unfold seen at hv
  cases Option.or_eq_some_iff.mp hv with
  | inl hpending => exact h.pending v (List.mem_of_getLast? hpending)
  | inr hknown => exact h.known v hknown.2

theorem all_observe {s : Observed V} (h : s.All P) : s.observe.All P where
  stored := h.stored
  inbox := h.inbox
  known := h.known
  pending := h.pending
  queues := by
    intro q hq v hv
    cases List.mem_append.mp hq with
    | inl hold => exact h.queues q hold v hv
    | inr hnew =>
      rw [List.mem_singleton.mp hnew, Option.mem_toList] at hv
      exact all_seen h hv

theorem all_take {s : Observed V} (h : s.All P) (k : Nat) : (s.take k).All P where
  stored := h.stored
  inbox := h.inbox
  known := h.known
  pending := h.pending
  queues := by
    intro q hq v hv
    obtain ⟨i, hi⟩ := List.getElem?_of_mem hq
    simp only [take, List.getElem?_modify, Option.map_eq_map, Option.map_eq_some_iff] at hi
    obtain ⟨q', hq', rfl⟩ := hi
    apply h.queues q' (List.mem_of_getElem? hq')
    split at hv
    . exact List.mem_of_mem_tail hv
    . exact hv

theorem all_event? {s : Observed V} (h : s.All P) {k : Nat} {v : V} (hv : s.event? k = some v)
    : P v := by
  obtain ⟨q, hq, hhead⟩ := Option.bind_eq_some_iff.mp hv
  exact h.queues q (List.mem_of_getElem? hq) v (List.mem_of_head? hhead)

theorem all_listen {s : Observed V} (h : s.All P) : s.listen.All P where
  stored := h.stored
  inbox := by
    intro message hmessage v hv
    cases List.mem_append.mp hmessage with
    | inl hold => exact h.inbox message hold v hv
    | inr hnew =>
      rw [List.mem_singleton.mp hnew] at hv
      rw [← Option.some.inj hv]
      exact h.stored
  known := h.known
  pending := h.pending
  queues := h.queues

theorem all_put {s : Observed V} (h : s.All P) {v : V} (hv : P v) : (s.put v).All P where
  stored := hv
  inbox := by
    intro message hmessage w hw
    dsimp [put] at hmessage
    split at hmessage
    . cases List.mem_append.mp hmessage with
      | inl hold => exact h.inbox message hold w hw
      | inr hnew =>
        rw [List.mem_singleton.mp hnew] at hw
        rwa [← Option.some.inj hw]
    . exact h.inbox message hmessage w hw
  known := h.known
  pending := h.pending
  queues := h.queues

theorem all_refuse {s : Observed V} (h : s.All P) : s.refuse.All P where
  stored := h.stored
  inbox := by
    intro message hmessage v hv
    cases List.mem_append.mp hmessage with
    | inl hold => exact h.inbox message hold v hv
    | inr hnew =>
      rw [List.mem_singleton.mp hnew] at hv
      contradiction
  known := h.known
  pending := h.pending
  queues := h.queues

theorem all_next? {s : Observed V} (h : s.All P) {v : V} (hv : s.next? = some v) : P v := by
  exact h.pending v (List.mem_of_getElem? hv)

variable [DecidableEq V]

theorem all_raise {old : Option V} {s : Observed V} (h : s.All P) : (raise old s).All P := by
  rcases raise_cases old s with ⟨heq, _⟩ | ⟨v, hv, heq⟩
  . rw [heq]
    exact h
  . rw [heq]
    refine ⟨h.stored, h.inbox, h.known, h.pending, ?_⟩
    intro q hq w hw
    obtain ⟨q', hq', rfl⟩ := List.mem_map.mp hq
    cases List.mem_append.mp hw with
    | inl hold => exact h.queues q' hq' w hold
    | inr hnew =>
      rw [List.mem_singleton.mp hnew]
      exact all_seen h hv

theorem all_write {s : Observed V} (h : s.All P) {v : V} (hv : P v) : (s.write v).All P := by
  apply all_raise
  refine ⟨h.stored, h.inbox, h.known, ?_, h.queues⟩
  intro w hw
  cases List.mem_append.mp hw with
  | inl hold => exact h.pending w hold
  | inr hnew => rwa [List.mem_singleton.mp hnew]

theorem all_receive {s : Observed V} (h : s.All P) : s.receive.All P := by
  unfold receive
  split
  . next v rest hinbox =>
    apply all_raise
    refine ⟨h.stored, ?_, ?_, h.pending, h.queues⟩
    . intro message hmessage
      apply h.inbox
      rw [hinbox]
      exact List.mem_cons_of_mem _ hmessage
    . intro w hw
      apply h.inbox (.update v)
      . rw [hinbox]
        apply List.mem_cons_self
      . exact hw
  . next rest hinbox =>
    apply all_raise
    refine ⟨h.stored, ?_, h.known, ?_, h.queues⟩
    . intro message hmessage
      apply h.inbox
      rw [hinbox]
      exact List.mem_cons_of_mem _ hmessage
    . intro w hw
      exact h.pending w (List.mem_of_mem_tail hw)
  . exact h

end

end Observed

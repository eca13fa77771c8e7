import Mathlib.Algebra.BigOperators.Group.Finset.Piecewise
import Mathlib.Algebra.Order.BigOperators.Group.Finset
import Mathlib.Tactic.Ring
import SmartGarden.Lib.Clients

/-!
This module contains how much a network of clients still has to deliver. If a client has at most `r`
observers, a message to it is worth its own delivery and `r` events, and a write is worth its answer and
the messages that its commit sends to all clients, which are worth `cost`.
-/

open Finset

namespace Observed

variable {V : Type u}

def events (s : Observed V) : Nat :=
  (s.queues.map List.length).sum

def unanswered (s : Observed V) : Nat :=
  s.pending.length - s.inbox.countP fun message => message.update?.isNone

def work (r cost : Nat) (s : Observed V) : Nat :=
  s.events + s.inbox.length * (1 + r) + (if s.listening then 0 else 2 + r) + s.unanswered * (2 + r + cost)

theorem work_mono {r r' cost cost' : Nat} (hr : r ≤ r') (hcost : cost ≤ cost') (s : Observed V)
    : s.work r cost ≤ s.work r' cost' := by
  have hinbox : s.inbox.length * (1 + r) ≤ s.inbox.length * (1 + r') :=
    Nat.mul_le_mul_left _ (by omega)
  have hunanswered : s.unanswered * (2 + r + cost) ≤ s.unanswered * (2 + r' + cost') :=
    Nat.mul_le_mul_left _ (by omega)
  unfold work
  split <;> omega

theorem sum_length_modify_tail {queues : List (List V)} {k : Nat} {v : V} {rest : List V}
    (h : queues[k]? = some (v :: rest))
    : ((queues.modify k List.tail).map List.length).sum + 1 = (queues.map List.length).sum := by
  induction queues generalizing k with
  | nil => contradiction
  | cons q queues ih =>
    cases k with
    | zero =>
      rw [List.getElem?_cons_zero] at h
      rw [Option.some.inj h, List.modify_zero_cons]
      simp only [List.map_cons, List.sum_cons, List.tail_cons, List.length_cons]
      omega
    | succ k =>
      rw [List.getElem?_cons_succ] at h
      have hrest := ih h
      rw [List.modify_succ_cons, List.map_cons, List.map_cons, List.sum_cons, List.sum_cons]
      omega

theorem sum_length_map_concat (queues : List (List V)) (v : V)
    : ((queues.map (· ++ [v])).map List.length).sum = (queues.map List.length).sum + queues.length := by
  induction queues with
  | nil => rfl
  | cons q queues ih =>
    simp only [List.map_cons, List.sum_cons, List.length_append, List.length_cons, List.length_nil, ih]
    omega

theorem events_take {s : Observed V} {k : Nat} (h : (s.event? k).isSome)
    : (s.take k).events + 1 = s.events := by
  obtain ⟨v, hv⟩ := Option.isSome_iff_exists.mp h
  obtain ⟨q, hq, hhead⟩ := Option.bind_eq_some_iff.mp hv
  obtain ⟨rest, rfl⟩ := List.head?_eq_some_iff.mp hhead
  exact sum_length_modify_tail hq

theorem work_congr {s t : Observed V} {r cost : Nat} (hinbox : t.inbox = s.inbox)
    (hlistening : t.listening = s.listening) (hpending : t.pending = s.pending)
    : t.work r cost + s.events = s.work r cost + t.events := by
  unfold work unanswered
  rw [hinbox, hlistening, hpending]
  omega

theorem work_take {s : Observed V} {k : Nat} (h : (s.event? k).isSome) (r cost : Nat)
    : (s.take k).work r cost < s.work r cost := by
  have hevents := events_take h
  have hwork : (s.take k).work r cost + s.events = s.work r cost + (s.take k).events :=
    work_congr rfl rfl rfl
  omega

theorem work_observe (s : Observed V) (r cost : Nat)
    : s.observe.work r cost ≤ s.work r cost + 1 := by
  have hevents : s.observe.events = s.events + s.seen.toList.length := by
    simp [events, observe]
  have hle : s.seen.toList.length ≤ 1 := by
    cases s.seen <;> simp
  have hwork : s.observe.work r cost + s.events = s.work r cost + s.observe.events :=
    work_congr rfl rfl rfl
  omega

theorem unanswered_concat_update (s : Observed V) (v : V)
    : unanswered { s with inbox := s.inbox ++ [.update v] } = s.unanswered := by
  simp [unanswered, Message.update?]

theorem work_listen {s : Observed V} (h : s.listening = false) (r cost : Nat)
    : s.listen.work r cost + 1 = s.work r cost := by
  have hunanswered : s.listen.unanswered = s.unanswered := unanswered_concat_update s s.stored
  have hevents : s.listen.events = s.events := rfl
  have hinbox : s.listen.inbox.length * (1 + r) = s.inbox.length * (1 + r) + (1 + r) := by
    simp only [listen, List.length_append, List.length_singleton]
    ring
  have hlistening : s.listen.listening = true := rfl
  unfold work
  rw [hunanswered, hevents, hinbox, hlistening, h]
  simp only [↓reduceIte, Bool.false_eq_true]
  omega

theorem unanswered_put (s : Observed V) (v : V) : (s.put v).unanswered = s.unanswered := by
  unfold put
  split
  . exact unanswered_concat_update s v
  . rfl

theorem work_put (s : Observed V) (v : V) (r cost : Nat)
    : (s.put v).work r cost ≤ s.work r cost + (1 + r) := by
  have hevents : (s.put v).events = s.events := rfl
  have hlistening : (s.put v).listening = s.listening := rfl
  have hinbox : (s.put v).inbox.length ≤ s.inbox.length + 1 := by
    unfold put
    dsimp only
    split
    . rw [List.length_append, List.length_singleton]
    . omega
  have hmul : (s.put v).inbox.length * (1 + r) ≤ s.inbox.length * (1 + r) + (1 + r) := by
    calc
      (s.put v).inbox.length * (1 + r) ≤ (s.inbox.length + 1) * (1 + r) := Nat.mul_le_mul_right _ hinbox
      _ = s.inbox.length * (1 + r) + (1 + r) := by ring
  unfold work
  rw [unanswered_put, hevents, hlistening]
  omega

theorem unanswered_refuse {s : Observed V} (h : s.next?.isSome)
    : s.refuse.unanswered + 1 = s.unanswered := by
  obtain ⟨v, hv⟩ := Option.isSome_iff_exists.mp h
  obtain ⟨hlt, _⟩ := List.getElem?_eq_some_iff.mp hv
  have hcount : s.refuse.inbox.countP (fun message => message.update?.isNone)
      = s.inbox.countP (fun message => message.update?.isNone) + 1 := by
    simp [refuse, Message.update?]
  have hpending : s.refuse.pending = s.pending := rfl
  unfold unanswered
  rw [hcount, hpending]
  omega

/--
An answer costs its delivery, and frees what the write was worth.
-/
theorem work_refuse {s : Observed V} (h : s.next?.isSome) (r cost : Nat)
    : s.refuse.work r cost + (1 + cost) = s.work r cost := by
  have hevents : s.refuse.events = s.events := rfl
  have hlistening : s.refuse.listening = s.listening := rfl
  have hunanswered : s.unanswered * (2 + r + cost)
      = s.refuse.unanswered * (2 + r + cost) + (2 + r + cost) := by
    rw [← unanswered_refuse h]
    ring
  have hinbox : s.refuse.inbox.length * (1 + r) = s.inbox.length * (1 + r) + (1 + r) := by
    simp only [refuse, List.length_append, List.length_singleton]
    ring
  unfold work
  rw [hunanswered, hevents, hlistening, hinbox]
  omega

theorem work_accept {s : Observed V} (h : s.next?.isSome) (r cost : Nat)
    : s.accept.work r cost + cost ≤ s.work r cost + r := by
  obtain ⟨v, hv⟩ := Option.isSome_iff_exists.mp h
  have haccept : s.accept = (s.put v).refuse := by
    unfold accept
    rw [hv]
  have hnext : (s.put v).next?.isSome := by
    have hcount : (s.put v).inbox.countP (fun message => message.update?.isNone)
        = s.inbox.countP (fun message => message.update?.isNone) := by
      unfold put
      split <;> simp [Message.update?]
    unfold next? at h ⊢
    rw [hcount]
    exact h
  have hput := work_put s v r cost
  have hrefuse := work_refuse hnext r cost
  rw [haccept]
  omega

theorem work_pop {s t : Observed V} {message : Message V} (hinbox : s.inbox = message :: t.inbox)
    (hunanswered : t.unanswered = s.unanswered) (hqueues : t.queues = s.queues)
    (hlistening : t.listening = s.listening) (r cost : Nat)
    : t.work r cost + (1 + r) = s.work r cost := by
  have hlength : s.inbox.length * (1 + r) = t.inbox.length * (1 + r) + (1 + r) := by
    rw [hinbox, List.length_cons]
    ring
  unfold work events
  rw [hunanswered, hqueues, hlistening, hlength]
  omega

section

variable [DecidableEq V]

theorem work_raise {old : Option V} {s : Observed V} {r : Nat} (h : s.queues.length ≤ r) (cost : Nat)
    : (raise old s).work r cost ≤ s.work r cost + r := by
  rcases raise_cases old s with ⟨heq, _⟩ | ⟨v, _, heq⟩
  . rw [heq]
    omega
  . rw [heq]
    have hevents : events { s with queues := s.queues.map (· ++ [v]) } = s.events + s.queues.length :=
      sum_length_map_concat s.queues v
    have hwork : work r cost { s with queues := s.queues.map (· ++ [v]) } + s.events
        = s.work r cost + events { s with queues := s.queues.map (· ++ [v]) } :=
      work_congr rfl rfl rfl
    omega

theorem work_raise_pop {old : Option V} {s t : Observed V} {message : Message V} {r : Nat}
    (hinbox : s.inbox = message :: t.inbox) (hunanswered : t.unanswered = s.unanswered)
    (hqueues : t.queues = s.queues) (hlistening : t.listening = s.listening)
    (hr : s.queues.length ≤ r) (cost : Nat) : (raise old t).work r cost < s.work r cost := by
  rw [← hqueues] at hr
  have hraise : (raise old t).work r cost ≤ t.work r cost + r := work_raise hr cost
  have hpop := work_pop hinbox hunanswered hqueues hlistening r cost
  omega

/--
A message that is received frees its delivery and the events that it raises.
-/
theorem work_receive {s : Observed V} {r : Nat} (hinbox : s.inbox ≠ [])
    (hr : s.queues.length ≤ r) (cost : Nat) : s.receive.work r cost < s.work r cost := by
  unfold receive
  split
  . next v rest h =>
    have hunanswered : unanswered { s with inbox := rest, known := some v } = s.unanswered := by
      unfold unanswered
      rw [h, List.countP_cons]
      rfl
    exact work_raise_pop h hunanswered rfl rfl hr cost
  . next rest h =>
    have hunanswered : unanswered { s with inbox := rest, pending := s.pending.tail } = s.unanswered := by
      unfold unanswered
      rw [h, List.countP_cons, List.length_tail]
      simp only [Message.update?, Option.isNone_none, ↓reduceIte]
      omega
    exact work_raise_pop h hunanswered rfl rfl hr cost
  . contradiction

end

end Observed

namespace Clients

/--
The actions of the network and of the server, and not of another writer.
-/
def Action.Delivers {ι : Type u} {V : Type v} : Action ι V → Prop
  | .put _ => False
  | _ => True

instance {ι : Type u} {V : Type v} (a : Action ι V) : Decidable a.Delivers :=
  match a with
  | .receive _ => inferInstanceAs (Decidable True)
  | .listen _ => inferInstanceAs (Decidable True)
  | .put _ => inferInstanceAs (Decidable False)
  | .accept _ => inferInstanceAs (Decidable True)
  | .refuse _ => inferInstanceAs (Decidable True)

section

variable {ι : Type u} {V : Type v} [Fintype ι]

def cost (r : ι → Nat) : Nat :=
  ∑ p, (1 + r p)

/--
The work of all clients, of which client `p` has at most `r p` observers.
-/
def work (r : ι → Nat) (s : Clients ι V) : Nat :=
  ∑ p, (s.client p).work (r p) (cost r)

theorem work_mono {r r' : ι → Nat} (h : ∀ p, r p ≤ r' p) (s : Clients ι V)
    : s.work r ≤ s.work r' := by
  have hcost : cost r ≤ cost r' := by
    apply Finset.sum_le_sum
    intro p _
    exact Nat.add_le_add_left (h p) 1
  apply Finset.sum_le_sum
  intro p _
  exact Observed.work_mono (h p) hcost (s.client p)

variable [DecidableEq ι]

theorem work_update {r : ι → Nat} {s : Clients ι V} {p : ι} {c : Observed V} {m n : Nat}
    (h : c.work (r p) (cost r) + m ≤ (s.client p).work (r p) (cost r) + n)
    : (s.update p c).work r + m ≤ s.work r + n := by
  have hclient : ∀ q, ((s.update p c).client q).work (r q) (cost r) + (if q = p then m else 0)
      ≤ (s.client q).work (r q) (cost r) + (if q = p then n else 0) := by
    intro q
    dsimp only [update]
    by_cases hq : q = p
    . subst hq
      rw [Function.update_self, if_pos rfl, if_pos rfl]
      exact h
    . rw [Function.update_of_ne hq, if_neg hq, if_neg hq]
  have hsum := Finset.sum_le_sum fun q (_ : q ∈ univ) => hclient q
  rw [sum_add_distrib, sum_add_distrib, sum_ite_eq' univ p, sum_ite_eq' univ p] at hsum
  rw [if_pos (mem_univ p), if_pos (mem_univ p)] at hsum
  exact hsum

/--
A commit is paid for by its write: every client is told, and the writer gets its answer.
-/
theorem work_accept {s : Clients ι V} {p : ι} (h : (s.client p).next?.isSome) (r : ι → Nat)
    : (s.accept p).work r + 1 ≤ s.work r := by
  obtain ⟨v, hv⟩ := Option.isSome_iff_exists.mp h
  have hclient : ∀ q, ((s.accept p).client q).work (r q) (cost r) + (if q = p then 1 + cost r else 0)
      ≤ (s.client q).work (r q) (cost r) + (1 + r q) := by
    intro q
    unfold accept
    rw [hv]
    dsimp only
    by_cases hq : q = p
    . subst hq
      have haccept := Observed.work_accept h (r q) (cost r)
      rw [Function.update_self, if_pos rfl]
      omega
    . rw [Function.update_of_ne hq, if_neg hq]
      exact Observed.work_put (s.client q) v (r q) (cost r)
  have hsum := Finset.sum_le_sum fun q (_ : q ∈ univ) => hclient q
  rw [sum_add_distrib, sum_add_distrib, sum_ite_eq' univ p, if_pos (mem_univ p)] at hsum
  have hcost : ∑ q, (1 + r q) = cost r := rfl
  rw [hcost] at hsum
  unfold work
  omega

end

section

variable {ι : Type u} {V : Type v} [DecidableEq ι] [DecidableEq V]

theorem stable_length_queues (n : Nat) : Stable fun c : Observed V => c.queues.length = n where
  receive := by
    intro c h
    rw [Observed.length_queues_receive]
    exact h
  listen := fun _ h => h
  put := fun _ _ h => h
  accept := by
    intro c h
    rw [(Observed.accept_frame c).1]
    exact h
  refuse := fun _ h => h

theorem length_queues_next {s : Clients ι V} {a : Action ι V} (he : s.enabled a) (p : ι)
    : ((s.next a).client p).queues.length = (s.client p).queues.length :=
  forall_next (fun q => stable_length_queues (s.client q).queues.length) (fun _ => rfl) he p

/--
Without a new value from outside there is less to do with every action of the network.
-/
theorem work_next [Fintype ι] {r : ι → Nat} {s : Clients ι V}
    (hr : ∀ p, (s.client p).queues.length ≤ r p) {a : Action ι V} (ha : a.Delivers) (he : s.enabled a)
    : (s.next a).work r + 1 ≤ s.work r := by
  cases a with
  | receive p => exact work_update (n := 0) (Observed.work_receive he (hr p) (cost r))
  | listen p => exact work_update (n := 0) (Nat.le_of_eq (Observed.work_listen he.2 (r p) (cost r)))
  | put v => contradiction
  | accept p => exact work_accept he.2 r
  | refuse p =>
    have hrefuse := Observed.work_refuse he.2 (r p) (cost r)
    exact work_update (n := 0) (by omega)

end

section

variable {ι : Type u} {V : Type v} [Fintype ι]

/--
The work of all clients if each of them may still get `n` more observers.
-/
def remaining (n : Nat) (s : Clients ι V) : Nat :=
  s.work fun p => (s.client p).queues.length + n

theorem remaining_mono {m n : Nat} (h : m ≤ n) (s : Clients ι V) : s.remaining m ≤ s.remaining n := by
  apply work_mono
  intro p
  exact Nat.add_le_add_left h _

variable [DecidableEq ι]

theorem remaining_next [DecidableEq V] (n : Nat) {s : Clients ι V} {a : Action ι V} (ha : a.Delivers)
    (he : s.enabled a) : (s.next a).remaining n + 1 ≤ s.remaining n := by
  unfold remaining
  have hlengths : (fun p => ((s.next a).client p).queues.length + n)
      = fun p => (s.client p).queues.length + n := by
    funext p
    rw [length_queues_next he p]
  rw [hlengths]
  apply work_next _ ha he
  intro p
  exact Nat.le_add_right _ n

theorem remaining_take (n : Nat) {s : Clients ι V} {p : ι} {k : Nat}
    (h : ((s.client p).event? k).isSome)
    : (s.update p ((s.client p).take k)).remaining n + 1 ≤ s.remaining n := by
  unfold remaining
  have hlengths : (fun q => ((s.update p ((s.client p).take k)).client q).queues.length + n)
      = fun q => (s.client q).queues.length + n := by
    funext q
    rw [forall_update (I := fun q c => c.queues.length = (s.client q).queues.length) (fun _ => rfl)]
    exact List.length_modify _ _ _
  rw [hlengths]
  exact work_update (n := 0) (Observed.work_take h _ _)

theorem remaining_observe (n : Nat) (s : Clients ι V) (p : ι)
    : (s.update p (s.client p).observe).remaining n ≤ s.remaining (n + 1) + 1 := by
  unfold remaining
  have hlengths : ∀ q, ((s.update p (s.client p).observe).client q).queues.length + n
      ≤ (s.client q).queues.length + (n + 1) := by
    apply forall_update (I := fun q c => c.queues.length + n ≤ (s.client q).queues.length + (n + 1))
    . intro q
      omega
    . simp only [Observed.observe, List.length_append, List.length_singleton]
      omega
  apply Nat.le_trans (work_mono hlengths _)
  exact work_update (m := 0) (Observed.work_observe (s.client p) _ _)

end

end Clients

import Mathlib.Logic.Function.Basic
import SmartGarden.Lib.Observed

/-!
This module contains one value on a server that any number of clients write and observe, each of them
with a view of its own. The server commits the writes in one order and tells every client that it sends
its updates to.
-/

structure Clients (ι : Type u) (V : Type v) where
  stored : V
  client : ι → Observed V

namespace Clients

variable {ι : Type u} {V : Type v}

def start (v : V) : Clients ι V where
  stored := v
  client := fun _ => { stored := v }

def put (s : Clients ι V) (v : V) : Clients ι V where
  stored := v
  client := fun p => (s.client p).put v

/--
Every client is a client of the stored value.
-/
def Agree (s : Clients ι V) : Prop :=
  ∀ p, (s.client p).stored = s.stored

theorem agree_start (v : V) : (start v : Clients ι V).Agree := by
  intro p
  rfl

theorem agree_put (s : Clients ι V) (v : V) : (s.put v).Agree := by
  intro p
  rfl

section

variable [DecidableEq ι]

def update (s : Clients ι V) (p : ι) (c : Observed V) : Clients ι V :=
  { s with client := Function.update s.client p c }

/--
The server commits the oldest write of client `p` that it has not processed.
-/
def accept (s : Clients ι V) (p : ι) : Clients ι V :=
  match (s.client p).next? with
  | some v => { stored := v, client := Function.update (s.put v).client p (s.client p).accept }
  | none => s

@[simp]
theorem update_client (s : Clients ι V) (p : ι) : s.update p (s.client p) = s := by
  unfold update
  rw [Function.update_eq_self]

theorem agree_update {s : Clients ι V} (h : s.Agree) {p : ι} {c : Observed V}
    (hc : c.stored = (s.client p).stored) : (s.update p c).Agree := by
  intro q
  dsimp [update]
  by_cases hq : q = p
  . subst hq
    rw [Function.update_self, hc]
    apply h
  . rw [Function.update_of_ne hq]
    apply h

theorem agree_accept {s : Clients ι V} (h : s.Agree) (p : ι) : (s.accept p).Agree := by
  unfold accept
  split
  . next v hv =>
    intro q
    dsimp
    by_cases hq : q = p
    . subst hq
      rw [Function.update_self]
      simp [Observed.accept, hv, Observed.put, Observed.refuse]
    . rw [Function.update_of_ne hq]
      rfl
  . exact h

theorem forall_update {I : ι → Observed V → Prop} {s : Clients ι V} (h : ∀ p, I p (s.client p)) {p : ι}
    {c : Observed V} (hc : I p c) (q : ι) : I q ((s.update p c).client q) := by
  dsimp only [update]
  by_cases hq : q = p
  . subst hq
    rw [Function.update_self]
    exact hc
  . rw [Function.update_of_ne hq]
    exact h q

theorem forall_accept {I : ι → Observed V → Prop} {s : Clients ι V} {p : ι} {v : V}
    (hv : (s.client p).next? = some v) (haccept : I p (s.client p).accept)
    (hput : ∀ q, I q ((s.client q).put v)) (q : ι) : I q ((s.accept p).client q) := by
  unfold accept
  rw [hv]
  dsimp
  by_cases hq : q = p
  . subst hq
    rw [Function.update_self]
    exact haccept
  . rw [Function.update_of_ne hq]
    apply hput

end

/--
What the network and the other writers do to the clients.
-/
inductive Action (ι : Type u) (V : Type v) where
  | receive (p : ι)
  | listen (p : ι)
  -- Another writer sets the value.
  | put (v : V)
  | accept (p : ι)
  | refuse (p : ι)

def enabled (s : Clients ι V) (a : Action ι V) : Prop :=
  match a with
  | .receive p => (s.client p).inbox ≠ []
  | .listen p => (s.client p).queues ≠ [] ∧ (s.client p).listening = false
  | .put _ => True
  | .accept p => (s.client p).listening = true ∧ (s.client p).next?.isSome
  | .refuse p => (s.client p).listening = true ∧ (s.client p).next?.isSome

instance [DecidableEq V] (s : Clients ι V) (a : Action ι V) : Decidable (s.enabled a) :=
  match a with
  | .receive p => inferInstanceAs (Decidable ((s.client p).inbox ≠ []))
  | .listen p =>
    inferInstanceAs (Decidable ((s.client p).queues ≠ [] ∧ (s.client p).listening = false))
  | .put _ => inferInstanceAs (Decidable True)
  | .accept p =>
    inferInstanceAs (Decidable ((s.client p).listening = true ∧ (s.client p).next?.isSome = true))
  | .refuse p =>
    inferInstanceAs (Decidable ((s.client p).listening = true ∧ (s.client p).next?.isSome = true))

/--
What holds of a client whatever the network does to it.
-/
structure Stable [DecidableEq V] (I : Observed V → Prop) : Prop where
  receive : ∀ c, I c → I c.receive
  listen : ∀ c, I c → I c.listen
  put : ∀ c v, I c → I (c.put v)
  accept : ∀ c, I c → I c.accept
  refuse : ∀ c, I c → I c.refuse

theorem stable_imp [DecidableEq V] (Q : Prop) {I : Observed V → Prop} (h : Stable I)
    : Stable fun c => Q → I c where
  receive := fun c hc hq => h.receive c (hc hq)
  listen := fun c hc hq => h.listen c (hc hq)
  put := fun c v hc hq => h.put c v (hc hq)
  accept := fun c hc hq => h.accept c (hc hq)
  refuse := fun c hc hq => h.refuse c (hc hq)

section

variable [DecidableEq ι] [DecidableEq V]

def next (s : Clients ι V) (a : Action ι V) : Clients ι V :=
  match a with
  | .receive p => s.update p (s.client p).receive
  | .listen p => s.update p (s.client p).listen
  | .put v => s.put v
  | .accept p => s.accept p
  | .refuse p => s.update p (s.client p).refuse

theorem agree_next {s : Clients ι V} (h : s.Agree) (a : Action ι V) : (s.next a).Agree := by
  cases a with
  | receive p => exact agree_update h (Observed.receive_frame _).1
  | listen p => exact agree_update h rfl
  | put v => exact agree_put s v
  | accept p => exact agree_accept h p
  | refuse p => exact agree_update h rfl

theorem forall_next {I : ι → Observed V → Prop} (hstable : ∀ p, Stable (I p)) {s : Clients ι V}
    (h : ∀ p, I p (s.client p)) {a : Action ι V} (he : s.enabled a) (q : ι)
    : I q ((s.next a).client q) := by
  cases a with
  | receive p => exact forall_update h ((hstable p).receive _ (h p)) q
  | listen p => exact forall_update h ((hstable p).listen _ (h p)) q
  | put v => exact (hstable q).put _ v (h q)
  | accept p =>
    obtain ⟨v, hv⟩ := Option.isSome_iff_exists.mp he.2
    apply forall_accept hv
    . exact (hstable p).accept _ (h p)
    . intro q
      exact (hstable q).put _ v (h q)
  | refuse p => exact forall_update h ((hstable p).refuse _ (h p)) q

end

end Clients

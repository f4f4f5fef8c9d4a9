import KeyCustody.Proofs.Keystore.Lawful
import KeyCustody.Proofs.Retry

/-!
# The order of a deletion

A deletion finds out where the material is, destroys it, gives the identifier up, and clears the order away.
Each step waits for the one before, and the last one decides nothing.
-/

namespace KeyCustody

open Program
open Barbican (OrderStatus)
open Registry (Entry Store)

namespace Call

/-- A call that changes what the registry or the API holds. -/
def alters : Call → Bool
  | addEntry .. | updateEntry .. | deleteEntry .. => true
  | postSecret .. | postOrder .. | deleteSecret .. | deleteOrder .. => true
  | _ => false

def destroysMaterial : Call → Bool
  | deleteSecret .. => true
  | _ => false

def dropsOrder : Call → Bool
  | deleteOrder .. => true
  | _ => false

end Call

namespace Keystore

namespace Networked

/-! ## How deletions go -/

section
variable {σ : Type} {w : World σ} {caller : Caller} {id : String} {s s' : σ} {t : Trace} {x : Except Error Unit}

/-- A deletion has found an entry, and the reference to its secret: the entry names it, or its order does. -/
inductive Locates (w : World σ) (caller : Caller) (id : String) (s : σ) : Trace → Entry → Entry → σ → Prop
  | named {e : Entry} {s' : σ} (got : w (.getEntry caller.tenant id) s (.ok e) s') (settled : e.pending? = none) :
      Locates w caller id s [⟨.getEntry caller.tenant id, .ok e⟩] e e s'
  | reported {e : Entry} {order ref : String} {s₁ s' : σ} (got : w (.getEntry caller.tenant id) s (.ok e) s₁)
      (pending : e.pending? = some order) (told : w (.checkOrder caller order) s₁ (.ok (.active ref)) s') :
      Locates w caller id s
        [⟨.getEntry caller.tenant id, .ok e⟩, ⟨.checkOrder caller order, .ok (.active ref)⟩]
        e { e with secretRef := some ref } s'

/-- It has destroyed the material, if there is any. -/
inductive Destroys (w : World σ) (caller : Caller) (id : String) (s : σ) : Trace → Entry → Entry → σ → Prop
  | nothing {t : Trace} {e e' : Entry} {s' : σ} (located : Locates w caller id s t e e' s')
      (none : e'.secret? = none) : Destroys w caller id s t e e' s'
  | material {t : Trace} {e e' : Entry} {ref : String} {s₁ s' : σ} (located : Locates w caller id s t e e' s₁)
      (named : e'.secret? = some ref) (dropped : w (.deleteSecret caller ref) s₁ (.ok ()) s') :
      Destroys w caller id s (t ++ [⟨.deleteSecret caller ref, .ok ()⟩]) e e' s'

/-- How a deletion goes, and what it is answered. -/
inductive Deletes (w : World σ) (caller : Caller) (id : String) (s : σ) :
    Trace → Except Error Unit → σ → Prop
  | unknown {error : Error} {s' : σ} (got : w (.getEntry caller.tenant id) s (.error error) s') :
      Deletes w caller id s [⟨.getEntry caller.tenant id, .error error⟩] (.error error) s'
  | untold {e : Entry} {order : String} {error : Error} {s₁ s' : σ}
      (got : w (.getEntry caller.tenant id) s (.ok e) s₁) (pending : e.pending? = some order)
      (told : w (.checkOrder caller order) s₁ (.error error) s') :
      Deletes w caller id s
        [⟨.getEntry caller.tenant id, .ok e⟩, ⟨.checkOrder caller order, .error error⟩] (.error error) s'
  | generating {e : Entry} {order : String} {status : OrderStatus} {s₁ s' : σ}
      (got : w (.getEntry caller.tenant id) s (.ok e) s₁) (pending : e.pending? = some order)
      (told : w (.checkOrder caller order) s₁ (.ok status) s') (early : ∀ ref, status ≠ .active ref) :
      Deletes w caller id s
        [⟨.getEntry caller.tenant id, .ok e⟩, ⟨.checkOrder caller order, .ok status⟩] (.error stillGenerating) s'
  | kept {t : Trace} {e e' : Entry} {ref : String} {error : Error} {s₁ s' : σ}
      (located : Locates w caller id s t e e' s₁) (named : e'.secret? = some ref)
      (refused : w (.deleteSecret caller ref) s₁ (.error error) s') :
      Deletes w caller id s (t ++ [⟨.deleteSecret caller ref, .error error⟩]) (.error error) s'
  | standing {t : Trace} {e e' : Entry} {error : Error} {s₁ s' : σ} (destroyed : Destroys w caller id s t e e' s₁)
      (refused : w (.deleteEntry caller.tenant id) s₁ (.error error) s') :
      Deletes w caller id s (t ++ [⟨.deleteEntry caller.tenant id, .error error⟩]) (.error error) s'
  | gone {t t' : Trace} {e e' : Entry} {s₁ s₂ s' : σ} (destroyed : Destroys w caller id s t e e' s₁)
      (deleted : w (.deleteEntry caller.tenant id) s₁ (.ok ()) s₂)
      (cleared : Run w (forgetOrder (Call.barbican Action.make) Action.count caller e') s₂ t' () s') :
      Deletes w caller id s (t ++ ⟨.deleteEntry caller.tenant id, .ok ()⟩ :: t') (.ok ()) s'

section
variable {e e' : Entry} {s₁ : σ} {t' : Trace}

theorem run_giveUp (destroyed : Destroys w caller id s t e e' s₁)
    (h : Run w (do
      Action.registry.delete caller.tenant id
      ExceptT.lift (forgetOrder (Call.barbican Action.make) Action.count caller e') :
        ExceptT Error Action Unit).run s₁ t' x s') : Deletes w caller id s (t ++ t') x s' := by
  obtain ⟨error, rfl, asked⟩ | ⟨_, _, s₂, t₂, rfl, asked, ended⟩ := Run.bindExcept_iff.1 h
  · obtain ⟨rfl, refused⟩ := Run.ask_iff.1 asked
    exact .standing destroyed refused
  · obtain ⟨rfl, deleted⟩ := Run.ask_iff.1 asked
    obtain ⟨_, _, _, _, rfl, cleared, passed⟩ := Run.bind_iff.1 ended
    obtain ⟨rfl, rfl, rfl⟩ := Run.pure_iff.1 passed
    rw [List.append_nil]
    exact .gone destroyed deleted cleared

theorem run_destroy (located : Locates w caller id s t e e' s₁)
    (h : Run w (do
      if let some ref := e'.secret? then (Call.barbican Action.make).deleteSecret caller ref
      Action.registry.delete caller.tenant id
      ExceptT.lift (forgetOrder (Call.barbican Action.make) Action.count caller e') :
        ExceptT Error Action Unit).run s₁ t' x s') : Deletes w caller id s (t ++ t') x s' := by
  cases named : e'.secret? with
  | none =>
    simp only [named] at h
    exact run_giveUp (.nothing located named) h
  | some ref =>
    simp only [named] at h
    obtain ⟨error, rfl, asked⟩ | ⟨_, _, s₂, t₂, rfl, asked, last⟩ := Run.bindExcept_iff.1 h
    · obtain ⟨rfl, refused⟩ := Run.ask_iff.1 asked
      exact .kept located named refused
    · obtain ⟨rfl, dropped⟩ := Run.ask_iff.1 asked
      rw [← List.append_assoc]
      exact run_giveUp (.material located named dropped) last

theorem run_settled_cases {r : Except Error Entry} (got : w (.getEntry caller.tenant id) s (.ok e) s₁)
    (h : Run w (settled (Call.barbican Action.make) caller e).run s₁ t' r s') :
    match r with
    | .ok e' => Locates w caller id s (⟨.getEntry caller.tenant id, .ok e⟩ :: t') e e' s'
    | .error error => Deletes w caller id s (⟨.getEntry caller.tenant id, .ok e⟩ :: t') (.error error) s' := by
  unfold settled at h
  cases pending : e.pending? with
  | none =>
    simp only [pending] at h
    obtain ⟨rfl, rfl, rfl⟩ := Run.pureExcept_iff.1 h
    exact .named got pending
  | some order =>
    simp only [pending] at h
    obtain ⟨error, rfl, asked⟩ | ⟨_, status, _, _, rfl, asked, ended⟩ := Run.bindExcept_iff.1 h
    · obtain ⟨rfl, told⟩ := Run.ask_iff.1 asked
      exact .untold got pending told
    · obtain ⟨rfl, told⟩ := Run.ask_iff.1 asked
      cases status with
      | active ref =>
        obtain ⟨rfl, rfl, rfl⟩ := Run.pureExcept_iff.1 ended
        exact .reported got pending told
      | pending | failed _ =>
        obtain ⟨rfl, rfl, rfl⟩ := Run.throw_iff.1 ended
        exact .generating got pending told nofun

theorem deletes_of_run
    (h : Run w (delete Action.registry (Call.barbican Action.make) Action.count caller id).run s t x s') :
    Deletes w caller id s t x s' := by
  obtain ⟨error, rfl, asked⟩ | ⟨_, e, s₁, _, rfl, asked, rest⟩ := Run.bindExcept_iff.1 h
  · obtain ⟨rfl, got⟩ := Run.ask_iff.1 asked
    exact .unknown got
  obtain ⟨rfl, got⟩ := Run.ask_iff.1 asked
  obtain ⟨error, rfl, failed⟩ | ⟨t₁, e', s₂, t₂, rfl, found, ended⟩ := Run.bindExcept_iff.1 rest
  · exact run_settled_cases got failed
  · have located : Locates w caller id s (⟨.getEntry caller.tenant id, .ok e⟩ :: t₁) e e' s₂ :=
      run_settled_cases got found
    have split : ([⟨.getEntry caller.tenant id, .ok e⟩] ++ (t₁ ++ t₂) : Trace) =
      (⟨.getEntry caller.tenant id, .ok e⟩ :: t₁) ++ t₂ := rfl
    rw [split]
    exact run_destroy located ended

/-- What follows once an order has been deleted, or could not be. -/
def orphaning (x : Except Error Unit) : Trace := if x.isOk then [] else [⟨.count .orphanedOrder, ()⟩]

theorem mem_orphaning {x : Except Error Unit} : ∀ v ∈ orphaning x, v = ⟨.count .orphanedOrder, ()⟩ := by
  cases x with
  | ok _ => exact List.forall_mem_nil _
  | error _ => exact List.forall_mem_singleton.2 rfl

/-- Clearing an order away is trying to delete it, and counting if that is in vain. -/
inductive Clears (caller : Caller) (e : Entry) : Trace → Prop
  | nothing (none : e.order? = none) : Clears caller e []
  | order {order : String} {t : Trace} {x : Except Error Unit} (ordered : e.order? = some order)
      (tried : Retry.Tries (fun x => ⟨.deleteOrder caller order, x⟩) (.retriesExhausted "delete_order")
        Retry.limit t x) :
      Clears caller e (t ++ orphaning x)

theorem clears_of_run {u : Unit}
    (h : Run w (forgetOrder (Call.barbican Action.make) Action.count caller e) s t u s') :
    Clears caller e t := by
  unfold forgetOrder at h
  cases ordered : e.order? with
  | none =>
    simp only [ordered] at h
    obtain ⟨rfl, -, -⟩ := Run.pure_iff.1 h
    exact .nothing ordered
  | some order =>
    simp only [ordered] at h
    obtain ⟨t₁, x, _, t₂, rfl, deleted, ended⟩ := Run.bind_iff.1 h
    have tried : Retry.Tries (fun x => ⟨.deleteOrder caller order, x⟩) (.retriesExhausted "delete_order")
        Retry.limit t₁ x :=
      Retry.tries_attempts (fun _ _ _ _ asked => (Run.ask_iff.1 asked).1) deleted
    have counted : t₂ = orphaning x := by
      cases x with
      | ok _ => exact (Run.pure_iff.1 ended).1
      | error _ => exact (Run.ask_iff.1 ended).1
    rw [counted]
    exact .order ordered tried

end

end

end Networked

/-! ## What deletions may call -/

section
variable {tries : Nat} {caller : Caller} {id : String} {s s' : Store} {past t t' : Trace} {e e' : Entry}
  {x : Except Error Unit}

/-- What a deletion may call after the calls `past`: it destroys the material of its entry, and that once,
then deletes the entry, and then tries to delete the order of the entry. -/
def Orderly (caller : Caller) (id : String) (s : Store) (past : Trace) : Event → Prop
  | ⟨.deleteSecret caller' ref, _⟩ =>
    caller' = caller ∧ (∀ v ∈ past, v.call.destroysMaterial = false) ∧
      ∃ e, s.get caller.tenant id = .ok e ∧ (e.secret? = some ref ∨
        ∃ order, e.pending? = some order ∧ ⟨.checkOrder caller order, .ok (.active ref)⟩ ∈ past)
  | ⟨.deleteEntry tenant id', _⟩ =>
    tenant = caller.tenant ∧ id' = id ∧ ∃ ref, ⟨.deleteSecret caller ref, .ok ()⟩ ∈ past
  | ⟨.deleteOrder caller' order, _⟩ =>
    caller' = caller ∧ ⟨.deleteEntry caller.tenant id, .ok ()⟩ ∈ past ∧
      past.countP (·.call.dropsOrder) < Retry.limit ∧
      ∃ e, s.get caller.tenant id = .ok e ∧ e.order? = some order
  | v => v.call.alters = false

/-- A deletion of what stands in a store at first: it goes in order, and fails only before the entry is
deleted. -/
structure InOrder (caller : Caller) (id : String) (s : Store) (t : Trace) (x : Except Error Unit)
    (s' : Store) : Prop where
  calls : ∀ past v later, t = past ++ v :: later → Orderly caller id s past v
  deleted : x = .ok () ↔ ⟨.deleteEntry caller.tenant id, .ok ()⟩ ∈ t
  /-- An order that is not done ends it before anything is changed. -/
  early : ∀ caller' order status, ⟨.checkOrder caller' order, .ok status⟩ ∈ t →
    (∀ ref, status ≠ .active ref) → x = .error Networked.stillGenerating ∧ ∀ v ∈ t, v.call.alters = false
  /-- Material may be gone only if the entry could not be deleted. -/
  failed : ∀ error, x = .error error → s' = s ∧
    ∀ ref, ⟨.deleteSecret caller ref, .ok ()⟩ ∈ t → ⟨.deleteEntry caller.tenant id, .error error⟩ ∈ t

namespace Networked

theorem Locates.stands (h : Locates (Store.world .clean) caller id s t e e' s') :
    s.get caller.tenant id = .ok e ∧ s' = s := by
  cases h with
  | named got =>
    have admitted : Fault.clean.Admits (s.get caller.tenant id, s) s (.ok e) s' := got
    exact ⟨congrArg Prod.fst admitted.ok, (congrArg Prod.snd admitted.ok).symm⟩
  | @reported _ order ref s₁ _ got _ told =>
    have admitted : Fault.clean.Admits (s.get caller.tenant id, s) s (.ok e) s₁ := got
    obtain rfl : s' = s₁ := told
    exact ⟨congrArg Prod.fst admitted.ok, (congrArg Prod.snd admitted.ok).symm⟩

/-- The reference found is the one of the entry, or the one that its order tells. -/
theorem Locates.names {σ : Type} {w : World σ} {y y' : σ} {ref : String} (h : Locates w caller id y t e e' y')
    (named : Named t) (given : e'.secret? = some ref) :
    e.secret? = some ref ∨
      ∃ order, e.pending? = some order ∧ ⟨.checkOrder caller order, .ok (.active ref)⟩ ∈ t := by
  cases h with
  | named => exact .inl given
  | @reported _ order ref' _ _ _ pending =>
    have present : ref' ≠ "" := by
      have told := named ⟨.checkOrder caller order, .ok (.active ref')⟩ (by simp)
      simpa [refers] using told
    obtain rfl : ref' = ref := Option.some.inj ((Entry.secret?_named e present).symm.trans given)
    exact .inr ⟨order, pending, by simp⟩

/-- There is a reference, since no entry is empty. -/
theorem Locates.given (h : Locates (Store.world .clean) caller id s t e e' s') (named : Named t) :
    ∃ ref, e'.secret? = some ref := by
  obtain ⟨stands, -⟩ := h.stands
  cases h with
  | named _ settled => exact Store.secret?_of_get stands settled
  | @reported _ order ref _ _ _ _ _ =>
    have present : ref ≠ "" := by
      have told := named ⟨.checkOrder caller order, .ok (.active ref)⟩ (by simp)
      simpa [refers] using told
    exact ⟨ref, Entry.secret?_named e present⟩

theorem Locates.order? {σ : Type} {w : World σ} {y y' : σ} (h : Locates w caller id y t e e' y') :
    e'.order? = e.order? := by
  cases h with
  | named | reported => rfl

theorem Locates.quiet {σ : Type} {w : World σ} {y y' : σ} (h : Locates w caller id y t e e' y') :
    ∀ v ∈ t, v.call.alters = false := by
  cases h with
  | named => exact List.forall_mem_singleton.2 rfl
  | reported => exact List.forall_mem_cons.2 ⟨rfl, List.forall_mem_singleton.2 rfl⟩

theorem Locates.unmade {σ : Type} {w : World σ} {y y' : σ} (h : Locates w caller id y t e e' y') (v : Event)
    (alters : v.call.alters = true) : v ∉ t := by
  intro member
  rw [h.quiet v member] at alters
  cases alters

theorem Destroys.located (h : Destroys (Store.world .clean) caller id s t e e' s') (named : Named t) :
    ∃ t₁ ref, t = t₁ ++ [⟨.deleteSecret caller ref, .ok ()⟩] ∧ e'.secret? = some ref ∧
      Locates (Store.world .clean) caller id s t₁ e e' s ∧ s' = s := by
  cases h with
  | nothing located none =>
    obtain ⟨ref, given⟩ := located.given named
    rw [none] at given
    cases given
  | @material t₁ _ _ ref s₁ _ located given dropped =>
    obtain rfl : s' = s₁ := dropped
    obtain ⟨-, rfl⟩ := located.stands
    exact ⟨t₁, ref, rfl, given, located, rfl⟩

/-! ### Calls in order -/

theorem orderly_of_quiet {v : Event} (quiet : v.call.alters = false) : Orderly caller id s past v := by
  obtain ⟨call, x⟩ := v
  cases call with
  | deleteSecret | deleteEntry | deleteOrder => cases quiet
  | _ => exact quiet

theorem along_quiet {s₁ : Store} (quiet : ∀ v ∈ t, v.call.alters = false) :
    Along (fun _ => Orderly caller id s) s₁ past t := by
  induction t generalizing s₁ past with
  | nil => trivial
  | cons v t ih =>
    obtain ⟨first, others⟩ := List.forall_mem_cons.1 quiet
    exact ⟨orderly_of_quiet first, ih others⟩

/-- Attempts to delete the order of an entry, as many as are left. -/
theorem along_clears {s₁ : Store} (stands : s.get caller.tenant id = .ok e)
    (deleted : ⟨.deleteEntry caller.tenant id, .ok ()⟩ ∈ past)
    (only : ∀ v ∈ t, (∃ order, e.order? = some order ∧ v.call = .deleteOrder caller order) ∨
      ∃ c, v.call = .count c)
    (within : past.countP (·.call.dropsOrder) + t.countP (·.call.dropsOrder) ≤ Retry.limit) :
    Along (fun _ => Orderly caller id s) s₁ past t := by
  induction t generalizing s₁ past with
  | nil => trivial
  | cons v t ih =>
    obtain ⟨first, others⟩ := List.forall_mem_cons.1 only
    rw [List.countP_cons] at within
    have later : (past ++ [v]).countP (·.call.dropsOrder) =
        past.countP (·.call.dropsOrder) + if v.call.dropsOrder then 1 else 0 := by
      rw [List.countP_append, List.countP_singleton]
    refine ⟨?_, ih (List.mem_append_left _ deleted) others (by omega)⟩
    obtain ⟨call, x⟩ := v
    obtain ⟨order, ordered, rfl⟩ | ⟨c, rfl⟩ := first
    · refine ⟨rfl, deleted, ?_, e, stands, ordered⟩
      have drops : (Call.deleteOrder caller order).dropsOrder = true := rfl
      simp only [drops, if_true] at within
      omega
    · exact orderly_of_quiet rfl

theorem Clears.only (h : Clears caller e t) :
    (∀ v ∈ t, (∃ order, e.order? = some order ∧ v.call = .deleteOrder caller order) ∨ ∃ c, v.call = .count c) ∧
      t.countP (·.call.dropsOrder) ≤ Retry.limit := by
  cases h with
  | nothing => exact ⟨List.forall_mem_nil _, Nat.zero_le _⟩
  | @order order t x ordered tried =>
    refine ⟨List.forall_mem_append.2 ⟨fun v member => ?_, fun v member => ?_⟩, ?_⟩
    · obtain ⟨_, rfl⟩ | rfl := tried.calls v member
      · exact .inl ⟨order, ordered, rfl⟩
      · exact .inr ⟨_, rfl⟩
    · obtain rfl := mem_orphaning v member
      exact .inr ⟨_, rfl⟩
    · have none : (orphaning x).countP (·.call.dropsOrder) = 0 :=
        List.countP_eq_zero.2 fun v member => by simp [mem_orphaning v member, Call.dropsOrder]
      rw [List.countP_append, none]
      exact tried.countP_le rfl

theorem inOrder_of_quiet {error : Error} (quiet : ∀ v ∈ t, v.call.alters = false)
    (early : ∀ caller' order status, ⟨.checkOrder caller' order, .ok status⟩ ∈ t →
      (∀ ref, status ≠ .active ref) → error = stillGenerating) : InOrder caller id s t (.error error) s where
  calls past v later split := by
    have along : Along (fun _ => Orderly caller id s) s [] t := along_quiet quiet
    rw [split] at along
    exact (along_append.1 along).2.1
  deleted := iff_of_false nofun fun member => Bool.noConfusion (quiet _ member)
  early caller' order status told unready :=
    ⟨congrArg _ (early caller' order status told unready), quiet⟩
  failed error' same := ⟨rfl, fun ref member => Bool.noConfusion (quiet _ member)⟩

theorem Locates.done {σ : Type} {w : World σ} {y y' : σ} (h : Locates w caller id y t e e' y')
    {caller' : Caller} {order : String} {status : OrderStatus}
    (told : ⟨.checkOrder caller' order, .ok status⟩ ∈ t) : ∃ ref, status = .active ref := by
  cases h with
  | named => cases List.mem_singleton.1 told
  | reported =>
    obtain told | told := List.mem_cons.1 told
    · cases told
    · cases List.mem_singleton.1 told
      exact ⟨_, rfl⟩

theorem Locates.along {ref : String} {y : Except Error Unit} {s₁ : Store}
    (located : Locates (Store.world .clean) caller id s t e e' s₁) (named : Named t)
    (given : e'.secret? = some ref) :
    Along (fun _ => Orderly caller id s) s [] (t ++ [⟨.deleteSecret caller ref, y⟩]) := by
  have undestroyed : ∀ v ∈ t, v.call.destroysMaterial = false := by
    intro v member
    obtain ⟨call, x⟩ := v
    cases call with
    | deleteSecret => cases located.quiet _ member
    | _ => rfl
  refine along_append.2 ⟨along_quiet located.quiet, ⟨?_, trivial⟩⟩
  exact ⟨rfl, undestroyed, e, located.stands.1, located.names named given⟩

/-- A deletion that goes in order and has not met an order that is not done. -/
theorem inOrder_of_along (along : Along (fun _ => Orderly caller id s) s [] t)
    (done : ∀ caller' order status, ⟨.checkOrder caller' order, .ok status⟩ ∈ t → ∃ ref, status = .active ref)
    (deleted : x = .ok () ↔ ⟨.deleteEntry caller.tenant id, .ok ()⟩ ∈ t)
    (failed : ∀ error, x = .error error → s' = s ∧
      ∀ ref, ⟨.deleteSecret caller ref, .ok ()⟩ ∈ t → ⟨.deleteEntry caller.tenant id, .error error⟩ ∈ t) :
    InOrder caller id s t x s' where
  calls past v later split := by
    rw [split] at along
    exact (along_append.1 along).2.1
  deleted := deleted
  early caller' order status told unready := by
    obtain ⟨ref, rfl⟩ := done caller' order status told
    exact absurd rfl (unready ref)
  failed := failed

theorem inOrder_kept {ref : String} {error : Error} {s₁ : Store} (named : Named t)
    (located : Locates (Store.world .clean) caller id s t e e' s₁) (given : e'.secret? = some ref)
    (refused : Store.world .clean (.deleteSecret caller ref) s₁ (.error error) s') :
    InOrder caller id s (t ++ [⟨.deleteSecret caller ref, .error error⟩]) (.error error) s' := by
  obtain rfl : s' = s₁ := refused
  obtain ⟨-, rfl⟩ := located.stands
  have unmade : ∀ v : Event, v.call.alters = true → v ∉ t := located.unmade
  refine inOrder_of_along (located.along named given) (fun _ _ _ told => ?_) (iff_of_false nofun ?_)
    fun _ _ => ⟨rfl, fun ref' member => ?_⟩
  · rcases List.mem_append.1 told with told | told
    · exact located.done told
    · cases List.mem_singleton.1 told
  · intro member
    rcases List.mem_append.1 member with member | member
    · exact unmade _ rfl member
    · cases List.mem_singleton.1 member
  · rcases List.mem_append.1 member with member | member
    · exact absurd member (unmade _ rfl)
    · cases List.mem_singleton.1 member

theorem inOrder_standing {error : Error} {s₁ : Store} (named : Named t)
    (destroyed : Destroys (Store.world .clean) caller id s t e e' s₁)
    (refused : Store.world .clean (.deleteEntry caller.tenant id) s₁ (.error error) s') :
    InOrder caller id s (t ++ [⟨.deleteEntry caller.tenant id, .error error⟩]) (.error error) s' := by
  obtain ⟨t₁, ref, rfl, given, located, rfl⟩ := destroyed.located named
  have admitted : Fault.clean.Admits (s₁.delete caller.tenant id) s₁ (.error error) s' := refused
  have kept : s' = s₁ := admitted.error fun _ => Store.delete_error
  have unmade : ∀ v : Event, v.call.alters = true → v ∉ t₁ := located.unmade
  have along : Along (fun _ => Orderly caller id s₁) s₁ [] (t₁ ++ [⟨.deleteSecret caller ref, .ok ()⟩]) :=
    located.along (List.forall_mem_append.1 named).1 given
  refine inOrder_of_along (along_append.2 ⟨along, ⟨⟨rfl, rfl, ref, by simp⟩, trivial⟩⟩) (fun _ _ _ told => ?_)
    (iff_of_false nofun ?_) fun _ same => ⟨kept, fun _ _ => ?_⟩
  · rcases List.mem_append.1 told with told | told
    · rcases List.mem_append.1 told with told | told
      · exact located.done told
      · cases List.mem_singleton.1 told
    · cases List.mem_singleton.1 told
  · intro member
    rcases List.mem_append.1 member with member | member
    · rcases List.mem_append.1 member with member | member
      · exact unmade _ rfl member
      · cases List.mem_singleton.1 member
    · cases List.mem_singleton.1 member
  · obtain rfl := Except.error.inj same
    exact List.mem_append_right _ (List.mem_singleton_self _)

theorem inOrder_gone {s₁ : Store} (named : Named t)
    (destroyed : Destroys (Store.world .clean) caller id s t e e' s₁) (cleared : Clears caller e' t') :
    InOrder caller id s (t ++ ⟨.deleteEntry caller.tenant id, .ok ()⟩ :: t') (.ok ()) s' := by
  obtain ⟨t₁, ref, rfl, given, located, rfl⟩ := destroyed.located named
  obtain ⟨only, within⟩ := cleared.only
  have along : Along (fun _ => Orderly caller id s₁) s₁ [] (t₁ ++ [⟨.deleteSecret caller ref, .ok ()⟩]) :=
    located.along (List.forall_mem_append.1 named).1 given
  refine inOrder_of_along (along_append.2 ⟨along, ⟨rfl, rfl, ref, by simp⟩, ?_⟩) (fun _ _ _ told => ?_)
    (iff_of_true rfl (by simp)) nofun
  · rw [located.order?] at only
    refine along_clears located.stands.1 (by simp) only ?_
    have unmade : t₁.countP (·.call.dropsOrder) = 0 := List.countP_eq_zero.2 fun v member drops => by
      have quiet := located.quiet v member
      cases call : v.call <;> simp_all [Call.alters, Call.dropsOrder]
    have others : ([⟨.deleteSecret caller ref, .ok ()⟩, ⟨.deleteEntry caller.tenant id, .ok ()⟩] : Trace).countP
        (·.call.dropsOrder) = 0 := rfl
    simpa [List.countP_append, unmade, others] using within
  · rcases List.mem_append.1 told with told | told
    · rcases List.mem_append.1 told with told | told
      · exact located.done told
      · cases List.mem_singleton.1 told
    · rcases List.mem_cons.1 told with told | told
      · cases told
      · obtain ⟨_, _, same⟩ | ⟨_, same⟩ := only _ told
        · cases same
        · cases same

theorem inOrder_of_deletes (h : Deletes (Store.world .clean) caller id s t x s') (named : Named t) :
    InOrder caller id s t x s' := by
  cases h with
  | unknown got =>
    have admitted : Fault.clean.Admits (s.get caller.tenant id, s) s (.error _) s' := got
    obtain ⟨rfl, -⟩ := admitted.lookup
    exact inOrder_of_quiet (List.forall_mem_singleton.2 rfl) fun _ _ _ told => by cases List.mem_singleton.1 told
  | @untold e order error s₁ _ got pending told =>
    have admitted : Fault.clean.Admits (s.get caller.tenant id, s) s (.ok e) s₁ := got
    obtain rfl : s' = s₁ := told
    obtain ⟨rfl, -⟩ := admitted.lookup
    refine inOrder_of_quiet (List.forall_mem_cons.2 ⟨rfl, List.forall_mem_singleton.2 rfl⟩) fun _ _ _ told => ?_
    rcases List.mem_cons.1 told with told | told
    · cases told
    · cases List.mem_singleton.1 told
  | @generating e order status s₁ _ got pending told =>
    have admitted : Fault.clean.Admits (s.get caller.tenant id, s) s (.ok e) s₁ := got
    obtain rfl : s' = s₁ := told
    obtain ⟨rfl, -⟩ := admitted.lookup
    exact inOrder_of_quiet (List.forall_mem_cons.2 ⟨rfl, List.forall_mem_singleton.2 rfl⟩) fun _ _ _ _ _ => rfl
  | kept located given refused => exact inOrder_kept (List.forall_mem_append.1 named).1 located given refused
  | standing destroyed refused => exact inOrder_standing (List.forall_mem_append.1 named).1 destroyed refused
  | gone destroyed _ cleared => exact inOrder_gone (List.forall_mem_append.1 named).1 destroyed (clears_of_run cleared)

end Networked

/-- Material is destroyed before its entry is deleted, and that before its order is. -/
theorem destroyed_in_order {ledger ledger' : Ledger Action}
    (h : Run (Store.world .clean) ((Action.barbicanKeystore tries).delete caller id ledger) s t (x, ledger') s')
    (named : Named t) : InOrder caller id s t x s' := by
  obtain ⟨_, _, _, _, rfl, deleted, passed⟩ := Run.bind_iff.1 h
  obtain ⟨rfl, same, rfl⟩ := Run.pure_iff.1 passed
  obtain ⟨rfl, -⟩ := Prod.mk.inj same
  rw [List.append_nil] at named ⊢
  exact Networked.inOrder_of_deletes (Networked.deletes_of_run deleted) named

/-- The answers of an API whose order is done, and stays. -/
def withoutOrders : (c : Call) → c.Answer
  | .checkOrder .. => .ok (.active "r")
  | .deleteSecret .. => .ok ()
  | c => Call.refused (.transport "down") c

/-- The order of a key that is deleted cannot be. -/
theorem destroyed_in_order_without_orders :
    let caller : Caller := ⟨⟨"s", "o"⟩, "c", none⟩
    let s := ((Store.table true []).add caller.tenant ⟨"k", none, some "order"⟩).2
    let action := (Action.barbicanKeystore 1).delete caller "k" .empty
    let t := action.trace (Store.answer withoutOrders) s
    let ended := action.run (Store.answer withoutOrders) s
    Named t ∧ ended.1.1 = .ok () ∧ t.countP (·.call.dropsOrder) = 4 ∧
      InOrder caller "k" s t (.ok ()) ended.2 := by
  intro caller s action t ended
  have run := Run.of_answers (w := Store.world .clean) (Store.world_answer withoutOrders) action s
  have named : Named t := by
    unfold Named
    decide +kernel
  have deleted : ended.1.1 = .ok () := by decide +kernel
  exact ⟨named, deleted, by decide +kernel, deleted ▸ destroyed_in_order run named⟩

end

end Keystore

end KeyCustody

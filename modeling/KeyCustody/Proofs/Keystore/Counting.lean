import KeyCustody.Proofs.Counting
import KeyCustody.Proofs.Keystore.Deletion
import KeyCustody.Proofs.Plant

/-!
# What keystores count

A keystore over the API counts the retry loops that were in vain and the orders that it could not delete.
Both can be told from its other calls alone, and the counts come to the same.
-/

namespace KeyCustody

open Program
open Registry (Entry)
open Settings (KeystoreKind)

def Counter.isKeystore : Counter → Bool
  | retriesExhausted _ | orphanedOrder => true
  | _ => false

/-- An identifier has been given up. -/
def Event.givesUp : Event → Bool
  | ⟨.deleteEntry .., x⟩ => Except.isOk x
  | _ => false

namespace Keystore

/-! ## Rows of attempts -/

/-- The operation that an attempt was part of, if it failed in a way that may pass. In memory nothing is
tried twice. -/
def vain {α : Type} (kind : KeystoreKind) (operation : String) : Except Error α → Option String
  | .ok _ => none
  | .error e => if kind = .barbican ∧ e.isRetryable then some operation else none

/-- The operation that a call attempted in vain. -/
def vain? (kind : KeystoreKind) : Event → Option String
  | ⟨.getEntry .., x⟩ => vain kind "translate_id" x
  | ⟨.checkOrder .., x⟩ => vain kind "check_order" x
  | ⟨.updateEntry .., x⟩ => vain kind "promote_order" x
  | ⟨.getPayload .., x⟩ => vain kind "get_payload" x
  | ⟨.deleteOrder .., x⟩ => vain kind "delete_order" x
  | _ => none

/-- How many attempts at an operation have been in vain since the last that was not, and how many rows of
them were as long as a retry loop. -/
structure Rows where
  length : Nat
  full : Nat

namespace Rows

def longer (r : Rows) : Rows :=
  if r.length + 1 = Retry.limit then ⟨0, r.full + 1⟩ else ⟨r.length + 1, r.full⟩

/-- The rows after one more call; that something is counted does not matter. -/
def after (kind : KeystoreKind) (operation : String) (r : Rows) (v : Event) : Rows :=
  if v.counter?.isSome then r else if vain? kind v = some operation then r.longer else ⟨0, r.full⟩

end Rows

/-- How many retry loops of an operation saw nothing but failures that may pass. -/
def exhaustions (kind : KeystoreKind) (operation : String) (t : Trace) : Nat :=
  (t.foldl (Rows.after kind operation) ⟨0, 0⟩).full

/-! ## Orders that are left behind -/

/-- Whether the last call failed to bring an entry up to date, and how many deletions of an order failed
right after that. -/
structure Abandoned where
  stale : Bool
  orders : Nat

def Abandoned.after (a : Abandoned) : Event → Abandoned
  | ⟨.count _, _⟩ => a
  | ⟨.updateEntry .., x⟩ => ⟨!Except.isOk x, a.orders⟩
  | ⟨.deleteOrder .., x⟩ => ⟨false, if a.stale && !Except.isOk x then a.orders + 1 else a.orders⟩
  | _ => ⟨false, a.orders⟩

/-- How many deletions of an order failed after its entry could not be promoted. -/
def abandonments (t : Trace) : Nat := (t.foldl Abandoned.after ⟨false, 0⟩).orders

/-- The attempts to delete an order once an identifier has been given up. -/
def clearing (t : Trace) : Trace := (t.dropWhile (!·.givesUp)).filter (·.call.dropsOrder)

/-- An identifier was given up, and all attempts to delete the order behind it failed. -/
def leavesOrder (t : Trace) : Bool :=
  !(clearing t).isEmpty && (clearing t).all fun v => decide (v.call.Fails v.answer)

/-! ## Even traces -/

variable {kind : KeystoreKind} {operation : String} {r : Rows} {a : Abandoned} {v : Event} {t t' : Trace}

/-- How long a row may be between the calls of a look. The deletion of an order that could not be promoted
is tried once, and may be in vain. -/
def slack (operation : String) : Nat := if operation = "delete_order" then 1 else 0

theorem slack_le (operation : String) : slack operation ≤ 1 := by
  unfold slack
  split <;> decide

/-- A trace that counts what its other calls show, and in which no identifier is given up. -/
structure Even (kind : KeystoreKind) (t : Trace) : Prop where
  rows : ∀ operation r, r.length ≤ slack operation →
    (t.foldl (Rows.after kind operation) r).length ≤ slack operation ∧
      (t.foldl (Rows.after kind operation) r).full =
        r.full + (counts t).count (.retriesExhausted operation)
  orders : ∀ a, (t.foldl Abandoned.after a).orders = a.orders + (counts t).count .orphanedOrder
  kept : ∀ v ∈ t, v.givesUp = false

theorem Even.nil : Even kind [] where
  rows _ _ short := ⟨short, rfl⟩
  orders _ := rfl
  kept := List.forall_mem_nil _

theorem Even.append (h : Even kind t) (h' : Even kind t') : Even kind (t ++ t') where
  rows operation r short := by
    obtain ⟨short₁, full₁⟩ := h.rows operation r short
    obtain ⟨short₂, full₂⟩ := h'.rows operation _ short₁
    rw [List.foldl_append]
    refine ⟨short₂, full₂.trans ?_⟩
    rw [full₁, counts_append, List.count_append, Nat.add_assoc]
  orders a := by
    rw [List.foldl_append, h'.orders, h.orders, counts_append, List.count_append, Nat.add_assoc]
  kept := List.forall_mem_append.2 ⟨h.kept, h'.kept⟩

/-- A call that neither is attempted in vain nor deletes an order, and is not counted by a keystore. -/
structure Uneventful (kind : KeystoreKind) (v : Event) : Prop where
  uncounted : ∀ c, v.counter? = some c → c.isKeystore = false
  well : vain? kind v = none
  order : v.call.dropsOrder = false

theorem Uneventful.of_uncounted (uncounted : v.counter? = none) (well : vain? kind v = none)
    (order : v.call.dropsOrder = false) : Uneventful kind v :=
  ⟨fun c counted => by simp [uncounted] at counted, well, order⟩

/-- A call that is not attempted in vain breaks the row, if it is not a count. -/
theorem Rows.after_apart (apart : vain? kind v ≠ some operation) :
    (r.after kind operation v).length ≤ r.length ∧ (r.after kind operation v).full = r.full := by
  unfold Rows.after
  by_cases counted : v.counter?.isSome = true
  · rw [if_pos counted]
    exact ⟨Nat.le_refl _, rfl⟩
  · rw [if_neg counted, if_neg apart]
    exact ⟨Nat.zero_le _, rfl⟩

theorem Rows.foldl_apart (apart : ∀ v ∈ t, vain? kind v ≠ some operation) :
    (t.foldl (Rows.after kind operation) r).length ≤ r.length ∧
      (t.foldl (Rows.after kind operation) r).full = r.full := by
  induction t generalizing r with
  | nil => exact ⟨Nat.le_refl _, rfl⟩
  | cons v t ih =>
    obtain ⟨first, others⟩ := List.forall_mem_cons.1 apart
    obtain ⟨shorter, same⟩ := Rows.after_apart (r := r) first
    obtain ⟨shorter', same'⟩ := ih (r := r.after kind operation v) others
    exact ⟨shorter'.trans shorter, same'.trans same⟩

theorem Rows.foldl_broken (apart : ∀ v ∈ t, vain? kind v ≠ some operation) (called : ∃ v ∈ t, v.counter? = none) :
    (t.foldl (Rows.after kind operation) r).length = 0 := by
  induction t generalizing r with
  | nil =>
    obtain ⟨_, member, -⟩ := called
    cases member
  | cons v t ih =>
    obtain ⟨first, others⟩ := List.forall_mem_cons.1 apart
    by_cases uncounted : v.counter? = none
    · have broken : r.after kind operation v = ⟨0, r.full⟩ := by
        unfold Rows.after
        rw [uncounted, if_neg (by simp), if_neg first]
      rw [List.foldl_cons, broken]
      exact Nat.le_zero.1 (Rows.foldl_apart others).1
    · obtain ⟨u, member, called⟩ := called
      obtain rfl | member := List.mem_cons.1 member
      · exact absurd called uncounted
      · exact ih others ⟨u, member, called⟩

theorem Abandoned.after_kept (kept : v.call.dropsOrder = false) : (a.after v).orders = a.orders := by
  obtain ⟨call, x⟩ := v
  cases call with
  | deleteOrder => cases kept
  | _ => rfl

theorem Abandoned.foldl_kept (kept : ∀ v ∈ t, v.call.dropsOrder = false) :
    (t.foldl Abandoned.after a).orders = a.orders := by
  induction t generalizing a with
  | nil => rfl
  | cons v t ih =>
    obtain ⟨first, others⟩ := List.forall_mem_cons.1 kept
    exact (ih others).trans (Abandoned.after_kept first)

theorem count_eq_zero {c : Counter} (uncounted : ∀ c ∈ counts t, c.isKeystore = false)
    (keystore : c.isKeystore = true) : (counts t).count c = 0 :=
  List.count_eq_zero.2 fun member => Bool.false_ne_true ((uncounted c member).symm.trans keystore)

theorem uncounted_of_uneventful (uneventful : ∀ v ∈ t, Uneventful kind v) :
    ∀ c ∈ counts t, c.isKeystore = false := by
  intro c member
  obtain ⟨v, member, counted⟩ := List.mem_filterMap.1 member
  exact (uneventful v member).uncounted c counted

theorem Uneventful.even (h : Uneventful kind v) (kept : v.givesUp = false) : Even kind [v] where
  rows operation r short := by
    have apart : vain? kind v ≠ some operation := h.well ▸ nofun
    obtain ⟨shorter, same⟩ := Rows.after_apart (r := r) apart
    rw [count_eq_zero (uncounted_of_uneventful (List.forall_mem_singleton.2 h)) rfl]
    exact ⟨shorter.trans short, same⟩
  orders a := by
    rw [count_eq_zero (uncounted_of_uneventful (List.forall_mem_singleton.2 h)) rfl]
    exact Abandoned.after_kept h.order
  kept := List.forall_mem_singleton.2 kept

theorem Even.cons (h : Even kind t) (uneventful : Uneventful kind v) (kept : v.givesUp = false) : Even kind (v :: t) :=
  (uneventful.even kept).append h

theorem even_of_uneventful (uneventful : ∀ v ∈ t, Uneventful kind v) (kept : ∀ v ∈ t, v.givesUp = false) :
    Even kind t := by
  induction t with
  | nil => exact .nil
  | cons v t ih =>
    obtain ⟨first, rest⟩ := List.forall_mem_cons.1 uneventful
    obtain ⟨kept, others⟩ := List.forall_mem_cons.1 kept
    exact (ih rest others).cons first kept

/-! ## Retry loops -/

section
variable {α : Type} {operation' : String} {event : Except Error α → Event} {x : Except Error α}

/-- The attempts of a retry loop over the API. -/
structure Attempts (operation : String) (event : Except Error α → Event) : Prop where
  uncounted : ∀ x, (event x).counter? = none
  named : ∀ x, vain? .barbican (event x) = vain .barbican operation x

theorem vain_final (final : ∀ e, x = .error e → e.isRetryable = false) : vain kind operation x = none := by
  cases x with
  | ok _ => rfl
  | error e => exact if_neg fun both => Bool.false_ne_true ((final e rfl).symm.trans both.2)

theorem vain_names (h : vain kind operation x = some operation') : operation = operation' := by
  cases x with
  | ok _ => cases h
  | error e =>
    by_cases again : kind = .barbican ∧ e.isRetryable = true
    · exact Option.some.inj ((if_pos again).symm.trans h)
    · cases (if_neg again).symm.trans h

theorem vain_again {e : Error} (again : e.isRetryable = true) :
    vain .barbican operation (.error e : Except Error α) = some operation :=
  if_pos ⟨rfl, again⟩

theorem Attempts.counts_failed (h : Attempts operation event) (failed : List Error) :
    counts (failed.map fun e => event (.error e)) = [] :=
  List.filterMap_eq_nil_iff.2 (List.forall_mem_map.2 fun e _ => h.uncounted (.error e))

theorem Attempts.after (h : Attempts operation event) :
    r.after .barbican operation' (event x) =
      if vain .barbican operation x = some operation' then r.longer else ⟨0, r.full⟩ := by
  unfold Rows.after
  rw [h.uncounted x, h.named x]
  rfl

theorem Attempts.foldl_failed (h : Attempts operation event) {failed : List Error}
    (again : ∀ e ∈ failed, e.isRetryable = true) (short : r.length + failed.length < Retry.limit) :
    (failed.map fun e => event (.error e)).foldl (Rows.after .barbican operation) r =
      ⟨r.length + failed.length, r.full⟩ := by
  induction failed generalizing r with
  | nil => rfl
  | cons e failed ih =>
    obtain ⟨first, others⟩ := List.forall_mem_cons.1 again
    rw [List.length_cons] at short
    have longer : r.after .barbican operation (event (.error e)) = ⟨r.length + 1, r.full⟩ := by
      rw [h.after, if_pos (vain_again first), Rows.longer, if_neg (by omega)]
    rw [List.map_cons, List.foldl_cons, longer, ih others (by simp only; omega)]
    simp only [List.length_cons]
    congr 1
    omega

/-- A loop leaves a row of its own only if it is as long as the loop may be. -/
theorem Attempts.foldl_own (h : Attempts operation event)
    (tried : Retry.Tries event (.retriesExhausted operation) Retry.limit t x) (fresh : r.length = 0) :
    t.foldl (Rows.after .barbican operation) r =
      ⟨0, r.full + (counts t).count (.retriesExhausted operation)⟩ := by
  obtain ⟨length, full⟩ := r
  obtain rfl : length = 0 := fresh
  cases tried with
  | @decided failed _ again within final =>
    rw [List.foldl_append, h.foldl_failed again (by simp only; omega), List.foldl_cons, List.foldl_nil, h.after,
      vain_final final, if_neg nofun, counts_append, h.counts_failed, counts_other (h.uncounted x)]
    rfl
  | @exhausted failed last again lastAgain all =>
    have counted : counts [event (.error last), ⟨.count (.retriesExhausted operation), ()⟩] =
      [.retriesExhausted operation] := counts_other (h.uncounted _)
    have full : ∀ r : Rows, r.length + 1 = Retry.limit →
        [event (.error last), ⟨.count (.retriesExhausted operation), ()⟩].foldl
          (Rows.after .barbican operation) r = ⟨0, r.full + 1⟩ := by
      intro r longest
      have longer : r.after .barbican operation (event (.error last)) = ⟨0, r.full + 1⟩ := by
        rw [h.after, if_pos (vain_again lastAgain), Rows.longer, if_pos longest]
      rw [List.foldl_cons, longer]
      rfl
    -- the failures before the last leave a row that the last makes as long as the loop
    rw [List.foldl_append, h.foldl_failed again (by simp only; omega), full _ (by simp only; omega), counts_append,
      h.counts_failed, counted, List.nil_append, List.count_cons_self]
    rfl

theorem Attempts.counts_tries (h : Attempts operation event)
    (tried : Retry.Tries event (.retriesExhausted operation) Retry.limit t x) :
    ∀ c ∈ counts t, c = .retriesExhausted operation := by
  cases tried with
  | decided =>
    rw [counts_append, h.counts_failed, counts_other (h.uncounted x)]
    exact List.forall_mem_nil _
  | exhausted =>
    rw [counts_append, h.counts_failed, counts_other (h.uncounted _)]
    exact List.forall_mem_singleton.2 rfl

theorem Attempts.apart (h : Attempts operation event) (other : operation ≠ operation')
    (tried : Retry.Tries event (.retriesExhausted operation) Retry.limit t x) :
    ∀ v ∈ t, vain? .barbican v ≠ some operation' := by
  intro v member named
  obtain ⟨y, rfl⟩ | rfl := tried.calls v member
  · rw [h.named] at named
    exact other (vain_names named)
  · cases named

/-- What a loop does to the rows of any operation, where no row of its own is begun. -/
theorem Attempts.foldl (h : Attempts operation event) (operation' : String)
    (tried : Retry.Tries event (.retriesExhausted operation) Retry.limit t x)
    (fresh : operation = operation' → r.length = 0) :
    (t.foldl (Rows.after .barbican operation') r).length ≤ r.length ∧
      (t.foldl (Rows.after .barbican operation') r).full =
        r.full + (counts t).count (.retriesExhausted operation') := by
  by_cases own : operation = operation'
  · subst own
    rw [h.foldl_own tried (fresh rfl)]
    exact ⟨Nat.zero_le _, rfl⟩
  · have none : (counts t).count (.retriesExhausted operation') = 0 := by
      refine List.count_eq_zero.2 fun member => own ?_
      cases h.counts_tries tried _ member
      rfl
    rw [none]
    exact Rows.foldl_apart (h.apart own tried)

theorem Attempts.count_orphanedOrder (h : Attempts operation event)
    (tried : Retry.Tries event (.retriesExhausted operation) Retry.limit t x) :
    (counts t).count .orphanedOrder = 0 := by
  refine List.count_eq_zero.2 fun member => ?_
  cases h.counts_tries tried _ member

end

/-! ## Looking at a secret -/

/-- A call that looks something up, or brings an entry up to date. -/
def consults : Call → Bool
  | .getEntry .. | .checkOrder .. | .updateEntry .. | .getPayload .. | .findMaterial _ => true
  | _ => false

def inspects : Call → Bool
  | .deleteOrder .. => true
  | .count c => c.isKeystore
  | c => consults c

/-- The trace of a look at a secret. -/
structure Looked (kind : KeystoreKind) (t : Trace) : Prop extends Even kind t where
  calls : ∀ v ∈ t, inspects v.call = true

theorem Looked.append (h : Looked kind t) (h' : Looked kind t') : Looked kind (t ++ t') where
  toEven := h.toEven.append h'.toEven
  calls := List.forall_mem_append.2 ⟨h.calls, h'.calls⟩

theorem chains_looked {σ : Type} : Chains fun (_ : σ) t _ => Looked kind t where
  refl _ := ⟨.nil, List.forall_mem_nil _⟩
  append := .append

theorem Looked.counted (h : Looked kind t) : ∀ c ∈ counts t, c.isKeystore = true := by
  intro c member
  obtain ⟨⟨call, x⟩, member, counted⟩ := List.mem_filterMap.1 member
  have inspected := h.calls _ member
  cases call with
  | count c' =>
    obtain rfl := Option.some.inj counted
    exact inspected
  | _ => cases counted

theorem Looked.untimed (h : Looked kind t) : ∀ v ∈ t, v.call ≠ .now := by
  intro v member timed
  have inspected := h.calls v member
  rw [timed] at inspected
  cases inspected

section
variable {α σ : Type} {w : World σ} {event : Except Error α → Event} {x : Except Error α} {caller : Caller}
  {s s' : σ} {e : Entry} {id order : String}

theorem kept_of_consults {v : Event} (h : consults v.call = true) :
    v.call.dropsOrder = false ∧ v.givesUp = false ∧ v.counter? = none ∧ inspects v.call = true := by
  obtain ⟨call, x⟩ := v
  cases call with
  | getEntry | checkOrder | updateEntry | getPayload | findMaterial => exact ⟨rfl, rfl, rfl, rfl⟩
  | _ => cases h

theorem looked_of_consults (consulted : ∀ v ∈ t, consults v.call = true) (well : ∀ v ∈ t, vain? kind v = none) :
    Looked kind t where
  toEven := by
    refine even_of_uneventful (fun v member => ?_) fun v member => (kept_of_consults (consulted v member)).2.1
    obtain ⟨kept, -, uncounted, -⟩ := kept_of_consults (consulted v member)
    exact ⟨by simp [uncounted], well v member, kept⟩
  calls v member := (kept_of_consults (consulted v member)).2.2.2

theorem Attempts.looked (h : Attempts operation event) (looks : ∀ x, consults (event x).call = true)
    (other : operation ≠ "delete_order")
    (tried : Retry.Tries event (.retriesExhausted operation) Retry.limit t x) : Looked .barbican t where
  rows operation' r short := by
    have fresh : operation = operation' → r.length = 0 := by
      rintro rfl
      rw [slack, if_neg other] at short
      exact Nat.le_zero.1 short
    obtain ⟨shorter, full⟩ := h.foldl operation' tried fresh
    exact ⟨shorter.trans short, full⟩
  orders a := by
    rw [h.count_orphanedOrder tried]
    refine Abandoned.foldl_kept fun v member => ?_
    obtain ⟨y, rfl⟩ | rfl := tried.calls v member
    · exact (kept_of_consults (looks y)).1
    · rfl
  kept := by
    intro v member
    obtain ⟨y, rfl⟩ | rfl := tried.calls v member
    · exact (kept_of_consults (looks y)).2.1
    · rfl
  calls := by
    intro v member
    obtain ⟨y, rfl⟩ | rfl := tried.calls v member
    · exact (kept_of_consults (looks y)).2.2.2
    · rfl

theorem looked_retry {attempt : ExceptT Error Action α} (event : Except Error α → Event)
    (attempts : Attempts operation event)
    (looks : ∀ x, consults (event x).call = true) (other : operation ≠ "delete_order")
    (once : ∀ s t x s', Run w attempt.run s t x s' → t = [event x]) :
    Respects w (fun _ t _ => Looked .barbican t) (Networked.retry Action.count operation attempt).run :=
  fun _ _ _ _ h => attempts.looked looks other (Retry.tries_attempts once h)

/-- Attempts to bring an entry up to date that end with an error have left it as it was. -/
theorem Abandoned.foldl_promotion {counter : Counter} {error : Error}
    (tried : Retry.Tries (⟨.updateEntry caller.tenant e, ·⟩) counter Retry.limit t (.error error)) :
    t.foldl Abandoned.after a = ⟨true, a.orders⟩ := by
  have kept : ∀ v ∈ t, v.call.dropsOrder = false := by
    intro v member
    obtain ⟨y, rfl⟩ | rfl := tried.calls v member
    · rfl
    · rfl
  have orders := Abandoned.foldl_kept (a := a) kept
  have stale : (t.foldl Abandoned.after a).stale = true := by
    cases tried with
    | decided | exhausted =>
      rw [List.foldl_append]
      rfl
  rw [← orders, ← stale]

theorem attempts_promotion : Attempts "promote_order" (⟨.updateEntry caller.tenant e, ·⟩) :=
  ⟨fun _ => rfl, fun _ => rfl⟩

theorem attempts_deleteOrder : Attempts "delete_order" (⟨.deleteOrder caller order, ·⟩) :=
  ⟨fun _ => rfl, fun _ => rfl⟩

section
variable {x : Except Error Unit}

theorem Rows.foldl_orphaning : (Networked.orphaning x).foldl (Rows.after kind operation) r = r := by
  cases x <;> rfl

theorem exhausted_orphaning : (counts (Networked.orphaning x)).count (.retriesExhausted operation) = 0 := by
  cases x <;> rfl

theorem looked_abandoned {error : Error}
    (tried : Retry.Tries (⟨.updateEntry caller.tenant e, ·⟩) (.retriesExhausted "promote_order") Retry.limit t
      (.error error)) :
    Looked .barbican (t ++ ⟨.deleteOrder caller order, x⟩ :: Networked.orphaning x) := by
  have looked : Looked .barbican t := attempts_promotion.looked (fun _ => rfl) (by decide) tried
  have called : ∃ v ∈ t, v.counter? = none := ⟨_, tried.called, rfl⟩
  have row : ∀ operation r, r.length ≤ slack operation →
      ((t.foldl (Rows.after .barbican operation) r).after .barbican operation
        ⟨.deleteOrder caller order, x⟩).length ≤ slack operation ∧
      ((t.foldl (Rows.after .barbican operation) r).after .barbican operation
        ⟨.deleteOrder caller order, x⟩).full = r.full + (counts t).count (.retriesExhausted operation) := by
    intro operation r short
    obtain ⟨-, full⟩ := looked.rows operation r short
    rw [attempts_deleteOrder.after]
    by_cases again : vain .barbican "delete_order" x = some operation
    · -- the attempts to promote the entry have broken the row
      obtain rfl := vain_names again
      have broken : (t.foldl (Rows.after .barbican "delete_order") r).length = 0 :=
        Rows.foldl_broken (attempts_promotion.apart (by decide) tried) called
      rw [if_pos again, Rows.longer, broken, if_neg (by decide)]
      exact ⟨Nat.le_refl _, full⟩
    · rw [if_neg again]
      exact ⟨Nat.zero_le _, full⟩
  refine ⟨⟨fun operation r short => ?_, fun a => ?_, ?_⟩, ?_⟩
  · rw [List.foldl_append, List.foldl_cons, Rows.foldl_orphaning, counts_append, List.count_append, counts_other rfl,
      exhausted_orphaning]
    exact row operation r short
  · rw [List.foldl_append, Abandoned.foldl_promotion tried, counts_append, List.count_append,
      attempts_promotion.count_orphanedOrder tried, Nat.zero_add]
    cases x <;> rfl
  · refine List.forall_mem_append.2 ⟨looked.kept, List.forall_mem_cons.2 ⟨rfl, fun v member => ?_⟩⟩
    rw [Networked.mem_orphaning v member]
    rfl
  · refine List.forall_mem_append.2 ⟨looked.calls, List.forall_mem_cons.2 ⟨rfl, fun v member => ?_⟩⟩
    rw [Networked.mem_orphaning v member]
    rfl

end

theorem looked_promote : Respects w (fun _ t _ => Looked .barbican t)
    (Networked.promote Action.registry (Call.barbican Action.make) Action.count caller e order) := by
  intro s t u s' h
  obtain ⟨t₁, x, _, t₂, rfl, updated, ended⟩ := Run.bind_iff.1 h
  have tried : Retry.Tries (⟨.updateEntry caller.tenant e, ·⟩) (.retriesExhausted "promote_order") Retry.limit
      t₁ x := Retry.tries_attempts (fun _ _ _ _ asked => (Run.ask_iff.1 asked).1) updated
  cases x with
  | ok _ =>
    obtain ⟨rfl, -, -⟩ := Run.pure_iff.1 ended
    rw [List.append_nil]
    exact attempts_promotion.looked (fun _ => rfl) (by decide) tried
  | error error =>
    obtain ⟨_, x, _, t₃, rfl, deleted, counted⟩ := Run.bind_iff.1 ended
    obtain ⟨rfl, -⟩ := Run.ask_iff.1 deleted
    have last : t₃ = Networked.orphaning x := by
      cases x with
      | ok _ => exact (Run.pure_iff.1 counted).1
      | error _ => exact (Run.ask_iff.1 counted).1
    rw [last]
    exact looked_abandoned tried

theorem looked_resolve : Respects w (fun _ t _ => Looked .barbican t)
    (Networked.resolve Action.registry (Call.barbican Action.make) Action.count caller e).run := by
  unfold Networked.resolve
  cases e.pending? with
  | none => exact .pure chains_looked _
  | some order =>
    have polled : Respects w (fun _ t _ => Looked .barbican t) (Networked.retry Action.count "check_order"
        ((Call.barbican Action.make).checkOrder caller order)).run :=
      looked_retry (⟨.checkOrder caller order, ·⟩) ⟨fun _ => rfl, fun _ => rfl⟩ (fun _ => rfl) (by decide)
        fun _ _ _ _ asked => (Run.ask_iff.1 asked).1
    refine .bindExcept chains_looked polled fun status => ?_
    cases status with
    | pending => exact .pure chains_looked _
    | failed _ => exact .pure chains_looked _
    | active ref =>
      refine .bindExcept chains_looked (.bind chains_looked looked_promote fun _ => .pure chains_looked _) ?_
      exact fun _ => .pure chains_looked _

theorem looked_look : Respects w (fun _ t _ => Looked .barbican t)
    (Networked.look Action.registry (Call.barbican Action.make) Action.count caller id).run := by
  have translated : Respects w (fun _ t _ => Looked .barbican t) (Networked.retry Action.count "translate_id"
      (Action.registry.get caller.tenant id)).run :=
    looked_retry (⟨.getEntry caller.tenant id, ·⟩) ⟨fun _ => rfl, fun _ => rfl⟩ (fun _ => rfl) (by decide)
      fun _ _ _ _ asked => (Run.ask_iff.1 asked).1
  exact .bindExcept chains_looked translated fun _ => looked_resolve

theorem looked_networked_payload {tries : Nat} : Respects w (fun _ t _ => Looked .barbican t)
    ((Action.barbicanKeystore tries).payload caller id).run := by
  refine .bindExcept chains_looked looked_look fun found => ?_
  cases found with
  | ready e =>
    change Respects w _ (Networked.fetch (Call.barbican Action.make) Action.count caller e).run
    unfold Networked.fetch
    cases e.secret? with
    | none => exact .throw chains_looked _
    | some ref =>
      have fetched : ∀ type, Respects w (fun _ t _ => Looked .barbican t) (Networked.retry Action.count "get_payload"
          ((Call.barbican Action.make).getPayload caller ref type)).run := fun type =>
        looked_retry (⟨.getPayload caller ref type, ·⟩) ⟨fun _ => rfl, fun _ => rfl⟩ (fun _ => rfl) (by decide)
          fun _ _ _ _ asked => (Run.ask_iff.1 asked).1
      exact .bindExcept chains_looked (fetched _) fun _ => .pure chains_looked _
  | pending => exact .pure chains_looked _
  | failed => exact .pure chains_looked _

theorem looked_networked_check {tries : Nat} : Respects w (fun _ t _ => Looked .barbican t)
    ((Action.barbicanKeystore tries).check caller id).run := by
  refine .bindExcept chains_looked looked_look fun found => ?_
  cases found with
  | ready _ => exact .pure chains_looked _
  | pending => exact .pure chains_looked _
  | failed => exact .pure chains_looked _

theorem vain?_memory (v : Event) : vain? .memory v = none := by
  have never {α : Type} (operation : String) (x : Except Error α) : vain .memory operation x = none := by
    cases x <;> simp [vain]
  obtain ⟨call, x⟩ := v
  cases call with
  | getEntry | checkOrder | updateEntry | getPayload | deleteOrder => exact never _ _
  | _ => rfl

theorem looked_of_looks {p : Action α} (keeps : p.Keeps (·.looks = true) fun _ => True) :
    Respects w (fun _ t _ => Looked .memory t) p := by
  intro s t a s' h
  refine looked_of_consults (fun v member => ?_) fun v _ => vain?_memory v
  have looks := keeps.respects s t a s' h v member
  obtain ⟨call, x⟩ := v
  cases call with
  | getEntry | findMaterial => rfl
  | _ => cases looks

theorem looked_payload {tries : Nat} : Respects w (fun _ t _ => Looked kind t)
    ((Action.keystore tries kind).payload caller id).run :=
  match kind with
  | .barbican => looked_networked_payload
  | .memory => looked_of_looks InMemory.payload_looks

theorem looked_check {tries : Nat} : Respects w (fun _ t _ => Looked kind t)
    ((Action.keystore tries kind).check caller id).run :=
  match kind with
  | .barbican => looked_networked_check
  | .memory => looked_of_looks InMemory.check_looks

end

end Keystore

end KeyCustody

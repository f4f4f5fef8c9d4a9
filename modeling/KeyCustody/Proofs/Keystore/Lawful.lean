import KeyCustody.Proofs.Keystore.History
import KeyCustody.Proofs.Registry.Allocation
import KeyCustody.Proofs.Registry.Replay

/-!
# What requests to the keystore over Barbican may do

A request adds an entry of one reference, promotes the one it is about, asks for an order only while
its entry names nothing else, and fetches material in the form that fits the entry. Calls on the
registry may fail without effect, and the API may answer anything.
-/

namespace KeyCustody.Keystore

open Program
open Barbican (PayloadType OrderStatus)
open Registry (Entry Store)

/-! ## What is lawful -/

/-- An order was found done, with a reference to its secret. -/
def Reported (t : Trace) (order ref : String) : Prop :=
  ∃ caller, ⟨.checkOrder caller order, .ok (.active ref)⟩ ∈ t

/-- An answer that finds an order done comes with a reference. -/
def refers : Event → Bool
  | ⟨.checkOrder .., .ok (.active ref)⟩ => ref ≠ ""
  | _ => true

def Named (t : Trace) : Prop := ∀ v ∈ t, refers v = true

/-- An entry keeps its references, or gets the one that its order has reported. -/
def Forward (t : Trace) (e e' : Entry) : Prop :=
  e'.order? = e.order? ∧ (e'.secret? = e.secret? ∨
    e.secret? = none ∧ ∃ order ref, e.order? = some order ∧ e'.secret? = some ref ∧
      Reported t order ref)

/-- What a request may call where `past` is what it has called before: it adds an entry of one
reference, moves one forward, asks for the order of an entry that names no secret, and fetches material
in the form that fits the entry. -/
def Lawful (q : Request) (s : Store) (past : Trace) : Event → Prop
  | ⟨.addEntry tenant e, .ok _⟩ =>
    (s.add tenant e).1 = .ok () ∧ e.secret?.isSome ≠ e.order?.isSome
  | ⟨.updateEntry tenant e, .ok _⟩ =>
    (s.update tenant e).1 = .ok () ∧ ∃ old, s.get tenant e.issuedId = .ok old ∧ Forward past old e
  | ⟨.checkOrder caller order, _⟩ =>
    ∃ id e, q.on? = some (caller.tenant, id) ∧ s.get caller.tenant id = .ok e ∧
      e.pending? = some order
  | ⟨.getPayload caller _ type, _⟩ =>
    ∃ id e, q = .payload caller id ∧ s.get caller.tenant id = .ok e ∧
      (type = .bytes ↔ e.isGenerated = true)
  | _ => True

/-- What holds of each call of a trace, given the store and the calls before it. -/
def Along (P : Store → Trace → Event → Prop) : Store → Trace → Trace → Prop
  | _, _, [] => True
  | s, past, v :: t => P s past v ∧ Along P (s.after v) (past ++ [v]) t

section
variable {P Q : Store → Trace → Event → Prop} {q : Request} {s s' s₁ : Store} {past t t' : Trace}

theorem along_append :
    Along P s past (t ++ t') ↔ Along P s past t ∧ Along P (s.replay t) (past ++ t) t' := by
  induction t generalizing s past with
  | nil => simp [Along]
  | cons v t ih => simp [Along, ih, and_assoc]

theorem Along.mono (h : Along P s past t) (implies : ∀ s past v, P s past v → Q s past v) :
    Along Q s past t := by
  induction t generalizing s past with
  | nil => trivial
  | cons v t ih => exact ⟨implies _ _ _ h.1, ih h.2⟩

/-- A request goes lawfully from one store to another. -/
structure Goes (q : Request) (past : Trace) (s : Store) (t : Trace) (s' : Store) : Prop where
  lawful : Along (Lawful q) s past t
  leaves : s' = s.replay t

theorem Goes.append (first : Goes q past s t s₁) (rest : Goes q (past ++ t) s₁ t' s') :
    Goes q past s (t ++ t') s' := by
  obtain ⟨lawful, rfl⟩ := first
  obtain ⟨lawful', rfl⟩ := rest
  exact ⟨along_append.2 ⟨lawful, lawful'⟩, Store.replay_append.symm⟩

/-- A call that is lawful at any time and leaves the store. -/
def Idle (q : Request) (s : Store) (v : Event) : Prop :=
  s.after v = s ∧ ∀ past, Lawful q s past v

theorem goes_idle (past : Trace) (h : ∀ v ∈ t, Idle q s v) : Goes q past s t s := by
  induction t generalizing past with
  | nil => exact ⟨trivial, rfl⟩
  | cons v t ih =>
    obtain ⟨⟨kept, lawful⟩, others⟩ := List.forall_mem_cons.1 h
    obtain ⟨rest, leaves⟩ := ih (past ++ [v]) others
    refine ⟨⟨lawful past, ?_⟩, ?_⟩
    · rw [kept]
      exact rest
    · rw [Store.replay_cons, kept]
      exact leaves

end

section
variable {past t t' : Trace} {e e' : Entry} {order ref : String}

theorem pending_iff :
    e.pending? = some order ↔ e.secret? = none ∧ e.order? = some order := by
  unfold Entry.pending?
  cases e.secret? <;> simp

theorem forward_promoted (pending : e.pending? = some order)
    (named : ref ≠ "") (reported : Reported past order ref) :
    Forward past e { e with secretRef := some ref } := by
  obtain ⟨none, ordered⟩ := pending_iff.1 pending
  have given : Entry.secret? { e with secretRef := some ref } = some ref := by
    simp [Entry.secret?, Entry.present, named]
  exact ⟨rfl, .inr ⟨none, order, ref, ordered, given, reported⟩⟩

theorem Forward.mono (h : Forward t e e') (part : ∀ v ∈ t, v ∈ t') :
    Forward t' e e' := by
  refine ⟨h.1, h.2.imp_right ?_⟩
  rintro ⟨none, order, ref, ordered, given, caller, reported⟩
  exact ⟨none, order, ref, ordered, given, caller, part _ reported⟩

end

/-! ## Programs that go lawfully whatever stands -/

/-- Every run of the program goes lawfully, from whatever store and after whatever calls. -/
def Obeys (q : Request) {α : Type} (p : Action α) : Prop :=
  ∀ s past t a s', Run (Store.world .clean) p s t a s' → Goes q past s t s'

namespace Obeys

variable {q : Request} {α β : Type}

theorem pure (a : α) : Obeys q (Pure.pure a) := by
  intro s past t b s' h
  obtain ⟨rfl, -, rfl⟩ := Run.pure_iff.1 h
  exact ⟨trivial, rfl⟩

theorem make {c : Call} (lawful : ∀ s past x, Lawful q s past ⟨c, x⟩) :
    Obeys q (Action.make c) := by
  intro s past t x s' h
  obtain ⟨rfl, answered⟩ := Run.ask_iff.1 h
  exact ⟨⟨lawful s past x, trivial⟩, Store.world_after answered⟩

theorem bind {p : Action α} {f : α → Action β} (first : Obeys q p) (rest : ∀ a, Obeys q (f a)) :
    Obeys q (p >>= f) := by
  intro s past t b s' h
  obtain ⟨t₁, a, s₁, t₂, rfl, ran, ended⟩ := Run.bind_iff.1 h
  exact (first _ _ _ _ _ ran).append (rest a _ _ _ _ _ ended)

theorem bindExcept {p : ExceptT Error Action α} {f : α → ExceptT Error Action β}
    (first : Obeys q p.run) (rest : ∀ a, Obeys q (f a).run) : Obeys q (p >>= f).run := by
  refine bind first fun x => ?_
  cases x with
  | ok a => exact rest a
  | error _ => exact pure _

theorem attemptsLeft {operation : String} {exhausted : Action Unit}
    {attempt : ExceptT Error Action α} (counted : Obeys q exhausted) (tried : Obeys q attempt.run)
    (left : Nat) (last : Option Error) :
    Obeys q (Retry.attemptsLeft exhausted operation attempt left last).run := by
  induction left generalizing last with
  | zero => exact bind counted fun _ => pure _
  | succ left ih =>
    refine bind tried fun x => ?_
    cases x with
    | ok a => exact pure _
    | error error =>
      by_cases again : error.isRetryable = true
      · simp only [again, if_true]
        exact ih _
      · simp only [again, Bool.false_eq_true, if_false]
        exact pure _

theorem count (c : Counter) : Obeys q (Action.count c) := make fun _ _ _ => trivial

theorem retry {operation : String} {attempt : ExceptT Error Action α}
    (tried : Obeys q attempt.run) : Obeys q (Networked.retry Action.count operation attempt).run :=
  attemptsLeft (count _) tried _ _

end Obeys

namespace Networked

section
variable {q : Request} {s s' : Store} {past t t' : Trace} {tries : Nat} {caller : Caller}
  {tenant : Tenant} {id : String}

/-! ## Retries -/

/-- A call that is tried again leaves idle calls, before one that succeeds if any does. -/
theorem run_retry {α : Type} {operation : String} {attempt : ExceptT Error Action α}
    {r : Except Error α} {idle : Event → Prop} (counted : ∀ c, idle ⟨.count c, ()⟩)
    (failed : ∀ t e s', Run (Store.world .clean) attempt.run s t (.error e) s' →
      s' = s ∧ ∀ v ∈ t, idle v)
    (h : Run (Store.world .clean) (retry Action.count operation attempt).run s t r s') :
    ∃ t₁ t₂, t = t₁ ++ t₂ ∧ (∀ v ∈ t₁, idle v) ∧
      ((∃ a, r = .ok a ∧ Run (Store.world .clean) attempt.run s t₂ (.ok a) s') ∨
        (∃ e, r = .error e) ∧ t₂ = [] ∧ s' = s) := by
  unfold retry Retry.attempts at h
  -- The bound and the error of the attempt before do not matter; the induction needs them free.
  generalize Retry.limit = left, (none : Option Error) = last at h
  induction left generalizing t last with
  | zero =>
    obtain ⟨_, _, _, _, rfl, asked, passed⟩ := Run.bind_iff.1 h
    obtain ⟨rfl, rfl⟩ := Run.ask_iff.1 asked
    obtain ⟨rfl, rfl, rfl⟩ := Run.pure_iff.1 passed
    exact ⟨_, [], rfl, by simpa using counted _, .inr ⟨⟨_, rfl⟩, rfl, rfl⟩⟩
  | succ left ih =>
    unfold Retry.attemptsLeft at h
    obtain ⟨t₁, x, s₁, t₂, rfl, tried, ended⟩ := Run.bind_iff.1 h
    cases x with
    | ok a =>
      obtain ⟨rfl, rfl, rfl⟩ := Run.pure_iff.1 ended
      exact ⟨[], t₁, by simp, by simp, .inl ⟨a, rfl, tried⟩⟩
    | error error =>
      obtain ⟨rfl, idle₁⟩ := failed _ _ _ tried
      by_cases again : error.isRetryable = true
      · simp only [again, if_true] at ended
        obtain ⟨t₃, t₄, rfl, idle₃, outcome⟩ := ih _ ended
        refine ⟨t₁ ++ t₃, t₄, (List.append_assoc ..).symm, fun v member => ?_, outcome⟩
        exact (List.mem_append.1 member).elim (idle₁ v) (idle₃ v)
      · simp only [again, Bool.false_eq_true, if_false] at ended
        obtain ⟨rfl, rfl, rfl⟩ := Run.pure_iff.1 ended
        exact ⟨t₁, [], rfl, idle₁, .inr ⟨⟨_, rfl⟩, rfl, rfl⟩⟩

theorem run_idle {c : Call} {x : c.Answer} (idle : ∀ x, Idle q s ⟨c, x⟩)
    (h : Run (Store.world .clean) (Action.make c) s t x s') : s' = s ∧ ∀ v ∈ t, Idle q s v := by
  obtain ⟨rfl, answered⟩ := Run.ask_iff.1 h
  exact ⟨(Store.world_after answered).trans (idle x).1, List.forall_mem_singleton.2 (idle x)⟩

theorem idle_count {c : Counter} : Idle q s ⟨.count c, ()⟩ := ⟨rfl, fun _ => trivial⟩

/-- What makes idle calls only, and leaves the store, does so when it is tried again. -/
theorem run_retry_idle {α : Type} {operation : String} {attempt : ExceptT Error Action α}
    {r : Except Error α}
    (only : ∀ t r s', Run (Store.world .clean) attempt.run s t r s' → s' = s ∧ ∀ v ∈ t, Idle q s v)
    (h : Run (Store.world .clean) (retry Action.count operation attempt).run s t r s') :
    s' = s ∧ (∀ v ∈ t, Idle q s v) ∧ ∀ a, r = .ok a → ∃ t₁ t₂, t = t₁ ++ t₂ ∧
      Run (Store.world .clean) attempt.run s t₂ (.ok a) s := by
  obtain ⟨t₁, t₂, rfl, idle, ⟨a, rfl, done⟩ | ⟨⟨e, rfl⟩, rfl, rfl⟩⟩ :=
    run_retry (fun _ => idle_count) (fun t e s' => only t (.error e) s') h
  · obtain ⟨rfl, idle₂⟩ := only _ _ _ done
    refine ⟨rfl, fun v member => (List.mem_append.1 member).elim (idle v) (idle₂ v), ?_⟩
    intro a' same
    obtain rfl := Except.ok.inj same
    exact ⟨t₁, t₂, rfl, done⟩
  · rw [List.append_nil]
    exact ⟨rfl, idle, fun _ same => by cases same⟩

/-! ## Looking an identifier up -/

theorem run_get {r : Except Error Entry}
    (h : Run (Store.world .clean) (Action.registry.get tenant id).run s t r s') :
    s' = s ∧ (∀ v ∈ t, Idle q s v) ∧ ∀ e, r = .ok e → s.get tenant id = .ok e := by
  obtain ⟨kept, idle⟩ := run_idle (q := q) (c := .getEntry tenant id)
    (fun _ => ⟨rfl, fun _ => trivial⟩) h
  refine ⟨kept, idle, ?_⟩
  rintro e rfl
  obtain ⟨-, answered⟩ := Run.ask_iff.1 h
  have admitted : Fault.clean.Admits (s.get tenant id, s) s (.ok e) s' := answered
  exact congrArg Prod.fst admitted.ok

theorem run_translate {r : Except Error Entry}
    (h : Run (Store.world .clean)
      (retry Action.count "translate_id" (Action.registry.get tenant id)).run s t r s') :
    s' = s ∧ (∀ v ∈ t, Idle q s v) ∧ ∀ e, r = .ok e → s.get tenant id = .ok e := by
  have only : ∀ t r s', Run (Store.world .clean) (Action.registry.get tenant id).run s t r s' →
      s' = s ∧ ∀ v ∈ t, Idle q s v :=
    fun _ _ _ asked => ⟨(run_get (q := q) asked).1, (run_get asked).2.1⟩
  obtain ⟨kept, idle, last⟩ := run_retry_idle only h
  refine ⟨kept, idle, fun e found => ?_⟩
  obtain ⟨_, _, -, asked⟩ := last e found
  exact (run_get (q := q) asked).2.2 e rfl

/-- An order that an entry names alone may be asked for. -/
theorem idle_checkOrder {e : Entry} {order : String} {x : Except Error OrderStatus}
    (about : q.on? = some (caller.tenant, id)) (stands : s.get caller.tenant id = .ok e)
    (pending : e.pending? = some order) : Idle q s ⟨.checkOrder caller order, x⟩ :=
  ⟨rfl, fun _ => ⟨id, e, about, stands, pending⟩⟩

theorem run_poll {e : Entry} {order : String} {r : Except Error OrderStatus}
    (about : q.on? = some (caller.tenant, id)) (stands : s.get caller.tenant id = .ok e)
    (pending : e.pending? = some order)
    (h : Run (Store.world .clean)
      (retry Action.count "check_order" ((Call.barbican Action.make).checkOrder caller order)).run s t
      r s') :
    s' = s ∧ (∀ v ∈ t, Idle q s v) ∧
      ∀ ref, r = .ok (.active ref) → ⟨.checkOrder caller order, .ok (.active ref)⟩ ∈ t := by
  obtain ⟨kept, idle, last⟩ := run_retry_idle
    (fun _ _ _ => run_idle fun _ => idle_checkOrder about stands pending) h
  refine ⟨kept, idle, fun ref found => ?_⟩
  obtain ⟨t₁, t₂, rfl, asked⟩ := last _ found
  obtain ⟨rfl, -⟩ := Run.ask_iff.1 asked
  exact List.mem_append_right _ (List.mem_singleton_self _)

/-! ## Promotion -/

/-- What stands under an identifier, and from which order it comes. -/
def Ordered (s : Store) (tenant : Tenant) (id : String) (order : Option String) : Prop :=
  ∃ e, s.get tenant id = .ok e ∧ e.order? = order

/-- What is left to do if an entry could not be promoted. -/
theorem run_dropOrder {order : String} {u : Unit}
    (h : Run (Store.world .clean) (do
      match ← ((Call.barbican Action.make).deleteOrder caller order).run with
      | .ok () => return ()
      | .error _ => Action.count .orphanedOrder : Action Unit) s t u s') :
    s' = s ∧ ∀ v ∈ t, Idle q s v := by
  obtain ⟨t₁, x, s₁, t₂, rfl, asked, ended⟩ := Run.bind_iff.1 h
  obtain ⟨rfl, idle⟩ := run_idle (q := q) (c := .deleteOrder caller order)
    (fun _ => ⟨rfl, fun _ => trivial⟩) asked
  cases x with
  | ok _ =>
    obtain ⟨rfl, -, rfl⟩ := Run.pure_iff.1 ended
    rw [List.append_nil]
    exact ⟨rfl, idle⟩
  | error _ =>
    obtain ⟨rfl, idle₂⟩ := run_idle (fun _ => idle_count) ended
    exact ⟨rfl, fun v member => (List.mem_append.1 member).elim (idle v) (idle₂ v)⟩

theorem run_promote {e : Entry} {order ref : String} {u : Unit} (sound : s.Sound)
    (stands : s.get caller.tenant id = .ok e) (pending : e.pending? = some order) (named : ref ≠ "")
    (reported : Reported past order ref)
    (h : Run (Store.world .clean) (promote Action.registry (Call.barbican Action.make) Action.count
      caller { e with secretRef := some ref } order) s t u s') :
    Goes q past s t s' ∧ Ordered s' caller.tenant id e.order? := by
  obtain rfl := sound.issuedId stands
  have failed : ∀ t x s', Run (Store.world .clean)
      (Action.registry.update caller.tenant { e with secretRef := some ref }).run s t (.error x) s' →
      s' = s ∧ ∀ v ∈ t, Idle q s v := by
    intro t x s' asked
    obtain ⟨rfl, answered⟩ := Run.ask_iff.1 asked
    have admitted : Fault.clean.Admits (s.update caller.tenant { e with secretRef := some ref }) s
      (.error x) s' := answered
    exact ⟨admitted.error fun _ => Store.update_error,
      List.forall_mem_singleton.2 ⟨rfl, fun _ => trivial⟩⟩
  unfold promote at h
  obtain ⟨_, x, s₁, t₂, rfl, tried, ended⟩ := Run.bind_iff.1 h
  obtain ⟨t₁, t₃, rfl, idle, ⟨_, rfl, asked⟩ | ⟨⟨x, rfl⟩, rfl, rfl⟩⟩ :=
    run_retry (fun _ => idle_count) failed tried
  · obtain ⟨rfl, answered⟩ := Run.ask_iff.1 asked
    obtain ⟨rfl, -, rfl⟩ := Run.pure_iff.1 ended
    have admitted : Fault.clean.Admits (s.update caller.tenant { e with secretRef := some ref }) s
      (.ok _) s' := answered
    have change := Store.enters_update admitted.ok
    obtain ⟨e', stands', same⟩ := change.get_self (change.sound sound)
    have forward : Forward (past ++ t₁) e { e with secretRef := some ref } :=
      (forward_promoted pending named reported).mono fun _ => List.mem_append_left t₁
    rw [List.append_nil]
    have ordered := Entry.order?_congr same
    refine ⟨(goes_idle past idle).append ⟨⟨?_, trivial⟩, ?_⟩, e', stands', ordered⟩
    · exact ⟨congrArg Prod.fst admitted.ok, e, stands, forward⟩
    · exact (congrArg Prod.snd admitted.ok).symm
  · obtain ⟨rfl, idle₂⟩ := run_dropOrder (q := q) ended
    rw [List.append_nil]
    exact ⟨(goes_idle past idle).append (goes_idle _ idle₂), e, stands, rfl⟩

/-- Resolving what stands goes lawfully, and what is ready has the order of what stands then. -/
theorem run_resolve {e : Entry} {r : Except Error Resolution} (sound : s.Sound)
    (about : q.on? = some (caller.tenant, id)) (stands : s.get caller.tenant id = .ok e)
    (named : Named t)
    (h : Run (Store.world .clean)
      (resolve Action.registry (Call.barbican Action.make) Action.count caller e).run s t r s') :
    Goes q past s t s' ∧ ∀ e', r = .ok (.ready e') → Ordered s' caller.tenant id e'.order? := by
  unfold resolve at h
  cases pending : e.pending? with
  | none =>
    simp only [pending] at h
    obtain ⟨rfl, rfl, rfl⟩ := Run.pureExcept_iff.1 h
    refine ⟨goes_idle past (by simp), fun e' same => ?_⟩
    obtain rfl : e = e' := by simpa using same
    exact ⟨e, stands, rfl⟩
  | some order =>
    simp only [pending] at h
    obtain ⟨x, rfl, failed⟩ | ⟨t₁, status, s₁, t₂, rfl, polled, ended⟩ := Run.bindExcept_iff.1 h
    · obtain ⟨rfl, idle, -⟩ := run_poll about stands pending failed
      exact ⟨goes_idle past idle, fun _ same => by cases same⟩
    obtain ⟨rfl, idle, reported⟩ := run_poll about stands pending polled
    cases status with
    | pending | failed _ =>
      obtain ⟨rfl, rfl, rfl⟩ := Run.pureExcept_iff.1 ended
      rw [List.append_nil]
      exact ⟨goes_idle past idle, fun _ same => by cases same⟩
    | active ref =>
      have found := reported ref rfl
      have given : ref ≠ "" := by
        have reference := named ⟨.checkOrder caller order, .ok (.active ref)⟩ (by simp [found])
        simpa [refers] using reference
      have known : Reported (past ++ t₁) order ref := ⟨caller, by simp [found]⟩
      obtain ⟨t₃, u, s₂, _, rfl, promoted, passed⟩ := Run.bindLift_iff.1 ended
      obtain ⟨rfl, rfl, rfl⟩ := Run.pureExcept_iff.1 passed
      obtain ⟨last, ordered⟩ := run_promote sound stands pending given known promoted
      rw [List.append_nil]
      refine ⟨(goes_idle past idle).append last, fun e' same => ?_⟩
      obtain rfl : { e with secretRef := some ref } = e' := by simpa using same
      exact ordered

theorem run_look {r : Except Error Resolution} (sound : s.Sound)
    (about : q.on? = some (caller.tenant, id)) (named : Named t)
    (h : Run (Store.world .clean)
      (look Action.registry (Call.barbican Action.make) Action.count caller id).run s t r s') :
    Goes q past s t s' ∧ ∀ e, r = .ok (.ready e) → Ordered s' caller.tenant id e.order? := by
  obtain ⟨e, rfl, failed⟩ | ⟨t₁, e, _, t₂, rfl, looked, resolved⟩ := Run.bindExcept_iff.1 h
  · obtain ⟨rfl, idle, -⟩ := run_translate (q := q) failed
    exact ⟨goes_idle past idle, fun _ same => by cases same⟩
  · obtain ⟨rfl, idle, stands⟩ := run_translate (q := q) looked
    have named := (List.forall_mem_append.1 named).2
    obtain ⟨last, ordered⟩ := run_resolve sound about (stands e rfl) named resolved
    exact ⟨(goes_idle past idle).append last, ordered⟩

/-! ## Requests -/

theorem run_fetch {e : Entry} {r : Except Error Observation} (asked : q = .payload caller id)
    (ordered : Ordered s caller.tenant id e.order?)
    (h : Run (Store.world .clean) (fetch (Call.barbican Action.make) Action.count caller e).run s t r
      s') : s' = s ∧ ∀ v ∈ t, Idle q s v := by
  obtain ⟨e', stands, same⟩ := ordered
  have generated : e'.isGenerated = e.isGenerated := congrArg Option.isSome same
  unfold fetch at h
  cases given : e.secret? with
  | none =>
    simp only [given] at h
    obtain ⟨rfl, rfl, rfl⟩ := Run.throw_iff.1 h
    exact ⟨rfl, by simp⟩
  | some ref =>
    simp only [given] at h
    have fits : (if e.isGenerated then PayloadType.bytes else .text) = .bytes ↔
        e'.isGenerated = true := by
      rw [generated]
      cases e.isGenerated <;> simp
    -- The form is chosen by the entry in hand, which may never have been stored: only its order counts.
    generalize (if e.isGenerated then PayloadType.bytes else .text) = type at h fits
    have only : ∀ t x s', Run (Store.world .clean)
        ((Call.barbican Action.make).getPayload caller ref type).run s t x s' →
        s' = s ∧ ∀ v ∈ t, Idle q s v :=
      fun _ _ _ => run_idle fun _ => ⟨rfl, fun _ => ⟨id, e', asked, stands, fits⟩⟩
    obtain ⟨x, rfl, failed⟩ | ⟨t₁, material, _, _, rfl, fetched, passed⟩ := Run.bindExcept_iff.1 h
    · obtain ⟨rfl, idle, -⟩ := run_retry_idle only failed
      exact ⟨rfl, idle⟩
    · obtain ⟨rfl, idle, -⟩ := run_retry_idle only fetched
      obtain ⟨rfl, rfl, rfl⟩ := Run.pureExcept_iff.1 passed
      rw [List.append_nil]
      exact ⟨rfl, idle⟩

theorem run_check {r : Except Error Phase} (sound : s.Sound)
    (about : q.on? = some (caller.tenant, id)) (named : Named t)
    (h : Run (Store.world .clean)
      (check Action.registry (Call.barbican Action.make) Action.count caller id).run s t r s') :
    Goes q past s t s' := by
  obtain ⟨x, rfl, failed⟩ | ⟨t₁, found, s₁, t₂, rfl, looked, ended⟩ := Run.bindExcept_iff.1 h
  · exact (run_look sound about named failed).1
  have named := (List.forall_mem_append.1 named).1
  have first : Goes q past s t₁ s₁ := (run_look sound about named looked).1
  cases found with
  | ready _ | pending | failed =>
    obtain ⟨rfl, -, rfl⟩ := Run.pureExcept_iff.1 ended
    rwa [List.append_nil]

theorem run_payload {r : Except Error Observation} (sound : s.Sound)
    (named : Named t) (asked : q = .payload caller id)
    (h : Run (Store.world .clean)
      (payload Action.registry (Call.barbican Action.make) Action.count caller id).run s t r s') :
    Goes q past s t s' := by
  have about : q.on? = some (caller.tenant, id) := by rw [asked]; rfl
  obtain ⟨x, rfl, failed⟩ | ⟨t₁, found, s₁, t₂, rfl, looked, ended⟩ := Run.bindExcept_iff.1 h
  · exact (run_look sound about named failed).1
  have named := (List.forall_mem_append.1 named).1
  obtain ⟨first, ordered⟩ : Goes q past s t₁ s₁ ∧ _ := run_look sound about named looked
  cases found with
  | ready e =>
    obtain ⟨rfl, idle⟩ := run_fetch asked (ordered e rfl) ended
    exact first.append (goes_idle _ idle)
  | pending | failed =>
    obtain ⟨rfl, -, rfl⟩ := Run.pureExcept_iff.1 ended
    rwa [List.append_nil]

/-- The entry that a deletion works with; asking for its order may be lawful, and changes nothing. -/
theorem run_settled {e : Entry} {r : Except Error Entry}
    (about : q.on? = some (caller.tenant, id)) (stands : s.get caller.tenant id = .ok e)
    (h : Run (Store.world .clean) (settled (Call.barbican Action.make) caller e).run s t r s') :
    s' = s ∧ ∀ v ∈ t, Idle q s v := by
  unfold settled at h
  cases pending : e.pending? with
  | none =>
    simp only [pending] at h
    obtain ⟨rfl, -, rfl⟩ := Run.pureExcept_iff.1 h
    exact ⟨rfl, by simp⟩
  | some order =>
    simp only [pending] at h
    obtain ⟨x, rfl, asked⟩ | ⟨t₁, status, s₁, t₂, rfl, asked, ended⟩ := Run.bindExcept_iff.1 h
    · exact run_idle (fun _ => idle_checkOrder about stands pending) asked
    · obtain ⟨rfl, idle⟩ := run_idle (fun _ => idle_checkOrder about stands pending) asked
      cases status with
      | active ref =>
        obtain ⟨rfl, -, rfl⟩ := Run.pureExcept_iff.1 ended
        rw [List.append_nil]
        exact ⟨rfl, idle⟩
      | pending | failed _ =>
        obtain ⟨rfl, -, rfl⟩ := Run.throw_iff.1 ended
        rw [List.append_nil]
        exact ⟨rfl, idle⟩

theorem obeys_forgetOrder {e : Entry} :
    Obeys q (forgetOrder (Call.barbican Action.make) Action.count caller e) := by
  unfold forgetOrder
  cases e.order? with
  | none => exact .pure _
  | some order =>
    refine .bind (.retry (.make fun _ _ _ => trivial)) fun x => ?_
    cases x with
    | ok _ => exact .pure _
    | error _ => exact .count _

/-- The end of a deletion, when the material is gone. -/
theorem obeys_giveUp {e : Entry} : Obeys q (do
    Action.registry.delete caller.tenant id
    ExceptT.lift (forgetOrder (Call.barbican Action.make) Action.count caller e) :
      ExceptT Error Action Unit).run :=
  .bindExcept (.make fun _ _ _ => trivial) fun _ => .bind obeys_forgetOrder fun _ => .pure _

theorem run_delete {r : Except Error Unit} (about : q.on? = some (caller.tenant, id))
    (h : Run (Store.world .clean)
      (delete Action.registry (Call.barbican Action.make) Action.count caller id).run s t r s') :
    Goes q past s t s' := by
  obtain ⟨x, rfl, failed⟩ | ⟨t₁, e, s₁, t₂, rfl, got, rest⟩ := Run.bindExcept_iff.1 h
  · obtain ⟨rfl, idle, -⟩ := run_get (q := q) failed
    exact goes_idle past idle
  obtain ⟨rfl, idle, stands⟩ := run_get (q := q) got
  have stands := stands e rfl
  refine (goes_idle past idle).append ?_
  obtain ⟨x, rfl, failed⟩ | ⟨t₃, e', s₂, t₄, rfl, resolved, ended⟩ := Run.bindExcept_iff.1 rest
  · obtain ⟨rfl, idle⟩ := run_settled about stands failed
    exact goes_idle _ idle
  obtain ⟨rfl, idle⟩ := run_settled about stands resolved
  refine (goes_idle _ idle).append ?_
  cases given : e'.secret? with
  | none =>
    simp only [given] at ended
    exact obeys_giveUp _ _ _ _ _ ended
  | some ref =>
    simp only [given] at ended
    refine Obeys.bindExcept ?_ (fun _ => ?_) _ _ _ _ _ ended
    · exact .make fun _ _ _ => trivial
    · exact obeys_giveUp

/-- An entry of one reference, added if it has one. -/
theorem goes_add {e : Entry} {x : Except Error Unit} (one : e.secret? = none ∨ e.order? = none)
    (admitted : Fault.clean.Admits (s.add tenant e) s x s') :
    Goes q past s [⟨.addEntry tenant e, x⟩] s' := by
  have leaves : s' = s.after ⟨.addEntry tenant e, x⟩ := Store.world_after admitted
  refine ⟨⟨?_, trivial⟩, leaves⟩
  cases x with
  | error _ => trivial
  | ok _ =>
    have added := admitted.ok
    have full := Entry.isEmpty_of_check (Store.check_of_add added)
    refine ⟨congrArg Prod.fst added, ?_⟩
    unfold Entry.isEmpty at full
    rcases one with none | none
    · cases ordered : e.order? <;> simp_all
    · cases given : e.secret? <;> simp_all

theorem idle_probe {x : Except Error Entry} : ∀ v ∈ Registry.probe tenant id x, Idle q s v :=
  List.forall_mem_cons.2 ⟨⟨rfl, fun _ => trivial⟩,
    List.forall_mem_singleton.2 ⟨rfl, fun _ => trivial⟩⟩

theorem obeys_allocate {e : Entry} (one : e.secret? = none ∨ e.order? = none) :
    Obeys q (Action.registry.allocate (Call.candidates Action.make tries) tenant e).run := by
  intro s past t r s' h
  obtain ⟨found, last, _, rfl, -, search⟩ := Registry.run_allocate h
  have idle : ∀ v ∈ Registry.probes tenant found, Idle q s v := by
    intro v member
    obtain ⟨p, -, member⟩ := List.mem_flatMap.1 member
    exact idle_probe v member
  refine (goes_idle past idle).append ?_
  cases search with
  | noneLeft => exact goes_idle _ (by simp)
  | failed id other => exact goes_idle _ idle_probe
  | added id x free answered => exact (goes_idle _ idle_probe).append (goes_add one answered)

theorem obeys_create {secret : Secret} {ledger : Ledger Action} :
    Obeys q (create Action.registry (Call.barbican Action.make) (Call.candidates Action.make tries)
      caller secret ledger) := by
  unfold create
  cases secret.material? with
  | some material =>
    refine .bind (.make fun _ _ _ => trivial) fun x => ?_
    cases x with
    | error _ => exact .pure _
    | ok ref =>
      refine .bind (obeys_allocate (.inr rfl)) fun x => ?_
      cases x with
      | error _ | ok _ => exact .pure _
  | none =>
    cases secret.keyParameters with
    | error _ => exact .pure _
    | ok key =>
      refine .bind (.make fun _ _ _ => trivial) fun x => ?_
      cases x with
      | error _ => exact .pure _
      | ok ref =>
        refine .bind (obeys_allocate (.inl rfl)) fun x => ?_
        cases x with
        | error _ | ok _ => exact .pure _

/-- Every request goes lawfully. -/
theorem goes_perform {x : Except Error Reply} (sound : s.Sound) (named : Named t)
    (h : Run (Store.world .clean) ((Action.barbicanKeystore tries).perform q) s t x s') :
    Goes q past s t s' := by
  cases q with
  | create caller secret =>
    exact Obeys.bind obeys_create (fun _ => .pure _) _ _ _ _ _ h
  | check caller id =>
    obtain ⟨t₁, x, s₁, t₂, rfl, ran, ended⟩ := Run.bind_iff.1 h
    obtain ⟨rfl, -, rfl⟩ := Run.pure_iff.1 ended
    rw [List.append_nil] at named ⊢
    exact run_check sound rfl named ran
  | payload caller id =>
    obtain ⟨t₁, x, s₁, t₂, rfl, ran, ended⟩ := Run.bind_iff.1 h
    obtain ⟨rfl, -, rfl⟩ := Run.pure_iff.1 ended
    rw [List.append_nil] at named ⊢
    exact run_payload sound named rfl ran
  | delete caller id =>
    obtain ⟨t₁, x, s₁, t₂, rfl, ran, ended⟩ := Run.bind_iff.1 h
    obtain ⟨rfl, -, rfl⟩ := Run.pure_iff.1 ended
    obtain ⟨t₃, y, s₂, t₄, rfl, deleted, passed⟩ := Run.bind_iff.1 ran
    obtain ⟨rfl, -, rfl⟩ := Run.pure_iff.1 passed
    rw [List.append_nil, List.append_nil]
    exact run_delete rfl deleted

end

end Networked

end KeyCustody.Keystore

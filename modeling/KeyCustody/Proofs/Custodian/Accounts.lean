import KeyCustody.Proofs.Custodian.Counting
import Mathlib.Algebra.BigOperators.Group.List.Basic
import Mathlib.Algebra.Ring.Nat

/-!
# What the counters account for

Over any history, what the counters stand at can be told from the requests, from how they were answered, and
from the calls that were made for them.
-/

namespace KeyCustody.Custodian

open Program
open Keystore (Accounted Even Uneventful)
open Settings (KeystoreKind)

/-- The reconciliations of an exchange, among the calls before the last, which counts it. -/
def Exchange.Reconciles (k : Keystore Action) (e : Exchange) (rs : List Reconciliation) : Prop :=
  Custodian.Reconciles k e.request e.calls.dropLast rs

/-- What the counters account for, over a history that starts from none. -/
structure Accounts (tries : Nat) (kind : KeystoreKind) (h : History) (tally : Tally) : Prop where
  /-- One operation is counted for each request, by its name and how it was answered. -/
  operations : ∀ name succeeded, tally.number (.operation name succeeded) =
    h.countP fun e => e.request.operation = name && e.reply.isOk = succeeded
  rollbacks : tally.number (.rollback "create") = h.countP fun e => e.request.rolledBack e.reply.isOk
  rollbackFailures : tally.number (.rollbackFailure "create") =
    h.countP fun e => e.request.rolledBack e.reply.isOk && halted e.calls
  reconciled : ∃ rss, List.Forall₂ (Exchange.Reconciles (Action.keystore tries kind)) h rss
  transitions : ∀ rss, List.Forall₂ (Exchange.Reconciles (Action.keystore tries kind)) h rss →
    ∀ source target, tally.number (.transition source target) = rss.flatten.countP (·.enters source target)
  retries : ∀ operation, tally.number (.retriesExhausted operation) =
    (h.map fun e => Keystore.exhaustions kind operation e.calls).sum
  orphans : tally.number .orphanedOrder =
    (h.map fun e => Keystore.abandonments e.calls).sum + h.countP fun e => Keystore.leavesOrder e.calls

/-! ## Requests -/

/-- What the calls of one request have counted, once it has ended. -/
structure Counted (tries : Nat) (kind : KeystoreKind) (e : Exchange) : Prop where
  accounted : Accounted kind e.calls
  ended : (counts e.calls).filter (·.tellsEnd) =
    e.request.undone e.reply.isOk (halted e.calls) ++ [.operation e.request.operation e.reply.isOk]
  reconciled : ∃ rs, e.Reconciles (Action.keystore tries kind) rs
  transitions : ∀ rs, e.Reconciles (Action.keystore tries kind) rs →
    ∀ source target, (counts e.calls).count (.transition source target) = rs.countP (·.enters source target)

variable {tries : Nat} {kind : KeystoreKind} {q : Request} {u t : Trace} {x : Except Error Reply} {e : Exchange}
  {h : History} {tally : Tally} {n n' : Tally} {c : Counter}

/-- What a request has counted before it is counted itself. -/
structure Early (tries : Nat) (kind : KeystoreKind) (q : Request) (succeeded : Bool) (u : Trace) : Prop where
  accounted : Accounted kind u
  undone : (counts u).filter (·.tellsEnd) = q.undone succeeded (halted u)
  reconciled : ∃ rs, Reconciles (Action.keystore tries kind) q u rs
  transitions : ∀ rs, Reconciles (Action.keystore tries kind) q u rs →
    ∀ source target, (counts u).count (.transition source target) = rs.countP (·.enters source target)

/-- Requests that read nothing reconcile nothing. -/
theorem Early.of_idle {succeeded : Bool} (accounted : Accounted kind u)
    (undone : (counts u).filter (·.tellsEnd) = q.undone succeeded (halted u))
    (idle : (∀ caller id, q ≠ .fetch caller id) ∧ ∀ caller p, q ≠ .list caller p)
    (still : ∀ source target, Counter.transition source target ∉ counts u) : Early tries kind q succeeded u where
  accounted := accounted
  undone := undone
  reconciled := ⟨[], .none (.inl idle)⟩
  transitions rs reconciles source target := by
    cases reconciles with
    | fetched => exact absurd rfl (idle.1 _ _)
    | listed => exact absurd rfl (idle.2 _ _)
    | none => exact List.count_eq_zero.2 (still source target)

theorem filter_early (early : ∀ c ∈ counts u, c.tellsEnd = false) : (counts u).filter (·.tellsEnd) = [] :=
  List.filter_eq_nil_iff.2 fun c member ends => Bool.false_ne_true ((early c member).symm.trans ends)

theorem mem_undone {succeeded halted : Bool} (member : c ∈ q.undone succeeded halted) :
    c = .rollback "create" ∨ c = .rollbackFailure "create" := by
  unfold Request.undone at member
  by_cases rolled : q.rolledBack succeeded = true
  · rw [if_pos rolled] at member
    obtain rfl | more := List.mem_cons.1 member
    · exact .inl rfl
    · cases halted with
      | false => cases more
      | true => exact .inr (List.mem_singleton.1 more)
  · rw [if_neg rolled] at member
    cases member

theorem run_performed {α β : Type} {operation : String} {request : Action (Except Error α)} {f : α → β}
    {x : Except Error β} {k : Keystore Action}
    (h : Run free (do return (← ((Action.custodian k).counted operation request).run).map f) () t x ()) :
    ∃ u y, t = u ++ [⟨.count (.operation operation x.isOk), ()⟩] ∧ y.isOk = x.isOk ∧ Run free request () u y () := by
  obtain ⟨y, rfl, counted⟩ := Run.mapped_iff.1 h
  obtain ⟨u, _, rfl, requested, -⟩ := run_counted_iff.1 counted
  have same : y.isOk = (y.map f).isOk := by cases y <;> rfl
  exact ⟨u, y, same ▸ rfl, same, requested⟩

theorem early_create {caller : Caller} {s : Secret} {whole succeeded : Bool} {y : Except Error Secret}
    (same : y.isOk = succeeded) (h : Run free (do
      let (result, _) ← (Action.custodian (Action.keystore tries kind)).place caller s
      return result.map fun stored => if whole then stored else stored.summary) () u y ()) :
    Early tries kind (.create caller s whole) succeeded u := by
  obtain ⟨u, ⟨result, ledger⟩, _, _, rfl, placed, passed⟩ := Run.bind_iff.1 h
  obtain ⟨rfl, rfl, -⟩ := Run.pure_iff.1 passed
  have ended : result.isOk = succeeded := by
    rw [← same]
    cases result <;> rfl
  obtain ⟨accounted, counted⟩ := counts_place whole placed
  rw [ended] at counted
  have ends : ∀ c ∈ counts u, c.tellsEnd = true := by
    intro c member
    rw [counted] at member
    obtain rfl | rfl := mem_undone member
    · rfl
    · rfl
  rw [List.append_nil]
  exact .of_idle accounted ((List.filter_eq_self.2 ends).trans counted) ⟨nofun, nofun⟩
    fun source target member => nomatch ends _ member

theorem early_total {caller : Caller} {p : Catalog.Query} {succeeded : Bool} {y : Except Error Nat}
    (h : Run free (match p.validate with
      | .error error => return .error error
      | .ok () => (Action.catalog.total caller p).run : Action (Except Error Nat)) () u y ()) :
    Early tries kind (.total caller p) succeeded u := by
  have made : u = [] ∨ ∃ x, u = [⟨.totalRecords caller p, x⟩] := by
    cases valid : p.validate with
    | error _ =>
      simp only [valid] at h
      exact .inl (Run.pure_iff.1 h).1
    | ok _ =>
      simp only [valid] at h
      exact .inr ⟨y, (Run.ask_iff.1 h).1⟩
  have quiet : counts u = [] ∧ Accounted kind u := by
    obtain rfl | ⟨x, rfl⟩ := made
    · exact ⟨rfl, Even.nil.accounted⟩
    · exact ⟨rfl, Even.nil.accounted.append (List.forall_mem_singleton.2 (.of_uncounted rfl rfl rfl))⟩
  refine .of_idle quiet.2 ?_ ⟨nofun, nofun⟩ ?_
  · rw [quiet.1]
    rfl
  · rw [quiet.1]
    exact fun _ _ => List.not_mem_nil

theorem early_destroy {caller : Caller} {id : String} {whole succeeded : Bool} {y : Except Error (Option Secret)}
    (h : Run free (do
      let (result, _) ← (Action.custodian (Action.keystore tries kind)).remove caller id whole .empty
      return result) () u y ()) : Early tries kind (.destroy caller id whole) succeeded u := by
  obtain ⟨_, _, _, _, rfl, removed, passed⟩ := Run.bind_iff.1 h
  obtain ⟨rfl, -, -⟩ := Run.pure_iff.1 passed
  obtain ⟨accounted, counted⟩ := accounted_remove removed
  rw [List.append_nil]
  exact .of_idle accounted (filter_early (early_of_keystore counted)) ⟨nofun, nofun⟩
    fun source target member => nomatch counted _ member

theorem early_perform (h : Run free ((Action.custodian (Action.keystore tries kind)).perform q) () t x ()) :
    ∃ u, t = u ++ [⟨.count (.operation q.operation x.isOk), ()⟩] ∧ Early tries kind q x.isOk u := by
  cases q with
  | create caller s whole =>
    obtain ⟨u, y, rfl, same, created⟩ := run_performed h
    exact ⟨u, rfl, early_create same created⟩
  | fetch caller id =>
    obtain ⟨u, y, rfl, -, read⟩ := run_performed h
    have fetched := fetched_of_run read
    obtain ⟨even, early⟩ := even_fetched fetched
    exact ⟨u, rfl, even.accounted, filter_early early, reconciles_fetched fetched,
      fun _ reconciles _ _ => transitions_fetched fetched reconciles⟩
  | list caller p =>
    obtain ⟨u, y, rfl, -, read⟩ := run_performed h
    have listed := listed_of_run read
    obtain ⟨even, early⟩ := even_listed listed
    exact ⟨u, rfl, even.accounted, filter_early early, reconciles_listed listed,
      fun _ reconciles _ _ => transitions_listed listed reconciles⟩
  | total caller p =>
    obtain ⟨u, y, rfl, -, asked⟩ := run_performed h
    exact ⟨u, rfl, early_total asked⟩
  | destroy caller id whole =>
    obtain ⟨u, y, rfl, -, removed⟩ := run_performed h
    exact ⟨u, rfl, early_destroy removed⟩

theorem Exchange.reconciles_iff {k : Keystore Action} {v : Event} {rs : List Reconciliation} :
    Exchange.Reconciles k ⟨q, u ++ [v], x⟩ rs ↔ Custodian.Reconciles k q u rs := by
  unfold Exchange.Reconciles
  rw [List.dropLast_concat]

theorem counted_perform (h : Run free ((Action.custodian (Action.keystore tries kind)).perform q) () t x ()) :
    Counted tries kind ⟨q, t, x⟩ := by
  obtain ⟨u, rfl, early⟩ := early_perform h
  have closing : counts [⟨.count (.operation q.operation x.isOk), ()⟩] = [.operation q.operation x.isOk] := rfl
  refine ⟨early.accounted.append (List.forall_mem_singleton.2 ⟨fun c counted => ?_, rfl, rfl⟩), ?_, ?_, ?_⟩
  · obtain rfl := Option.some.inj counted
    rfl
  · have calm : halted (u ++ [⟨.count (.operation q.operation x.isOk), ()⟩]) = halted u :=
      halted_append.trans (Bool.or_false _)
    simp only [counts_append, closing, List.filter_append, early.undone, calm]
    rfl
  · exact early.reconciled.imp fun _ => Exchange.reconciles_iff.2
  · intro rs reconciles source target
    rw [← early.transitions rs (Exchange.reconciles_iff.1 reconciles), counts_append, List.count_append, closing]
    rfl

/-! ### The end of a request -/

section
variable (counted : Counted tries kind e)
include counted

theorem Counted.count_end (ends : c.tellsEnd = true) : (counts e.calls).count c =
    (Counter.operation e.request.operation e.reply.isOk :: e.request.undone e.reply.isOk (halted e.calls)).count c := by
  rw [← List.count_filter ends, counted.ended]
  exact (List.perm_append_singleton _ _).count_eq c

theorem Counted.count_operation {name : String} {succeeded : Bool} :
    (counts e.calls).count (.operation name succeeded) =
      (decide (e.request.operation = name) && decide (e.reply.isOk = succeeded)).toNat := by
  have apart : Counter.operation name succeeded ∉ e.request.undone e.reply.isOk (halted e.calls) := fun member => by
    cases mem_undone member with
    | inl same => cases same
    | inr same => cases same
  rw [counted.count_end rfl, List.count_cons, List.count_eq_zero.2 apart, Nat.zero_add]
  by_cases named : e.request.operation = name
  · by_cases ended : e.reply.isOk = succeeded
    · simp [named, ended]
    · simp [named, ended]
  · simp [named]

theorem Counted.count_rollback :
    (counts e.calls).count (.rollback "create") = (e.request.rolledBack e.reply.isOk).toNat := by
  rw [counted.count_end rfl, Request.undone]
  cases e.request.rolledBack e.reply.isOk <;> cases halted e.calls <;> rfl

theorem Counted.count_rollbackFailure : (counts e.calls).count (.rollbackFailure "create") =
    (e.request.rolledBack e.reply.isOk && halted e.calls).toNat := by
  rw [counted.count_end rfl, Request.undone]
  cases e.request.rolledBack e.reply.isOk <;> cases halted e.calls <;> rfl

end

/-! ## Histories -/

theorem counts_calls : counts (History.calls (e :: h)) = counts e.calls ++ counts h.calls := counts_append

theorem count_calls {f : Exchange → Nat} (each : ∀ e ∈ h, (counts e.calls).count c = f e) :
    (counts h.calls).count c = (h.map f).sum := by
  induction h with
  | nil => rfl
  | cons e h ih =>
    obtain ⟨first, rest⟩ := List.forall_mem_cons.1 each
    rw [counts_calls, List.count_append, first, ih rest, List.map_cons, List.sum_cons]

theorem sum_toNat {p : Exchange → Bool} : (h.map fun e => (p e).toNat).sum = h.countP p := by
  induction h with
  | nil => rfl
  | cons e h ih =>
    rw [List.map_cons, List.sum_cons, ih, List.countP_cons, Nat.add_comm]
    cases p e with
    | false => rfl
    | true => rfl

theorem reconciled_calls (counted : ∀ e ∈ h, Counted tries kind e) :
    ∃ rss, List.Forall₂ (Exchange.Reconciles (Action.keystore tries kind)) h rss := by
  induction h with
  | nil => exact ⟨[], .nil⟩
  | cons e h ih =>
    obtain ⟨first, rest⟩ := List.forall_mem_cons.1 counted
    obtain ⟨rs, reconciles⟩ := first.reconciled
    obtain ⟨rss, others⟩ := ih rest
    exact ⟨rs :: rss, .cons reconciles others⟩

theorem count_transition_calls {rss : List (List Reconciliation)} {source target : Phase}
    (counted : ∀ e ∈ h, Counted tries kind e)
    (reconciles : List.Forall₂ (Exchange.Reconciles (Action.keystore tries kind)) h rss) :
    (counts h.calls).count (.transition source target) = rss.flatten.countP (·.enters source target) := by
  induction reconciles with
  | nil => rfl
  | cons first others ih =>
    obtain ⟨own, rest⟩ := List.forall_mem_cons.1 counted
    rw [counts_calls, List.count_append, own.transitions _ first, ih rest, List.flatten_cons, List.countP_append]

theorem number_of_serves (served : Serves Tally.world (Action.custodian (Action.keystore tries kind)) n h n') :
    n'.number c = n.number c + (counts h.calls).count c := by
  induction served with
  | nil => rfl
  | cons first _ ih =>
    rw [ih, Tally.number_of_run first, counts_calls, List.count_append, Nat.add_assoc]

theorem counted_serves (served : Serves Tally.world (Action.custodian (Action.keystore tries kind)) n h n') :
    ∀ e ∈ h, Counted tries kind e := by
  induction served with
  | nil => exact List.forall_mem_nil _
  | cons first _ ih =>
    exact List.forall_mem_cons.2 ⟨counted_perform (first.map (fun _ => ()) fun _ _ _ _ _ => trivial), ih⟩

/-- The counters account for every history, whatever the calls are answered with: they tell how requests
ended, which creations were undone and which could not be, which records changed their phase, which retry
loops were in vain, and which orders were left behind. -/
theorem counters_account (served : Serves Tally.world (Action.custodian (Action.keystore tries kind)) [] h tally) :
    Accounts tries kind h tally := by
  have counted := counted_serves served
  have number : ∀ {c : Counter}, tally.number c = (counts h.calls).count c := fun {c} => by
    rw [number_of_serves served, Tally.number_nil, Nat.zero_add]
  constructor
  case operations =>
    intro name succeeded
    exact number.trans ((count_calls fun e member => (counted e member).count_operation).trans sum_toNat)
  case rollbacks =>
    exact number.trans ((count_calls fun e member => (counted e member).count_rollback).trans sum_toNat)
  case rollbackFailures =>
    exact number.trans ((count_calls fun e member => (counted e member).count_rollbackFailure).trans sum_toNat)
  case reconciled => exact reconciled_calls counted
  case transitions =>
    intro rss reconciles source target
    exact number.trans (count_transition_calls counted reconciles)
  case retries =>
    intro operation
    exact number.trans (count_calls fun e member => (counted e member).accounted.retries operation)
  case orphans =>
    rw [← sum_toNat, ← List.sum_map_add]
    exact number.trans (count_calls fun e member => (counted e member).accounted.orders)

/-- The answers of collaborators that know one key, whose order is done and stays, and that add no record. -/
def ailing : (c : Call) → c.Answer
  | .postSecret .. => .ok "r"
  | .drawIdentifier => "new"
  | .getEntry _ "new" => .error (.noSecret "new")
  | .getEntry _ "k" => .ok ⟨"k", none, some "order"⟩
  | .addEntry .. => .ok ()
  | .getRecord _ id => .ok (some { Secret.named "key" with id := id })
  | .changeRecord .. => .ok ()
  | .deleteRecord .. => .ok (Secret.named "key")
  | .checkOrder .. => .ok (.active "r")
  | .getPayload .. => .ok ⟨"material"⟩
  | .deleteSecret .. => .ok ()
  | .deleteEntry _ "k" => .ok ()
  | c => Call.refused (.transport "down") c

/-- A creation that can be neither recorded nor undone, two fetches, and a destruction that leaves the order. -/
theorem counters_account_ailing :
    let caller : Caller := ⟨⟨"s", "o"⟩, "c", none⟩
    let c := Action.custodian (Action.keystore 1 .barbican)
    let supplied : Secret := { Secret.named "key" with payload := some ⟨"material"⟩ }
    let served := c.serve (Tally.answer ailing) []
      [.create caller supplied true, .fetch caller "k", .fetch caller "lost", .destroy caller "k" false]
    served.1.map (·.reply.isOk) = [false, true, false, true] ∧
      served.2.number (.rollbackFailure "create") = 1 ∧ served.2.number (.transition .preactivation .activation) = 1 ∧
      served.2.number (.retriesExhausted "translate_id") = 1 ∧ served.2.number .orphanedOrder = 2 ∧
      Accounts 1 .barbican served.1 served.2 := by
  intro caller c supplied served
  have serves : Serves Tally.world c [] served.1 served.2 := serves_serve id (Tally.world_answer ailing) _ []
  have replies : served.1.map (·.reply.isOk) = [false, true, false, true] := by decide +kernel
  exact ⟨replies, by decide +kernel, by decide +kernel, by decide +kernel, by decide +kernel, counters_account serves⟩

end KeyCustody.Custodian

import KeyCustody.Proofs.Custodian.Request
import KeyCustody.Proofs.Lifecycle

/-!
# What requests call besides their keystore

Requests that read keep to the catalog, the clock, the counters, and what their keystore calls to check
a secret or to fetch its material. So does a destruction that is asked for the material, up to there.
-/

namespace KeyCustody

open Program

/-- A call that requests over any keystore make themselves, but for that to create a record. -/
def Call.isShared : Call → Bool
  | .getRecord .. | .changeRecord .. | .deleteRecord .. | .listRecords .. | .totalRecords .. => true
  | .now | .count _ => true
  | _ => false

namespace Action

/-- Only calls that are shared are made. -/
def Shared {α : Type} (p : Action α) : Prop := p.Keeps (·.isShared = true) fun _ => True

section
variable {calls : Call → Prop} {caller : Caller} {s : Secret} {v : Verdict}

theorem keeps_write (changes : ∀ c, calls (.changeRecord caller s.id c)) (counts : ∀ c, calls (.count c)) :
    (Lifecycle.write catalog count caller s v).Keeps calls fun _ => True := by
  refine ⟨changes _, fun x => ?_⟩
  cases x with
  | error _ => trivial
  | ok _ => exact ⟨counts _, fun _ => trivial⟩

/-- Settling a verdict that there will be material does not delete the record. -/
theorem keeps_settle (changes : ∀ c, calls (.changeRecord caller s.id c)) (counts : ∀ c, calls (.count c))
    (well : v.generationFailed = false) :
    (Lifecycle.settle catalog count caller s v).Keeps calls fun _ => True := by
  cases changed : v.changed with
  | false =>
    rw [Lifecycle.settle_unchanged changed]
    trivial
  | true =>
    rw [Lifecycle.settle_changed changed well]
    exact keeps_write changes counts

theorem keeps_settling (changes : ∀ c, calls (.changeRecord caller s.id c))
    (deletes : calls (.deleteRecord caller s.id)) (counts : ∀ c, calls (.count c)) :
    (Lifecycle.settle catalog count caller s v).Keeps calls fun _ => True := by
  cases failed : v.generationFailed with
  | false => exact keeps_settle changes counts failed
  | true =>
    cases changed : v.changed with
    | false =>
      rw [Lifecycle.settle_unchanged changed]
      trivial
    | true =>
      rw [Lifecycle.settle_failed changed failed]
      refine ⟨deletes, fun x => ?_⟩
      cases x with
      | error _ => trivial
      | ok _ => exact keeps_write changes counts

end

theorem shared_settle {caller : Caller} {s : Secret} {v : Verdict} :
    Shared (Lifecycle.settle catalog count caller s v) :=
  keeps_settling (fun _ => rfl) rfl fun _ => rfl

end Action

namespace Custodian

variable {k : Keystore Action} {caller : Caller} {id : String}

section
variable {calls : Call → Prop}

theorem keeps_update {s : Secret} {observed : Option Phase} (now : calls .now)
    (changes : ∀ c, calls (.changeRecord caller s.id c)) (deletes : calls (.deleteRecord caller s.id))
    (counts : ∀ c, calls (.count c)) :
    ((Action.custodian k).update caller s observed).run.Keeps calls fun _ => True :=
  ⟨now, fun _ => (Action.keeps_settling changes deletes counts).bind fun _ _ => trivial⟩

theorem shared_update {s : Secret} {observed : Option Phase} :
    Action.Shared ((Action.custodian k).update caller s observed).run :=
  keeps_update rfl (fun _ => rfl) rfl fun _ => rfl

theorem keeps_undoAll {pending : List (Compensation Action)}
    (undo : ∀ c ∈ pending, c.undo.run.Keeps calls fun _ => True) :
    (Ledger.undoAll pending).Keeps calls fun _ => True := by
  induction pending with
  | nil => exact trivial
  | cons c pending ih =>
    obtain ⟨first, others⟩ := List.forall_mem_cons.1 undo
    unfold Ledger.undoAll
    refine first.bind fun x _ => ?_
    cases x with
    | ok _ => exact ih others
    | error _ => exact trivial

theorem keeps_rollBack {operation : String} {ledger : Ledger Action} (counts : ∀ c, calls (.count c))
    (undo : ∀ c ∈ ledger.pending, c.undo.run.Keeps calls fun _ => True) :
    ((Action.custodian k).rollBack operation ledger).Keeps calls fun _ => True := by
  have cleaned : ledger.clean.Keeps calls fun _ => True := by
    unfold Ledger.clean
    by_cases completed : ledger.completed = true
    · rw [if_pos completed]
      exact trivial
    · rw [if_neg completed]
      exact (keeps_undoAll undo).bind fun _ _ => trivial
  refine cleaned.bind fun cleaned _ => ⟨counts _, fun _ => ?_⟩
  by_cases halted : cleaned.1 ≠ .undone
  · rw [if_pos halted]
    exact ⟨counts _, fun _ => trivial⟩
  · rw [if_neg halted]
    exact trivial

theorem keeps_mapM {α β : Type} {f : α → Action β} {l : List α}
    (each : ∀ a ∈ l, (f a).Keeps calls fun _ => True) : (l.mapM f).Keeps calls fun _ => True := by
  induction l with
  | nil => exact trivial
  | cons a l ih =>
    obtain ⟨first, others⟩ := List.forall_mem_cons.1 each
    rw [List.mapM_cons]
    exact first.bind fun _ _ => (ih others).bind fun _ _ => trivial

theorem keeps_observing {check : String → ExceptT Error Action Phase} {s : Secret}
    (checks : (check s.id).run.Keeps calls fun _ => True) :
    (Lifecycle.observe check s).Keeps calls fun _ => True := by
  unfold Lifecycle.observe
  by_cases waiting : s.phase ≠ .preactivation
  · rw [if_pos waiting]
    exact trivial
  · rw [if_neg waiting]
    exact checks.bind fun _ _ => trivial

theorem keeps_observe {check : String → ExceptT Error Action Phase}
    (checks : ∀ id, (check id).run.Keeps calls fun _ => True) (page : List Secret) :
    (page.mapM (Lifecycle.observe check)).Keeps calls fun _ => True :=
  keeps_mapM fun s _ => keeps_observing (checks s.id)

theorem keeps_lastMaterial (payload : (k.payload caller id).run.Keeps calls fun _ => True) (left : Nat) :
    ((Action.custodian k).lastMaterial caller id left).run.Keeps calls fun _ => True := by
  induction left with
  | zero => exact trivial
  | succ left ih =>
    unfold lastMaterial
    refine payload.bindExcept fun observed => ?_
    by_cases waiting : observed.phase = .preactivation
    · rw [if_pos waiting]
      exact ih
    · rw [if_neg waiting]
      exact trivial

theorem keeps_observeLast (payload : (k.payload caller id).run.Keeps calls fun _ => True) (whole : Bool) :
    ((Action.custodian k).observeLast caller id whole).run.Keeps calls fun _ => True := by
  cases whole with
  | false => exact trivial
  | true =>
    refine (keeps_lastMaterial payload Retry.limit).bind fun x _ => ?_
    cases x <;> exact trivial

theorem keeps_find (get : calls (.getRecord caller id)) :
    ((Action.custodian k).find caller id).run.Keeps calls fun _ => True := by
  refine .bindExcept ⟨get, fun _ => trivial⟩ fun found => ?_
  cases found with
  | none => exact trivial
  | some _ => exact trivial

/-- A read keeps to calls that fetching the material and bringing the record up to date keep to. -/
theorem keeps_read_of {seen : Phase → Prop} (get : calls (.getRecord caller id))
    (payload : (k.payload caller id).run.Keeps calls fun x => ∀ o, x = .ok o → seen o.phase)
    (updated : ∀ s observed, (∀ phase ∈ observed, seen phase) →
      ((Action.custodian k).update caller s observed).run.Keeps calls fun _ => True) :
    ((Action.custodian k).read caller id).run.Keeps calls fun _ => True := by
  refine .bindExcept (keeps_find get) fun s => ?_
  by_cases destroyed : s.phase = .destroyed
  · rw [if_pos destroyed]
    exact trivial
  rw [if_neg destroyed]
  by_cases deleted : s.deleted = true
  · rw [if_pos deleted]
    exact updated s none nofun
  rw [if_neg deleted]
  refine payload.bind fun x known => ?_
  cases x with
  | error _ => exact trivial
  | ok o =>
    refine .bindExcept (updated s _ fun phase member => ?_) fun _ => trivial
    obtain rfl := Option.mem_some.1 member
    exact known o rfl

variable (shared : ∀ c, Call.isShared c = true → calls c)
include shared

theorem keeps_read (payload : (k.payload caller id).run.Keeps calls fun _ => True) :
    ((Action.custodian k).read caller id).run.Keeps calls fun _ => True :=
  @keeps_read_of k caller id calls (fun _ => True) (shared _ rfl) (payload.mono fun _ _ _ _ => trivial)
    fun _ _ _ => shared_update.widen shared

theorem keeps_settlePage {check : String → ExceptT Error Action Phase} {page : List Secret}
    {now : Time.Instant} (checks : ∀ id, (check id).run.Keeps calls fun _ => True) :
    (Lifecycle.settlePage check Action.catalog Action.count caller page now).Keeps calls
      fun _ => True := by
  refine (keeps_observe checks page).bind fun observed _ => keeps_mapM fun _ _ => ?_
  exact (Action.shared_settle.widen shared).bind fun _ _ => trivial

theorem keeps_readPage {q : Catalog.Query}
    (check : ∀ id, (k.check caller id).run.Keeps calls fun _ => True) :
    ((Action.custodian k).readPage caller q).run.Keeps calls fun _ => True := by
  refine .bindExcept trivial fun _ => .bindExcept ⟨shared _ rfl, fun _ => trivial⟩ fun page => ?_
  refine .bindExcept ⟨shared _ rfl, fun _ => trivial⟩ fun now => .bindExcept ?_ fun _ => trivial
  exact (keeps_settlePage shared check).bind fun _ _ => trivial

end

end Custodian

end KeyCustody

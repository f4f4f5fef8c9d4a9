import KeyCustody.Proofs.Custodian.Request
import KeyCustody.Proofs.Stock
import Mathlib.Data.List.Nodup
import Mathlib.Data.List.Pairwise

/-!
# Histories of custodians

The requests to a custodian one after the other, each with the calls that it made and how it was answered.
-/

namespace KeyCustody.Custodian

open Program

structure Exchange where
  request : Request
  calls : Trace
  reply : Except Error Reply

abbrev History := List Exchange

/-- The histories of a custodian. -/
inductive Serves {σ : Type} (w : World σ) (c : Custodian Action) : σ → History → σ → Prop
  | nil (s : σ) : Serves w c s [] s
  | cons {s s₁ s' : σ} {q : Request} {t : Trace} {x : Except Error Reply} {h : History}
    (first : Run w (c.perform q) s t x s₁) (rest : Serves w c s₁ h s') : Serves w c s (⟨q, t, x⟩ :: h) s'

namespace History

/-- All calls of a history. -/
def calls (h : History) : Trace := h.flatMap Exchange.calls

/-- What is left of a history without the requests of other tenants. -/
def only (tenant : Tenant) (h : History) : History := h.filter fun e => e.request.caller.tenant = tenant

variable {h : History} {e : Exchange} {tenant tenant' : Tenant} {ref : String}

theorem only_cons_own (own : e.request.caller.tenant = tenant) : only tenant (e :: h) = e :: h.only tenant :=
  List.filter_cons_of_pos (decide_eq_true own)

theorem only_cons_other (other : e.request.caller.tenant ≠ tenant) : only tenant (e :: h) = h.only tenant :=
  List.filter_cons_of_neg (by simpa using other)

/-- A tenant draws a reference at one of its requests. -/
def Draws (h : History) (tenant : Tenant) (ref : String) : Prop :=
  ∃ e ∈ h, e.request.caller.tenant = tenant ∧ ref ∈ drawn e.calls

/-- If no reference is drawn twice, none is drawn by two tenants. -/
theorem Draws.apart (distinct : (drawn h.calls).Nodup) (different : tenant' ≠ tenant)
    (drew : h.Draws tenant' ref) : ¬ h.Draws tenant ref := by
  rintro ⟨e, member, rfl, drew₁⟩
  obtain ⟨e', member', rfl, drew'⟩ := drew
  have parts : drawn h.calls = h.flatMap fun e => drawn e.calls := List.filterMap_flatMap ..
  rw [parts, List.nodup_flatMap] at distinct
  have other : e' ≠ e := fun same => different (congrArg (·.request.caller.tenant) same)
  have symmetric : Std.Symm (Function.onFun List.Disjoint fun e : Exchange => drawn e.calls) :=
    ⟨fun _ _ disjoint => List.disjoint_symm disjoint⟩
  exact distinct.2.forall member' member other drew' drew₁

end History

/-! ## Histories that are played -/

section
variable {σ τ : Type}

/-- The history of requests to a custodian on a state that answers its calls, and the state after it. -/
def serve (c : Custodian Action) (answer : σ → (c : Call) → c.Answer × σ) : σ → List Request → History × σ
  | s, [] => ([], s)
  | s, q :: rest =>
    let served := c.serve answer ((c.perform q).run answer s).2 rest
    (⟨q, (c.perform q).trace answer s, ((c.perform q).run answer s).1⟩ :: served.1, served.2)

theorem serves_serve {w : World τ} {answer : σ → (c : Call) → c.Answer × σ} {c : Custodian Action}
    (view : σ → τ) (allowed : ∀ s c, w c (view s) (answer s c).1 (view (answer s c).2)) (requests : List Request)
    (s : σ) :
    Serves w c (view s) (c.serve answer s requests).1 (view (c.serve answer s requests).2) := by
  induction requests generalizing s with
  | nil => exact .nil _
  | cons q requests ih =>
    have first := Run.of_answers (w := fun c s x s' => w c (view s) x (view s')) allowed (c.perform q) s
    exact .cons (first.map view fun _ _ _ _ answered => answered) (ih _)

end

end KeyCustody.Custodian

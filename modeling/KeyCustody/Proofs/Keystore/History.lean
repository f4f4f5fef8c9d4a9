import KeyCustody.Proofs.World

/-!
# Histories of keystores

The requests to a keystore one after the other, each with the calls it made.
-/

namespace KeyCustody.Keystore

inductive Request where
  | create (caller : Caller) (s : Secret)
  | check (caller : Caller) (id : String)
  | payload (caller : Caller) (id : String)
  | delete (caller : Caller) (id : String)
  deriving DecidableEq

inductive Reply where
  | issued (id : String)
  | phase (p : Phase)
  | observed (o : Observation)
  | done
  deriving DecidableEq

/-- The identifier that a request is about. -/
def Request.on? : Request → Option (Tenant × String)
  | .create .. => none
  | .check caller id | .payload caller id | .delete caller id => some (caller.tenant, id)

def perform {m : Type → Type} [Monad m] (k : Keystore m) : Request → m (Except Error Reply)
  | .create caller s => return (← k.create caller s .empty).result.map .issued
  | .check caller id => return (← (k.check caller id).run).map .phase
  | .payload caller id => return (← (k.payload caller id).run).map .observed
  | .delete caller id => return (← k.delete caller id .empty).1.map fun () => .done

abbrev History := List (Request × Trace)

/-- All calls of a history. -/
def History.calls (h : History) : Trace := h.flatMap (·.2)

/-- The histories of a keystore. -/
inductive Performs {σ : Type} (w : World σ) (k : Keystore Action) : σ → History → σ → Prop
  | nil (s : σ) : Performs w k s [] s
  | cons {s s₁ s' : σ} {q : Request} {t : Trace} {x : Except Error Reply} {h : History}
    (first : Program.Run w (k.perform q) s t x s₁) (rest : Performs w k s₁ h s') :
    Performs w k s ((q, t) :: h) s'

variable {h h' : History}

@[simp] theorem History.calls_nil : History.calls [] = [] := rfl

@[simp] theorem History.calls_cons {q : Request} {t : Trace} :
    History.calls ((q, t) :: h) = t ++ h.calls := rfl

@[simp] theorem History.calls_append : History.calls (h ++ h') = h.calls ++ h'.calls :=
  List.flatMap_append

/-- A request of a history makes a call after the calls `t`. -/
def History.Makes (h : History) (q : Request) (t : Trace) (v : Event) : Prop :=
  ∃ before a b after, h = before ++ (q, a ++ v :: b) :: after ∧ t = before.calls ++ a

theorem History.Makes.calls {q : Request} {t : Trace} {v : Event} (makes : h.Makes q t v) :
    ∃ u, h.calls = t ++ v :: u := by
  obtain ⟨before, a, b, after, rfl, rfl⟩ := makes
  exact ⟨b ++ History.calls after, by simp⟩

theorem performs_append {σ : Type} {w : World σ} {k : Keystore Action} {s s' : σ} :
    Performs w k s (h ++ h') s' ↔ ∃ s₁, Performs w k s h s₁ ∧ Performs w k s₁ h' s' := by
  constructor
  · intro runs
    induction h generalizing s with
    | nil => exact ⟨s, .nil s, runs⟩
    | cons p h ih =>
      cases runs with
      | cons first rest =>
        obtain ⟨s₁, before, after⟩ := ih rest
        exact ⟨s₁, .cons first before, after⟩
  · rintro ⟨s₁, before, after⟩
    induction before with
    | nil => exact after
    | cons first _ ih => exact .cons first (ih after)

/-- What each request leads from and to, a history does. -/
theorem Performs.respects {σ : Type} {w : World σ} {k : Keystore Action} {s s' : σ}
    {R : σ → Trace → σ → Prop} (chains : Program.Chains R)
    (each : ∀ q, Program.Respects w R (k.perform q)) (runs : Performs w k s h s') :
    R s h.calls s' := by
  induction runs with
  | nil s => exact chains.refl s
  | cons first _ ih => exact chains.append (each _ _ _ _ _ first) ih

/-- The history of requests to a keystore whose store answers, with the answers to each request's
other calls, and the store after it. -/
def play (k : Keystore Action) :
    Registry.Store → List (Request × ((c : Call) → c.Answer)) → History × Registry.Store
  | s, [] => ([], s)
  | s, (q, others) :: rest =>
    let p := k.perform q
    let played := k.play (p.run (Registry.Store.answer others) s).2 rest
    ((q, p.trace (Registry.Store.answer others) s) :: played.1, played.2)

theorem performs_play {f : Fault} {k : Keystore Action}
    (requests : List (Request × ((c : Call) → c.Answer))) (s : Registry.Store) :
    Performs (Registry.Store.world f) k s (k.play s requests).1 (k.play s requests).2 := by
  induction requests generalizing s with
  | nil => exact .nil s
  | cons p requests ih =>
    exact .cons (Program.Run.of_answers (Registry.Store.world_answer p.2) _ _) (ih _)

end KeyCustody.Keystore

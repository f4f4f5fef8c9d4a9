/-!
# Programs of calls

A program either is done or makes one call and goes on with the answer. What answers the calls is
left open: the same program runs against real collaborators, against a state, or against an
adversary that decides each answer.
-/

namespace KeyCustody

inductive Program (Call : Type) (Answer : Call → Type) (α : Type) where
  | done (value : α)
  | call (c : Call) (next : Answer c → Program Call Answer α)

namespace Program

variable {Call : Type} {Answer : Call → Type} {α β γ σ : Type}

def bind : Program Call Answer α → (α → Program Call Answer β) → Program Call Answer β
  | done a, f => f a
  | call c next, f => call c fun answer => (next answer).bind f

instance : Monad (Program Call Answer) where
  pure := done
  bind := bind

@[simp] theorem pure_eq (a : α) : (pure a : Program Call Answer α) = done a := rfl

@[simp] theorem done_bind (a : α) (f : α → Program Call Answer β) : done a >>= f = f a := rfl

@[simp] theorem call_bind (c : Call) (next : Answer c → Program Call Answer α)
    (f : α → Program Call Answer β) : call c next >>= f = call c fun answer => next answer >>= f :=
  rfl

theorem bind_done (p : Program Call Answer α) : p >>= done = p := by
  induction p with
  | done a => rfl
  | call c next ih => exact congrArg (call c) (funext ih)

theorem bind_assoc (p : Program Call Answer α) (f : α → Program Call Answer β)
    (g : β → Program Call Answer γ) : p >>= f >>= g = p >>= fun a => f a >>= g := by
  induction p with
  | done a => rfl
  | call c next ih => exact congrArg (call c) (funext ih)

instance : LawfulMonad (Program Call Answer) :=
  LawfulMonad.mk' (Program Call Answer) bind_done done_bind bind_assoc

def ask (c : Call) : Program Call Answer (Answer c) := call c done

/-- Runs a program on a state that answers its calls. -/
def run (answer : σ → (c : Call) → Answer c × σ) : Program Call Answer α → σ → α × σ
  | done a, s => (a, s)
  | call c next, s => (next (answer s c).1).run answer (answer s c).2

@[simp] theorem run_bind (answer : σ → (c : Call) → Answer c × σ) (p : Program Call Answer α)
    (f : α → Program Call Answer β) (s : σ) :
    (p >>= f).run answer s = (f (p.run answer s).1).run answer (p.run answer s).2 := by
  induction p generalizing s with
  | done a => rfl
  | call c next ih => exact ih _ _

/-- Runs a program in a monad that answers its calls. -/
def runM {m : Type → Type} [Monad m] (answer : (c : Call) → m (Answer c)) :
    Program Call Answer α → m α
  | done a => pure a
  | call c next => do (next (← answer c)).runM answer

end Program

end KeyCustody

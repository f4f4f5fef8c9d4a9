import KeyCustody.Catalog.Basic
import KeyCustody.Counter

/-!
# Life cycle

The phase a secret should be in, given the phase that the catalog remembers, the secret's dates, and
what the keystore reports. `assess` decides, and changes nothing; `settle` writes its verdict back.
-/

namespace KeyCustody

open Time

/-- The phase a secret should be in. -/
structure Verdict where
  phase : Phase
  reason : Option Reason
  /-- The phase is not the remembered one. -/
  changed : Bool
  /-- The keystore reports that there will be no material. -/
  generationFailed : Bool
  deriving DecidableEq, Repr

namespace Verdict

def asIs (s : Secret) : Verdict := ⟨s.phase, s.reason, false, false⟩

def enter (s : Secret) (phase : Phase) (reason : Option Reason) : Verdict :=
  ⟨phase, reason, phase ≠ s.phase, false⟩

def change (v : Verdict) : PhaseChange := ⟨v.phase, v.reason⟩

end Verdict

namespace Secret

def isExpired (s : Secret) (now : Instant) : Bool :=
  s.expiration.any (· < now)

/-- Whether the activation date, if there is one, has passed. -/
def isDue (s : Secret) (now : Instant) : Bool :=
  s.activation.all (· < now)

/-- The verdict on a secret about which its activation date alone decides. -/
def assessByDate (s : Secret) (now : Instant) : Verdict :=
  if s.isDue now then .enter s .activation (some .keyActive) else .enter s .preactivation none

/-- The phase a secret should be in, given what the keystore reports if it was asked. -/
def assess (s : Secret) (observed : Option Phase) (now : Instant) : Verdict :=
  if s.phase = .destroyed then .asIs s
  else if observed = some .destroyed then ⟨.destroyed, some .generationFailed, true, true⟩
  else if s.deleted ∧ s.phase = .deactivated then .enter s .destroyed s.reason
  else if s.phase = .preactivation ∧ observed ≠ some .activation then .asIs s
  else if s.phase.mayExpire ∧ s.isExpired now then .enter s .deactivated (some .expired)
  else s.assessByDate now

end Secret

namespace Lifecycle

variable {m : Type → Type} [Monad m]

/-- Writes a verdict to the catalog, and returns the secret as it then stands, also after a failure.
If there will be no material, the record is deleted first. Without a change nothing is written. -/
def settle (catalog : Catalog m) (count : Counter → m Unit) (caller : Caller) (s : Secret)
    (v : Verdict) : m (Except Error Unit × Secret) := do
  if !v.changed then return (.ok (), s)
  let mut s := s
  if v.generationFailed then
    match ← (catalog.delete caller s.id).run with
    | .error error => return (.error error, s)
    | .ok _ => s := { s with deleted := true }
  match ← (catalog.change caller s.id v.change).run with
  | .error error => return (.error error, s)
  | .ok () =>
    count (.transition s.phase v.phase)
    return (.ok (), s.enter v.change)

/-- What the keystore reports about a secret that waits for its material; a failed check reports
nothing. -/
def observe (check : String → ExceptT Error m Phase) (s : Secret) : m (Option Phase) := do
  if s.phase ≠ .preactivation then return none
  return (← (check s.id).run).toOption

/-- Brings a page up to date: first every check, then verdict by verdict. A failure leaves its
secret as it is and the others alone. -/
def settlePage (check : String → ExceptT Error m Phase) (catalog : Catalog m)
    (count : Counter → m Unit) (caller : Caller) (page : List Secret) (now : Instant) :
    m (List Secret) := do
  let observed ← page.mapM (observe check)
  (page.zip observed).mapM fun (s, o) =>
    return (← settle catalog count caller s (s.assess o now)).2

end Lifecycle

end KeyCustody

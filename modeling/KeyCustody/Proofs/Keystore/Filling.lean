import KeyCustody.Proofs.Run
import KeyCustody.Proofs.Secret.Defaults

/-!
# What a creation makes of a secret

Whatever the collaborators answer, a keystore hands the secret back as it was submitted, but for its phase,
and with its key filled in if one is to be generated.
-/

namespace KeyCustody

open Program

namespace Secret

variable {s : Secret} {material : Sealed}

theorem filled_of_material (supplied : s.material? = some material) : s.filled = s := by
  rw [filled, hasMaterial, supplied]
  rfl

theorem filled_of_generated (generated : s.material? = none) : s.filled = s.withKeyDefaults := by
  rw [filled, hasMaterial, generated]
  rfl

end Secret

namespace Keystore

/-- The secret of a creation is the one submitted, filled in, in some phase. -/
def Creation.IsOf {m : Type → Type} (s : Secret) (c : Creation m) : Prop :=
  ∃ change, c.secret = s.filled.enter change

variable {tries : Nat} {caller : Caller} {s r : Secret} {material : Sealed} {ledger : Ledger Action}

theorem isOf_filled {m : Type → Type} {result : Except Error String} {ledger : Ledger m} (own : r = s.filled) :
    Creation.IsOf s (⟨result, r, ledger⟩ : Creation m) :=
  ⟨⟨r.phase, r.reason⟩, by rw [own]; rfl⟩

theorem isOf_keep (own : r = s.filled) :
    (InMemory.keep Action.registry (Call.vault Action.make) (Call.fresh Action.make)
      (Call.candidates Action.make tries) caller r material ledger).Keeps (fun _ => True)
        (Creation.IsOf s) := by
  unfold InMemory.keep
  refine (Keeps.any _).bind fun ref _ => (Keeps.any _).bind fun _ _ => (Keeps.any _).bind fun x _ => ?_
  cases x with
  | error _ => exact isOf_filled own
  | ok _ => exact ⟨inUse, congrArg (Secret.enter · inUse) own⟩

theorem isOf_inMemory :
    ((Action.memoryKeystore tries).create caller s ledger).Keeps (fun _ => True) (Creation.IsOf s) := by
  change (InMemory.create Action.registry (Call.vault Action.make) (Call.fresh Action.make)
    (Call.candidates Action.make tries) caller s ledger).Keeps _ _
  unfold InMemory.create
  cases supplied : s.material? with
  | some material => exact isOf_keep (Secret.filled_of_material supplied).symm
  | none =>
    have own := (Secret.filled_of_generated supplied).symm
    cases s.keyParameters with
    | error _ => exact isOf_filled own
    | ok _ => exact (Keeps.any _).bind fun _ _ => isOf_keep own

theorem isOf_networked :
    ((Action.barbicanKeystore tries).create caller s ledger).Keeps (fun _ => True) (Creation.IsOf s) := by
  change (Networked.create Action.registry (Call.barbican Action.make) (Call.candidates Action.make tries)
    caller s ledger).Keeps _ _
  unfold Networked.create
  cases supplied : s.material? with
  | some material =>
    have own := (Secret.filled_of_material supplied).symm
    refine (Keeps.any _).bind fun x _ => ?_
    cases x with
    | error _ => exact isOf_filled own
    | ok _ =>
      refine (Keeps.any _).bind fun x _ => ?_
      cases x with
      | error _ => exact isOf_filled own
      | ok _ => exact ⟨inUse, congrArg (Secret.enter · inUse) own⟩
  | none =>
    have own := (Secret.filled_of_generated supplied).symm
    cases s.keyParameters with
    | error _ => exact isOf_filled own
    | ok _ =>
      refine (Keeps.any _).bind fun x _ => ?_
      cases x with
      | error _ => exact isOf_filled own
      | ok _ =>
        refine (Keeps.any _).bind fun x _ => ?_
        cases x with
        | error _ => exact isOf_filled own
        | ok _ => exact ⟨⟨.preactivation, none⟩, congrArg (Secret.enter · ⟨.preactivation, none⟩) own⟩

theorem isOf_either {k : Keystore Action}
    (either : k = Action.memoryKeystore tries ∨ k = Action.barbicanKeystore tries) :
    (k.create caller s ledger).Keeps (fun _ => True) (Creation.IsOf s) := by
  obtain rfl | rfl := either
  · exact isOf_inMemory
  · exact isOf_networked

end Keystore

end KeyCustody

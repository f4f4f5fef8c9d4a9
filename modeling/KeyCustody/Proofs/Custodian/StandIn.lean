import KeyCustody.Proofs.Custodian.Beside
import KeyCustody.Proofs.Custodian.Undoing

/-!
# The keystore in memory stands in for the networked one

The same requests over a keystore in memory and over the networked keystore, on an API that stores what
is posted under a new reference, returns it as text and forgets it when it is deleted. References differ,
but the same material is held for the same identifiers throughout, so no reply tells the two apart.
-/

namespace KeyCustody

open Engine (At Alike Level Since)
open Keystore (Creation Observation Made Deposits)
open Registry (Entry Store)
open Program

namespace Backing

/-- Every entry names material that is held, each its own, and none is of an order. -/
structure Tidy (u : Supply) (b : Backing) : Prop where
  sound : b.store.Sound
  held {tenant : Tenant} {id : String} {x : Entry} : b.store.get tenant id = .ok x →
    x.order? = none ∧ ∃ ref m, x.secret? = some ref ∧ b.material.lookup ref = some m
  distinct {tenant tenant' : Tenant} {id id' ref : String} : b.reference tenant id = .ok ref →
    b.reference tenant' id' = .ok ref → (tenant, id) = (tenant', id')
  unused : b.Unused u

/-- The material that is held for an identifier. -/
def stored? (tenant : Tenant) (id : String) (b : Backing) : Option Sealed :=
  (b.reference tenant id).toOption.bind fun ref => b.material.lookup ref

section
variable {u u' : Supply} {b b' c : Backing} {tenant tenant' : Tenant} {id id' ref : String} {m : Sealed}
  {s : Store} {n : Nat}

theorem tidy_empty (u : Supply) (sound : s.Sound)
    (empty : ∀ tenant id, s.get tenant id = .error (.noSecret id)) : Tidy u { store := s } := by
  have unnamed : ∀ tenant id ref, ({ store := s } : Backing).reference tenant id ≠ .ok ref := by
    intro tenant id ref names
    obtain ⟨x, stands, -⟩ := reference_ok_iff.1 names
    rw [empty] at stands
    cases stands
  refine ⟨sound, fun {tenant id x} stands => ?_, fun names => absurd names (unnamed _ _ _),
    fun _ _ _ _ => unnamed _ _ _⟩
  rw [empty] at stands
  cases stands

/-- Nothing is found under an identifier, or material is held for it. -/
theorem Tidy.cases (h : b.Tidy u) (tenant : Tenant) (id : String) :
    (b.store.get tenant id = .error (.noSecret id) ∧ b.reference tenant id = .error (.noSecret id) ∧
      b.stored? tenant id = none) ∨
    ∃ ref m, b.Holds tenant id ref m ∧ b.reference tenant id = .ok ref ∧
      b.stored? tenant id = some m := by
  cases found : b.store.get tenant id with
  | error error =>
    have missing : b.store.get tenant id = .error (.noSecret id) := by
      rw [Store.get_eq, h.sound.isOpen, Store.live?_of_get_error h.sound.filled h.sound.isOpen found]
      rfl
    have unnamed : b.reference tenant id = .error (.noSecret id) := by
      unfold reference
      rw [missing]
      rfl
    refine .inl ⟨found.symm.trans missing, unnamed, ?_⟩
    unfold stored?
    rw [unnamed]
    rfl
  | ok x =>
    obtain ⟨ready, ref, m, named, held⟩ := h.held found
    have names : b.reference tenant id = .ok ref := reference_ok_iff.2 ⟨x, found, named⟩
    refine .inr ⟨ref, m, ⟨⟨x, found, ready, named⟩, held⟩, names, ?_⟩
    unfold stored?
    rw [names]
    exact held

/-- Material under an identifier is taken back with its entry. -/
theorem Tidy.withdraw (h : b.Tidy u) (names : b.reference tenant id = .ok ref) :
    (b.withdraw tenant ref (some id)).Tidy u ∧
      ∀ tenant' id', (b.withdraw tenant ref (some id)).stored? tenant' id' =
        if (tenant', id') = (tenant, id) then none else b.stored? tenant' id' := by
  have kept : ∀ {r}, r ≠ ref → (b.withdraw tenant ref (some id)).material.lookup r =
      b.material.lookup r := fun different => Keyed.lookup_erase_other different
  have other : ∀ {tenant' id'}, (tenant', id') ≠ (tenant, id) →
      (b.withdraw tenant ref (some id)).reference tenant' id' = b.reference tenant' id' := by
    intro tenant' id' different
    have looked : (b.withdraw tenant ref (some id)).store.get tenant' id' = b.store.get tenant' id' :=
      Store.get_delete_other different
    unfold reference
    rw [looked]
  have different : ∀ {tenant' id' r}, (tenant', id') ≠ (tenant, id) →
      b.reference tenant' id' = .ok r → r ≠ ref := by
    rintro tenant' id' r apart before rfl
    exact apart (h.distinct before names)
  refine ⟨⟨Store.sound_delete h.sound, fun {tenant' id' x} stands => ?_, fun before before' => ?_,
    fun _ _ n later after => h.unused _ _ n later (reference_of_withdraw after).1⟩, ?_⟩
  · obtain ⟨before, apart⟩ := Store.get_of_delete stands
    obtain ⟨ready, r, m, named, held⟩ := h.held before
    have own : r ≠ ref := different apart (reference_ok_iff.2 ⟨x, before, named⟩)
    exact ⟨ready, r, m, named, (kept own).trans held⟩
  · exact h.distinct (reference_of_withdraw before).1 (reference_of_withdraw before').1
  · intro tenant' id'
    by_cases same : (tenant', id') = (tenant, id)
    · obtain ⟨rfl, rfl⟩ := Prod.mk.inj same
      have missing : (b.withdraw tenant' ref (some id')).store.get tenant' id' =
        .error (.noSecret id') := Store.get_delete_self h.sound
      rw [if_pos rfl]
      unfold stored? reference
      rw [missing]
      rfl
    · rw [if_neg same]
      unfold stored?
      rw [other same]
      cases before : b.reference tenant' id' with
      | error _ => rfl
      | ok r => exact kept (different same before)

/-- What the vault holds under references in use is not touched by keeping material under the next. -/
theorem Tidy.lookup_keep (h : b.Tidy u) (names : b.reference tenant id = .ok ref) :
    (b.keep u m).material.lookup ref = b.material.lookup ref := by
  have different : ref ≠ u.reference b.referred := by
    rintro rfl
    exact h.unused _ _ _ (Nat.le_refl _) names
  exact Keyed.lookup_put_other different

/-- The entry that was added for a secret is found, and names its reference. -/
theorem get_added (sound : b.store.Sound)
    (added : b.store.add tenant { Entry.ofSecret ref with issuedId := id } = (.ok (), s)) :
    ∃ x, s.get tenant id = .ok x ∧ x.order? = none ∧ x.secret? = some ref := by
  have change := Store.enters_add added
  obtain ⟨x, stands, cleared⟩ := change.get_self (change.sound sound)
  refine ⟨x, stands, Entry.order?_congr cleared, ?_⟩
  have full := Entry.isEmpty_of_check (Store.check_of_add added)
  rw [Entry.secret?_congr cleared]
  simp only [Entry.isEmpty, Entry.secret?, Entry.order?, Entry.ofSecret, Entry.present] at full ⊢
  simpa using full

/-- Material is kept, and an entry added for it: it is held under the identifier of the entry, and all
other material as it was before. -/
theorem Tidy.stored_add (h : b.Tidy u)
    (added : b.store.add tenant { Entry.ofSecret (u.reference b.referred) with issuedId := id } =
      (.ok (), c.store))
    (material : c.material = (b.keep u m).material) (tenant' : Tenant) (id' : String) :
    c.stored? tenant' id' = if (tenant', id') = (tenant, id) then some m else b.stored? tenant' id' := by
  unfold stored?
  by_cases same : (tenant', id') = (tenant, id)
  · obtain ⟨rfl, rfl⟩ := Prod.mk.inj same
    obtain ⟨x, stands, -, named⟩ := get_added h.sound added
    have self : c.reference tenant' id' = .ok (u.reference b.referred) :=
      reference_ok_iff.2 ⟨x, stands, named⟩
    rw [if_pos rfl, self, material]
    exact Keyed.lookup_put_self
  · have other : c.reference tenant' id' = b.reference tenant' id' := by
      unfold reference
      rw [(Store.enters_add added).get_other h.sound same]
    rw [if_neg same, other, material]
    cases names : b.reference tenant' id' with
    | error _ => rfl
    | ok r => exact h.lookup_keep names

/-- A backing stays tidy when material is kept and an entry added for it. -/
theorem Tidy.add (h : b.Tidy u) (distinct : Function.Injective u.reference)
    (added : b.store.add tenant { Entry.ofSecret (u.reference b.referred) with issuedId := id } =
      (.ok (), c.store))
    (material : c.material = (b.keep u m).material) (drawn : c.referred = b.referred + 1) :
    c.Tidy u where
  sound := (Store.enters_add added).sound h.sound
  held := by
    intro tenant' id' x' found
    by_cases same : (tenant', id') = (tenant, id)
    · obtain ⟨rfl, rfl⟩ := Prod.mk.inj same
      obtain ⟨x, stands, ready, named⟩ := get_added h.sound added
      obtain rfl := Except.ok.inj (stands.symm.trans found)
      refine ⟨ready, _, m, named, ?_⟩
      rw [material]
      exact Keyed.lookup_put_self
    · rw [(Store.enters_add added).get_other h.sound same] at found
      obtain ⟨ready, r, m', named, held⟩ := h.held found
      refine ⟨ready, r, m', named, ?_⟩
      rw [material, h.lookup_keep (reference_ok_iff.2 ⟨x', found, named⟩)]
      exact held
  distinct := by
    intro tenant₁ tenant₂ id₁ id₂ r names names'
    obtain ⟨same, rfl⟩ | ⟨-, old⟩ := reference_of_add added names
    · obtain ⟨same', -⟩ | ⟨-, old'⟩ := reference_of_add added names'
      · exact same.trans same'.symm
      · exact absurd old' (h.unused _ _ _ (Nat.le_refl _))
    · obtain ⟨-, rfl⟩ | ⟨-, old'⟩ := reference_of_add added names'
      · exact absurd old (h.unused _ _ _ (Nat.le_refl _))
      · exact h.distinct old old'
  unused := h.unused.after distinct drawn fun _ _ _ names =>
    (reference_of_add added names).imp (·.2) (·.2)

/-- Material was kept, but no entry added for it; taking it back leaves what was there. -/
theorem Tidy.drop (h : b.Tidy u) (distinct : Function.Injective u.reference)
    (store : c.store = b.store) (material : c.material = (b.keep u m).material)
    (drawn : c.referred = b.referred + 1) :
    (c.withdraw tenant (u.reference b.referred) none).Tidy u ∧
      ∀ tenant' id', (c.withdraw tenant (u.reference b.referred) none).stored? tenant' id' =
        b.stored? tenant' id' := by
  have same : ∀ tenant' id', (c.withdraw tenant (u.reference b.referred) none).reference tenant' id' =
      b.reference tenant' id' := by
    intro tenant' id'
    unfold reference
    change (c.store.get tenant' id').bind _ = _
    rw [store]
  have kept : ∀ {tenant' id' r}, b.reference tenant' id' = .ok r →
      (c.withdraw tenant (u.reference b.referred) none).material.lookup r = b.material.lookup r := by
    intro tenant' id' r names
    have different : r ≠ u.reference b.referred := by
      rintro rfl
      exact h.unused _ _ _ (Nat.le_refl _) names
    have erased : (c.material.drop (u.reference b.referred)).lookup r = c.material.lookup r :=
      Keyed.lookup_erase_other different
    exact erased.trans (material ▸ h.lookup_keep names)
  refine ⟨⟨store ▸ h.sound, fun {tenant' id' x} found => ?_, fun names names' => ?_, ?_⟩, ?_⟩
  · have before : b.store.get tenant' id' = .ok x := store ▸ found
    obtain ⟨ready, r, m', named, held⟩ := h.held before
    exact ⟨ready, r, m', named, (kept (reference_ok_iff.2 ⟨x, before, named⟩)).trans held⟩
  · exact h.distinct ((same _ _).symm.trans names) ((same _ _).symm.trans names')
  · exact h.unused.after distinct drawn fun _ _ _ names => .inr ((same _ _).symm.trans names)
  · intro tenant' id'
    unfold stored?
    rw [same]
    cases names : b.reference tenant' id' with
    | error _ => rfl
    | ok r => exact kept names

/-! ## Twins -/

/-- Tidy backings that hold the same material for the same identifiers. -/
structure Twin (u u' : Supply) (b b' : Backing) : Prop where
  left : b.Tidy u
  right : b'.Tidy u'
  issued : b.issued = b'.issued
  same (tenant : Tenant) (id : String) : b.stored? tenant id = b'.stored? tenant id

theorem Twin.cases (h : Twin u u' b b') (tenant : Tenant) (id : String) :
    (b.store.get tenant id = .error (.noSecret id) ∧ b.reference tenant id = .error (.noSecret id) ∧
      b'.store.get tenant id = .error (.noSecret id)) ∨
    ∃ ref ref' m, b.Holds tenant id ref m ∧ b.reference tenant id = .ok ref ∧
      b'.Holds tenant id ref' m ∧ b'.reference tenant id = .ok ref' := by
  have same := h.same tenant id
  obtain ⟨missing, unnamed, none⟩ | ⟨ref, m, holds, names, stored⟩ := h.left.cases tenant id
  · obtain ⟨missing', -, -⟩ | ⟨_, _, -, -, stored'⟩ := h.right.cases tenant id
    · exact .inl ⟨missing, unnamed, missing'⟩
    · rw [none, stored'] at same
      cases same
  · obtain ⟨-, -, none'⟩ | ⟨ref', m', holds', names', stored'⟩ := h.right.cases tenant id
    · rw [stored, none'] at same
      cases same
    · rw [stored, stored'] at same
      obtain rfl := Option.some.inj same
      exact .inr ⟨ref, ref', m, holds, names, holds', names'⟩

/-- Entries stand under the same identifiers. -/
theorem Twin.live (h : Twin u u' b b') (tenant : Tenant) (id : String) :
    (b.store.live? tenant id).isSome = (b'.store.live? tenant id).isSome := by
  obtain ⟨missing, -, missing'⟩ | ⟨_, _, _, ⟨⟨x, found, -⟩, -⟩, -, ⟨⟨x', found', -⟩, -⟩, -⟩ :=
    h.cases tenant id
  · rw [Store.live?_of_get_error h.left.sound.filled h.left.sound.isOpen missing,
      Store.live?_of_get_error h.right.sound.filled h.right.sound.isOpen missing']
  · rw [(Store.live?_of_get found).2.1, (Store.live?_of_get found').2.1]
    rfl

theorem twin_empty {s s' : Store} (empty : s = .table true [] ∨ s = .map [])
    (empty' : s' = .table true [] ∨ s' = .map []) : Twin u u' { store := s } { store := s' } := by
  have tidy : ∀ {u : Supply} {s : Store}, s = .table true [] ∨ s = .map [] →
      Tidy u { store := s } ∧ ∀ tenant id, stored? tenant id { store := s } = none := by
    rintro u s (rfl | rfl)
    · exact ⟨tidy_empty u Store.sound_empty_table fun _ _ => rfl, fun _ _ => rfl⟩
    · exact ⟨tidy_empty u Store.sound_empty_map fun _ _ => rfl, fun _ _ => rfl⟩
  obtain ⟨left, none⟩ := tidy (u := u) empty
  obtain ⟨right, none'⟩ := tidy (u := u') empty'
  exact ⟨left, right, rfl, fun tenant id => (none tenant id).trans (none' tenant id).symm⟩

theorem Twin.withdraw {ref' : String} (h : Twin u u' b b') (names : b.reference tenant id = .ok ref)
    (names' : b'.reference tenant id = .ok ref') :
    Twin u u' (b.withdraw tenant ref (some id)) (b'.withdraw tenant ref' (some id)) := by
  obtain ⟨left, stored⟩ := h.left.withdraw names
  obtain ⟨right, stored'⟩ := h.right.withdraw names'
  refine ⟨left, right, h.issued, fun tenant' id' => ?_⟩
  rw [stored, stored', h.same]

theorem check_ofSecret (named : ref ≠ "") (id : String) :
    ({ Entry.ofSecret ref with issuedId := id } : Entry).check =
      if Text.isBlankText id then .error (.validation "Issued identifier required" "issued_id")
      else .ok () := by
  have full : ({ Entry.ofSecret ref with issuedId := id } : Entry).isEmpty = false := by
    simp [Entry.isEmpty, Entry.secret?, Entry.ofSecret, Entry.present, Option.filter, named]
  unfold Entry.check
  rw [full]
  rfl

/-- Adding an entry for a secret ends alike on twins. -/
theorem Twin.add {ref' : String} (h : Twin u u' b b') (named : ref ≠ "") (named' : ref' ≠ "")
    (tenant : Tenant) (id : String) :
    (b.store.add tenant { Entry.ofSecret ref with issuedId := id }).1 =
      (b'.store.add tenant { Entry.ofSecret ref' with issuedId := id }).1 := by
  rw [Store.add_result h.left.sound.unique h.left.sound.isOpen,
    Store.add_result h.right.sound.unique h.right.sound.isOpen, check_ofSecret named,
    check_ofSecret named']
  dsimp only
  rw [h.live]

/-- The same identifiers are in use on twins. -/
theorem Twin.get (h : Twin u u' b b') (tenant : Tenant) (id : String) :
    (b.store.get tenant id).map (fun _ => ()) = (b'.store.get tenant id).map fun _ => () := by
  obtain ⟨missing, -, missing'⟩ | ⟨_, _, _, ⟨⟨x, found, -⟩, -⟩, -, ⟨⟨x', found', -⟩, -⟩, -⟩ :=
    h.cases tenant id
  · rw [missing, missing']
  · rw [found, found']
    rfl

/-- Twins that have kept the same material under the same identifier are twins, and name it. -/
theorem Twin.deposited {s' : Store} (h : Twin u u' b b') (distinct : Function.Injective u.reference)
    (distinct' : Function.Injective u'.reference)
    (added : b.store.add tenant { Entry.ofSecret (u.reference b.referred) with issuedId := id } = (.ok (), s))
    (added' : b'.store.add tenant { Entry.ofSecret (u'.reference b'.referred) with issuedId := id } =
      (.ok (), s')) :
    Twin u u' { b.keep u m with store := s, issued := n } { b'.keep u' m with store := s', issued := n } ∧
      ({ b.keep u m with store := s, issued := n } : Backing).reference tenant id =
        .ok (u.reference b.referred) ∧
      ({ b'.keep u' m with store := s', issued := n } : Backing).reference tenant id =
        .ok (u'.reference b'.referred) := by
  obtain ⟨x, stands, -, named⟩ := get_added h.left.sound added
  obtain ⟨x', stands', -, named'⟩ := get_added h.right.sound added'
  have left : Tidy u { b.keep u m with store := s, issued := n } := h.left.add distinct added rfl rfl
  have right : Tidy u' { b'.keep u' m with store := s', issued := n } :=
    h.right.add distinct' added' rfl rfl
  refine ⟨⟨left, right, rfl, fun tenant' id' => ?_⟩, reference_ok_iff.2 ⟨x, stands, named⟩,
    reference_ok_iff.2 ⟨x', stands', named'⟩⟩
  have stored := h.left.stored_add (c := { b.keep u m with store := s, issued := n }) added rfl
  have stored' := h.right.stored_add (c := { b'.keep u' m with store := s', issued := n }) added' rfl
  rw [stored, stored', h.same]

/-- Twins that take back material for which no identifier was issued are twins. -/
theorem Twin.refused (h : Twin u u' b b') (distinct : Function.Injective u.reference)
    (distinct' : Function.Injective u'.reference) :
    Twin u u' (({ b.keep u m with issued := n } : Backing).withdraw tenant (u.reference b.referred) none)
      (({ b'.keep u' m with issued := n } : Backing).withdraw tenant (u'.reference b'.referred) none) := by
  obtain ⟨left, stored⟩ := h.left.drop (c := { b.keep u m with issued := n }) distinct rfl rfl rfl
  obtain ⟨right, stored'⟩ :=
    h.right.drop (c := { b'.keep u' m with issued := n }) distinct' rfl rfl rfl
  exact ⟨left, right, rfl, fun tenant' id' => by rw [stored, stored', h.same]⟩

/-- The same material is deposited alike, under the same identifier, and can be taken back alike. -/
theorem Twin.deposit (h : Twin u u' b b') (drawn : u.identifier = u'.identifier)
    (distinct : Function.Injective u.reference) (distinct' : Function.Injective u'.reference)
    (named : ∀ n, u.reference n ≠ "") (named' : ∀ n, u'.reference n ≠ "") (tries : Nat)
    (tenant : Tenant) (m : Sealed) :
    (b.deposit u tries tenant m).1 = (b'.deposit u' tries tenant m).1 ∧
      (∀ id, (b.deposit u tries tenant m).1 = .ok id →
        Twin u u' (b.deposit u tries tenant m).2 (b'.deposit u' tries tenant m).2) ∧
      ∀ issued, issued = (b.deposit u tries tenant m).1.toOption →
        Twin u u' ((b.deposit u tries tenant m).2.withdraw tenant (u.reference b.referred) issued)
          ((b'.deposit u' tries tenant m).2.withdraw tenant (u'.reference b'.referred) issued) := by
  obtain ⟨same, counted⟩ : (b.deposit u tries tenant m).1 = (b'.deposit u' tries tenant m).1 ∧
      (b.deposit u tries tenant m).2.issued = (b'.deposit u' tries tenant m).2.issued :=
    issue_congr tries drawn h.issued (h.get tenant) (h.add (named _) (named' _) tenant)
  refine ⟨same, ?_⟩
  obtain ⟨error, n, made⟩ | ⟨id, s, n, made, added⟩ := deposit_cases u tries tenant m b
  · obtain ⟨error', n', made'⟩ | ⟨id', s', n', made', -⟩ := deposit_cases u' tries tenant m b'
    · rw [made, made'] at counted ⊢
      obtain rfl : n = n' := counted
      refine ⟨nofun, ?_⟩
      rintro _ rfl
      exact h.refused distinct distinct'
    · rw [made, made'] at same
      cases same
  · obtain ⟨error', n', made'⟩ | ⟨id', s', n', made', added'⟩ := deposit_cases u' tries tenant m b'
    · rw [made, made'] at same
      cases same
    · rw [made, made'] at same counted ⊢
      obtain rfl : n = n' := counted
      obtain rfl := Except.ok.inj same
      obtain ⟨twin, names, names'⟩ := h.deposited distinct distinct' added added'
      refine ⟨fun _ _ => twin, ?_⟩
      rintro _ rfl
      exact twin.withdraw names names'

end

end Backing

/-! ## The keystores side by side -/

namespace Keystore

open Backing (Twin)

/-- The same secret, which comes with its material. -/
def Supplied (s s' : Secret) : Prop := s = s' ∧ s.hasMaterial = true

section
variable {u u' : Supply} {r : Catalog.Records} {tries : Nat} {caller : Caller} {s : Secret} {m : Sealed}
  {e e' after after' : Engine} {c c' : Creation Action}

/-- Supplies with the same clock and the same identifiers, on references that are new each and not empty. -/
structure Drawn (u u' : Supply) : Prop where
  time : u.time = u'.time
  identifier : u.identifier = u'.identifier
  distinct : Function.Injective u.reference
  distinct' : Function.Injective u'.reference
  named (n : Nat) : u.reference n ≠ ""
  named' (n : Nat) : u'.reference n ≠ ""

theorem made_of_twins (drawn : Drawn u u') (h : At (fun _ => Twin u u') r e e')
    (deposits : Deposits u tries caller s m e c after)
    (deposits' : Deposits u' tries caller s m e' c' after') :
    Made u u' (fun _ => Twin u u') r caller.tenant s c c' after after' := by
  obtain ⟨same, kept, back⟩ := h.linked.deposit drawn.identifier drawn.distinct drawn.distinct' drawn.named
    drawn.named' tries caller.tenant m
  exact .of_deposits h.toLevel (.same s) deposits deposits' same (fun id issued _ _ _ => kept id issued) back

theorem memory_beside_networked (tries : Nat) (drawn : Drawn u u') :
    Beside u u' (fun _ => Twin u u') Supplied (Action.memoryKeystore tries)
      (Action.barbicanKeystore tries) where
  times := drawn.time
  grows _ _ _ _ _ := id
  alike := by
    rintro s _ ⟨rfl, -⟩
    exact .same s
  named := by
    rintro s _ ⟨rfl, supplied⟩
    exact ⟨rfl, supplied⟩
  payload r caller id := by
    intro e e' h
    obtain ⟨-, unnamed, missing⟩ | ⟨ref, ref', m, holds, names, holds', -⟩ :=
      h.linked.cases caller.tenant id
    · rw [InMemory.eval_payload, unnamed, Networked.eval_payload_missing missing rfl]
      exact ⟨rfl, h⟩
    · rw [InMemory.eval_payload, names, Networked.eval_payload holds']
      simp only [Except.bind, holds.material]
      exact ⟨⟨rfl, .inl rfl⟩, h⟩
  check r caller id := by
    intro e e' h
    obtain ⟨-, unnamed, missing⟩ | ⟨ref, ref', m, holds, names, holds', -⟩ :=
      h.linked.cases caller.tenant id
    · rw [InMemory.eval_check, unnamed, Networked.eval_check_missing missing rfl]
      exact ⟨rfl, h⟩
    · rw [InMemory.eval_check, names, Networked.eval_check holds']
      simp only [Except.map, holds.material, Option.isSome_some, if_true]
      exact ⟨trivial, h⟩
  delete r caller id := by
    intro e e' h
    obtain ⟨-, unnamed, missing⟩ | ⟨ref, ref', m, holds, names, holds', names'⟩ :=
      h.linked.cases caller.tenant id
    · rw [InMemory.eval_delete, unnamed, Networked.eval_delete_missing missing]
      exact ⟨rfl, h⟩
    · rw [InMemory.eval_delete, names, Networked.eval_delete h.linked.right.sound.isOpen holds']
      exact ⟨Registry.Store.delete_eq h.linked.left.sound.isOpen,
        ⟨h.left, h.right, h.tally, h.timed⟩, h.linked.withdraw names names'⟩
  create r caller s s' supplied := by
    intro e e' h
    obtain ⟨rfl, supplied⟩ := supplied
    obtain ⟨m, supplied⟩ := Option.isSome_iff_exists.1 supplied
    rw [InMemory.create_of_material supplied, Custodian.create_of_material supplied]
    exact made_of_twins drawn h deposits_keep deposits_store

end

end Keystore

namespace Custodian

open Keystore (Drawn Supplied)

section
variable {u u' : Supply} {tries : Nat} {requests : List Request} {r : Catalog.Records} {tally : Tally}
  {s s' : Store}

theorem beside_self (supplied : ∀ caller s whole, .create caller s whole ∈ requests → s.hasMaterial = true) :
    List.Forall₂ (Request.Beside Supplied) requests requests := by
  refine List.forall₂_same.2 fun q member => ?_
  cases q with
  | create caller s whole => exact .create caller whole ⟨rfl, supplied caller s whole member⟩
  | fetch caller id => exact .fetch caller id
  | list caller q => exact .list caller q
  | total caller q => exact .total caller q
  | destroy caller id whole => exact .destroy caller id whole

/-- The keystore in memory and the networked one, each from an empty store of either kind, with the same
clock readings and the same identifiers, on references of which each is new: secrets that come with their
material are created, fetched, listed, counted and destroyed with the same replies, and leave the same
records, the same counts, and entries under the same identifiers. -/
theorem memory_stands_in (empty : s = .table true [] ∨ s = .map [])
    (empty' : s' = .table true [] ∨ s' = .map []) (times : u.time = u'.time)
    (identifiers : u.identifier = u'.identifier) (distinct : Function.Injective u.reference)
    (distinct' : Function.Injective u'.reference) (named : ∀ n, u.reference n ≠ "")
    (named' : ∀ n, u'.reference n ≠ "")
    (supplied : ∀ caller secret whole, .create caller secret whole ∈ requests →
      secret.hasMaterial = true) :
    let ended := ((Action.custodian (Action.memoryKeystore tries)).performAll requests).run u.answer
      { store := s, records := r, tally := tally }
    let ended' := ((Action.custodian (Action.barbicanKeystore tries)).performAll requests).run u'.answer
      { store := s', records := r, tally := tally }
    ended.1 = ended'.1 ∧ ended.2.records = ended'.2.records ∧ ended.2.tally = ended'.2.tally ∧
      ∀ tenant id, (ended.2.store.live? tenant id).isSome = (ended'.2.store.live? tenant id).isSome := by
  intro ended ended'
  have start : Alike (fun _ => Backing.Twin u u') { store := s, records := r, tally := tally }
      { store := s', records := r, tally := tally } :=
    ⟨⟨rfl, rfl, rfl, rfl⟩, Backing.twin_empty empty empty'⟩
  obtain ⟨replies, alike⟩ := pairs_performAll (Keystore.memory_beside_networked tries
    ⟨times, identifiers, distinct, distinct', named, named'⟩) (beside_self supplied) _ _ start
  exact ⟨replies, alike.right.symm, alike.tally, alike.linked.live⟩

/-- Two secrets, of which one is destroyed; the API makes up its references in another way, and keeps to
a table. -/
theorem memory_stands_in_of_two :
    let caller : Caller := ⟨⟨"s", "o"⟩, "c", none⟩
    let secret (name : String) : Secret := { Secret.named name with payload := some ⟨"material"⟩ }
    let requests : List Request := [.create caller (secret "one") true, .list caller ⟨10, 0⟩,
      .create caller (secret "other") false, .fetch caller "k", .destroy caller "k" true, .fetch caller "kk"]
    let api : Supply := { Supply.counting with reference n := String.ofList (List.replicate (n + 1) 's') }
    let ended := ((Action.custodian (Action.memoryKeystore 2)).performAll requests).run
      Supply.counting.answer { store := .map [] }
    let ended' := ((Action.custodian (Action.barbicanKeystore 2)).performAll requests).run api.answer
      { store := .table true [] }
    ended.1.map Except.isOk = [true, true, true, true, true, true] ∧ ended.1 = ended'.1 ∧
      (ended.2.store.live? caller.tenant "kk").isSome = true ∧
      (ended'.2.store.live? caller.tenant "kk").isSome = true := by
  intro caller secret requests api ended ended'
  have distinct : Function.Injective api.reference := by
    intro n n' same
    have lengths := congrArg String.length same
    simpa [api] using lengths
  have named : ∀ c n, String.ofList (List.replicate (n + 1) c) ≠ "" := by
    intro c n same
    have lengths := congrArg String.length same
    simp at lengths
  have supplied : ∀ caller secret whole, .create caller secret whole ∈ requests →
      secret.hasMaterial = true := by
    intro caller secret whole member
    simp only [requests, List.mem_cons, Request.create.injEq, List.not_mem_nil, reduceCtorEq, or_false,
      false_or] at member
    obtain ⟨-, rfl, -⟩ | ⟨-, rfl, -⟩ := member
    · rfl
    · rfl
  obtain ⟨replies, -, -, live⟩ := @memory_stands_in Supply.counting api 2 requests [] [] (.map [])
    (.table true []) (.inr rfl) (.inl rfl) rfl rfl Supply.injective_counting distinct (named 'r')
    (named 's') supplied
  have shown : ended.1.map Except.isOk = [true, true, true, true, true, true] := by decide +kernel
  have stands : (ended.2.store.live? caller.tenant "kk").isSome = true := by decide +kernel
  refine ⟨shown, ?_, stands, ?_⟩
  · dsimp only [ended, ended']
    exact replies
  · dsimp only [ended] at stands
    dsimp only [ended']
    exact (live caller.tenant "kk").symm.trans stands

end

end Custodian

end KeyCustody

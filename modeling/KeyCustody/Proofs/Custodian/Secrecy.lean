import KeyCustody.Proofs.Custodian.Beside

/-!
# Withheld material shows nowhere

Two runs of the same requests over a keystore in memory, from the same state and on the same supply, in
which only the material of secrets that are not extractable differs. The vaults differ in that material
alone, and only where the records withhold it, so nothing else ever differs.
-/

namespace KeyCustody

open Engine (At Alike Level Since)
open Keystore (Creation Observation Made Deposits)
open Program

namespace Backing

/-- The vaults `v` and `v'` differ only in material that every entry naming it has withheld. -/
def Veiled (H : Tenant × String → Prop) (b : Backing) (v v' : Vault.Contents) : Prop :=
  ∀ ref, v.lookup ref = v'.lookup ref ∨
    (v.lookup ref).isSome = true ∧ (v'.lookup ref).isSome = true ∧
      ∀ tenant id, b.reference tenant id = .ok ref → H (tenant, id)

/-- Backings that are the same but for withheld material. -/
structure Masked (u : Supply) (H : Tenant × String → Prop) (b b' : Backing) : Prop where
  same : b' = { b with material := b'.material }
  unused : b.Unused u
  veiled : b.Veiled H b.material b'.material

section
variable {u : Supply} {H H' : Tenant × String → Prop} {b : Backing} {v v' : Vault.Contents}
  {tenant : Tenant} {tries : Nat} {m m' : Sealed}

theorem masked_refl (unused : b.Unused u) : Masked u H b b := ⟨rfl, unused, fun _ => .inl rfl⟩

theorem masked_grows (u : Supply) : Link.Grows (Masked u) :=
  fun _ _ _ _ more h => ⟨h.same, h.unused, fun ref => (h.veiled ref).imp_right fun veiled =>
    ⟨veiled.1, veiled.2.1, fun tenant id named => more _ (veiled.2.2 tenant id named)⟩⟩

/-- Taking material back under a reference unveils nothing. -/
theorem Veiled.drop {c : Backing} (h : b.Veiled H v v') (ref : String)
    (shrinks : ∀ tenant id r, c.reference tenant id = .ok r → b.reference tenant id = .ok r) :
    c.Veiled H (v.drop ref) (v'.drop ref) := by
  intro r
  by_cases same : r = ref
  · subst r
    left
    exact Keyed.lookup_erase_self.trans Keyed.lookup_erase_self.symm
  · have kept : (v.drop ref).lookup r = v.lookup r := Keyed.lookup_erase_other same
    have kept' : (v'.drop ref).lookup r = v'.lookup r := Keyed.lookup_erase_other same
    rw [kept, kept']
    exact (h r).imp_right fun veiled =>
      ⟨veiled.1, veiled.2.1, fun tenant id named => veiled.2.2 tenant id (shrinks _ _ _ named)⟩

/-- Nor does it where the material was put there before. -/
theorem Veiled.takeBack {c : Backing} (h : b.Veiled H v v') (ref : String) (m m' : Sealed)
    (shrinks : ∀ tenant id r, c.reference tenant id = .ok r → b.reference tenant id = .ok r) :
    c.Veiled H ((v.put ref m).drop ref) ((v'.put ref m').drop ref) := by
  rw [drop_put, drop_put]
  exact h.drop ref shrinks

/-- Putting material under the next reference on both sides; what differs is withheld. -/
theorem Veiled.put {c : Backing} (h : b.Veiled H v v') (unused : b.Unused u) (m m' : Sealed)
    (more : ∀ key, H key → H' key)
    (named : ∀ tenant id r, c.reference tenant id = .ok r →
      r = u.reference b.referred ∧ (m = m' ∨ H' (tenant, id)) ∨
        b.reference tenant id = .ok r) :
    c.Veiled H' (v.put (u.reference b.referred) m) (v'.put (u.reference b.referred) m') := by
  intro r
  by_cases same : r = u.reference b.referred
  · subst r
    have put : ∀ (v : Vault.Contents) (m : Sealed), (v.put (u.reference b.referred) m).lookup
        (u.reference b.referred) = some m := fun _ _ => Keyed.lookup_put_self
    rw [put, put]
    by_cases equal : m = m'
    · exact .inl (congrArg some equal)
    · refine .inr ⟨rfl, rfl, fun tenant id names => ?_⟩
      obtain ⟨-, equal' | withheld⟩ | before := named _ _ _ names
      · exact absurd equal' equal
      · exact withheld
      · exact absurd before (unused tenant id _ (Nat.le_refl _))
  · have kept : ∀ (v : Vault.Contents) (m : Sealed),
        (v.put (u.reference b.referred) m).lookup r = v.lookup r :=
      fun _ _ => Keyed.lookup_put_other same
    rw [kept, kept]
    refine (h r).imp_right fun ⟨held, held', veiled⟩ => ⟨held, held', fun tenant id names => ?_⟩
    obtain ⟨self, -⟩ | before := named _ _ _ names
    · exact absurd self same
    · exact more _ (veiled tenant id before)

/-- The same deposit with other material: the same identifier is issued, the backings still correspond
if the new material is the same or withheld, and they correspond again once it is taken back. -/
theorem masked_deposit {b' : Backing} (distinct : Function.Injective u.reference)
    (h : Masked u H b b') (tries : Nat) (tenant : Tenant) (m m' : Sealed) :
    (b'.deposit u tries tenant m').1 = (b.deposit u tries tenant m).1 ∧
      (∀ id, (b.deposit u tries tenant m).1 = .ok id → ∀ H' : Tenant × String → Prop,
        (∀ key, H key → H' key) → m = m' ∨ H' (tenant, id) →
          Masked u H' (b.deposit u tries tenant m).2 (b'.deposit u tries tenant m').2) ∧
      ∀ issued, issued = (b.deposit u tries tenant m).1.toOption →
        Masked u H ((b.deposit u tries tenant m).2.withdraw tenant (u.reference b.referred) issued)
          ((b'.deposit u tries tenant m').2.withdraw tenant (u.reference b.referred) issued) := by
  obtain ⟨same, unused, veiled⟩ := h
  generalize b'.material = v' at same veiled
  subst same
  have other : ({ b with material := v' } : Backing).deposit u tries tenant m' =
      ((b.deposit u tries tenant m).1, { (b.deposit u tries tenant m).2 with
        material := v'.put (u.reference b.referred) m' }) :=
    issue_material u tries tenant _ tries (b.keep u m) _
  rw [other]
  refine ⟨rfl, ?_⟩
  obtain ⟨error, n, deposited⟩ | ⟨id, s, n, deposited, added⟩ := deposit_cases u tries tenant m b
  · rw [deposited]
    refine ⟨nofun, ?_⟩
    rintro _ rfl
    have shrinks : ∀ tenant' id r, (({ b.keep u m with issued := n } : Backing).withdraw tenant
        (u.reference b.referred) none).reference tenant' id = .ok r → b.reference tenant' id = .ok r :=
      fun _ _ _ names => names
    exact ⟨rfl, unused.after distinct rfl fun _ _ _ names => .inr (shrinks _ _ _ names),
      veiled.takeBack _ m m' shrinks⟩
  · rw [deposited]
    have named : ∀ tenant' id' r,
        ({ b.keep u m with store := s, issued := n } : Backing).reference tenant' id' = .ok r →
          (tenant', id') = (tenant, id) ∧ r = u.reference b.referred ∨
            (tenant', id') ≠ (tenant, id) ∧ b.reference tenant' id' = .ok r :=
      fun _ _ _ names =>
        reference_of_add (b := b) (c := { b.keep u m with store := s, issued := n }) added names
    constructor
    · rintro _ ⟨⟩ H' more withheld
      refine ⟨rfl, unused.after distinct rfl fun _ _ _ names => ?_, ?_⟩
      · exact (named _ _ _ names).imp (·.2) (·.2)
      · refine veiled.put unused m m' more fun tenant' id' r names => ?_
        obtain ⟨self, own⟩ | ⟨-, before⟩ := named _ _ _ names
        · exact .inl ⟨own, self ▸ withheld⟩
        · exact .inr before
    · rintro _ rfl
      have shrinks : ∀ tenant' id' r, (({ b.keep u m with store := s, issued := n } : Backing).withdraw
          tenant (u.reference b.referred) (some id)).reference tenant' id' = .ok r →
            b.reference tenant' id' = .ok r := by
        intro tenant' id' r names
        obtain ⟨after, different⟩ := reference_of_withdraw names
        obtain ⟨self, -⟩ | ⟨-, before⟩ := named _ _ _ after
        · exact absurd self (different id rfl)
        · exact before
      exact ⟨rfl, unused.after distinct rfl fun _ _ _ names => .inr (shrinks _ _ _ names),
        veiled.takeBack _ m m' shrinks⟩

theorem Masked.reference {b' : Backing} (h : Masked u H b b') (tenant : Tenant) (id : String) :
    b'.reference tenant id = b.reference tenant id := by
  rw [h.same]
  rfl

theorem Masked.withdraw {b' : Backing} (h : Masked u H b b') (tenant : Tenant) (ref : String)
    (issued : Option String) :
    Masked u H (b.withdraw tenant ref issued) (b'.withdraw tenant ref issued) := by
  obtain ⟨same, unused, veiled⟩ := h
  refine ⟨?_, fun _ _ n later names => ?_, ?_⟩
  · rw [same]
    rfl
  · exact unused _ _ n later (reference_of_withdraw names).1
  · exact veiled.drop ref fun _ _ _ names => (reference_of_withdraw names).1

end

end Backing

/-! ## The keystore in memory beside itself -/

namespace Keystore

open Backing (Masked)

section
variable {u : Supply} {r : Catalog.Records} {tries : Nat} {caller : Caller} {s s' : Secret}
  {m m' : Sealed} {e e' after after' : Engine} {c c' : Creation Action}

theorem made_of_deposits (distinct : Function.Injective u.reference) (h : At (Masked u) r e e')
    (deposits : Deposits u tries caller s m e c after)
    (deposits' : Deposits u tries caller s' m' e' c' after') (alike : s.Alike s')
    (veiled : m = m' ∨ s.extractable = false) :
    Made u u (Masked u) r caller.tenant s c c' after after' := by
  obtain ⟨same, kept, back⟩ := Backing.masked_deposit distinct h.linked tries caller.tenant m m'
  have drawn : e'.referred = e.referred := by rw [h.linked.same]
  refine .of_deposits h.toLevel alike deposits deposits' same.symm
    (fun id issued H more withheld => kept id issued H more (veiled.imp_right withheld)) ?_
  rw [drawn]
  exact back

/-- A creation for which material has to be generated, on engines that generate the same. -/
theorem made_generated (distinct : Function.Injective u.reference) (h : At (Masked u) r e e')
    (none : s.material? = none) :
    Made u u (Masked u) r caller.tenant s
      (((Action.memoryKeystore tries).create caller s .empty).run u.answer e).1
      (((Action.memoryKeystore tries).create caller s .empty).run u.answer e').1
      (((Action.memoryKeystore tries).create caller s .empty).run u.answer e).2
      (((Action.memoryKeystore tries).create caller s .empty).run u.answer e').2 := by
  cases parameters : s.keyParameters with
  | error error =>
    rw [InMemory.create_of_refused none parameters]
    refine ⟨rfl, .same _, rfl, h.toLevel, nofun, ?_⟩
    rintro d d' ⟨level, backing, backing'⟩
    refine ⟨rfl, level, ?_⟩
    change Masked u r.Withholds d.toBacking d'.toBacking
    rw [backing, backing']
    exact h.linked
  | ok key =>
    rw [InMemory.create_of_parameters none parameters]
    let filled (e : Engine) : Engine := { e with filled := e.filled + 1 }
    have generated : ∀ e : Engine, (InMemory.generate (Call.fresh Action.make) key.bitLength).run u.answer e =
      (⟨Text.Base64.encode (u.bytes e.filled ((key.bitLength + 7) / 8))⟩, filled e) := fun _ => rfl
    have counted : e'.filled = e.filled := by rw [h.linked.same]
    have level : At (Masked u) r (filled e) (filled e') := by
      refine ⟨⟨h.left, h.right, h.tally, h.timed⟩, ?_, h.linked.unused, h.linked.veiled⟩
      exact congrArg (fun b : Backing => { b with filled := b.filled + 1 }) h.linked.same
    rw [run_bind, run_bind, generated, generated, counted]
    refine Made.of_extractable (s := s.withKeyDefaults) ?_ rfl
    exact made_of_deposits distinct level deposits_keep deposits_keep (.same _) (.inl rfl)

theorem memory_beside (tries : Nat) (distinct : Function.Injective u.reference) :
    Beside u u (Masked u) Secret.Alike (Action.memoryKeystore tries) (Action.memoryKeystore tries) where
  times := rfl
  grows := Backing.masked_grows u
  alike := id
  named alike := alike.named Text.trim
  payload r caller id := by
    intro e e' h
    rw [InMemory.eval_payload, InMemory.eval_payload, h.linked.reference]
    refine ⟨?_, h⟩
    cases named : e.reference caller.tenant id with
    | error _ => exact rfl
    | ok ref =>
      simp only [Except.bind]
      obtain same | ⟨held, held', withheld⟩ := h.linked.veiled ref
      · rw [← same]
        cases e.material.lookup ref with
        | none => exact rfl
        | some _ => exact ⟨rfl, .inl rfl⟩
      · obtain ⟨m, held⟩ := Option.isSome_iff_exists.1 held
        obtain ⟨m', held'⟩ := Option.isSome_iff_exists.1 held'
        rw [held, held']
        exact ⟨rfl, .inr (withheld _ _ named)⟩
  check r caller id := by
    intro e e' h
    rw [InMemory.eval_check, InMemory.eval_check, h.linked.reference]
    refine ⟨?_, h⟩
    cases e.reference caller.tenant id with
    | error _ => rfl
    | ok ref =>
      simp only [Except.map]
      obtain same | ⟨held, held', -⟩ := h.linked.veiled ref
      · rw [same]
      · rw [held, held']
  delete r caller id := by
    intro e e' h
    rw [InMemory.eval_delete, InMemory.eval_delete, h.linked.reference]
    cases e.reference caller.tenant id with
    | error _ => exact ⟨rfl, h⟩
    | ok ref =>
      have stores : e'.store = e.store := by rw [h.linked.same]
      refine ⟨?_, ⟨h.left, h.right, h.tally, h.timed⟩, h.linked.withdraw caller.tenant ref (some id)⟩
      rw [stores]
  create r caller s s' alike := by
    intro e e' h
    cases alike with
    | same =>
      cases supplied : s.material? with
      | none => exact made_generated distinct h supplied
      | some m =>
        rw [InMemory.create_of_material supplied]
        exact made_of_deposits distinct h deposits_keep deposits_keep (.same s) (.inl rfl)
    | masked withheld filled within =>
      rename_i s m m'
      have supplied : { s with payload := some m : Secret }.material? = some m := by
        simp [Secret.material?, Option.filter, filled.1]
      have supplied' : { s with payload := some m' : Secret }.material? = some m' := by
        simp [Secret.material?, Option.filter, filled.2]
      rw [InMemory.create_of_material supplied, InMemory.create_of_material supplied']
      exact made_of_deposits distinct h deposits_keep deposits_keep (.masked withheld filled within)
        (.inr withheld)

end

end Keystore

namespace Custodian

section
variable {u : Supply} {tries : Nat} {e : Engine} {requests requests' : List Request}

/-- The same requests over a keystore in memory, from the same state and with the same clock readings,
identifiers and references, differing only in material of secrets that are not extractable: the replies
are the same, and so are the entries, the records and what is counted. References are made up to be new,
so they are distinct, and none that is still to be drawn is in use. -/
theorem withheld_material_shows_nowhere (distinct : Function.Injective u.reference)
    (unused : e.Unused u) (masked : List.Forall₂ (Request.Beside Secret.Alike) requests requests') :
    let ended :=
      ((Action.custodian (Action.memoryKeystore tries)).performAll requests).run u.answer e
    let ended' :=
      ((Action.custodian (Action.memoryKeystore tries)).performAll requests').run u.answer e
    ended.1 = ended'.1 ∧ ended.2.store = ended'.2.store ∧ ended.2.records = ended'.2.records ∧
      ended.2.tally = ended'.2.tally := by
  intro ended ended'
  have start : Alike (Backing.Masked u) e e := ⟨⟨rfl, rfl, rfl, rfl⟩, Backing.masked_refl unused⟩
  obtain ⟨replies, alike⟩ :=
    pairs_performAll (Keystore.memory_beside tries distinct) masked e e start
  refine ⟨replies, ?_, alike.right.symm, alike.tally⟩
  have same := alike.linked.same
  exact (congrArg Backing.store same).symm

/-- Two texts for a secret that is created, fetched, listed and destroyed. -/
theorem withheld_material_shows_nowhere_of_two :
    let caller : Caller := ⟨⟨"s", "o"⟩, "c", none⟩
    let secret (text : String) : Secret :=
      { Secret.named "key" with payload := some ⟨text⟩, extractable := false }
    let ended (text : String) :=
      ((Action.custodian (Action.memoryKeystore 1)).performAll
        [.create caller (secret text) true, .fetch caller "k", .list caller ⟨10, 0⟩,
          .destroy caller "k" true]).run Supply.counting.answer {}
    (ended "one").1.map Except.isOk = [true, true, true, true] ∧
      (ended "one").1 = (ended "another").1 ∧
      (ended "one").2.records = (ended "another").2.records := by
  intro caller secret ended
  have unused : Backing.Unused Supply.counting {} := by
    intro tenant id n _ names
    cases names
  have alike : (secret "one").Alike (secret "another") :=
    .masked (s := secret "one") rfl (by decide +kernel) (by decide +kernel)
  have masked : List.Forall₂ (Request.Beside Secret.Alike)
      [.create caller (secret "one") true, .fetch caller "k", .list caller ⟨10, 0⟩,
        .destroy caller "k" true]
      [.create caller (secret "another") true, .fetch caller "k", .list caller ⟨10, 0⟩,
        .destroy caller "k" true] :=
    .cons (.create _ _ alike) (.cons (.fetch _ _) (.cons (.list _ _) (.cons (.destroy _ _ _) .nil)))
  obtain ⟨replies, -, records, -⟩ :=
    @withheld_material_shows_nowhere Supply.counting 1 {} _ _ Supply.injective_counting unused masked
  have shown : (ended "one").1.map Except.isOk = [true, true, true, true] := by decide +kernel
  refine ⟨shown, ?_⟩
  dsimp only [ended]
  exact ⟨replies, records⟩

end

end Custodian

end KeyCustody

import KeyCustody.Proofs.Custodian.Release
import KeyCustody.Proofs.Custodian.Terminal

/-!
# Reading a secret after its expiration date

An expiration date means something only to a record in use. A record that waits for its material, or
that an earlier read has deactivated, is judged by its activation date alone, however late it is read:
such a read may carry the material, and leaves the record in use, so that the next one withholds it.
-/

namespace KeyCustody

open Program
open Time (Instant)

/-! ## Records without material -/

namespace Catalog.Records

variable {f : Fault} {r r' : Records} {tenant : Tenant} {s : Secret} {id : String}

/-- No record holds material. -/
def Bare (r : Records) : Prop := ∀ p ∈ r, p.2.payload = none

theorem Bare.put {key : Tenant × String} (h : r.Bare) (bare : s.payload = none) : (r.put key s).Bare :=
  List.forall_mem_cons.2 ⟨bare, fun p member => h p (List.mem_filter.1 member).1⟩

theorem Bare.of_lookup (h : r.Bare) (found : r.lookup (tenant, id) = some s) : s.payload = none := by
  obtain ⟨l₁, l₂, rfl, -⟩ := List.lookup_eq_some_iff.1 found
  exact h ((tenant, id), s) (by simp)

theorem Bare.create {now : Instant} (h : r.Bare) : (r.create tenant now s).2.Bare := by
  obtain ⟨_, same⟩ | ⟨_, same, -, rfl⟩ := create_cases tenant now s r
  · rwa [same]
  · rw [same]
    exact h.put rfl

theorem Bare.change {c : PhaseChange} (h : r.Bare) : (r.change tenant id c).2.Bare := by
  unfold Records.change
  cases found : r.lookup (tenant, id) with
  | none => exact h
  | some s =>
    have bare : s.payload = none := h.of_lookup found
    have still : (s.enter c).payload = none := bare
    exact h.put still

theorem Bare.delete (h : r.Bare) : (r.delete tenant id).2.Bare := by
  unfold Records.delete
  cases found : r.lookup (tenant, id) with
  | none => exact h
  | some s =>
    have bare : s.payload = none := h.of_lookup found
    exact h.put bare

theorem Bare.after {c : Call} {x : c.Answer} (h : r.Bare) (answered : Records.world f c r x r') :
    r'.Bare := by
  obtain rfl | ⟨tenant, now, s, rfl⟩ | ⟨tenant, id, change, rfl⟩ | ⟨tenant, id, rfl⟩ :=
    Records.world_cases answered
  · exact h
  · exact h.create
  · exact h.change
  · exact h.delete

/-- Whatever program is run, the records stay filed and without material. -/
theorem filed_bare {α : Type} {p : Action α} {t : Trace} {a : α} (start : r.Filed ∧ r.Bare)
    (h : Run (Records.world f) p r t a r') : r'.Filed ∧ r'.Bare := by
  have kept : ∀ c r x r', r.Filed ∧ r.Bare → Records.world f c r x r' → r'.Filed ∧ r'.Bare :=
    fun _ _ _ _ kept answered => ⟨kept.1.after answered, kept.2.after answered⟩
  have whole := Run.invariant kept start h
  exact whole

end Catalog.Records

/-! ## Verdicts after the expiration date -/

/-- A record past its expiration date is found to be in use only if it waits or is deactivated, and its
phase is then to be written. -/
theorem Secret.assess_expired {s : Secret} {observed : Option Phase} {now : Instant}
    (expired : s.isExpired now = true) (active : (s.assess observed now).phase = .activation) :
    (s.phase = .preactivation ∨ s.phase = .deactivated) ∧
      s.assess observed now = ⟨.activation, some .keyActive, true, false⟩ := by
  have finding := finding_assess s observed now
  generalize s.assess observed now = v at active finding ⊢
  cases finding with
  | lost | repaired | lapsed | early => cases active
  | final destroyed => cases destroyed.symm.trans active
  | waiting _ waits => cases waits.symm.trans active
  | due _ goes =>
    have phase : s.phase = .preactivation ∨ s.phase = .deactivated := by
      cases goes with
      | waiting waits => exact .inl waits
      | used _ fresh =>
        obtain ⟨t, date, late⟩ := isExpired_iff.1 expired
        exact absurd late (fresh t date)
      | disused disused => exact .inr disused
    have idle : Phase.activation ≠ s.phase := by
      obtain same | same := phase <;> simp [same]
    exact ⟨phase, by simp [Verdict.enter, idle]⟩

/-- The times that the clock has shown in a trace. -/
def clockReadings (t : Trace) : List Instant :=
  t.filterMap fun
    | ⟨.now, now⟩ => some now
    | _ => none

theorem mem_clockReadings {t : Trace} {now : Instant} : now ∈ clockReadings t ↔ ⟨.now, now⟩ ∈ t := by
  constructor
  · intro member
    obtain ⟨⟨c, x⟩, member, same⟩ := List.mem_filterMap.1 member
    cases c with
    | now => exact Option.some.inj same ▸ member
    | _ => cases same
  · intro member
    exact List.mem_filterMap.2 ⟨_, member, rfl⟩

namespace Custodian

variable {f : Fault} {k : Keystore Action} {tries : Nat} {r r' : Catalog.Records} {t u : Trace}
  {caller : Caller} {id : String} {record shown : Secret} {observed : Option Phase}

/-! ## Reads -/

/-- A record that is brought up to date is in the phase of the verdict at the time read, and if that is
a change of phase alone, it has been written. -/
theorem run_update_written (found : r.lookup (caller.tenant, record.id) = some record)
    (h : Run (Catalog.Records.world f) ((Action.custodian k).update caller record observed).run r t
      (.ok shown) r') :
    ∃ now ∈ clockReadings t, shown.phase = (record.assess observed now).phase ∧
      ((record.assess observed now).changed = true →
        (record.assess observed now).generationFailed = false →
        r'.lookup (caller.tenant, record.id) = some (record.enter (record.assess observed now).change)) := by
  obtain ⟨_, now, r, _, rfl, asked, settled⟩ := Run.bind_iff.1 h
  obtain ⟨rfl, rfl⟩ := Run.ask_iff.1 asked
  obtain ⟨_, ⟨x, last⟩, _, _, rfl, settled, passed⟩ := Run.bind_iff.1 settled
  obtain ⟨-, same, rfl⟩ := Run.pure_iff.1 passed
  cases x with
  | error _ => cases same
  | ok _ =>
    obtain rfl := Except.ok.inj same
    obtain ⟨-, -, outcome⟩ := Lifecycle.run_settle_result settled
    refine ⟨now, mem_clockReadings.2 List.mem_cons_self, ?_, fun changed well => ?_⟩
    · obtain ⟨unchanged, rfl⟩ | phase := outcome rfl
      · exact (Secret.assess_unchanged unchanged).symm
      · exact phase
    · rw [Lifecycle.settle_changed changed well] at settled
      obtain ⟨_, y, r₁, _, rfl, sent, ended⟩ := Run.bind_iff.1 settled
      obtain ⟨rfl, answered⟩ := Run.ask_iff.1 sent
      cases y with
      | error _ =>
        obtain ⟨-, same, -⟩ := Run.pure_iff.1 ended
        cases (Prod.mk.inj same).1
      | ok _ =>
        have admitted : f.Admits (r.change caller.tenant record.id
          (record.assess observed now).change) r (.ok ()) r₁ := answered
        have done := admitted.ok
        unfold Catalog.Records.change at done
        rw [found] at done
        obtain ⟨-, rfl⟩ := Prod.mk.inj done
        obtain ⟨_, _, _, _, rfl, counted, passed⟩ := Run.bind_iff.1 ended
        obtain ⟨rfl, rfl⟩ := Run.ask_iff.1 counted
        obtain ⟨-, -, rfl⟩ := Run.pure_iff.1 passed
        exact Keyed.lookup_put_self

/-- A read of a record past its expiration date that carries material has found it waiting or
deactivated, and leaves it in use. -/
theorem run_read_late {date : Instant} (apart : Keystore.Apart k) (filed : r.Filed) (bare : r.Bare)
    (found : r.lookup (caller.tenant, id) = some record) (expires : record.expiration = some date)
    (h : Run (Catalog.Records.world f) ((Action.custodian k).read caller id).run r t (.ok shown) r')
    (late : ∀ now ∈ clockReadings t, date < now) :
    shown.payload = none ∨
      record.deleted = false ∧ (record.phase = .preactivation ∨ record.phase = .deactivated) ∧
        r'.lookup (caller.tenant, id) = some (record.enter Keystore.inUse) := by
  obtain rfl : record.id = id := filed.of_lookup found
  have none : record.payload = none := bare.of_lookup found
  obtain ⟨_, s, _, _, rfl, looked, ended⟩ := Run.bindExcept_ok_iff.1 h
  obtain ⟨rfl, same⟩ := run_find looked
  obtain rfl : s = record := Option.some.inj ((same s rfl).symm.trans found)
  by_cases destroyed : s.phase = .destroyed
  · rw [if_pos destroyed] at ended
    obtain ⟨-, rfl, -⟩ := Run.pureExcept_ok_iff.1 ended
    exact .inl none
  rw [if_neg destroyed] at ended
  by_cases deleted : s.deleted = true
  · rw [if_pos deleted] at ended
    exact .inl ((run_update_ok ended).1.trans none)
  rw [if_neg deleted] at ended
  obtain ⟨_, seen, _, _, rfl, asked, answered⟩ := Run.bindExcept_ok_iff.1 ended
  obtain ⟨rfl, -⟩ := run_apart (apart.payload caller s.id) asked
  obtain ⟨_, last, _, _, rfl, updated, passed⟩ := Run.bindExcept_ok_iff.1 answered
  obtain ⟨-, rfl, rfl⟩ := Run.pureExcept_ok_iff.1 passed
  cases carried : ({ last with payload := seen.payload } : Secret).redact.payload with
  | none => exact .inl rfl
  | some material =>
    obtain ⟨-, active, -⟩ := redact_payload carried
    obtain ⟨now, read, phase, wrote⟩ := run_update_written found updated
    have past : s.isExpired now = true := by
      have after : date < now := by
        refine late now (mem_clockReadings.2 ?_)
        simp [mem_clockReadings.1 read]
      simp [Secret.isExpired, expires, after]
    obtain ⟨spared, verdict⟩ := Secret.assess_expired past (phase.symm.trans active)
    rw [verdict] at wrote
    exact .inr ⟨by simpa using deleted, spared, wrote rfl rfl⟩

theorem run_fetch_ok {reply : Reply}
    (h : Run (Catalog.Records.world f) ((Action.custodian k).perform (.fetch caller id)) r t (.ok reply)
      r') :
    ∃ u v shown, t = u ++ v ∧ reply = .secret shown ∧
      Run (Catalog.Records.world f) ((Action.custodian k).read caller id).run r u (.ok shown) r' := by
  obtain ⟨x, same, fetched⟩ := Run.mapped_iff.1 h
  cases x with
  | error _ => cases same
  | ok shown =>
    obtain ⟨u, r₁, rfl, read, rfl⟩ := run_counted_iff.1 fetched
    exact ⟨u, _, shown, rfl, Except.ok.inj same, read⟩

/-- A fetch past the expiration date that carries material has found the record waiting or deactivated,
and leaves it in use. -/
theorem run_fetch_late {date : Instant} {reply : Reply} (apart : Keystore.Apart k) (filed : r.Filed)
    (bare : r.Bare) (found : r.lookup (caller.tenant, id) = some record)
    (expires : record.expiration = some date)
    (h : Run (Catalog.Records.world f) ((Action.custodian k).perform (.fetch caller id)) r t (.ok reply)
      r')
    (late : ∀ now ∈ clockReadings t, date < now) :
    reply.carried = [] ∨
      record.deleted = false ∧ (record.phase = .preactivation ∨ record.phase = .deactivated) ∧
        r'.lookup (caller.tenant, id) = some (record.enter Keystore.inUse) := by
  obtain ⟨u, v, shown, rfl, rfl, read⟩ := run_fetch_ok h
  have before : ∀ now ∈ clockReadings u, date < now := by
    intro now shows
    have within : ⟨.now, now⟩ ∈ u ++ v := List.mem_append_left v (mem_clockReadings.1 shows)
    exact late now (mem_clockReadings.2 within)
  refine (run_read_late apart filed bare found expires read before).imp_left fun none => ?_
  rw [Reply.carried, none, Option.toList_none]

/-- Whatever has been requested before of a custodian over either keystore, and whatever fails: a fetch
while the clock is past the expiration date of the record carries no material, unless the record waits
or has been deactivated. Then the record is in use afterwards, so that a fetch that follows, still past
that date, carries none. -/
theorem late_fetch_withholds {requests : List Request} {xs : List (Except Error Reply)} {date : Instant}
    {reply : Reply} (either : k = Action.memoryKeystore tries ∨ k = Action.barbicanKeystore tries)
    (h : Run (Catalog.Records.world .any) ((Action.custodian k).performAll requests) [] t xs r)
    (found : r.lookup (caller.tenant, id) = some record) (expires : record.expiration = some date)
    (fetched : Run (Catalog.Records.world .any) ((Action.custodian k).perform (.fetch caller id)) r u
      (.ok reply) r')
    (late : ∀ now ∈ clockReadings u, date < now) :
    reply.carried = [] ∨
      record.deleted = false ∧ (record.phase = .preactivation ∨ record.phase = .deactivated) ∧
        r'.lookup (caller.tenant, id) = some (record.enter Keystore.inUse) ∧
        ∀ v next r'', Run (Catalog.Records.world .any) ((Action.custodian k).perform
          (.fetch caller id)) r' v (.ok next) r'' →
            (∀ now ∈ clockReadings v, date < now) → next.carried = [] := by
  have apart := Keystore.apart_of_either either
  have start : Catalog.Records.Filed [] ∧ Catalog.Records.Bare [] :=
    ⟨Catalog.Records.sound_empty.toFiled, List.forall_mem_nil _⟩
  obtain ⟨filed, bare⟩ := Catalog.Records.filed_bare start h
  obtain withheld | ⟨standing, spared, inUse⟩ :=
    run_fetch_late apart filed bare found expires fetched late
  · exact .inl withheld
  refine .inr ⟨standing, spared, inUse, fun v next r'' again late => ?_⟩
  obtain ⟨filed, bare⟩ := Catalog.Records.filed_bare ⟨filed, bare⟩ fetched
  obtain withheld | ⟨-, waits | deactivated, -⟩ :=
    run_fetch_late apart filed bare inUse expires again late
  · exact withheld
  · cases waits
  · cases deactivated

/-- A secret is fetched twice after its expiration date. The first read deactivates it and withholds its
material; the second finds it deactivated and returns the material. -/
theorem late_fetch_of_deactivated_returns :
    let caller : Caller := ⟨⟨"s", "o"⟩, "c", none⟩
    let secret : Secret :=
      { Secret.named "key" with payload := some ⟨"material"⟩, expiration := some ⟨0, 0⟩ }
    let c := Action.custodian (Action.memoryKeystore 1)
    let fetch := c.perform (.fetch caller "k")
    let e := ((c.performAll [.create caller secret true, .fetch caller "k"]).run
      Supply.counting.answer {}).2
    (e.records.lookup (caller.tenant, "k")).bind Secret.expiration = some ⟨0, 0⟩ ∧
      (∀ now ∈ clockReadings (fetch.trace Supply.counting.answer e), ⟨0, 0⟩ < now) ∧
      ((fetch.run Supply.counting.answer e).1.toOption.map Reply.carried) = some [⟨"material"⟩] := by
  decide +kernel

/-- The first of these reads finds the record in use, so that it withholds the material. -/
theorem late_fetch_withholds_of_active :
    let caller : Caller := ⟨⟨"s", "o"⟩, "c", none⟩
    let secret : Secret :=
      { Secret.named "key" with payload := some ⟨"material"⟩, expiration := some ⟨0, 0⟩ }
    let c := Action.custodian (Action.memoryKeystore 1)
    let e := ((c.performAll [.create caller secret true]).run Supply.counting.answer {}).2
    ∃ record reply, e.records.lookup (caller.tenant, "k") = some record ∧
      record.phase = .activation ∧ record.expiration = some ⟨0, 0⟩ ∧
      ((c.perform (.fetch caller "k")).run Supply.counting.answer e).1 = .ok reply ∧
      reply.carried = [] := by
  intro caller secret c e
  let t := (c.perform (.fetch caller "k")).trace Supply.counting.answer e
  have created := Run.of_answers Supply.counting.world_answer
    (c.performAll [.create caller secret true]) {}
  have fetched := Run.of_answers Supply.counting.world_answer (c.perform (.fetch caller "k")) e
  have stands : (e.records.lookup (caller.tenant, "k")).isSome = true := by decide +kernel
  have active : ∀ record ∈ e.records.lookup (caller.tenant, "k"),
      record.phase = .activation ∧ record.expiration = some ⟨0, 0⟩ := by decide +kernel
  have late : ∀ now ∈ clockReadings t, ⟨0, 0⟩ < now := by decide +kernel
  have answers : ((c.perform (.fetch caller "k")).run Supply.counting.answer e).1.isOk = true := by
    decide +kernel
  obtain ⟨record, found⟩ := Option.isSome_iff_exists.1 stands
  obtain ⟨phase, expires⟩ := active record found
  cases answered : ((c.perform (.fetch caller "k")).run Supply.counting.answer e).1 with
  | error _ =>
    rw [answered] at answers
    cases answers
  | ok reply =>
    rw [answered] at fetched
    refine ⟨record, reply, found, phase, expires, rfl, ?_⟩
    obtain withheld | ⟨-, waits | deactivated, -⟩ :=
      late_fetch_withholds (.inl rfl) (Supply.run_records created) found expires
        (Supply.run_records fetched) late
    · exact withheld
    · cases phase.symm.trans waits
    · cases phase.symm.trans deactivated

end Custodian

end KeyCustody

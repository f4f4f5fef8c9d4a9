import KeyCustody.Proofs.Custodian.Visibility
import KeyCustody.Proofs.Keystore.Lawful
import KeyCustody.Proofs.Plant

/-!
# Fetching a secret and listing it

A fetch asks the keystore about its secret in every phase, a listing only while it waits for its material.
Where no call fails both leave the same record: in any other phase it does not matter what the keystore
reports, unless that is that there will be no material.
-/

namespace KeyCustody

open Program
open Barbican (OrderStatus)
open Catalog (Records)
open Registry (Entry Store)
open Time (Instant)

variable {tries : Nat} {f g : Fault} {caller : Caller} {id : String} {t t' u : Trace}

/-- The phase of a secret that its order is all there is of. -/
def Barbican.OrderStatus.phase : OrderStatus → Phase
  | active _ => .activation
  | pending => .preactivation
  | failed _ => .destroyed

namespace Keystore.Networked

/-- The phase reported of an entry that stands for this. -/
def Resolution.phase : Resolution → Phase
  | ready _ => .activation
  | pending => .preactivation
  | failed => .destroyed

/-! ## Looking without failures -/

section
variable {σ α : Type} {w : World σ} {y y' : σ}

/-- How an identifier is looked at. -/
inductive Looks (w : World σ) (caller : Caller) (id : String) (y : σ) : Trace → Resolution → σ → Prop
  | named {e : Entry} {y' : σ} (got : w (.getEntry caller.tenant id) y (.ok e) y') (settled : e.pending? = none) :
      Looks w caller id y [⟨.getEntry caller.tenant id, .ok e⟩] (.ready e) y'
  | waiting {e : Entry} {order : String} {y₁ y' : σ} (got : w (.getEntry caller.tenant id) y (.ok e) y₁)
      (pending : e.pending? = some order) (told : w (.checkOrder caller order) y₁ (.ok .pending) y') :
      Looks w caller id y
        [⟨.getEntry caller.tenant id, .ok e⟩, ⟨.checkOrder caller order, .ok .pending⟩] .pending y'
  | failed {e : Entry} {order : String} {reason : Option String} {y₁ y' : σ}
      (got : w (.getEntry caller.tenant id) y (.ok e) y₁) (pending : e.pending? = some order)
      (told : w (.checkOrder caller order) y₁ (.ok (.failed reason)) y') :
      Looks w caller id y
        [⟨.getEntry caller.tenant id, .ok e⟩, ⟨.checkOrder caller order, .ok (.failed reason)⟩] .failed y'
  | promoted {e : Entry} {order ref : String} {y₁ y₂ y' : σ}
      (got : w (.getEntry caller.tenant id) y (.ok e) y₁) (pending : e.pending? = some order)
      (told : w (.checkOrder caller order) y₁ (.ok (.active ref)) y₂)
      (written : w (.updateEntry caller.tenant { e with secretRef := some ref }) y₂ (.ok ()) y') :
      Looks w caller id y
        [⟨.getEntry caller.tenant id, .ok e⟩, ⟨.checkOrder caller order, .ok (.active ref)⟩,
          ⟨.updateEntry caller.tenant { e with secretRef := some ref }, .ok ()⟩]
        (.ready { e with secretRef := some ref }) y'

/-- A call that does not fail is made once. -/
theorem run_retry_unfailed {operation : String} {attempt : ExceptT Error Action α} {r : Except Error α}
    (event : Except Error α → Event) (once : ∀ s t x s', Run w attempt.run s t x s' → t = [event x])
    (fails : ∀ e, (event (.error e)).call.Fails (event (.error e)).answer) (unfailed : Unfailed t)
    (h : Run w (retry Action.count operation attempt).run y t r y') :
    Run w attempt.run y t r y' ∧ ∃ a, r = .ok a :=
  Retry.run_attempts_once once (fun e member => unfailed _ member (fails e)) h

theorem run_promote_unfailed {e : Entry} {order : String} {a : Unit} (unfailed : Unfailed t)
    (h : Run w (promote Action.registry (Call.barbican Action.make) Action.count caller e order) y t a y') :
    t = [⟨.updateEntry caller.tenant e, .ok ()⟩] ∧ w (.updateEntry caller.tenant e) y (.ok ()) y' := by
  obtain ⟨_, x, _, _, rfl, tried, ended⟩ := Run.bind_iff.1 h
  obtain ⟨asked, _, rfl⟩ := run_retry_unfailed (⟨.updateEntry caller.tenant e, ·⟩)
    (fun _ _ _ _ asked => (Run.ask_iff.1 asked).1) (fun e => ⟨e, rfl⟩) (unfailed_append.1 unfailed).1 tried
  obtain ⟨rfl, written⟩ := Run.ask_iff.1 asked
  obtain ⟨rfl, -, rfl⟩ := Run.pure_iff.1 ended
  exact ⟨rfl, written⟩

theorem looks_of_run {r : Except Error Resolution} (unfailed : Unfailed t)
    (h : Run w (look Action.registry (Call.barbican Action.make) Action.count caller id).run y t r y') :
    ∃ found, r = .ok found ∧ Looks w caller id y t found y' := by
  have translated : ∀ {u x y₁}, Unfailed u →
      Run w (retry Action.count "translate_id" (Action.registry.get caller.tenant id)).run y u x y₁ →
        ∃ e, x = .ok e ∧ u = [⟨.getEntry caller.tenant id, .ok e⟩] ∧ w (.getEntry caller.tenant id) y (.ok e) y₁ := by
    intro u x y₁ unfailed tried
    obtain ⟨asked, e, rfl⟩ := run_retry_unfailed (⟨.getEntry caller.tenant id, ·⟩)
      (fun _ _ _ _ asked => (Run.ask_iff.1 asked).1) (fun e => ⟨e, rfl⟩) unfailed tried
    obtain ⟨rfl, got⟩ := Run.ask_iff.1 asked
    exact ⟨e, rfl, rfl, got⟩
  obtain ⟨e, rfl, stopped⟩ | ⟨_, e, y₁, t₁, rfl, looked, resolved⟩ := Run.bindExcept_iff.1 h
  · obtain ⟨_, same, -⟩ := translated unfailed stopped
    cases same
  obtain ⟨first, rest⟩ := unfailed_append.1 unfailed
  obtain ⟨_, same, rfl, got⟩ := translated first looked
  obtain rfl := Except.ok.inj same
  unfold resolve at resolved
  cases pending : e.pending? with
  | none =>
    simp only [pending] at resolved
    obtain ⟨rfl, rfl, rfl⟩ := Run.pureExcept_iff.1 resolved
    exact ⟨_, rfl, .named got pending⟩
  | some order =>
    simp only [pending] at resolved
    have polled : ∀ {u x y₂}, Unfailed u → Run w (retry Action.count "check_order"
        ((Call.barbican Action.make).checkOrder caller order)).run y₁ u x y₂ →
          ∃ status, x = .ok status ∧ u = [⟨.checkOrder caller order, .ok status⟩] ∧
            w (.checkOrder caller order) y₁ (.ok status) y₂ := by
      intro u x y₂ unfailed tried
      obtain ⟨asked, status, rfl⟩ := run_retry_unfailed (⟨.checkOrder caller order, ·⟩)
        (fun _ _ _ _ asked => (Run.ask_iff.1 asked).1) (fun e => ⟨e, rfl⟩) unfailed tried
      obtain ⟨rfl, told⟩ := Run.ask_iff.1 asked
      exact ⟨status, rfl, rfl, told⟩
    obtain ⟨error, rfl, stopped⟩ | ⟨_, status, y₂, t₂, rfl, asked, ended⟩ := Run.bindExcept_iff.1 resolved
    · obtain ⟨_, same, -⟩ := polled rest stopped
      cases same
    obtain ⟨second, last⟩ := unfailed_append.1 rest
    obtain ⟨_, same, rfl, told⟩ := polled second asked
    obtain rfl := Except.ok.inj same
    cases status with
    | pending =>
      obtain ⟨rfl, rfl, rfl⟩ := Run.pureExcept_iff.1 ended
      exact ⟨_, rfl, .waiting got pending told⟩
    | failed reason =>
      obtain ⟨rfl, rfl, rfl⟩ := Run.pureExcept_iff.1 ended
      exact ⟨_, rfl, .failed got pending told⟩
    | active ref =>
      obtain ⟨_, _, _, _, rfl, wrote, passed⟩ := Run.bindLift_iff.1 ended
      obtain ⟨rfl, rfl, rfl⟩ := Run.pureExcept_iff.1 passed
      rw [List.append_nil] at last ⊢
      obtain ⟨rfl, written⟩ := run_promote_unfailed last wrote
      exact ⟨_, rfl, .promoted got pending told written⟩

theorem run_check_unfailed {r : Except Error Phase} (unfailed : Unfailed t)
    (h : Run w ((Action.barbicanKeystore tries).check caller id).run y t r y') :
    ∃ found, r = .ok found.phase ∧ Looks w caller id y t found y' := by
  obtain ⟨e, rfl, stopped⟩ | ⟨_, found, _, _, rfl, looked, ended⟩ := Run.bindExcept_iff.1 h
  · obtain ⟨_, same, -⟩ := looks_of_run unfailed stopped
    cases same
  obtain ⟨_, same, looks⟩ := looks_of_run (unfailed_append.1 unfailed).1 looked
  obtain rfl := Except.ok.inj same
  refine ⟨found, ?_⟩
  cases found with
  | ready | pending | failed =>
    obtain ⟨rfl, rfl, rfl⟩ := Run.pureExcept_iff.1 ended
    rw [List.append_nil]
    exact ⟨rfl, looks⟩

end

/-! ## What is reported -/

section
variable {s s' : Store} {found : Resolution} {phase phase' : Phase}

/-- The phase of an identifier: its entry names its secret, or its order tells. -/
inductive Reports (s : Store) (caller : Caller) (id : String) (t : Trace) : Phase → Prop
  | named {e : Entry} (stands : s.get caller.tenant id = .ok e) (settled : e.pending? = none) :
      Reports s caller id t .activation
  | told {e : Entry} {order : String} {status : OrderStatus} (stands : s.get caller.tenant id = .ok e)
      (pending : e.pending? = some order) (told : ⟨.checkOrder caller order, .ok status⟩ ∈ t) :
      Reports s caller id t status.phase

theorem Reports.mono (h : Reports s caller id t phase) (part : t ⊆ t') : Reports s caller id t' phase := by
  cases h with
  | named stands settled => exact .named stands settled
  | told stands pending told => exact .told stands pending (part told)

theorem Reports.congr (h : Reports s caller id t phase)
    (same : s.get caller.tenant id = s'.get caller.tenant id) : Reports s' caller id t phase := by
  cases h with
  | named stands settled => exact .named (same ▸ stands) settled
  | told stands pending told => exact .told (same ▸ stands) pending told

/-- Where the order of an entry is answered alike, the same is reported. -/
theorem Reports.once (h : Reports s caller id t phase) (h' : Reports s caller id u phase')
    (alike : ∀ e order a b, s.get caller.tenant id = .ok e → e.pending? = some order →
      ⟨.checkOrder caller order, a⟩ ∈ t → ⟨.checkOrder caller order, b⟩ ∈ u → a = b) : phase = phase' := by
  cases h with
  | named stands settled =>
    cases h' with
    | named => rfl
    | told stands' pending =>
      obtain rfl := Except.ok.inj (stands.symm.trans stands')
      cases settled.symm.trans pending
  | told stands pending told =>
    cases h' with
    | named stands' settled =>
      obtain rfl := Except.ok.inj (stands.symm.trans stands')
      cases settled.symm.trans pending
    | told stands' pending' told' =>
      obtain rfl := Except.ok.inj (stands.symm.trans stands')
      obtain rfl := Option.some.inj (pending.symm.trans pending')
      exact congrArg OrderStatus.phase (Except.ok.inj (alike _ _ _ _ stands pending told told'))

theorem got_of_world {e : Entry} (got : Store.world f (.getEntry caller.tenant id) s (.ok e) s') :
    s.get caller.tenant id = .ok e ∧ s' = s := by
  have admitted : f.Admits (s.get caller.tenant id, s) s (.ok e) s' := got
  obtain ⟨stands, rfl⟩ := Prod.mk.inj admitted.ok
  exact ⟨stands, rfl⟩

theorem Looks.reports (h : Looks (Store.world f) caller id s t found s') :
    Reports s caller id t found.phase := by
  cases h with
  | named got settled => exact .named (got_of_world got).1 settled
  | @waiting e order _ _ got pending =>
    exact @Reports.told _ _ _ _ e order .pending (got_of_world got).1 pending (by simp)
  | @failed e order reason _ _ got pending =>
    exact @Reports.told _ _ _ _ e order (.failed reason) (got_of_world got).1 pending (by simp)
  | @promoted e order ref _ _ _ got pending =>
    exact @Reports.told _ _ _ _ e order (.active ref) (got_of_world got).1 pending (by simp)

/-- Looking leaves what stands under other identifiers. -/
theorem Looks.others (h : Looks (Store.world f) caller id s t found s') (sound : s.Sound) :
    s'.Sound ∧ ∀ id', id' ≠ id → s'.get caller.tenant id' = s.get caller.tenant id' := by
  cases h with
  | named got =>
    obtain ⟨-, rfl⟩ := got_of_world got
    exact ⟨sound, fun _ _ => rfl⟩
  | waiting got _ told | failed got _ told =>
    obtain ⟨-, rfl⟩ := got_of_world got
    obtain rfl := told
    exact ⟨sound, fun _ _ => rfl⟩
  | @promoted e _ ref s₁ s₂ _ got _ told written =>
    obtain ⟨stands, rfl⟩ := got_of_world got
    obtain rfl : s₂ = s₁ := told
    have admitted : f.Admits (s₂.update caller.tenant { e with secretRef := some ref }) s₂ (.ok ()) s' := written
    have entered := Store.enters_update admitted.ok
    have own : e.issuedId = id := sound.issuedId stands
    refine ⟨entered.sound sound, fun id' different => entered.get_other sound fun same => different ?_⟩
    exact (Prod.mk.inj same).2.trans own

/-- What is ready names its secret. -/
theorem Looks.secret? {e : Entry} (h : Looks (Store.world f) caller id s t (.ready e) s') (named : Named t) :
    ∃ ref, e.secret? = some ref := by
  cases h with
  | named got settled => exact Store.secret?_of_get (got_of_world got).1 settled
  | @promoted e order ref =>
    have present : ref ≠ "" := by
      have told := named ⟨.checkOrder caller order, .ok (.active ref)⟩ (by simp)
      simpa [refers] using told
    exact ⟨ref, Entry.secret?_named e present⟩

theorem run_payload_unfailed {r : Except Error Observation} (unfailed : Unfailed t) (named : Named t)
    (h : Run (Store.world f) ((Action.barbicanKeystore tries).payload caller id).run s t r s') :
    ∃ o, r = .ok o ∧ Reports s caller id t o.phase := by
  obtain ⟨e, rfl, stopped⟩ | ⟨t₁, found, s₁, t₂, rfl, looked, ended⟩ := Run.bindExcept_iff.1 h
  · obtain ⟨_, same, -⟩ := looks_of_run unfailed stopped
    cases same
  obtain ⟨first, rest⟩ := unfailed_append.1 unfailed
  obtain ⟨_, same, looks⟩ := looks_of_run first looked
  obtain rfl := Except.ok.inj same
  have reports : Reports s caller id (t₁ ++ t₂) found.phase :=
    looks.reports.mono (List.subset_append_left t₁ t₂)
  cases found with
  | pending | failed =>
    obtain ⟨rfl, rfl, rfl⟩ := Run.pureExcept_iff.1 ended
    exact ⟨_, rfl, reports⟩
  | ready e =>
    obtain ⟨ref, given⟩ := looks.secret? (List.forall_mem_append.1 named).1
    change Run _ (fetch _ _ caller e).run _ _ _ _ at ended
    unfold fetch at ended
    simp only [given] at ended
    obtain ⟨error, rfl, stopped⟩ | ⟨_, material, _, _, rfl, fetched, passed⟩ := Run.bindExcept_iff.1 ended
    · obtain ⟨-, _, same⟩ := run_retry_unfailed
        (⟨.getPayload caller ref (if e.isGenerated then .bytes else .text), ·⟩)
        (fun _ _ _ _ asked => (Run.ask_iff.1 asked).1) (fun e => ⟨e, rfl⟩) rest stopped
      cases same
    · obtain ⟨-, rfl, -⟩ := Run.pureExcept_iff.1 passed
      exact ⟨_, rfl, reports⟩

end

end Keystore.Networked

/-! ## Verdicts -/

namespace Secret

variable {s : Secret} {v : Verdict} {now : Instant}

/-- What is reported of a secret that does not wait for its material does not matter, unless there will be
none. -/
theorem assess_unasked {observed : Option Phase} (settled : s.phase ≠ .preactivation)
    (seen : observed ≠ some .destroyed) : s.assess observed now = s.assess none now := by
  unfold assess
  simp [settled, seen]

theorem settledTo_destroyed {observed : Option Phase} (destroyed : s.phase = .destroyed) :
    s.settledTo (s.assess observed now) = s := by
  unfold settledTo
  rw [finding_iff.1 (.final destroyed)]
  rfl

end Secret

section
variable {r r' : Records} {s : Secret} {v : Verdict} {x : Except Error Unit × Secret}

theorem Lifecycle.run_write_unfailed {stored : Secret} (found : r.lookup (caller.tenant, s.id) = some stored)
    (unfailed : Unfailed t)
    (h : Run (Records.world g) (write Action.catalog Action.count caller s v) r t x r') :
    r'.lookup (caller.tenant, s.id) = some (stored.enter v.change) := by
  obtain ⟨_, y, r₁, _, rfl, asked, ended⟩ := Run.bind_iff.1 h
  obtain ⟨rfl, answered⟩ := Run.ask_iff.1 asked
  have admitted : g.Admits (r.change caller.tenant s.id v.change) r y r₁ := answered
  cases y with
  | error e => exact absurd ⟨e, rfl⟩ (unfailed _ List.mem_cons_self)
  | ok _ =>
    obtain ⟨_, _, _, _, rfl, counted, passed⟩ := Run.bind_iff.1 ended
    obtain ⟨rfl, rfl⟩ := Run.ask_iff.1 counted
    obtain ⟨-, -, rfl⟩ := Run.pure_iff.1 passed
    have written : r' = (r.change caller.tenant s.id v.change).2 := (congrArg Prod.snd admitted.ok).symm
    rw [written, Records.change_of_lookup found]
    exact Records.lookup_put_self

theorem Lifecycle.run_settle_unfailed (found : r.lookup (caller.tenant, s.id) = some s) (unfailed : Unfailed t)
    (h : Run (Records.world g) (settle Action.catalog Action.count caller s v) r t x r') :
    r'.lookup (caller.tenant, s.id) = some (s.settledTo v) := by
  unfold Secret.settledTo
  cases changed : v.changed with
  | false =>
    rw [settle_unchanged changed] at h
    obtain ⟨-, -, rfl⟩ := Run.pure_iff.1 h
    exact found
  | true =>
    cases failed : v.generationFailed with
    | false =>
      rw [settle_changed changed failed] at h
      rw [run_write_unfailed found unfailed h, Bool.or_false]
      rfl
    | true =>
      rw [settle_failed changed failed] at h
      obtain ⟨_, y, r₁, _, rfl, asked, ended⟩ := Run.bind_iff.1 h
      obtain ⟨rfl, answered⟩ := Run.ask_iff.1 asked
      have admitted : g.Admits (r.delete caller.tenant s.id) r y r₁ := answered
      rw [Records.delete_of_lookup found] at admitted
      cases y with
      | error e => exact absurd ⟨e, rfl⟩ (unfailed _ List.mem_cons_self)
      | ok _ =>
        obtain ⟨-, rfl⟩ := Prod.mk.inj admitted.ok
        rw [run_write_unfailed (s := { s with deleted := true }) Records.lookup_put_self
          (unfailed_append.1 unfailed).2 ended, Bool.or_true]
        rfl

end

namespace Custodian

open Keystore.Networked (Reports)

variable {q : Catalog.Query} {s s' s₁ s₂ : Store} {r r' r₁ r₂ : Records} {record : Secret} {now : Instant}

theorem reports_spared {phase : Phase} (h : Reports s caller id t phase) (spared : ∀ v ∈ t, condemns v = false) :
    phase ≠ .destroyed := by
  cases h with
  | named => nofun
  | @told _ order status _ _ told =>
    cases status with
    | active | pending => nofun
    | failed => cases spared _ told

/-! ## Fetching -/

/-- A fetch leaves a destroyed record, and settles any other on what its keystore reports. -/
theorem run_fetch_unfailed {reply : Except Error Reply}
    (found : r.lookup (caller.tenant, record.id) = some record) (standing : record.deleted = false)
    (unfailed : Unfailed t) (named : Keystore.Named t)
    (h : Run (both (Store.world f) (Records.world g))
      ((Action.custodian (Action.barbicanKeystore tries)).perform (.fetch caller record.id)) (s, r) t reply
        (s', r')) :
    (record.phase = .destroyed ∧ r'.lookup (caller.tenant, record.id) = some record) ∨
      ∃ now phase, ⟨.now, now⟩ ∈ t ∧ Reports s caller record.id t phase ∧
        r'.lookup (caller.tenant, record.id) = some (record.settledTo (record.assess (some phase) now)) := by
  obtain ⟨y, -, fetched⟩ := Run.mapped_iff.1 h
  obtain ⟨u, ⟨_, r₃⟩, rfl, read, counted⟩ := run_counted_iff.1 fetched
  obtain rfl : r' = r₃ := counted.2
  obtain ⟨unfailed, -⟩ := unfailed_append.1 unfailed
  obtain ⟨named, -⟩ := List.forall_mem_append.1 named
  have looked : ∀ {y : Except Error (Option Secret)} {z : Store × Records},
      both (Store.world f) (Records.world g) (.getRecord caller record.id) (s, r) y z →
        (∃ e, y = .error e) ∨ y = .ok (some record) ∧ z = (s, r) := by
    rintro y ⟨s₁, r₁⟩ ⟨same, answered⟩
    obtain rfl : s₁ = s := same
    have admitted : g.Admits (.ok (r.get caller.tenant record.id), r) r y r₁ := answered
    obtain ⟨rfl, rfl | failed⟩ := admitted.lookup
    · exact .inr ⟨congrArg Except.ok found, rfl⟩
    · exact .inl failed
  cases fetched_of_run read with
  | unknown got none =>
    obtain ⟨e, rfl⟩ | ⟨rfl, -⟩ := looked got
    · exact absurd ⟨e, rfl⟩ (unfailed _ List.mem_cons_self)
    · exact absurd rfl (none record)
  | destroyed got destroyed =>
    obtain ⟨e, same⟩ | ⟨same, left⟩ := looked got
    · cases same
    · obtain rfl := Option.some.inj (Except.ok.inj same)
      obtain ⟨-, rfl⟩ := Prod.mk.inj left
      exact .inl ⟨destroyed, found⟩
  | unseen got _ failed =>
    obtain ⟨e, same⟩ | ⟨same, rfl⟩ := looked got
    · cases same
    · obtain ⟨_, same, -⟩ := Keystore.Networked.run_payload_unfailed (List.forall_mem_cons.1 unfailed).2
        (List.forall_mem_cons.1 named).2 failed.left
      cases same
  | @settled _ observed now outcome t₁ t₂ _ y₂ y₃ _ got alive seen dated settled =>
    obtain ⟨e, same⟩ | ⟨same, rfl⟩ := looked got
    · cases same
    obtain rfl := (Option.some.inj (Except.ok.inj same)).symm
    obtain ⟨-, rest⟩ := List.forall_mem_cons.1 unfailed
    obtain ⟨first, later⟩ := List.forall_mem_append.1 rest
    cases seen with
    | unasked gone => cases standing.symm.trans gone
    | @asked o _ _ _ ran =>
      obtain ⟨_, same, reports⟩ := Keystore.Networked.run_payload_unfailed first
        (List.forall_mem_append.1 (List.forall_mem_cons.1 named).2).1 ran.left
      obtain rfl := Except.ok.inj same
      have kept : y₃.2 = r :=
        (world_eq rfl dated.2).trans (run_apart ((Keystore.apart_barbicanKeystore tries).payload _ _) ran.right).1
      have current : y₃.2.lookup (caller.tenant, record.id) = some record := kept ▸ found
      refine .inr ⟨now, o.phase, by simp, reports.mono ?_, ?_⟩
      · intro v member
        simp [member]
      · exact Lifecycle.run_settle_unfailed current (List.forall_mem_cons.1 later).2 settled.right

/-! ## Listing -/

/-- What is observed of a secret: something only if it waits for its material. -/
inductive Observed (s : Store) (caller : Caller) (record : Secret) (t : Trace) : Option Phase → Prop
  | unasked (settled : record.phase ≠ .preactivation) : Observed s caller record t none
  | asked {phase : Phase} (waiting : record.phase = .preactivation)
      (reports : Reports s caller record.id t phase) : Observed s caller record t (some phase)

theorem Observed.mono {observed : Option Phase} (h : Observed s caller record t observed) (part : t ⊆ t') :
    Observed s caller record t' observed := by
  cases h with
  | unasked settled => exact .unasked settled
  | asked waiting reports => exact .asked waiting (reports.mono part)

theorem Observed.congr {observed : Option Phase} (h : Observed s caller record t observed)
    (same : s.get caller.tenant record.id = s'.get caller.tenant record.id) :
    Observed s' caller record t observed := by
  cases h with
  | unasked settled => exact .unasked settled
  | asked waiting reports => exact .asked waiting (reports.congr same)

theorem run_observe_unfailed {observed : Option Phase} (sound : s.Sound) (unfailed : Unfailed t)
    (h : Run (Store.world f) (Lifecycle.observe ((Action.barbicanKeystore tries).check caller) record) s t
      observed s') :
    Observed s caller record t observed ∧ s'.Sound ∧
      ∀ id, id ≠ record.id → s'.get caller.tenant id = s.get caller.tenant id := by
  unfold Lifecycle.observe at h
  by_cases waiting : record.phase = .preactivation
  · rw [if_neg (not_not.2 waiting)] at h
    obtain ⟨_, x, _, _, rfl, checked, passed⟩ := Run.bind_iff.1 h
    obtain ⟨rfl, rfl, rfl⟩ := Run.pure_iff.1 passed
    rw [List.append_nil] at unfailed ⊢
    obtain ⟨found, rfl, looks⟩ := Keystore.Networked.run_check_unfailed unfailed checked
    exact ⟨.asked waiting looks.reports, looks.others sound⟩
  · rw [if_pos waiting] at h
    obtain ⟨-, rfl, rfl⟩ := Run.pure_iff.1 h
    exact ⟨.unasked waiting, sound, fun _ _ => rfl⟩

/-- Each secret of a page is observed as if it were the only one. -/
theorem run_observeAll_unfailed {page : List Secret} {observed : List (Option Phase)} (sound : s.Sound)
    (once : (page.map Secret.id).Nodup) (unfailed : Unfailed t)
    (h : Run (Store.world f) (page.mapM (Lifecycle.observe ((Action.barbicanKeystore tries).check caller))) s t
      observed s') :
    ∀ p ∈ page.zip observed, Observed s caller p.1 t p.2 := by
  induction page generalizing s t observed with
  | nil => exact List.forall_mem_nil _
  | cons record page ih =>
    obtain ⟨fresh, once⟩ := List.nodup_cons.1 once
    obtain ⟨t₁, o, s₁, t₂, others, rfl, rfl, first, remaining⟩ := Run.mapM_cons_iff.1 h
    obtain ⟨unfailed₁, later⟩ := unfailed_append.1 unfailed
    obtain ⟨mine, sound₁, kept⟩ := run_observe_unfailed sound unfailed₁ first
    refine List.forall_mem_cons.2 ⟨mine.mono (List.subset_append_left _ _), fun p member => ?_⟩
    have different : p.1.id ≠ record.id := fun same =>
      fresh (List.mem_map.2 ⟨p.1, (List.of_mem_zip member).1, same⟩)
    have seen := ih sound₁ once later remaining p member
    refine (seen.congr (kept _ different)).mono fun v member => ?_
    simp [member]

/-- Every record of a page is settled on what was observed of it. -/
theorem run_settleAll_unfailed {pairs : List (Secret × Option Phase)} {secrets : List Secret}
    (current : ∀ p ∈ pairs, r.lookup (caller.tenant, p.1.id) = some p.1)
    (once : (pairs.map fun p => p.1.id).Nodup) (unfailed : Unfailed t)
    (h : Run (Records.world g) (pairs.mapM fun p =>
      return (← Lifecycle.settle Action.catalog Action.count caller p.1 (p.1.assess p.2 now)).2 :
      Action (List Secret)) r t secrets r') :
    ∀ p ∈ pairs, r'.lookup (caller.tenant, p.1.id) = some (p.1.settledTo (p.1.assess p.2 now)) := by
  induction pairs generalizing r t secrets with
  | nil => exact List.forall_mem_nil _
  | cons p pairs ih =>
    obtain ⟨mine, others⟩ := List.forall_mem_cons.1 current
    obtain ⟨fresh, once⟩ := List.nodup_cons.1 once
    obtain ⟨_, _, r₁, _, _, rfl, -, settled, remaining⟩ := Run.mapM_mapped_cons h
    obtain ⟨first, later⟩ := unfailed_append.1 unfailed
    have kept := Lifecycle.run_settle_state mine settled
    have still : ∀ p' ∈ pairs, r₁.lookup (caller.tenant, p'.1.id) = some p'.1 := by
      intro p' member
      have different : p'.1.id ≠ p.1.id := fun same => fresh (List.mem_map.2 ⟨p', member, same⟩)
      rw [kept.lookup_other (by simp [different])]
      exact others p' member
    refine List.forall_mem_cons.2 ⟨?_, ih still once later remaining⟩
    -- the records that come after leave the first one
    have apart : r'.lookup (caller.tenant, p.1.id) = r₁.lookup (caller.tenant, p.1.id) := by
      refine run_settleAll_state (R := fun r r' =>
        r'.lookup (caller.tenant, p.1.id) = r.lookup (caller.tenant, p.1.id)) (fun _ => rfl)
        (fun _ _ _ first rest => rest.trans first) ?_ still once remaining
      intro p' member r r' _ settled
      exact settled.lookup_other (by simpa using fun same => fresh (List.mem_map.2 ⟨p', member, same.symm⟩))
    rw [apart]
    exact Lifecycle.run_settle_unfailed mine first settled

/-- A listing settles every record of its page on what was observed of it. -/
theorem run_list_unfailed {reply : Except Error Reply} (sound : s.Sound) (filed : r.Filed)
    (member : record ∈ r.list caller.tenant q) (valid : q.validate = .ok ()) (unfailed : Unfailed t)
    (h : Run (both (Store.world f) (Records.world g))
      ((Action.custodian (Action.barbicanKeystore tries)).perform (.list caller q)) (s, r) t reply (s', r')) :
    ∃ now observed, ⟨.now, now⟩ ∈ t ∧ Observed s caller record t observed ∧
      r'.lookup (caller.tenant, record.id) = some (record.settledTo (record.assess observed now)) := by
  obtain ⟨y, -, listed⟩ := Run.mapped_iff.1 h
  obtain ⟨u, ⟨_, r₃⟩, rfl, read, counted⟩ := run_counted_iff.1 listed
  obtain rfl : r' = r₃ := counted.2
  obtain ⟨unfailed, -⟩ := unfailed_append.1 unfailed
  cases listed_of_run read with
  | malformed invalid => exact absurd valid invalid
  | @unlisted e => exact absurd ⟨e, rfl⟩ (unfailed _ List.mem_cons_self)
  | @settled page secrets now observed t₁ t₂ y₁ y₂ y₃ _ given dated checked settled =>
    have admitted : g.Admits (.ok (r.list caller.tenant q), r) r (.ok page) y₁.2 := given.2
    obtain ⟨same, kept⟩ := Prod.mk.inj admitted.ok
    obtain rfl := Except.ok.inj same
    have store : y₂.1 = s := Eq.trans (b := y₁.1) dated.1 given.1
    have records : y₃.2 = r := by
      rw [(run_apart (keeps_observe ((Keystore.apart_barbicanKeystore tries).check caller) _) checked.right).1,
        world_eq rfl dated.2, ← kept]
    obtain ⟨current, once⟩ := filed.list caller.tenant q
    obtain ⟨-, unfailed⟩ := List.forall_mem_cons.1 unfailed
    obtain ⟨first, later⟩ := List.forall_mem_append.1 (List.forall_mem_cons.1 unfailed).2
    obtain ⟨o, zipped⟩ : ∃ o, (record, o) ∈ (r.list caller.tenant q).zip observed := by
      have firsts := List.map_fst_zip (Run.mapM_forall₂ checked).length_eq.le
      rw [← firsts] at member
      obtain ⟨⟨_, o⟩, zipped, rfl⟩ := List.mem_map.1 member
      exact ⟨o, zipped⟩
    have seen := run_observeAll_unfailed (store ▸ sound) once first checked.left _ zipped
    rw [store] at seen
    have still : ∀ p ∈ (r.list caller.tenant q).zip observed, y₃.2.lookup (caller.tenant, p.1.id) = some p.1 := by
      rw [records]
      exact fun p zipped => (current p.1 (List.of_mem_zip zipped).1).1
    have left := run_settleAll_unfailed still (nodup_zip once) later settled.right _ zipped
    refine ⟨now, o, by simp, seen.mono fun v member => ?_, left⟩
    simp [member]

/-! ## Both -/

/-- A secret on a page that waits for its material, or whose keystore does not report to a fetch that there
will be none. Where no call fails, the time is the same and the order of the secret is answered alike, the
listing leaves its record as the fetch does. -/
theorem listed_as_fetched {x y : Except Error Reply} (sound : s.Sound) (filed : r.Filed)
    (member : record ∈ r.list caller.tenant q) (valid : q.validate = .ok ())
    (fetched : Run (both (Store.world f) (Records.world g))
      ((Action.custodian (Action.barbicanKeystore tries)).perform (.fetch caller record.id)) (s, r) t x (s₁, r₁))
    (listed : Run (both (Store.world f) (Records.world g))
      ((Action.custodian (Action.barbicanKeystore tries)).perform (.list caller q)) (s, r) u y (s₂, r₂))
    (unfailed : Unfailed (t ++ u)) (named : Keystore.Named t) (timed : ∀ time, ⟨.now, time⟩ ∈ t ++ u → time = now)
    (alike : ∀ e order a b, s.get caller.tenant record.id = .ok e → e.pending? = some order →
      ⟨.checkOrder caller order, a⟩ ∈ t → ⟨.checkOrder caller order, b⟩ ∈ u → a = b)
    (spared : record.phase = .preactivation ∨ ∀ v ∈ t, condemns v = false) :
    ∃ last, r₁.lookup (caller.tenant, record.id) = some last ∧
      r₂.lookup (caller.tenant, record.id) = some last := by
  obtain ⟨found, standing⟩ := (filed.list caller.tenant q).1 record member
  obtain ⟨first, second⟩ := unfailed_append.1 unfailed
  obtain ⟨now₂, observed, dated₂, seen, left₂⟩ := run_list_unfailed sound filed member valid second listed
  obtain rfl := timed now₂ (List.mem_append_right _ dated₂)
  obtain ⟨destroyed, left₁⟩ | ⟨now₁, phase, dated₁, reports, left₁⟩ :=
    run_fetch_unfailed found standing first named fetched
  · rw [Secret.settledTo_destroyed destroyed] at left₂
    exact ⟨record, left₁, left₂⟩
  obtain rfl := timed now₁ (List.mem_append_left _ dated₁)
  refine ⟨_, left₁, left₂.trans ?_⟩
  cases seen with
  | asked _ reports' => rw [reports.once reports' alike]
  | unasked settled =>
    have seen : phase ≠ .destroyed := reports_spared reports (spared.resolve_left settled)
    rw [Secret.assess_unasked settled fun same => seen (Option.some.inj same)]

/-- A call that does not fail, at one time, and about orders that are done under one reference. -/
def plain : Event → Bool
  | ⟨.now, (time : Instant)⟩ => time = ⟨0, 0⟩
  | ⟨.checkOrder .., .ok (.active ref)⟩ => ref = "r"
  | ⟨.checkOrder .., _⟩ => false
  | v => !decide (v.call.Fails v.answer)

theorem unfailed_of_plain (plainly : ∀ v ∈ t, plain v = true) : Unfailed t := by
  rintro ⟨c, x⟩ member failed
  have told := plainly _ member
  cases c with
  | now => exact failed
  | checkOrder =>
    obtain ⟨e, rfl⟩ := failed
    cases told
  | _ => exact of_decide_eq_false (Bool.not_eq_true' _ ▸ told) failed

/-- A key whose order has been done since it was created. -/
theorem listed_as_fetched_of_ordered :
    let caller : Caller := ⟨⟨"s", "o"⟩, "c", none⟩
    let record : Secret := { Secret.named "key" with id := "k" }
    let p : Plant := {
      store := ((Store.table true []).add caller.tenant ⟨record.id, none, some "order"⟩).2
      material := [("r", ⟨"material"⟩)]
      orders := [("order", .active "r")]
      records := [((caller.tenant, record.id), record)] }
    let c := Action.custodian (Action.barbicanKeystore 1)
    let fetched := (c.perform (.fetch caller record.id)).run (Plant.answer "unknown") p
    let listed := (c.perform (.list caller ⟨10, 0⟩)).run (Plant.answer "unknown") p
    (fetched.2.records.lookup (caller.tenant, record.id)).map Secret.phase = some .activation ∧
      ∃ last, fetched.2.records.lookup (caller.tenant, record.id) = some last ∧
        listed.2.records.lookup (caller.tenant, record.id) = some last := by
  intro caller record p c fetched listed
  let t := (c.perform (.fetch caller record.id)).trace (Plant.answer "unknown") p
  let u := (c.perform (.list caller ⟨10, 0⟩)).trace (Plant.answer "unknown") p
  have first : Run (both (Store.world .any) (Records.world .any)) _ _ t _ (fetched.2.store, fetched.2.records) :=
    Plant.run_parts .any .any "unknown" _ p
  have second : Run (both (Store.world .any) (Records.world .any)) _ _ u _ (listed.2.store, listed.2.records) :=
    Plant.run_parts .any .any "unknown" _ p
  have entered : (fetched.2.records.lookup (caller.tenant, record.id)).map Secret.phase = some .activation := by
    decide +kernel
  have sound : p.store.Sound := Store.sound_add Store.sound_empty_table
  have filed : p.records.Filed := ⟨by decide, by decide⟩
  have member : record ∈ p.records.list caller.tenant ⟨10, 0⟩ := by decide +kernel
  have named : Keystore.Named t := by
    unfold Keystore.Named
    decide +kernel
  have plainly : ∀ v ∈ t ++ u, plain v = true := by decide +kernel
  have waiting : record.phase = .preactivation := rfl
  clear_value t u fetched listed record
  have timed : ∀ time : Instant, ⟨.now, time⟩ ∈ t ++ u → time = ⟨0, 0⟩ := fun time member =>
    of_decide_eq_true (plainly _ member)
  have done : ∀ caller order a, ⟨.checkOrder caller order, a⟩ ∈ t ++ u → a = .ok (.active "r") := by
    intro caller order a member
    have told := plainly _ member
    match a with
    | .ok (.active ref) => rw [of_decide_eq_true told]
    | .ok .pending | .ok (.failed _) | .error _ => cases told
  refine ⟨entered, listed_as_fetched sound filed member rfl first second (unfailed_of_plain plainly) named timed ?_
    (.inl waiting)⟩
  intro e order a b _ _ asked again
  rw [done _ _ _ (List.mem_append_left _ asked), done _ _ _ (List.mem_append_right _ again)]

end Custodian

end KeyCustody

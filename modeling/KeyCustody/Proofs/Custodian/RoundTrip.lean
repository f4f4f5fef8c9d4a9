import KeyCustody.Proofs.Catalog.Listing
import KeyCustody.Proofs.Custodian.Finality
import KeyCustody.Proofs.Custodian.InStep

/-!
# From a creation to the second destruction

Where no call fails, material that is submitted comes back with the record that is stored for it: to a
fetch within its dates, and once more to the destruction. After that the record is all there is.
-/

namespace KeyCustody

open Program
open Catalog (Records)
open Keystore (Observation)
open Registry (Entry Store)
open Time (Instant)

variable {tries : Nat} {caller : Caller} {id ref : String} {x x' : Stock} {r r' : Records} {t : Trace}
  {s : Secret} {material : Sealed}

/-! ## Keystores in memory that nothing fails in -/

theorem Stock.ref?_eq_some_iff {tenant : Tenant} :
    x.ref? tenant id = some ref ↔ ∃ e, x.store.live? tenant id = some e ∧ e.secret? = some ref :=
  Option.bind_eq_some_iff

namespace Keystore.InMemory

theorem run_get {y : Except Error Entry}
    (h : Run (Stock.world .never) (Action.registry.get caller.tenant id).run x t y x') :
    x' = x ∧ y = x.store.get caller.tenant id := by
  obtain ⟨-, answered⟩ := Run.ask_iff.1 h
  have admitted : Fault.never.Admits (x.store.get caller.tenant id, x.store) x.store y x'.store := answered.1
  exact ⟨Stock.world_eq rfl answered, congrArg Prod.fst admitted.only⟩

theorem run_reference_found {y : Except Error String} (sound : x.store.Sound)
    (names : x.ref? caller.tenant id = some ref)
    (h : Run (Stock.world .never) (reference Action.registry caller id).run x t y x') :
    x' = x ∧ y = .ok ref := by
  obtain ⟨e, stands, named⟩ := Stock.ref?_eq_some_iff.1 names
  have got : x.store.get caller.tenant id = .ok e :=
    Registry.Store.get_of_live? sound.isOpen stands (Registry.Store.isEmpty_of_live? sound.filled stands)
  obtain ⟨_, -, asked⟩ | ⟨_, e', x₁, _, -, asked, ended⟩ := Run.bindExcept_iff.1 h
  · cases (run_get asked).2.trans got
  · obtain ⟨rfl, same⟩ := run_get asked
    obtain rfl := Except.ok.inj (same.trans got)
    simp only [named] at ended
    obtain ⟨-, rfl, rfl⟩ := Run.pureExcept_iff.1 ended
    exact ⟨rfl, rfl⟩

theorem run_reference_missing {y : Except Error String} (sound : x.store.Sound)
    (missing : x.store.live? caller.tenant id = none)
    (h : Run (Stock.world .never) (reference Action.registry caller id).run x t y x') :
    x' = x ∧ y = .error (.noSecret id) := by
  have got : x.store.get caller.tenant id = .error (.noSecret id) := by
    rw [Registry.Store.get_eq, sound.isOpen, missing]
    rfl
  obtain ⟨e, rfl, asked⟩ | ⟨_, e', x₁, _, -, asked, -⟩ := Run.bindExcept_iff.1 h
  · obtain ⟨rfl, same⟩ := run_get asked
    exact ⟨rfl, congrArg Except.error (Except.error.inj (same.trans got))⟩
  · cases (run_get asked).2.trans got

theorem run_payload_held {y : Except Error Observation} (sound : x.store.Sound)
    (names : x.ref? caller.tenant id = some ref) (held : x.material.lookup ref = some material)
    (h : Run (Stock.world .never) ((Action.memoryKeystore tries).payload caller id).run x t y x') :
    x' = x ∧ y = .ok (.active material) := by
  obtain ⟨_, -, referred⟩ | ⟨_, ref', x₁, _, -, referred, found⟩ := Run.bindExcept_iff.1 h
  · cases (run_reference_found sound names referred).2
  obtain ⟨rfl, same⟩ := run_reference_found sound names referred
  obtain rfl := Except.ok.inj same
  obtain ⟨_, looked, _, _, -, asked, ended⟩ := Run.bindLift_iff.1 found
  obtain ⟨-, idle, known, -⟩ := Run.ask_iff.1 asked
  obtain rfl := Stock.world_eq rfl (Run.ask_iff.1 asked).2
  obtain rfl : looked = some material := known.trans held
  obtain ⟨-, rfl, rfl⟩ := Run.pureExcept_iff.1 ended
  exact ⟨rfl, rfl⟩

theorem run_payload_missing {y : Except Error Observation} (sound : x.store.Sound)
    (missing : x.store.live? caller.tenant id = none)
    (h : Run (Stock.world .never) ((Action.memoryKeystore tries).payload caller id).run x t y x') :
    x' = x ∧ y = .error (.noSecret id) := by
  obtain ⟨e, rfl, referred⟩ | ⟨_, _, _, _, -, referred, -⟩ := Run.bindExcept_iff.1 h
  · obtain ⟨rfl, same⟩ := run_reference_missing sound missing referred
    exact ⟨rfl, congrArg Except.error (Except.error.inj same)⟩
  · cases (run_reference_missing sound missing referred).2

theorem run_delete_held {y : Except Error Unit} (sound : x.store.Sound)
    (names : x.ref? caller.tenant id = some ref)
    (h : Run (Stock.world .never) (delete Action.registry (Call.vault Action.make) caller id).run x t y x') :
    x' = ⟨(x.store.delete caller.tenant id).2, x.material.drop ref⟩ ∧ y = .ok () := by
  obtain ⟨_, -, referred⟩ | ⟨_, ref', x₁, _, -, referred, rest⟩ := Run.bindExcept_iff.1 h
  · cases (run_reference_found sound names referred).2
  obtain ⟨rfl, same⟩ := run_reference_found sound names referred
  obtain rfl := Except.ok.inj same
  obtain ⟨_, _, x₂, _, -, dropped, removed⟩ := Run.bindLift_iff.1 rest
  obtain ⟨-, store, dropped⟩ := Run.ask_iff.1 dropped
  obtain ⟨-, removed, material⟩ := Run.ask_iff.1 removed
  have store : x₂.store = x₁.store := store
  have dropped : x₂.material = x₁.material.drop ref' := dropped
  have material : x'.material = x₂.material := material
  have admitted : Fault.never.Admits (x₂.store.delete caller.tenant id) x₂.store y x'.store := removed
  have outcome : (y, x'.store) = x₁.store.delete caller.tenant id := store ▸ admitted.only
  have withdrawn : x'.store = (x₁.store.delete caller.tenant id).2 := congrArg Prod.snd outcome
  exact ⟨congrArg₂ Stock.mk withdrawn (material.trans dropped),
    (congrArg Prod.fst outcome).trans (Registry.Store.delete_eq sound.isOpen)⟩

theorem run_delete_missing {y : Except Error Unit} (sound : x.store.Sound)
    (missing : x.store.live? caller.tenant id = none)
    (h : Run (Stock.world .never) (delete Action.registry (Call.vault Action.make) caller id).run x t y x') :
    x' = x ∧ y = .error (.noSecret id) := by
  obtain ⟨e, rfl, referred⟩ | ⟨_, _, _, _, -, referred, -⟩ := Run.bindExcept_iff.1 h
  · obtain ⟨rfl, same⟩ := run_reference_missing sound missing referred
    exact ⟨rfl, congrArg Except.error (Except.error.inj same)⟩
  · cases (run_reference_missing sound missing referred).2

/-- A creation that is issued an identifier has deposited the material submitted, and is in use. -/
theorem run_create_supplied {created : Creation Action} (supplied : s.material? = some material)
    (issued : created.result = .ok id)
    (h : Run (Stock.world .never) ((Action.memoryKeystore tries).create caller s .empty) x t created x') :
    created.secret = s.enter inUse ∧ ∃ ref, x.Deposits caller.tenant id ref material x' := by
  have h : Run (Stock.world .never) (create Action.registry (Call.vault Action.make)
    (Call.fresh Action.make) (Call.candidates Action.make tries) caller s .empty) x t created x' := h
  unfold create at h
  simp only [supplied] at h
  exact run_keep_issued issued (h.mono fun _ _ _ _ => Stock.world_of_never)

end Keystore.InMemory

/-! ## Requests that nothing fails in -/

namespace Custodian

variable {y y' : Stock × Records}

/-- The times read in a trace are within the dates of a secret. -/
def WithinDates (s : Secret) (t : Trace) : Prop :=
  ∀ now ∈ clockReadings t, s.isDue now = true ∧ s.isExpired now = false

theorem WithinDates.mono {t' : Trace} (h : WithinDates s t) (part : t' ⊆ t) : WithinDates s t' :=
  fun now read => h now (mem_clockReadings.2 (part (mem_clockReadings.1 read)))

/-- Within its dates, a secret in use stays as it is. -/
theorem assess_in_use {now : Instant} (active : s.phase = .activation) (due : s.isDue now = true)
    (unexpired : s.isExpired now = false) : (s.assess (some .activation) now).changed = false := by
  have finding : s.Finding (some .activation) now (.enter s .activation (some .keyActive)) :=
    .due nofun (.used (.inl active) (Secret.not_isExpired_iff.1 (Bool.eq_false_iff.1 unexpired)))
      (Secret.isDue_iff.1 due)
  rw [Secret.finding_iff.1 finding]
  simp [Verdict.enter, active]

theorem run_find_stands {k : Keystore Action} {a : Except Error Secret}
    (found : r.lookup (caller.tenant, id) = some s)
    (h : Run (Records.world .never) ((Action.custodian k).find caller id).run r t a r') :
    r' = r ∧ a = .ok s := by
  have looked : ∀ {t a r₁}, Run (Records.world .never) (Action.catalog.get caller id).run r t a r₁ →
      r₁ = r ∧ a = .ok (some s) := by
    intro t a r₁ asked
    obtain ⟨-, answered⟩ := Run.ask_iff.1 asked
    have admitted : Fault.never.Admits (.ok (r.get caller.tenant id), r) r a r₁ := answered
    obtain ⟨same, rfl⟩ := Prod.mk.inj admitted.only
    exact ⟨rfl, same.trans (congrArg Except.ok found)⟩
  obtain ⟨_, -, asked⟩ | ⟨_, record, _, _, -, asked, ended⟩ := Run.bindExcept_iff.1 h
  · cases (looked asked).2
  · obtain ⟨rfl, same⟩ := looked asked
    obtain rfl := Except.ok.inj same
    obtain ⟨-, rfl, rfl⟩ := Run.pureExcept_iff.1 ended
    exact ⟨rfl, rfl⟩

theorem run_update_unchanged {σ : Type} {w : World σ} {z z' : σ} {k : Keystore Action} {a : Except Error Secret}
    {observed : Option Phase} (unchanged : ∀ now ∈ clockReadings t, (s.assess observed now).changed = false)
    (h : Run w ((Action.custodian k).update caller s observed).run z t a z') :
    a = .ok s ∧ ∃ now, w .now z now z' := by
  obtain ⟨_, now, z₁, _, rfl, asked, settled⟩ := Run.bind_iff.1 h
  obtain ⟨rfl, answered⟩ := Run.ask_iff.1 asked
  obtain ⟨_, ⟨_, _⟩, _, _, rfl, settled, passed⟩ := Run.bind_iff.1 settled
  obtain ⟨-, rfl, rfl⟩ := Run.pure_iff.1 passed
  rw [Lifecycle.settle_unchanged (unchanged now (mem_clockReadings.2 (by simp)))] at settled
  obtain ⟨-, same, rfl⟩ := Run.pure_iff.1 settled
  obtain ⟨rfl, rfl⟩ := Prod.mk.inj same
  exact ⟨rfl, now, answered⟩

theorem unfailing_now {now : Instant} (h : unfailing .now y now y') : y' = y :=
  Prod.ext (Stock.world_eq rfl h.1) h.2

/-- A read within its dates of a secret in use returns the record with its material, and changes nothing. -/
theorem run_read_in_use {a : Except Error Secret} (sound : x.store.Sound)
    (found : r.lookup (caller.tenant, s.id) = some s) (active : s.phase = .activation)
    (standing : s.deleted = false) (extractable : s.extractable = true)
    (names : x.ref? caller.tenant s.id = some ref) (held : x.material.lookup ref = some material)
    (h : Run unfailing ((Action.custodian (Action.memoryKeystore tries)).read caller s.id).run (x, r) t a y)
    (dates : WithinDates s t) : a = .ok { s with payload := some material } ∧ y = (x, r) := by
  have apart := (Keystore.apart_memoryKeystore tries).payload caller s.id
  obtain ⟨_, -, looked⟩ | ⟨_, s', ⟨x₁, r₁⟩, _, rfl, looked, ended⟩ := Run.bindExcept_iff.1 h
  · cases (run_find_stands found looked.right).2
  obtain ⟨rfl, same⟩ := run_find_stands found looked.right
  obtain rfl := Except.ok.inj same
  obtain rfl : x₁ = x := Stock.run_idle (keeps_find rfl) looked.left
  have alive : s'.phase ≠ .destroyed := by simp [active]
  simp only [if_neg alive, standing, Bool.false_eq_true, if_false] at ended
  obtain ⟨_, -, seen⟩ | ⟨_, o, ⟨x₂, r₂⟩, _, rfl, seen, updated⟩ := Run.bindExcept_iff.1 ended
  · cases (Keystore.InMemory.run_payload_held sound names held seen.left).2
  obtain ⟨rfl, same⟩ := Keystore.InMemory.run_payload_held sound names held seen.left
  obtain rfl := Except.ok.inj same
  obtain ⟨rfl, -⟩ := run_apart apart seen.right
  have unchanged : ∀ {u : Trace}, WithinDates s' u → ∀ now ∈ clockReadings u,
      (s'.assess (some .activation) now).changed = false := by
    intro u within now read
    obtain ⟨due, unexpired⟩ := within now read
    exact assess_in_use active due unexpired
  obtain ⟨_, -, stopped⟩ | ⟨_, s₂, _, _, rfl, settled, passed⟩ := Run.bindExcept_iff.1 updated
  · cases (run_update_unchanged (unchanged (dates.mono fun v m => by simp [m])) stopped).1
  obtain ⟨same, now, asked⟩ := run_update_unchanged (unchanged (dates.mono fun v m => by simp [m])) settled
  obtain rfl := Except.ok.inj same
  obtain rfl := unfailing_now asked
  obtain ⟨-, rfl, rfl⟩ := Run.pureExcept_iff.1 passed
  have releasable : s₂.isReleasable = true := by simp [Secret.isReleasable, extractable, active]
  exact ⟨congrArg Except.ok (if_pos releasable), rfl⟩

/-- A read of a secret that is destroyed returns its record, and changes nothing. -/
theorem run_read_destroyed {k : Keystore Action} {a : Except Error Secret}
    (found : r.lookup (caller.tenant, id) = some s) (destroyed : s.phase = .destroyed)
    (h : Run unfailing ((Action.custodian k).read caller id).run (x, r) t a y) : a = .ok s ∧ y = (x, r) := by
  obtain ⟨_, -, looked⟩ | ⟨_, s', ⟨x₁, r₁⟩, _, rfl, looked, ended⟩ := Run.bindExcept_iff.1 h
  · cases (run_find_stands found looked.right).2
  obtain ⟨rfl, same⟩ := run_find_stands found looked.right
  obtain rfl := Except.ok.inj same
  obtain rfl : x₁ = x := Stock.run_idle (keeps_find rfl) looked.left
  rw [if_pos destroyed] at ended
  obtain ⟨-, rfl, rfl⟩ := Run.pureExcept_iff.1 ended
  exact ⟨rfl, rfl⟩

/-! ### Destructions -/

theorem run_observeLast_held {a : Except Error (Option Observation)} {whole : Bool} (sound : x.store.Sound)
    (names : x.ref? caller.tenant id = some ref) (held : x.material.lookup ref = some material)
    (h : Run (Stock.world .never)
      ((Action.custodian (Action.memoryKeystore tries)).observeLast caller id whole).run x t a x') :
    x' = x ∧ a = .ok (if whole then some (.active material) else none) := by
  cases whole with
  | false =>
    obtain ⟨-, rfl, rfl⟩ := Run.pureExcept_iff.1 h
    exact ⟨rfl, rfl⟩
  | true =>
    obtain ⟨_, _, _, _, rfl, looked, passed⟩ := Run.bind_iff.1 h
    obtain ⟨_, -, seen⟩ | ⟨_, o, x₁, _, rfl, seen, ended⟩ := Run.bindExcept_iff.1 looked
    · cases (Keystore.InMemory.run_payload_held sound names held seen).2
    obtain ⟨rfl, same⟩ := Keystore.InMemory.run_payload_held sound names held seen
    obtain rfl := Except.ok.inj same
    obtain ⟨-, rfl, rfl⟩ := Run.pureExcept_iff.1 ended
    obtain ⟨-, rfl, rfl⟩ := Run.pure_iff.1 passed
    exact ⟨rfl, rfl⟩

theorem run_observeLast_missing {a : Except Error (Option Observation)} {whole : Bool} (sound : x.store.Sound)
    (missing : x.store.live? caller.tenant id = none)
    (h : Run (Stock.world .never)
      ((Action.custodian (Action.memoryKeystore tries)).observeLast caller id whole).run x t a x') :
    x' = x ∧ a = if whole then .error (.noSecret id) else .ok none := by
  cases whole with
  | false =>
    obtain ⟨-, rfl, rfl⟩ := Run.pureExcept_iff.1 h
    exact ⟨rfl, rfl⟩
  | true =>
    obtain ⟨_, _, _, _, rfl, looked, passed⟩ := Run.bind_iff.1 h
    obtain ⟨_, rfl, seen⟩ | ⟨_, o, x₁, _, rfl, seen, -⟩ := Run.bindExcept_iff.1 looked
    · obtain ⟨rfl, same⟩ := Keystore.InMemory.run_payload_missing sound missing seen
      obtain ⟨-, rfl, rfl⟩ := Run.pure_iff.1 passed
      exact ⟨rfl, congrArg Except.error (Except.error.inj same)⟩
    · cases (Keystore.InMemory.run_payload_missing sound missing seen).2

/-- A destruction takes the material and the entry away, and marks the record. -/
theorem run_remove_held {result : Except Error (Option Secret) × Ledger Action} {whole : Bool}
    (sound : x.store.Sound) (found : r.lookup (caller.tenant, id) = some s) (extractable : s.extractable = true)
    (names : x.ref? caller.tenant id = some ref) (held : x.material.lookup ref = some material)
    (h : Run unfailing ((Action.custodian (Action.memoryKeystore tries)).remove caller id whole .empty) (x, r) t
      result y) :
    let gone := { s with deleted := true, phase := .destroyed }
    result.1 = .ok (if whole then some { gone with payload := some material } else none) ∧
      y = (⟨(x.store.delete caller.tenant id).2, x.material.drop ref⟩, r.put (caller.tenant, id) gone) := by
  have apart := Keystore.apart_memoryKeystore tries
  intro gone
  obtain ⟨_, o, ⟨x₁, r₁⟩, _, rfl, observed, ended⟩ := Run.bind_iff.1 h
  obtain ⟨rfl, rfl⟩ := run_observeLast_held sound names held observed.left
  obtain rfl : r₁ = r := (run_apart (keeps_observeLast (apart.payload caller id) whole) observed.right).1
  obtain ⟨_, ⟨deleted, _⟩, ⟨x₂, r₂⟩, _, rfl, removed, marked⟩ := Run.bind_iff.1 ended
  obtain rfl : r₂ = r₁ := (run_apart (apart.delete caller id .empty) removed.right).1
  obtain ⟨_, _, _, _, rfl, withdrawn, passed⟩ := Run.bind_iff.1 removed.left
  obtain ⟨-, same, rfl⟩ := Run.pure_iff.1 passed
  obtain ⟨rfl, rfl⟩ := Keystore.InMemory.run_delete_held sound names withdrawn
  obtain ⟨rfl, rfl⟩ := Prod.mk.inj same
  obtain ⟨_, a, ⟨x₃, r₃⟩, _, rfl, asked, passed⟩ := Run.bind_iff.1 marked
  obtain ⟨-, rfl, rfl⟩ := Run.pure_iff.1 passed
  obtain ⟨-, idle, answered⟩ := Run.ask_iff.1 asked
  obtain rfl := Stock.world_eq rfl idle
  have admitted : Fault.never.Admits (r₂.delete caller.tenant id) r₂ a r₃ := answered
  obtain ⟨rfl, rfl⟩ := Prod.mk.inj (admitted.only.trans (Catalog.Records.delete_of_lookup found))
  refine ⟨congrArg Except.ok ?_, rfl⟩
  cases whole with
  | false => rfl
  | true => exact congrArg some (if_pos extractable)

/-- Where there is no entry, a destruction fails and has no effect. -/
theorem run_remove_missing {result : Except Error (Option Secret) × Ledger Action} {whole : Bool}
    (sound : x.store.Sound) (missing : x.store.live? caller.tenant id = none)
    (h : Run unfailing ((Action.custodian (Action.memoryKeystore tries)).remove caller id whole .empty) (x, r) t
      result y) : result.1 = .error (.noSecret id) ∧ y = (x, r) := by
  have apart := Keystore.apart_memoryKeystore tries
  obtain ⟨_, o, ⟨x₁, r₁⟩, _, rfl, observed, ended⟩ := Run.bind_iff.1 h
  obtain ⟨rfl, rfl⟩ := run_observeLast_missing sound missing observed.left
  obtain rfl : r₁ = r := (run_apart (keeps_observeLast (apart.payload caller id) whole) observed.right).1
  cases whole with
  | true =>
    obtain ⟨-, rfl, rfl⟩ := Run.pure_iff.1 ended
    exact ⟨rfl, rfl⟩
  | false =>
    obtain ⟨_, ⟨deleted, _⟩, ⟨x₂, r₂⟩, _, rfl, removed, marked⟩ := Run.bind_iff.1 ended
    obtain rfl : r₂ = r₁ := (run_apart (apart.delete caller id .empty) removed.right).1
    obtain ⟨_, _, _, _, rfl, withdrawn, passed⟩ := Run.bind_iff.1 removed.left
    obtain ⟨-, same, rfl⟩ := Run.pure_iff.1 passed
    obtain ⟨rfl, rfl⟩ := Keystore.InMemory.run_delete_missing sound missing withdrawn
    obtain ⟨rfl, rfl⟩ := Prod.mk.inj same
    obtain ⟨-, rfl, rfl⟩ := Run.pure_iff.1 marked
    exact ⟨rfl, rfl⟩

/-! ### Replies -/

theorem run_fetched {k : Keystore Action} {reply : Except Error Reply}
    (h : Run unfailing ((Action.custodian k).perform (.fetch caller id)) y t reply y') :
    ∃ u a, u ⊆ t ∧ reply = a.map .secret ∧ Run unfailing ((Action.custodian k).read caller id).run y u a y' := by
  obtain ⟨a, rfl, fetched⟩ := Run.mapped_iff.1 h
  obtain ⟨u, y₁, rfl, read, counted⟩ := run_counted_iff.1 fetched
  obtain rfl : y' = y₁ := Prod.ext (Stock.world_eq rfl counted.1) counted.2
  exact ⟨u, a, List.subset_append_left _ _, rfl, read⟩

theorem run_destroyed {k : Keystore Action} {whole : Bool} {reply : Except Error Reply}
    (h : Run unfailing ((Action.custodian k).perform (.destroy caller id whole)) y t reply y') :
    ∃ u result, reply = result.1.map .gone ∧
      Run unfailing ((Action.custodian k).remove caller id whole .empty) y u result y' := by
  obtain ⟨a, rfl, destroyed⟩ := Run.mapped_iff.1 h
  obtain ⟨u, y₁, rfl, request, counted⟩ := run_counted_iff.1 destroyed
  obtain ⟨_, ⟨a, ledger⟩, _, _, rfl, removed, passed⟩ := Run.bind_iff.1 request
  obtain ⟨-, rfl, rfl⟩ := Run.pure_iff.1 passed
  obtain rfl : y' = y₁ := Prod.ext (Stock.world_eq rfl counted.1) counted.2
  exact ⟨_, _, rfl, removed⟩

/-- What tenants find of a secret that is destroyed. -/
structure Gone (c : Custodian Action) (reader : Caller) (last : Secret) (y : Stock × Records) : Prop where
  fetched : ∀ t reply y', Run unfailing (c.perform (.fetch reader last.id)) y t reply y' →
    reply = .ok (.secret last) ∧ y' = y
  missing : ∀ whole t reply y', Run unfailing (c.perform (.destroy reader last.id whole)) y t reply y' →
    reply = .error (.noSecret last.id) ∧ y' = y
  /-- Nor does any page show it, whatever is requested before that. -/
  unlisted : ∀ requests t xs r₁ q u secrets r₂, Run (Records.world .any) (c.performAll requests) y.2 t xs r₁ →
    Run (Records.world .any) (c.perform (.list reader q)) r₁ u (.ok (.page secrets)) r₂ →
      ∀ shown ∈ secrets, shown.id ≠ last.id

theorem gone_of_missing (sound : x.store.Sound) (final : r.Final)
    (missing : x.store.live? caller.tenant s.id = none) (found : r.lookup (caller.tenant, s.id) = some s)
    (destroyed : s.phase = .destroyed) :
    Gone (Action.custodian (Action.memoryKeystore tries)) caller s (x, r) where
  fetched t reply y' h := by
    obtain ⟨u, a, -, rfl, read⟩ := run_fetched h
    obtain ⟨rfl, rfl⟩ := run_read_destroyed found destroyed read
    exact ⟨rfl, rfl⟩
  missing whole t reply y' h := by
    obtain ⟨u, ⟨a, ledger⟩, rfl, removed⟩ := run_destroyed h
    obtain ⟨rfl, rfl⟩ := run_remove_missing sound missing removed
    exact ⟨rfl, rfl⟩
  unlisted requests t xs r₁ q u secrets r₂ after listed := by
    have apart := Keystore.apart_memoryKeystore tries
    obtain ⟨final₁, outlive⟩ := lasts_performAll apart _ _ _ _ after final
    exact run_list_unmarked apart final₁.toFiled (outlive _ _ found destroyed) (final.marked found destroyed)
      listed

/-- The record of a secret whose material was submitted. -/
def recorded (secret : Secret) (id : String) (now : Instant) : Secret :=
  { secret with
    id := id
    name := Text.trim secret.name
    payload := none
    creation := some now
    phase := .activation
    reason := some .keyActive }

theorem run_created {secret shown : Secret} {whole : Bool} (supplied : secret.material? = some material)
    (h : Run unfailing ((Action.custodian (Action.memoryKeystore tries)).perform (.create caller secret whole))
      (x, r) t (.ok (.secret shown)) y) :
    ∃ now ∈ clockReadings t, ∃ ref x₁, x.Deposits caller.tenant shown.id ref material x₁ ∧
      r.lookup (caller.tenant, shown.id) = none ∧
      y = (x₁, r.put (caller.tenant, shown.id) (recorded secret shown.id now)) := by
  obtain ⟨x', r'⟩ := y
  obtain ⟨created, id, now, record, t₁, t₂, x₁, rfl, made, issued, unused, rfl, rfl, ended, rfl, rfl⟩ :=
    run_create_filed (Keystore.apart_memoryKeystore tries) h
  have supplied : ({ secret with name := Text.trim secret.name } : Secret).material? = some material := supplied
  obtain ⟨entered, ref, deposits⟩ := Keystore.InMemory.run_create_supplied supplied issued made.left
  have idle : x' = x₁ := by
    refine ended.unchanged fun v member _ _ => Stock.world_eq ?_
    simp only [List.mem_cons, List.not_mem_nil, or_false] at member
    rcases member with rfl | rfl | rfl <;> rfl
  subst idle
  refine ⟨now, mem_clockReadings.2 (by simp), ref, x', deposits, unused, ?_⟩
  rw [entered]
  rfl

/-- Where no call fails, over a keystore in memory and after any requests: material that is submitted to be
extractable comes back. A fetch at a time within the dates of the secret returns the record with it, and so
does the destruction, if it is asked for; the record is then all that is found, and there is one secret less. -/
theorem submitted_material_comes_back {z : Store} {requests : List Request} {xs : List (Except Error Reply)}
    {secret shown : Secret} {whole : Bool} {u : Trace} (empty : z = .table true [] ∨ z = .map [])
    (h : Run (both (Stock.world .any) (Records.world .any))
      ((Action.custodian (Action.memoryKeystore tries)).performAll requests) (⟨z, []⟩, []) t xs (x, r))
    (supplied : secret.payload = some material) (filled : material.isEmpty = false)
    (extractable : secret.extractable = true) (standing : secret.deleted = false)
    (created : Run unfailing
      ((Action.custodian (Action.memoryKeystore tries)).perform (.create caller secret whole)) (x, r) u
      (.ok (.secret shown)) y) :
    ∃ now ∈ clockReadings u, ∃ n,
      let c := Action.custodian (Action.memoryKeystore tries)
      let stored := recorded secret shown.id now
      let gone := { stored with deleted := true, phase := .destroyed }
      y.2.lookup (caller.tenant, shown.id) = some stored ∧ ∀ reader : Caller, reader.tenant = caller.tenant →
        (∀ v reply y', Run unfailing (c.perform (.fetch reader shown.id)) y v reply y' → WithinDates secret v →
          reply = .ok (.secret { stored with payload := some material }) ∧ y' = y) ∧
        (∀ q v reply y', q.validate = .ok () → Run unfailing (c.perform (.total reader q)) y v reply y' →
          reply = .ok (.number (n + 1))) ∧
        ∀ all v reply y₁, Run unfailing (c.perform (.destroy reader shown.id all)) y v reply y₁ →
          reply = .ok (.gone (if all then some { gone with payload := some material } else none)) ∧
          Gone c reader gone y₁ ∧
          ∀ q v reply y', q.validate = .ok () → Run unfailing (c.perform (.total reader q)) y₁ v reply y' →
            reply = .ok (.number n) := by
  have apart := Keystore.apart_memoryKeystore tries
  have stays : ∀ c (x : Stock) a (x' : Stock), x.store.Sound → Stock.world .any c x a x' → x'.store.Sound :=
    fun _ _ _ _ => Stock.sound_world
  have sound := h.left.invariant stays (Stock.kept_empty empty).sound
  obtain ⟨final, -⟩ := lasts_performAll apart _ _ _ _ h.right Records.final_empty
  have submitted : secret.material? = some material := by simp [Secret.material?, supplied, filled]
  obtain ⟨now, read, ref, x₁, deposits, unused, rfl⟩ := run_created submitted created
  -- what the creation leaves: its entry, the material under the reference that names, and the record
  have sound₁ : x₁.store.Sound := (Store.enters_add deposits.1).sound sound
  have held : x₁.material.lookup ref = some material := deposits.2 ▸ Keyed.lookup_put_self
  obtain ⟨final₁, -⟩ := lasts_perform apart _ _ _ _ created.right final
  refine ⟨now, read, r.total caller.tenant, Keyed.lookup_put_self, ?_⟩
  intro reader same
  let stored := recorded secret shown.id now
  have names : x₁.ref? reader.tenant shown.id = some ref := same ▸ deposits.ref?_self
  have found : (r.put (caller.tenant, shown.id) stored).lookup (reader.tenant, shown.id) = some stored :=
    same ▸ Keyed.lookup_put_self
  have more : (r.put (caller.tenant, shown.id) stored).total caller.tenant = r.total caller.tenant + 1 := by
    rw [Records.total_put_new unused]
    simp [stored, recorded, standing]
  refine ⟨?_, ?_, ?_⟩
  · intro v reply y' fetched dates
    obtain ⟨w, a, part, rfl, read⟩ := run_fetched fetched
    obtain ⟨rfl, rfl⟩ := run_read_in_use (s := stored) sound₁ found rfl standing extractable names held read
      (dates.mono part)
    exact ⟨rfl, rfl⟩
  · intro q v reply y' valid asked
    rw [run_total valid asked.right, same, more]
  · intro all v reply y₁ destroyed
    obtain ⟨final₂, -⟩ := lasts_perform apart _ _ _ _ destroyed.right final₁
    obtain ⟨w, ⟨a, ledger⟩, rfl, removed⟩ := run_destroyed destroyed
    obtain ⟨rfl, rfl⟩ := run_remove_held sound₁ found extractable names held removed
    have missing : (x₁.store.delete reader.tenant shown.id).2.live? reader.tenant shown.id = none :=
      Store.live?_delete_self sound₁.isOpen
    refine ⟨rfl, ?_, ?_⟩
    · exact gone_of_missing (Store.sound_delete sound₁) final₂ missing Keyed.lookup_put_self rfl
    · intro q v reply y' valid asked
      have marked : ({ stored with deleted := true, phase := .destroyed } : Secret).deleted = true := rfl
      have less := Records.total_put_deleted final₁.unique found standing marked
      rw [run_total valid asked.right]
      simp only [same] at less more ⊢
      rw [Nat.add_right_cancel (less.trans more)]

/-- A secret that is fetched when it is about to expire, and then destroyed. -/
theorem submitted_material_comes_back_of_dated :
    let caller : Caller := ⟨⟨"s", "o"⟩, "c", none⟩
    let reader : Caller := ⟨⟨"s", "o"⟩, "d", none⟩
    let secret : Secret := { Secret.named " key " with
      payload := some ⟨"material"⟩, activation := some ⟨99, 5⟩, expiration := some ⟨100, 0⟩ }
    let c := Action.custodian (Action.memoryKeystore 1)
    let y := ((c.performAll [.create ⟨⟨"s", "p"⟩, "c", none⟩ secret true]).run (Depot.answer unissued)
      ⟨⟨.table true [], []⟩, [], 0⟩).2
    let y₁ := ((c.perform (.create caller secret false)).run (Depot.answer unissued) y).2
    let y₂ := ((c.perform (.destroy reader "k" true)).run (Depot.answer unissued) y₁).2
    ∃ now, ((c.perform (.fetch reader "k")).run (Depot.answer unissued) y₁).1 =
        .ok (.secret { recorded secret "k" now with payload := some ⟨"material"⟩ }) ∧
      ((c.perform (.destroy reader "k" false)).run (Depot.answer unissued) y₂).1 = .error (.noSecret "k") := by
  intro caller reader secret c y y₁ y₂
  have before : Run (Depot.world unissued) (c.performAll _) _ _ _ y :=
    Run.of_answers (Depot.world_answer unissued) _ _
  have made : Run (Depot.world unissued) (c.perform (.create caller secret false)) y _ _ y₁ :=
    Run.of_answers (Depot.world_answer unissued) _ _
  have removed : Run (Depot.world unissued) (c.perform (.destroy reader "k" true)) y₁ _ _ y₂ :=
    Run.of_answers (Depot.world_answer unissued) _ _
  have fetched := Run.of_answers (Depot.world_answer unissued) (c.perform (.fetch reader "k")) y₁
  have again := Run.of_answers (Depot.world_answer unissued) (c.perform (.destroy reader "k" false)) y₂
  have issued : ((c.perform (.create caller secret false)).run (Depot.answer unissued) y).1 =
      .ok (.secret { Secret.named "key" with id := "k", phase := .activation }) := by decide +kernel
  have read : clockReadings ((c.perform (.fetch reader "k")).trace (Depot.answer unissued) y₁) = [⟨100, 0⟩] := by
    decide +kernel
  rw [issued] at made
  clear_value y y₁ y₂
  obtain ⟨now, -, n, -, found⟩ := submitted_material_comes_back (.inl rfl) (Depot.run_parts before) rfl rfl rfl rfl
    (Depot.run_parts made)
  obtain ⟨returned, -, gone⟩ := found reader rfl
  refine ⟨now, ?_, ?_⟩
  · refine (returned _ _ _ (Depot.run_parts fetched) ?_).1
    rw [WithinDates, read]
    decide
  · obtain ⟨-, absent, -⟩ := gone _ _ _ _ (Depot.run_parts removed)
    exact (absent.missing _ _ _ _ (Depot.run_parts again)).1

end Custodian

end KeyCustody

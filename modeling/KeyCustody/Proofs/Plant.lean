import KeyCustody.Proofs.SingleFault
import KeyCustody.Proofs.Registry.Lookup
import KeyCustody.Settings.Basic

/-!
# Plants

A plant is all that a custodian works with, over either keystore: entries, material, orders and records.
Its API knows what it holds, and answers that it does not know anything else.
-/

namespace KeyCustody

open Program
open Barbican (OrderStatus)
open Registry (Entry Store)

/-- The keystore of a kind. -/
def Action.keystore (tries : Nat) : Settings.KeystoreKind → Keystore Action
  | .barbican => barbicanKeystore tries
  | .memory => memoryKeystore tries

structure Plant where
  store : Store
  material : Vault.Contents
  /-- The orders at the API, and how far they are. -/
  orders : List (String × OrderStatus)
  records : Catalog.Records

namespace Plant

/-- The answer of an API about something that it may not know; `message` is how it says that. -/
def known {α : Type} (message : String) : Option α → Except Error α
  | some a => .ok a
  | none => .error (.backend message (some 404))

def answer (message : String) (p : Plant) : (c : Call) → c.Answer × Plant
  | .addEntry tenant x => ((p.store.add tenant x).1, { p with store := (p.store.add tenant x).2 })
  | .getEntry tenant id => (p.store.get tenant id, p)
  | .updateEntry tenant x =>
    ((p.store.update tenant x).1, { p with store := (p.store.update tenant x).2 })
  | .deleteEntry tenant id =>
    ((p.store.delete tenant id).1, { p with store := (p.store.delete tenant id).2 })
  | .checkOrder _ order => (known message (p.orders.lookup order), p)
  | .deleteOrder _ order =>
    match p.orders.lookup order with
    | some _ => (.ok (), { p with orders := p.orders.filter (·.1 ≠ order) })
    | none => (known message none, p)
  | .getPayload _ ref _ => (known message (p.material.lookup ref), p)
  | .deleteSecret _ ref =>
    match p.material.lookup ref with
    | some _ => (.ok (), { p with material := p.material.drop ref })
    | none => (known message none, p)
  | .putMaterial ref material => ((), { p with material := p.material.put ref material })
  | .findMaterial ref => (p.material.lookup ref, p)
  | .dropMaterial ref => ((), { p with material := p.material.drop ref })
  | c =>
    let others := Call.refused (.backend message (some 404))
    ((p.records.answer others c).1, { p with records := (p.records.answer others c).2 })

variable {message : String} {p : Plant} {caller : Caller} {order ref : String}

theorem answer_deleteOrder {status : OrderStatus} (there : p.orders.lookup order = some status) :
    p.answer message (.deleteOrder caller order) =
      (.ok (), { p with orders := p.orders.filter (·.1 ≠ order) }) := by
  unfold answer
  simp only [there]

theorem answer_deleteOrder_missing (missing : p.orders.lookup order = none) :
    p.answer message (.deleteOrder caller order) = (known message none, p) := by
  unfold answer
  simp only [missing]
  rfl

theorem answer_deleteSecret {material : Sealed} (held : p.material.lookup ref = some material) :
    p.answer message (.deleteSecret caller ref) =
      (.ok (), { p with material := p.material.drop ref }) := by
  unfold answer
  simp only [held]

theorem answer_deleteSecret_missing (missing : p.material.lookup ref = none) :
    p.answer message (.deleteSecret caller ref) = (known message none, p) := by
  unfold answer
  simp only [missing]
  rfl

/-- A plant answers calls on the registry as its store does. -/
theorem world_store {f : Fault} (message : String) (p : Plant) (c : Call) :
    Store.world f c p.store (p.answer message c).1 (p.answer message c).2.store := by
  cases c with
  | addEntry | getEntry | updateEntry | deleteEntry => exact .inl rfl
  | deleteSecret _ ref =>
    cases held : p.material.lookup ref with
    | some _ => rw [answer_deleteSecret held]; rfl
    | none => rw [answer_deleteSecret_missing held]; rfl
  | deleteOrder _ order =>
    cases there : p.orders.lookup order with
    | some _ => rw [answer_deleteOrder there]; rfl
    | none => rw [answer_deleteOrder_missing there]; rfl
  | _ => rfl

/-- A plant answers calls on the catalog as its records do. -/
theorem world_records {f : Fault} (message : String) (p : Plant) (c : Call) :
    Catalog.Records.world f c p.records (p.answer message c).1 (p.answer message c).2.records := by
  cases c with
  | createRecord => exact ⟨_, .inl rfl⟩
  | getRecord | changeRecord | deleteRecord | listRecords | totalRecords => exact .inl rfl
  | deleteSecret _ ref =>
    cases held : p.material.lookup ref with
    | some _ => rw [answer_deleteSecret held]; rfl
    | none => rw [answer_deleteSecret_missing held]; rfl
  | deleteOrder _ order =>
    cases there : p.orders.lookup order with
    | some _ => rw [answer_deleteOrder there]; rfl
    | none => rw [answer_deleteOrder_missing there]; rfl
  | _ => rfl

/-- What is done on a plant is done on its store and its records. -/
theorem run_parts {α : Type} (f g : Fault) (message : String) (a : Action α) (p : Plant) :
    Run (both (Store.world f) (Catalog.Records.world g)) a (p.store, p.records) (a.trace (answer message) p)
      (a.run (answer message) p).1
      ((a.run (answer message) p).2.store, (a.run (answer message) p).2.records) := by
  let view : Plant → Store × Catalog.Records := fun p => (p.store, p.records)
  have run := Run.of_answers (w := fun c p x p' => both (Store.world f) (Catalog.Records.world g) c (view p) x
    (view p')) (fun p c => ⟨world_store message p c, world_records message p c⟩) a p
  exact run.map view fun _ _ _ _ answered => answered

/-! ## Where material is -/

section
variable (kind : Settings.KeystoreKind) (tenant : Tenant) (id ref : String)

/-- An entry leads to a secret: it names it, or over the API an order that is done does. -/
def Leads (p : Plant) (x : Entry) : Prop :=
  x.secret? = some ref ∨ kind = .barbican ∧ ref ≠ "" ∧
    ∃ order, x.pending? = some order ∧ p.orders.lookup order = some (.active ref)

/-- The entry of an identifier leads to a secret. -/
structure Names (p : Plant) : Prop where
  sound : p.store.Sound
  named : Text.isBlankText id = false
  entry : ∃ x, p.store.get tenant id = .ok x ∧ p.Leads kind ref x

/-- There is material under an identifier. -/
structure Holds (p : Plant) : Prop extends p.Names kind tenant id ref where
  held : ∃ material, p.material.lookup ref = some material

/-- The entry stands, and its material is gone. -/
structure Emptied (p : Plant) : Prop extends p.Names kind tenant id ref where
  missing : p.material.lookup ref = none

/-- The material and its entry are gone. -/
structure Cleared (p : Plant) : Prop where
  given : p.store.get tenant id = .error (.noSecret id)
  missing : p.material.lookup ref = none

/-- The entry names nothing but an order that the API does not know. -/
structure Lost (p : Plant) : Prop where
  networked : kind = .barbican
  entry : ∃ x order, p.store.get tenant id = .ok x ∧ x.pending? = some order ∧
    p.orders.lookup order = none

end

variable {kind : Settings.KeystoreKind} {tenant : Tenant} {id : String} {x : Entry}

theorem final_known {α : Type} {found : Option α} :
    ∀ e, known message found = .error e → e.isRetryable = false := by
  rintro e failed
  cases found with
  | none =>
    obtain rfl := Except.error.inj failed
    rfl
  | some _ => cases failed

theorem Leads.secret (leads : p.Leads .memory ref x) : x.secret? = some ref := by
  obtain named | ⟨networked, -⟩ := leads
  · exact named
  · cases networked

/-- An entry whose order is done can be made to name the secret. -/
theorem Names.promoted (names : p.Names kind tenant id ref) (stands : p.store.get tenant id = .ok x)
    (present : ref ≠ "") : ∃ store, p.store.update tenant { x with secretRef := some ref } = (.ok (), store) ∧
      Names kind tenant id ref { p with store := store } := by
  obtain rfl := names.sound.issuedId stands
  let y : Entry := { x with secretRef := some ref }
  have secret : y.secret? = some ref := Entry.secret?_named x present
  have well : y.check = .ok () := by
    have named : Text.isBlankText y.issuedId = false := names.named
    simp [Entry.check, Entry.isEmpty, named, secret]
  have updated : (p.store.update tenant y).1 = .ok () := by
    rw [Store.update_result names.sound.isOpen fun _ => by rw [(Store.live?_of_get stands).2.1]; rfl, well]
  have change := Store.enters_update (Prod.ext updated rfl : p.store.update tenant y = (.ok (), _))
  obtain ⟨x', stands', same⟩ := change.get_self (change.sound names.sound)
  refine ⟨_, Prod.ext updated rfl, change.sound names.sound, names.named, x', stands', .inl ?_⟩
  rw [Entry.secret?_congr same, secret]

theorem Names.cleared (names : p.Names kind tenant id ref) {p' : Plant}
    (store : p'.store = (p.store.delete tenant id).2) (material : p'.material = p.material.drop ref) :
    p'.Cleared tenant id ref where
  given := by rw [store, Store.get_delete_self names.sound]
  missing := by
    rw [material]
    exact Keyed.lookup_erase_self

theorem Emptied.not_cleared (emptied : p.Emptied kind tenant id ref) : ¬ p.Cleared tenant id ref := by
  intro cleared
  obtain ⟨x, stands, -⟩ := emptied.entry
  cases stands.symm.trans cleared.given

theorem Emptied.not_lost (emptied : p.Emptied kind tenant id ref) : ¬ p.Lost kind tenant id := by
  intro lost
  obtain ⟨x, stands, leads⟩ := emptied.entry
  obtain ⟨y, order, stands', pending, unknown⟩ := lost.entry
  obtain rfl := Except.ok.inj (stands.symm.trans stands')
  obtain named | ⟨-, -, order', pending', done⟩ := leads
  · cases (Entry.pending?_of_secret named).symm.trans pending
  · obtain rfl := Option.some.inj (pending.symm.trans pending')
    cases unknown.symm.trans done

end Plant

/-- The calls whose failure keeps a removal from being completed by another. It matters for one of them
whether that one asks for the material. -/
def Call.hinders (kind : Settings.KeystoreKind) (whole : Bool) : Call → Bool
  | .updateEntry .. | .deleteRecord .. => true
  | .deleteEntry .. => kind = .barbican || whole
  | _ => false

theorem Call.hinders_of_harmless {kind : Settings.KeystoreKind} {whole : Bool} {c : Call}
    (harmless : c.hinders .barbican true = false) : c.hinders kind whole = false := by
  cases c with
  | updateEntry | deleteRecord | deleteEntry => cases harmless
  | _ => rfl

theorem Call.hinders_of_always {kind : Settings.KeystoreKind} {whole : Bool} {c : Call}
    (always : c.hinders .memory false = true) : c.hinders kind whole = true := by
  cases c with
  | updateEntry | deleteRecord => rfl
  | _ => cases always

end KeyCustody

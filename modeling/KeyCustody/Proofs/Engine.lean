import KeyCustody.Keystore.InMemory
import KeyCustody.Proofs.World

/-!
# Engines that nothing fails in

An engine answers its calls from what it holds and from what it is supplied with: readings of the
clock, and values that are drawn. Its API keeps what is posted to it as a vault would, so the same
engine serves either keystore.
-/

namespace KeyCustody

open Program

/-- What an engine is supplied with; values come in the order in which they are asked for. -/
structure Supply where
  time : Nat → Time.Instant
  identifier : Nat → String
  /-- References to material, made up by the engine or by the API. -/
  reference : Nat → String
  bytes : Nat → Nat → List UInt8
  /-- What the API answers about anything that it does not hold. -/
  others : (c : Call) → c.Answer

/-- What keystores see of an engine: the entries, the material, and how many identifiers, references
and random bytes are used up. -/
structure Backing where
  store : Registry.Store := .map []
  material : Vault.Contents := []
  issued : Nat := 0
  referred : Nat := 0
  filled : Nat := 0

structure Engine extends Backing where
  records : Catalog.Records := []
  tally : Tally := []
  /-- How often the clock has been read. -/
  timed : Nat := 0

namespace Supply

def answer (u : Supply) (e : Engine) : (c : Call) → c.Answer × Engine
  | .addEntry tenant x => ((e.store.add tenant x).1, { e with store := (e.store.add tenant x).2 })
  | .getEntry tenant id => (e.store.get tenant id, e)
  | .updateEntry tenant x =>
    ((e.store.update tenant x).1, { e with store := (e.store.update tenant x).2 })
  | .deleteEntry tenant id =>
    ((e.store.delete tenant id).1, { e with store := (e.store.delete tenant id).2 })
  | .createRecord caller s =>
    ((e.records.create caller.tenant (u.time e.timed) s).1,
      { e with records := (e.records.create caller.tenant (u.time e.timed) s).2 })
  | .getRecord caller id => (.ok (e.records.get caller.tenant id), e)
  | .changeRecord caller id c =>
    ((e.records.change caller.tenant id c).1,
      { e with records := (e.records.change caller.tenant id c).2 })
  | .deleteRecord caller id =>
    ((e.records.delete caller.tenant id).1,
      { e with records := (e.records.delete caller.tenant id).2 })
  | .listRecords caller q => (.ok (e.records.list caller.tenant q), e)
  | .totalRecords caller _ => (.ok (e.records.total caller.tenant), e)
  | .postSecret _ _ payload _ =>
    (.ok (u.reference e.referred),
      { e with
        material := e.material.put (u.reference e.referred) payload
        referred := e.referred + 1 })
  | .getPayload caller ref .text =>
    match e.material.lookup ref with
    | some m => (.ok m, e)
    | none => (u.others (.getPayload caller ref .text), e)
  | .deleteSecret caller ref =>
    match e.material.lookup ref with
    | some _ => (.ok (), { e with material := e.material.drop ref })
    | none => (u.others (.deleteSecret caller ref), e)
  | .putMaterial ref m => ((), { e with material := e.material.put ref m })
  | .findMaterial ref => (e.material.lookup ref, e)
  | .dropMaterial ref => ((), { e with material := e.material.drop ref })
  | .drawIdentifier => (u.identifier e.issued, { e with issued := e.issued + 1 })
  | .drawReference => (u.reference e.referred, { e with referred := e.referred + 1 })
  | .drawBytes n => (u.bytes e.filled n, { e with filled := e.filled + 1 })
  | .now => (u.time e.timed, { e with timed := e.timed + 1 })
  | .count c => ((), { e with tally := e.tally.add c })
  | c => (u.others c, e)

/-- A supply that counts, on an API that holds nothing but what was posted to it. -/
def counting : Supply where
  time n := ⟨n, 0⟩
  identifier n := String.ofList (List.replicate (n + 1) 'k')
  reference n := String.ofList (List.replicate (n + 1) 'r')
  bytes _ count := List.replicate count 0
  others := Call.refused (.backend "unknown" (some 404))

theorem injective_counting : Function.Injective counting.reference := by
  intro n n' same
  have lengths := congrArg String.length same
  simpa [counting] using lengths

/-- Each call is answered in one way. -/
def world (u : Supply) : World Engine := fun c e x e' => (x, e') = u.answer e c

theorem world_answer (u : Supply) (e : Engine) (c : Call) :
    u.world c e (u.answer e c).1 (u.answer e c).2 :=
  rfl

theorem run_of_eval {α : Type} {u : Supply} {e e' : Engine} {p : Action α} {a : α}
    (h : p.run u.answer e = (a, e')) : Run u.world p e (p.trace u.answer e) a e' :=
  (Run.of_eval h).mono fun _ _ _ _ answered => answered.symm

section
variable {u : Supply} {e : Engine} {caller : Caller} {ref : String} {m : Sealed}

theorem answer_getPayload (held : e.material.lookup ref = some m) :
    u.answer e (.getPayload caller ref .text) = (.ok m, e) := by
  unfold answer
  simp only [held]

theorem answer_getPayload_missing (missing : e.material.lookup ref = none) :
    u.answer e (.getPayload caller ref .text) = (u.others (.getPayload caller ref .text), e) := by
  unfold answer
  simp only [missing]

theorem answer_deleteSecret (held : e.material.lookup ref = some m) :
    u.answer e (.deleteSecret caller ref) = (.ok (), { e with material := e.material.drop ref }) := by
  unfold answer
  simp only [held]

theorem answer_deleteSecret_missing (missing : e.material.lookup ref = none) :
    u.answer e (.deleteSecret caller ref) = (u.others (.deleteSecret caller ref), e) := by
  unfold answer
  simp only [missing]

end

/-- The records of an engine are a catalog in memory. -/
theorem world_records {f : Fault} (u : Supply) (e : Engine) (c : Call) :
    Catalog.Records.world f c e.records (u.answer e c).1 (u.answer e c).2.records := by
  cases c with
  | createRecord => exact ⟨_, .inl rfl⟩
  | getRecord | changeRecord | deleteRecord | listRecords | totalRecords => exact .inl rfl
  | getPayload caller ref type =>
    cases type with
    | bytes => rfl
    | text =>
      cases found : e.material.lookup ref with
      | none =>
        rw [answer_getPayload_missing found]
        rfl
      | some _ =>
        rw [answer_getPayload found]
        rfl
  | deleteSecret caller ref =>
    cases found : e.material.lookup ref with
    | none =>
      rw [answer_deleteSecret_missing found]
      rfl
    | some _ =>
      rw [answer_deleteSecret found]
      rfl
  | _ => rfl

/-- What an engine does to its records is a run on a catalog in memory. -/
theorem run_records {f : Fault} {u : Supply} {α : Type} {p : Action α} {e e' : Engine} {t : Trace}
    {a : α} (h : Run u.world p e t a e') :
    Run (Catalog.Records.world f) p e.records t a e'.records := by
  refine h.map Engine.records fun c e x e' answered => ?_
  obtain ⟨rfl, rfl⟩ := Prod.mk.inj answered
  exact u.world_records e c

end Supply

end KeyCustody

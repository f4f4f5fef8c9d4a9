import KeyCustody.Proofs.Commuting
import KeyCustody.Proofs.Counting
import KeyCustody.Proofs.Custodian.Consistency
import KeyCustody.Proofs.Engine
import KeyCustody.Proofs.Tenancy
import Mathlib.Logic.Function.Basic

/-!
# What concerns one secret

Of an engine that holds many secrets, fetching or destroying one concerns its entry, its record and the material
behind its entry. Where the references of the entries are apart, calls that concern different secrets may
change places. Records are seen here as what is found under each key: in what order they are kept does not tell.
-/

namespace KeyCustody

open Program
open Registry (Entry Store)

/-! ## Calls -/

/-- Fetching or destroying the secret under a key may make the call, where `owns` are the references of its
entry. -/
def Call.Concerns (owns : String → Prop) (key : Tenant × String) : Call → Prop
  | getEntry tenant id | deleteEntry tenant id => (tenant, id) = key
  | getRecord caller id | changeRecord caller id _ | deleteRecord caller id => (caller.tenant, id) = key
  | findMaterial ref | dropMaterial ref => owns ref
  | now | count _ => True
  | _ => False

/-- A record that is found is under its own identifier, and an entry names references that `owns` has. -/
def Tells (owns : String → Prop) : Event → Prop
  | ⟨.getEntry _ _, .ok e⟩ => ∀ ref, e.secret? = some ref → owns ref
  | ⟨.getRecord _ id, .ok (some s)⟩ => s.id = id
  | _ => True

section
variable {owns owns' : String → Prop} {key key' : Tenant × String} {v u : Event} {c : Call} {x x₁ : c.Answer}

/-! ## Entries -/

namespace Registry.Store

/-- Nothing, or the deletion of an entry. -/
inductive Loses (key : Tenant × String) : (Store → Store) → Prop
  | nothing : Loses key id
  | entry : Loses key fun s => (s.delete key.1 key.2).2

theorem delete_answer {s : Store} {tenant : Tenant} {id : String} :
    ((s.delete key.1 key.2).2.delete tenant id).1 = (s.delete tenant id).1 := by
  cases s with
  | map => rfl
  | table isReady => cases isReady <;> rfl

theorem delete_comm {s : Store} :
    ((s.delete key.1 key.2).2.delete key'.1 key'.2).2 = ((s.delete key'.1 key'.2).2.delete key.1 key.2).2 := by
  cases s with
  | map => exact congrArg map (List.filter_comm ..)
  | table isReady rows =>
    cases isReady with
    | false => rfl
    | true =>
      refine congrArg (table true) ?_
      simp only [List.map_map]
      refine List.map_congr_left fun r _ => ?_
      -- a row that is marked as deleted is not live under any key
      have marked : ∀ k : Tenant × String, ({ r with deleted := true } : Row).isLive k.1 k.2 = false := by
        simp [Row.isLive]
      by_cases mine : r.isLive key.1 key.2 = true
      · by_cases other : r.isLive key'.1 key'.2 = true <;> simp [mine, other, marked]
      · by_cases other : r.isLive key'.1 key'.2 = true <;> simp [mine, other, marked]

theorem Loses.comm {d d' : Store → Store} (h : Loses key d) (h' : Loses key' d') (s : Store) :
    d' (d s) = d (d' s) := by
  cases h with
  | nothing => rfl
  | entry =>
    cases h' with
    | nothing => rfl
    | entry => exact delete_comm

theorem minds (different : key ≠ key') (concerns : v.call.Concerns owns key) :
    Minds (Store.world .never) (Loses key) (Loses key') v := by
  obtain ⟨c, x⟩ := v
  cases c with
  | getEntry tenant id =>
    obtain rfl : (tenant, id) = key := concerns
    refine .of_answer (f := get tenant id) .nothing (fun s _ => Fault.never_admits_iff (s := s)) fun _ other s => ?_
    cases other with
    | nothing => rfl
    | entry => exact get_delete_other different
  | deleteEntry tenant id =>
    obtain rfl : (tenant, id) = key := concerns
    refine .of_answer (f := fun s => (s.delete tenant id).1) .entry (fun s _ => Fault.never_admits_iff (s := s))
      fun _ other s => ?_
    cases other with
    | nothing => rfl
    | entry => exact delete_answer
  | addEntry | updateEntry => exact concerns.elim
  | _ => exact .idle .nothing fun _ _ => Iff.rfl

end Registry.Store

/-! ## Material -/

namespace Vault.Contents

/-- Nothing, or dropping material under a reference that `owns` has. -/
inductive Loses (owns : String → Prop) : (Vault.Contents → Vault.Contents) → Prop
  | nothing : Loses owns id
  | material {ref : String} (own : owns ref) : Loses owns (·.drop ref)

theorem Loses.comm {d d' : Vault.Contents → Vault.Contents} (h : Loses owns d) (h' : Loses owns' d')
    (v : Vault.Contents) : d' (d v) = d (d' v) := by
  cases h with
  | nothing => rfl
  | material =>
    cases h' with
    | nothing => rfl
    | material => exact List.filter_comm ..

theorem minds (apart : ∀ ref, owns ref → ¬ owns' ref) (concerns : v.call.Concerns owns key) :
    Minds Vault.Contents.world (Loses owns) (Loses owns') v := by
  obtain ⟨c, x⟩ := v
  cases c with
  | findMaterial ref =>
    refine .of_answer (f := fun v => v.lookup ref) .nothing (fun _ _ => Iff.rfl) fun _ other v => ?_
    cases other with
    | nothing => rfl
    | material own =>
      have different : ref ≠ _ := fun same => apart ref concerns (same ▸ own)
      exact Keyed.lookup_erase_other different
  | dropMaterial ref =>
    refine .of_answer (f := fun _ => ()) (.material concerns) (fun _ _ => ?_) fun _ _ _ => rfl
    exact (and_iff_right rfl).symm
  | putMaterial => exact concerns.elim
  | _ => exact .idle .nothing fun _ _ => Iff.rfl

end Vault.Contents

/-- Entries and material each go their way. -/
theorem Stock.swaps (different : key ≠ key') (apart : ∀ ref, owns ref → ¬ owns' ref)
    (concerns : v.call.Concerns owns key) (concerns' : u.call.Concerns owns' key') :
    Swaps (Stock.world .never) v u := by
  have store : Swaps (Store.world .never) v u :=
    (Store.minds different concerns).swaps (Store.minds different.symm concerns') fun _ _ h h' => h.comm h'
  have material : Swaps Vault.Contents.world v u :=
    (Vault.Contents.minds apart concerns).swaps (Vault.Contents.minds (fun ref own' own => apart ref own own') concerns')
      fun _ _ h h' => h.comm h'
  intro x x₁ x₂ before after
  obtain ⟨store, ahead, behind⟩ := store _ _ _ before.1 after.1
  obtain ⟨material, ahead', behind'⟩ := material _ _ _ before.2 after.2
  exact ⟨⟨store, material⟩, ⟨ahead, ahead'⟩, ⟨behind, behind'⟩⟩

end

/-! ## Records -/

namespace Catalog

/-- What is found under each key. -/
abbrev File := Tenant × String → Option Secret

namespace File

/-- Makes something of the record under a key, if there is one. -/
def revise (key : Tenant × String) (f : Secret → Secret) (v : File) : File :=
  Function.update v key ((v key).map f)

/-- The catalog that finds what is on file, at a given time. -/
def world (now : Time.Instant) : World File
  | .getRecord caller id, v, x, v' => x = .ok (v (caller.tenant, id)) ∧ v' = v
  | .changeRecord caller id c, v, x, v' =>
    x = (v (caller.tenant, id)).elim (.error (.noSecret id)) (fun _ => .ok ()) ∧
      v' = v.revise (caller.tenant, id) (·.enter c)
  | .deleteRecord caller id, v, x, v' =>
    x = (v (caller.tenant, id)).elim (.error (.noSecret id))
        (fun s => .ok { s with deleted := true, phase := .destroyed }) ∧
      v' = v.revise (caller.tenant, id) fun s => { s with deleted := true, phase := .destroyed }
  | .now, v, x, v' => x = now ∧ v' = v
  | _, v, _, v' => v' = v

/-- Nothing, or a revision of the record under a key. -/
inductive Revises (key : Tenant × String) : (File → File) → Prop
  | nothing : Revises key id
  | record (f : Secret → Secret) : Revises key (·.revise key f)

variable {owns owns' : String → Prop} {key key' : Tenant × String} {v u : Event} {now : Time.Instant}

theorem revise_other {f : Secret → Secret} {v : File} (different : key ≠ key') : v.revise key' f key = v key :=
  Function.update_of_ne different ..

theorem Revises.comm {d d' : File → File} (different : key ≠ key') (h : Revises key d) (h' : Revises key' d')
    (v : File) : d' (d v) = d (d' v) := by
  cases h with
  | nothing => rfl
  | record f =>
    cases h' with
    | nothing => rfl
    | record f' =>
      simp only [revise, Function.update_of_ne different, Function.update_of_ne different.symm]
      exact Function.update_comm different _ _ v

/-- Whatever is made of other records, a record is found alike. -/
theorem Revises.found {d : File → File} (different : key ≠ key') (other : Revises key' d) (v : File) :
    d v key = v key := by
  cases other with
  | nothing => rfl
  | record => exact revise_other different

theorem minds (different : key ≠ key') (concerns : v.call.Concerns owns key) :
    Minds (File.world now) (Revises key) (Revises key') v := by
  obtain ⟨c, x⟩ := v
  cases c with
  | getRecord caller id =>
    obtain rfl : (caller.tenant, id) = key := concerns
    exact .of_answer (f := fun v => .ok (v (caller.tenant, id))) .nothing (fun _ _ => Iff.rfl)
      fun _ other v => congrArg _ (other.found different v)
  | changeRecord caller id c =>
    obtain rfl : (caller.tenant, id) = key := concerns
    exact .of_answer (f := fun v => (v _).elim _ _) (.record _) (fun _ _ => Iff.rfl)
      fun _ other v => congrArg (Option.elim · _ _) (other.found different v)
  | deleteRecord caller id =>
    obtain rfl : (caller.tenant, id) = key := concerns
    exact .of_answer (f := fun v => (v _).elim _ _) (.record _) (fun _ _ => Iff.rfl)
      fun _ other v => congrArg (Option.elim · _ _) (other.found different v)
  | now => exact .of_answer (f := fun _ => now) .nothing (fun _ _ => Iff.rfl) fun _ _ _ => rfl
  | _ => exact .idle .nothing fun _ _ => Iff.rfl

theorem revise_missing {f : Secret → Secret} {v : File} (missing : v key = none) : v.revise key f = v := by
  rw [revise, missing, Option.map_none, ← missing, Function.update_eq_self]

end File

/-- Records as what is found under each key. -/
def Records.file (r : Records) : File := fun key => r.lookup key

theorem Records.file_put {r : Records} {key : Tenant × String} {s : Secret} :
    (r.put key s).file = Function.update r.file key (some s) := by
  funext key'
  by_cases same : key' = key
  · subst same
    rw [Function.update_self]
    exact Keyed.lookup_put_self
  · rw [Function.update_of_ne same]
    exact Keyed.lookup_put_other same

/-- What is made of a record, if there is one, is put in its place. -/
theorem Records.file_made {α : Type} {r : Records} {key : Tenant × String} {answer : Secret → α} {missing : α}
    {f : Secret → Secret} {made : α × Records}
    (h : made = match r.lookup key with
      | some s => (answer s, r.put key (f s))
      | none => (missing, r)) :
    made.1 = (r.file key).elim missing answer ∧ made.2.file = r.file.revise key f := by
  subst h
  have same : r.file key = r.lookup key := rfl
  cases found : r.lookup key with
  | none =>
    rw [found] at same
    exact ⟨congrArg (Option.elim · missing answer) same.symm, (File.revise_missing same).symm⟩
  | some s =>
    rw [found] at same
    refine ⟨congrArg (Option.elim · missing answer) same.symm, Records.file_put.trans ?_⟩
    rw [File.revise, same, Option.map_some]

end Catalog

/-! ## What is found at a time -/

/-- Stock and what is on file, where no call fails and it is always the same time. -/
abbrev standing (now : Time.Instant) : World (Stock × Catalog.File) :=
  both (Stock.world .never) (Catalog.File.world now)

section
variable {owns owns' : String → Prop} {key key' : Tenant × String} {v u : Event} {now : Time.Instant}

/-- Of calls that concern different secrets either may come first. -/
theorem swaps_of_apart (different : key ≠ key') (apart : ∀ ref, owns ref → ¬ owns' ref)
    (concerns : v.call.Concerns owns key) (concerns' : u.call.Concerns owns' key') :
    Swaps (standing now) v u := by
  refine (Stock.swaps different apart concerns concerns').both ?_
  exact (Catalog.File.minds different concerns).swaps (Catalog.File.minds different.symm concerns')
    fun _ _ h h' => h.comm different h'

variable {c : Call} {x x₁ : c.Answer} {z z' z₁ : Stock × Catalog.File}

theorem Catalog.File.world_once {v v' v₁ : File} (h : File.world now c v x v') (h₁ : File.world now c v x₁ v₁) :
    v' = v₁ := by
  cases c with
  | getRecord | changeRecord | deleteRecord | now => exact h.2.trans h₁.2.symm
  | _ => exact Eq.trans h (Eq.symm h₁)

/-- There is one answer to a call that concerns a secret. -/
theorem standing_once (concerns : c.Concerns owns key) (h : standing now c z x z') (h₁ : standing now c z x₁ z₁) :
    x = x₁ ∧ z' = z₁ := by
  obtain ⟨⟨s', m'⟩, v'⟩ := z'
  obtain ⟨⟨s₁, m₁⟩, v₁⟩ := z₁
  obtain ⟨⟨store, material⟩, file⟩ := h
  obtain ⟨⟨store₁, material₁⟩, file₁⟩ := h₁
  obtain rfl : s' = s₁ := Store.world_once store store₁
  obtain rfl : m' = m₁ := Vault.Contents.world_once material material₁
  obtain rfl : v' = v₁ := Catalog.File.world_once file file₁
  refine ⟨?_, rfl⟩
  cases c with
  | getEntry | deleteEntry => exact (Fault.Admits.once (s := z.1.store) store store₁).1
  | getRecord | changeRecord | deleteRecord | now => exact file.1.trans file₁.1.symm
  | findMaterial => exact material.1.trans material₁.1.symm
  | dropMaterial | count => rfl
  | _ => exact concerns.elim

end

/-! ## Engines -/

/-- The stock and the records of an engine. -/
def Engine.parts (e : Engine) : Stock × Catalog.Records := (⟨e.store, e.material⟩, e.records)

/-- What is found in an engine. -/
def Engine.sight (e : Engine) : Stock × Catalog.File := (⟨e.store, e.material⟩, e.records.file)

/-- Entries name references of their own, and records are filed. -/
structure Engine.Sited (owns : Tenant × String → String → Prop) (e : Engine) : Prop where
  names : ∀ tenant id x ref, e.store.get tenant id = .ok x → x.secret? = some ref → owns (tenant, id) ref
  filed : e.records.Filed

section
variable {owns : Tenant × String → String → Prop} {key : Tenant × String} {now : Time.Instant} {u : Supply}
  {e e' : Engine} {c : Call} {x : c.Answer}

/-- A call that concerns a secret is answered by what is found. -/
theorem Supply.world_sight (still : ∀ n, u.time n = now) (concerns : c.Concerns (owns key) key)
    (answered : u.world c e x e') : standing now c e.sight x e'.sight := by
  obtain ⟨rfl, rfl⟩ := Prod.mk.inj answered
  cases c with
  | getEntry | deleteEntry => exact ⟨⟨.inl rfl, rfl⟩, rfl⟩
  | findMaterial => exact ⟨⟨rfl, rfl, rfl⟩, rfl⟩
  | dropMaterial | count => exact ⟨⟨rfl, rfl⟩, rfl⟩
  | getRecord => exact ⟨⟨rfl, rfl⟩, rfl, rfl⟩
  | now => exact ⟨⟨rfl, rfl⟩, still _, rfl⟩
  | changeRecord | deleteRecord => exact ⟨⟨rfl, rfl⟩, Catalog.Records.file_made rfl⟩
  | _ => exact concerns.elim

theorem Supply.world_tally (concerns : c.Concerns (owns key) key) (answered : u.world c e x e') :
    Tally.world c e.tally x e'.tally := by
  obtain ⟨rfl, rfl⟩ := Prod.mk.inj answered
  cases c with
  | getEntry | deleteEntry | getRecord | changeRecord | deleteRecord => rfl
  | findMaterial | dropMaterial | now | count => rfl
  | _ => exact concerns.elim

/-- What an engine does for a tenant it does to its stock and its records. -/
theorem Supply.world_parts {f f' : Fault} {tenant : Tenant} {own : String → Prop} (within : c.Within tenant own)
    (answered : u.world c e x e') :
    both (Stock.world f) (Catalog.Records.world f') c e.parts x e'.parts := by
  obtain ⟨rfl, rfl⟩ := Prod.mk.inj answered
  refine ⟨?_, u.world_records e c⟩
  cases c with
  | addEntry | getEntry | deleteEntry => exact ⟨.inl rfl, rfl⟩
  | findMaterial => exact ⟨rfl, rfl, rfl⟩
  | createRecord | getRecord | changeRecord | deleteRecord | listRecords | totalRecords => exact ⟨rfl, rfl⟩
  | putMaterial | dropMaterial => exact ⟨rfl, rfl⟩
  | drawIdentifier | drawReference | drawBytes | now | count => exact ⟨rfl, rfl⟩
  | _ => exact within.elim

theorem Engine.Sited.after (sited : e.Sited owns) (concerns : c.Concerns (owns key) key)
    (answered : u.world c e x e') : e'.Sited owns := by
  obtain ⟨rfl, rfl⟩ := Prod.mk.inj answered
  refine ⟨?_, sited.filed.after (f := .never) (u.world_records e c)⟩
  cases c with
  | deleteEntry tenant id =>
    intro tenant' id' x ref found name
    exact sited.names tenant' id' x ref (Store.get_of_delete found).1 name
  | getEntry | getRecord | changeRecord | deleteRecord => exact sited.names
  | findMaterial | dropMaterial | now | count => exact sited.names
  | _ => exact concerns.elim

theorem Engine.Sited.tells (sited : e.Sited owns) (concerns : c.Concerns (owns key) key)
    (answered : u.world c e x e') : Tells (owns key) ⟨c, x⟩ := by
  obtain ⟨rfl, rfl⟩ := Prod.mk.inj answered
  cases c with
  | getEntry tenant id =>
    obtain rfl : (tenant, id) = key := concerns
    change Tells _ ⟨.getEntry tenant id, e.store.get tenant id⟩
    cases found : e.store.get tenant id with
    | error _ => trivial
    | ok entry => exact fun ref name => sited.names tenant id entry ref found name
  | getRecord caller id =>
    change Tells _ ⟨.getRecord caller id, .ok (e.records.get caller.tenant id)⟩
    cases found : e.records.get caller.tenant id with
    | none => trivial
    | some s => exact sited.filed.of_lookup found
  | _ => trivial

end

end KeyCustody

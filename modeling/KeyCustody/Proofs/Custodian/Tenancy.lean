import KeyCustody.Proofs.Custodian.Consistency
import KeyCustody.Proofs.Custodian.History
import KeyCustody.Proofs.Custodian.Trusting
import KeyCustody.Proofs.Tenancy

/-!
# Tenants that do not see each other

The calls of a request are for the tenant of its caller, as long as the entries of that tenant name material
of its own. In a history of requests of several tenants each is then answered as if it were alone, if it is
supplied with the same.
-/

namespace KeyCustody

open Program
open Registry (Entry Store)

/-! ## Programs for a tenant -/

section
variable {tenant : Tenant} {owns : String → Prop}

theorem chains_confined : Chains fun (_ : Unit) t _ => Confined tenant owns t where
  refl _ := trivial
  append first rest := confined_append first fun _ => rest

/-- Whatever it is answered, the program is confined to a tenant. -/
abbrev Action.Confines (tenant : Tenant) (owns : String → Prop) {α : Type} (p : Action α) : Prop :=
  Respects free (fun _ t _ => Confined tenant owns t) p

theorem Action.confines_of_keeps {α : Type} {p : Action α} {result : α → Prop}
    (keeps : p.Keeps (·.Within tenant owns) result) : Confines tenant owns p :=
  keeps.respects.mono fun _ _ _ => confined_of_within

theorem Action.confines_of_trusts {α : Type} {p : Action α} (h : Trusts (·.Within tenant owns) (Told owns) p) :
    Confines tenant owns p :=
  h.mono fun _ _ _ => confined_iff_trusting.2

theorem handles_within {caller : Caller} {id : String} :
    Handles (·.Within caller.tenant owns) (Told owns) caller id where
  entry := rfl
  finds _ ref told name := told ref name
  drops _ ref told name := told ref name
  removes := rfl
  record := rfl
  changes _ _ _ := rfl
  deletes _ _ := rfl
  marks := rfl
  now := trivial
  counts _ := trivial

/-- Whatever a ledger undoes is undone for a tenant. -/
def Ledger.Within (tenant : Tenant) (owns : String → Prop) (l : Ledger Action) : Prop :=
  ∀ c ∈ l.pending, c.undo.run.Keeps (·.Within tenant owns) fun _ => True

theorem Ledger.Within.enter {l : Ledger Action} {c : Compensation Action} (h : l.Within tenant owns)
    (undo : c.undo.run.Keeps (·.Within tenant owns) fun _ => True) : (l.enter c).Within tenant owns :=
  List.forall_mem_cons.2 ⟨undo, h⟩

end

open KeyCustody.Action (Confines confines_of_keeps confines_of_trusts)

/-! ### The keystore in memory -/

namespace Keystore.InMemory

variable {owns : String → Prop} {tries : Nat} {caller : Caller} {id : String} {t : Trace}

theorem confined_keep {s : Secret} {material : Sealed} {created : Creation Action}
    (h : Run free (keep Action.registry (Call.vault Action.make) (Call.fresh Action.make)
      (Call.candidates Action.make tries) caller s material .empty) () t created ()) :
    Confined caller.tenant owns t ∧ ((∀ v ∈ t, Told owns v) → created.ledger.Within caller.tenant owns) := by
  unfold keep at h
  obtain ⟨_, ref, _, _, rfl, drew, kept⟩ := Run.bind_iff.1 h
  obtain ⟨rfl, -⟩ := Run.ask_iff.1 drew
  obtain ⟨_, _, _, _, rfl, put, issued⟩ := Run.bind_iff.1 kept
  obtain ⟨rfl, -⟩ := Run.ask_iff.1 put
  obtain ⟨t₁, x, _, t₂, rfl, allocated, made⟩ := Run.bind_iff.1 issued
  have allocates (own : owns ref) : Confined caller.tenant owns t₁ := by
    refine confines_of_keeps (Registry.keeps_allocateWithin trivial (fun _ => rfl) ?_) _ _ _ _ allocated
    refine fun _ => ⟨rfl, fun ref' name => ?_⟩
    have same : Entry.present (some ref) = some ref' := name
    exact Option.some.inj (Option.filter_eq_some_iff.1 same).1 ▸ own
  have drops (own : owns ref) : (Ledger.empty.enter ⟨"delete memory material",
      ExceptT.lift ((Call.vault Action.make).drop ref)⟩).Within caller.tenant owns :=
    List.forall_mem_singleton.2 ⟨own, fun _ => trivial⟩
  have ended : t₂ = [] ∧ (owns ref → created.ledger.Within caller.tenant owns) := by
    cases x with
    | error _ =>
      obtain ⟨rfl, rfl, -⟩ := Run.pure_iff.1 made
      exact ⟨rfl, drops⟩
    | ok _ =>
      obtain ⟨rfl, rfl, -⟩ := Run.pure_iff.1 made
      exact ⟨rfl, fun own => (drops own).enter ⟨rfl, fun _ => trivial⟩⟩
  obtain ⟨rfl, undoes⟩ := ended
  rw [List.append_nil]
  exact ⟨⟨trivial, fun own => ⟨own, fun _ => allocates own⟩⟩, fun told => undoes (told _ List.mem_cons_self)⟩

theorem confined_create {s : Secret} {created : Creation Action}
    (h : Run free ((Action.memoryKeystore tries).create caller s .empty) () t created ()) :
    Confined caller.tenant owns t ∧ ((∀ v ∈ t, Told owns v) → created.ledger.Within caller.tenant owns) := by
  change Run free (create Action.registry (Call.vault Action.make) (Call.fresh Action.make)
    (Call.candidates Action.make tries) caller s .empty) () t created () at h
  unfold create at h
  cases given : s.material? with
  | some material =>
    simp only [given] at h
    exact confined_keep h
  | none =>
    simp only [given] at h
    cases asked : s.keyParameters with
    | error _ =>
      simp only [asked] at h
      obtain ⟨rfl, rfl, -⟩ := Run.pure_iff.1 h
      exact ⟨trivial, fun _ => List.forall_mem_nil _⟩
    | ok key =>
      simp only [asked] at h
      obtain ⟨t₁, material, _, t₂, rfl, generated, kept⟩ := Run.bind_iff.1 h
      have generates : (generate (Call.fresh Action.make) key.bitLength).Keeps
          (·.Within caller.tenant owns) fun _ => True := ⟨trivial, fun _ => trivial⟩
      obtain ⟨confined, undoes⟩ := @confined_keep owns _ _ _ _ _ _ kept
      refine ⟨confined_append (confines_of_keeps generates _ _ _ _ generated) fun _ => confined, ?_⟩
      exact fun told => undoes fun v member => told v (List.mem_append_right _ member)

end Keystore.InMemory

/-! ### Requests -/

namespace Custodian

variable {owns : String → Prop} {tenant : Tenant} {tries : Nat} {caller : Caller} {id : String}

theorem confines_place {s : Secret} :
    Confines caller.tenant owns ((Action.custodian (Action.memoryKeystore tries)).place caller s) := by
  -- what is taken back is what the creation has told of
  have undoes {l l' : Ledger Action} {t : Trace} (within : l.Within caller.tenant owns)
      (h : Run free ((Action.custodian (Action.memoryKeystore tries)).rollBack "create" l) () t l' ()) :
      Confined caller.tenant owns t :=
    confines_of_keeps (keeps_rollBack (fun _ => trivial) within) _ _ _ _ h
  rintro _ t ⟨x, l⟩ _ h
  cases x with
  | error _ =>
    cases run_place_error h with
    | invalid => exact trivial
    | refused made _ undone =>
      obtain ⟨confined, within⟩ := @Keystore.InMemory.confined_create owns _ _ _ _ _ made
      exact confined_append confined fun told => undoes (within told) undone
    | unrecorded made _ own _ _ undone =>
      subst own
      obtain ⟨confined, within⟩ := @Keystore.InMemory.confined_create owns _ _ _ _ _ made
      refine confined_append (confined_append confined fun _ => ?_) fun told => undoes (within ?_) undone
      · exact ⟨trivial, fun _ => ⟨⟨rfl, rfl⟩, fun _ => trivial⟩⟩
      · exact fun v member => told v (List.mem_append_left _ member)
  | ok _ =>
    obtain ⟨_, _, _, _, _, _, _, _, _, rfl, made, -, read, filed, -⟩ := run_place_stored h
    obtain ⟨rfl, -⟩ := Run.ask_iff.1 read
    obtain ⟨rfl, -⟩ := Run.ask_iff.1 filed
    refine confined_append (Keystore.InMemory.confined_create made).1 fun _ => ?_
    exact ⟨trivial, fun _ => ⟨⟨rfl, rfl⟩, fun _ => trivial⟩⟩

theorem confines_observe {s : Secret} :
    Confines caller.tenant owns (Lifecycle.observe ((Action.memoryKeystore tries).check caller) s) := by
  unfold Lifecycle.observe
  by_cases waiting : s.phase ≠ .preactivation
  · rw [if_pos waiting]
    exact .pure chains_confined _
  · rw [if_neg waiting]
    exact .bind chains_confined (confines_of_trusts (Keystore.InMemory.trusts_check handles_within)) fun _ => .pure chains_confined _

theorem confines_readPage {q : Catalog.Query} :
    Confines caller.tenant owns ((Action.custodian (Action.memoryKeystore tries)).readPage caller q).run := by
  have lists : (Action.catalog.list caller q).run.Keeps (·.Within caller.tenant owns) fun _ => True :=
    ⟨rfl, fun _ => trivial⟩
  have dates : (ExceptT.lift Action.now : ExceptT Error Action _).run.Keeps (·.Within caller.tenant owns)
      fun _ => True := ⟨trivial, fun _ => trivial⟩
  refine .bindExcept chains_confined (.pure chains_confined _) fun _ => ?_
  refine .bindExcept chains_confined (confines_of_keeps lists) fun page => ?_
  refine .bindExcept chains_confined (confines_of_keeps dates) fun now => ?_
  refine .bindExcept chains_confined (.bind chains_confined ?_ fun _ => .pure chains_confined _)
    fun _ => .pure chains_confined _
  refine .bind chains_confined (.mapM chains_confined fun _ _ => confines_observe) fun observed => ?_
  refine .mapM chains_confined fun p _ => .bind chains_confined ?_ fun _ => .pure chains_confined _
  exact confines_of_keeps (Action.keeps_settling (fun _ => rfl) rfl fun _ => trivial)

theorem confines_perform {q : Request} : Confines q.caller.tenant owns
    ((Action.custodian (Action.memoryKeystore tries)).perform q) := by
  refine respects_perform chains_confined ?_ ?_ ?_ ?_ ?_ ?_
  · exact fun _ => .ask fun _ _ _ _ => ⟨trivial, fun _ => trivial⟩
  · rintro caller s whole rfl
    exact confines_place
  · exact fun _ => confines_of_trusts (trusts_read handles_within)
  · exact fun _ => confines_readPage
  · exact fun _ => .ask fun _ _ _ _ => ⟨rfl, fun _ => trivial⟩
  · exact fun _ _ => confines_of_trusts (trusts_remove handles_within)

/-! ## Histories -/

section
variable {y y' y₁ z : Stock × Catalog.Records} {h h₁ : History}

/-- In a history of several tenants, each is answered as it would be alone. -/
theorem Serves.alone {owns : Tenant → String → Prop}
    (serves : Serves unfailing (Action.custodian (Action.memoryKeystore tries)) y h y')
    (alone : Alone tenant (owns tenant) y z) (named : Named owns y.1.store)
    (drew : ∀ e ∈ h, ∀ ref ∈ drawn e.calls, owns e.request.caller.tenant ref)
    (apart : ∀ tenant', tenant' ≠ tenant → ∀ ref, owns tenant' ref → ¬ owns tenant ref) :
    ∃ z', Serves unfailing (Action.custodian (Action.memoryKeystore tries)) z (h.only tenant) z' ∧
      Alone tenant (owns tenant) y' z' := by
  induction serves generalizing z with
  | nil => exact ⟨z, .nil z, alone⟩
  | @cons y y₁ y' q t x h first _ ih =>
    obtain ⟨drewFirst, others⟩ := List.forall_mem_cons.1 drew
    have confined : Confined q.caller.tenant (owns q.caller.tenant) t :=
      confines_perform _ _ _ _ first.free
    obtain ⟨within, named⟩ := named.after_run drewFirst confined first
    by_cases own : q.caller.tenant = tenant
    · rw [History.only_cons_own own]
      subst own
      obtain ⟨z₁, ran, alone⟩ := alone.own_run within first
      obtain ⟨z', served, alone⟩ := ih alone named others
      exact ⟨z', .cons ran served, alone⟩
    · rw [History.only_cons_other own]
      exact ih (alone.other_run own (apart _ own) within first) named others

/-- The requests of a history, each with what it was supplied with. -/
def History.inputs (h : History) : List (Request × List Given) := h.map fun e => (e.request, supplied e.calls)

/-- A history depends on its requests and what they are supplied with. -/
theorem Serves.once (serves : Serves unfailing (Action.custodian (Action.memoryKeystore tries)) y h y')
    (serves₁ : Serves unfailing (Action.custodian (Action.memoryKeystore tries)) y h₁ y₁)
    (same : h.inputs = h₁.inputs) : h = h₁ ∧ y' = y₁ := by
  induction serves generalizing h₁ with
  | nil =>
    cases serves₁ with
    | nil => exact ⟨rfl, rfl⟩
    | cons => cases same
  | @cons y z y' q t x h first _ ih =>
    cases serves₁ with
    | nil => cases same
    | @cons _ z₁ _ q₁ t₁ x₁ h₁ first₁ rest₁ =>
      obtain ⟨input, inputs⟩ := List.cons.inj same
      obtain ⟨rfl, given⟩ := Prod.mk.inj input
      have confined : Confined q.caller.tenant (fun _ => True) t :=
        confines_perform _ _ _ _ first.free
      obtain ⟨rfl, rfl, rfl⟩ := ran_once confined.within given first first₁
      obtain ⟨rfl, rfl⟩ := ih rest₁ inputs
      exact ⟨rfl, rfl⟩

/-- Requests of several tenants to a custodian over a keystore in memory, in any order, from nothing, where no
reference is drawn twice: each tenant is answered, and ends with the entries and records, as if the requests of
the others were not made. So it is in any history of its requests alone in which each is supplied with the same
clock readings, identifiers, references and random bytes, and there is one. -/
theorem served_as_if_alone {start : Store} {x : Stock} {r : Catalog.Records}
    (empty : start = .table true [] ∨ start = .map [])
    (serves : Serves unfailing (Action.custodian (Action.memoryKeystore tries)) (⟨start, []⟩, []) h (x, r))
    (distinct : (drawn h.calls).Nodup) (tenant : Tenant) :
    (∃ x', Serves unfailing (Action.custodian (Action.memoryKeystore tries)) (⟨start, []⟩, []) (h.only tenant)
      (x', Keyed.share tenant r)) ∧
    ∀ h' x' r', Serves unfailing (Action.custodian (Action.memoryKeystore tries)) (⟨start, []⟩, []) h' (x', r') →
      h'.inputs = (h.only tenant).inputs →
      h' = h.only tenant ∧ x'.store = x.store.share tenant ∧ r' = Keyed.share tenant r := by
  have alone : Alone tenant (h.Draws tenant) (⟨start, []⟩, []) (⟨start, []⟩, []) := by
    refine ⟨?_, rfl, fun _ _ => rfl⟩
    obtain rfl | rfl := empty <;> rfl
  have named : Named h.Draws start := by
    intro _ _ _ _ found
    obtain rfl | rfl := empty <;> cases found
  have drew : ∀ e ∈ h, ∀ ref ∈ drawn e.calls, h.Draws e.request.caller.tenant ref :=
    fun e member _ drew => ⟨e, member, rfl, drew⟩
  obtain ⟨⟨x', r'⟩, served, store, rfl, -⟩ := serves.alone alone named drew
    fun _ different _ drew => drew.apart distinct different
  refine ⟨⟨x', served⟩, fun h₁ x₁ r₁ serves₁ same => ?_⟩
  obtain ⟨rfl, ended⟩ := serves₁.once served same
  obtain ⟨rfl, rfl⟩ := Prod.mk.inj ended
  exact ⟨rfl, store, rfl⟩

end

/-- Two tenants of one space issue the same identifier; one destroys what the other still fetches. -/
theorem served_as_if_alone_of_shared_identifier :
    let here : Caller := ⟨⟨"s", "o"⟩, "c", none⟩
    let there : Caller := ⟨⟨"s", "p"⟩, "c", none⟩
    let secret : Secret := { Secret.named "key" with payload := some ⟨"material"⟩ }
    let c := Action.custodian (Action.memoryKeystore 1)
    let among := c.serve (Depot.answer unissued) ⟨⟨.table true [], []⟩, [], 0⟩ [.create here secret true,
      .create there secret true, .destroy there "k" false, .fetch here "k"]
    let alone := c.serve (Depot.answer unissued) ⟨⟨.table true [], []⟩, [], 0⟩
      [.create here secret true, .fetch here "k"]
    (drawn among.1.calls).Nodup ∧ alone.1.inputs = (among.1.only here.tenant).inputs ∧
      among.1.map (·.reply.isOk) = [true, true, true, true] ∧ alone.1 = among.1.only here.tenant ∧
      alone.2.stock.store = among.2.stock.store.share here.tenant ∧
      alone.2.records = Keyed.share here.tenant among.2.records := by
  intro here there secret c among alone
  let parts (y : Depot) : Stock × Catalog.Records := (y.stock, y.records)
  have playedAmong : Serves unfailing c (⟨.table true [], []⟩, []) among.1 (parts among.2) :=
    serves_serve parts (Depot.world_parts unissued) _ ⟨⟨.table true [], []⟩, [], 0⟩
  have playedAlone : Serves unfailing c (⟨.table true [], []⟩, []) alone.1 (parts alone.2) :=
    serves_serve parts (Depot.world_parts unissued) _ ⟨⟨.table true [], []⟩, [], 0⟩
  have distinct : (drawn among.1.calls).Nodup := by decide +kernel
  have same : alone.1.inputs = (among.1.only here.tenant).inputs := by decide +kernel
  have replies : among.1.map (·.reply.isOk) = [true, true, true, true] := by decide +kernel
  clear_value among alone
  obtain ⟨-, once⟩ := served_as_if_alone (.inl rfl) playedAmong distinct here.tenant
  exact ⟨distinct, same, replies, once _ _ _ playedAlone same⟩

end Custodian

end KeyCustody

import KeyCustody.Proofs.Custodian.Request
import KeyCustody.Proofs.Engine
import KeyCustody.Proofs.Keystore.Filling
import KeyCustody.Proofs.Keystore.Frame
import KeyCustody.Proofs.Lifecycle
import KeyCustody.Proofs.Lifecycle.Transitions
import KeyCustody.Proofs.Run
import Mathlib.Data.List.Forall2

/-!
# Which material leaves the engine

A reply carries material only if its request may have it: a creation answers with what was submitted,
a fetch and a destruction with what the keystore returned to that very request, and nothing that is
not extractable is among it. Pages, counts and summaries carry none. The collaborators may be any, and
may answer or fail as they like, as long as the catalog shows no material.
-/

namespace KeyCustody

open Keystore (Observation)
open Program

variable {C : Type} {A : C → Type} {σ : Type} {w : Program.World C A σ}
  {t u : List (Program.Event C A)} {s s' : σ}

/-! ## What catalogs and keystores do with material -/

/-- No record that the catalog has returned in the trace holds material. -/
structure Catalog.ShowsNoMaterial (w : Program.World C A σ)
    (catalog : Catalog (Program C A)) (t : List (Program.Event C A)) : Prop where
  create : ∀ {caller submitted stored},
    Ran w (catalog.create caller submitted).run (.ok stored) t → stored.payload = none
  get : ∀ {caller id record},
    Ran w (catalog.get caller id).run (.ok (some record)) t → record.payload = none
  delete : ∀ {caller id gone},
    Ran w (catalog.delete caller id).run (.ok gone) t → gone.payload = none
  list : ∀ {caller q page},
    Ran w (catalog.list caller q).run (.ok page) t → ∀ record ∈ page, record.payload = none

theorem Catalog.ShowsNoMaterial.mono {catalog : Catalog (Program C A)}
    (h : catalog.ShowsNoMaterial w t) (part : u <:+: t) : catalog.ShowsNoMaterial w u where
  create ran := h.create (ran.mono part)
  get ran := h.get (ran.mono part)
  delete ran := h.delete (ran.mono part)
  list ran := h.list (ran.mono part)

namespace Keystore

/-- A creation leaves the material of a secret, and whether it is extractable, as submitted. -/
def Creation.Keeps {m : Type → Type} (submitted : Secret) (created : Creation m) : Prop :=
  created.secret.payload = submitted.payload ∧ created.secret.extractable = submitted.extractable

/-- Every creation in the trace has left the material as submitted. -/
def KeepsMaterial (w : Program.World C A σ) (k : Keystore (Program C A))
    (t : List (Program.Event C A)) : Prop :=
  ∀ {caller submitted created}, Ran w (k.create caller submitted .empty) created t →
    created.Keeps submitted

theorem Creation.IsOf.keeps {m : Type → Type} {submitted : Secret} {created : Creation m}
    (h : created.IsOf submitted) : created.Keeps submitted := by
  obtain ⟨change, own⟩ := h
  rw [Secret.filled_others] at own
  rw [Creation.Keeps, own]
  exact ⟨rfl, rfl⟩

theorem keepsMaterial_memoryKeystore {tries : Nat} {w : World σ} {t : Trace} :
    (Action.memoryKeystore tries).KeepsMaterial w t := by
  rintro caller submitted created ⟨_, _, _, -, run⟩
  exact (isOf_inMemory.of_run run).keeps

theorem keepsMaterial_barbicanKeystore {tries : Nat} {w : World σ} {t : Trace} :
    (Action.barbicanKeystore tries).KeepsMaterial w t := by
  rintro caller submitted created ⟨_, _, _, -, run⟩
  exact (isOf_networked.of_run run).keeps

end Keystore

/-! ## Settling -/

/-- A verdict that changes nothing is the phase as it is. -/
theorem Secret.assess_unchanged {r : Secret} {observed : Option Phase} {now : Time.Instant}
    (h : (r.assess observed now).changed = false) : (r.assess observed now).phase = r.phase :=
  Decidable.not_not.1 fun moved =>
    Bool.eq_false_iff.1 h ((finding_assess r observed now).changed_iff.2 moved)

/-- Writing a verdict leaves the material of a record as it is, and whether it is extractable. -/
theorem Lifecycle.run_write_result {catalog : Catalog (Program C A)}
    {count : Counter → Program C A Unit} {caller : Caller} {r r' : Secret} {v : Verdict}
    {x : Except Error Unit} (h : Run w (write catalog count caller r v) s t (x, r') s') :
    r'.payload = r.payload ∧ r'.extractable = r.extractable ∧ (x = .ok () → r'.phase = v.phase) := by
  obtain ⟨_, y, _, _, rfl, -, ended⟩ := Run.bind_iff.1 h
  cases y with
  | error _ =>
    obtain ⟨-, same, -⟩ := Run.pure_iff.1 ended
    obtain ⟨rfl, rfl⟩ := Prod.mk.inj same
    exact ⟨rfl, rfl, nofun⟩
  | ok _ =>
    obtain ⟨_, _, _, _, rfl, -, passed⟩ := Run.bind_iff.1 ended
    obtain ⟨-, same, -⟩ := Run.pure_iff.1 passed
    obtain ⟨rfl, rfl⟩ := Prod.mk.inj same
    exact ⟨rfl, rfl, fun _ => rfl⟩

/-- Settling leaves the material of a record as it is, and whether it is extractable; if it succeeds,
the record is in the phase of the verdict. -/
theorem Lifecycle.run_settle_result {catalog : Catalog (Program C A)}
    {count : Counter → Program C A Unit} {caller : Caller} {r r' : Secret} {v : Verdict}
    {x : Except Error Unit} (h : Run w (settle catalog count caller r v) s t (x, r') s') :
    r'.payload = r.payload ∧ r'.extractable = r.extractable ∧
      (x = .ok () → v.changed = false ∧ r' = r ∨ r'.phase = v.phase) := by
  cases changed : v.changed with
  | false =>
    rw [settle_unchanged changed] at h
    obtain ⟨-, same, -⟩ := Run.pure_iff.1 h
    obtain ⟨rfl, rfl⟩ := Prod.mk.inj same
    exact ⟨rfl, rfl, fun _ => .inl ⟨rfl, rfl⟩⟩
  | true =>
    cases failed : v.generationFailed with
    | false =>
      rw [settle_changed changed failed] at h
      obtain ⟨payload, extractable, phase⟩ := run_write_result h
      exact ⟨payload, extractable, fun well => .inr (phase well)⟩
    | true =>
      rw [settle_failed changed failed] at h
      obtain ⟨_, y, _, _, rfl, -, ended⟩ := Run.bind_iff.1 h
      cases y with
      | error _ =>
        obtain ⟨-, same, -⟩ := Run.pure_iff.1 ended
        obtain ⟨rfl, rfl⟩ := Prod.mk.inj same
        exact ⟨rfl, rfl, nofun⟩
      | ok _ =>
        obtain ⟨payload, extractable, phase⟩ := run_write_result ended
        exact ⟨payload, extractable, fun well => .inr (phase well)⟩

/-- Verdicts written on a list of records leave their material as it is. -/
theorem Lifecycle.run_settleAll_payload {catalog : Catalog (Program C A)}
    {count : Counter → Program C A Unit} {caller : Caller} {now : Time.Instant}
    {pairs : List (Secret × Option Phase)} {secrets : List Secret}
    (h : Run w (pairs.mapM fun p =>
      return (← settle catalog count caller p.1 (p.1.assess p.2 now)).2) s t secrets s') :
    ∀ r' ∈ secrets, ∃ p ∈ pairs, r'.payload = p.1.payload := by
  induction pairs generalizing s t secrets with
  | nil =>
    obtain ⟨-, rfl, -⟩ := Run.pure_iff.1 h
    exact fun _ member => by cases member
  | cons p pairs ih =>
    obtain ⟨_, _, _, _, _, rfl, rfl, settled, others⟩ := Run.mapM_mapped_cons h
    refine List.forall_mem_cons.2 ⟨⟨p, List.mem_cons_self, (run_settle_result settled).1⟩, ?_⟩
    intro r' member
    obtain ⟨p', among, same⟩ := ih others r' member
    exact ⟨p', List.mem_cons_of_mem _ among, same⟩

namespace Custodian

/-! ## Replies -/

/-- The material that a reply carries. -/
def Reply.carried : Reply → List Sealed
  | .secret shown => shown.payload.toList
  | .page secrets => secrets.filterMap Secret.payload
  | .number _ => []
  | .gone last => (last.bind Secret.payload).toList

/-- The ways in which a request whose calls are `t` may have its reply carry material. -/
inductive Released (w : Program.World C A σ) (c : Custodian (Program C A))
    (t : List (Program.Event C A)) : Request → Reply → Sealed → Prop
  /-- The whole record is asked for, and it is stored as active. The material is that of the secret as
  the keystore left it, which is what was submitted unless the keystore changes that. -/
  | created {caller : Caller} {submitted stored : Secret}
      {created : Keystore.Creation (Program C A)} {id : String} {now : Time.Instant}
      {material : Sealed}
      (kept : Ran w (c.keystore.create caller { submitted with name := Text.trim submitted.name }
        .empty) created t)
      (issued : created.result = .ok id)
      (recorded : Ran w (c.catalog.create caller
        { created.secret with id := id, creation := some now }).run (.ok stored) t)
      (active : stored.phase = .activation)
      (extractable : created.secret.extractable = true)
      (own : created.secret.payload = some material)
      (asSubmitted : c.keystore.KeepsMaterial w t →
        submitted.extractable = true ∧ submitted.payload = some material) :
      Released w c t (.create caller submitted true)
        (.secret { stored with payload := some material }) material
  /-- The record is extractable, and active once it is up to date. -/
  | fetched {caller : Caller} {id : String} {record shown : Secret} {observed : Observation}
      {now : Time.Instant} {material : Sealed}
      (found : Ran w (c.catalog.get caller id).run (.ok (some record)) t)
      (extractable : record.extractable = true)
      (seen : Ran w (c.keystore.payload caller id).run (.ok observed) t)
      (own : observed.payload = some material)
      (asked : Ran w c.now now t)
      (assessed : (record.assess (some observed.phase) now).phase = .activation)
      (active : shown.phase = .activation) :
      Released w c t (.fetch caller id) (.secret { shown with payload := some material }) material
  /-- The whole record is asked for, and the deleted record is extractable. -/
  | destroyed {caller : Caller} {id : String} {gone : Secret} {observed : Observation}
      {material : Sealed}
      (seen : Ran w (c.keystore.payload caller id).run (.ok observed) t)
      (own : observed.payload = some material)
      (marked : Ran w (c.catalog.delete caller id).run (.ok gone) t)
      (extractable : gone.extractable = true) :
      Released w c t (.destroy caller id true)
        (.gone (some { gone with payload := some material })) material

/-! ## Requests -/

section
variable {c : Custodian (Program C A)} {caller : Caller} {id : String}

theorem run_counted {α : Type} {operation : String} {request : Program C A (Except Error α)}
    {x : Except Error α} (h : Run w (c.counted operation request).run s t x s') : Ran w request x t := by
  obtain ⟨_, _, _, rfl, requested, -⟩ := counted_iff.1 h
  exact (Ran.of_run requested).left

/-- A reply is that of the counted request. -/
theorem run_reply {α : Type} {operation : String} {request : Program C A (Except Error α)}
    {answered : α → Reply} {reply : Reply}
    (h : Run w (do return (← (c.counted operation request).run).map answered) s t (.ok reply) s') :
    ∃ a, reply = answered a ∧ Ran w request (.ok a) t := by
  obtain ⟨_, x, _, _, rfl, requested, passed⟩ := Run.bind_iff.1 h
  obtain ⟨-, same, -⟩ := Run.pure_iff.1 passed
  cases x with
  | error _ => cases same
  | ok a => exact ⟨a, Except.ok.inj same, (run_counted requested).left⟩

theorem releaseTo_payload {stored submitted : Secret} {material : Sealed}
    (bare : stored.payload = none) (h : (releaseTo stored submitted).payload = some material) :
    stored.phase = .activation ∧ submitted.extractable = true ∧
      submitted.payload = some material ∧
      releaseTo stored submitted = { stored with payload := some material } := by
  unfold releaseTo at h ⊢
  by_cases may : stored.phase = .activation ∧ submitted.extractable = true
  · rw [if_pos may] at h ⊢
    have own : submitted.payload = some material := h
    rw [own]
    exact ⟨may.1, may.2, rfl, rfl⟩
  · rw [if_neg may, bare] at h
    cases h

theorem released_create {submitted : Secret} {whole : Bool} {reply : Reply} {material : Sealed}
    (bare : c.catalog.ShowsNoMaterial w t)
    (h : Run w (c.perform (.create caller submitted whole)) s t (.ok reply) s')
    (carried : material ∈ reply.carried) :
    Released w c t (.create caller submitted whole) reply material := by
  obtain ⟨shown, rfl, _, u, _, part, requested⟩ := run_reply h
  obtain ⟨_, ⟨x, ledger⟩, _, _, rfl, placed, passed⟩ := Run.bind_iff.1 requested
  obtain ⟨-, same, -⟩ := Run.pure_iff.1 passed
  cases x with
  | error _ => cases same
  | ok last =>
    obtain rfl := Except.ok.inj same
    obtain ⟨created, id, now, stored, _, _, _, _, _, rfl, made, issued, -, filed, rfl⟩ :=
      run_place_stored placed
    have kept := (Ran.of_run made).left.left.mono part
    have recorded := (Ran.of_run filed).right.right.left.mono part
    have own := Option.mem_toList.1 carried
    cases whole with
    | false => cases own
    | true =>
      obtain ⟨active, extractable, own, same⟩ := releaseTo_payload (bare.create recorded) own
      simp only [if_true, same]
      refine .created kept issued recorded active extractable own fun keeps => ?_
      obtain ⟨payload, may⟩ := keeps kept
      exact ⟨may.symm.trans extractable, payload.symm.trans own⟩

/-- The record that a tenant's secret is read from. -/
theorem run_find_ok {record : Secret} (h : Run w (c.find caller id).run s t (.ok record) s') :
    Ran w (c.catalog.get caller id).run (.ok (some record)) t := by
  obtain ⟨_, found, _, _, rfl, got, ended⟩ := Run.bindExcept_ok_iff.1 h
  cases found with
  | none =>
    obtain ⟨-, same, -⟩ := Run.throw_iff.1 ended
    cases same
  | some _ =>
    obtain ⟨-, rfl, -⟩ := Run.pureExcept_ok_iff.1 ended
    exact (Ran.of_run got).left

/-- A record that is brought up to date keeps its material, and is in the phase it should be in. -/
theorem run_update_ok {record shown : Secret} {observed : Option Phase}
    (h : Run w (c.update caller record observed).run s t (.ok shown) s') :
    shown.payload = record.payload ∧ shown.extractable = record.extractable ∧
      ∃ now, Ran w c.now now t ∧ shown.phase = (record.assess observed now).phase := by
  obtain ⟨_, now, _, _, rfl, asked, settled⟩ := Run.bind_iff.1 h
  obtain ⟨_, ⟨x, last⟩, _, _, rfl, settled, passed⟩ := Run.bind_iff.1 settled
  obtain ⟨-, same, -⟩ := Run.pure_iff.1 passed
  cases x with
  | error _ => cases same
  | ok _ =>
    obtain rfl := Except.ok.inj same
    obtain ⟨payload, extractable, outcome⟩ := Lifecycle.run_settle_result settled
    refine ⟨payload, extractable, now, (Ran.of_run asked).left, ?_⟩
    obtain ⟨unchanged, rfl⟩ | phase := outcome rfl
    · exact (Secret.assess_unchanged unchanged).symm
    · exact phase

theorem redact_payload {r : Secret} {material : Sealed} (h : r.redact.payload = some material) :
    r.extractable = true ∧ r.phase = .activation ∧ r.payload = some material ∧ r.redact = r := by
  unfold Secret.redact Secret.isReleasable at h ⊢
  by_cases may : (r.extractable && decide (r.phase = .activation)) = true
  · rw [if_pos may] at h ⊢
    obtain ⟨extractable, active⟩ := Bool.and_eq_true_iff.1 may
    exact ⟨extractable, of_decide_eq_true active, h, rfl⟩
  · rw [if_neg may] at h
    cases h

theorem released_fetch {reply : Reply} {material : Sealed} (bare : c.catalog.ShowsNoMaterial w t)
    (h : Run w (c.perform (.fetch caller id)) s t (.ok reply) s')
    (carried : material ∈ reply.carried) : Released w c t (.fetch caller id) reply material := by
  obtain ⟨shown, rfl, _, u, _, part, requested⟩ := run_reply h
  have own : shown.payload = some material := Option.mem_toList.1 carried
  obtain ⟨_, record, _, _, rfl, looked, ended⟩ := Run.bindExcept_ok_iff.1 requested
  have found := (run_find_ok looked).left.mono part
  have none := bare.get found
  by_cases destroyed : record.phase = .destroyed
  · rw [if_pos destroyed] at ended
    obtain ⟨-, rfl, -⟩ := Run.pureExcept_ok_iff.1 ended
    simp [none] at own
  rw [if_neg destroyed] at ended
  by_cases deleted : record.deleted = true
  · rw [if_pos deleted] at ended
    rw [(run_update_ok ended).1, none] at own
    cases own
  rw [if_neg deleted] at ended
  obtain ⟨_, observed, _, _, rfl, seen, ended⟩ := Run.bindExcept_ok_iff.1 ended
  obtain ⟨_, last, _, _, rfl, updated, passed⟩ := Run.bindExcept_ok_iff.1 ended
  obtain ⟨-, rfl, -⟩ := Run.pureExcept_ok_iff.1 passed
  obtain ⟨-, kept, now, asked, phase⟩ := run_update_ok updated
  obtain ⟨extractable, active, payload, same⟩ := redact_payload own
  rw [same]
  have payload : observed.payload = some material := payload
  rw [payload]
  refine .fetched found (kept.symm.trans extractable) ?_ payload ?_ (phase.symm.trans active) active
  · exact (Ran.of_run seen).left.right.mono part
  · exact asked.left.right.right.mono part

/-- Reading a page leaves the material of its records as the catalog shows it. -/
theorem run_readPage_payload {q : Catalog.Query} {secrets : List Secret}
    (h : Run w (c.readPage caller q).run s t (.ok secrets) s') :
    ∃ page, Ran w (c.catalog.list caller q).run (.ok page) t ∧
      ∀ shown ∈ secrets, ∃ record ∈ page, shown.payload = record.payload := by
  obtain ⟨_, _, _, _, rfl, -, listed⟩ := Run.bindExcept_ok_iff.1 h
  obtain ⟨_, page, _, _, rfl, asked, dated⟩ := Run.bindExcept_ok_iff.1 listed
  obtain ⟨_, now, _, _, rfl, -, settled⟩ := Run.bindLift_iff.1 dated
  obtain ⟨_, last, _, _, rfl, onPage, passed⟩ := Run.bindLift_iff.1 settled
  obtain ⟨-, rfl, -⟩ := Run.pureExcept_ok_iff.1 passed
  obtain ⟨_, observed, _, _, rfl, -, written⟩ := Run.bind_iff.1 onPage
  refine ⟨page, (Ran.of_run asked).left.right, fun shown member => ?_⟩
  obtain ⟨p, zipped, payload⟩ :=
    Lifecycle.run_settleAll_payload written shown (List.mem_filter.1 member).1
  exact ⟨p.1, (List.of_mem_zip zipped).1, payload⟩

/-- A page carries no material. -/
theorem carried_list {q : Catalog.Query} {reply : Reply} (bare : c.catalog.ShowsNoMaterial w t)
    (h : Run w (c.perform (.list caller q)) s t (.ok reply) s') : reply.carried = [] := by
  obtain ⟨secrets, rfl, _, u, _, part, requested⟩ := run_reply h
  obtain ⟨page, listed, kept⟩ := run_readPage_payload requested
  apply List.filterMap_eq_nil_iff.2
  intro shown member
  obtain ⟨record, among, payload⟩ := kept shown member
  rw [payload]
  exact bare.list (listed.mono part) record among

/-- The material that is seen last was returned by the keystore. -/
theorem run_lastMaterial_ok {left : Nat} {observed : Observation}
    (h : Run w (c.lastMaterial caller id left).run s t (.ok observed) s') :
    Ran w (c.keystore.payload caller id).run (.ok observed) t := by
  induction left generalizing s t with
  | zero =>
    obtain ⟨-, same, -⟩ := Run.throw_iff.1 h
    cases same
  | succ left ih =>
    obtain ⟨_, seen, _, _, rfl, asked, ended⟩ := Run.bindExcept_ok_iff.1 h
    by_cases waiting : seen.phase = .preactivation
    · rw [if_pos waiting] at ended
      exact (ih ended).right
    · rw [if_neg waiting] at ended
      obtain ⟨-, rfl, -⟩ := Run.pureExcept_ok_iff.1 ended
      exact (Ran.of_run asked).left

theorem farewell_payload {gone : Secret} {observed : Observation} {material : Sealed}
    (bare : gone.payload = none) (h : (farewell gone observed).payload = some material) :
    gone.extractable = true ∧ observed.payload = some material ∧
      farewell gone observed = { gone with payload := some material } := by
  unfold farewell at h ⊢
  by_cases may : gone.extractable = true
  · rw [if_pos may] at h ⊢
    have own : observed.payload = some material := h
    rw [own]
    exact ⟨may, rfl, rfl⟩
  · rw [if_neg may, bare] at h
    cases h

theorem released_destroy {whole : Bool} {reply : Reply} {material : Sealed}
    (bare : c.catalog.ShowsNoMaterial w t)
    (h : Run w (c.perform (.destroy caller id whole)) s t (.ok reply) s')
    (carried : material ∈ reply.carried) :
    Released w c t (.destroy caller id whole) reply material := by
  obtain ⟨last, rfl, _, u, _, part, requested⟩ := run_reply h
  obtain ⟨_, ⟨x, ledger⟩, _, _, rfl, removed, passed⟩ := Run.bind_iff.1 requested
  obtain ⟨-, rfl, -⟩ := Run.pure_iff.1 passed
  obtain ⟨_, o, _, _, rfl, observed, ended⟩ := Run.bind_iff.1 removed
  cases o with
  | error _ =>
    obtain ⟨-, same, -⟩ := Run.pure_iff.1 ended
    cases same
  | ok observed? =>
    obtain ⟨_, ⟨y, _⟩, _, _, rfl, -, finished⟩ := Run.bind_iff.1 ended
    cases y with
    | error _ =>
      obtain ⟨-, same, -⟩ := Run.pure_iff.1 finished
      cases same
    | ok _ =>
      obtain ⟨_, z, _, _, rfl, marked, ended⟩ := Run.bind_iff.1 finished
      obtain ⟨-, same, -⟩ := Run.pure_iff.1 ended
      obtain ⟨same, -⟩ := Prod.mk.inj same
      cases z with
      | error _ => cases same
      | ok gone =>
        obtain rfl := Except.ok.inj same
        have marked := (Ran.of_run marked).left.right.right.left.mono part
        cases whole with
        | false =>
          obtain ⟨-, rfl, -⟩ := Run.pureExcept_ok_iff.1 observed
          cases carried
        | true =>
          rw [observeLast, if_pos rfl, ExceptT.run_map] at observed
          obtain ⟨x, same, seen⟩ := Run.map_iff.1 observed
          cases x with
          | error _ => cases same
          | ok seenLast =>
            obtain rfl := Except.ok.inj same
            obtain ⟨extractable, payload, same⟩ :=
              farewell_payload (bare.delete marked) (Option.mem_toList.1 carried)
            have shown : some (farewell gone seenLast) = some { gone with payload := some material } :=
              congrArg some same
            have seen := (run_lastMaterial_ok seen).left.left.mono part
            exact congrArg Reply.gone shown ▸ .destroyed seen payload marked extractable

/-- A reply carries only material that its request may have. -/
theorem released_perform {q : Request} {reply : Reply} {material : Sealed}
    (bare : c.catalog.ShowsNoMaterial w t) (h : Run w (c.perform q) s t (.ok reply) s')
    (carried : material ∈ reply.carried) : Released w c t q reply material := by
  cases q with
  | create caller submitted whole => exact released_create bare h carried
  | fetch caller id => exact released_fetch bare h carried
  | list caller q =>
    rw [carried_list bare h] at carried
    cases carried
  | total caller q =>
    obtain ⟨n, rfl, -⟩ := run_reply h
    cases carried
  | destroy caller id whole => exact released_destroy bare h carried

end

section
variable {w : World σ} {t : Trace}

/-- The catalog has answered a call without material. -/
def answeredBare : Event → Bool
  | ⟨.createRecord .., .ok stored⟩ => stored.payload.isNone
  | ⟨.getRecord .., .ok (some record)⟩ => record.payload.isNone
  | ⟨.deleteRecord .., .ok gone⟩ => gone.payload.isNone
  | ⟨.listRecords .., .ok page⟩ => page.all (·.payload.isNone)
  | _ => true

theorem showsNoMaterial_of_all (bare : t.all answeredBare = true) :
    Action.catalog.ShowsNoMaterial w t where
  create ran := Option.isNone_iff_eq_none.1 (List.all_eq_true.1 bare _ (Ran.of_ask ran))
  get ran := Option.isNone_iff_eq_none.1 (List.all_eq_true.1 bare _ (Ran.of_ask ran))
  delete ran := Option.isNone_iff_eq_none.1 (List.all_eq_true.1 bare _ (Ran.of_ask ran))
  list ran record member :=
    Option.isNone_iff_eq_none.1
      (List.all_eq_true.1 (List.all_eq_true.1 bare _ (Ran.of_ask ran)) record member)

end

end Custodian

end KeyCustody

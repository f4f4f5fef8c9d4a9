import KeyCustody.Proofs.Path

/-!
# Requests to a custodian

The requests of tenants as data, so that a run is a list of them. Every request ends with a count, and a
creation that fails has got as far as its limits, its keystore or its record.
-/

namespace KeyCustody.Custodian

open Catalog (Query)
open Program

inductive Request where
  | create (caller : Caller) (s : Secret) (whole : Bool)
  | fetch (caller : Caller) (id : String)
  | list (caller : Caller) (q : Query)
  | total (caller : Caller) (q : Query)
  | destroy (caller : Caller) (id : String) (whole : Bool)
  deriving DecidableEq

def Request.caller : Request → Caller
  | .create caller .. | .fetch caller _ | .list caller _ | .total caller _ | .destroy caller .. => caller

inductive Reply where
  | secret (s : Secret)
  | page (secrets : List Secret)
  | number (n : Nat)
  | gone (last : Option Secret)
  deriving DecidableEq

variable {m : Type → Type} [Monad m]

def perform (c : Custodian m) : Request → m (Except Error Reply)
  | .create caller s whole => return (← (c.create caller s whole).run).map .secret
  | .fetch caller id => return (← (c.fetch caller id).run).map .secret
  | .list caller q => return (← (c.list caller q).run).map .page
  | .total caller q => return (← (c.total caller q).run).map .number
  | .destroy caller id whole => return (← (c.destroy caller id whole).run).map .gone

/-- Performs requests one after the other, whatever the replies. -/
def performAll (c : Custodian m) (requests : List Request) : m (List (Except Error Reply)) :=
  requests.mapM c.perform

/-! ## Runs of requests -/

/-- A creation that violates a limit reaches neither the keystore nor the catalog. -/
theorem place_invalid {c : Custodian m} {caller : Caller} {s : Secret} {error : Error}
    (violated : ({ s with name := Text.trim s.name } : Secret).validateNew = .error error) :
    c.place caller s = pure (.error error, .empty) := by
  unfold place
  simp only [violated]

/-- A creation that keeps the limits begins at the keystore. -/
theorem place_valid {c : Custodian m} {caller : Caller} {s : Secret}
    (valid : ({ s with name := Text.trim s.name } : Secret).validateNew = .ok ()) :
    ∃ rest, c.place caller s = c.keystore.create caller { s with name := Text.trim s.name } .empty >>= rest := by
  unfold place
  simp only [valid]
  exact ⟨_, rfl⟩

/-- A creation that succeeds has stored the material and then the record, and answers with that. -/
theorem run_place_stored {C σ : Type} {A : C → Type} {w : Program.World C A σ}
    {c : Custodian (Program C A)} {caller : Caller} {submitted last : Secret} {ledger : Ledger (Program C A)}
    {s s' : σ} {t : List (Program.Event C A)}
    (h : Run w (c.place caller submitted) s t (.ok last, ledger) s') :
    ∃ created id now stored t₁ s₁ t₂ s₂ t₃, t = t₁ ++ (t₂ ++ t₃) ∧
      Run w (c.keystore.create caller { submitted with name := Text.trim submitted.name } .empty) s t₁
        created s₁ ∧
      created.result = .ok id ∧ Run w c.now s₁ t₂ now s₂ ∧
      Run w (c.catalog.create caller { created.secret with id := id, creation := some now }).run s₂ t₃
        (.ok stored) s' ∧
      last = releaseTo stored created.secret := by
  unfold place at h
  generalize { submitted with name := Text.trim submitted.name : Secret } = submitted at h ⊢
  cases valid : submitted.validateNew with
  | error _ =>
    simp only [valid] at h
    obtain ⟨-, same, -⟩ := Run.pure_iff.1 h
    cases same
  | ok _ =>
    simp only [valid] at h
    obtain ⟨t₁, created, s₁, _, rfl, made, ended⟩ := Run.bind_iff.1 h
    cases issued : created.result with
    | error _ =>
      simp only [issued] at ended
      obtain ⟨_, _, _, _, rfl, -, passed⟩ := Run.bind_iff.1 ended
      obtain ⟨-, same, -⟩ := Run.pure_iff.1 passed
      cases same
    | ok id =>
      simp only [issued] at ended
      obtain ⟨t₂, now, s₂, _, rfl, read, recorded⟩ := Run.bind_iff.1 ended
      obtain ⟨t₃, x, s₃, _, rfl, filed, closed⟩ := Run.bind_iff.1 recorded
      cases x with
      | error _ =>
        obtain ⟨_, _, _, _, rfl, -, passed⟩ := Run.bind_iff.1 closed
        obtain ⟨-, same, -⟩ := Run.pure_iff.1 passed
        cases same
      | ok stored =>
        obtain ⟨rfl, same, rfl⟩ := Run.pure_iff.1 closed
        obtain rfl := Except.ok.inj (Prod.mk.inj same).1
        exact ⟨created, id, now, stored, t₁, s₁, t₂, s₂, t₃, by rw [List.append_nil], made, issued, read,
          filed, rfl⟩

/-- A request is counted once it has ended, by how it has. -/
theorem counted_iff {C α σ : Type} {A : C → Type} {w : Program.World C A σ} {c : Custodian (Program C A)}
    {operation : String} {request : Program C A (Except Error α)} {x : Except Error α} {s s' : σ}
    {t : List (Program.Event C A)} :
    Run w (c.counted operation request).run s t x s' ↔
      ∃ u s₁ v, t = u ++ v ∧ Run w request s u x s₁ ∧
        Run w (c.count (.operation operation x.isOk)) s₁ v () s' := by
  constructor
  · intro h
    obtain ⟨u, x, s₁, _, rfl, requested, ended⟩ := Run.bind_iff.1 h
    obtain ⟨v, _, _, _, rfl, counted, passed⟩ := Run.bind_iff.1 ended
    obtain ⟨rfl, rfl, rfl⟩ := Run.pure_iff.1 passed
    exact ⟨u, s₁, v, by rw [List.append_nil], requested, counted⟩
  · rintro ⟨u, s₁, v, rfl, requested, counted⟩
    exact Run.bind_iff.2 ⟨u, x, s₁, v, rfl, requested,
      Run.bind_iff.2 ⟨v, (), s', [], (List.append_nil _).symm, counted, .done _ _⟩⟩

section
variable {α σ : Type} {w : World σ} {k : Keystore Action} {s s' : σ} {t : Trace} {operation : String}

/-- The count of a request is its last call. -/
theorem run_counted_iff {request : Action (Except Error α)} {x : Except Error α} :
    Run w ((Action.custodian k).counted operation request).run s t x s' ↔
      ∃ u s₁, t = u ++ [⟨.count (.operation operation x.isOk), ()⟩] ∧ Run w request s u x s₁ ∧
        w (.count (.operation operation x.isOk)) s₁ () s' := by
  rw [counted_iff]
  constructor
  · rintro ⟨u, s₁, _, rfl, requested, counted⟩
    obtain ⟨rfl, answered⟩ := Run.ask_iff.1 counted
    exact ⟨u, s₁, rfl, requested, answered⟩
  · rintro ⟨u, s₁, rfl, requested, answered⟩
    exact ⟨u, s₁, _, rfl, requested, Run.ask_iff.2 ⟨rfl, answered⟩⟩

/-- What a request respects it still does once it is counted. -/
theorem respects_counted {β : Type} {R : σ → Trace → σ → Prop} (chains : Chains R)
    (counts : ∀ c, Respects w R (Action.count c)) (f : α → β) {request : Action (Except Error α)}
    (h : Respects w R request) :
    Respects w R (do return (← ((Action.custodian k).counted operation request).run).map f) :=
  .bind chains (.bind chains h fun _ => .bind chains (counts _) fun _ => .pure chains _)
    fun _ => .pure chains _

/-- What the parts of requests respect, requests do. -/
theorem respects_perform {R : σ → Trace → σ → Prop} {q : Request} (chains : Chains R)
    (counts : ∀ c, Respects w R (Action.count c))
    (creates : ∀ caller s whole, q = .create caller s whole →
      Respects w R ((Action.custodian k).place caller s))
    (reads : ∀ id, Respects w R ((Action.custodian k).read q.caller id).run)
    (pages : ∀ page, Respects w R ((Action.custodian k).readPage q.caller page).run)
    (totals : ∀ page, Respects w R (Action.catalog.total q.caller page).run)
    (removes : ∀ id whole, Respects w R ((Action.custodian k).remove q.caller id whole .empty)) :
    Respects w R ((Action.custodian k).perform q) := by
  cases q with
  | create caller s whole =>
    exact respects_counted chains counts _ (.bind chains (creates caller s whole rfl) fun _ => .pure chains _)
  | fetch caller id => exact respects_counted chains counts _ (reads id)
  | list caller page => exact respects_counted chains counts _ (pages page)
  | total caller page =>
    refine respects_counted chains counts _ ?_
    cases page.validate with
    | error _ => exact .pure chains _
    | ok _ => exact totals page
  | destroy caller id whole => exact respects_counted chains counts _ (.bind chains (removes id whole) fun _ => .pure chains _)

variable {caller : Caller} {secret : Secret} {error : Error} {ledger : Ledger Action}

/-- How a creation fails: the secret violates the limits, or the keystore refuses it, or the catalog its
record. What the ledger holds by then is undone. -/
inductive Unplaced (w : World σ) (k : Keystore Action) (caller : Caller) (secret : Secret) (s : σ)
    (error : Error) (ledger : Ledger Action) : Trace → σ → Prop
  | invalid (violated : secret.validateNew = .error error) : Unplaced w k caller secret s error ledger [] s
  | refused {created : Keystore.Creation Action} {t₁ t₂ : Trace} {s₁ s' : σ}
      (made : Run w (k.create caller secret .empty) s t₁ created s₁) (result : created.result = .error error)
      (undone : Run w ((Action.custodian k).rollBack "create" created.ledger) s₁ t₂ ledger s') :
      Unplaced w k caller secret s error ledger (t₁ ++ t₂) s'
  | unrecorded {created : Keystore.Creation Action} {id : String} {now : Time.Instant} {record : Secret}
      {t₁ t₂ : Trace} {s₁ s₂ s₃ s' : σ} (made : Run w (k.create caller secret .empty) s t₁ created s₁)
      (result : created.result = .ok id)
      (own : record = { created.secret with id := id, creation := some now }) (read : w .now s₁ now s₂)
      (declined : w (.createRecord caller record) s₂ (.error error) s₃)
      (undone : Run w ((Action.custodian k).rollBack "create" created.ledger) s₃ t₂ ledger s') :
      Unplaced w k caller secret s error ledger
        (t₁ ++ [⟨.now, now⟩, ⟨.createRecord caller record, .error error⟩] ++ t₂) s'

theorem run_place_error
    (h : Run w ((Action.custodian k).place caller secret) s t (.error error, ledger) s') :
    Unplaced w k caller { secret with name := Text.trim secret.name } s error ledger t s' := by
  unfold place at h
  generalize { secret with name := Text.trim secret.name : Secret } = secret at h ⊢
  cases valid : secret.validateNew with
  | error _ =>
    simp only [valid] at h
    obtain ⟨rfl, same, rfl⟩ := Run.pure_iff.1 h
    obtain rfl := Except.error.inj (Prod.mk.inj same).1
    exact .invalid valid
  | ok _ =>
    simp only [valid] at h
    obtain ⟨t₁, created, s₁, _, rfl, made, ended⟩ := Run.bind_iff.1 h
    cases result : created.result with
    | error _ =>
      simp only [result] at ended
      obtain ⟨_, _, _, _, rfl, undone, passed⟩ := Run.bind_iff.1 ended
      obtain ⟨rfl, same, rfl⟩ := Run.pure_iff.1 passed
      obtain ⟨refusal, rfl⟩ := Prod.mk.inj same
      obtain rfl := Except.error.inj refusal
      rw [List.append_nil]
      exact .refused made result undone
    | ok id =>
      simp only [result] at ended
      obtain ⟨_, now, _, _, rfl, asked, recorded⟩ := Run.bind_iff.1 ended
      obtain ⟨rfl, read⟩ := Run.ask_iff.1 asked
      obtain ⟨_, x, _, _, rfl, sent, closed⟩ := Run.bind_iff.1 recorded
      obtain ⟨rfl, declined⟩ := Run.ask_iff.1 sent
      cases x with
      | ok _ =>
        obtain ⟨-, same, -⟩ := Run.pure_iff.1 closed
        cases (Prod.mk.inj same).1
      | error _ =>
        obtain ⟨t₂, _, _, _, rfl, undone, passed⟩ := Run.bind_iff.1 closed
        obtain ⟨rfl, same, rfl⟩ := Run.pure_iff.1 passed
        obtain ⟨refusal, rfl⟩ := Prod.mk.inj same
        obtain rfl := Except.error.inj refusal
        have unplaced := Unplaced.unrecorded made result rfl read declined undone
        rw [List.append_assoc] at unplaced
        rw [List.append_nil]
        exact unplaced

/-! ### Reads -/

/-- What is seen of a secret before it is brought up to date: of a deleted one, nothing. -/
inductive Seen (w : World σ) (k : Keystore Action) (caller : Caller) (id : String) (deleted : Bool) (s : σ) :
    Trace → Option Phase → σ → Prop
  | unasked (gone : deleted = true) : Seen w k caller id deleted s [] none s
  | asked {o : Keystore.Observation} {t : Trace} {s' : σ} (standing : deleted = false)
      (observed : Run w (k.payload caller id).run s t (.ok o) s') :
      Seen w k caller id deleted s t (some o.phase) s'

/-- How a record is read: it is looked up, and unless it is destroyed, seen, and then brought up to date. -/
inductive Fetched (w : World σ) (k : Keystore Action) (caller : Caller) (id : String) (s : σ) :
    Trace → σ → Prop
  | unknown {y : Except Error (Option Secret)} {s' : σ} (got : w (.getRecord caller id) s y s')
      (none : ∀ record, y ≠ .ok (some record)) : Fetched w k caller id s [⟨.getRecord caller id, y⟩] s'
  | destroyed {record : Secret} {s' : σ} (got : w (.getRecord caller id) s (.ok (some record)) s')
      (destroyed : record.phase = .destroyed) :
      Fetched w k caller id s [⟨.getRecord caller id, .ok (some record)⟩] s'
  | unseen {record : Secret} {e : Error} {t : Trace} {s₁ s' : σ}
      (got : w (.getRecord caller id) s (.ok (some record)) s₁) (standing : record.deleted = false)
      (failed : Run w (k.payload caller id).run s₁ t (.error e) s') :
      Fetched w k caller id s (⟨.getRecord caller id, .ok (some record)⟩ :: t) s'
  | settled {record : Secret} {observed : Option Phase} {now : Time.Instant}
      {outcome : Except Error Unit × Secret} {t₁ t₂ : Trace} {s₁ s₂ s₃ s' : σ}
      (got : w (.getRecord caller id) s (.ok (some record)) s₁) (alive : record.phase ≠ .destroyed)
      (seen : Seen w k caller id record.deleted s₁ t₁ observed s₂) (read : w .now s₂ now s₃)
      (settled : Run w (Lifecycle.settle Action.catalog Action.count caller record (record.assess observed now))
        s₃ t₂ outcome s') :
      Fetched w k caller id s (⟨.getRecord caller id, .ok (some record)⟩ :: (t₁ ++ ⟨.now, now⟩ :: t₂)) s'

/-- Bringing a record up to date reads the clock, and settles the verdict. -/
theorem run_update {record : Secret} {observed : Option Phase} {x : Except Error Secret}
    (h : Run w ((Action.custodian k).update caller record observed).run s t x s') :
    ∃ now s₁ t₁ outcome, t = ⟨.now, now⟩ :: t₁ ∧ w .now s now s₁ ∧
      Run w (Lifecycle.settle Action.catalog Action.count caller record (record.assess observed now)) s₁ t₁
        outcome s' := by
  obtain ⟨_, now, s₁, _, rfl, asked, settling⟩ := Run.bind_iff.1 h
  obtain ⟨rfl, read⟩ := Run.ask_iff.1 asked
  obtain ⟨t₁, outcome, _, _, rfl, settled, passed⟩ := Run.bind_iff.1 settling
  obtain ⟨rfl, -, rfl⟩ := Run.pure_iff.1 passed
  exact ⟨now, s₁, t₁, outcome, by simp, read, settled⟩

theorem run_find_looked {id : String} {x : Except Error Secret}
    (h : Run w ((Action.custodian k).find caller id).run s t x s') :
    ∃ y, t = [⟨.getRecord caller id, y⟩] ∧ w (.getRecord caller id) s y s' ∧
      ∀ record, y = .ok (some record) ↔ x = .ok record := by
  obtain ⟨e, rfl, asked⟩ | ⟨_, y, _, _, rfl, asked, ended⟩ := Run.bindExcept_iff.1 h
  · obtain ⟨rfl, got⟩ := Run.ask_iff.1 asked
    exact ⟨_, rfl, got, fun record => ⟨nofun, nofun⟩⟩
  · obtain ⟨rfl, got⟩ := Run.ask_iff.1 asked
    cases y with
    | none =>
      obtain ⟨rfl, rfl, rfl⟩ := Run.throw_iff.1 ended
      exact ⟨_, rfl, got, fun record => ⟨nofun, nofun⟩⟩
    | some record =>
      obtain ⟨rfl, rfl, rfl⟩ := Run.pureExcept_iff.1 ended
      exact ⟨_, rfl, got, fun record' => ⟨by rintro ⟨⟩; rfl, by rintro ⟨⟩; rfl⟩⟩

theorem fetched_of_run {id : String} {x : Except Error Secret}
    (h : Run w ((Action.custodian k).read caller id).run s t x s') : Fetched w k caller id s t s' := by
  obtain ⟨e, rfl, looked⟩ | ⟨_, record, s₁, t₁, rfl, looked, rest⟩ := Run.bindExcept_iff.1 h
  · obtain ⟨y, rfl, got, known⟩ := run_find_looked looked
    exact .unknown got fun record found => nomatch (known record).1 found
  obtain ⟨y, rfl, got, known⟩ := run_find_looked looked
  obtain rfl := (known record).2 rfl
  by_cases destroyed : record.phase = .destroyed
  · rw [if_pos destroyed] at rest
    obtain ⟨rfl, -, rfl⟩ := Run.pureExcept_iff.1 rest
    exact .destroyed got destroyed
  rw [if_neg destroyed] at rest
  cases deleted : record.deleted with
  | true =>
    simp only [deleted, if_true] at rest
    obtain ⟨now, _, t₂, outcome, rfl, read, settled⟩ := run_update rest
    exact .settled got destroyed (.unasked deleted) read settled
  | false =>
    simp only [deleted, Bool.false_eq_true, if_false] at rest
    obtain ⟨e, -, failed⟩ | ⟨t₂, o, s₂, t₃, rfl, observed, ended⟩ := Run.bindExcept_iff.1 rest
    · exact .unseen got deleted failed
    have seen : Seen w k caller id record.deleted s₁ t₂ (some o.phase) s₂ := .asked deleted observed
    obtain ⟨e, -, stopped⟩ | ⟨_, _, _, _, rfl, updated, passed⟩ := Run.bindExcept_iff.1 ended
    · obtain ⟨now, _, t₄, outcome, rfl, read, settled⟩ := run_update stopped
      exact .settled got destroyed seen read settled
    · obtain ⟨now, _, t₄, outcome, rfl, read, settled⟩ := run_update updated
      obtain ⟨rfl, -, rfl⟩ := Run.pureExcept_iff.1 passed
      rw [List.append_nil]
      exact .settled got destroyed seen read settled

/-! ### Pages -/

/-- How a page is read, with the calls that are made: the query is malformed, or nothing is listed; or what
is listed is checked, and then brought up to date. -/
inductive Listed (w : World σ) (k : Keystore Action) (caller : Caller) (q : Query) (s : σ) : Trace → σ → Prop
  | malformed (invalid : q.validate ≠ .ok ()) : Listed w k caller q s [] s
  | unlisted {e : Error} {s' : σ} (refused : w (.listRecords caller q) s (.error e) s') :
      Listed w k caller q s [⟨.listRecords caller q, .error e⟩] s'
  | settled {page secrets : List Secret} {now : Time.Instant} {observed : List (Option Phase)}
      {t₁ t₂ : Trace} {s₁ s₂ s₃ s' : σ} (listed : w (.listRecords caller q) s (.ok page) s₁)
      (read : w .now s₁ now s₂)
      (checked : Run w (page.mapM (Lifecycle.observe (k.check caller))) s₂ t₁ observed s₃)
      (settled : Run w ((page.zip observed).mapM fun p => return (← Lifecycle.settle Action.catalog
        Action.count caller p.1 (p.1.assess p.2 now)).2) s₃ t₂ secrets s') :
      Listed w k caller q s (⟨.listRecords caller q, .ok page⟩ :: ⟨.now, now⟩ :: (t₁ ++ t₂)) s'

/-- How a page is read, and what is returned: an error, or what is listed, brought up to date, without those
that are destroyed. -/
inductive PageRead (w : World σ) (k : Keystore Action) (caller : Caller) (q : Query) (s : σ) :
    Trace → Except Error (List Secret) → σ → Prop
  | malformed {e : Error} (invalid : q.validate = .error e) : PageRead w k caller q s [] (.error e) s
  | unlisted {e : Error} {s' : σ} (refused : w (.listRecords caller q) s (.error e) s') :
      PageRead w k caller q s [⟨.listRecords caller q, .error e⟩] (.error e) s'
  | settled {page secrets : List Secret} {now : Time.Instant} {observed : List (Option Phase)}
      {t₁ t₂ : Trace} {s₁ s₂ s₃ s' : σ} (listed : w (.listRecords caller q) s (.ok page) s₁)
      (read : w .now s₁ now s₂)
      (checked : Run w (page.mapM (Lifecycle.observe (k.check caller))) s₂ t₁ observed s₃)
      (settled : Run w ((page.zip observed).mapM fun p => return (← Lifecycle.settle Action.catalog
        Action.count caller p.1 (p.1.assess p.2 now)).2) s₃ t₂ secrets s') :
      PageRead w k caller q s (⟨.listRecords caller q, .ok page⟩ :: ⟨.now, now⟩ :: (t₁ ++ t₂))
        (.ok (secrets.filter (·.phase ≠ .destroyed))) s'

theorem pageRead_of_run {q : Query} {x : Except Error (List Secret)}
    (h : Run w ((Action.custodian k).readPage caller q).run s t x s') : PageRead w k caller q s t x s' := by
  obtain ⟨e, rfl, checked⟩ | ⟨_, _, _, _, rfl, checked, listed⟩ := Run.bindExcept_iff.1 h
  · obtain ⟨rfl, invalid, rfl⟩ := Run.done_iff.1 checked
    exact .malformed invalid.symm
  obtain ⟨rfl, -, rfl⟩ := Run.done_iff.1 checked
  obtain ⟨_, rfl, asked⟩ | ⟨_, page, _, _, rfl, asked, dated⟩ := Run.bindExcept_iff.1 listed
  · obtain ⟨rfl, refused⟩ := Run.ask_iff.1 asked
    exact .unlisted refused
  obtain ⟨rfl, given⟩ := Run.ask_iff.1 asked
  obtain ⟨_, now, _, _, rfl, told, rest⟩ := Run.bindLift_iff.1 dated
  obtain ⟨rfl, read⟩ := Run.ask_iff.1 told
  obtain ⟨_, _, _, _, rfl, onPage, passed⟩ := Run.bindLift_iff.1 rest
  obtain ⟨rfl, rfl, rfl⟩ := Run.pureExcept_iff.1 passed
  obtain ⟨t₁, observed, _, t₂, rfl, checked, settled⟩ := Run.bind_iff.1 onPage
  rw [List.append_nil]
  have whole : PageRead w k caller q _ (_ :: _ :: (t₁ ++ t₂)) _ s' := .settled given read checked settled
  exact whole

theorem listed_of_run {q : Query} {x : Except Error (List Secret)}
    (h : Run w ((Action.custodian k).readPage caller q).run s t x s') : Listed w k caller q s t s' := by
  cases pageRead_of_run h with
  | malformed invalid => exact .malformed fun valid => nomatch invalid.symm.trans valid
  | unlisted refused => exact .unlisted refused
  | settled listed read checked settled => exact .settled listed read checked settled

/-- How a page is read, whatever the calls. -/
inductive Paged (w : World σ) (k : Keystore Action) (caller : Caller) (q : Query) (s : σ) : σ → Prop
  | malformed : Paged w k caller q s s
  | unlisted {e : Error} {s' : σ} (refused : w (.listRecords caller q) s (.error e) s') :
      Paged w k caller q s s'
  | settled {page secrets : List Secret} {now : Time.Instant} {observed : List (Option Phase)}
      {t₁ t₂ : Trace} {s₁ s₂ s₃ s' : σ} (listed : w (.listRecords caller q) s (.ok page) s₁)
      (read : w .now s₁ now s₂)
      (checked : Run w (page.mapM (Lifecycle.observe (k.check caller))) s₂ t₁ observed s₃)
      (settled : Run w ((page.zip observed).mapM fun p => return (← Lifecycle.settle Action.catalog
        Action.count caller p.1 (p.1.assess p.2 now)).2) s₃ t₂ secrets s') : Paged w k caller q s s'

theorem paged_of_run {q : Query} {x : Except Error (List Secret)}
    (h : Run w ((Action.custodian k).readPage caller q).run s t x s') : Paged w k caller q s s' := by
  cases listed_of_run h with
  | malformed => exact .malformed
  | unlisted refused => exact .unlisted refused
  | settled listed read checked settled => exact .settled listed read checked settled

/-! ### Undoing -/

/-- Compensations run up to the first that fails. -/
theorem run_undoAll_cons {c : Compensation Action} {rest : List (Compensation Action)}
    {outcome : Ledger.Outcome × List (Compensation Action)}
    (h : Run w (Ledger.undoAll (c :: rest)) s t outcome s') :
    (∃ t₁ s₁ t₂, t = t₁ ++ t₂ ∧ Run w c.undo.run s t₁ (.ok ()) s₁ ∧
      Run w (Ledger.undoAll rest) s₁ t₂ outcome s') ∨
    ∃ e, outcome = (.halted e, rest) ∧ Run w c.undo.run s t (.error e) s' := by
  unfold Ledger.undoAll at h
  obtain ⟨t₁, x, s₁, t₂, rfl, undone, others⟩ := Run.bind_iff.1 h
  cases x with
  | ok _ => exact .inl ⟨t₁, s₁, t₂, rfl, undone, others⟩
  | error e =>
    obtain ⟨rfl, rfl, rfl⟩ := Run.pure_iff.1 others
    rw [List.append_nil]
    exact .inr ⟨e, rfl, undone⟩

/-- Compensations are all undone, or one of them halts the rest; they are never refused. -/
theorem accepted_of_undoAll {cs : List (Compensation Action)} {outcome : Ledger.Outcome × List (Compensation Action)}
    (h : Run w (Ledger.undoAll cs) s t outcome s') : outcome.1 ≠ .refused := by
  induction cs generalizing s t with
  | nil =>
    obtain ⟨-, rfl, -⟩ := Run.pure_iff.1 h
    exact nofun
  | cons c cs ih =>
    obtain ⟨_, _, _, -, -, others⟩ | ⟨_, rfl, -⟩ := run_undoAll_cons h
    · exact ih others
    · exact nofun

theorem run_clean_undoAll {ledger' : Ledger Action} {outcome : Ledger.Outcome} (incomplete : ledger.completed = false)
    (h : Run w ledger.clean s t (outcome, ledger') s') :
    ∃ rest, Run w (Ledger.undoAll ledger.pending) s t (outcome, rest) s' := by
  unfold Ledger.clean at h
  rw [incomplete, if_neg Bool.false_ne_true] at h
  obtain ⟨_, ⟨_, rest⟩, _, _, rfl, undone, passed⟩ := Run.bind_iff.1 h
  obtain ⟨rfl, same, rfl⟩ := Run.pure_iff.1 passed
  obtain ⟨rfl, -⟩ := Prod.mk.inj same
  rw [List.append_nil]
  exact ⟨rest, undone⟩

/-- Rolling back cleans the ledger, and then counts that it has, and whether a compensation failed. -/
theorem run_rollBack_cleaned {ledger' : Ledger Action}
    (h : Run w ((Action.custodian k).rollBack operation ledger) s t ledger' s') :
    ∃ t₁ outcome s₁ t₂, t = t₁ ++ t₂ ∧ Run w ledger.clean s t₁ (outcome, ledger') s₁ ∧ Path w s₁ t₂ s' ∧
      t₂ = ⟨.count (.rollback operation), ()⟩ ::
        if outcome = .undone then [] else [⟨.count (.rollbackFailure operation), ()⟩] := by
  obtain ⟨t₁, ⟨outcome, left⟩, s₁, t₂, rfl, cleaned, counted⟩ := Run.bind_iff.1 h
  obtain ⟨_, _, _, _, rfl, once, more⟩ := Run.bind_iff.1 counted
  obtain ⟨rfl, -⟩ := Run.ask_iff.1 once
  by_cases all : outcome = .undone
  · rw [if_neg (not_not_intro all)] at more
    obtain ⟨rfl, rfl, -⟩ := Run.pure_iff.1 more
    refine ⟨t₁, outcome, s₁, _, rfl, cleaned, counted.path, ?_⟩
    rw [if_pos all]
    rfl
  · rw [if_pos all] at more
    obtain ⟨_, _, _, _, rfl, twice, last⟩ := Run.bind_iff.1 more
    obtain ⟨rfl, -⟩ := Run.ask_iff.1 twice
    obtain ⟨rfl, rfl, -⟩ := Run.pure_iff.1 last
    refine ⟨t₁, outcome, s₁, _, rfl, cleaned, counted.path, ?_⟩
    rw [if_neg all]
    rfl

/-- Rolling back runs the compensations of the ledger, and then counts that it has, and whether one failed. -/
theorem run_rollBack_counts {ledger' : Ledger Action} (incomplete : ledger.completed = false)
    (h : Run w ((Action.custodian k).rollBack operation ledger) s t ledger' s') :
    ∃ t₁ outcome s₁ t₂, t = t₁ ++ t₂ ∧ Run w (Ledger.undoAll ledger.pending) s t₁ outcome s₁ ∧
      Path w s₁ t₂ s' ∧ t₂ = ⟨.count (.rollback operation), ()⟩ ::
        if outcome.1 = .undone then [] else [⟨.count (.rollbackFailure operation), ()⟩] := by
  obtain ⟨t₁, outcome, s₁, t₂, rfl, cleaned, counted, same⟩ := run_rollBack_cleaned h
  obtain ⟨rest, undone⟩ := run_clean_undoAll incomplete cleaned
  exact ⟨t₁, (outcome, rest), s₁, t₂, rfl, undone, counted, same⟩

theorem run_rollBack_undoAll {ledger' : Ledger Action} (incomplete : ledger.completed = false)
    (h : Run w ((Action.custodian k).rollBack operation ledger) s t ledger' s') :
    ∃ t₁ outcome s₁ t₂, t = t₁ ++ t₂ ∧ Run w (Ledger.undoAll ledger.pending) s t₁ outcome s₁ ∧
      Path w s₁ t₂ s' ∧ ∀ v ∈ t₂, ∃ c, v = ⟨.count c, ()⟩ := by
  obtain ⟨t₁, outcome, s₁, t₂, rfl, undone, counted, same⟩ := run_rollBack_counts incomplete h
  refine ⟨t₁, outcome, s₁, t₂, rfl, undone, counted, ?_⟩
  subst same
  refine List.forall_mem_cons.2 ⟨⟨_, rfl⟩, ?_⟩
  by_cases all : outcome.1 = .undone
  · rw [if_pos all]
    exact List.forall_mem_nil _
  · rw [if_neg all]
    exact List.forall_mem_singleton.2 ⟨_, rfl⟩

end

end KeyCustody.Custodian

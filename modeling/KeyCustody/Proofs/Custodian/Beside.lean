import KeyCustody.Proofs.Beside
import KeyCustody.Proofs.Custodian.Release
import KeyCustody.Proofs.Custodian.Request
import KeyCustody.Proofs.Keystore.Working

/-!
# Custodians side by side

Two custodians, each over its own engine, that are given the same requests, up to material that must
not be handed out. If their keystores do corresponding things to corresponding backings, the replies
are the same, and so are the records and what is counted.
-/

namespace KeyCustody

open Engine (At Alike Level Since)
open Keystore (Creation Observation Deposits)
open Program

/-! ## Secrets -/

namespace Secret

/-- Secrets that differ at most in material that must not be handed out, of any permitted length. -/
inductive Alike : Secret → Secret → Prop
  | same (s : Secret) : Alike s s
  | masked {s : Secret} {m m' : Sealed} (withheld : s.extractable = false)
    (filled : m.isEmpty = false ∧ m'.isEmpty = false)
    (within : m.length ≤ maxPayload ∧ m'.length ≤ maxPayload) :
    Alike { s with payload := some m } { s with payload := some m' }

namespace Alike

variable {s s' : Secret}

theorem named (h : Alike s s') (f : String → String) :
    Alike { s with name := f s.name } { s' with name := f s'.name } := by
  cases h with
  | same => exact .same _
  | masked withheld filled within =>
    rename_i s _ _
    exact .masked (s := { s with name := f s.name }) withheld filled within

theorem enter (h : Alike s s') (change : PhaseChange) : Alike (s.enter change) (s'.enter change) := by
  cases h with
  | same => exact .same _
  | masked withheld filled within =>
    rename_i s _ _
    exact .masked (s := s.enter change) withheld filled within

theorem validateNew (h : Alike s s') : s.validateNew = s'.validateNew := by
  cases h with
  | same => rfl
  | masked withheld filled within =>
    unfold Secret.validateNew
    simp only [Option.any_some, Nat.not_lt.2 within.1, Nat.not_lt.2 within.2]
    rfl

theorem issued (h : Alike s s') (id : String) (date : Time.Instant) :
    Alike { s with id := id, creation := some date } { s' with id := id, creation := some date } := by
  cases h with
  | same => exact .same _
  | masked withheld filled within =>
    rename_i s _ _
    exact .masked (s := { s with id := id, creation := some date }) withheld filled within

/-- The catalog does not store material. -/
theorem create (h : Alike s s') (tenant : Tenant) (now : Time.Instant) (r : Catalog.Records) :
    r.create tenant now s = r.create tenant now s' := by
  cases h with
  | same => rfl
  | masked => rfl

/-- What may leave the engine is the same. -/
theorem releaseTo (h : Alike s s') (stored : Secret) :
    Custodian.releaseTo stored s = Custodian.releaseTo stored s' := by
  cases h with
  | same => rfl
  | masked withheld => simp [Custodian.releaseTo, withheld]

end Alike

end Secret

/-! ## Keystores -/

/-- Observations that are the same up to material that is withheld. -/
def Keystore.Observation.Matches (withheld : Prop) (o o' : Observation) : Prop :=
  o.phase = o'.phase ∧ (o.payload = o'.payload ∨ withheld)

namespace Keystore

/-- Creations that ended alike, on engines with these records. The backings correspond once the record
of the new secret, if it is not extractable, withholds its material; and until then both creations can
be undone. -/
structure Made (u u' : Supply) (link : Link) (r : Catalog.Records) (tenant : Tenant) (s : Secret)
    (c c' : Creation Action) (e e' : Engine) : Prop where
  result : c.result = c'.result
  secret : c.secret.Alike c'.secret
  extractable : c.secret.extractable = s.extractable
  level : Level r e e'
  linked : ∀ id, c.result = .ok id → ∀ H : Tenant × String → Prop, (∀ key, r.Withholds key → H key) →
    (s.extractable = false → H (tenant, id)) → link H e.toBacking e'.toBacking
  undone : u.Pairs u' (Since r e e') c.ledger.clean c'.ledger.clean fun o o' d d' =>
    o.1 = o'.1 ∧ At link r d d'

theorem Made.of_extractable {u u' : Supply} {link : Link} {r : Catalog.Records} {tenant : Tenant}
    {s s' : Secret} {c c' : Creation Action} {e e' : Engine} (h : Made u u' link r tenant s c c' e e')
    (same : s.extractable = s'.extractable) : Made u u' link r tenant s' c c' e e' :=
  ⟨h.result, h.secret, h.extractable.trans same, h.level, same ▸ h.linked, h.undone⟩

/-- Deposits of secrets that are alike, on backings that still correspond after both, and after both are
taken back. -/
theorem Made.of_deposits {u u' : Supply} {link : Link} {r : Catalog.Records} {tries : Nat} {caller : Caller}
    {s s' : Secret} {m m' : Sealed} {e e' after after' : Engine} {c c' : Creation Action}
    (level : Level r e e') (alike : s.Alike s') (deposits : Deposits u tries caller s m e c after)
    (deposits' : Deposits u' tries caller s' m' e' c' after')
    (same : (e.deposit u tries caller.tenant m).1 = (e'.deposit u' tries caller.tenant m').1)
    (kept : ∀ id, (e.deposit u tries caller.tenant m).1 = .ok id → ∀ H : Tenant × String → Prop,
      (∀ key, r.Withholds key → H key) → (s.extractable = false → H (caller.tenant, id)) →
        link H (e.deposit u tries caller.tenant m).2 (e'.deposit u' tries caller.tenant m').2)
    (back : ∀ issued, issued = (e.deposit u tries caller.tenant m).1.toOption → link r.Withholds
      ((e.deposit u tries caller.tenant m).2.withdraw caller.tenant (u.reference e.referred) issued)
      ((e'.deposit u' tries caller.tenant m').2.withdraw caller.tenant (u'.reference e'.referred) issued)) :
    Made u u' link r caller.tenant s c c' after after' := by
  obtain ⟨result, secret, rfl, undone⟩ := deposits
  obtain ⟨result', secret', rfl, undone'⟩ := deposits'
  obtain ⟨left, right, tally, timed⟩ := level
  have results : c.result = c'.result := result.trans (same.trans result'.symm)
  refine ⟨results, ?_, ?_, ⟨left, right, tally, timed⟩, ?_, ?_⟩
  · rw [secret, secret', ← results]
    cases c.result with
    | ok _ => exact alike.enter inUse
    | error _ => exact alike
  · rw [secret]
    cases c.result with
    | ok _ => rfl
    | error _ => rfl
  · intro id issued H more withheld
    exact kept id (result.symm.trans issued) H more withheld
  · rintro d d' ⟨level, backing, backing'⟩
    rw [undone d backing, undone' d' backing', ← results, backing, backing']
    exact ⟨rfl, ⟨level.left, level.right, level.tally, level.timed⟩,
      back _ (congrArg Except.toOption result)⟩

/-- Keystores that do corresponding things, on engines with the same clock, when they are given secrets
that `submits` relates. -/
structure Beside (u u' : Supply) (link : Link) (submits : Secret → Secret → Prop)
    (k k' : Keystore Action) : Prop where
  times : u.time = u'.time
  grows : link.Grows
  alike {s s' : Secret} : submits s s' → s.Alike s'
  named {s s' : Secret} : submits s s' →
    submits { s with name := Text.trim s.name } { s' with name := Text.trim s'.name }
  payload (r : Catalog.Records) (caller : Caller) (id : String) :
    u.Pairs u' (At link r) (k.payload caller id).run (k'.payload caller id).run fun x x' e e' =>
      Matching (Observation.Matches (r.Withholds (caller.tenant, id))) x x' ∧ At link r e e'
  check (r : Catalog.Records) (caller : Caller) (id : String) :
    u.Pairs u' (At link r) (k.check caller id).run (k'.check caller id).run fun x x' e e' =>
      x = x' ∧ At link r e e'
  delete (r : Catalog.Records) (caller : Caller) (id : String) :
    u.Pairs u' (At link r) (k.delete caller id .empty) (k'.delete caller id .empty) fun x x' e e' =>
      x.1 = x'.1 ∧ At link r e e'
  create (r : Catalog.Records) (caller : Caller) {s s' : Secret} : submits s s' →
    u.Pairs u' (At link r) (k.create caller s .empty) (k'.create caller s' .empty)
      (Made u u' link r caller.tenant s)

end Keystore

/-! ## Calls in common -/

namespace Custodian

section
variable {u u' : Supply} {link : Link} {submits : Secret → Secret → Prop} {k k' : Keystore Action}
  {r : Catalog.Records} {caller : Caller} {id : String}

theorem pairs_alike {α β : Type} {p : Action α} {p' : Action β} {Q : α → β → Engine → Engine → Prop}
    (h : ∀ r, u.Pairs u' (At link r) p p' Q) : u.Pairs u' (Alike link) p p' Q :=
  fun e e' alike => h e.records e e' alike

theorem pairs_common {α : Type} {p : Action α} (keystores : Keystore.Beside u u' link submits k k')
    (shared : Action.Shared p) :
    u.Pairs u' (At link r) p p fun a a' e e' => a = a' ∧ Alike link e e' :=
  fun e e' h => pairs_shared keystores.times keystores.grows shared e e' h.alike

theorem pairs_now {P : Engine → Engine → Prop} (times : u.time = u'.time)
    (level : ∀ e e', P e e' → e.timed = e'.timed)
    (later : ∀ e e', P e e' → P { e with timed := e.timed + 1 } { e' with timed := e'.timed + 1 }) :
    u.Pairs u' P Action.now Action.now fun x x' e e' => x = x' ∧ P e e' := by
  intro e e' h
  refine ⟨?_, later e e' h⟩
  change u.time e.timed = u'.time e'.timed
  rw [times, level e e' h]

theorem pairs_count {c : Counter} :
    u.Pairs u' (At link r) (Action.count c) (Action.count c) fun _ _ e e' => At link r e e' :=
  fun _ _ h => ⟨⟨h.left, h.right, congrArg (Tally.add c) h.tally, h.timed⟩, h.linked⟩

/-! ## Reading -/

theorem pairs_find : u.Pairs u' (At link r) ((Action.custodian k).find caller id).run
    ((Action.custodian k').find caller id).run fun x x' e e' =>
      Matching (fun s s' => s = s' ∧ r.lookup (caller.tenant, id) = some s) x x' ∧ At link r e e' := by
  have got : u.Pairs u' (At link r) (Action.catalog.get caller id).run (Action.catalog.get caller id).run
      fun x x' e e' => Matching (fun found found' => found = r.lookup (caller.tenant, id) ∧
        found' = r.lookup (caller.tenant, id)) x x' ∧ At link r e e' := by
    intro e e' h
    refine ⟨⟨?_, ?_⟩, h⟩
    · exact congrArg (List.lookup (caller.tenant, id)) h.left
    · exact congrArg (List.lookup (caller.tenant, id)) h.right
  refine got.bindExcept (fun _ _ h => h) fun found found' ⟨same, same'⟩ => ?_
  subst same same'
  cases found : r.lookup (caller.tenant, id) with
  | none => exact Pairs.pure fun _ _ h => ⟨rfl, h⟩
  | some s => exact Pairs.pure fun _ _ h => ⟨⟨rfl, rfl⟩, h⟩

/-- Bringing the same record up to date ends alike, and does not decide whether it is extractable. -/
theorem pairs_update (keystores : Keystore.Beside u u' link submits k k') {s : Secret}
    {observed : Option Phase} :
    u.Pairs u' (At link r) ((Action.custodian k).update caller s observed).run
      ((Action.custodian k').update caller s observed).run fun x x' e e' =>
        Matching (fun a a' => a = a' ∧ a.extractable = s.extractable) x x' ∧ Alike link e e' := by
  intro e e' h
  have shared : Action.Shared ((Action.custodian k).update caller s observed).run := shared_update
  obtain ⟨same, alike⟩ := pairs_common keystores shared e e' h
  refine ⟨?_, alike⟩
  have run := Run.of_answers u.world_answer ((Action.custodian k).update caller s observed).run e
  change Matching _ _ (((Action.custodian k).update caller s observed).run.run u'.answer e').1
  rw [← same]
  cases ended : (((Action.custodian k).update caller s observed).run.run u.answer e).1 with
  | error _ => exact rfl
  | ok a =>
    rw [ended] at run
    exact ⟨rfl, (run_update_ok run).2.1⟩

theorem redact_withheld {s : Secret} {p : Option Sealed} (withheld : s.extractable = false) :
    { s with payload := p }.redact = { s with payload := none } := by
  simp [Secret.redact, Secret.isReleasable, withheld]

theorem pairs_read (keystores : Keystore.Beside u u' link submits k k') :
    u.Pairs u' (Alike link) ((Action.custodian k).read caller id).run
      ((Action.custodian k').read caller id).run fun x x' e e' =>
        Matching Eq x x' ∧ Alike link e e' := by
  refine pairs_alike fun r => pairs_find.bindExcept (fun _ _ => At.alike) fun s s' ⟨same, found⟩ => ?_
  subst same
  by_cases destroyed : s.phase = .destroyed
  · rw [if_pos destroyed, if_pos destroyed]
    exact Pairs.pure fun _ _ h => ⟨rfl, h.alike⟩
  rw [if_neg destroyed, if_neg destroyed]
  by_cases deleted : s.deleted = true
  · rw [if_pos deleted, if_pos deleted]
    refine (pairs_common keystores shared_update).mono fun x x' e e' ⟨same, alike⟩ => ?_
    exact ⟨matching_eq.2 same, alike⟩
  rw [if_neg deleted, if_neg deleted]
  refine (keystores.payload r caller id).bindExcept (fun _ _ => At.alike) fun o o' ⟨phase, payload⟩ => ?_
  rw [← phase]
  refine (pairs_update keystores).bindExcept (fun _ _ h => h) fun a a' ⟨same, kept⟩ => ?_
  subst same
  have shown : { a with payload := o.payload }.redact = { a with payload := o'.payload }.redact := by
    obtain same | ⟨_, found', withheld⟩ := payload
    · rw [same]
    · obtain rfl := Option.some.inj (found.symm.trans found')
      rw [redact_withheld (kept.trans withheld), redact_withheld (kept.trans withheld)]
  exact Pairs.pure fun _ _ alike => ⟨shown, alike⟩

/-! ## Pages -/

theorem pairs_settlePage (keystores : Keystore.Beside u u' link submits k k') {page : List Secret}
    {now : Time.Instant} :
    u.Pairs u' (At link r)
      (Lifecycle.settlePage (k.check caller) Action.catalog Action.count caller page now)
      (Lifecycle.settlePage (k'.check caller) Action.catalog Action.count caller page now)
      fun shown shown' e e' => shown = shown' ∧ Alike link e e' := by
  have observed : u.Pairs u' (At link r) (page.mapM (Lifecycle.observe (k.check caller)))
      (page.mapM (Lifecycle.observe (k'.check caller))) fun o o' e e' => o = o' ∧ At link r e e' := by
    refine Pairs.mapM fun s _ => ?_
    unfold Lifecycle.observe
    by_cases waiting : s.phase ≠ .preactivation
    · rw [if_pos waiting, if_pos waiting]
      exact Pairs.pure fun _ _ h => ⟨rfl, h⟩
    · rw [if_neg waiting, if_neg waiting]
      refine (keystores.check r caller s.id).bind_of fun x x' same => ?_
      subst same
      exact Pairs.pure fun _ _ h => ⟨rfl, h⟩
  refine observed.bind_of fun o o' same => ?_
  subst same
  refine pairs_common keystores (keeps_mapM fun p _ => ?_)
  exact Action.shared_settle.bind fun _ _ => trivial

theorem pairs_readPage (keystores : Keystore.Beside u u' link submits k k') {q : Catalog.Query} :
    u.Pairs u' (Alike link) ((Action.custodian k).readPage caller q).run
      ((Action.custodian k').readPage caller q).run fun x x' e e' =>
        Matching Eq x x' ∧ Alike link e e' := by
  refine pairs_alike fun r => ?_
  have valid : u.Pairs u' (At link r) (liftM q.validate : ExceptT Error Action Unit).run
      (liftM q.validate : ExceptT Error Action Unit).run fun x x' e e' =>
        Matching Eq x x' ∧ At link r e e' :=
    Pairs.pure fun _ _ h => ⟨matching_eq.2 rfl, h⟩
  refine valid.bindExcept (fun _ _ => At.alike) fun _ _ _ => ?_
  have listed : u.Pairs u' (At link r) (Action.catalog.list caller q).run
      (Action.catalog.list caller q).run fun x x' e e' => Matching Eq x x' ∧ At link r e e' := by
    intro e e' h
    refine ⟨?_, h⟩
    change e.records.list caller.tenant q = e'.records.list caller.tenant q
    rw [h.left, h.right]
  refine listed.bindExcept (fun _ _ => At.alike) fun page page' same => ?_
  subst same
  have asked : u.Pairs u' (At link r) Action.now Action.now fun x x' e e' => x = x' ∧ At link r e e' :=
    pairs_now keystores.times (fun _ _ h => h.timed) fun _ _ h =>
      ⟨⟨h.left, h.right, h.tally, congrArg (· + 1) h.timed⟩, h.linked⟩
  refine asked.lift.bindExcept (fun _ _ => At.alike) fun now now' same => ?_
  subst same
  refine (pairs_settlePage keystores).lift.bindExcept (fun _ _ h => h) fun shown shown' same => ?_
  subst same
  exact Pairs.pure fun _ _ h => ⟨rfl, h⟩

/-! ## Creation -/

theorem pairs_counted {α : Type} {P : Engine → Engine → Prop} {operation : String}
    {request request' : Action (Except Error α)} (keystores : Keystore.Beside u u' link submits k k')
    (requested : u.Pairs u' P request request' fun x x' e e' => x = x' ∧ Alike link e e') :
    u.Pairs u' P ((Action.custodian k).counted operation request).run
      ((Action.custodian k').counted operation request').run fun x x' e e' =>
        x = x' ∧ Alike link e e' := by
  refine requested.bind_of fun x x' same => ?_
  subst same
  refine pairs_alike fun r => pairs_common keystores (p := do
    Action.count (.operation operation x.isOk)
    return x) ⟨rfl, fun _ => trivial⟩

/-- Creations that can both be undone are undone alike. -/
theorem pairs_rollBack {P : Engine → Engine → Prop} {operation : String} {ledger ledger' : Ledger Action}
    (undone : u.Pairs u' P ledger.clean ledger'.clean fun o o' e e' => o.1 = o'.1 ∧ At link r e e') :
    u.Pairs u' P ((Action.custodian k).rollBack operation ledger)
      ((Action.custodian k').rollBack operation ledger') fun _ _ e e' => Alike link e e' := by
  refine undone.bind_of fun o o' same => ?_
  obtain ⟨outcome, ledger⟩ := o
  obtain ⟨outcome', ledger'⟩ := o'
  obtain rfl : outcome = outcome' := same
  refine pairs_count.bind fun _ _ => ?_
  by_cases halted : outcome ≠ .undone
  · simp only [if_pos halted]
    exact pairs_count.bind fun _ _ => Pairs.pure fun _ _ h => h.alike
  · simp only [if_neg halted]
    exact Pairs.pure fun _ _ h => h.alike

/-- Storing the records of secrets that are alike: both are refused, or both are stored, and the new
record then withholds the material if it must not be handed out. -/
theorem pairs_record {P : Engine → Engine → Prop} {s s' : Secret} (link : Link) (r : Catalog.Records)
    (caller : Caller) (times : u.time = u'.time) (alike : s.Alike s') (level : ∀ e e', P e e' → Level r e e')
    (linked : ∀ e e', P e e' → ∀ H : Tenant × String → Prop, (∀ key, r.Withholds key → H key) →
      (s.extractable = false → H (caller.tenant, s.id)) → link H e.toBacking e'.toBacking) :
    u.Pairs u' P (Action.catalog.create caller s).run (Action.catalog.create caller s').run
      fun x x' e e' => x = x' ∧ match x with
        | .error _ => P e e'
        | .ok _ => Alike link e e' := by
  intro e e' h
  obtain ⟨left, right, tally, timed⟩ := level e e' h
  have answered : (Action.catalog.create caller s).run.run u.answer e =
      ((r.create caller.tenant (u.time e.timed) s).1,
        { e with records := (r.create caller.tenant (u.time e.timed) s).2 }) := by
    rw [← left]
    rfl
  have answered' : (Action.catalog.create caller s').run.run u'.answer e' =
      ((r.create caller.tenant (u.time e.timed) s).1,
        { e' with records := (r.create caller.tenant (u.time e.timed) s).2 }) := by
    rw [alike.create, ← right, times, timed]
    rfl
  rw [answered, answered']
  refine ⟨rfl, ?_⟩
  obtain ⟨_, same⟩ | ⟨stored, same, -, dated⟩ :=
    Catalog.Records.create_cases caller.tenant (u.time e.timed) s r
  · rw [same]
    have stays : { e with records := r } = e := by rw [← left]
    have stays' : { e' with records := r } = e' := by rw [← right]
    change P { e with records := r } { e' with records := r }
    rwa [stays, stays']
  · have withheld : ∀ key, r.Withholds key → (r.put (caller.tenant, s.id) stored).Withholds key := by
      intro key before
      have after : (r.create caller.tenant (u.time e.timed) s).2.Withholds key := before.create
      rwa [same] at after
    rw [same]
    refine ⟨⟨rfl, rfl, tally, timed⟩, linked e e' h _ withheld fun own => ?_⟩
    exact ⟨stored, Keyed.lookup_put_self, (congrArg Secret.extractable dated).trans own⟩

theorem pairs_place (keystores : Keystore.Beside u u' link submits k k') {s s' : Secret}
    (submitted : submits s s') :
    u.Pairs u' (Alike link) ((Action.custodian k).place caller s) ((Action.custodian k').place caller s')
      fun x x' e e' => x.1 = x'.1 ∧ Alike link e e' := by
  refine pairs_alike fun r => ?_
  unfold place
  have submitted := keystores.named submitted
  generalize { s with name := Text.trim s.name : Secret } = s at submitted ⊢
  generalize { s' with name := Text.trim s'.name : Secret } = s' at submitted ⊢
  dsimp only
  rw [(keystores.alike submitted).validateNew]
  cases s'.validateNew with
  | error _ => exact Pairs.pure fun _ _ h => ⟨rfl, h.alike⟩
  | ok _ =>
    refine Pairs.bind (keystores.create r caller submitted) fun c c' => Pairs.given fun e₁ e₁' made => ?_
    obtain ⟨result, secret, extractable, level, linked, undone⟩ := made
    refine ⟨Since r e₁ e₁', ⟨level, rfl, rfl⟩, ?_⟩
    have undoing : ∀ error : Error, u.Pairs u' (Since r e₁ e₁')
        (do return (.error error, ← (Action.custodian k).rollBack "create" c.ledger) :
          Action (Except Error Secret × Ledger Action))
        (do return (.error error, ← (Action.custodian k').rollBack "create" c'.ledger) :
          Action (Except Error Secret × Ledger Action))
        fun x x' e e' => x.1 = x'.1 ∧ Alike link e e' := by
      refine fun error => (pairs_rollBack undone).bind fun _ _ => ?_
      exact Pairs.pure fun _ _ h => ⟨rfl, h⟩
    rw [← result]
    cases issued : c.result with
    | error error => exact undoing error
    | ok id =>
      have asked : u.Pairs u' (Since r e₁ e₁') Action.now Action.now fun x x' e e' =>
          x = x' ∧ Since r e₁ e₁' e e' := by
        refine pairs_now keystores.times (fun _ _ h => h.1.timed) fun _ _ h => ?_
        exact ⟨⟨h.1.left, h.1.right, h.1.tally, congrArg (· + 1) h.1.timed⟩, h.2⟩
      refine asked.bind_of fun now now' same => ?_
      subst same
      have alike := secret.issued id now
      have recorded := pairs_record link r caller keystores.times alike
        (fun (e e' : Engine) (since : Since r e₁ e₁' e e') => since.1) fun e e' since H withheld own => by
          rw [since.2.1, since.2.2]
          exact linked id issued H withheld fun none => own (extractable.trans none)
      refine recorded.bind fun x x' => Pairs.of_and fun same => ?_
      subst same
      cases x with
      | error error => exact undoing error
      | ok stored =>
        have released := congrArg (Except.ok (ε := Error)) (alike.releaseTo stored)
        exact Pairs.pure fun _ _ h => ⟨released, h⟩

/-! ## Destruction -/

theorem pairs_lastMaterial (keystores : Keystore.Beside u u' link submits k k') (left : Nat) :
    u.Pairs u' (At link r) ((Action.custodian k).lastMaterial caller id left).run
      ((Action.custodian k').lastMaterial caller id left).run fun x x' e e' =>
        Matching (Observation.Matches (r.Withholds (caller.tenant, id))) x x' ∧ At link r e e' := by
  induction left with
  | zero => exact Pairs.pure fun _ _ h => ⟨rfl, h⟩
  | succ left ih =>
    refine (keystores.payload r caller id).bindExcept (fun _ _ h => h) fun o o' agrees => ?_
    rw [← agrees.1]
    by_cases waiting : o.phase = .preactivation
    · rw [if_pos waiting, if_pos waiting]
      exact ih
    · rw [if_neg waiting, if_neg waiting]
      exact Pairs.pure fun _ _ h => ⟨agrees, h⟩

/-- Farewells are the same if the deleted record withholds whatever differs. -/
theorem farewell_matches {gone : Secret} {withheld : Prop} {o o' : Observation}
    (h : o.Matches withheld o') (own : withheld → gone.extractable = false) :
    farewell gone o = farewell gone o' := by
  obtain ⟨-, same | masked⟩ := h
  · unfold farewell
    rw [same]
  · simp [farewell, own masked]

/-- Marking a record as deleted does not decide whether it is extractable. -/
theorem pairs_mark (keystores : Keystore.Beside u u' link submits k k') :
    u.Pairs u' (At link r) (Action.catalog.delete caller id).run (Action.catalog.delete caller id).run
      fun x x' e e' => (x = x' ∧ ∀ gone, x = .ok gone →
        r.Withholds (caller.tenant, id) → gone.extractable = false) ∧ Alike link e e' := by
  intro e e' h
  obtain ⟨same, alike⟩ := pairs_common keystores
    (p := (Action.catalog.delete caller id).run) ⟨rfl, fun _ => trivial⟩ e e' h
  refine ⟨⟨same, fun gone marked withheld => ?_⟩, alike⟩
  obtain ⟨s, found, own⟩ := withheld
  have answered : (r.delete caller.tenant id).1 = .ok gone := h.left ▸ marked
  unfold Catalog.Records.delete at answered
  rw [found] at answered
  obtain rfl := Except.ok.inj answered
  exact own

theorem pairs_remove (keystores : Keystore.Beside u u' link submits k k') {whole : Bool} :
    u.Pairs u' (Alike link) ((Action.custodian k).remove caller id whole .empty)
      ((Action.custodian k').remove caller id whole .empty) fun x x' e e' =>
        x.1 = x'.1 ∧ Alike link e e' := by
  refine pairs_alike fun r => ?_
  have observed : u.Pairs u' (At link r) ((Action.custodian k).observeLast caller id whole).run
      ((Action.custodian k').observeLast caller id whole).run fun x x' e e' =>
        Matching (Option.Rel (Observation.Matches (r.Withholds (caller.tenant, id)))) x x' ∧
          At link r e e' := by
    cases whole with
    | false => exact Pairs.pure fun _ _ h => ⟨.none, h⟩
    | true =>
      rw [observeLast, observeLast, if_pos rfl, if_pos rfl, map_eq_pure_bind, map_eq_pure_bind]
      refine (pairs_lastMaterial keystores _).bindExcept (fun _ _ h => h) fun o o' agrees => ?_
      exact Pairs.pure fun _ _ h => ⟨.some agrees, h⟩
  refine observed.bind_of fun x x' seen => ?_
  cases x with
  | error _ =>
    cases x' with
    | error _ => exact Pairs.pure fun _ _ h => ⟨congrArg Except.error seen, h.alike⟩
    | ok _ => exact seen.elim
  | ok last =>
    cases x' with
    | error _ => exact seen.elim
    | ok last' =>
      refine (keystores.delete r caller id).bind_of fun y y' same => ?_
      obtain ⟨y, ledger⟩ := y
      obtain ⟨y', ledger'⟩ := y'
      obtain rfl : y = y' := same
      cases y with
      | error _ => exact Pairs.pure fun _ _ h => ⟨rfl, h.alike⟩
      | ok _ =>
        refine (pairs_mark keystores).bind_of fun z z' marked => ?_
        obtain ⟨rfl, own⟩ := marked
        refine Pairs.pure fun _ _ h => ⟨?_, h⟩
        cases z with
        | error _ => rfl
        | ok gone =>
          cases seen with
          | none => rfl
          | some agrees =>
            exact congrArg (fun s => Except.ok (some s)) (farewell_matches agrees (own gone rfl))

end

/-! ## Requests -/

/-- The same request, but for the secrets that it submits. -/
inductive Request.Beside (submits : Secret → Secret → Prop) : Request → Request → Prop
  | create {s s' : Secret} (caller : Caller) (whole : Bool) (submitted : submits s s') :
    Beside submits (.create caller s whole) (.create caller s' whole)
  | fetch (caller : Caller) (id : String) : Beside submits (.fetch caller id) (.fetch caller id)
  | list (caller : Caller) (q : Catalog.Query) : Beside submits (.list caller q) (.list caller q)
  | total (caller : Caller) (q : Catalog.Query) : Beside submits (.total caller q) (.total caller q)
  | destroy (caller : Caller) (id : String) (whole : Bool) :
    Beside submits (.destroy caller id whole) (.destroy caller id whole)

section
variable {u u' : Supply} {link : Link} {submits : Secret → Secret → Prop} {k k' : Keystore Action}

theorem pairs_perform (keystores : Keystore.Beside u u' link submits k k') {q q' : Request}
    (h : q.Beside submits q') :
    u.Pairs u' (Alike link) ((Action.custodian k).perform q) ((Action.custodian k').perform q')
      fun x x' e e' => x = x' ∧ Alike link e e' := by
  -- each reply is that of the counted request
  have answered : ∀ {α : Type} {p p' : Action (Except Error α)} (f : α → Reply),
      u.Pairs u' (Alike link) p p' (fun x x' e e' => x = x' ∧ Alike link e e') →
      u.Pairs u' (Alike link) (do return (← p).map f) (do return (← p').map f)
        fun x x' e e' => x = x' ∧ Alike link e e' := by
    refine fun f pairs => pairs.bind_of fun x x' same => ?_
    subst same
    exact Pairs.pure fun _ _ h => ⟨rfl, h⟩
  have matched : ∀ {α : Type} {p p' : Action (Except Error α)},
      u.Pairs u' (Alike link) p p' (fun x x' e e' => Matching Eq x x' ∧ Alike link e e') →
      u.Pairs u' (Alike link) p p' fun x x' e e' => x = x' ∧ Alike link e e' :=
    fun pairs => pairs.mono fun _ _ _ _ h => ⟨matching_eq.1 h.1, h.2⟩
  cases h with
  | create caller whole submitted =>
    refine answered _ (pairs_counted keystores ((pairs_place keystores submitted).bind_of ?_))
    rintro ⟨x, ledger⟩ ⟨x', ledger'⟩ same
    obtain rfl : x = x' := same
    exact Pairs.pure fun _ _ h => ⟨rfl, h⟩
  | fetch caller id =>
    exact answered _ (pairs_counted keystores (matched (pairs_read keystores)))
  | list caller q =>
    exact answered _ (pairs_counted keystores (matched (pairs_readPage keystores)))
  | total caller q =>
    refine answered _ (pairs_counted keystores ?_)
    cases q.validate with
    | error _ => exact Pairs.pure fun _ _ h => ⟨rfl, h⟩
    | ok _ => exact pairs_alike fun r => pairs_common keystores ⟨rfl, fun _ => trivial⟩
  | destroy caller id whole =>
    refine answered _ (pairs_counted keystores ((pairs_remove keystores).bind_of ?_))
    rintro ⟨x, ledger⟩ ⟨x', ledger'⟩ same
    obtain rfl : x = x' := same
    exact Pairs.pure fun _ _ h => ⟨rfl, h⟩

/-- Custodians over keystores side by side give the same replies to the same requests, and leave
engines that are alike. -/
theorem pairs_performAll (keystores : Keystore.Beside u u' link submits k k')
    {requests requests' : List Request} (h : List.Forall₂ (Request.Beside submits) requests requests') :
    u.Pairs u' (Alike link) ((Action.custodian k).performAll requests)
      ((Action.custodian k').performAll requests') fun xs xs' e e' => xs = xs' ∧ Alike link e e' := by
  induction h with
  | nil => exact Pairs.pure fun _ _ h => ⟨rfl, h⟩
  | cons first _ ih =>
    rw [performAll, performAll, List.mapM_cons, List.mapM_cons]
    refine (pairs_perform keystores first).bind_of fun x x' same => ih.bind_of fun xs xs' all => ?_
    subst same all
    exact Pairs.pure fun _ _ h => ⟨rfl, h⟩

end

end Custodian

end KeyCustody

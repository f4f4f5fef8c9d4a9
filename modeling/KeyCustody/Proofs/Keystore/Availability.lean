import KeyCustody.Proofs.Keystore.Promotion
import KeyCustody.Proofs.Retry

/-!
# Material that has been seen in use

A key that has been seen in use stays so, because its entry names its secret from then on, or its order
can be asked for again. There is one way to lose it: a read that cannot promote the entry deletes the
order, and only the order knew where the secret is.
-/

namespace KeyCustody

/-- The calls that may change what stands in a store. -/
def Call.writesEntry : Call → Bool
  | .addEntry .. | .updateEntry .. | .deleteEntry .. => true
  | _ => false

/-- Calls on a registry succeed. -/
def registrySucceeds : Event → Bool
  | ⟨.addEntry .., x⟩ | ⟨.updateEntry .., x⟩ | ⟨.deleteEntry .., x⟩ => Except.isOk x
  | ⟨.getEntry .., x⟩ => Except.isOk x
  | _ => true

namespace Keystore

open Program
open Barbican (OrderStatus)
open Registry (Entry Store)

/-! ## Orders that are done until they are deleted -/

/-- A store, and the orders that have been deleted at the API. -/
@[ext]
structure Site where
  store : Store
  gone : List String

namespace Site

/-- Updates of the store may fail with or without effect, and its other calls without. The API finds an
order done until it is deleted, and does not know it from then on. -/
def world : World Site
  | .updateEntry tenant e, s, x, s' =>
    Fault.any.Admits (s.store.update tenant e) s.store x s'.store ∧ s'.gone = s.gone
  | .checkOrder _ order, s, x, s' =>
    s' = s ∧ if order ∈ s.gone then ∃ m, x = .error (.backend m (some 404))
      else ∃ ref, x = .ok (.active ref)
  | .deleteOrder _ order, s, x, s' =>
    s'.store = s.store ∧ s'.gone = if Except.isOk x then order :: s.gone else s.gone
  | c, s, x, s' => Store.world .clean c s.store x s'.store ∧ s'.gone = s.gone

/-- What a site answers where every order is done under `ref`, updates are refused or not, and the
answers to other calls are given. -/
def answer (ref : String) (refusal : Option Error) (others : (c : Call) → c.Answer) (s : Site) :
    (c : Call) → c.Answer × Site
  | .updateEntry tenant e =>
    match refusal with
    | some error => (.error error, s)
    | none => ((s.store.update tenant e).1, { s with store := (s.store.update tenant e).2 })
  | .checkOrder _ order =>
    (if order ∈ s.gone then .error (.backend "unknown" (some 404)) else .ok (.active ref), s)
  | .deleteOrder _ order => (.ok (), { s with gone := order :: s.gone })
  | c => ((s.store.answer others c).1, { s with store := (s.store.answer others c).2 })

theorem world_answer {ref : String} {refusal : Option Error} {others : (c : Call) → c.Answer} (s : Site)
    (c : Call) :
    world c s (s.answer ref refusal others c).1 (s.answer ref refusal others c).2 := by
  cases c with
  | updateEntry tenant e =>
    cases refusal with
    | none => exact ⟨.inl rfl, rfl⟩
    | some error => exact ⟨.inr ⟨⟨error, rfl⟩, .inl rfl⟩, rfl⟩
  | checkOrder caller order =>
    refine ⟨rfl, ?_⟩
    by_cases gone : order ∈ s.gone
    · rw [if_pos gone]
      exact ⟨"unknown", if_pos gone⟩
    · rw [if_neg gone]
      exact ⟨ref, if_neg gone⟩
  | deleteOrder => exact ⟨rfl, rfl⟩
  | addEntry | getEntry | deleteEntry => exact ⟨.inl rfl, rfl⟩
  | _ => exact ⟨rfl, rfl⟩

end Site

/-! ## How an entry goes on -/

/-- An entry that stands keeps its order and stays. It names a secret afterwards if it did before, or if
an update that names one has succeeded. Orders go only when they are deleted. -/
structure Advances (tenant : Tenant) (id : String) (s : Site) (t : Trace) (s' : Site) : Prop where
  stands : ∀ e, s.store.get tenant id = .ok e → ∃ e', s'.store.get tenant id = .ok e' ∧
    e'.order? = e.order? ∧ (e'.secret? = none → e.secret? = none ∧
      ∀ u, ⟨.updateEntry tenant u, .ok ()⟩ ∈ t → u.issuedId = id → u.secret? = none)
  gone : ∀ order ∈ s'.gone, order ∈ s.gone ∨ ∃ caller, ⟨.deleteOrder caller order, .ok ()⟩ ∈ t

/-- The identifier is not given up. -/
def Undeleted (tenant : Tenant) (id : String) (t : Trace) : Prop :=
  ⟨.deleteEntry tenant id, .ok ()⟩ ∉ t

section
variable {tenant tenant' : Tenant} {id id' : String} {s s' : Site} {v : Event}

theorem chains_advances : Chains (Advances tenant id) where
  refl s := ⟨fun e stands => ⟨e, stands, rfl, fun none => ⟨none, nofun⟩⟩, fun _ member => .inl member⟩
  append first rest := by
    refine ⟨fun e stands => ?_, fun order member => ?_⟩
    · obtain ⟨e₁, stands₁, order₁, secret₁⟩ := first.stands e stands
      obtain ⟨e₂, stands₂, order₂, secret₂⟩ := rest.stands e₁ stands₁
      refine ⟨e₂, stands₂, order₂.trans order₁, fun none => ?_⟩
      obtain ⟨none₁, unnamed₂⟩ := secret₂ none
      obtain ⟨none, unnamed₁⟩ := secret₁ none₁
      refine ⟨none, fun u member own => ?_⟩
      exact (List.mem_append.1 member).elim (unnamed₁ u · own) (unnamed₂ u · own)
    · obtain earlier | ⟨caller, deleted⟩ := rest.gone order member
      · obtain before | ⟨caller, deleted⟩ := first.gone order earlier
        · exact .inl before
        · exact .inr ⟨caller, List.mem_append_left _ deleted⟩
      · exact .inr ⟨caller, List.mem_append_right _ deleted⟩

/-- A call on the way that no entry depends on. -/
theorem advances_quiet (kept : ∀ e, s.store.get tenant id = .ok e → s'.store.get tenant id = .ok e)
    (gone : s'.gone = s.gone) (other : ∀ u, v = ⟨.updateEntry tenant u, .ok ()⟩ → u.issuedId ≠ id) :
    Advances tenant id s [v] s' := by
  refine ⟨fun e stands => ⟨e, kept e stands, rfl, fun none => ⟨none, fun u member own => ?_⟩⟩, ?_⟩
  · exact absurd own (other u (List.mem_singleton.1 member).symm)
  · rw [gone]
    exact fun _ member => .inl member

theorem advances_reading {c : Call} {x : c.Answer} (reading : c.writesEntry = false)
    (answered : Site.world c s x s') : s'.store = s.store ∧ Advances tenant id s [⟨c, x⟩] s' := by
  have quiet : s'.store = s.store → s'.gone = s.gone →
      (∀ u, (⟨c, x⟩ : Event) ≠ ⟨.updateEntry tenant u, .ok ()⟩) →
      s'.store = s.store ∧ Advances tenant id s [⟨c, x⟩] s' := fun same gone other =>
    ⟨same, advances_quiet (fun e stands => same ▸ stands) gone fun u is => absurd is (other u)⟩
  cases c with
  | addEntry | updateEntry | deleteEntry => cases reading
  | getEntry tenant' id' =>
    have looked : Fault.clean.Admits (s.store.get tenant' id', s.store) s.store x s'.store := answered.1
    exact quiet looked.lookup.1 answered.2 nofun
  | checkOrder caller order =>
    obtain ⟨rfl, -⟩ := answered
    exact quiet rfl rfl nofun
  | deleteOrder caller order =>
    obtain ⟨same, gone⟩ := answered
    refine ⟨same, ?_, fun order' member => ?_⟩
    · intro e stands
      exact ⟨e, same ▸ stands, rfl, fun none => ⟨none, fun u is => absurd (List.mem_singleton.1 is) nofun⟩⟩
    · rw [gone] at member
      cases x with
      | error _ => exact .inl member
      | ok _ =>
        obtain rfl | before := List.mem_cons.1 member
        · exact .inr ⟨caller, List.mem_singleton_self _⟩
        · exact .inl before
  | _ => exact quiet answered.1 answered.2 nofun

theorem respects_make {P : Store → Prop} {c : Call} (reading : c.writesEntry = false) :
    Respects Site.world (Guarded (fun s => P s.store) (Advances tenant id)) (Action.make c) := by
  refine .ask fun s x s' answered holds => ?_
  obtain ⟨same, advances⟩ : s'.store = s.store ∧ Advances tenant id s [⟨c, x⟩] s' :=
    advances_reading reading answered
  have still : P s'.store := same ▸ holds
  exact ⟨still, advances⟩

theorem respects_retry {P : Store → Prop} {α : Type} {operation : String}
    {attempt : ExceptT Error Action α}
    (tried : Respects Site.world (Guarded (fun s => P s.store) (Advances tenant id)) attempt.run) :
    Respects Site.world (Guarded (fun s => P s.store) (Advances tenant id))
      (Networked.retry Action.count operation attempt).run :=
  Retry.respects_attempts chains_advances.guarded (respects_make rfl) tried

/-- An entry that stands is not added again. -/
theorem respects_add {e : Entry} :
    Respects Site.world (Guarded (fun s => s.store.Sound) (Advances tenant id))
      (Action.make (.addEntry tenant' e)) := by
  refine .ask fun s x s' answered sound => ?_
  obtain ⟨admitted, gone⟩ := answered
  have admitted : Fault.clean.Admits (s.store.add tenant' e) s.store x s'.store := admitted
  cases x with
  | error _ =>
    have same : s'.store = s.store := admitted.error fun _ => Store.add_error
    have still : s'.store.Sound := same ▸ sound
    exact ⟨still, advances_quiet (fun e stands => same ▸ stands) gone nofun⟩
  | ok _ =>
    have change := Store.enters_add admitted.ok
    refine ⟨change.sound sound, advances_quiet (fun old stands => ?_) gone nofun⟩
    have different : (tenant, id) ≠ (tenant', e.issuedId) := by
      intro same
      obtain ⟨rfl, rfl⟩ := Prod.mk.inj same
      have free := Store.live?_add_before sound.unique admitted.ok
      rw [(Store.live?_of_get stands).2.1] at free
      cases free
    exact (change.get_other sound different).trans stands

/-- The relation between the ends of traces that do not give the identifier up. -/
def Stays (tenant : Tenant) (id : String) : Site → Trace → Site → Prop :=
  Guarded (fun s => s.store.Sound) fun s t s' => Undeleted tenant id t → Advances tenant id s t s'

theorem chains_stays : Chains (Stays tenant id) := by
  have parts : ∀ t t', Undeleted tenant id (t ++ t') → Undeleted tenant id t ∧ Undeleted tenant id t' :=
    fun t t' whole => ⟨fun member => whole (List.mem_append_left t' member),
      fun member => whole (List.mem_append_right t member)⟩
  exact (chains_advances.given parts).guarded

theorem stays_of_advances {α : Type} {p : Action α}
    (h : Respects Site.world (Guarded (fun s => s.store.Sound) (Advances tenant id)) p) :
    Respects Site.world (Stays tenant id) p :=
  h.mono fun _ _ _ guarded sound => ⟨(guarded sound).1, fun _ => (guarded sound).2⟩

theorem stays_delete : Respects Site.world (Stays tenant id) (Action.make (.deleteEntry tenant' id')) := by
  refine .ask fun s x s' answered sound => ?_
  obtain ⟨admitted, gone⟩ := answered
  have admitted : Fault.clean.Admits (s.store.delete tenant' id') s.store x s'.store := admitted
  cases x with
  | error _ =>
    have same : s'.store = s.store := admitted.error fun _ => Store.delete_error
    have still : s'.store.Sound := same ▸ sound
    exact ⟨still, fun _ => advances_quiet (fun e stands => same ▸ stands) gone nofun⟩
  | ok _ =>
    have after : s'.store = (s.store.delete tenant' id').2 := (congrArg Prod.snd admitted.ok).symm
    have still : s'.store.Sound := after ▸ Store.sound_delete sound
    refine ⟨still, fun kept => advances_quiet (fun e stands => ?_) gone nofun⟩
    have different : (tenant, id) ≠ (tenant', id') := by
      intro same
      obtain ⟨rfl, rfl⟩ := Prod.mk.inj same
      exact kept (List.mem_singleton_self _)
    rw [after, Store.get_delete_other different]
    exact stands

end

/-! ## Promotion -/

namespace Networked

section
variable {tenant : Tenant} {id id' order ref : String} {s s' : Site} {t : Trace} {caller : Caller}
  {e old new : Entry} {tries : Nat}

/-- What stands while an entry is promoted: that entry, or what it is promoted to. -/
def Promoting (tenant : Tenant) (old new : Entry) (s : Store) : Prop :=
  s.Sound ∧ ∃ e, s.get tenant new.issuedId = .ok e ∧
    (e.cleared = old.cleared ∨ e.cleared = new.cleared)

/-- An update has no effect, or it has had its effect whether or not it fails. -/
theorem update_cases {s s' : Store} {x : Except Error Unit}
    (admitted : Fault.any.Admits (s.update tenant e) s x s') :
    s' = s ∧ x ≠ .ok () ∨ s.update tenant e = (.ok (), s') := by
  obtain same | ⟨⟨error, rfl⟩, rfl | rfl⟩ := admitted
  · cases x with
    | ok _ => exact .inr same.symm
    | error error =>
      have failed : (s.update tenant e).1 = .error error := (congrArg Prod.fst same).symm
      exact .inl ⟨(congrArg Prod.snd same).trans (Store.update_error failed), nofun⟩
  · exact .inl ⟨rfl, nofun⟩
  · cases result : (s.update tenant e).1 with
    | ok _ => exact .inr (Prod.ext result rfl)
    | error error => exact .inl ⟨Store.update_error result, nofun⟩

theorem promoting_update (pending : old.pending? = some order) (same : new.order? = old.order?) :
    Respects Site.world (Guarded (fun s => Promoting caller.tenant old new s.store) (Advances tenant id))
      (Action.registry.update caller.tenant new).run := by
  refine .ask fun s x s' answered promoting => ?_
  obtain ⟨sound, e, stands, alike⟩ := promoting
  have ordered : e.order? = new.order? := by
    obtain alike | alike := alike
    · exact (Entry.order?_congr alike).trans same.symm
    · exact Entry.order?_congr alike
  obtain ⟨admitted, gone⟩ := answered
  obtain ⟨unchanged, failed⟩ | updated := update_cases admitted
  · have still : Promoting caller.tenant old new s'.store := unchanged ▸ ⟨sound, e, stands, alike⟩
    refine ⟨still, advances_quiet (fun e stands => unchanged ▸ stands) gone fun u is => ?_⟩
    cases is
    exact absurd rfl failed
  · have change := Store.enters_update updated
    obtain ⟨e', stands', new'⟩ := change.get_self (change.sound sound)
    refine ⟨⟨change.sound sound, e', stands', .inr new'⟩, ?_, ?_⟩
    · intro e₁ stands₁
      by_cases own : (tenant, id) = (caller.tenant, new.issuedId)
      · obtain ⟨rfl, rfl⟩ := Prod.mk.inj own
        obtain rfl := Except.ok.inj (stands.symm.trans stands₁)
        refine ⟨e', stands', (Entry.order?_congr new').trans ordered.symm, fun none => ?_⟩
        rw [Entry.secret?_congr new'] at none
        refine ⟨?_, fun u is _ => ?_⟩
        · obtain alike | alike := alike
          · rw [Entry.secret?_congr alike]
            exact (pending_iff.1 pending).1
          · rw [Entry.secret?_congr alike]
            exact none
        · cases List.mem_singleton.1 is
          exact none
      · refine ⟨e₁, (change.get_other sound own).trans stands₁, rfl, fun none => ⟨none, fun u is id => ?_⟩⟩
        cases List.mem_singleton.1 is
        exact absurd (by rw [id]) own
    · rw [gone]
      exact fun _ member => .inl member

theorem promoting_promote (pending : old.pending? = some order) (same : new.order? = old.order?) :
    Respects Site.world (Guarded (fun s => Promoting caller.tenant old new s.store) (Advances tenant id))
      (promote Action.registry (Call.barbican Action.make) Action.count caller new order) := by
  have chains : Chains (Guarded (fun s => Promoting caller.tenant old new s.store)
      (Advances tenant id)) := chains_advances.guarded
  refine .bind chains (respects_retry (promoting_update pending same)) fun x => ?_
  cases x with
  | ok _ => exact .pure chains _
  | error _ =>
    refine .bind chains (respects_make rfl) fun x => ?_
    cases x with
    | ok _ => exact .pure chains _
    | error _ => exact respects_make rfl

/-! ## Reading -/

theorem run_translate_site {r : Except Error Entry}
    (h : Run Site.world (retry Action.count "translate_id" (Action.registry.get caller.tenant id)).run s t
      r s') :
    s' = s ∧ ∀ e, r = .ok e → s.store.get caller.tenant id = .ok e := by
  have counted : ∀ s t u s', Run Site.world (Action.count (.retriesExhausted "translate_id")) s t u s' →
      s' = s := by
    intro s t u s' asked
    obtain ⟨-, same, gone⟩ := Run.ask_iff.1 asked
    exact Site.ext same gone
  have looked : ∀ s t x s', Run Site.world (Action.registry.get caller.tenant id).run s t x s' →
      s' = s ∧ ∀ e, x = .ok e → s.store.get caller.tenant id = .ok e := by
    intro s t x s' asked
    obtain ⟨-, admitted, gone⟩ := Run.ask_iff.1 asked
    have admitted : Fault.clean.Admits (s.store.get caller.tenant id, s.store) s.store x s'.store :=
      admitted
    refine ⟨Site.ext admitted.lookup.1 gone, ?_⟩
    rintro e rfl
    exact congrArg Prod.fst admitted.ok
  obtain ⟨same, last⟩ := Retry.run_attempts_same counted (fun s t x s' asked => (looked s t x s' asked).1) h
  refine ⟨same, fun e found => ?_⟩
  obtain ⟨u, asked⟩ := last e found
  exact (looked _ _ _ _ asked).2 e rfl

theorem run_poll_site {r : Except Error OrderStatus}
    (h : Run Site.world (retry Action.count "check_order"
      ((Call.barbican Action.make).checkOrder caller order)).run s t r s') :
    s' = s ∧ if order ∈ s.gone then ∃ m, r = .error (.backend m (some 404))
      else ∃ ref, r = .ok (.active ref) := by
  obtain ⟨_, x, s₁, _, rfl, asked, outcome⟩ := Retry.run_attempts h
  obtain ⟨-, rfl, status⟩ := Run.ask_iff.1 asked
  by_cases gone : order ∈ s₁.gone
  · rw [if_pos gone] at status ⊢
    obtain ⟨m, rfl⟩ := status
    obtain ⟨_, same, again, -⟩ | ⟨rfl, rfl, rfl⟩ := outcome
    · cases same
      cases again
    · exact ⟨rfl, m, rfl⟩
  · rw [if_neg gone] at status ⊢
    obtain ⟨ref, rfl⟩ := status
    obtain ⟨_, same, -⟩ | ⟨rfl, rfl, rfl⟩ := outcome
    · cases same
    · exact ⟨rfl, ref, rfl⟩

theorem advances_resolve {r : Except Error Resolution}
    (stands : s.store.get caller.tenant id' = .ok e)
    (h : Run Site.world (resolve Action.registry (Call.barbican Action.make) Action.count caller e).run s t
      r s') :
    Guarded (fun s => s.store.Sound) (Advances tenant id) s t s' := by
  have chains : Chains (Guarded (fun s : Site => s.store.Sound) (Advances tenant id)) :=
    chains_advances.guarded
  unfold resolve at h
  cases pending : e.pending? with
  | none =>
    simp only [pending] at h
    exact Respects.pure chains _ _ _ _ _ h
  | some order =>
    simp only [pending] at h
    have asks : Respects Site.world (Guarded (fun s => s.store.Sound) (Advances tenant id))
        (retry Action.count "check_order" ((Call.barbican Action.make).checkOrder caller order)).run :=
      respects_retry (respects_make rfl)
    obtain ⟨_, rfl, failed⟩ | ⟨_, status, _, _, rfl, polled, ended⟩ := Run.bindExcept_iff.1 h
    · exact asks _ _ _ _ failed
    refine chains.append (asks _ _ _ _ polled) ?_
    obtain ⟨rfl, -⟩ := run_poll_site polled
    cases status with
    | pending | failed _ => exact Respects.pure chains _ _ _ _ _ ended
    | active ref =>
      intro sound
      obtain rfl := sound.issuedId stands
      obtain ⟨_, _, _, _, rfl, promoted, passed⟩ := Run.bindLift_iff.1 ended
      have standing : Promoting caller.tenant e { e with secretRef := some ref } _ :=
        ⟨sound, e, stands, .inl rfl⟩
      have promotes : Respects Site.world (Guarded (fun s => Promoting caller.tenant e
          { e with secretRef := some ref } s.store) (Advances tenant id))
          (promote Action.registry (Call.barbican Action.make) Action.count caller
            { e with secretRef := some ref } order) := promoting_promote pending rfl
      have first : Guarded (fun s => s.store.Sound) (Advances tenant id) _ _ _ := fun _ =>
        (promotes _ _ _ _ promoted standing).imp_left And.left
      exact chains.append first (Respects.pure chains _ _ _ _ _ passed) sound

theorem respects_look : Respects Site.world (Guarded (fun s => s.store.Sound) (Advances tenant id))
    (look Action.registry (Call.barbican Action.make) Action.count caller id').run := by
  have translates : Respects Site.world (Guarded (fun s => s.store.Sound) (Advances tenant id))
      (retry Action.count "translate_id" (Action.registry.get caller.tenant id')).run :=
    respects_retry (respects_make rfl)
  intro s t r s' h
  obtain ⟨_, rfl, failed⟩ | ⟨_, e, _, _, rfl, looked, resolved⟩ := Run.bindExcept_iff.1 h
  · exact translates _ _ _ _ failed
  refine chains_advances.guarded.append (translates _ _ _ _ looked) ?_
  obtain ⟨rfl, found⟩ := run_translate_site looked
  exact advances_resolve (found e rfl) resolved

theorem respects_check : Respects Site.world (Guarded (fun s => s.store.Sound) (Advances tenant id))
    (check Action.registry (Call.barbican Action.make) Action.count caller id').run := by
  refine .bindExcept chains_advances.guarded respects_look fun found => ?_
  cases found with
  | ready _ | pending | failed => exact .pure chains_advances.guarded _

theorem respects_fetch : Respects Site.world (Guarded (fun s => s.store.Sound) (Advances tenant id))
    (fetch (Call.barbican Action.make) Action.count caller e).run := by
  unfold fetch
  cases e.secret? with
  | none => exact .throw chains_advances.guarded _
  | some ref =>
    refine .bindExcept chains_advances.guarded (respects_retry (respects_make rfl)) fun material => ?_
    exact .pure chains_advances.guarded _

theorem respects_payload : Respects Site.world (Guarded (fun s => s.store.Sound) (Advances tenant id))
    (payload Action.registry (Call.barbican Action.make) Action.count caller id').run := by
  refine .bindExcept chains_advances.guarded respects_look fun found => ?_
  cases found with
  | ready e => exact respects_fetch
  | pending | failed => exact .pure chains_advances.guarded _

/-! ## Other requests -/

theorem stays_make {c : Call} (reading : c.writesEntry = false) :
    Respects Site.world (Stays tenant id) (Action.make c) :=
  stays_of_advances (respects_make reading)

theorem stays_forgetOrder : Respects Site.world (Stays tenant id)
    (forgetOrder (Call.barbican Action.make) Action.count caller e) := by
  unfold forgetOrder
  cases e.order? with
  | none => exact .pure chains_stays _
  | some order =>
    have tried : Respects Site.world (Stays tenant id)
        (retry Action.count "delete_order" ((Call.barbican Action.make).deleteOrder caller order)).run :=
      Retry.respects_attempts chains_stays (stays_make rfl) (stays_make rfl)
    refine .bind chains_stays tried fun x => ?_
    cases x with
    | ok _ => exact .pure chains_stays _
    | error _ => exact stays_make rfl

theorem stays_settled : Respects Site.world (Stays tenant id)
    (settled (Call.barbican Action.make) caller e).run := by
  unfold settled
  cases e.pending? with
  | none => exact .pure chains_stays _
  | some order =>
    refine .bindExcept chains_stays (stays_make rfl) fun status => ?_
    cases status with
    | active _ => exact .pure chains_stays _
    | pending | failed _ => exact .throw chains_stays _

theorem stays_giveUp : Respects Site.world (Stays tenant id) (do
    Action.registry.delete caller.tenant id'
    ExceptT.lift (forgetOrder (Call.barbican Action.make) Action.count caller e) :
      ExceptT Error Action Unit).run :=
  .bindExcept chains_stays stays_delete fun _ =>
    .bind chains_stays stays_forgetOrder fun _ => .pure chains_stays _

theorem stays_remove : Respects Site.world (Stays tenant id)
    (delete Action.registry (Call.barbican Action.make) Action.count caller id').run := by
  refine .bindExcept chains_stays (stays_make rfl) fun e => ?_
  refine .bindExcept chains_stays stays_settled fun e => ?_
  cases e.secret? with
  | none => exact stays_giveUp
  | some ref => exact .bindExcept chains_stays (stays_make rfl) fun _ => stays_giveUp

theorem stays_allocateWithin {left : Nat} : Respects Site.world (Stays tenant id)
    (Registry.allocateWithin tries Action.registry (Call.candidates Action.make tries).draw caller.tenant e
      left).run := by
  induction left with
  | zero => exact .throw chains_stays _
  | succ left ih =>
    unfold Registry.allocateWithin
    refine .bind chains_stays (stays_make rfl) fun candidate => ?_
    refine .bind chains_stays (stays_make rfl) fun x => ?_
    cases x with
    | ok _ => exact ih
    | error error =>
      by_cases free : error.isNotFound = true
      · simp only [free, if_true]
        exact .bind chains_stays (stays_of_advances respects_add) fun _ => .pure chains_stays _
      · simp only [free, Bool.false_eq_true, if_false]
        exact .pure chains_stays _

theorem stays_allocate : Respects Site.world (Stays tenant id)
    (Action.registry.allocate (Call.candidates Action.make tries) caller.tenant e).run :=
  stays_allocateWithin

theorem stays_create {secret : Secret} {ledger : Ledger Action} : Respects Site.world (Stays tenant id)
    (create Action.registry (Call.barbican Action.make) (Call.candidates Action.make tries) caller secret
      ledger) := by
  unfold create
  cases secret.material? with
  | some material =>
    refine .bind chains_stays (stays_make rfl) fun x => ?_
    cases x with
    | error _ => exact .pure chains_stays _
    | ok ref =>
      refine .bind chains_stays stays_allocate fun x => ?_
      cases x with
      | error _ | ok _ => exact .pure chains_stays _
  | none =>
    cases secret.keyParameters with
    | error _ => exact .pure chains_stays _
    | ok key =>
      refine .bind chains_stays (stays_make rfl) fun x => ?_
      cases x with
      | error _ => exact .pure chains_stays _
      | ok ref =>
        refine .bind chains_stays stays_allocate fun x => ?_
        cases x with
        | error _ | ok _ => exact .pure chains_stays _

theorem stays_perform (q : Request) :
    Respects Site.world (Stays tenant id) ((Action.barbicanKeystore tries).perform q) := by
  cases q with
  | create caller secret => exact .bind chains_stays stays_create fun _ => .pure chains_stays _
  | check caller id' =>
    exact .bind chains_stays (stays_of_advances respects_check) fun _ => .pure chains_stays _
  | payload caller id' =>
    exact .bind chains_stays (stays_of_advances respects_payload) fun _ => .pure chains_stays _
  | delete caller id' =>
    refine .bind chains_stays ?_ fun _ => .pure chains_stays _
    exact .bind chains_stays stays_remove fun _ => .pure chains_stays _

end

end Networked

/-! ## What has been seen in use -/

/-- The phase that a reply reports. -/
def Reply.phase? : Reply → Option Phase
  | .phase p => some p
  | .observed o => some o.phase
  | _ => none

section
open Networked
variable {tenant : Tenant} {id : String} {s s₁ s₂ s' : Site} {t u : Trace} {caller : Caller} {e : Entry}
  {tries : Nat} {q : Request} {reply : Reply} {h : History} {y : Except Error Reply}

/-- An entry that names its secret, or an order that can be asked for. -/
def WithinReach (tenant : Tenant) (id : String) (s : Site) : Prop :=
  ∃ e, s.store.get tenant id = .ok e ∧ ∀ order, e.pending? = some order → order ∉ s.gone

theorem withinReach_of_ready
    (h : Run Site.world (look Action.registry (Call.barbican Action.make) Action.count caller id).run s t
      (.ok (.ready e)) s') : WithinReach caller.tenant id s := by
  obtain ⟨_, old, _, _, rfl, looked, resolved⟩ := Run.bindExcept_ok_iff.1 h
  obtain ⟨rfl, found⟩ := run_translate_site looked
  refine ⟨old, found old rfl, fun order pending gone => ?_⟩
  unfold resolve at resolved
  simp only [pending] at resolved
  obtain ⟨_, status, _, _, rfl, polled, -⟩ := Run.bindExcept_ok_iff.1 resolved
  obtain ⟨-, unknown⟩ := run_poll_site polled
  rw [if_pos gone] at unknown
  obtain ⟨m, same⟩ := unknown
  cases same

/-- What is reported in use was within reach, and goes on. -/
theorem withinReach_of_activation (about : q.on? = some (tenant, id))
    (active : reply.phase? = some .activation)
    (h : Run Site.world ((Action.barbicanKeystore tries).perform q) s t (.ok reply) s') :
    WithinReach tenant id s ∧ Guarded (fun s => s.store.Sound) (Advances tenant id) s t s' := by
  cases q with
  | create caller secret => cases about
  | check caller id' =>
    obtain ⟨rfl, rfl⟩ := Prod.mk.inj (Option.some.inj about)
    obtain ⟨x, same, checked⟩ := Run.mapped_iff.1 h
    refine ⟨?_, respects_check _ _ _ _ checked⟩
    cases x with
    | error _ => cases same
    | ok phase =>
      obtain rfl := Except.ok.inj same
      obtain rfl := Option.some.inj active
      obtain ⟨_, found, _, _, rfl, looked, ended⟩ := Run.bindExcept_ok_iff.1 checked
      cases found with
      | ready e => exact withinReach_of_ready looked
      | pending | failed =>
        obtain ⟨-, same, -⟩ := Run.pureExcept_ok_iff.1 ended
        cases same
  | payload caller id' =>
    obtain ⟨rfl, rfl⟩ := Prod.mk.inj (Option.some.inj about)
    obtain ⟨x, same, asked⟩ := Run.mapped_iff.1 h
    refine ⟨?_, respects_payload _ _ _ _ asked⟩
    cases x with
    | error _ => cases same
    | ok observed =>
      obtain rfl := Except.ok.inj same
      have phase : observed.phase = .activation := Option.some.inj active
      obtain ⟨_, found, _, _, rfl, looked, ended⟩ := Run.bindExcept_ok_iff.1 asked
      cases found with
      | ready e => exact withinReach_of_ready looked
      | pending | failed =>
        obtain ⟨-, rfl, -⟩ := Run.pureExcept_ok_iff.1 ended
        cases phase
  | delete caller id' =>
    obtain ⟨_, ⟨x, ledger⟩, _, _, rfl, -, passed⟩ := Run.bind_iff.1 h
    obtain ⟨-, same, -⟩ := Run.pure_iff.1 passed
    cases x with
    | error _ => cases same
    | ok _ =>
      obtain rfl := Except.ok.inj same
      cases active

theorem run_translate_succeeds {r : Except Error Entry}
    (stands : s.store.get caller.tenant id = .ok e) (succeeded : ∀ v ∈ t, registrySucceeds v = true)
    (h : Run Site.world (retry Action.count "translate_id" (Action.registry.get caller.tenant id)).run s t
      r s') : r = .ok e ∧ s' = s := by
  obtain ⟨same, -⟩ := run_translate_site h
  obtain ⟨_, x, s₁, _, rfl, asked, outcome⟩ := Retry.run_attempts h
  obtain ⟨rfl, admitted, -⟩ := Run.ask_iff.1 asked
  have admitted : Fault.clean.Admits (s.store.get caller.tenant id, s.store) s.store x s₁.store := admitted
  obtain ⟨first, -⟩ := List.forall_mem_append.1 succeeded
  have well := List.forall_mem_singleton.1 first
  cases x with
  | error _ => cases well
  | ok found =>
    obtain rfl := Except.ok.inj ((congrArg Prod.fst admitted.ok).symm.trans stands)
    obtain ⟨_, failed, -⟩ | ⟨rfl, -⟩ := outcome
    · cases failed
    · exact ⟨rfl, same⟩

/-- What stands is ready, unless it is an order that has been deleted. -/
theorem run_resolve_stands {r : Except Error Resolution}
    (h : Run Site.world (resolve Action.registry (Call.barbican Action.make) Action.count caller e).run s t
      r s') :
    (∃ e', r = .ok (.ready e')) ∨
      ∃ order m, e.pending? = some order ∧ order ∈ s.gone ∧ r = .error (.backend m (some 404)) := by
  unfold resolve at h
  cases pending : e.pending? with
  | none =>
    simp only [pending] at h
    obtain ⟨-, rfl, -⟩ := Run.pureExcept_iff.1 h
    exact .inl ⟨e, rfl⟩
  | some order =>
    simp only [pending] at h
    obtain ⟨error, rfl, polled⟩ | ⟨_, status, _, _, rfl, polled, ended⟩ := Run.bindExcept_iff.1 h
    · obtain ⟨-, outcome⟩ := run_poll_site polled
      by_cases gone : order ∈ s.gone
      · rw [if_pos gone] at outcome
        obtain ⟨m, same⟩ := outcome
        exact .inr ⟨order, m, rfl, gone, congrArg Except.error (Except.error.inj same)⟩
      · rw [if_neg gone] at outcome
        obtain ⟨ref, same⟩ := outcome
        cases same
    · obtain ⟨-, outcome⟩ := run_poll_site polled
      by_cases gone : order ∈ s.gone
      · rw [if_pos gone] at outcome
        obtain ⟨m, same⟩ := outcome
        cases same
      · rw [if_neg gone] at outcome
        obtain ⟨ref, same⟩ := outcome
        obtain rfl := Except.ok.inj same
        obtain ⟨_, _, _, _, rfl, -, passed⟩ := Run.bindLift_iff.1 ended
        obtain ⟨-, rfl, -⟩ := Run.pureExcept_iff.1 passed
        exact .inl ⟨_, rfl⟩

theorem run_look_stands {r : Except Error Resolution} (stands : s.store.get caller.tenant id = .ok e)
    (succeeded : ∀ v ∈ t, registrySucceeds v = true)
    (h : Run Site.world (look Action.registry (Call.barbican Action.make) Action.count caller id).run s t
      r s') :
    (∃ e', r = .ok (.ready e')) ∨
      ∃ order m, e.pending? = some order ∧ order ∈ s.gone ∧ r = .error (.backend m (some 404)) := by
  obtain ⟨error, rfl, failed⟩ | ⟨_, found, _, _, rfl, translated, resolved⟩ := Run.bindExcept_iff.1 h
  · obtain ⟨same, -⟩ := run_translate_succeeds stands succeeded failed
    cases same
  · obtain ⟨first, -⟩ := List.forall_mem_append.1 succeeded
    obtain ⟨same, rfl⟩ := run_translate_succeeds stands first translated
    obtain rfl := Except.ok.inj same
    exact run_resolve_stands resolved

/-- A check whose calls on the store succeed finds what stands in use, unless it is an order that has been
deleted. -/
theorem run_check_stands {r : Except Error Phase} (stands : s.store.get caller.tenant id = .ok e)
    (succeeded : ∀ v ∈ t, registrySucceeds v = true)
    (h : Run Site.world
      (Networked.check Action.registry (Call.barbican Action.make) Action.count caller id).run s t r s') :
    r = .ok .activation ∨
      ∃ order m, e.pending? = some order ∧ order ∈ s.gone ∧ r = .error (.backend m (some 404)) := by
  obtain ⟨error, rfl, failed⟩ | ⟨_, found, _, _, rfl, looked, ended⟩ := Run.bindExcept_iff.1 h
  · obtain ⟨_, same⟩ | ⟨order, m, pending, gone, same⟩ := run_look_stands stands succeeded failed
    · cases same
    · exact .inr ⟨order, m, pending, gone, congrArg Except.error (Except.error.inj same)⟩
  · obtain ⟨first, -⟩ := List.forall_mem_append.1 succeeded
    obtain ⟨_, same⟩ | ⟨order, m, -, -, same⟩ := run_look_stands stands first looked
    · obtain rfl := Except.ok.inj same
      obtain ⟨-, rfl, -⟩ := Run.pureExcept_iff.1 ended
      exact .inl rfl
    · cases same

/-- Once a request has reported the material of an identifier in use, every later check whose calls on the
store succeed does, as long as the identifier is not deleted. The exception is an entry that still names
only its order, no promotion of it having succeeded, when that order has been deleted: then the check ends
with the API not knowing the order. -/
theorem seen_stays_in_use (sound : s.store.Sound) (about : q.on? = some (caller.tenant, id))
    (active : reply.phase? = some .activation)
    (seen : Run Site.world ((Action.barbicanKeystore tries).perform q) s t (.ok reply) s₁)
    (since : Performs Site.world (Action.barbicanKeystore tries) s₁ h s₂)
    (kept : ⟨.deleteEntry caller.tenant id, .ok ()⟩ ∉ h.calls)
    (later : Run Site.world ((Action.barbicanKeystore tries).perform (.check caller id)) s₂ u y s')
    (succeeded : ∀ v ∈ u, registrySucceeds v = true) :
    y = .ok (.phase .activation) ∨
      ∃ e order m, s₂.store.get caller.tenant id = .ok e ∧ e.pending? = some order ∧
        (∀ new, ⟨.updateEntry caller.tenant new, .ok ()⟩ ∈ t ++ h.calls → new.issuedId = id →
          new.secret? = none) ∧
        (∃ other, ⟨.deleteOrder other order, .ok ()⟩ ∈ t ++ h.calls) ∧
        y = .error (.backend m (some 404)) := by
  obtain ⟨⟨old, stood, reach⟩, goes⟩ := withinReach_of_activation about active seen
  obtain ⟨sound₁, first⟩ := goes sound
  obtain ⟨-, rest⟩ := since.respects chains_stays stays_perform sound₁
  have advances := chains_advances.append first (rest kept)
  obtain ⟨e, stands, ordered, unnamed⟩ := advances.stands old stood
  obtain ⟨r, rfl, checked⟩ := Run.mapped_iff.1 later
  obtain rfl | ⟨order, m, pending, gone, rfl⟩ := run_check_stands stands succeeded checked
  · exact .inl rfl
  obtain ⟨none, order?⟩ := pending_iff.1 pending
  obtain ⟨none₀, refused⟩ := unnamed none
  refine .inr ⟨e, order, m, stands, pending, refused, ?_, rfl⟩
  have waited : old.pending? = some order := pending_iff.2 ⟨none₀, ordered.symm.trans order?⟩
  exact (advances.gone order gone).resolve_left (reach order waited)

/-- A key is ordered, and its entry cannot be promoted. The first check reports it in use and deletes its
order; to the second, whose calls on the store succeed, the API does not know the order. -/
theorem seen_in_use_then_lost :
    let caller : Caller := ⟨⟨"s", "o"⟩, "c", none⟩
    let answer := Site.answer "secret" (some (.internal "down")) (generating .pending)
    let k := Action.barbicanKeystore 1
    let check := k.perform (.check caller "k")
    let ordered := ((k.perform (.create caller (.named "key"))).run answer ⟨.table true [], []⟩).2
    let first := check.run answer ordered
    (∀ s c, Site.world c s (answer s c).1 (answer s c).2) ∧
      first.1 = .ok (.phase .activation) ∧
      (∀ v ∈ check.trace answer first.2, registrySucceeds v = true) ∧
      (check.run answer first.2).1 = .error (.backend "unknown" (some 404)) :=
  ⟨Site.world_answer, by decide +kernel⟩

/-- The entry of a key that can be promoted names its secret, so that its order is not asked for again. -/
theorem seen_stays_in_use_of_promoted :
    let caller : Caller := ⟨⟨"s", "o"⟩, "c", none⟩
    let answer := Site.answer "secret" none (generating .pending)
    let k := Action.barbicanKeystore 1
    let check := k.perform (.check caller "k")
    let ordered := ((k.perform (.create caller (.named "key"))).run answer ⟨.table true [], []⟩).2
    let first := check.run answer ordered
    first.1 = .ok (.phase .activation) ∧
      first.2.store.get caller.tenant "k" = .ok ⟨"k", some "secret", some "order"⟩ ∧
      (check.run answer first.2).1 = .ok (.phase .activation) := by
  intro caller answer k check ordered first
  have seen : first.1 = .ok (.phase .activation) := by decide +kernel
  have stands : first.2.store.get caller.tenant "k" = .ok ⟨"k", some "secret", some "order"⟩ := by
    decide +kernel
  have allowed : ∀ s c, Site.world c s (answer s c).1 (answer s c).2 := Site.world_answer
  have created := Run.of_answers allowed (k.perform (.create caller (.named "key")))
    ⟨.table true [], []⟩
  have kept : Stays caller.tenant "k" ⟨.table true [], []⟩ _ ordered :=
    stays_perform _ _ _ _ _ created
  obtain ⟨sound, -⟩ := kept Store.sound_empty_table
  have succeeded : ∀ v ∈ check.trace answer first.2, registrySucceeds v = true := by decide +kernel
  have run : Run Site.world check ordered (check.trace answer ordered) first.1 first.2 :=
    Run.of_answers allowed check ordered
  rw [seen] at run
  have later := Run.of_answers allowed check first.2
  obtain same | ⟨e, order, -, found, pending, -⟩ :=
    seen_stays_in_use sound rfl rfl run (.nil _) nofun later succeeded
  · exact ⟨seen, stands, same⟩
  · obtain rfl := Except.ok.inj (stands.symm.trans found)
    cases pending

end

end Keystore

end KeyCustody

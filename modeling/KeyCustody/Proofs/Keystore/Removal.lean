import KeyCustody.Proofs.Plant

/-!
# Keystores that give material up

What reading and deleting an identifier come to on a plant, by where its material is: `run_` lemmas say so
where nothing fails, `fails_` lemmas where one call does.
-/

namespace KeyCustody

open Keystore (Observation)
open Barbican (OrderStatus)
open Registry (Entry Store)
open Program

namespace Plant.InMemory

open Keystore.InMemory

variable {id ref message : String} {p p' : Plant} {caller : Caller} {c : Call}

theorem run_reference (names : p.Names .memory caller.tenant id ref) :
    (reference Action.registry caller id).run.run (Plant.answer message) p = (.ok ref, p) := by
  obtain ⟨x, stands, leads⟩ := names.entry
  have looked : (Action.registry.get caller.tenant id).run.run (Plant.answer message) p = (.ok x, p) := by
    rw [← stands]
    rfl
  unfold reference
  rw [run_bindExcept_ok looked]
  simp only [leads.secret]
  rfl

theorem run_reference_cleared (cleared : p.Cleared caller.tenant id ref) :
    (reference Action.registry caller id).run.run (Plant.answer message) p = (.error (.noSecret id), p) := by
  have looked : (Action.registry.get caller.tenant id).run.run (Plant.answer message) p =
      (.error (.noSecret id), p) := by
    rw [← cleared.given]
    rfl
  exact run_bindExcept_error looked

theorem fails_reference {r : Except Error String} (names : p.Names .memory caller.tenant id ref)
    (h : FailsOnce (Plant.answer message) (reference Action.registry caller id).run p c r p') :
    Failed r ∧ c = .getEntry caller.tenant id ∧ p' = p := by
  obtain ⟨x, stands, leads⟩ := names.entry
  obtain failed | never := h.bindFailing (congrArg (·, p) stands) fun _ _ first => first.make
  · exact failed
  · simp only [leads.secret] at never
    cases never

theorem run_payload (message : String) (names : p.Names .memory caller.tenant id ref) :
    (payload Action.registry (Call.vault Action.make) caller id).run.run (Plant.answer message) p =
      (match p.material.lookup ref with
        | some material => .ok (.active material)
        | none => .error (.noSecret id), p) := by
  unfold payload
  rw [run_bindExcept_ok (run_reference names)]
  change (match p.material.lookup ref with
    | some m => (pure (.active m) : ExceptT Error Action Observation)
    | none => throw (Error.noSecret id)).run.run (Plant.answer message) p = _
  cases p.material.lookup ref with
  | none => rfl
  | some _ => rfl

theorem fails_payload {r : Except Error Observation} (names : p.Names .memory caller.tenant id ref)
    (h : FailsOnce (Plant.answer message)
      (payload Action.registry (Call.vault Action.make) caller id).run p c r p') :
    Failed r ∧ c = .getEntry caller.tenant id ∧ p' = p := by
  obtain failed | rest := h.bindFailing (run_reference names) fun _ _ first => fails_reference names first
  · exact failed
  -- A vault does not fail.
  obtain ⟨_, _, found, -⟩ | ended := rest.bindLift
  · obtain ⟨never, -⟩ := found.make
    cases never
  · split at ended
    · cases ended
    · cases ended

theorem run_delete (message : String) (names : p.Names .memory caller.tenant id ref) :
    (delete Action.registry (Call.vault Action.make) caller id).run.run (Plant.answer message) p =
      (.ok (), { p with material := p.material.drop ref, store := (p.store.delete caller.tenant id).2 }) := by
  have deleted : (p.store.delete caller.tenant id).1 = .ok () := Store.delete_eq names.sound.isOpen
  unfold delete
  rw [run_bindExcept_ok (run_reference names)]
  rw [← deleted]
  rfl

theorem fails_delete {r : Except Error Unit} (names : p.Names .memory caller.tenant id ref)
    (h : FailsOnce (Plant.answer message)
      (delete Action.registry (Call.vault Action.make) caller id).run p c r p') :
    Failed r ∧ (c = .getEntry caller.tenant id ∧ p' = p ∨
      c = .deleteEntry caller.tenant id ∧ p' = { p with material := p.material.drop ref }) := by
  obtain ⟨failed, same⟩ | rest := h.bindFailing (run_reference names) fun _ _ first =>
    fails_reference names first
  · exact ⟨failed, .inl same⟩
  obtain ⟨_, _, dropped, -⟩ | last := rest.bindLift
  · obtain ⟨never, -⟩ := dropped.make
    cases never
  · obtain ⟨failed, same⟩ := last.make
    exact ⟨failed, .inr same⟩

end Plant.InMemory

/-! ## Over the API -/

namespace Plant.Networked

open Keystore.Networked

variable {id ref message : String} {p p' : Plant} {caller : Caller} {c : Call} {x : Entry}

theorem run_translate {r : Except Error Entry} (looked : p.store.get caller.tenant id = r)
    (final : ∀ e, r = .error e → e.isRetryable = false) :
    (retry Action.count "translate_id" (Action.registry.get caller.tenant id)).run.run
      (Plant.answer message) p = (r, p) :=
  Retry.eval_attempts final (congrArg (·, p) looked)

theorem fails_translate {r : Except Error Entry} (stands : p.store.get caller.tenant id = .ok x)
    (h : FailsOnce (Plant.answer message)
      (retry Action.count "translate_id" (Action.registry.get caller.tenant id)).run p c r p') :
    c = .getEntry caller.tenant id ∧ p' = p ∧ (r = .ok x ∨ Failed r) :=
  h.attempts_reading (fun _ _ first => first.make) (congrArg (·, p) stands) nofun

theorem run_poll {order : String} :
    (retry Action.count "check_order" ((Call.barbican Action.make).checkOrder caller order)).run.run
      (Plant.answer message) p = (known message (p.orders.lookup order), p) :=
  Retry.eval_attempts final_known rfl

theorem run_polled {order : String} {status : OrderStatus} (done : p.orders.lookup order = some status) :
    (retry Action.count "check_order" ((Call.barbican Action.make).checkOrder caller order)).run.run
      (Plant.answer message) p = (.ok status, p) := by
  rw [run_poll, done]
  rfl

theorem fails_poll {order : String} {r : Except Error OrderStatus}
    (h : FailsOnce (Plant.answer message)
      (retry Action.count "check_order" ((Call.barbican Action.make).checkOrder caller order)).run
      p c r p') :
    c = .checkOrder caller order ∧ p' = p ∧ (r = known message (p.orders.lookup order) ∨ Failed r) :=
  h.attempts_reading (fun _ _ first => first.make) rfl final_known

/-! ### Reading -/

/-- A read has found where the material is. The entry still leads there, or the failing call has cost it
its order. -/
structure Found (tenant : Tenant) (id ref : String) (c : Call) (p p' : Plant) : Prop where
  material : p'.material = p.material
  records : p'.records = p.records
  entry : p'.Names .barbican tenant id ref ∨
    p'.Lost .barbican tenant id ∧ c.hinders .memory false = true

theorem run_update {store : Store} (updated : p.store.update caller.tenant x = (.ok (), store)) :
    (Action.registry.update caller.tenant x).run.run (Plant.answer message) p =
      (.ok (), { p with store := store }) := by
  change ((p.store.update caller.tenant x).1, { p with store := (p.store.update caller.tenant x).2 }) = _
  rw [updated]

theorem run_promote {order : String} {store : Store}
    (updated : p.store.update caller.tenant x = (.ok (), store)) :
    (promote Action.registry (Call.barbican Action.make) Action.count caller x order).run
      (Plant.answer message) p = ((), { p with store := store }) := by
  have tried : (retry Action.count "promote_order" (Action.registry.update caller.tenant x)).run.run
      (Plant.answer message) p = (.ok (), { p with store := store }) :=
    Retry.eval_attempts nofun (run_update updated)
  unfold promote
  rw [run_bind, tried]
  rfl

theorem run_resolve (message : String) (names : p.Names .barbican caller.tenant id ref)
    (stands : p.store.get caller.tenant id = .ok x) (leads : p.Leads .barbican ref x) :
    ∃ x' p', (resolve Action.registry (Call.barbican Action.make) Action.count caller x).run.run
        (Plant.answer message) p = (.ok (.ready x'), p') ∧ x'.secret? = some ref ∧
      p'.Names .barbican caller.tenant id ref ∧ p'.material = p.material ∧ p'.records = p.records := by
  obtain named | ⟨-, present, order, pending, done⟩ := leads
  · have settled := Entry.pending?_of_secret named
    refine ⟨x, p, ?_, named, names, rfl, rfl⟩
    unfold resolve
    simp only [settled]
    rfl
  · obtain ⟨store, updated, promoted⟩ := names.promoted stands present
    refine ⟨_, _, ?_, Entry.secret?_named x present, promoted, rfl, rfl⟩
    unfold resolve
    simp only [pending]
    rw [run_bindExcept_ok (run_polled done)]
    exact run_bindLift (run_promote updated)

theorem fails_promote {order : String} {status : OrderStatus} {store : Store} {u : Unit}
    (updated : p.store.update caller.tenant x = (.ok (), store))
    (there : p.orders.lookup order = some status)
    (h : FailsOnce (Plant.answer message)
      (promote Action.registry (Call.barbican Action.make) Action.count caller x order) p c u p') :
    c = .updateEntry caller.tenant x ∧ (p' = { p with store := store } ∨
      p' = { p with orders := p.orders.filter (·.1 ≠ order) }) := by
  have well : (Action.registry.update caller.tenant x).run.run (Plant.answer message) p =
      (.ok (), { p with store := store }) := run_update updated
  obtain ⟨r, p₁, tried, ended⟩ | last := h.bind
  · obtain ⟨rfl, same | ⟨⟨e, rfl⟩, rfl⟩⟩ := tried.attempts (fun _ _ first => first.make) well nofun
    · obtain ⟨rfl, rfl⟩ := Prod.mk.inj same
      exact ⟨rfl, .inl (congrArg Prod.snd ended).symm⟩
    · refine ⟨rfl, .inr ?_⟩
      have deleted : ((Call.barbican Action.make).deleteOrder caller order).run.run (Plant.answer message)
          p₁ = (.ok (), { p₁ with orders := p₁.orders.filter (·.1 ≠ order) }) := answer_deleteOrder there
      dsimp only at ended
      rw [run_bind, deleted] at ended
      exact (congrArg Prod.snd ended).symm
  · have tried : (retry Action.count "promote_order" (Action.registry.update caller.tenant x)).run.run
        (Plant.answer message) p = (.ok (), { p with store := store }) := Retry.eval_attempts nofun well
    rw [tried] at last
    cases last

theorem fails_resolve {r : Except Error Resolution} (names : p.Names .barbican caller.tenant id ref)
    (stands : p.store.get caller.tenant id = .ok x) (leads : p.Leads .barbican ref x)
    (h : FailsOnce (Plant.answer message)
      (resolve Action.registry (Call.barbican Action.make) Action.count caller x).run p c r p') :
    (Failed r ∧ p' = p ∧ c.hinders .barbican true = false) ∨
      (∃ x', r = .ok (.ready x') ∧ x'.secret? = some ref) ∧ Found caller.tenant id ref c p p' := by
  unfold resolve at h
  obtain named | ⟨-, present, order, pending, done⟩ := leads
  · have settled := Entry.pending?_of_secret named
    simp only [settled] at h
    cases h
  · obtain ⟨store, updated, promoted⟩ := names.promoted stands present
    have secret := Entry.secret?_named x present
    simp only [pending] at h
    obtain ⟨e, rfl, polled⟩ | ⟨status, _, polled, ended⟩ | last := h.bindExcept (run_polled done)
    · obtain ⟨rfl, rfl, -⟩ := fails_poll polled
      exact .inl ⟨⟨e, rfl⟩, rfl, rfl⟩
    · obtain ⟨rfl, rfl, same | ⟨_, same⟩⟩ := fails_poll polled
      · rw [done] at same
        obtain rfl := Except.ok.inj same
        dsimp only at ended
        rw [run_bindLift (run_promote updated)] at ended
        obtain ⟨rfl, rfl⟩ := Prod.mk.inj ended
        exact .inr ⟨⟨_, rfl, secret⟩, rfl, rfl, .inl promoted⟩
      · cases same
    · obtain ⟨_, _, first, ended⟩ | last := last.bindLift
      · obtain ⟨rfl, outcome⟩ := fails_promote updated done first
        obtain ⟨rfl, rfl⟩ := Prod.mk.inj ended
        refine .inr ⟨⟨_, rfl, secret⟩, ?_⟩
        obtain rfl | rfl := outcome
        · exact ⟨rfl, rfl, .inl promoted⟩
        · exact ⟨rfl, rfl, .inr ⟨⟨rfl, x, order, stands, pending, Keyed.lookup_erase_self⟩, rfl⟩⟩
      · cases last

theorem run_look (message : String) (names : p.Names .barbican caller.tenant id ref) :
    ∃ x p', (look Action.registry (Call.barbican Action.make) Action.count caller id).run.run
        (Plant.answer message) p = (.ok (.ready x), p') ∧ x.secret? = some ref ∧
      p'.Names .barbican caller.tenant id ref ∧ p'.material = p.material ∧ p'.records = p.records := by
  obtain ⟨x, stands, leads⟩ := names.entry
  unfold look
  rw [run_bindExcept_ok (run_translate stands nofun)]
  exact run_resolve message names stands leads

theorem fails_look {r : Except Error Resolution} (names : p.Names .barbican caller.tenant id ref)
    (h : FailsOnce (Plant.answer message)
      (look Action.registry (Call.barbican Action.make) Action.count caller id).run p c r p') :
    (Failed r ∧ p' = p ∧ c.hinders .barbican true = false) ∨
      (∃ x, r = .ok (.ready x) ∧ x.secret? = some ref) ∧ Found caller.tenant id ref c p p' := by
  obtain ⟨x, stands, leads⟩ := names.entry
  obtain ⟨e, rfl, looked⟩ | ⟨_, _, looked, ended⟩ | last := h.bindExcept (run_translate stands nofun)
  · obtain ⟨rfl, rfl, -⟩ := fails_translate stands looked
    exact .inl ⟨⟨e, rfl⟩, rfl, rfl⟩
  · obtain ⟨rfl, rfl, same | ⟨_, same⟩⟩ := fails_translate stands looked
    · obtain rfl := Except.ok.inj same
      obtain ⟨x', p₁, resolved, named, still, material, records⟩ := run_resolve message names
        stands leads
      obtain ⟨rfl, rfl⟩ := Prod.mk.inj (resolved.symm.trans ended)
      exact .inr ⟨⟨x', rfl, named⟩, material, records, .inl still⟩
    · cases same
  · exact fails_resolve names stands leads last

theorem run_got {type : Barbican.PayloadType} :
    (retry Action.count "get_payload" ((Call.barbican Action.make).getPayload caller ref type)).run.run
      (Plant.answer message) p = (known message (p.material.lookup ref), p) :=
  Retry.eval_attempts final_known rfl

theorem run_fetch (named : x.secret? = some ref) :
    (fetch (Call.barbican Action.make) Action.count caller x).run.run (Plant.answer message) p =
      ((known message (p.material.lookup ref)).map .active, p) := by
  unfold fetch
  simp only [named]
  cases got : known message (p.material.lookup ref) with
  | error _ => exact run_bindExcept_error (run_got.trans (congrArg (·, p) got))
  | ok _ => exact run_bindExcept_ok (run_got.trans (congrArg (·, p) got))

theorem fails_fetch {r : Except Error Observation} {material : Sealed} (named : x.secret? = some ref)
    (held : p.material.lookup ref = some material)
    (h : FailsOnce (Plant.answer message) (fetch (Call.barbican Action.make) Action.count caller x).run
      p c r p') :
    c.hinders .barbican true = false ∧ p' = p ∧ (r = .ok (.active material) ∨ Failed r) := by
  unfold fetch at h
  simp only [named] at h
  have got : known message (p.material.lookup ref) = .ok material := by rw [held]; rfl
  obtain ⟨e, rfl, asked⟩ | ⟨m, p₁, asked, ended⟩ | never :=
    h.bindExcept (run_got.trans (congrArg (·, p) got))
  · obtain ⟨rfl, rfl, -⟩ := asked.attempts_reading (fun _ _ first => first.make) rfl final_known
    exact ⟨rfl, rfl, .inr ⟨e, rfl⟩⟩
  · obtain ⟨rfl, rfl, same | ⟨_, same⟩⟩ :=
      asked.attempts_reading (fun _ _ first => first.make) rfl final_known
    · obtain rfl := Except.ok.inj (same.trans got)
      obtain ⟨rfl, rfl⟩ := Prod.mk.inj ended
      exact ⟨rfl, rfl, .inl rfl⟩
    · cases same
  · cases never

theorem run_payload (message : String) (names : p.Names .barbican caller.tenant id ref) :
    ∃ p', (payload Action.registry (Call.barbican Action.make) Action.count caller id).run.run
        (Plant.answer message) p = ((known message (p.material.lookup ref)).map .active, p') ∧
      p'.Names .barbican caller.tenant id ref ∧ p'.material = p.material ∧ p'.records = p.records := by
  obtain ⟨x, p', looked, named, still, material, records⟩ := run_look message names
  refine ⟨p', ?_, still, material, records⟩
  unfold payload
  rw [run_bindExcept_ok looked, ← material]
  exact run_fetch named

theorem fails_payload {r : Except Error Observation} {material : Sealed}
    (names : p.Names .barbican caller.tenant id ref) (held : p.material.lookup ref = some material)
    (h : FailsOnce (Plant.answer message)
      (payload Action.registry (Call.barbican Action.make) Action.count caller id).run p c r p') :
    Found caller.tenant id ref c p p' ∧ (r = .ok (.active material) ∨
      Failed r ∧ p'.Names .barbican caller.tenant id ref ∧ c.hinders .barbican true = false) := by
  obtain ⟨x, p₁, well, named, still, same, records⟩ := run_look message names
  obtain ⟨e, rfl, looked⟩ | ⟨_, p₁, looked, ended⟩ | last := h.bindExcept well
  · obtain ⟨-, rfl, harmless⟩ | ⟨⟨_, same, -⟩, -⟩ := fails_look names looked
    · exact ⟨⟨rfl, rfl, .inl names⟩, .inr ⟨⟨e, rfl⟩, names, harmless⟩⟩
    · cases same
  · obtain ⟨⟨_, same⟩, -⟩ | ⟨⟨x, same, named⟩, found⟩ := fails_look names looked
    · cases same
    · obtain rfl := Except.ok.inj same
      dsimp only at ended
      rw [run_fetch named, found.material, held] at ended
      obtain ⟨rfl, rfl⟩ := Prod.mk.inj ended
      exact ⟨found, .inl rfl⟩
  · have held₁ : p₁.material.lookup ref = some material := by rw [same, held]
    obtain ⟨harmless, rfl, outcome⟩ := fails_fetch named held₁ last
    refine ⟨⟨same, records, .inl still⟩, ?_⟩
    obtain rfl | failed := outcome
    · exact .inl rfl
    · exact .inr ⟨failed, still, harmless⟩

theorem run_payload_cleared (cleared : p.Cleared caller.tenant id ref) :
    (payload Action.registry (Call.barbican Action.make) Action.count caller id).run.run
      (Plant.answer message) p = (.error (.noSecret id), p) := by
  have final : ∀ e, (.error (.noSecret id) : Except Error Entry) = .error e → e.isRetryable = false := by
    rintro e ⟨⟩
    rfl
  exact run_bindExcept_error (run_bindExcept_error (run_translate cleared.given final))

theorem run_payload_lost (lost : p.Lost .barbican caller.tenant id) :
    (payload Action.registry (Call.barbican Action.make) Action.count caller id).run.run
      (Plant.answer message) p = (known message none, p) := by
  obtain ⟨x, order, stands, pending, unknown⟩ := lost.entry
  have polled : (retry Action.count "check_order"
      ((Call.barbican Action.make).checkOrder caller order)).run.run (Plant.answer message) p =
        (known message none, p) := by
    rw [run_poll, unknown]
  have resolved : (resolve Action.registry (Call.barbican Action.make) Action.count caller x).run.run
      (Plant.answer message) p = (known message none, p) := by
    unfold resolve
    simp only [pending]
    exact run_bindExcept_error polled
  refine run_bindExcept_error ?_
  unfold look
  rw [run_bindExcept_ok (run_translate stands nofun)]
  exact resolved

/-! ### Deleting -/

theorem run_checked {order : String} {status : OrderStatus}
    (done : p.orders.lookup order = some status) :
    ((Call.barbican Action.make).checkOrder caller order).run.run (Plant.answer message) p =
      (.ok status, p) := by
  change (known message (p.orders.lookup order), p) = _
  rw [done]
  rfl

theorem run_settled (message : String) (caller : Caller) (leads : p.Leads .barbican ref x) :
    ∃ x', (settled (Call.barbican Action.make) caller x).run.run (Plant.answer message) p = (.ok x', p) ∧
      x'.secret? = some ref := by
  unfold settled
  obtain named | ⟨-, present, order, pending, done⟩ := leads
  · have settled := Entry.pending?_of_secret named
    simp only [settled]
    exact ⟨x, rfl, named⟩
  · simp only [pending]
    exact ⟨_, run_bindExcept_ok (run_checked done), Entry.secret?_named x present⟩

theorem fails_settled {r : Except Error Entry} (leads : p.Leads .barbican ref x)
    (h : FailsOnce (Plant.answer message) (settled (Call.barbican Action.make) caller x).run p c r p') :
    Failed r ∧ p' = p ∧ c.hinders .barbican true = false := by
  unfold settled at h
  obtain named | ⟨-, -, order, pending, done⟩ := leads
  · have settled := Entry.pending?_of_secret named
    simp only [settled] at h
    cases h
  · simp only [pending] at h
    obtain ⟨failed, rfl, rfl⟩ | never := h.bindFailing (run_checked done) fun _ _ first => first.make
    · exact ⟨failed, rfl, rfl⟩
    · cases never

/-- Deleting an order touches nothing but orders, whether or not the API knows it. -/
theorem run_deleteOrder (message : String) (p : Plant) (caller : Caller) (order : String) :
    ∃ r orders, ((Call.barbican Action.make).deleteOrder caller order).run.run (Plant.answer message) p =
      (r, { p with orders := orders }) ∧ ∀ e, r = .error e → e.isRetryable = false := by
  cases there : p.orders.lookup order with
  | none => exact ⟨known message none, p.orders, answer_deleteOrder_missing there, final_known⟩
  | some _ => exact ⟨.ok (), _, answer_deleteOrder there, nofun⟩

theorem run_forgetOrder (message : String) (p : Plant) (caller : Caller) (x : Entry) : ∃ orders,
    (forgetOrder (Call.barbican Action.make) Action.count caller x).run (Plant.answer message) p =
      ((), { p with orders := orders }) := by
  unfold forgetOrder
  cases x.order? with
  | none => exact ⟨p.orders, rfl⟩
  | some order =>
    obtain ⟨r, orders, deleted, final⟩ := run_deleteOrder message p caller order
    have tried : (retry Action.count "delete_order"
        ((Call.barbican Action.make).deleteOrder caller order)).run.run (Plant.answer message) p =
          (r, { p with orders := orders }) := Retry.eval_attempts final deleted
    refine ⟨orders, ?_⟩
    dsimp only
    rw [run_bind, tried]
    cases r with
    | ok _ => rfl
    | error _ => rfl

theorem fails_forgetOrder {u : Unit}
    (h : FailsOnce (Plant.answer message)
      (forgetOrder (Call.barbican Action.make) Action.count caller x) p c u p') :
    p'.records = p.records := by
  unfold forgetOrder at h
  cases ordered : x.order? with
  | none =>
    simp only [ordered] at h
    cases h
  | some order =>
    simp only [ordered] at h
    obtain ⟨r, orders, deleted, final⟩ := run_deleteOrder message p caller order
    obtain ⟨y, p₁, tried, ended⟩ | last := h.bind
    · have records : p₁.records = p.records := by
        obtain ⟨-, same | ⟨-, rfl⟩⟩ := tried.attempts (fun _ _ first => first.make) deleted final
        · rw [(Prod.mk.inj same).2]
        · rfl
      cases y with
      | ok _ =>
        obtain ⟨-, rfl⟩ := Prod.mk.inj ended
        exact records
      | error _ =>
        obtain ⟨-, rfl⟩ := Prod.mk.inj ended
        exact records
    · have tried : (retry Action.count "delete_order"
          ((Call.barbican Action.make).deleteOrder caller order)).run.run (Plant.answer message) p =
            (r, { p with orders := orders }) := Retry.eval_attempts final deleted
      rw [tried] at last
      cases r with
      | ok _ => cases last
      | error _ =>
        obtain ⟨never, -⟩ := last.make
        cases never

/-- Where the material is known, deleting an identifier goes on so. -/
def withdraw (caller : Caller) (id ref : String) (x : Entry) : ExceptT Error Action Unit := do
  (Call.barbican Action.make).deleteSecret caller ref
  Action.registry.delete caller.tenant id
  ExceptT.lift (forgetOrder (Call.barbican Action.make) Action.count caller x)

theorem run_delete_to (message : String) (names : p.Names .barbican caller.tenant id ref) :
    ∃ x, (delete Action.registry (Call.barbican Action.make) Action.count caller id).run.run
      (Plant.answer message) p = (withdraw caller id ref x).run.run (Plant.answer message) p := by
  obtain ⟨x, stands, leads⟩ := names.entry
  have looked : (Action.registry.get caller.tenant id).run.run (Plant.answer message) p = (.ok x, p) :=
    congrArg (·, p) stands
  obtain ⟨x', settled, named⟩ := run_settled message caller leads
  refine ⟨x', ?_⟩
  unfold delete
  rw [run_bindExcept_ok looked, run_bindExcept_ok settled]
  simp only [named]
  rfl

/-- The material is deleted, and then its entry. -/
theorem run_given_up {material : Sealed} (message : String) (names : p.Names .barbican caller.tenant id ref)
    (held : p.material.lookup ref = some material) :
    let p₁ : Plant := { p with material := p.material.drop ref }
    ((Call.barbican Action.make).deleteSecret caller ref).run.run (Plant.answer message) p = (.ok (), p₁) ∧
      (Action.registry.delete caller.tenant id).run.run (Plant.answer message) p₁ =
        (.ok (), { p₁ with store := (p.store.delete caller.tenant id).2 }) := by
  have deleted : (p.store.delete caller.tenant id).1 = .ok () := Store.delete_eq names.sound.isOpen
  exact ⟨answer_deleteSecret held, by rw [← deleted]; rfl⟩

theorem run_withdraw {material : Sealed} (message : String) (x : Entry)
    (names : p.Names .barbican caller.tenant id ref) (held : p.material.lookup ref = some material) :
    ∃ p', (withdraw caller id ref x).run.run (Plant.answer message) p = (.ok (), p') ∧
      p'.Cleared caller.tenant id ref ∧ p'.records = p.records := by
  obtain ⟨dropped, removed⟩ := run_given_up message names held
  let p₂ : Plant :=
    { p with material := p.material.drop ref, store := (p.store.delete caller.tenant id).2 }
  obtain ⟨orders, forgotten⟩ := run_forgetOrder message p₂ caller x
  refine ⟨{ p₂ with orders := orders }, ?_, names.cleared rfl rfl, rfl⟩
  unfold withdraw
  rw [run_bindExcept_ok dropped, run_bindExcept_ok removed]
  exact (run_bind _ _ _ _).trans (by rw [forgotten]; rfl)

theorem fails_withdraw {r : Except Error Unit} {material : Sealed}
    (names : p.Names .barbican caller.tenant id ref) (held : p.material.lookup ref = some material)
    (h : FailsOnce (Plant.answer message) (withdraw caller id ref x).run p c r p') :
    p'.records = p.records ∧ (r = .ok () ∨ Failed r ∧
      (p' = p ∧ c.hinders .barbican true = false ∨
        p'.Emptied .barbican caller.tenant id ref ∧ c = .deleteEntry caller.tenant id)) := by
  obtain ⟨dropped, removed⟩ := run_given_up message names held
  obtain ⟨failed, rfl, rfl⟩ | second := h.bindFailing dropped fun _ _ first => first.make
  · exact ⟨rfl, .inr ⟨failed, .inl ⟨rfl, rfl⟩⟩⟩
  obtain ⟨failed, rfl, rfl⟩ | last := second.bindFailing removed fun _ _ first => first.make
  · have emptied : Plant.Emptied .barbican caller.tenant id ref { p with material := p.material.drop ref } :=
      ⟨⟨names.sound, names.named, names.entry⟩, Keyed.lookup_erase_self⟩
    exact ⟨rfl, .inr ⟨failed, .inr ⟨emptied, rfl⟩⟩⟩
  obtain ⟨_, _, forgotten, ended⟩ | never := last.bind
  · obtain ⟨rfl, rfl⟩ := Prod.mk.inj ended
    have records := fails_forgetOrder forgotten
    exact ⟨records, .inl rfl⟩
  · cases never

theorem fails_delete {r : Except Error Unit} {material : Sealed}
    (names : p.Names .barbican caller.tenant id ref) (held : p.material.lookup ref = some material)
    (h : FailsOnce (Plant.answer message)
      (delete Action.registry (Call.barbican Action.make) Action.count caller id).run p c r p') :
    p'.records = p.records ∧ (r = .ok () ∨ Failed r ∧
      (p' = p ∧ c.hinders .barbican true = false ∨
        p'.Emptied .barbican caller.tenant id ref ∧ c = .deleteEntry caller.tenant id)) := by
  obtain ⟨x, stands, leads⟩ := names.entry
  obtain ⟨x', settled, named⟩ := run_settled message caller leads
  obtain ⟨failed, rfl, rfl⟩ | second := h.bindFailing (congrArg (·, p) stands) fun _ _ first => first.make
  · exact ⟨rfl, .inr ⟨failed, .inl ⟨rfl, rfl⟩⟩⟩
  obtain ⟨failed, rfl, harmless⟩ | last := second.bindFailing settled fun _ _ first =>
    fails_settled leads first
  · exact ⟨rfl, .inr ⟨failed, .inl ⟨rfl, harmless⟩⟩⟩
  simp only [named] at last
  exact fails_withdraw names held last

theorem run_delete_cleared (cleared : p.Cleared caller.tenant id ref) :
    (delete Action.registry (Call.barbican Action.make) Action.count caller id).run.run
      (Plant.answer message) p = (.error (.noSecret id), p) := by
  have looked : (Action.registry.get caller.tenant id).run.run (Plant.answer message) p =
      (.error (.noSecret id), p) := congrArg (·, p) cleared.given
  exact run_bindExcept_error looked

theorem run_delete_lost (lost : p.Lost .barbican caller.tenant id) :
    (delete Action.registry (Call.barbican Action.make) Action.count caller id).run.run
      (Plant.answer message) p = (known message none, p) := by
  obtain ⟨x, order, stands, pending, unknown⟩ := lost.entry
  have looked : (Action.registry.get caller.tenant id).run.run (Plant.answer message) p = (.ok x, p) :=
    congrArg (·, p) stands
  have polled : ((Call.barbican Action.make).checkOrder caller order).run.run (Plant.answer message) p =
      (known message none, p) := by
    change (known message (p.orders.lookup order), p) = _
    rw [unknown]
  have settled : (settled (Call.barbican Action.make) caller x).run.run (Plant.answer message) p =
      (known message none, p) := by
    unfold settled
    simp only [pending]
    exact run_bindExcept_error polled
  unfold delete
  rw [run_bindExcept_ok looked]
  exact run_bindExcept_error settled

theorem run_delete_emptied (emptied : p.Emptied .barbican caller.tenant id ref) :
    (delete Action.registry (Call.barbican Action.make) Action.count caller id).run.run
      (Plant.answer message) p = (known message none, p) := by
  obtain ⟨x, same⟩ := run_delete_to message emptied.toNames
  rw [same]
  exact run_bindExcept_error (answer_deleteSecret_missing emptied.missing)

end Plant.Networked

/-! ## Either keystore -/

namespace Plant

section
variable (kind : Settings.KeystoreKind) (tenant : Tenant) (id ref : String)

/-- Material that a keystore cannot come by any more. -/
inductive Missing (p : Plant) : Prop
  | emptied (h : p.Emptied kind tenant id ref)
  | cleared (h : p.Cleared tenant id ref)
  | lost (h : p.Lost kind tenant id)

/-- What a look at the material ends with where the call `c` fails. If that is not an error, the entry may
have lost its order. -/
inductive Looked {α : Type} (c : Call) (p : Plant) : Except Error α → Prop
  | seen {a : α} (h : p.Holds kind tenant id ref) : Looked c p (.ok a)
  | lost {a : α} (h : p.Lost kind tenant id) (hinders : c.hinders .memory false = true) : Looked c p (.ok a)
  | failed {e : Error} (h : p.Holds kind tenant id ref) (harmless : c.hinders .barbican true = false) :
    Looked c p (.error e)

end

variable {kind : Settings.KeystoreKind} {id ref message : String} {p p' : Plant} {caller : Caller}
  {c : Call} {tries : Nat} {ledger : Ledger Action}

theorem run_withoutCompensation {delete : Caller → String → ExceptT Error Action Unit} {r : Except Error Unit}
    (h : (delete caller id).run.run (answer message) p = (r, p')) :
    (Keystore.withoutCompensation delete caller id ledger).run (answer message) p = ((r, ledger), p') := by
  unfold Keystore.withoutCompensation
  rw [run_bind, h]
  rfl

theorem fails_withoutCompensation {delete : Caller → String → ExceptT Error Action Unit}
    {y : Except Error Unit × Ledger Action}
    (h : FailsOnce (answer message) (Keystore.withoutCompensation delete caller id ledger) p c y p') :
    y.2 = ledger ∧ FailsOnce (answer message) (delete caller id).run p c y.1 p' := by
  obtain ⟨r, p₁, deleting, ended⟩ | never := h.bind
  · obtain ⟨rfl, rfl⟩ := Prod.mk.inj ended
    exact ⟨rfl, deleting⟩
  · cases never

theorem run_payload_held (message : String) (tries : Nat) (holds : p.Holds kind caller.tenant id ref) :
    ∃ material p', ((Action.keystore tries kind).payload caller id).run.run (answer message) p =
        (.ok (.active material), p') ∧
      p'.Holds kind caller.tenant id ref ∧ p'.records = p.records := by
  obtain ⟨material, held⟩ := holds.held
  cases kind with
  | memory =>
    refine ⟨material, p, ?_, holds, rfl⟩
    have read := InMemory.run_payload message holds.toNames
    rwa [held] at read
  | barbican =>
    obtain ⟨p', read, still, same, records⟩ := Networked.run_payload message holds.toNames
    rw [held] at read
    exact ⟨material, p', read, ⟨still, material, same ▸ held⟩, records⟩

theorem fails_payload_held {r : Except Error Observation} (holds : p.Holds kind caller.tenant id ref)
    (h : FailsOnce (answer message) ((Action.keystore tries kind).payload caller id).run p c r p') :
    p'.records = p.records ∧ (∀ observed, r = .ok observed → observed.phase = .activation) ∧
      Looked kind caller.tenant id ref c p' r := by
  obtain ⟨material, held⟩ := holds.held
  cases kind with
  | memory =>
    obtain ⟨⟨e, rfl⟩, rfl, rfl⟩ := InMemory.fails_payload holds.toNames h
    exact ⟨rfl, nofun, .failed holds rfl⟩
  | barbican =>
    obtain ⟨found, outcome⟩ := Networked.fails_payload holds.toNames held h
    have there : ∃ material, p'.material.lookup ref = some material := ⟨material, found.material ▸ held⟩
    refine ⟨found.records, ?_⟩
    obtain rfl | ⟨⟨e, rfl⟩, still, harmless⟩ := outcome
    · refine ⟨fun _ same => Except.ok.inj same ▸ rfl, ?_⟩
      obtain still | ⟨lost, hinders⟩ := found.entry
      · exact .seen ⟨still, there⟩
      · exact .lost lost hinders
    · exact ⟨nofun, .failed ⟨still, there⟩ harmless⟩

theorem run_payload_missing (message : String) (tries : Nat)
    (missing : p.Missing kind caller.tenant id ref) :
    ∃ e p', ((Action.keystore tries kind).payload caller id).run.run (answer message) p = (.error e, p') ∧
      p'.records = p.records ∧
      (p' = p ∨ p.Emptied kind caller.tenant id ref ∧ p'.Emptied kind caller.tenant id ref) := by
  cases missing with
  | emptied emptied =>
    cases kind with
    | memory =>
      have read := InMemory.run_payload message emptied.toNames
      rw [emptied.missing] at read
      exact ⟨_, p, read, rfl, .inl rfl⟩
    | barbican =>
      obtain ⟨p', read, still, same, records⟩ :=
        Networked.run_payload message emptied.toNames
      rw [emptied.missing] at read
      exact ⟨_, p', read, records, .inr ⟨emptied, still, same ▸ emptied.missing⟩⟩
  | cleared cleared =>
    refine ⟨.noSecret id, p, ?_, rfl, .inl rfl⟩
    cases kind with
    | memory => exact run_bindExcept_error (InMemory.run_reference_cleared cleared)
    | barbican => exact Networked.run_payload_cleared cleared
  | lost lost =>
    obtain rfl := lost.networked
    exact ⟨_, p, Networked.run_payload_lost lost, rfl, .inl rfl⟩

theorem run_delete_held (message : String) (tries : Nat) (ledger : Ledger Action)
    (holds : p.Holds kind caller.tenant id ref) :
    ∃ p', ((Action.keystore tries kind).delete caller id ledger).run (answer message) p =
        ((.ok (), ledger), p') ∧ p'.Cleared caller.tenant id ref ∧ p'.records = p.records := by
  obtain ⟨material, held⟩ := holds.held
  cases kind with
  | memory =>
    have deleted := InMemory.run_delete message holds.toNames
    exact ⟨_, run_withoutCompensation deleted, holds.toNames.cleared rfl rfl, rfl⟩
  | barbican =>
    obtain ⟨x, same⟩ := Networked.run_delete_to message holds.toNames
    obtain ⟨p', withdrawn, cleared, records⟩ :=
      Networked.run_withdraw message x holds.toNames held
    exact ⟨p', run_withoutCompensation (same.trans withdrawn), cleared, records⟩

theorem run_delete_emptied (message : String) (tries : Nat) (ledger : Ledger Action)
    (emptied : p.Emptied .memory caller.tenant id ref) :
    ∃ p', ((Action.keystore tries .memory).delete caller id ledger).run (answer message) p =
        ((.ok (), ledger), p') ∧ p'.Cleared caller.tenant id ref ∧ p'.records = p.records := by
  have deleted := InMemory.run_delete message emptied.toNames
  exact ⟨_, run_withoutCompensation deleted, emptied.toNames.cleared rfl rfl, rfl⟩

theorem run_delete_missing (message : String) (tries : Nat) (ledger : Ledger Action)
    (missing : p.Missing kind caller.tenant id ref)
    (stuck : p.Emptied kind caller.tenant id ref → kind = .barbican) :
    ∃ e, ((Action.keystore tries kind).delete caller id ledger).run (answer message) p =
      ((.error e, ledger), p) := by
  cases missing with
  | emptied emptied =>
    obtain rfl := stuck emptied
    exact ⟨_, run_withoutCompensation (Networked.run_delete_emptied emptied)⟩
  | cleared cleared =>
    cases kind with
    | memory =>
      exact ⟨_, run_withoutCompensation (run_bindExcept_error (InMemory.run_reference_cleared cleared))⟩
    | barbican => exact ⟨_, run_withoutCompensation (Networked.run_delete_cleared cleared)⟩
  | lost lost =>
    obtain rfl := lost.networked
    exact ⟨_, run_withoutCompensation (Networked.run_delete_lost lost)⟩

theorem fails_delete_held {y : Except Error Unit × Ledger Action}
    (holds : p.Holds kind caller.tenant id ref)
    (h : FailsOnce (answer message) ((Action.keystore tries kind).delete caller id ledger) p c y p') :
    y.2 = ledger ∧ p'.records = p.records ∧ (y.1 = .ok () ∨ Failed y.1 ∧
      (p' = p ∧ c.hinders .barbican true = false ∨
        p'.Emptied kind caller.tenant id ref ∧ c = .deleteEntry caller.tenant id)) := by
  obtain ⟨material, held⟩ := holds.held
  cases kind with
  | memory =>
    obtain ⟨same, deleting⟩ := fails_withoutCompensation h
    obtain ⟨failed, ⟨rfl, rfl⟩ | ⟨rfl, rfl⟩⟩ := InMemory.fails_delete holds.toNames deleting
    · exact ⟨same, rfl, .inr ⟨failed, .inl ⟨rfl, rfl⟩⟩⟩
    · refine ⟨same, rfl, .inr ⟨failed, .inr ⟨⟨⟨holds.sound, holds.named, holds.entry⟩, ?_⟩, rfl⟩⟩⟩
      exact Keyed.lookup_erase_self
  | barbican =>
    obtain ⟨same, deleting⟩ := fails_withoutCompensation h
    exact ⟨same, Networked.fails_delete holds.toNames held deleting⟩

end Plant

end KeyCustody

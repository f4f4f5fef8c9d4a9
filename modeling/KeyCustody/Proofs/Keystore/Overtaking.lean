import KeyCustody.Proofs.Interleaving
import KeyCustody.Proofs.Keystore.History
import KeyCustody.Proofs.Plant
import KeyCustody.Proofs.Registry.Replay
import KeyCustody.Proofs.Retry

/-!
# A deletion that overtakes a reader

A reader that finds an order done writes the secret's reference to the entry that it has looked up. If
the entry has been deleted by then, a table refuses that, and a map takes it as it takes any update: the
identifier stands again.
-/

namespace KeyCustody

open Program
open Registry (Entry Store)

/-! ## What is left of an entry that was deleted -/

namespace Registry.Store

variable {s s' : Store} {t : Trace} {v : Event} {tenant : Tenant} {id : String} {e : Entry}

/-- The entry of an identifier has been deleted, and the calls since are `t`, of which only updates with
`e` alter the registry: nothing stands there unless a map has taken such an update. -/
structure Deleted (tenant : Tenant) (id : String) (e : Entry) (t : Trace) (s : Store) : Prop where
  isOpen : s.isClosed = false
  gone : (e.issuedId = id → ⟨.updateEntry tenant e, .ok ()⟩ ∉ t) → s.live? tenant id = none
  back : e.issuedId = id → ⟨.updateEntry tenant e, .ok ()⟩ ∈ t →
    s.isMap = true ∧ s.get tenant id = .ok e

/-- What a map is updated with is found in it as it is. -/
theorem get_update_map (isMap : s.isMap = true) (h : s.update tenant e = (.ok (), s')) :
    s'.isMap = true ∧ s'.get tenant e.issuedId = .ok e := by
  obtain ⟨rows, rows', rfl, rfl, updated⟩ | ⟨entries, entries', rfl, rfl, updated⟩ := update_ok h
  · cases isMap
  · obtain ⟨checked, rfl⟩ := Map.update_ok updated
    exact ⟨rfl, get_of_live? rfl Keyed.lookup_put_self (Entry.isEmpty_of_check checked)⟩

theorem Deleted.same (h : Deleted tenant id e t s) (other : v ≠ ⟨.updateEntry tenant e, .ok ()⟩) :
    Deleted tenant id e (t ++ [v]) s := by
  have still : ⟨.updateEntry tenant e, .ok ()⟩ ∈ t ++ [v] ↔ ⟨.updateEntry tenant e, .ok ()⟩ ∈ t := by
    simp [other.symm]
  refine ⟨h.isOpen, fun unwritten => h.gone fun own => mt still.2 (unwritten own), fun own written => ?_⟩
  exact h.back own (still.1 written)

theorem Deleted.update (h : Deleted tenant id e t s) (updated : s.update tenant e = (.ok (), s')) :
    Deleted tenant id e (t ++ [⟨.updateEntry tenant e, .ok ()⟩]) s' := by
  have isOpen : s'.isClosed = false := (isClosed_update updated).2
  by_cases own : e.issuedId = id
  · subst own
    have isMap : s.isMap = true := by
      by_cases written : ⟨.updateEntry tenant e, .ok ()⟩ ∈ t
      · exact (h.back rfl written).1
      · exact isMap_of_update (h.gone fun _ => written) updated
    refine ⟨isOpen, fun unwritten => ?_, fun _ _ => get_update_map isMap updated⟩
    exact absurd (List.mem_append_right _ List.mem_cons_self) (unwritten rfl)
  · refine ⟨isOpen, fun _ => ?_, fun same => absurd same own⟩
    have different : (tenant, id) ≠ (tenant, e.issuedId) := fun same => own (Prod.mk.inj same).2.symm
    rw [live?_update_other updated different]
    exact h.gone fun same => absurd same own

theorem Deleted.step (only : v.call.altersRegistry = true → v.call = .updateEntry tenant e)
    (h : Deleted tenant id e t s) (answered : world .clean v.call s v.answer s') :
    Deleted tenant id e (t ++ [v]) s' := by
  by_cases alters : v.call.altersRegistry = true
  · obtain ⟨c, x⟩ := v
    obtain rfl : c = .updateEntry tenant e := only alters
    cases x with
    | error _ =>
      obtain rfl : s' = s := world_after answered
      exact h.same nofun
    | ok _ =>
      have admitted : Fault.clean.Admits (s.update tenant e) s (.ok ()) s' := answered
      exact h.update admitted.ok
  · obtain rfl : s' = s := (world_after answered).trans (after_of_unaltered (by simpa using alters))
    exact h.same fun same => alters (congrArg (fun v => v.call.altersRegistry) same)

theorem deleted_now (h : s.delete tenant id = (.ok (), s')) : Deleted tenant id e [] s' := by
  have isOpen := isClosed_of_delete h
  obtain rfl : s' = (s.delete tenant id).2 := (congrArg Prod.snd h).symm
  exact ⟨isClosed_delete.trans isOpen, fun _ => live?_delete_self isOpen, fun _ => nofun⟩

/-- Nothing is found if no such update was taken. -/
theorem Deleted.get (h : Deleted tenant id e t s)
    (unwritten : e.issuedId = id → ⟨.updateEntry tenant e, .ok ()⟩ ∉ t) :
    s.get tenant id = .error (.noSecret id) := by
  rw [get_eq, h.isOpen, h.gone unwritten]
  rfl

end Registry.Store

/-- Programs that take turns on a plant, until both are done, do so on its store. -/
theorem Plant.interleaved {α β : Type} {f : Fault} {message : String} {schedule : List Side}
    {a : Action α} {b : Action β} {p : Plant} {x : α} {y : β}
    (left : (interleave (Plant.answer message) schedule a b p).2.1.value? = some x)
    (right : (interleave (Plant.answer message) schedule a b p).2.2.1.value? = some y) :
    Interleaved (Store.world f) a b p.store (interleave (Plant.answer message) schedule a b p).1
      (.done x) (.done y) (interleave (Plant.answer message) schedule a b p).2.2.2.store := by
  rw [← eq_done_of_value? left, ← eq_done_of_value? right]
  exact (Interleaved.of_schedule (w := fun c p x p' => Store.world f c p.store x p'.store)
    (Plant.world_store message) schedule a b p).map Plant.store fun _ _ _ _ admitted => admitted

namespace Keystore.Networked

/-! ## What the requests write -/

section
variable {t : Trace} {caller : Caller} {id : String} {e : Entry}

/-- No call of a trace alters the registry. -/
def Quiet (t : Trace) : Prop := ∀ v ∈ t, v.call.altersRegistry = false

theorem chains_quiet {σ : Type} : Chains fun (_ : σ) t _ => Quiet t where
  refl _ := List.forall_mem_nil _
  append first rest := List.forall_mem_append.2 ⟨first, rest⟩

/-- Whatever it is answered, the program never alters the registry. -/
def IsQuiet {α : Type} (p : Action α) : Prop := Respects free (fun _ t _ => Quiet t) p

theorem isQuiet_make {c : Call} (apart : c.altersRegistry = false) : IsQuiet (Action.make c) :=
  .ask fun _ _ _ _ => List.forall_mem_singleton.2 apart

theorem isQuiet_retry {α : Type} {operation : String} {attempt : ExceptT Error Action α}
    (tried : IsQuiet attempt.run) : IsQuiet (retry Action.count operation attempt).run :=
  Retry.respects_attempts chains_quiet (isQuiet_make rfl) tried

theorem isQuiet_fetch : IsQuiet (fetch (Call.barbican Action.make) Action.count caller e).run := by
  unfold fetch
  cases e.secret? with
  | none => exact .throw chains_quiet _
  | some ref =>
    exact .bindExcept chains_quiet (isQuiet_retry (isQuiet_make rfl)) fun _ => .pure chains_quiet _

theorem isQuiet_forgetOrder :
    IsQuiet (forgetOrder (Call.barbican Action.make) Action.count caller e) := by
  unfold forgetOrder
  cases e.order? with
  | none => exact .pure chains_quiet _
  | some order =>
    refine .bind chains_quiet (isQuiet_retry (isQuiet_make rfl)) fun x => ?_
    cases x with
    | ok _ => exact .pure chains_quiet _
    | error _ => exact isQuiet_make rfl

/-- Of the calls of a trace, only updates with `e` alter the registry. -/
def OnlyUpdates (tenant : Tenant) (e : Entry) (t : Trace) : Prop :=
  ∀ v ∈ t, v.call.altersRegistry = true → v.call = .updateEntry tenant e

theorem Quiet.onlyUpdates {tenant : Tenant} (h : Quiet t) : OnlyUpdates tenant e t :=
  fun v member alters => absurd (alters.symm.trans (h v member)) Bool.noConfusion

theorem chains_onlyUpdates {σ : Type} {tenant : Tenant} :
    Chains fun (_ : σ) t _ => OnlyUpdates tenant e t where
  refl _ := List.forall_mem_nil _
  append first rest := List.forall_mem_append.2 ⟨first, rest⟩

theorem onlyUpdates_promote {order : String} :
    Respects free (fun _ t _ => OnlyUpdates caller.tenant e t)
      (promote Action.registry (Call.barbican Action.make) Action.count caller e order) := by
  unfold promote
  have counted : ∀ c, Respects free (fun _ t _ => OnlyUpdates caller.tenant e t) (Action.count c) :=
    fun c => (isQuiet_make (c := .count c) rfl).mono fun _ _ _ => Quiet.onlyUpdates
  have updated : Respects free (fun _ t _ => OnlyUpdates caller.tenant e t)
      (Action.registry.update caller.tenant e).run :=
    .ask fun _ _ _ _ => List.forall_mem_singleton.2 fun _ => rfl
  refine .bind chains_onlyUpdates (Retry.respects_attempts chains_onlyUpdates (counted _) updated)
    fun x => ?_
  cases x with
  | ok _ => exact .pure chains_onlyUpdates _
  | error _ =>
    have forgotten := isQuiet_make (c := .deleteOrder caller order) rfl
    refine .bind chains_onlyUpdates (forgotten.mono fun _ _ _ => Quiet.onlyUpdates) fun x => ?_
    cases x with
    | ok _ => exact .pure chains_onlyUpdates _
    | error _ => exact counted _

theorem run_resolve_writes {r : Except Error Resolution}
    (h : Run free (resolve Action.registry (Call.barbican Action.make) Action.count caller e).run () t
      r ()) : ∃ e', OnlyUpdates caller.tenant e' t := by
  unfold resolve at h
  cases pending : e.pending? with
  | none =>
    simp only [pending] at h
    obtain ⟨rfl, -, -⟩ := Run.pureExcept_iff.1 h
    exact ⟨e, List.forall_mem_nil _⟩
  | some order =>
    simp only [pending] at h
    have polled : IsQuiet (retry Action.count "check_order"
        ((Call.barbican Action.make).checkOrder caller order)).run := isQuiet_retry (isQuiet_make rfl)
    obtain ⟨_, -, failed⟩ | ⟨t₁, status, _, t₂, rfl, asked, ended⟩ := Run.bindExcept_iff.1 h
    · exact ⟨e, (polled _ _ _ _ failed).onlyUpdates⟩
    have quiet := polled _ _ _ _ asked
    cases status with
    | pending | failed _ =>
      obtain ⟨rfl, -, -⟩ := Run.pureExcept_iff.1 ended
      rw [List.append_nil]
      exact ⟨e, quiet.onlyUpdates⟩
    | active ref =>
      obtain ⟨t₃, _, _, t₄, rfl, promoted, passed⟩ := Run.bindLift_iff.1 ended
      obtain ⟨rfl, -, -⟩ := Run.pureExcept_iff.1 passed
      rw [List.append_nil]
      exact ⟨_, List.forall_mem_append.2 ⟨quiet.onlyUpdates, onlyUpdates_promote _ _ _ _ promoted⟩⟩

theorem run_look_writes {r : Except Error Resolution}
    (h : Run free (look Action.registry (Call.barbican Action.make) Action.count caller id).run () t
      r ()) : ∃ e, OnlyUpdates caller.tenant e t := by
  have translated : IsQuiet (retry Action.count "translate_id"
      (Action.registry.get caller.tenant id)).run := isQuiet_retry (isQuiet_make rfl)
  obtain ⟨_, -, failed⟩ | ⟨t₁, e, _, t₂, rfl, looked, resolved⟩ := Run.bindExcept_iff.1 h
  · exact ⟨.ofSecret "", (translated _ _ _ _ failed).onlyUpdates⟩
  · obtain ⟨e', only⟩ := run_resolve_writes resolved
    exact ⟨e', List.forall_mem_append.2 ⟨(translated _ _ _ _ looked).onlyUpdates, only⟩⟩

theorem run_check_writes {r : Except Error Phase}
    (h : Run free (check Action.registry (Call.barbican Action.make) Action.count caller id).run () t
      r ()) : ∃ e, OnlyUpdates caller.tenant e t := by
  obtain ⟨_, -, failed⟩ | ⟨t₁, found, _, t₂, rfl, looked, ended⟩ := Run.bindExcept_iff.1 h
  · exact run_look_writes failed
  cases found with
  | ready _ | pending | failed =>
    obtain ⟨rfl, -, -⟩ := Run.pureExcept_iff.1 ended
    rw [List.append_nil]
    exact run_look_writes looked

theorem run_payload_writes {r : Except Error Observation}
    (h : Run free (payload Action.registry (Call.barbican Action.make) Action.count caller id).run () t
      r ()) : ∃ e, OnlyUpdates caller.tenant e t := by
  obtain ⟨_, -, failed⟩ | ⟨t₁, found, _, t₂, rfl, looked, ended⟩ := Run.bindExcept_iff.1 h
  · exact run_look_writes failed
  cases found with
  | ready e =>
    obtain ⟨e', only⟩ := run_look_writes looked
    have fetched : Quiet t₂ := isQuiet_fetch _ _ _ _ ended
    exact ⟨e', List.forall_mem_append.2 ⟨only, fetched.onlyUpdates⟩⟩
  | pending | failed =>
    obtain ⟨rfl, -, -⟩ := Run.pureExcept_iff.1 ended
    rw [List.append_nil]
    exact run_look_writes looked

/-- A deletion that ends well has deleted the entry, and written nothing else. -/
theorem run_delete_writes
    (h : Run free (delete Action.registry (Call.barbican Action.make) Action.count caller id).run () t
      (.ok ()) ()) :
    ∃ t₁ t₂, t = t₁ ++ ⟨.deleteEntry caller.tenant id, .ok ()⟩ :: t₂ ∧ Quiet t₂ := by
  obtain ⟨t₁, e, _, t₂, rfl, -, rest⟩ := Run.bindExcept_ok_iff.1 h
  obtain ⟨t₃, e', _, t₄, rfl, -, ended⟩ := Run.bindExcept_ok_iff.1 rest
  have gaveUp : ∀ t s, Run free (do
      Action.registry.delete caller.tenant id
      ExceptT.lift (forgetOrder (Call.barbican Action.make) Action.count caller e') :
        ExceptT Error Action Unit).run s t (.ok ()) () →
      ∃ t₂, t = ⟨.deleteEntry caller.tenant id, .ok ()⟩ :: t₂ ∧ Quiet t₂ := by
    intro t s h
    obtain ⟨_, _, _, t₂, rfl, deleted, forgotten⟩ := Run.bindExcept_ok_iff.1 h
    obtain ⟨rfl, -⟩ := Run.ask_iff.1 deleted
    obtain ⟨_, _, _, _, rfl, cleared, passed⟩ := Run.bind_iff.1 forgotten
    obtain ⟨rfl, -, -⟩ := Run.pure_iff.1 passed
    rw [List.append_nil]
    exact ⟨_, rfl, isQuiet_forgetOrder _ _ _ _ cleared⟩
  cases given : e'.secret? with
  | none =>
    simp only [given] at ended
    obtain ⟨t₂, rfl, quiet⟩ := gaveUp _ _ ended
    exact ⟨t₁ ++ t₃, t₂, (List.append_assoc ..).symm, quiet⟩
  | some ref =>
    simp only [given] at ended
    obtain ⟨t₅, _, _, t₆, rfl, -, last⟩ := Run.bindExcept_ok_iff.1 ended
    obtain ⟨t₂, rfl, quiet⟩ := gaveUp _ _ last
    exact ⟨t₁ ++ (t₃ ++ t₅), t₂, by simp, quiet⟩

theorem run_perform_delete_writes {tries : Nat}
    (h : Run free ((Action.barbicanKeystore tries).perform (.delete caller id)) () t (.ok .done) ()) :
    ∃ t₁ t₂, t = t₁ ++ ⟨.deleteEntry caller.tenant id, .ok ()⟩ :: t₂ ∧ Quiet t₂ := by
  obtain ⟨_, x, _, _, rfl, ran, ended⟩ := Run.bind_iff.1 h
  obtain ⟨rfl, done, -⟩ := Run.pure_iff.1 ended
  obtain ⟨_, y, _, _, rfl, deleted, passed⟩ := Run.bind_iff.1 ran
  obtain ⟨rfl, rfl, -⟩ := Run.pure_iff.1 passed
  cases y with
  | error _ => cases done
  | ok _ =>
    rw [List.append_nil, List.append_nil]
    exact run_delete_writes deleted

end

/-! ## Interleavings -/

section
variable {tries : Nat} {caller caller' : Caller} {id : String} {q : Request} {s s' : Store}
  {t : List (Side × Event)} {x : Except Error Reply}

/-- A request that checks a secret, or fetches its material, by turns with one that deletes it and ends
well, over either kind of store, whatever the API answers. In the end the identifier is not found, unless
the reader has updated its entry in a map after it was deleted: then it finds what the reader wrote. -/
theorem deleted_unless_written_back (reads : q = .check caller id ∨ q = .payload caller id)
    (same : caller'.tenant = caller.tenant)
    (h : Interleaved (Store.world .clean) ((Action.barbicanKeystore tries).perform q)
      ((Action.barbicanKeystore tries).perform (.delete caller' id)) s t (.done x) (.done (.ok .done))
      s') :
    ∃ t₁ t₂, t = t₁ ++ (.right, ⟨.deleteEntry caller.tenant id, .ok ()⟩) :: t₂ ∧
      (s.isMap = false → s'.get caller.tenant id = .error (.noSecret id)) ∧
      ((∀ e, e.issuedId = id → (.left, ⟨.updateEntry caller.tenant e, .ok ()⟩) ∉ t₂) →
        s'.get caller.tenant id = .error (.noSecret id)) ∧
      ∀ e, e.issuedId = id → (.left, ⟨.updateEntry caller.tenant e, .ok ()⟩) ∈ t₂ →
        s'.get caller.tenant id = .ok e := by
  obtain ⟨began, ended⟩ := h.begins
  obtain ⟨e, only⟩ : ∃ e, OnlyUpdates caller.tenant e (callsOf .left t) := by
    obtain rfl | rfl := reads
    · obtain ⟨_, -, checked⟩ := Run.mapped_iff.1 began.run
      exact run_check_writes checked
    · obtain ⟨_, -, fetched⟩ := Run.mapped_iff.1 began.run
      exact run_payload_writes fetched
  obtain ⟨u₁, u₂, split, quiet⟩ := run_perform_delete_writes ended.run
  obtain ⟨t₁, t₂, rfl, -, rfl⟩ := callsOf_split split
  have onlyLeft : ∀ v, (.left, v) ∈ t₂ → v.call.altersRegistry = true →
      v.call = .updateEntry caller.tenant e :=
    fun v member => only v (mem_callsOf.2 (List.mem_append_right _ (List.mem_cons_of_mem _ member)))
  rw [same] at h ⊢
  refine ⟨t₁, t₂, rfl, ?_⟩
  have path := h.path
  rw [List.map_append, List.map_cons] at path
  obtain ⟨s₁, -, rest⟩ := Path.append_iff.1 path
  obtain ⟨s₂, answered, since⟩ := Path.cons_iff.1 rest
  have admitted : Fault.clean.Admits (s₁.delete caller.tenant id) s₁ (.ok ()) s₂ := answered
  have deleted : Store.Deleted caller.tenant id e ([] ++ t₂.map (·.2)) s' := by
    refine since.along _ _ (fun _ _ _ _ member => Store.Deleted.step fun alters => ?_)
      (Store.deleted_now admitted.ok)
    obtain ⟨⟨side, v⟩, later, rfl⟩ := List.mem_map.1 member
    cases side with
    | left => exact onlyLeft v later alters
    | right => exact absurd (alters.symm.trans (quiet v (mem_callsOf.2 later))) Bool.noConfusion
  have written : ⟨.updateEntry caller.tenant e, .ok ()⟩ ∈ [] ++ t₂.map (·.2) →
      (.left, ⟨.updateEntry caller.tenant e, .ok ()⟩) ∈ t₂ := by
    intro member
    obtain ⟨⟨side, v⟩, member, rfl⟩ := List.mem_map.1 member
    cases side with
    | left => exact member
    | right => cases quiet _ (mem_callsOf.2 member)
  have isMap : s'.isMap = s.isMap := Store.isMap_of_path h.path
  refine ⟨fun table => ?_, fun unwritten => ?_, fun e' own member => ?_⟩
  · refine deleted.get fun own member => Bool.false_ne_true ?_
    exact table.symm.trans (isMap.symm.trans (deleted.back own member).1)
  · exact deleted.get fun own member => unwritten e own (written member)
  · obtain rfl : e' = e := (Call.updateEntry.inj (onlyLeft _ member rfl)).2
    exact (deleted.back own (List.mem_map.2 ⟨_, member, rfl⟩)).2

/-- A check finds an order done; the secret is deleted, and then the check writes its reference to the
entry in the map. -/
theorem written_back_after_deletion :
    let caller : Caller := ⟨⟨"s", "o"⟩, "c", none⟩
    let k := Action.barbicanKeystore 1
    let s : Store := .map [((caller.tenant, "k"), ⟨"k", none, some "order"⟩)]
    ∃ t s', Interleaved (Store.world .clean) (k.perform (.check caller "k"))
        (k.perform (.delete caller "k")) s t (.done (.ok (.phase .activation))) (.done (.ok .done)) s' ∧
      s'.get caller.tenant "k" = .ok ⟨"k", some "secret", some "order"⟩ := by
  intro caller k s
  let p : Plant := ⟨s, [("secret", ⟨"material"⟩)], [("order", .active "secret")], []⟩
  let turns := List.replicate 2 Side.left ++ List.replicate 5 Side.right ++ [Side.left]
  let ended := interleave (Plant.answer "missing") turns (k.perform (.check caller "k"))
    (k.perform (.delete caller "k")) p
  have checked : ended.2.1.value? = some (.ok (.phase .activation)) := by decide +kernel
  have deleted : ended.2.2.1.value? = some (.ok .done) := by decide +kernel
  exact ⟨_, _, Plant.interleaved checked deleted, by decide +kernel⟩

/-- A table refuses what the check writes. -/
theorem deleted_unless_written_back_of_table :
    let caller : Caller := ⟨⟨"s", "o"⟩, "c", none⟩
    let k := Action.barbicanKeystore 1
    let s : Store := .table true [⟨caller.tenant, "k", "", "order", false⟩]
    ∃ t s', Interleaved (Store.world .clean) (k.perform (.check caller "k"))
        (k.perform (.delete caller "k")) s t (.done (.ok (.phase .activation))) (.done (.ok .done)) s' ∧
      s'.get caller.tenant "k" = .error (.noSecret "k") := by
  intro caller k s
  let p : Plant := ⟨s, [("secret", ⟨"material"⟩)], [("order", .active "secret")], []⟩
  let turns := List.replicate 2 Side.left ++ List.replicate 5 Side.right ++ List.replicate 3 Side.left
  let ended := interleave (Plant.answer "missing") turns (k.perform (.check caller "k"))
    (k.perform (.delete caller "k")) p
  have checked : ended.2.1.value? = some (.ok (.phase .activation)) := by decide +kernel
  have deleted : ended.2.2.1.value? = some (.ok .done) := by decide +kernel
  have h : Interleaved (Store.world .clean) _ _ s _ _ _ _ := Plant.interleaved checked deleted
  obtain ⟨_, _, -, refused, -⟩ := deleted_unless_written_back (.inl rfl) rfl h
  exact ⟨_, _, h, refused rfl⟩

end

end Keystore.Networked

end KeyCustody

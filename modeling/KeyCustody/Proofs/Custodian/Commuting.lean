import KeyCustody.Proofs.Custodian.Stocking
import KeyCustody.Proofs.Custodian.Tenancy
import KeyCustody.Proofs.Custodian.Trusting
import KeyCustody.Proofs.Separation

/-!
# Requests on different secrets

To fetch one secret and to destroy another, or either to both, is the same in either order: as long as the
entries of the two name different references, none of the calls of one request minds those of the other.
-/

namespace KeyCustody.Custodian

open Program
open Registry (Store)

/-- The secret that a request is about. -/
def Request.on? : Request → Option (Tenant × String)
  | .fetch caller id | .destroy caller id _ => some (caller.tenant, id)
  | _ => none

section
variable {tries : Nat} {key key' : Tenant × String} {p q : Request}

theorem handles_concerns {owns : String → Prop} {caller : Caller} {id : String} :
    Handles (·.Concerns owns (caller.tenant, id)) (Tells owns) caller id where
  entry := rfl
  finds _ ref told name := told ref name
  drops _ ref told name := told ref name
  removes := rfl
  record := rfl
  changes _ _ own := congrArg (Prod.mk caller.tenant) own
  deletes _ own := congrArg (Prod.mk caller.tenant) own
  marks := rfl
  now := trivial
  counts _ := trivial

/-- As long as it is answered soundly, a request on a secret makes calls that concern that. -/
theorem trusts_perform {owns : String → Prop} (on : q.on? = some key) :
    Trusts (·.Concerns owns key) (Tells owns) ((Action.custodian (Action.memoryKeystore tries)).perform q) := by
  have counts : ∀ c, Trusts (·.Concerns owns key) (Tells owns) (Action.count c) :=
    fun _ => .ask fun _ _ _ _ => ⟨trivial, fun _ => trivial⟩
  cases q with
  | fetch caller id =>
    obtain rfl := Option.some.inj on
    exact respects_counted chains_trusting counts _ (trusts_read handles_concerns)
  | destroy caller id whole =>
    obtain rfl := Option.some.inj on
    refine respects_counted chains_trusting counts _ ?_
    exact .bind chains_trusting (trusts_remove handles_concerns) fun _ => .pure chains_trusting _
  | create | list | total => cases on

/-! ## Requests on an engine -/

variable {u : Supply} {now : Time.Instant} {owns : Tenant × String → String → Prop} {e e₁ e₂ e₁' e₂' : Engine}
  {t t' v v' : Trace} {x x' y y' : Except Error Reply}

theorem concerned_of_run (on : q.on? = some key) (sited : e.Sited owns)
    (h : Run u.world ((Action.custodian (Action.memoryKeystore tries)).perform q) e t x e') :
    (∀ v ∈ t, v.call.Concerns (owns key) key) ∧ e'.Sited owns :=
  (trusts_perform on _ _ _ _ h.free).of_path (fun sited concerns => sited.tells concerns)
    (fun sited concerns => sited.after concerns) sited h.path

/-- A request on a secret goes by what is found. -/
theorem run_sight (still : ∀ n, u.time n = now) (on : q.on? = some key) (sited : e.Sited owns)
    (h : Run u.world ((Action.custodian (Action.memoryKeystore tries)).perform q) e t x e') :
    Run (standing now) ((Action.custodian (Action.memoryKeystore tries)).perform q) e.sight t x e'.sight := by
  obtain ⟨concerned, -⟩ := concerned_of_run on sited h
  refine .of_path h.free (h.path.map Engine.sight fun v member _ _ answered => ?_)
  exact Supply.world_sight still (concerned v member) answered

/-- Whichever of two requests on different secrets comes first, each makes the same calls, and the same is found
after both. -/
theorem runs_swap (still : ∀ n, u.time n = now) (sited : e.Sited owns) (on : p.on? = some key)
    (on' : q.on? = some key') (different : key ≠ key') (apart : ∀ ref, owns key ref → ¬ owns key' ref)
    (first : Run u.world ((Action.custodian (Action.memoryKeystore tries)).perform p) e t x e₁)
    (second : Run u.world ((Action.custodian (Action.memoryKeystore tries)).perform q) e₁ v y e₂)
    (first' : Run u.world ((Action.custodian (Action.memoryKeystore tries)).perform q) e v' y' e₁')
    (second' : Run u.world ((Action.custodian (Action.memoryKeystore tries)).perform p) e₁' t' x' e₂') :
    (t' = t ∧ x' = x) ∧ (v' = v ∧ y' = y) ∧ e₂'.sight = e₂.sight := by
  obtain ⟨concerned, sited₁⟩ := concerned_of_run on sited first
  obtain ⟨concerned', -⟩ := concerned_of_run on' sited₁ second
  obtain ⟨others, sited₁'⟩ := concerned_of_run on' sited first'
  obtain ⟨others', -⟩ := concerned_of_run on sited₁' second'
  -- as far as can be found, the calls of the second request lead along their path before those of the first
  have whole : Path (standing now) e.sight (t ++ v) e₂.sight :=
    Path.append_iff.2 ⟨e₁.sight, (run_sight still on sited first).path, (run_sight still on' sited₁ second).path⟩
  have swaps : ∀ a ∈ t, ∀ b ∈ v, Swaps (standing now) a b := fun a member b member' =>
    swaps_of_apart different apart (concerned a member) (concerned' b member')
  obtain ⟨between, ahead, behind⟩ := Path.append_iff.1 (whole.swap swaps)
  -- and each request then makes the same calls as there
  obtain ⟨rfl, rfl, rfl⟩ := Run.once (w := standing now) standing_once others (run_sight still on' sited first')
    (.of_path second.free ahead)
  obtain ⟨rfl, rfl, same⟩ := Run.once (w := standing now) standing_once others' (run_sight still on sited₁' second')
    (.of_path first.free behind)
  exact ⟨⟨rfl, rfl⟩, ⟨rfl, rfl⟩, same⟩

theorem run_pair {σ : Type} {w : World σ} {c : Custodian Action} {s s' : σ} {xs : List (Except Error Reply)}
    (h : Run w (c.performAll [p, q]) s t xs s') :
    ∃ t₁ x s₁ t₂ y, t = t₁ ++ t₂ ∧ xs = [x, y] ∧ Run w (c.perform p) s t₁ x s₁ ∧ Run w (c.perform q) s₁ t₂ y s' := by
  obtain ⟨t₁, x, s₁, _, _, rfl, rfl, first, rest⟩ := Run.mapM_cons_iff.1 h
  obtain ⟨t₂, y, _, _, _, rfl, rfl, second, ended⟩ := Run.mapM_cons_iff.1 rest
  obtain ⟨rfl, rfl, rfl⟩ := Run.pure_iff.1 ended
  exact ⟨t₁, x, s₁, t₂, y, by rw [List.append_nil], rfl, first, second⟩

theorem sited_of_pair (on : p.on? = some key) (on' : q.on? = some key') (sited : e.Sited owns)
    (first : Run u.world ((Action.custodian (Action.memoryKeystore tries)).perform p) e t x e₁)
    (second : Run u.world ((Action.custodian (Action.memoryKeystore tries)).perform q) e₁ v y e₂) :
    e₂.Sited owns :=
  (concerned_of_run on' (concerned_of_run on sited first).2 second).2

/-- What two requests add to each number is what both count. -/
theorem number_of_pair (on : p.on? = some key) (on' : q.on? = some key') (sited : e.Sited owns)
    (first : Run u.world ((Action.custodian (Action.memoryKeystore tries)).perform p) e t x e₁)
    (second : Run u.world ((Action.custodian (Action.memoryKeystore tries)).perform q) e₁ v y e₂) (c : Counter) :
    e₂.tally.number c = e.tally.number c + (counts t).count c + (counts v).count c := by
  obtain ⟨concerned, sited₁⟩ := concerned_of_run on sited first
  obtain ⟨concerned', -⟩ := concerned_of_run on' sited₁ second
  have tallied : Run Tally.world _ e.tally t x e₁.tally := .of_path first.free
    (first.path.map Engine.tally fun v member _ _ answered => Supply.world_tally (concerned v member) answered)
  have tallied' : Run Tally.world _ e₁.tally v y e₂.tally := .of_path second.free
    (second.path.map Engine.tally fun v member _ _ answered => Supply.world_tally (concerned' v member) answered)
  rw [Tally.number_of_run tallied', Tally.number_of_run tallied]

/-! ## What has been reached -/

variable {start : Store} {requests : List Request} {xs : List (Except Error Reply)}

/-- In an engine that requests have led to, no two entries name the same reference. -/
theorem sited_of_reached (empty : start = .table true [] ∨ start = .map [])
    (reached : Run (both (Stock.world .clean) (Catalog.Records.world .any))
      ((Action.custodian (Action.memoryKeystore tries)).performAll requests) (⟨start, []⟩, []) t xs e.parts)
    (distinct : (drawn t).Nodup) :
    ∃ owns : Tenant × String → String → Prop, e.Sited owns ∧
      ∀ key key' ref, owns key ref → owns key' ref → key = key' := by
  obtain ⟨kept, -⟩ := upkeep_performAll _ _ _ _ reached.left [] (Stock.kept_empty empty) distinct
  refine ⟨fun key ref => e.parts.1.ref? key.1 key.2 = some ref, ⟨?_, ?_⟩, ?_⟩
  · intro tenant id x ref found name
    exact Option.bind_eq_some_iff.2 ⟨x, (Store.live?_of_get found).2.1, name⟩
  · exact reached.right.invariant (fun _ _ _ _ filed => filed.after) Catalog.Records.sound_empty.toFiled
  · exact fun key key' ref names names' => kept.single _ _ _ _ ref names names'

/-- Wherever requests to a custodian over a keystore in memory have led, whatever failed without effect and as
long as no reference was drawn twice: to fetch or destroy one secret and then another, when nothing fails
and at one time, is to do so in the other order. The replies are the same; and so are then the entries, the
records, the material and the counts. -/
theorem different_secrets_commute (empty : start = .table true [] ∨ start = .map [])
    (reached : Run (both (Stock.world .clean) (Catalog.Records.world .any))
      ((Action.custodian (Action.memoryKeystore tries)).performAll requests) (⟨start, []⟩, []) t xs e.parts)
    (distinct : (drawn t).Nodup) (still : ∀ n, u.time n = now) (on : p.on? = some key) (on' : q.on? = some key')
    (different : key ≠ key') {replies replies' : List (Except Error Reply)}
    (one : ((Action.custodian (Action.memoryKeystore tries)).performAll [p, q]).run u.answer e = (replies, e₁))
    (other : ((Action.custodian (Action.memoryKeystore tries)).performAll [q, p]).run u.answer e = (replies', e₂)) :
    replies' = replies.reverse ∧ e₂.store = e₁.store ∧ e₂.material = e₁.material ∧
      e₂.records.Perm e₁.records ∧ (∀ tenant id, e₂.records.get tenant id = e₁.records.get tenant id) ∧
      ∀ counter, e₂.tally.number counter = e₁.tally.number counter := by
  obtain ⟨owns, sited, single⟩ := sited_of_reached empty reached distinct
  have apart : ∀ ref, owns key ref → ¬ owns key' ref := fun ref own own' => different (single key key' ref own own')
  obtain ⟨t, x, _, v, y, -, rfl, first, second⟩ := run_pair (Supply.run_of_eval one)
  obtain ⟨v', y', _, t', x', -, rfl, first', second'⟩ := run_pair (Supply.run_of_eval other)
  have filed := (sited_of_pair on on' sited first second).filed
  have filed' := (sited_of_pair on' on sited first' second').filed
  have counted := number_of_pair on on' sited first second
  have counted' := number_of_pair on' on sited first' second'
  obtain ⟨⟨rfl, rfl⟩, ⟨rfl, rfl⟩, same⟩ := runs_swap still sited on on' different apart first second first' second'
  obtain ⟨stock, file⟩ := Prod.mk.inj same
  obtain ⟨store, material⟩ := Stock.mk.inj stock
  have found : ∀ key, e₂.records.lookup key = e₁.records.lookup key := congrFun file
  refine ⟨rfl, store, material, Keyed.perm_of_lookup filed'.unique filed.unique found, fun _ _ => found _, ?_⟩
  intro counter
  rw [counted, counted', Nat.add_right_comm]

/-- What requests of a tenant lead an engine to. -/
theorem run_reached {tenant : Tenant} (own : ∀ q ∈ requests, q.caller.tenant = tenant)
    (h : Run u.world ((Action.custodian (Action.memoryKeystore tries)).performAll requests) e t xs e₁) :
    Run (both (Stock.world .clean) (Catalog.Records.world .any))
      ((Action.custodian (Action.memoryKeystore tries)).performAll requests) e.parts t xs e₁.parts := by
  have confines : Action.Confines tenant (fun _ => True)
      ((Action.custodian (Action.memoryKeystore tries)).performAll requests) :=
    .mapM chains_confined fun q member => own q member ▸ confines_perform
  have within := (confines _ _ _ _ h.free).within
  refine .of_path h.free (h.path.map Engine.parts fun v member _ _ answered => ?_)
  exact Supply.world_parts (within v member) answered

/-- Of two secrets, one is fetched and the other destroyed and returned. -/
theorem different_secrets_commute_of_two :
    let caller : Caller := ⟨⟨"s", "o"⟩, "c", none⟩
    let secret : Secret := { Secret.named "key" with payload := some ⟨"material"⟩, extractable := true }
    let c := Action.custodian (Action.memoryKeystore 1)
    let u : Supply := { Supply.counting with time := fun _ => ⟨0, 0⟩ }
    let e := ((c.performAll [.create caller secret true, .create caller secret true]).run u.answer
      { store := .table true [] }).2
    let one := (c.performAll [.fetch caller "k", .destroy caller "kk" true]).run u.answer e
    let other := (c.performAll [.destroy caller "kk" true, .fetch caller "k"]).run u.answer e
    one.1.map (·.isOk) = [true, true] ∧ other.1 = one.1.reverse ∧ other.2.store = one.2.store ∧
      other.2.material = one.2.material ∧ other.2.records.Perm one.2.records ∧
      ∀ counter, other.2.tally.number counter = one.2.tally.number counter := by
  intro caller secret c u e one other
  have ran := Run.of_answers u.world_answer (c.performAll [.create caller secret true, .create caller secret true])
    { store := .table true [] }
  have own : ∀ q ∈ [Request.create caller secret true, .create caller secret true], q.caller.tenant = caller.tenant := by
    decide
  have reached := run_reached own ran
  have distinct : (drawn ((c.performAll [.create caller secret true, .create caller secret true]).trace u.answer
    { store := .table true [] })).Nodup := by decide +kernel
  have replies : one.1.map (·.isOk) = [true, true] := by decide +kernel
  have ahead : (c.performAll [.fetch caller "k", .destroy caller "kk" true]).run u.answer e = one := rfl
  have behind : (c.performAll [.destroy caller "kk" true, .fetch caller "k"]).run u.answer e = other := rfl
  clear_value one other
  obtain ⟨_, e₁⟩ := one
  obtain ⟨_, e₂⟩ := other
  obtain ⟨reversed, store, material, perm, -, counted⟩ := different_secrets_commute (.inl rfl) reached distinct
    (fun _ => rfl) rfl rfl (by decide) ahead behind
  exact ⟨replies, reversed, store, material, perm, counted⟩

end

end KeyCustody.Custodian

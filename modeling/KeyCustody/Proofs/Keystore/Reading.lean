import KeyCustody.Proofs.Keystore.Frame
import KeyCustody.Proofs.Registry.Lookup
import KeyCustody.Proofs.Retry
import KeyCustody.Proofs.World

/-!
# Checking a secret and reading its material

Both look an identifier up and resolve the entry, and differ only in what they make of an entry that is
ready. So a read makes the calls of the check and then at most fetches; it fails as the check does, reports
the same phase, or fails in fetching.
-/

namespace KeyCustody

open Program

/-- A call that asks the API for material. -/
def Call.fetchesMaterial : Call → Bool
  | getPayload .. => true
  | _ => false

namespace Keystore.Networked

open Barbican (PayloadType)
open Registry (Entry Store)

variable {σ τ : Type}

/-- How a read of the material goes on, and ends, where the check of the secret has ended. -/
inductive Continues (caller : Caller) : Except Error Phase → Trace → Except Error Observation → Prop
  | failed (error : Error) : Continues caller (.error error) [] (.error error)
  | withheld {phase : Phase} (other : phase ≠ .activation) :
      Continues caller (.ok phase) [] (.ok (.without phase))
  | fetched {ref : String} {type : PayloadType} {t : Trace} {x : Except Error Sealed}
      (tries : Retry.Tries (fun x => ⟨.getPayload caller ref type, x⟩) (.retriesExhausted "get_payload")
        Retry.limit t x) :
      Continues caller (.ok .activation) t (x.map .active)

/-- What is read has material exactly in the active phase. -/
theorem Continues.carried {caller : Caller} {r : Except Error Phase} {t : Trace} {o : Observation}
    (h : Continues caller r t (.ok o)) : o.payload.isSome = true ↔ o.phase = .activation := by
  generalize read : Except.ok o = x at h
  cases h with
  | failed error => cases read
  | withheld other =>
    obtain rfl := Except.ok.inj read
    exact ⟨nofun, fun same => absurd same other⟩
  | @fetched _ _ _ x tries =>
    cases x with
    | error error => cases read
    | ok material =>
      obtain rfl := Except.ok.inj read
      exact ⟨fun _ => rfl, fun _ => rfl⟩

/-- A check of a secret and a read of its material, from one state that answers both. -/
structure ReadsAlike (answer : σ → (c : Call) → c.Answer × σ) (registered : σ → τ) (caller : Caller)
    (check : Action (Except Error Phase)) (payload : Action (Except Error Observation)) (s : σ) :
    Prop where
  spared : ∀ v ∈ check.trace answer s, v.call.fetchesMaterial = false
  continued : ∃ fetches, payload.trace answer s = check.trace answer s ++ fetches ∧
    Continues caller (check.run answer s).1 fetches (payload.run answer s).1
  registry : registered (payload.run answer s).2 = registered (check.run answer s).2
  carried : ∀ o, (payload.run answer s).1 = .ok o → (o.payload.isSome = true ↔ o.phase = .activation)

theorem ReadsAlike.of_eval {answer : σ → (c : Call) → c.Answer × σ} {registered : σ → τ} {caller : Caller}
    {check : Action (Except Error Phase)} {payload : Action (Except Error Observation)} {s s₁ s₂ : σ}
    {r : Except Error Phase} {x : Except Error Observation} {fetches : Trace}
    (spared : ∀ v ∈ check.trace answer s, v.call.fetchesMaterial = false)
    (checked : check.run answer s = (r, s₁)) (read : payload.run answer s = (x, s₂))
    (calls : payload.trace answer s = check.trace answer s ++ fetches)
    (continues : Continues caller r fetches x) (kept : registered s₂ = registered s₁) :
    ReadsAlike answer registered caller check payload s := by
  refine ⟨spared, ⟨fetches, calls, ?_⟩, ?_, ?_⟩
  · rw [checked, read]
    exact continues
  · rw [checked, read]
    exact kept
  · intro o found
    rw [read] at found
    obtain rfl : x = .ok o := found
    exact continues.carried

section
variable {w : Program.World Call Call.Answer σ} {caller : Caller} {id : String} {s s' : σ} {t : Trace}

/-- Where lookups find entries that have a reference, and orders that are done name their secrets, what
is ready names its secret. -/
theorem secret?_of_ready {e : Entry}
    (filled : ∀ s e s', w (.getEntry caller.tenant id) s (.ok e) s' → e.isEmpty = false)
    (named : ∀ order s ref s', w (.checkOrder caller order) s (.ok (.active ref)) s' → ref ≠ "")
    (h : Run w (look Action.registry (Call.barbican Action.make) Action.count caller id).run s t
      (.ok (.ready e)) s') : ∃ ref, e.secret? = some ref := by
  obtain ⟨_, found, s₁, _, -, looked, resolved⟩ := Run.bindExcept_ok_iff.1 h
  -- Some attempt has succeeded; which of them does not matter.
  obtain ⟨_, _, _, -, asked⟩ := Retry.ran_of_attempts looked
  have full : found.isEmpty = false := filled _ _ _ (Run.ask_iff.1 asked).2
  unfold resolve at resolved
  cases pending : found.pending? with
  | none =>
    simp only [pending] at resolved
    obtain ⟨-, same, -⟩ := Run.pureExcept_ok_iff.1 resolved
    obtain rfl := Resolution.ready.inj same
    exact Entry.secret?_of_full full pending
  | some order =>
    simp only [pending] at resolved
    obtain ⟨_, status, s₂, _, -, polled, ended⟩ := Run.bindExcept_ok_iff.1 resolved
    cases status with
    | pending | failed _ =>
      obtain ⟨-, same, -⟩ := Run.pureExcept_ok_iff.1 ended
      cases same
    | active ref =>
      obtain ⟨_, _, _, -, reported⟩ := Retry.ran_of_attempts polled
      have present : ref ≠ "" := named _ _ _ _ (Run.ask_iff.1 reported).2
      obtain ⟨_, _, _, _, -, -, passed⟩ := Run.bindLift_iff.1 ended
      obtain ⟨-, same, -⟩ := Run.pureExcept_ok_iff.1 passed
      obtain rfl := Resolution.ready.inj same
      exact ⟨ref, Entry.secret?_named found present⟩

theorem continues_of_fetch {e : Entry} {ref : String} {x : Except Error Observation}
    (given : e.secret? = some ref)
    (h : Run w (fetch (Call.barbican Action.make) Action.count caller e).run s t x s') :
    Continues caller (.ok .activation) t x := by
  unfold fetch at h
  simp only [given] at h
  obtain ⟨error, rfl, failed⟩ | ⟨t₁, material, s₁, _, rfl, fetched, passed⟩ := Run.bindExcept_iff.1 h
  · exact .fetched (x := .error error) (Retry.tries_attempts (fun _ _ _ _ run => (Run.ask_iff.1 run).1) failed)
  · obtain ⟨rfl, rfl, rfl⟩ := Run.pureExcept_iff.1 passed
    rw [List.append_nil]
    exact .fetched (x := .ok material)
      (Retry.tries_attempts (fun _ _ _ _ run => (Run.ask_iff.1 run).1) fetched)

end

section
variable {answer : σ → (c : Call) → c.Answer × σ} {registered : σ → τ} {caller : Caller} {id : String}

/-- A check only looks: what it makes of the entry that it finds takes no call. -/
theorem trace_check {tries : Nat} {s : σ} :
    ((Action.barbicanKeystore tries).check caller id).run.trace answer s =
      (look Action.registry (Call.barbican Action.make) Action.count caller id).run.trace answer s := by
  rcases looked : (look Action.registry (Call.barbican Action.make) Action.count caller id).run.run answer s
    with ⟨error | found, s'⟩
  · exact trace_bindExcept_error looked
  · refine (trace_bindExcept_ok looked).trans ?_
    cases found with
    | ready _ | pending | failed => exact List.append_nil _

theorem spared_check {tries : Nat} {s : σ} :
    ∀ v ∈ ((Action.barbicanKeystore tries).check caller id).run.trace answer s,
      v.call.fetchesMaterial = false := by
  have calls : ((Action.barbicanKeystore tries).check caller id).run.Keeps (·.fetchesMaterial = false)
      fun _ => True :=
    keeps_check (fun _ => rfl) rfl (fun _ => rfl) (fun _ => rfl) fun _ => rfl
  exact calls.respects _ _ _ _ (Run.of_eval rfl)

theorem registered_fetch {e : Entry} {s : σ}
    (fetching : ∀ s ref type, registered (answer s (.getPayload caller ref type)).2 = registered s)
    (counting : ∀ s counter, registered (answer s (.count counter)).2 = registered s) :
    registered ((fetch (Call.barbican Action.make) Action.count caller e).run.run answer s).2 =
      registered s := by
  have calls : (fetch (Call.barbican Action.make) Action.count caller e).run.Keeps
      (fun c => ∀ s, registered (answer s c).2 = registered s) fun _ => True :=
    keeps_fetch (fun counter s => counting s counter) fun ref type s => fetching s ref type
  refine (calls.invariant (fun s' => registered s' = registered s) ?_ rfl (Run.of_eval rfl)).1
  rintro c s₁ x s₂ kept same answered
  obtain rfl := congrArg Prod.snd answered
  exact (kept s₁).trans same

/-- A read of the material goes as the check of the secret does, and from there on at most fetches. -/
theorem payload_readsAlike {tries : Nat}
    (filled : ∀ s e, (answer s (.getEntry caller.tenant id)).1 = .ok e → e.isEmpty = false)
    (named : ∀ s order ref, (answer s (.checkOrder caller order)).1 = .ok (.active ref) → ref ≠ "")
    (fetching : ∀ s ref type, registered (answer s (.getPayload caller ref type)).2 = registered s)
    (counting : ∀ s counter, registered (answer s (.count counter)).2 = registered s) (s : σ) :
    ReadsAlike answer registered caller ((Action.barbicanKeystore tries).check caller id).run
      ((Action.barbicanKeystore tries).payload caller id).run s := by
  rcases looked : (look Action.registry (Call.barbican Action.make) Action.count caller id).run.run answer s
    with ⟨error | found, s'⟩
  · refine .of_eval spared_check (run_bindExcept_error looked) (run_bindExcept_error looked) ?_ (.failed error) rfl
    rw [trace_check, List.append_nil]
    exact trace_bindExcept_error looked
  -- Only an entry that is ready is read further than it is checked.
  cases found with
  | ready e =>
    obtain ⟨ref, given⟩ := secret?_of_ready (fun s e s' answered => filled s e (congrArg Prod.fst answered))
      (fun order s ref s' answered => named s order ref (congrArg Prod.fst answered)) (Run.of_eval looked)
    refine .of_eval spared_check (run_bindExcept_ok looked) (run_bindExcept_ok looked) ?_
      (continues_of_fetch given (Run.of_eval rfl)) (registered_fetch fetching counting)
    rw [trace_check]
    exact trace_bindExcept_ok looked
  | pending | failed =>
    refine .of_eval spared_check (run_bindExcept_ok looked) (run_bindExcept_ok looked) ?_
      (.withheld Phase.noConfusion) rfl
    rw [trace_check]
    exact trace_bindExcept_ok looked

/-- An API on which every order is done. -/
def generated : (c : Call) → c.Answer
  | .checkOrder .. => .ok (.active "secret")
  | .getPayload .. => .ok ⟨"material"⟩
  | c => c.refused (.transport "down")

/-- Of the calls on a registry in a store, and on that API, every other one fails in a way that may pass. -/
def faltering (s : Store × Nat) (c : Call) : c.Answer × (Store × Nat) :=
  if s.2 % 2 = 0 then (c.refused (.transport "down"), s.1, s.2 + 1)
  else ((s.1.answer generated c).1, (s.1.answer generated c).2, s.2 + 1)

/-- Each call of a read is made twice there, and the entry is promoted on the way. -/
theorem payload_readsAlike_faltering :
    let caller : Caller := ⟨⟨"s", "o"⟩, "c", none⟩
    let k := Action.barbicanKeystore 1
    let s : Store × Nat := (.table true [⟨caller.tenant, "k", "", "order", false⟩], 0)
    let checked := (k.check caller "k").run.run faltering s
    let read := (k.payload caller "k").run.run faltering s
    (∀ s e, (faltering s (.getEntry caller.tenant "k")).1 = .ok e → e.isEmpty = false) ∧
      (∀ s order ref, (faltering s (.checkOrder caller order)).1 = .ok (.active ref) → ref ≠ "") ∧
      (∀ s ref type, (faltering s (.getPayload caller ref type)).2.1 = s.1) ∧
      (∀ s counter, (faltering s (.count counter)).2.1 = s.1) ∧
      checked.1 = .ok .activation ∧ checked.2.2 = 6 ∧
      read.1 = .ok (.active ⟨"material"⟩) ∧ read.2.2 = 8 ∧
      read.2.1.get caller.tenant "k" = .ok ⟨"k", some "secret", some "order"⟩ ∧
      ReadsAlike faltering Prod.fst caller (k.check caller "k").run (k.payload caller "k").run s := by
  intro caller k s checked read
  have filled : ∀ s e, (faltering s (.getEntry caller.tenant "k")).1 = .ok e → e.isEmpty = false := by
    intro s e found
    unfold faltering at found
    split at found
    · cases found
    · exact (Store.live?_of_get found).2.2
  have named : ∀ s order ref, (faltering s (.checkOrder caller order)).1 = .ok (.active ref) → ref ≠ "" := by
    intro s order ref reported
    unfold faltering at reported
    split at reported
    · cases reported
    · cases reported
      decide
  have fetching : ∀ s ref type, (faltering s (.getPayload caller ref type)).2.1 = s.1 := by
    intro s ref type
    unfold faltering
    split <;> rfl
  have counting : ∀ s counter, (faltering s (.count counter)).2.1 = s.1 := by
    intro s counter
    unfold faltering
    split <;> rfl
  exact ⟨filled, named, fetching, counting, by decide +kernel, by decide +kernel, by decide +kernel,
    by decide +kernel, by decide +kernel, payload_readsAlike filled named fetching counting s⟩

end

end Keystore.Networked

end KeyCustody

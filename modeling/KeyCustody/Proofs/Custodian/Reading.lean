import KeyCustody.Proofs.Custodian.Consistency
import KeyCustody.Proofs.Interleaving
import KeyCustody.Proofs.Lifecycle

/-!
# What requests grant about the catalog

A request that reads records writes to each only what it judges of it as it was shown, and that once. A
request that destroys a secret marks its record, and makes no other call on the catalog.
-/

namespace KeyCustody

open Program
open KeyCustody.Action (LeavesCatalog)

namespace Custodian

/-! ## What a reader has seen and written -/

/-- The records of an identifier that a call shows. -/
def shows (id : String) : Event → List Secret
  | ⟨.getRecord _ _, .ok (some s)⟩ => if s.id = id then [s] else []
  | ⟨.listRecords _ _, .ok page⟩ => page.filter (·.id = id)
  | _ => []

/-- The phase that a call writes to the record of an identifier. -/
def writes (id : String) : Event → List PhaseChange
  | ⟨.changeRecord _ id' c, .ok _⟩ => if id' = id then [c] else []
  | _ => []

def shown (id : String) (t : Trace) : List Secret := t.flatMap (shows id)

def written (id : String) (t : Trace) : List PhaseChange := t.flatMap (writes id)

/-- A change is the verdict on a record that has been shown. -/
def Judged (id : String) (past : Trace) (c : PhaseChange) : Prop :=
  ∃ s ∈ shown id past, ∃ observed now,
    (s.assess observed now).changed = true ∧ c = (s.assess observed now).change

/-- A page shows each record once, and a reader writes to a record what it judges of it, once. -/
def reading (caller : Caller) (id : String) : Contract Call Call.Answer where
  relies
    | ⟨.listRecords .., .ok page⟩ => (page.map Secret.id).Nodup
    | _ => True
  grants past
    | ⟨.changeRecord caller' id' c, _⟩ =>
      caller' = caller ∧ (id' = id → written id past = [] ∧ Judged id past c)
    | ⟨.deleteRecord caller' id', _⟩ => caller' = caller ∧ (id' = id → written id past = [])
    | ⟨.getRecord caller' _, _⟩ | ⟨.listRecords caller' _, _⟩ => caller' = caller
    | ⟨.createRecord .., _⟩ => False
    | _ => True

/-- Of the catalog, a destruction only marks its own record, and that once. -/
def removing (caller : Caller) (id : String) : Contract Call Call.Answer where
  relies _ := True
  grants past v := v.call.isOnCatalog = true →
    v.call = .deleteRecord caller id ∧ ∀ v' ∈ past, v'.call.isOnCatalog = false

section
variable {id : String} {past past' t t' : Trace} {v : Event}

@[simp] theorem shown_append : shown id (t ++ t') = shown id t ++ shown id t' := List.flatMap_append

@[simp] theorem written_append : written id (t ++ t') = written id t ++ written id t' :=
  List.flatMap_append

@[simp] theorem shown_singleton : shown id [v] = shows id v := by simp [shown]

@[simp] theorem written_singleton : written id [v] = writes id v := by simp [written]

theorem shows_apart (apart : v.call.isOnCatalog = false) : shows id v = [] ∧ writes id v = [] := by
  obtain ⟨c, x⟩ := v
  cases c with
  | createRecord | getRecord | changeRecord | deleteRecord => cases apart
  | listRecords | totalRecords => cases apart
  | _ => exact ⟨rfl, rfl⟩

/-- By the later moment, no more of an identifier was shown or written. -/
def Same (id : String) (past past' : Trace) : Prop :=
  shown id past' = shown id past ∧ written id past' = written id past

theorem Same.trans {past'' : Trace} (h : Same id past past') (h' : Same id past' past'') :
    Same id past past'' :=
  ⟨h'.1.trans h.1, h'.2.trans h.2⟩

theorem same_apart (apart : ∀ v ∈ t, v.call.isOnCatalog = false) : Same id past (past ++ t) := by
  have quiet : shown id t = [] ∧ written id t = [] :=
    ⟨List.flatMap_eq_nil_iff.2 fun v member => (shows_apart (apart v member)).1,
      List.flatMap_eq_nil_iff.2 fun v member => (shows_apart (apart v member)).2⟩
  rw [Same, shown_append, written_append, quiet.1, quiet.2, List.append_nil, List.append_nil]
  exact ⟨rfl, rfl⟩

end

/-! ## Calls apart from the catalog -/

section
variable {m : Contract Call Call.Answer} {past : Trace}

/-- Calls that are not on the catalog are granted at any time. -/
def Tolerant (m : Contract Call Call.Answer) : Prop :=
  ∀ past v, v.call.isOnCatalog = false → m.grants past v

theorem tolerant_reading (caller : Caller) (id : String) : Tolerant (reading caller id) := by
  rintro past ⟨c, x⟩ apart
  cases c with
  | createRecord | getRecord | changeRecord | deleteRecord => cases apart
  | listRecords | totalRecords => cases apart
  | _ => trivial

theorem tolerant_removing (caller : Caller) (id : String) : Tolerant (removing caller id) :=
  fun _ _ apart on => absurd (apart.symm.trans on) Bool.false_ne_true

theorem heeds_apart {α : Type} {p : Action α} (tolerant : Tolerant m) (apart : LeavesCatalog p) :
    p.Heeds m (fun past' _ => ∃ t, past' = past ++ t ∧ ∀ v ∈ t, v.call.isOnCatalog = false) past := by
  refine (Heeds.of_keeps (I := fun past' => ∃ t, past' = past ++ t ∧
    ∀ v ∈ t, v.call.isOnCatalog = false) apart ⟨[], (List.append_nil past).symm, List.forall_mem_nil _⟩ ?_).mono
      fun _ _ kept => kept.1
  rintro _ c x off ⟨t, rfl, others⟩
  refine ⟨tolerant _ _ off, t ++ [⟨c, x⟩], List.append_assoc .., fun v member => ?_⟩
  obtain earlier | last := List.mem_append.1 member
  · exact others v earlier
  · obtain rfl := List.mem_singleton.1 last
    exact off

/-- A request that is counted grants what it grants uncounted. -/
theorem heeds_counted {α : Type} {k : Keystore Action} {operation : String}
    {request : Action (Except Error α)} (tolerant : Tolerant m)
    (h : request.Heeds m (fun _ _ => True) past) :
    ((Action.custodian k).counted operation request).run.Heeds m (fun _ _ => True) past := by
  have counted : ∀ x : Except Error α, LeavesCatalog (do
      Action.count (.operation operation x.isOk)
      return x : Action (Except Error α)) :=
    fun _ => .bind (.make rfl) fun _ => .pure _
  exact h.bind fun past x _ => (heeds_apart tolerant (counted x)).mono fun _ _ _ => trivial

end

/-! ## Readers -/

section
variable {k : Keystore Action} {caller : Caller} {id : String} {past : Trace} {s : Secret}
  {observed : Option Phase} {now : Time.Instant}

theorem heeds_quiet {α : Type} {p : Action α} (apart : LeavesCatalog p) :
    p.Heeds (reading caller id) (fun past' _ => Same id past past') past :=
  (heeds_apart (tolerant_reading caller id) apart).mono fun _ _ ⟨_, same, others⟩ =>
    same ▸ same_apart others

/-- A reader may write to other records, or has seen this one and not yet written to it. -/
def Ready (id : String) (s : Secret) (past : Trace) : Prop :=
  s.id = id → s ∈ shown id past ∧ written id past = []

theorem Ready.same {past' : Trace} (h : Ready id s past) (same : Same id past past') :
    Ready id s past' := by
  intro own
  rw [same.1, same.2]
  exact h own

theorem heeds_write {v : Verdict}
    (granted : s.id = id → written id past = [] ∧ Judged id past v.change) :
    (Lifecycle.write Action.catalog Action.count caller s v).Heeds (reading caller id)
      (fun past' _ => shown id past' = shown id past ∧ (s.id ≠ id → written id past' = written id past))
      past := by
  have changed : ∀ x : Except Error Unit, shown id (past ++ [⟨.changeRecord caller s.id v.change, x⟩]) =
      shown id past ∧ (s.id ≠ id →
        written id (past ++ [⟨.changeRecord caller s.id v.change, x⟩]) = written id past) := by
    intro x
    rw [shown_append, written_append, shown_singleton, written_singleton]
    refine ⟨List.append_nil _, fun other => ?_⟩
    cases x with
    | ok _ => simp [writes, other]
    | error _ => exact List.append_nil _
  refine Heeds.bind (Q := fun past' _ => shown id past' = shown id past ∧
      (s.id ≠ id → written id past' = written id past))
    (Heeds.ask fun x _ => ⟨⟨rfl, granted⟩, changed x⟩) fun past' x kept => ?_
  cases x with
  | error _ => exact kept
  | ok _ =>
    have counted : LeavesCatalog (do
        Action.count (.transition s.phase v.phase)
        return (.ok (), s.enter v.change) : Action (Except Error Unit × Secret)) :=
      .bind (.make rfl) fun _ => .pure _
    refine (heeds_quiet counted).mono fun _ _ same => ?_
    exact ⟨same.1.trans kept.1, fun other => same.2.trans (kept.2 other)⟩

theorem heeds_settle (ready : Ready id s past) :
    (Lifecycle.settle Action.catalog Action.count caller s (s.assess observed now)).Heeds
      (reading caller id) (fun past' _ => shown id past' = shown id past ∧
        (s.id ≠ id → written id past' = written id past)) past := by
  cases changed : (s.assess observed now).changed with
  | false =>
    rw [Lifecycle.settle_unchanged changed]
    exact ⟨rfl, fun _ => rfl⟩
  | true =>
    have judged : ∀ past', Same id past past' → s.id = id →
        written id past' = [] ∧ Judged id past' (s.assess observed now).change := by
      intro past' same own
      obtain ⟨seen, fresh⟩ := ready.same same own
      exact ⟨fresh, s, seen, observed, now, changed, rfl⟩
    cases failed : (s.assess observed now).generationFailed with
    | false =>
      rw [Lifecycle.settle_changed changed failed]
      exact heeds_write (judged past ⟨rfl, rfl⟩)
    | true =>
      rw [Lifecycle.settle_failed changed failed]
      have deleted : ∀ x : Except Error Secret,
          Same id past (past ++ [⟨.deleteRecord caller s.id, x⟩]) := fun _ =>
        ⟨shown_append.trans (List.append_nil _), written_append.trans (List.append_nil _)⟩
      refine Heeds.bind (Q := fun past' _ => Same id past past')
        (Heeds.ask fun x _ => ⟨⟨rfl, fun own => (ready own).2⟩, deleted x⟩) fun past' x same => ?_
      cases x with
      | error _ => exact ⟨same.1, fun _ => same.2⟩
      | ok _ =>
        have again : s.id = id → written id past' = [] ∧ Judged id past' (s.assess observed now).change :=
          judged past' same
        refine (heeds_write (s := { s with deleted := true }) again).mono fun _ _ kept => ?_
        exact ⟨kept.1.trans same.1, fun other => (kept.2 other).trans same.2⟩

theorem heeds_update (ready : Ready id s past) :
    ((Action.custodian k).update caller s observed).run.Heeds (reading caller id) (fun _ _ => True)
      past := by
  have asked : LeavesCatalog Action.now := .make rfl
  refine (heeds_quiet asked).bind fun past' now same => ?_
  exact (heeds_settle (ready.same same)).bind fun _ _ _ => trivial

theorem heeds_read {id' : String} (apart : Keystore.Apart k) :
    ((Action.custodian k).read caller id').run.Heeds (reading caller id) (fun _ _ => True) [] := by
  have found : ((Action.custodian k).find caller id').run.Heeds (reading caller id)
      (fun past x => ∀ s, x = .ok s → Ready id s past) [] := by
    refine Heeds.bindExcept (Q := fun past x => ∀ s, x = .ok (some s) → Ready id s past)
      (Heeds.ask fun x _ => ⟨rfl, ?_⟩) (fun _ _ _ _ same => by cases same) fun past found ready => ?_
    · rintro s rfl own
      exact ⟨by simp [shows, own], rfl⟩
    · cases found with
      | none => exact fun _ same => by cases same
      | some s =>
        rintro _ ⟨⟩
        exact ready s rfl
  refine found.bindExcept (fun _ _ _ => trivial) fun past s ready => ?_
  have ready : Ready id s past := ready s rfl
  by_cases destroyed : s.phase = .destroyed
  · rw [if_pos destroyed]
    trivial
  rw [if_neg destroyed]
  by_cases deleted : s.deleted = true
  · rw [if_pos deleted]
    exact heeds_update ready
  rw [if_neg deleted]
  refine (heeds_quiet (apart.payload caller id')).bindExcept (fun _ _ _ => trivial) fun past' o same => ?_
  exact (heeds_update (ready.same same)).bindExcept (fun _ _ _ => trivial) fun _ _ _ => trivial

/-- Verdicts on the records of a page, one a record. -/
theorem heeds_settleAll {pairs : List (Secret × Option Phase)} (once : (pairs.map fun p => p.1.id).Nodup)
    (ready : ∀ p ∈ pairs, Ready id p.1 past) :
    Heeds (reading caller id) (fun _ _ => True) past (pairs.mapM fun p =>
      return (← Lifecycle.settle Action.catalog Action.count caller p.1 (p.1.assess p.2 now)).2 :
      Action (List Secret)) := by
  induction pairs generalizing past with
  | nil => trivial
  | cons p pairs ih =>
    obtain ⟨mine, others⟩ := List.forall_mem_cons.1 ready
    obtain ⟨fresh, once⟩ := List.nodup_cons.1 once
    rw [List.mapM_cons]
    refine Heeds.bind (Q := fun past' _ => shown id past' = shown id past ∧
        (p.1.id ≠ id → written id past' = written id past))
      ((heeds_settle mine).bind fun _ _ kept => kept) fun past' _ kept => ?_
    refine (ih once fun p' member own => ?_).bind fun _ _ _ => trivial
    have other : p.1.id ≠ id := fun same =>
      fresh (List.mem_map.2 ⟨p', member, own.trans same.symm⟩)
    rw [kept.1, kept.2 other]
    exact others p' member own

theorem heeds_readPage {q : Catalog.Query} (apart : Keystore.Apart k) :
    ((Action.custodian k).readPage caller q).run.Heeds (reading caller id) (fun _ _ => True) [] := by
  have checked : (liftM q.validate : ExceptT Error Action Unit).run.Heeds (reading caller id)
      (fun past _ => past = []) [] := rfl
  refine checked.bindExcept (fun _ _ _ => trivial) fun past _ start => ?_
  subst start
  have listed : (Action.catalog.list caller q).run.Heeds (reading caller id)
      (fun past x => ∀ page, x = .ok page → (page.map Secret.id).Nodup ∧ ∀ s ∈ page, Ready id s past)
      [] := by
    refine Heeds.ask fun x relied => ⟨rfl, ?_⟩
    rintro page rfl
    refine ⟨relied, fun s member own => ⟨?_, rfl⟩⟩
    simpa [shows] using ⟨member, own⟩
  refine listed.bindExcept (fun _ _ _ => trivial) fun past page shown => ?_
  obtain ⟨once, ready⟩ := shown page rfl
  have asked : LeavesCatalog (ExceptT.lift Action.now : ExceptT Error Action Time.Instant).run :=
    .bind (.make rfl) fun _ => .pure _
  refine (heeds_quiet asked).bindExcept (fun _ _ _ => trivial) fun past₁ now same₁ => ?_
  refine Heeds.bindExcept (Q := fun _ _ => True) ?_ (fun _ _ _ => trivial) fun _ _ _ => trivial
  refine Heeds.bind (Q := fun _ _ => True) ?_ fun _ _ _ => trivial
  unfold Lifecycle.settlePage
  refine (heeds_quiet (keeps_observe (apart.check caller) _)).bind fun past₂ observed same₂ => ?_
  refine heeds_settleAll (nodup_zip once) fun p member => ?_
  exact (ready p.1 (List.of_mem_zip member).1).same (same₁.trans same₂)

/-- A request that reads records and brings them up to date. -/
inductive Request.Reads (caller : Caller) : Request → Prop
  | fetch (id : String) : Reads caller (.fetch caller id)
  | list (q : Catalog.Query) : Reads caller (.list caller q)

theorem heeds_perform {q : Request} (apart : Keystore.Apart k) (reads : q.Reads caller) :
    ((Action.custodian k).perform q).Heeds (reading caller id) (fun _ _ => True) [] := by
  cases reads with
  | fetch =>
    exact (heeds_counted (tolerant_reading caller id) (heeds_read apart)).bind fun _ _ _ => trivial
  | list =>
    exact (heeds_counted (tolerant_reading caller id) (heeds_readPage apart)).bind fun _ _ _ => trivial

theorem heeds_destroy {whole : Bool} (apart : Keystore.Apart k) :
    ((Action.custodian k).perform (.destroy caller id whole)).Heeds (removing caller id)
      (fun _ _ => True) [] := by
  have quiet : ∀ {α : Type} {p : Action α} {past : Trace}, LeavesCatalog p →
      (∀ v ∈ past, v.call.isOnCatalog = false) → p.Heeds (removing caller id)
        (fun past' _ => ∀ v ∈ past', v.call.isOnCatalog = false) past := by
    refine fun apart before => (heeds_apart (tolerant_removing caller id) apart).mono ?_
    rintro _ _ ⟨t, rfl, after⟩
    exact List.forall_mem_append.2 ⟨before, after⟩
  refine (heeds_counted (tolerant_removing caller id) ?_).bind fun _ _ _ => trivial
  refine Heeds.bind (Q := fun _ _ => True) ?_ fun _ _ _ => trivial
  unfold remove
  refine (quiet (keeps_observeLast (apart.payload caller id) _) (List.forall_mem_nil _)).bind fun past x before => ?_
  cases x with
  | error _ => trivial
  | ok _ =>
    refine (quiet (apart.delete caller id _) before).bind fun past x before => ?_
    obtain ⟨x, ledger⟩ := x
    cases x with
    | error _ => trivial
    | ok _ =>
      refine Heeds.bind (Q := fun _ _ => True) (Heeds.ask fun x _ => ⟨?_, trivial⟩) fun _ _ _ => ?_
      · exact fun _ => ⟨rfl, before⟩
      · trivial

end

end Custodian

end KeyCustody

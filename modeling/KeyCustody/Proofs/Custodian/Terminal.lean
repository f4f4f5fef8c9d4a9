import KeyCustody.Proofs.Custodian.Reading
import KeyCustody.Proofs.Engine

/-!
# Reading a secret that is being destroyed

A reader takes a record from the catalog, asks the keystore, and only then writes its verdict. If the
record is marked as destroyed in between, the verdict is written over the mark, but for the flag that it
is deleted. Nothing else ever takes the mark back: not a verdict that was written before, nor one on a
record that was read after.
-/

namespace KeyCustody

open Program

namespace Custodian

/-! ## A record that is marked -/

/-- The call with which a destruction marks the record of an identifier. -/
def marks (tenant : Tenant) (id : String) : Side × Event → Bool
  | (.right, ⟨.deleteRecord caller id', .ok _⟩) => caller.tenant = tenant && id' = id
  | _ => false

/-- A record that has been marked, by when the reader had made the calls `before`, and now those `since`
as well: it stays deleted, and destroyed but for a verdict on what the reader had seen before. -/
structure Marked (tenant : Tenant) (id : String) (before since : Trace) (r : Catalog.Records) : Prop where
  record : ∃ s, r.lookup (tenant, id) = some s ∧ s.deleted = true ∧
    (written id since = [] ∧ s.phase = .destroyed ∨
      ∃ c, written id since = [c] ∧ s.phase = c.phase ∧ s.reason = c.reason ∧ Judged id before c)
  seen : written id since = [] → ∀ s ∈ shown id since, s.phase = .destroyed

section
variable {f : Fault} {r r' : Catalog.Records} {caller : Caller} {id : String} {before since : Trace}

/-- A call that changes nothing about the record leaves it marked. -/
theorem Marked.same {v : Event} (h : Marked caller.tenant id before since r)
    (kept : r'.lookup (caller.tenant, id) = r.lookup (caller.tenant, id)) (unwritten : writes id v = [])
    (seen : written id since = [] → ∀ s ∈ shows id v, s.phase = .destroyed) :
    Marked caller.tenant id before (since ++ [v]) r' := by
  have still : written id (since ++ [v]) = written id since := by
    rw [written_append, written_singleton, unwritten, List.append_nil]
  refine ⟨?_, fun fresh s member => ?_⟩
  · rw [still, kept]
    exact h.record
  · rw [still] at fresh
    rw [shown_append, shown_singleton] at member
    obtain earlier | last := List.mem_append.1 member
    · exact h.seen fresh s earlier
    · exact seen fresh s last

theorem assess_destroyed {s : Secret} {observed : Option Phase} {now : Time.Instant}
    (destroyed : s.phase = .destroyed) : (s.assess observed now).changed = false := by
  rw [Secret.finding_iff.1 (.final destroyed)]
  rfl

/-- What is judged of a record that is shown destroyed was shown before. -/
theorem Judged.earlier {c : PhaseChange} (h : Judged id (before ++ since) c)
    (destroyed : ∀ s ∈ shown id since, s.phase = .destroyed) : Judged id before c := by
  obtain ⟨s, member, observed, now, changed, same⟩ := h
  rw [shown_append] at member
  obtain earlier | later := List.mem_append.1 member
  · exact ⟨s, earlier, observed, now, changed, same⟩
  · rw [assess_destroyed (destroyed s later)] at changed
    cases changed

theorem Marked.standing (h : Marked caller.tenant id before since r) :
    ∃ s, r.lookup (caller.tenant, id) = some s ∧ s.deleted = true ∧
      (written id since = [] → s.phase = .destroyed) := by
  obtain ⟨s, found, gone, ⟨-, destroyed⟩ | ⟨c, one, -⟩⟩ := h.record
  · exact ⟨s, found, gone, fun _ => destroyed⟩
  · refine ⟨s, found, gone, fun none => ?_⟩
    rw [none] at one
    cases one

/-- Looking up a record that is marked shows it destroyed, until a verdict is written to it. -/
theorem Marked.get {id' : String} {x : Except Error (Option Secret)} (filed : r.Filed)
    (h : Marked caller.tenant id before since r)
    (answered : Fault.clean.Admits (.ok (r.get caller.tenant id'), r) r x r') :
    Marked caller.tenant id before (since ++ [⟨.getRecord caller id', x⟩]) r' := by
  obtain ⟨s, found, -, standing⟩ := h.standing
  obtain ⟨rfl, looked⟩ := answered.lookup
  refine h.same rfl rfl fun fresh s' member => ?_
  obtain rfl | ⟨_, rfl⟩ := looked
  · cases got : r'.lookup (caller.tenant, id') with
    | none => simp [Catalog.Records.get, got, shows] at member
    | some s₁ =>
      by_cases own : s₁.id = id
      · obtain rfl : s' = s₁ := by simpa [Catalog.Records.get, got, shows, own] using member
        obtain rfl : id = id' := own.symm.trans (filed.of_lookup got)
        obtain rfl := Option.some.inj (found.symm.trans got)
        exact standing fresh
      · simp [Catalog.Records.get, got, shows, own] at member
  · cases member

/-- Pages do not show a record that is marked. -/
theorem Marked.list {q : Catalog.Query} {x : Except Error (List Secret)} (filed : r.Filed)
    (h : Marked caller.tenant id before since r)
    (answered : Fault.clean.Admits (.ok (r.list caller.tenant q), r) r x r') :
    Marked caller.tenant id before (since ++ [⟨.listRecords caller q, x⟩]) r' := by
  obtain ⟨s, found, gone, -⟩ := h.standing
  obtain ⟨rfl, looked⟩ := answered.lookup
  refine h.same rfl rfl fun _ s' member => ?_
  obtain rfl | ⟨_, rfl⟩ := looked
  · obtain ⟨paged, own⟩ := List.mem_filter.1 member
    obtain ⟨current, live⟩ := (filed.list caller.tenant q).1 s' paged
    obtain rfl : s'.id = id := of_decide_eq_true own
    obtain rfl := Option.some.inj (found.symm.trans current)
    exact absurd (live.symm.trans gone) Bool.false_ne_true
  · cases member

/-- A verdict that is written to a record that is marked is on what was seen of it before. -/
theorem Marked.change {id' : String} {c : PhaseChange} {x : Except Error Unit}
    (h : Marked caller.tenant id before since r)
    (answered : Fault.clean.Admits (r.change caller.tenant id' c) r x r')
    (granted : id' = id → written id (before ++ since) = [] ∧ Judged id (before ++ since) c) :
    Marked caller.tenant id before (since ++ [⟨.changeRecord caller id' c, x⟩]) r' := by
  by_cases own : id' = id
  · subst own
    obtain ⟨s, found, gone, -⟩ := h.standing
    obtain ⟨fresh, judged⟩ := granted rfl
    rw [written_append, List.append_eq_nil_iff] at fresh
    have stale := judged.earlier (h.seen fresh.2)
    unfold Catalog.Records.change at answered
    rw [found] at answered
    cases x with
    | error _ =>
      obtain rfl := answered.error fun _ failed => by cases failed
      exact h.same rfl rfl fun _ => List.forall_mem_nil _
    | ok _ =>
      obtain rfl := congrArg Prod.snd answered.ok
      have one : written id' (since ++ [⟨.changeRecord caller id' c, .ok ()⟩]) = [c] := by
        rw [written_append, fresh.2, List.nil_append, written_singleton]
        exact if_pos rfl
      refine ⟨⟨s.enter c, Keyed.lookup_put_self, gone, .inr ⟨c, one, rfl, rfl, stale⟩⟩, fun none => ?_⟩
      rw [one] at none
      cases none
  · have unwritten : writes id ⟨.changeRecord caller id' c, x⟩ = [] := by
      cases x with
      | ok _ => exact if_neg own
      | error _ => rfl
    refine h.same ?_ unwritten fun _ => List.forall_mem_nil _
    obtain rfl | rfl := answered.state
    · rfl
    · exact Catalog.Records.lookup_change_other fun same => own same.symm

/-- Marking a record again leaves it marked, if no verdict has been written to it. -/
theorem Marked.delete {id' : String} {x : Except Error Secret}
    (h : Marked caller.tenant id before since r)
    (answered : Fault.clean.Admits (r.delete caller.tenant id') r x r')
    (granted : id' = id → written id (before ++ since) = []) :
    Marked caller.tenant id before (since ++ [⟨.deleteRecord caller id', x⟩]) r' := by
  by_cases own : id' = id
  · subst own
    obtain ⟨s, found, gone, standing⟩ := h.standing
    have fresh := granted rfl
    rw [written_append, List.append_eq_nil_iff] at fresh
    refine h.same ?_ rfl fun _ => List.forall_mem_nil _
    obtain rfl | rfl := answered.state
    · rfl
    · have already : { s with deleted := true, phase := .destroyed } = s := by
        rw [← gone, ← standing fresh.2]
      unfold Catalog.Records.delete
      rw [found]
      exact Keyed.lookup_put_self.trans (congrArg some already)
  · refine h.same ?_ rfl fun _ => List.forall_mem_nil _
    obtain rfl | rfl := answered.state
    · rfl
    · exact Catalog.Records.lookup_delete_other fun same => own same.symm

/-- A record that is marked stays so, whatever the reader calls. -/
theorem Marked.reader {c : Call} {x : c.Answer} (filed : r.Filed)
    (h : Marked caller.tenant id before since r)
    (answered : Catalog.Records.world .clean c r x r')
    (granted : (reading caller id).grants (before ++ since) ⟨c, x⟩) :
    Marked caller.tenant id before (since ++ [⟨c, x⟩]) r' := by
  cases c with
  | getRecord caller' id' =>
    obtain rfl : caller' = caller := granted
    exact h.get filed answered
  | listRecords caller' q =>
    obtain rfl : caller' = caller := granted
    exact h.list filed answered
  | changeRecord caller' id' c =>
    obtain ⟨rfl, granted⟩ := granted
    exact h.change answered granted
  | deleteRecord caller' id' =>
    obtain ⟨rfl, granted⟩ := granted
    exact h.delete answered granted
  | createRecord => exact granted.elim
  | totalRecords caller' q =>
    have admitted : Fault.clean.Admits (.ok (r.total caller'.tenant), r) r x r' := answered
    obtain ⟨rfl, -⟩ := admitted.lookup
    exact h.same rfl rfl fun _ => List.forall_mem_nil _
  | _ =>
    obtain rfl := world_eq rfl answered
    exact h.same rfl rfl fun _ => List.forall_mem_nil _

/-- What marks a record leaves it marked. -/
theorem marked_now {v : Event} (marked : marks caller.tenant id (.right, v) = true)
    (answered : Catalog.Records.world .clean v.call r v.answer r') :
    Marked caller.tenant id before [] r' := by
  obtain ⟨c, x⟩ := v
  cases c with
  | deleteRecord caller' id' =>
    cases x with
    | error _ => cases marked
    | ok gone =>
      obtain ⟨same, rfl⟩ : caller'.tenant = caller.tenant ∧ id' = id := by simpa [marks] using marked
      have admitted : Fault.clean.Admits (r.delete caller'.tenant id') r (.ok gone) r' := answered
      have done := admitted.ok
      unfold Catalog.Records.delete at done
      rw [same] at done
      cases found : r.lookup (caller.tenant, id') with
      | none => rw [found] at done; cases done
      | some s =>
        rw [found] at done
        obtain ⟨-, rfl⟩ := Prod.mk.inj done
        exact ⟨⟨_, Keyed.lookup_put_self, rfl, .inl ⟨rfl, rfl⟩⟩, fun _ => List.forall_mem_nil _⟩
  | _ => cases marked

/-- A call that marks is the only one that the destruction makes on the catalog. -/
theorem isOnCatalog_of_marks {v : Side × Event} {tenant : Tenant} (marked : marks tenant id v = true) :
    v.1 = .right ∧ v.2.call.isOnCatalog = true := by
  obtain ⟨side, c, x⟩ := v
  cases side with
  | left => cases marked
  | right =>
    cases c with
    | deleteRecord => exact ⟨rfl, rfl⟩
    | _ => cases marked

end

/-! ## Interleavings -/

section
variable {k : Keystore Action} {tries : Nat} {caller caller' : Caller} {id : String} {whole : Bool}
  {q : Request} {r r' : Catalog.Records} {t₁ t₂ : List (Side × Event)} {v : Side × Event}
  {p p' : Action (Except Error Reply)}

/-- Where the last call is in a list that a call splits. -/
theorem split_last {ι : Type} {past t₁ t₂ : List ι} {u v : ι} (h : past ++ [u] = t₁ ++ v :: t₂) :
    t₂ = [] ∧ v = u ∧ past = t₁ ∨ ∃ t, t₂ = t ++ [u] ∧ past = t₁ ++ v :: t := by
  obtain rfl | ⟨t, last, rfl⟩ := List.eq_nil_or_concat t₂
  · obtain ⟨rfl, same⟩ := List.append_inj' h rfl
    exact .inl ⟨rfl, (List.singleton_inj.1 same).symm, rfl⟩
  · rw [List.concat_eq_append, ← List.cons_append, ← List.append_assoc] at h
    obtain ⟨rfl, same⟩ := List.append_inj' h rfl
    obtain rfl := List.singleton_inj.1 same
    exact .inr ⟨t, List.concat_eq_append .., rfl⟩

/-- Records are filed, and one that was marked by any earlier call is marked still. -/
def Holding (tenant : Tenant) (id : String) (past : List (Side × Event)) (r : Catalog.Records) : Prop :=
  r.Filed ∧ ∀ t₁ v t₂, past = t₁ ++ v :: t₂ → marks tenant id v = true →
    Marked tenant id (part .left t₁) (part .left t₂) r

theorem holding_reader (past : List (Side × Event)) (r : Catalog.Records) (c : Call) (x : c.Answer)
    (r' : Catalog.Records) (h : Holding caller.tenant id past r)
    (answered : Catalog.Records.world .clean c r x r') :
    (reading caller id).relies ⟨c, x⟩ ∧ ((reading caller id).grants (part .left past) ⟨c, x⟩ →
      Holding caller.tenant id (past ++ [(.left, ⟨c, x⟩)]) r') := by
  obtain ⟨filed, marked⟩ := h
  constructor
  · cases c with
    | listRecords caller' q =>
      have admitted : Fault.clean.Admits (.ok (r.list caller'.tenant q), r) r x r' := answered
      obtain ⟨-, rfl | ⟨_, rfl⟩⟩ := admitted.lookup
      · exact (filed.list caller'.tenant q).2
      · trivial
    | _ => trivial
  · refine fun granted => ⟨filed.after answered, fun t₁ v t₂ split mark => ?_⟩
    obtain ⟨-, rfl, -⟩ | ⟨t, rfl, rfl⟩ := split_last split
    · cases (isOnCatalog_of_marks mark).1
    · rw [part_append, part_own]
      obtain ⟨side, event⟩ := v
      obtain rfl : side = .right := (isOnCatalog_of_marks mark).1
      refine (marked t₁ _ t rfl mark).reader filed answered ?_
      have own : part .left (t₁ ++ (.right, event) :: t) = part .left t₁ ++ part .left t := part_append
      rwa [own] at granted

theorem holding_destruction (past : List (Side × Event)) (r : Catalog.Records) (c : Call) (x : c.Answer)
    (r' : Catalog.Records) (h : Holding caller.tenant id past r)
    (answered : Catalog.Records.world .clean c r x r') :
    (removing caller' id).relies ⟨c, x⟩ ∧ ((removing caller' id).grants (part .right past) ⟨c, x⟩ →
      Holding caller.tenant id (past ++ [(.right, ⟨c, x⟩)]) r') := by
  obtain ⟨filed, marked⟩ := h
  refine ⟨trivial, fun granted => ⟨filed.after answered, fun t₁ v t₂ split mark => ?_⟩⟩
  obtain ⟨rfl, rfl, rfl⟩ | ⟨t, rfl, rfl⟩ := split_last split
  · exact marked_now mark answered
  · obtain ⟨side, event⟩ := v
    obtain ⟨rfl, on⟩ := isOnCatalog_of_marks mark
    have off : c.isOnCatalog = false := by
      refine Bool.eq_false_iff.2 fun also => ?_
      have first : event.call.isOnCatalog = false :=
        (granted also).2 event (mem_part.2 (List.mem_append_right _ List.mem_cons_self))
      exact Bool.false_ne_true (first.symm.trans on)
    obtain rfl := world_eq off answered
    rw [part_append, part_left_right, List.append_nil]
    exact marked t₁ _ t rfl mark

/-- A request that reads a secret, or a page of them, by turns with one that destroys it, over either
keystore, whatever its store or its API answers. At every moment after the record is marked it is still
deleted. It is destroyed as well, unless the reader has since written to it, once: its verdict on the
record as it had seen it before. -/
theorem destroyed_but_for_stale_verdict
    (either : k = Action.memoryKeystore tries ∨ k = Action.barbicanKeystore tries)
    (reads : q.Reads caller) (filed : r.Filed)
    (marked : marks caller.tenant id v = true)
    (h : Interleaved (Catalog.Records.world .clean) ((Action.custodian k).perform q)
      ((Action.custodian k).perform (.destroy caller' id whole)) r (t₁ ++ v :: t₂) p p' r') :
    ∃ s, r'.lookup (caller.tenant, id) = some s ∧ s.deleted = true ∧
      (written id (part .left t₂) = [] ∧ s.phase = .destroyed ∨
        ∃ c, written id (part .left t₂) = [c] ∧ s.phase = c.phase ∧ s.reason = c.reason ∧
          ∃ seen ∈ shown id (part .left t₁), ∃ observed now,
            (seen.assess observed now).changed = true ∧ c = (seen.assess observed now).change) := by
  have apart : Keystore.Apart k := by
    obtain rfl | rfl := either
    · exact Keystore.apart_memoryKeystore tries
    · exact Keystore.apart_barbicanKeystore tries
  have start : Holding caller.tenant id [] r := by
    refine ⟨filed, fun t₁ v t₂ split => ?_⟩
    cases t₁ <;> cases split
  have holding : Holding caller.tenant id ([] ++ (t₁ ++ v :: t₂)) r' :=
    h.invariant holding_reader holding_destruction (heeds_perform apart reads) (heeds_destroy apart) start
  exact (holding.2 t₁ v t₂ rfl marked).record

/-- A secret that has expired is fetched; it is destroyed after its record was read, and before the
verdict on it is written. -/
theorem stale_verdict_replaces_destroyed :
    let caller : Caller := ⟨⟨"s", "o"⟩, "c", none⟩
    let secret : Secret :=
      { Secret.named "key" with payload := some ⟨"material"⟩, expiration := some ⟨0, 0⟩ }
    let custodian := Action.custodian (Action.memoryKeystore 1)
    let e := ((custodian.perform (.create caller secret false)).run Supply.counting.answer {}).2
    let schedule := List.replicate 4 Side.left ++ List.replicate 5 Side.right ++ [Side.left]
    let moment (turns : Nat) := interleave Supply.counting.answer (schedule.take turns)
      (custodian.perform (.fetch caller "k")) (custodian.perform (.destroy caller "k" false)) e
    let phase (turns : Nat) := ((moment turns).2.2.2.records.lookup (caller.tenant, "k")).map Secret.phase
    ((moment 8).1[7]?).any (marks caller.tenant "k") = true ∧
      phase 8 = some .destroyed ∧ phase 9 = some .destroyed ∧ phase 10 = some .deactivated := by
  decide +kernel

/-- The verdict that replaces the mark then is the one on the record as it was read before. -/
theorem destroyed_but_for_stale_verdict_of_expired :
    let caller : Caller := ⟨⟨"s", "o"⟩, "c", none⟩
    let secret : Secret :=
      { Secret.named "key" with payload := some ⟨"material"⟩, expiration := some ⟨0, 0⟩ }
    let custodian := Action.custodian (Action.memoryKeystore 1)
    let e := ((custodian.perform (.create caller secret false)).run Supply.counting.answer {}).2
    let ended := interleave Supply.counting.answer
      (List.replicate 4 Side.left ++ List.replicate 5 Side.right ++ [Side.left])
      (custodian.perform (.fetch caller "k")) (custodian.perform (.destroy caller "k" false)) e
    let t := ended.1
    (t[7]?).any (marks caller.tenant "k") = true ∧
      ∃ s, ended.2.2.2.records.lookup (caller.tenant, "k") = some s ∧ s.deleted = true ∧
        ∃ c, written "k" (part .left (t.drop 8)) = [c] ∧ s.phase = c.phase ∧
          ∃ seen ∈ shown "k" (part .left (t.take 7)), ∃ observed now,
            c = (seen.assess observed now).change := by
  intro caller secret custodian e ended t
  have marked : (t[7]?).any (marks caller.tenant "k") = true := by decide +kernel
  have filed : e.records.Filed := ⟨by decide +kernel, by decide +kernel⟩
  have wrote : written "k" (part .left (t.drop 8)) ≠ [] := by decide +kernel
  have h : Interleaved (Catalog.Records.world .clean) (custodian.perform (.fetch caller "k"))
      (custodian.perform (.destroy caller "k" false)) e.records t ended.2.1 ended.2.2.1
      ended.2.2.2.records := by
    have shown : ∀ e c, Catalog.Records.world .clean c e.records (Supply.counting.answer e c).1
        (Supply.counting.answer e c).2.records := Supply.counting.world_records
    dsimp only [t, ended]
    exact (Interleaved.of_schedule (w := fun c e x e' =>
      Catalog.Records.world .clean c e.records x e'.records) shown _ _ _ e).map Engine.records
        fun _ _ _ _ admitted => admitted
  clear_value t ended e
  refine ⟨marked, ?_⟩
  obtain ⟨v, placed, marked⟩ := (Option.any_eq_true _ _).1 marked
  obtain ⟨within, rfl⟩ := List.getElem?_eq_some_iff.1 placed
  have split : t = t.take 7 ++ t[7] :: t.drop 8 := by
    rw [List.getElem_cons_drop, List.take_append_drop]
  rw [split] at h
  obtain ⟨s, found, gone, ⟨unwritten, -⟩ | ⟨c, one, phase, -, seen, member, observed, now, -, same⟩⟩ :=
    destroyed_but_for_stale_verdict (.inl rfl) (.fetch "k") filed marked h
  · exact absurd unwritten wrote
  · exact ⟨s, found, gone, c, one, phase, seen, member, observed, now, same⟩

end

end Custodian

end KeyCustody

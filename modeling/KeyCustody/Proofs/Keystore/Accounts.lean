import KeyCustody.Proofs.Keystore.Counting

/-!
# What keystores account for

What has been counted of retry loops and of orders by the end of a look, of a creation or of a deletion is what
the other calls show.
-/

namespace KeyCustody.Keystore

open Program
open Registry (Entry)
open Settings (KeystoreKind)

variable {kind : KeystoreKind} {operation : String} {r : Rows} {a : Abandoned} {v : Event} {t t' : Trace}

/-- What is counted of retry loops and orders is what the other calls show. -/
structure Accounted (kind : KeystoreKind) (t : Trace) : Prop where
  retries : ∀ operation, (counts t).count (.retriesExhausted operation) = exhaustions kind operation t
  orders : (counts t).count .orphanedOrder = abandonments t + (leavesOrder t).toNat

/-- Where few attempts are in vain, no row is as long as a retry loop. -/
theorem Rows.foldl_few
    (few : r.length + t.countP (fun v => vain? kind v = some operation) < Retry.limit) :
    (t.foldl (Rows.after kind operation) r).full = r.full := by
  induction t generalizing r with
  | nil => rfl
  | cons v t ih =>
    rw [List.countP_cons] at few
    rw [List.foldl_cons, Rows.after]
    by_cases counted : v.counter?.isSome = true
    · rw [if_pos counted]
      exact ih (by omega)
    · rw [if_neg counted]
      by_cases tried : vain? kind v = some operation
      · rw [if_pos (decide_eq_true tried)] at few
        rw [if_pos tried, Rows.longer, if_neg (by omega)]
        exact ih (r := ⟨r.length + 1, r.full⟩) (by simp only; omega)
      · rw [if_neg tried]
        exact ih (r := ⟨0, r.full⟩) (by simp only; omega)

theorem clearing_append (orders : ∀ v ∈ t', v.call.dropsOrder = false) : clearing (t ++ t') = clearing t := by
  have none : ∀ u : Trace, u <:+ t' → u.filter (·.call.dropsOrder) = [] := fun u part =>
    List.filter_eq_nil_iff.2 fun v member => by simp [orders v (part.subset member)]
  unfold clearing
  rw [List.dropWhile_append]
  split
  · rename_i empty
    rw [List.isEmpty_iff.1 empty, none _ (List.dropWhile_suffix _)]
    rfl
  · rw [List.filter_append, none t' List.suffix_rfl, List.append_nil]

theorem clearing_kept (kept : ∀ v ∈ t, v.givesUp = false) : clearing (t ++ t') = clearing t' := by
  unfold clearing
  rw [List.dropWhile_append_of_pos fun v member => by simp [kept v member]]

theorem Even.accounted_few (h : Even kind t)
    (few : ∀ operation, slack operation + t'.countP (fun v => vain? kind v = some operation) < Retry.limit)
    (orders : ∀ v ∈ t', v.call.dropsOrder = false) (uncounted : ∀ c ∈ counts t', c.isKeystore = false) :
    Accounted kind (t ++ t') where
  retries operation := by
    obtain ⟨short, full⟩ := h.rows operation ⟨0, 0⟩ (Nat.zero_le _)
    have same := (Rows.foldl_few ((Nat.add_le_add_right short _).trans_lt (few operation))).trans full
    rw [← List.foldl_append] at same
    rw [counts_append, List.count_append, count_eq_zero uncounted rfl]
    exact (same.trans (Nat.zero_add _)).symm
  orders := by
    have same := (Abandoned.foldl_kept orders).trans (h.orders ⟨false, 0⟩)
    rw [← List.foldl_append] at same
    have cleared : clearing (t ++ t') = [] := by
      rw [clearing_append orders, ← List.append_nil t, clearing_kept h.kept]
      rfl
    have settled : leavesOrder (t ++ t') = false := by
      rw [leavesOrder, cleared]
      rfl
    rw [settled, counts_append, List.count_append, count_eq_zero uncounted rfl]
    exact (same.trans (Nat.zero_add _)).symm

theorem Accounted.append (h : Accounted kind t) (uneventful : ∀ v ∈ t', Uneventful kind v) :
    Accounted kind (t ++ t') where
  retries operation := by
    have same : exhaustions kind operation (t ++ t') = exhaustions kind operation t := by
      unfold exhaustions
      rw [List.foldl_append]
      exact (Rows.foldl_apart fun v member => (uneventful v member).well ▸ nofun).2
    rw [same, ← h.retries, counts_append, List.count_append,
      count_eq_zero (uncounted_of_uneventful uneventful) rfl, Nat.add_zero]
  orders := by
    have orders : ∀ v ∈ t', v.call.dropsOrder = false := fun v member => (uneventful v member).order
    have same : abandonments (t ++ t') = abandonments t := by
      unfold abandonments
      rw [List.foldl_append]
      exact Abandoned.foldl_kept orders
    have cleared : leavesOrder (t ++ t') = leavesOrder t := by
      rw [leavesOrder, leavesOrder, clearing_append orders]
    rw [same, cleared, ← h.orders, counts_append, List.count_append,
      count_eq_zero (uncounted_of_uneventful uneventful) rfl, Nat.add_zero]

theorem Even.accounted (h : Even kind t) : Accounted kind t := by
  rw [← List.append_nil t]
  exact h.accounted_few (fun _ => Nat.lt_of_le_of_lt (slack_le _) (by decide)) (List.forall_mem_nil _)
    (List.forall_mem_nil _)

/-! ## Deletions -/

section
variable {caller : Caller} {id : String} {e e' : Entry} {x : Except Error Unit} {u : Trace}

/-- Orders that are deleted are not abandoned where no update has failed before. -/
theorem Abandoned.foldl_fresh (fresh : a.stale = false)
    (orders : ∀ v ∈ t, v.call.dropsOrder = true ∨ v.counter?.isSome = true) :
    (t.foldl Abandoned.after a).orders = a.orders := by
  induction t generalizing a with
  | nil => rfl
  | cons v t ih =>
    obtain ⟨first, others⟩ := List.forall_mem_cons.1 orders
    have step : (a.after v).stale = false ∧ (a.after v).orders = a.orders := by
      obtain ⟨call, x⟩ := v
      cases call with
      | count => exact ⟨fresh, rfl⟩
      | deleteOrder =>
        simp only [Abandoned.after, fresh, Bool.false_and, Bool.false_eq_true, if_false]
        exact ⟨trivial, trivial⟩
      | _ => exact first.elim nofun nofun
    exact (ih step.1 others).trans step.2

theorem filter_tries {order : String}
    (tried : Retry.Tries (⟨.deleteOrder caller order, ·⟩) (.retriesExhausted "delete_order") Retry.limit t x) :
    ∃ failed : List Error, t.filter (·.call.dropsOrder) =
      (failed.map fun e => (⟨.deleteOrder caller order, .error e⟩ : Event)) ++ [⟨.deleteOrder caller order, x⟩] := by
  have attempts : ∀ failed : List Error,
      (failed.map fun e => (⟨.deleteOrder caller order, .error e⟩ : Event)).filter (·.call.dropsOrder) =
        failed.map fun e => ⟨.deleteOrder caller order, .error e⟩ :=
    fun failed => List.filter_eq_self.2 (List.forall_mem_map.2 fun _ _ => rfl)
  cases tried with
  | @decided failed =>
    refine ⟨failed, ?_⟩
    rw [List.filter_append, attempts]
    rfl
  | @exhausted failed =>
    refine ⟨failed, ?_⟩
    rw [List.filter_append, attempts]
    rfl

section
variable {order : String} (even : Even .barbican t)
  (tried : Retry.Tries (⟨.deleteOrder caller order, ·⟩) (.retriesExhausted "delete_order") Retry.limit u x)
include even tried

/-- An order is left behind if the loop that is to delete it fails. -/
theorem leavesOrder_cleared :
    leavesOrder (t ++ ⟨.deleteEntry caller.tenant id, .ok ()⟩ :: (u ++ Networked.orphaning x)) = !x.isOk := by
  obtain ⟨failed, attempts⟩ := filter_tries tried
  have counted : ∀ v ∈ Networked.orphaning x, v.call.dropsOrder = false := fun v member => by
    rw [Networked.mem_orphaning v member]
    rfl
  have cleared : clearing (t ++ ⟨.deleteEntry caller.tenant id, .ok ()⟩ :: (u ++ Networked.orphaning x)) =
      u.filter (·.call.dropsOrder) := by
    rw [clearing_kept even.kept, ← List.cons_append, clearing_append counted]
    rfl
  rw [leavesOrder, cleared, attempts]
  have vain : (failed.map fun e => (⟨.deleteOrder caller order, .error e⟩ : Event)).all
      (fun v => decide (v.call.Fails v.answer)) = true :=
    List.all_eq_true.2 (List.forall_mem_map.2 fun e _ => rfl)
  have called : ((failed.map fun e => ⟨.deleteOrder caller order, .error e⟩) ++
      [⟨.deleteOrder caller order, x⟩] : Trace).isEmpty = false := by simp
  rw [List.all_append, vain, called]
  cases x <;> rfl

theorem exhaustions_cleared :
    (counts (t ++ ⟨.deleteEntry caller.tenant id, .ok ()⟩ :: (u ++ Networked.orphaning x))).count
        (.retriesExhausted operation) =
      exhaustions .barbican operation
        (t ++ ⟨.deleteEntry caller.tenant id, .ok ()⟩ :: (u ++ Networked.orphaning x)) := by
  obtain ⟨-, before⟩ := even.rows operation ⟨0, 0⟩ (Nat.zero_le _)
  -- giving the identifier up breaks every row, so that the loop begins its own
  have broken : (t.foldl (Rows.after .barbican operation) ⟨0, 0⟩).after .barbican operation
      ⟨.deleteEntry caller.tenant id, .ok ()⟩ = ⟨0, (counts t).count (.retriesExhausted operation)⟩ :=
    congrArg (Rows.mk 0) (before.trans (Nat.zero_add _))
  obtain ⟨-, after⟩ := attempts_deleteOrder.foldl operation
    (r := ⟨0, (counts t).count (.retriesExhausted operation)⟩) tried fun _ => rfl
  unfold exhaustions
  rw [List.foldl_append, List.foldl_cons, List.foldl_append, Rows.foldl_orphaning, broken, after, counts_append,
    counts_other rfl, counts_append, List.count_append, List.count_append, exhausted_orphaning, Nat.add_zero]

theorem orders_cleared :
    (counts (t ++ ⟨.deleteEntry caller.tenant id, .ok ()⟩ :: (u ++ Networked.orphaning x))).count .orphanedOrder =
      abandonments (t ++ ⟨.deleteEntry caller.tenant id, .ok ()⟩ :: (u ++ Networked.orphaning x)) +
        (!x.isOk).toNat := by
  have orders : ∀ v ∈ u ++ Networked.orphaning x, v.call.dropsOrder = true ∨ v.counter?.isSome = true := by
    refine List.forall_mem_append.2 ⟨fun v member => ?_, fun v member => ?_⟩
    · obtain ⟨y, rfl⟩ | rfl := tried.calls v member
      · exact .inl rfl
      · exact .inr rfl
    · rw [Networked.mem_orphaning v member]
      exact .inr rfl
  have before := even.orders ⟨false, 0⟩
  have fresh : (t.foldl Abandoned.after ⟨false, 0⟩).after ⟨.deleteEntry caller.tenant id, .ok ()⟩ =
      ⟨false, (counts t).count .orphanedOrder⟩ :=
    congrArg (Abandoned.mk false) (before.trans (Nat.zero_add _))
  unfold abandonments
  rw [List.foldl_append, List.foldl_cons, fresh, Abandoned.foldl_fresh rfl orders, counts_append, counts_other rfl,
    counts_append, List.count_append, List.count_append, attempts_deleteOrder.count_orphanedOrder tried, Nat.zero_add]
  cases x <;> rfl

end

theorem accounted_cleared (even : Even .barbican t) (cleared : Networked.Clears caller e u) :
    Accounted .barbican (t ++ ⟨.deleteEntry caller.tenant id, .ok ()⟩ :: u) := by
  cases cleared with
  | nothing => exact even.accounted.append (List.forall_mem_singleton.2 (.of_uncounted rfl rfl rfl))
  | order _ tried =>
    refine ⟨fun operation => exhaustions_cleared even tried, ?_⟩
    rw [leavesOrder_cleared even tried]
    exact orders_cleared even tried

section
variable {σ : Type} {w : World σ} {y y' : σ}

theorem uneventful_of_locates (h : Networked.Locates w caller id y u e e' y') :
    (∀ v ∈ u, Uneventful kind v) ∧ ∀ v ∈ u, v.givesUp = false := by
  cases h with
  | named => exact ⟨List.forall_mem_singleton.2 (.of_uncounted rfl rfl rfl), List.forall_mem_singleton.2 rfl⟩
  | reported =>
    exact ⟨List.forall_mem_cons.2 ⟨.of_uncounted rfl rfl rfl, List.forall_mem_singleton.2 (.of_uncounted rfl rfl rfl)⟩,
      List.forall_mem_cons.2 ⟨rfl, List.forall_mem_singleton.2 rfl⟩⟩

theorem uneventful_of_destroys (h : Networked.Destroys w caller id y u e e' y') :
    (∀ v ∈ u, Uneventful kind v) ∧ ∀ v ∈ u, v.givesUp = false := by
  cases h with
  | nothing located => exact uneventful_of_locates located
  | material located =>
    obtain ⟨uneventful, kept⟩ := uneventful_of_locates located
    exact ⟨List.forall_mem_append.2 ⟨uneventful, List.forall_mem_singleton.2 (.of_uncounted rfl rfl rfl)⟩,
      List.forall_mem_append.2 ⟨kept, List.forall_mem_singleton.2 rfl⟩⟩

/-- A call of a deletion may be in vain, but not tried again. -/
theorem Even.accounted_short (even : Even .barbican t) (short : u.length ≤ 2)
    (asks : ∀ v ∈ u, v.call.dropsOrder = false ∧ v.counter? = none) : Accounted .barbican (t ++ u) := by
  refine even.accounted_few (fun operation => ?_) (fun v member => (asks v member).1) ?_
  · have few : u.countP (fun v => vain? .barbican v = some operation) ≤ u.length := List.countP_le_length
    have := slack_le operation
    unfold Retry.limit
    omega
  · have none : counts u = [] := List.filterMap_eq_nil_iff.2 fun v member => (asks v member).2
    rw [none]
    exact List.forall_mem_nil _

theorem accounted_delete (even : Even .barbican t) (deletes : Networked.Deletes w caller id y u x y') :
    Accounted .barbican (t ++ u) := by
  cases deletes with
  | unknown => exact even.accounted_short (Nat.le_succ 1) (List.forall_mem_singleton.2 ⟨rfl, rfl⟩)
  | untold | generating =>
    exact even.accounted_short (Nat.le_refl 2)
      (List.forall_mem_cons.2 ⟨⟨rfl, rfl⟩, List.forall_mem_singleton.2 ⟨rfl, rfl⟩⟩)
  | kept located =>
    refine even.accounted.append (List.forall_mem_append.2 ⟨(uneventful_of_locates located).1, ?_⟩)
    exact List.forall_mem_singleton.2 (.of_uncounted rfl rfl rfl)
  | standing destroyed =>
    refine even.accounted.append (List.forall_mem_append.2 ⟨(uneventful_of_destroys destroyed).1, ?_⟩)
    exact List.forall_mem_singleton.2 (.of_uncounted rfl rfl rfl)
  | gone destroyed _ cleared =>
    obtain ⟨uneventful, kept⟩ := uneventful_of_destroys destroyed
    rw [← List.append_assoc]
    exact accounted_cleared (even.append (even_of_uneventful uneventful kept)) (Networked.clears_of_run cleared)

theorem counted_delete (deletes : Networked.Deletes w caller id y u x y') :
    ∀ c ∈ counts u, c.isKeystore = true := by
  have quiet : ∀ {e e' : Entry} {u : Trace} {y y' : σ}, Networked.Locates w caller id y u e e' y' → counts u = [] := by
    intro e e' u y y' located
    cases located with
    | named | reported => rfl
  have destroyed : ∀ {e e' : Entry} {u : Trace} {y y' : σ}, Networked.Destroys w caller id y u e e' y' →
      counts u = [] := by
    intro e e' u y y' destroyed
    cases destroyed with
    | nothing located => exact quiet located
    | material located =>
      rw [counts_append, quiet located]
      rfl
  cases deletes with
  | unknown | untold | generating => exact List.forall_mem_nil _
  | kept located =>
    rw [counts_append, quiet located]
    exact List.forall_mem_nil _
  | standing destroys =>
    rw [counts_append, destroyed destroys]
    exact List.forall_mem_nil _
  | gone destroys _ cleared =>
    rw [counts_append, destroyed destroys, counts_other rfl, List.nil_append]
    cases Networked.clears_of_run cleared with
    | nothing => exact List.forall_mem_nil _
    | @order _ _ x _ tried =>
      rw [counts_append]
      refine List.forall_mem_append.2 ⟨fun c member => ?_, ?_⟩
      · rw [attempts_deleteOrder.counts_tries tried c member]
        rfl
      · cases x with
        | ok _ => exact List.forall_mem_nil _
        | error _ => exact List.forall_mem_singleton.2 rfl

theorem accounted_keystore {tries : Nat} {ledger : Ledger Action} {r : Except Error Unit × Ledger Action}
    (even : Even kind t) (h : Run w ((Action.keystore tries kind).delete caller id ledger) y u r y') :
    Accounted kind (t ++ u) ∧ ∀ c ∈ counts u, c.isKeystore = true := by
  cases kind with
  | barbican =>
    obtain ⟨_, _, _, _, rfl, deleted, passed⟩ := Run.bind_iff.1 h
    obtain ⟨rfl, -, -⟩ := Run.pure_iff.1 passed
    have deletes := Networked.deletes_of_run deleted
    rw [List.append_nil]
    exact ⟨accounted_delete even deletes, counted_delete deletes⟩
  | memory =>
    let calls : Call → Prop := fun c => c.dropsOrder = false ∧ ∀ x, Event.counter? ⟨c, x⟩ = none
    have keeps : ((Action.memoryKeystore tries).delete caller id ledger).Keeps calls fun _ => True := by
      have deletes : (InMemory.delete Action.registry (Call.vault Action.make) caller id).run.Keeps calls
          fun _ => True := by
        refine .bindExcept (InMemory.keeps_reference ⟨rfl, fun _ => rfl⟩) fun ref => ?_
        refine .bindExcept ⟨⟨rfl, fun _ => rfl⟩, fun _ => trivial⟩ fun _ => ?_
        exact ⟨⟨rfl, fun _ => rfl⟩, fun _ => trivial⟩
      exact deletes.bind fun _ _ => trivial
    have asks := keeps.respects _ _ _ _ h
    have none : counts u = [] := List.filterMap_eq_nil_iff.2 fun v member => (asks v member).2 v.answer
    refine ⟨even.accounted.append fun v member => ?_, none ▸ List.forall_mem_nil _⟩
    exact ⟨by simp [(asks v member).2 v.answer], vain?_memory v, (asks v member).1⟩

end

end

end KeyCustody.Keystore

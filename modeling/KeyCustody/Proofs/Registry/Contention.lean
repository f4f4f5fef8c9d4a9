import KeyCustody.Proofs.Pool
import KeyCustody.Proofs.Registry.Agreement
import KeyCustody.Proofs.Registry.Allocation
import KeyCustody.Proofs.Registry.Replay

/-!
# Allocations that race

An allocation looks a candidate up and adds its entry under it with two calls, so that others may have
found the same candidate free by then. That adding is refused where something stands is enough: what has
been issued is not issued again before it is deleted.
-/

namespace KeyCustody

open Program

namespace Registry

/-! ## Rows that come and go -/

namespace Store

variable {s s' : Store} {t : Trace} {v : Event} {tenant tenant' : Tenant} {id id' : String} {e e' : Entry}

theorem unique_after (unique : s.Unique) : (s.after v).Unique := by
  obtain same | ⟨tenant, e, -, added⟩ | ⟨tenant, e, -, updated⟩ | ⟨tenant, id, -, same⟩ := s.after_cases v
  · rwa [same]
  · exact unique_add unique added
  · exact unique_update unique updated
  · rw [same]
    exact unique_delete unique

theorem unique_replay (unique : s.Unique) : (s.replay t).Unique := by
  induction t generalizing s with
  | nil => exact unique
  | cons v t ih => exact ih (unique_after unique)

theorem Enters.isSome_live? (h : Enters tenant e s s') (stands : (s.live? tenant' id).isSome = true) :
    (s'.live? tenant' id).isSome = true := by
  by_cases same : (tenant', id) = (tenant, e.issuedId)
  · obtain ⟨rfl, rfl⟩ := Prod.mk.inj same
    have entered := congrArg Option.isSome h.self
    rwa [Option.isSome_map] at entered
  · rwa [h.other _ _ same]

/-- What stands goes on to stand, if in another form, unless it is deleted. -/
theorem isSome_live?_after (stands : (s.live? tenant id).isSome = true)
    (kept : v ≠ ⟨.deleteEntry tenant id, .ok ()⟩) : ((s.after v).live? tenant id).isSome = true := by
  obtain same | ⟨_, e, -, added⟩ | ⟨_, e, -, updated⟩ | ⟨tenant', id', rfl, same⟩ := s.after_cases v
  · rwa [same]
  · exact (enters_add added).isSome_live? stands
  · exact (enters_update updated).isSome_live? stands
  · rw [same, live?_delete_other fun same => ?_]
    · exact stands
    · obtain ⟨rfl, rfl⟩ := Prod.mk.inj same
      exact kept rfl

/-- What stands by one moment and does not by a later one has been deleted in between. -/
theorem deleted_of_replay (stands : (s.live? tenant id).isSome = true)
    (gone : (s.replay t).live? tenant id = none) : ⟨.deleteEntry tenant id, .ok ()⟩ ∈ t := by
  induction t generalizing s with
  | nil =>
    rw [replay_nil] at gone
    rw [gone] at stands
    cases stands
  | cons v t ih =>
    by_cases deleted : v = ⟨.deleteEntry tenant id, .ok ()⟩
    · exact deleted ▸ List.mem_cons_self
    · exact List.mem_cons_of_mem _ (ih (isSome_live?_after stands deleted) gone)

/-- An addition that succeeds found nothing under its identifier, and made an entry stand there. -/
theorem live?_of_added (unique : s.Unique) (answered : world .clean (.addEntry tenant e) s (.ok ()) s') :
    s.live? tenant e.issuedId = none ∧ (s'.live? tenant e.issuedId).isSome = true := by
  have admitted : Fault.clean.Admits (s.add tenant e) s (.ok ()) s' := answered
  refine ⟨live?_add_before unique admitted.ok, ?_⟩
  have entered := congrArg Option.isSome (enters_add admitted.ok).self
  rwa [Option.isSome_map] at entered

/-- A call of an allocation leaves what stands. -/
theorem live?_after_of_searches (unique : s.Unique) (searches : v.call.searches = true)
    (stands : s.live? tenant id = some e) : (s.after v).live? tenant id = some e := by
  obtain same | ⟨tenant', e', -, added⟩ | ⟨_, _, call, -⟩ | ⟨_, _, rfl, -⟩ := s.after_cases v
  · rwa [same]
  · rw [live?_add_other added fun same => ?_]
    · exact stands
    · obtain ⟨rfl, rfl⟩ := Prod.mk.inj same
      cases (live?_add_before unique added).symm.trans stands
  · rw [call] at searches
    cases searches
  · cases searches

end Store

/-! ## What an allocation calls -/

section
variable {tries left : Nat} {tenant : Tenant} {e : Entry} {id : String} {t : Trace}

/-- An allocation that ends well has added its entry with its last call, and altered nothing before. -/
theorem run_allocateWithin_adds
    (h : Run free (allocateWithin tries Action.registry (Call.candidates Action.make tries).draw tenant e
      left).run () t (.ok id) ()) :
    ∃ u, t = u ++ [⟨.addEntry tenant { e with issuedId := id }, .ok ()⟩] ∧
      ∀ v ∈ u, v.call.altersRegistry = false := by
  induction left generalizing t with
  | zero =>
    obtain ⟨-, failed, -⟩ := Run.throw_iff.1 h
    cases failed
  | succ left ih =>
    unfold allocateWithin at h
    obtain ⟨_, candidate, _, _, rfl, drawn, looked⟩ := Run.bind_iff.1 h
    obtain ⟨rfl, -⟩ := Run.ask_iff.1 drawn
    obtain ⟨_, x, _, _, rfl, asked, ended⟩ := Run.bind_iff.1 looked
    obtain ⟨rfl, -⟩ := Run.ask_iff.1 asked
    have quiet : ∀ v ∈ ([⟨.drawIdentifier, candidate⟩] ++ [⟨.getEntry tenant candidate, x⟩] : Trace),
        v.call.altersRegistry = false :=
      List.forall_mem_append.2 ⟨List.forall_mem_singleton.2 rfl, List.forall_mem_singleton.2 rfl⟩
    cases x with
    | ok _ =>
      obtain ⟨u, rfl, others⟩ := ih ended
      exact ⟨_ ++ u, by simp, List.forall_mem_append.2 ⟨quiet, others⟩⟩
    | error error =>
      by_cases free : error.isNotFound = true
      · simp only [free, if_true] at ended
        obtain ⟨_, y, _, _, rfl, asked, passed⟩ := Run.bind_iff.1 ended
        obtain ⟨rfl, -⟩ := Run.ask_iff.1 asked
        obtain ⟨rfl, same, -⟩ := Run.pure_iff.1 passed
        cases y with
        | error _ => cases same
        | ok _ =>
          obtain rfl := Except.ok.inj same
          exact ⟨_, by simp, quiet⟩
      · simp only [free, Bool.false_eq_true, if_false] at ended
        obtain ⟨-, same, -⟩ := Run.pure_iff.1 ended
        cases same

end

/-! ## Pools of requests -/

/-- A request as a program of calls. -/
def Request.action (tries : Nat) (q : Request) : Action (Except Error Reply) :=
  (q.perform Action.registry (Call.candidates Action.make tries)).run

/-- The call with which the program at a place adds an entry under an identifier. -/
def added (i : Nat) (tenant : Tenant) (e : Entry) (id : String) : Nat × Event :=
  (i, ⟨.addEntry tenant { e with issuedId := id }, .ok ()⟩)

/-- What is issued to requests that take turns, where `t` are their calls so far, `ps` is what is left of
them, and `s'` the store. -/
structure KeptApart (requests : List Request) (s : Store) (t : List (Nat × Event))
    (ps : List (Action (Except Error Reply))) (s' : Store) : Prop where
  leaves : s' = s.replay (t.map (·.2))
  /-- Nothing stood under an identifier when it was issued; its allocation altered nothing else. -/
  free : ∀ i tenant e id, requests[i]? = some (.allocate tenant e) →
    ps[i]? = some (.done (.ok (.issued id))) → ∃ t₁ t₂, t = t₁ ++ added i tenant e id :: t₂ ∧
      (s.replay (t₁.map (·.2))).live? tenant id = none ∧
      ∀ v ∈ t₁ ++ t₂, v.1 = i → v.2.call.altersRegistry = false
  /-- What was issued twice was deleted in between. -/
  apart : ∀ i j tenant e e' id, i ≠ j → requests[i]? = some (.allocate tenant e) →
    requests[j]? = some (.allocate tenant e') → ps[i]? = some (.done (.ok (.issued id))) →
    ps[j]? = some (.done (.ok (.issued id))) → ∃ k,
      [added i tenant e id, (k, ⟨.deleteEntry tenant id, .ok ()⟩), added j tenant e' id].Sublist t ∨
      [added j tenant e' id, (k, ⟨.deleteEntry tenant id, .ok ()⟩), added i tenant e id].Sublist t
  /-- No call of an allocation changes what stands. -/
  stands : ∀ i tenant e t₁ v t₂, requests[i]? = some (.allocate tenant e) → t = t₁ ++ (i, v) :: t₂ →
    ∀ tenant' id x, (s.replay (t₁.map (·.2))).live? tenant' id = some x →
      (s.replay ((t₁ ++ [(i, v)]).map (·.2))).live? tenant' id = some x

section
variable {tries : Nat} {requests : List Request} {ps : List (Action (Except Error Reply))} {s s' : Store}
  {t t₁ t₂ t₃ : List (Nat × Event)} {tenant : Tenant} {e e' : Entry} {i j : Nat} {id : String} {v : Event}

theorem adds_of_issued {w : World Store}
    (h : Pooled w (requests.map (Request.action tries)) s t ps s')
    (asked : requests[i]? = some (.allocate tenant e)) (issued : ps[i]? = some (.done (.ok (.issued id)))) :
    ∃ u, callsOf i t = u ++ [(added i tenant e id).2] ∧ ∀ v ∈ u, v.call.altersRegistry = false := by
  have there : (requests.map (Request.action tries))[i]? = some (Request.action tries (.allocate tenant e)) := by
    rw [List.getElem?_map, asked]
    rfl
  obtain ⟨p', left, begun⟩ := h.begins there
  obtain rfl := Option.some.inj (left.symm.trans issued)
  obtain ⟨_, id', _, _, split, allocated, passed⟩ := Run.bindExcept_ok_iff.1 begun.run
  obtain ⟨rfl, same, -⟩ := Run.pureExcept_ok_iff.1 passed
  obtain rfl := Reply.issued.inj same
  rw [split, List.append_nil]
  exact run_allocateWithin_adds allocated

theorem searches_of_allocate {w : World Store}
    (h : Pooled w (requests.map (Request.action tries)) s t ps s')
    (asked : requests[i]? = some (.allocate tenant e)) (member : (i, v) ∈ t) : v.call.searches = true := by
  have there : (requests.map (Request.action tries))[i]? = some (Request.action tries (.allocate tenant e)) := by
    rw [List.getElem?_map, asked]
    rfl
  obtain ⟨p', -, begun⟩ := h.begins there
  have keeps : (Request.action tries (.allocate tenant e)).Keeps (Call.searches · = true) fun _ => True :=
    searches_allocateWithin.bind fun x _ => by cases x <;> exact trivial
  exact keeps.of_begins begun v (mem_callsOf.2 member)

/-- Between two additions under one identifier there is a deletion. -/
theorem deleted_between (unique : s.Unique)
    (path : Path (Store.world .clean) s
      ((t₁ ++ added i tenant e id :: (t₂ ++ added j tenant e' id :: t₃)).map (·.2)) s') :
    ∃ k, (k, ⟨.deleteEntry tenant id, .ok ()⟩) ∈ t₂ := by
  rw [List.map_append, List.map_cons, List.map_append, List.map_cons] at path
  obtain ⟨s₁, before, rest⟩ := Path.append_iff.1 path
  obtain ⟨s₂, first, rest⟩ := Path.cons_iff.1 rest
  obtain ⟨s₃, between, rest⟩ := Path.append_iff.1 rest
  obtain ⟨s₄, last, -⟩ := Path.cons_iff.1 rest
  obtain rfl := Store.path_replay before
  obtain rfl := Store.world_after first
  obtain rfl := Store.path_replay between
  have unique₁ := Store.unique_replay (t := t₁.map (·.2)) unique
  have stands := (Store.live?_of_added unique₁ first).2
  have gone := (Store.live?_of_added (Store.unique_replay (Store.unique_after unique₁)) last).1
  obtain ⟨⟨k, v⟩, member, rfl⟩ := List.mem_map.1 (Store.deleted_of_replay stands gone)
  exact ⟨k, member⟩

theorem sublist_of_mem {ι : Type} {a b c : ι} {l₁ l₂ l₃ : List ι} (between : c ∈ l₂) :
    [a, c, b].Sublist (l₁ ++ a :: (l₂ ++ b :: l₃)) := by
  have rest : ([c] ++ [b]).Sublist (l₂ ++ b :: l₃) :=
    (List.singleton_sublist.2 between).append (List.singleton_sublist.2 List.mem_cons_self)
  exact (rest.cons_cons a).trans (List.sublist_append_right _ _)

/-- Requests that take turns on a table or a map, among them any number of allocations with any
candidates, each at any moment: the allocations are kept apart. -/
theorem allocations_kept_apart (unique : s.Unique)
    (h : Pooled (Store.world .clean) (requests.map (Request.action tries)) s t ps s') :
    KeptApart requests s t ps s' := by
  have free : ∀ i tenant e id, requests[i]? = some (.allocate tenant e) →
      ps[i]? = some (.done (.ok (.issued id))) → ∃ t₁ t₂, t = t₁ ++ added i tenant e id :: t₂ ∧
        (s.replay (t₁.map (·.2))).live? tenant id = none ∧
        ∀ v ∈ t₁ ++ t₂, v.1 = i → v.2.call.altersRegistry = false := by
    intro i tenant e id asked issued
    obtain ⟨u, split, quiet⟩ := adds_of_issued h asked issued
    obtain ⟨t₁, t₂, rfl, own, others⟩ := callsOf_split split
    have path := h.path
    rw [List.map_append, List.map_cons] at path
    obtain ⟨s₁, before, rest⟩ := Path.append_iff.1 path
    obtain ⟨s₂, answered, -⟩ := Path.cons_iff.1 rest
    obtain rfl := Store.path_replay before
    refine ⟨t₁, t₂, rfl, (Store.live?_of_added (Store.unique_replay unique) answered).1, ?_⟩
    rintro ⟨_, v⟩ member rfl
    obtain earlier | later := List.mem_append.1 member
    · exact quiet v (own ▸ mem_callsOf.2 earlier)
    · exact absurd (others ▸ mem_callsOf.2 later) List.not_mem_nil
  refine ⟨Store.path_replay h.path, free, ?_, ?_⟩
  · intro i j tenant e e' id different asked asked' issued issued'
    obtain ⟨t₃, t₄, split, -⟩ := free j tenant e' id asked' issued'
    have other : added j tenant e' id ∈ t := split ▸ List.mem_append_right _ List.mem_cons_self
    obtain ⟨t₁, t₂, rfl, -⟩ := free i tenant e id asked issued
    obtain earlier | later := List.mem_append.1 other
    · obtain ⟨u, u', rfl⟩ := List.append_of_mem earlier
      rw [List.append_assoc, List.cons_append] at h ⊢
      obtain ⟨k, between⟩ := deleted_between unique h.path
      exact ⟨k, .inr (sublist_of_mem between)⟩
    · obtain same | later := List.mem_cons.1 later
      · exact absurd (congrArg Prod.fst same).symm different
      obtain ⟨u, u', rfl⟩ := List.append_of_mem later
      obtain ⟨k, between⟩ := deleted_between unique h.path
      exact ⟨k, .inl (sublist_of_mem between)⟩
  · rintro i tenant e t₁ v t₂ asked rfl tenant' id x stands
    have searches := searches_of_allocate h asked (List.mem_append_right _ List.mem_cons_self)
    rw [List.map_append, Store.replay_append]
    exact Store.live?_after_of_searches (Store.unique_replay unique) searches stands

/-- Two allocations draw the same candidate, and both issue it; it is deleted in between. -/
theorem allocations_kept_apart_of_two :
    let tenant : Tenant := ⟨"s", "o"⟩
    let requests : List Request :=
      [.allocate tenant (.ofSecret "a"), .delete tenant "k", .allocate tenant (.ofSecret "b")]
    let others : (c : Call) → c.Answer
      | .drawIdentifier => "k"
      | c => Call.refused (.internal "down") c
    let ended := takeTurns (Store.answer others) [0, 0, 2, 0, 1, 2, 2]
      (requests.map (Request.action 1)) (.table true [])
    ended.2.1[0]? = some (.done (.ok (.issued "k"))) ∧ ended.2.1[2]? = some (.done (.ok (.issued "k"))) ∧
      KeptApart requests (.table true []) ended.1 ended.2.1 ended.2.2 := by
  intro tenant requests others ended
  have first : ended.2.1[0]?.bind value? = some (.ok (.issued "k")) := by decide +kernel
  have second : ended.2.1[2]?.bind value? = some (.ok (.issued "k")) := by decide +kernel
  have h : Pooled (Store.world .clean) (requests.map (Request.action 1)) (.table true []) ended.1
      ended.2.1 ended.2.2 := Pooled.of_schedule (Store.world_answer others) _ _ _
  exact ⟨getElem?_eq_done first, getElem?_eq_done second, allocations_kept_apart List.nodup_nil h⟩

end

end Registry

end KeyCustody

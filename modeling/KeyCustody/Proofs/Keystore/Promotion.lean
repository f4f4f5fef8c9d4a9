import KeyCustody.Proofs.Keystore.Lawful
import Mathlib.Control.Monad.Basic

/-!
# Entries only move forward

What stands under an identifier is what was added under it last, or that with the reference that its
order has reported. The calls of a history say at every moment what was added last, and what stands.
-/

namespace KeyCustody.Keystore

open Program
open Barbican (PayloadType OrderStatus)
open Registry (Entry Store)

section
variable {t : Trace} {e e₁ e₂ : Entry}

theorem forward_of_cleared (h : e₁.cleared = e.cleared) : Forward t e e₁ :=
  ⟨Entry.order?_congr h, .inl (Entry.secret?_congr h)⟩

theorem Forward.trans (first : Forward t e e₁) (rest : Forward t e₁ e₂) : Forward t e e₂ := by
  obtain ⟨order₁, secret₁⟩ := first
  obtain ⟨order₂, secret₂⟩ := rest
  refine ⟨order₂.trans order₁, ?_⟩
  rcases secret₂ with same | ⟨none, order, ref, ordered, given, reported⟩
  · rw [same]
    exact secret₁
  · rcases secret₁ with same | ⟨-, _, _, -, given₁, -⟩
    · exact .inr ⟨same ▸ none, order, ref, order₁ ▸ ordered, given, reported⟩
    · rw [none] at given₁
      cases given₁

end

/-! ## What was added last -/

/-- What a call makes of the entry that an identifier began with. -/
def begun (tenant : Tenant) (id : String) (c : Option Entry) : Event → Option Entry
  | ⟨.addEntry tenant' e, .ok _⟩ => if (tenant, id) = (tenant', e.issuedId) then some e else c
  | ⟨.deleteEntry tenant' id', .ok _⟩ => if (tenant, id) = (tenant', id') then none else c
  | _ => c

/-- The entry that was added under an identifier last, unless it has been deleted since. -/
def origin? (tenant : Tenant) (id : String) (t : Trace) : Option Entry :=
  t.foldl (begun tenant id) none

/-- A lookup finds an entry moved forward, or nothing if there is none. -/
def Follows (t : Trace) (id : String) (c : Option Entry) (x : Except Error Entry) : Prop :=
  match c with
  | some c => ∃ e, x = .ok e ∧ Forward t c e
  | none => x = .error (.noSecret id)

/-- What some request may call. -/
def Allowed (s : Store) (past : Trace) (v : Event) : Prop := ∃ q, Lawful q s past v

section
variable {s s₁ : Store} {past t t' : Trace} {tenant : Tenant} {id : String} {c : Option Entry}
  {e : Entry} {v : Event} {x : Except Error Entry}

theorem Follows.mono (h : Follows t id c x) (part : ∀ v ∈ t, v ∈ t') : Follows t' id c x := by
  cases c with
  | none => exact h
  | some c =>
    obtain ⟨e, found, forward⟩ := h
    exact ⟨e, found, forward.mono part⟩

theorem follows_add {tenant' : Tenant} (sound : s.Sound) (added : (s.add tenant' e).1 = .ok ())
    (h : Follows past id c (s.get tenant id)) :
    Follows past id (if (tenant, id) = (tenant', e.issuedId) then some e else c)
      ((s.add tenant' e).2.get tenant id) := by
  have change : Store.Enters tenant' e s (s.add tenant' e).2 := Store.enters_add (Prod.ext added rfl)
  by_cases same : (tenant, id) = (tenant', e.issuedId)
  · rw [if_pos same]
    obtain ⟨rfl, rfl⟩ := Prod.mk.inj same
    obtain ⟨e', stands, cleared⟩ := change.get_self (Store.sound_add sound)
    exact ⟨e', stands, forward_of_cleared cleared⟩
  · rw [if_neg same, change.get_other sound same]
    exact h

theorem follows_update {tenant' : Tenant} {old : Entry} (sound : s.Sound)
    (updated : (s.update tenant' e).1 = .ok ()) (stands : s.get tenant' e.issuedId = .ok old)
    (moved : Forward past old e) (h : Follows past id c (s.get tenant id)) :
    Follows past id c ((s.update tenant' e).2.get tenant id) := by
  have change : Store.Enters tenant' e s (s.update tenant' e).2 :=
    Store.enters_update (Prod.ext updated rfl)
  by_cases same : (tenant, id) = (tenant', e.issuedId)
  · obtain ⟨rfl, rfl⟩ := Prod.mk.inj same
    obtain ⟨e', stands', cleared⟩ := change.get_self (Store.sound_update sound)
    rw [stands] at h
    cases c with
    | none => cases h
    | some c =>
      obtain ⟨_, found, forward⟩ := h
      obtain rfl := Except.ok.inj found
      exact ⟨e', stands', (forward.trans moved).trans (forward_of_cleared cleared)⟩
  · rw [change.get_other sound same]
    exact h

theorem follows_delete {tenant' : Tenant} {id' : String} (sound : s.Sound)
    (h : Follows past id c (s.get tenant id)) :
    Follows past id (if (tenant, id) = (tenant', id') then none else c)
      ((s.delete tenant' id').2.get tenant id) := by
  by_cases same : (tenant, id) = (tenant', id')
  · rw [if_pos same]
    obtain ⟨rfl, rfl⟩ := Prod.mk.inj same
    exact Store.get_delete_self sound
  · rw [if_neg same, Store.get_delete_other same]
    exact h

theorem follows_after (sound : s.Sound) (allowed : Allowed s past v)
    (h : Follows past id c (s.get tenant id)) :
    Follows past id (begun tenant id c v) ((s.after v).get tenant id) := by
  obtain ⟨q, lawful⟩ := allowed
  obtain ⟨call, x⟩ := v
  cases call with
  | addEntry tenant' e =>
    cases x with
    | error _ => exact h
    | ok _ => exact follows_add sound lawful.1 h
  | updateEntry tenant' e =>
    cases x with
    | error _ => exact h
    | ok _ =>
      obtain ⟨updated, old, stands, moved⟩ := lawful
      exact follows_update sound updated stands moved h
  | deleteEntry tenant' id' =>
    cases x with
    | error _ => exact h
    | ok _ => exact follows_delete sound h
  | _ => exact h

theorem follows_replay (sound : s.Sound) (allowed : Along Allowed s past t)
    (h : Follows past id c (s.get tenant id)) :
    Follows (past ++ t) id (t.foldl (begun tenant id) c) ((s.replay t).get tenant id) := by
  induction t generalizing s past c with
  | nil => simpa using h
  | cons v t ih =>
    have next := (follows_after sound allowed.1 h).mono fun _ => List.mem_append_left [v]
    rw [List.append_cons]
    exact ih (Store.sound_after sound v) allowed.2 next

/-- Nothing is added under an identifier where an entry stands. -/
theorem begun_of_stands (sound : s.Sound) (allowed : Allowed s past v)
    (stands : s.get tenant id = .ok e) (kept : v ≠ ⟨.deleteEntry tenant id, .ok ()⟩) :
    begun tenant id c v = c := by
  obtain ⟨q, lawful⟩ := allowed
  obtain ⟨call, x⟩ := v
  cases call with
  | addEntry tenant' e' =>
    cases x with
    | error _ => rfl
    | ok _ =>
      refine if_neg fun same => ?_
      obtain ⟨rfl, rfl⟩ := Prod.mk.inj same
      have free := Store.live?_add_before sound.unique (Prod.ext lawful.1 rfl)
      rw [(Store.live?_of_get stands).2.1] at free
      cases free
  | deleteEntry tenant' id' =>
    cases x with
    | error _ => rfl
    | ok _ =>
      refine if_neg fun same => ?_
      obtain ⟨rfl, rfl⟩ := Prod.mk.inj same
      exact kept rfl
  | _ => rfl

/-- An entry that is not deleted stands on, moved forward. -/
theorem get_replay (sound : s.Sound) (allowed : Along Allowed s past t)
    (stands : s.get tenant id = .ok e) (kept : ⟨.deleteEntry tenant id, .ok ()⟩ ∉ t) :
    ∃ e', (s.replay t).get tenant id = .ok e' ∧ Forward (past ++ t) e e' := by
  induction t generalizing s past e with
  | nil => exact ⟨e, stands, forward_of_cleared rfl⟩
  | cons v t ih =>
    obtain ⟨other, others⟩ := not_or.1 (mt List.mem_cons.2 kept)
    have follows : Follows past id (some e) (s.get tenant id) :=
      ⟨e, stands, forward_of_cleared rfl⟩
    have next := follows_after sound allowed.1 follows
    -- The entry that stands plays the part of the one that was added: no addition can take its place.
    rw [begun_of_stands sound allowed.1 stands (Ne.symm other)] at next
    obtain ⟨e₁, stands₁, forward₁⟩ := next
    obtain ⟨e₂, stands₂, forward₂⟩ := ih (Store.sound_after sound v) allowed.2 stands₁ others
    rw [List.append_cons]
    refine ⟨e₂, stands₂, (forward₁.mono fun _ member => ?_).trans forward₂⟩
    simp [member]

end

/-! ## Histories -/

/-- Entries only move forward in a history from `s₀` to `s`, and what is asked of the API fits them. -/
structure MovesForward (s₀ : Store) (h : History) (s : Store) : Prop where
  leaves : s = s₀.replay h.calls
  /-- An entry is added with one reference. -/
  created : ∀ tenant c, ⟨.addEntry tenant c, .ok ()⟩ ∈ h.calls → c.secret?.isSome ≠ c.order?.isSome
  /-- At every moment an entry stands as it was added, or moved forward from that. -/
  stands : ∀ t, t <+: h.calls → ∀ tenant id,
    Follows t id (origin? tenant id t) ((s₀.replay t).get tenant id)
  /-- From one moment to a later one it moves forward, if it is not deleted. -/
  forward : ∀ t u, t ++ u <+: h.calls → ∀ tenant id e, (s₀.replay t).get tenant id = .ok e →
    ⟨.deleteEntry tenant id, .ok ()⟩ ∉ u →
    ∃ e', (s₀.replay (t ++ u)).get tenant id = .ok e' ∧ Forward (t ++ u) e e'
  /-- A request asks for the order of the entry that it is about, while that names no secret. -/
  asks : ∀ q t caller order x, h.Makes q t ⟨.checkOrder caller order, x⟩ →
    ∃ id e, q.on? = some (caller.tenant, id) ∧ (s₀.replay t).get caller.tenant id = .ok e ∧
      e.secret? = none ∧ e.order? = some order
  /-- It does not ask if the entry has named one since an earlier moment. -/
  settles : ∀ q t u caller order x tenant id e, h.Makes q (t ++ u) ⟨.checkOrder caller order, x⟩ →
    q.on? = some (tenant, id) → (s₀.replay t).get tenant id = .ok e →
    ⟨.deleteEntry tenant id, .ok ()⟩ ∉ u → e.secret? = none
  /-- A request fetches generated material as bytes, and supplied material as text. -/
  fetches : ∀ q t caller ref type x, h.Makes q t ⟨.getPayload caller ref type, x⟩ →
    ∃ id c, q = .payload caller id ∧ origin? caller.tenant id t = some c ∧
      (type = .bytes ↔ c.order?.isSome = true)

section
variable {s s' s₀ : Store} {h : History} {past t u : Trace} {tries : Nat} {q : Request} {v : Event}
  {caller : Caller} {tenant : Tenant} {id order ref : String} {e : Entry} {type : PayloadType}
  {x : Except Error OrderStatus} {y : Except Error Sealed}

/-- A history leaves the store that its calls replay to. -/
theorem Performs.leaves {k : Keystore Action} (runs : Performs (Store.world .clean) k s h s') :
    s' = s.replay h.calls := by
  induction runs with
  | nil => rfl
  | cons first _ ih => rw [ih, Store.run_replay first, ← Store.replay_append, History.calls_cons]

theorem Performs.along
    (runs : Performs (Store.world .clean) (Action.barbicanKeystore tries) s h s') (sound : s.Sound)
    (named : Named h.calls) (past : Trace) : Along Allowed s past h.calls := by
  induction runs generalizing past with
  | nil => trivial
  | @cons s s₁ s' q t x h first rest ih =>
    obtain ⟨named₁, named₂⟩ := List.forall_mem_append.1 named
    obtain ⟨lawful, rfl⟩ : Goes q past s t s₁ := Networked.goes_perform sound named₁ first
    have along := ih (Store.sound_replay sound) named₂ (past ++ t)
    exact along_append.2 ⟨lawful.mono fun _ _ _ lawful => ⟨q, lawful⟩, along⟩

section
variable (runs : Performs (Store.world .clean) (Action.barbicanKeystore tries) s h s')
  (sound : s.Sound) (named : Named h.calls)
include runs sound named

/-- What a request calls is lawful where it is called. -/
theorem Performs.lawful (makes : h.Makes q t v) : Lawful q (s.replay t) t v := by
  obtain ⟨before, a, b, after, rfl, rfl⟩ := makes
  obtain ⟨s₁, runs₁, runs₂⟩ := performs_append.1 runs
  rw [History.calls_append, History.calls_cons] at named
  obtain ⟨-, named₂⟩ := List.forall_mem_append.1 named
  obtain rfl := runs₁.leaves
  cases runs₂ with
  | cons first _ =>
    have goes : Goes q before.calls (s.replay before.calls) (a ++ v :: b) _ :=
      Networked.goes_perform (Store.sound_replay sound) (List.forall_mem_append.1 named₂).1 first
    rw [Store.replay_append]
    exact (along_append.1 goes.lawful).2.1

theorem Performs.created (added : ⟨.addEntry tenant e, .ok ()⟩ ∈ h.calls) :
    e.secret?.isSome ≠ e.order?.isSome := by
  have along := runs.along sound named []
  obtain ⟨t, u, split⟩ := List.append_of_mem added
  rw [split] at along
  obtain ⟨_, lawful⟩ := (along_append.1 along).2.1
  exact lawful.2

theorem Performs.stands (part : t <+: h.calls) (free : s.get tenant id = .error (.noSecret id)) :
    Follows t id (origin? tenant id t) ((s.replay t).get tenant id) := by
  have along := runs.along sound named []
  obtain ⟨u, split⟩ := part
  rw [← split] at along
  have first : Follows [] id none (s.get tenant id) := free
  exact follows_replay sound (along_append.1 along).1 first

theorem Performs.forward (part : t ++ u <+: h.calls) (found : (s.replay t).get tenant id = .ok e)
    (kept : ⟨.deleteEntry tenant id, .ok ()⟩ ∉ u) :
    ∃ e', (s.replay (t ++ u)).get tenant id = .ok e' ∧ Forward (t ++ u) e e' := by
  have along := runs.along sound named []
  obtain ⟨rest, split⟩ := part
  rw [← split] at along
  have later := (along_append.1 (along_append.1 along).1).2
  rw [Store.replay_append]
  exact get_replay (Store.sound_replay sound) later found kept

theorem Performs.asks (makes : h.Makes q t ⟨.checkOrder caller order, x⟩) :
    ∃ id e, q.on? = some (caller.tenant, id) ∧ (s.replay t).get caller.tenant id = .ok e ∧
      e.secret? = none ∧ e.order? = some order := by
  obtain ⟨id, e, about, found, pending⟩ := runs.lawful sound named makes
  exact ⟨id, e, about, found, pending_iff.1 pending⟩

theorem Performs.settles (makes : h.Makes q (t ++ u) ⟨.checkOrder caller order, x⟩)
    (about : q.on? = some (tenant, id)) (found : (s.replay t).get tenant id = .ok e)
    (kept : ⟨.deleteEntry tenant id, .ok ()⟩ ∉ u) : e.secret? = none := by
  obtain ⟨rest, split⟩ := makes.calls
  obtain ⟨e₁, found₁, forward⟩ := runs.forward sound named ⟨_, split.symm⟩ found kept
  obtain ⟨id₂, e₂, about₂, found₂, unset, -⟩ := runs.asks sound named makes
  obtain ⟨rfl, rfl⟩ := Prod.mk.inj (Option.some.inj (about.symm.trans about₂))
  obtain rfl := Except.ok.inj (found₁.symm.trans found₂)
  rcases forward.2 with same | ⟨none, -⟩
  · exact same ▸ unset
  · exact none

theorem Performs.fetches (free : ∀ tenant id, s.get tenant id = .error (.noSecret id))
    (makes : h.Makes q t ⟨.getPayload caller ref type, y⟩) :
    ∃ id c, q = .payload caller id ∧ origin? caller.tenant id t = some c ∧
      (type = .bytes ↔ c.order?.isSome = true) := by
  obtain ⟨id, e, asked, found, fits⟩ := runs.lawful sound named makes
  obtain ⟨rest, split⟩ := makes.calls
  have follows := runs.stands sound named ⟨_, split.symm⟩ (free caller.tenant id)
  rw [found] at follows
  cases origin : origin? caller.tenant id t with
  | none =>
    rw [origin] at follows
    cases follows
  | some c =>
    rw [origin] at follows
    obtain ⟨_, same, forward⟩ := follows
    obtain rfl := Except.ok.inj same
    refine ⟨id, c, asked, origin, fits.trans ?_⟩
    rw [← forward.1]
    rfl

end

/-- In every history of the keystore over Barbican that starts with nothing issued, entries only move
forward. -/
theorem entries_only_move_forward (empty : s₀ = .table true [] ∨ s₀ = .map [])
    (runs : Performs (Store.world .clean) (Action.barbicanKeystore tries) s₀ h s)
    (named : Named h.calls) : MovesForward s₀ h s := by
  have sound : s₀.Sound := by
    rcases empty with rfl | rfl
    · exact Store.sound_empty_table
    · exact Store.sound_empty_map
  have free : ∀ tenant id, s₀.get tenant id = .error (.noSecret id) := by
    rcases empty with rfl | rfl <;> exact fun _ _ => rfl
  exact {
    leaves := runs.leaves
    created := fun _ _ => runs.created sound named
    stands := fun _ part _ _ => runs.stands sound named part (free _ _)
    forward := fun _ _ part _ _ _ => runs.forward sound named part
    asks := fun _ _ _ _ _ => runs.asks sound named
    settles := fun _ _ _ _ _ _ _ _ _ => runs.settles sound named
    fetches := fun _ _ _ _ _ _ => runs.fetches sound named free }

/-- The answers of collaborators besides the store to requests around an order, which is done or not. -/
def generating (status : OrderStatus) : (c : Call) → c.Answer
  | .postOrder .. => .ok "order"
  | .checkOrder .. => .ok status
  | .getPayload .. => .ok ⟨"material"⟩
  | .drawIdentifier => "k"
  | c => Call.refused (.transport "down") c

/-- A key that is asked for too early, and then again when its order is done. -/
theorem entries_only_move_forward_of_order :
    let caller : Caller := ⟨⟨"s", "o"⟩, "c", none⟩
    let played := (Action.barbicanKeystore 1).play (.table true [])
      [(.create caller (Secret.named "key"), generating .pending),
        (.payload caller "k", generating .pending),
        (.payload caller "k", generating (.active "secret")),
        (.check caller "k", generating .pending)]
    played.2.get caller.tenant "k" = .ok ⟨"k", some "secret", some "order"⟩ ∧
      MovesForward (.table true []) played.1 played.2 := by
  intro caller played
  have promoted : played.2.get caller.tenant "k" = .ok ⟨"k", some "secret", some "order"⟩ := by
    decide +kernel
  have named : Named played.1.calls := by
    unfold Named
    decide +kernel
  exact ⟨promoted, entries_only_move_forward (.inl rfl) (performs_play _ _) named⟩

end

end KeyCustody.Keystore

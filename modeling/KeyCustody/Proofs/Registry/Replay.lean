import KeyCustody.Proofs.Path
import KeyCustody.Proofs.Registry.Agreement
import KeyCustody.Proofs.World

/-!
# Stores replayed from traces

Where a call that fails has no effect, the calls that have succeeded say what the store holds, so the
store can be told at every moment of a run and not only at its end.
-/

namespace KeyCustody

/-- Whether a call may change what stands in the registry. -/
def Call.altersRegistry : Call → Bool
  | addEntry .. | updateEntry .. | deleteEntry .. => true
  | _ => false

namespace Registry.Store

open Program

variable {s s' : Store} {t t' : Trace} {tenant tenant' : Tenant} {e : Entry} {id id' : String}

/-- The store after a call that was answered. -/
def after (s : Store) : Event → Store
  | ⟨.addEntry tenant e, .ok _⟩ => (s.add tenant e).2
  | ⟨.updateEntry tenant e, .ok _⟩ => (s.update tenant e).2
  | ⟨.deleteEntry tenant id, .ok _⟩ => (s.delete tenant id).2
  | _ => s

def replay (t : Trace) (s : Store) : Store := t.foldl after s

@[simp] theorem replay_nil : s.replay [] = s := rfl

@[simp] theorem replay_cons {v : Event} : s.replay (v :: t) = (s.after v).replay t := rfl

@[simp] theorem replay_append : s.replay (t ++ t') = (s.replay t).replay t' := List.foldl_append

/-- A call leaves the store, or has added, updated or deleted an entry. -/
theorem after_cases (s : Store) (v : Event) : s.after v = s ∨
    (∃ tenant e, v.call = .addEntry tenant e ∧ s.add tenant e = (.ok (), s.after v)) ∨
    (∃ tenant e, v.call = .updateEntry tenant e ∧ s.update tenant e = (.ok (), s.after v)) ∨
    ∃ tenant id, v = ⟨.deleteEntry tenant id, .ok ()⟩ ∧ s.after v = (s.delete tenant id).2 := by
  obtain ⟨c, x⟩ := v
  cases c with
  | addEntry tenant e =>
    cases x with
    | error _ => exact .inl rfl
    | ok _ =>
      cases added : (s.add tenant e).1 with
      | error _ => exact .inl (add_error added)
      | ok _ => exact .inr (.inl ⟨tenant, e, rfl, Prod.ext added rfl⟩)
  | updateEntry tenant e =>
    cases x with
    | error _ => exact .inl rfl
    | ok _ =>
      cases updated : (s.update tenant e).1 with
      | error _ => exact .inl (update_error updated)
      | ok _ => exact .inr (.inr (.inl ⟨tenant, e, rfl, Prod.ext updated rfl⟩))
  | deleteEntry tenant id =>
    cases x with
    | error _ => exact .inl rfl
    | ok _ => exact .inr (.inr (.inr ⟨tenant, id, rfl, rfl⟩))
  | _ => exact .inl rfl

/-- How a store goes on from a call that it has answered: a call that is in vain leaves it. -/
inductive Turn (s : Store) : Event → Store → Prop
  | idle {v : Event} (unadded : ∀ tenant e, v ≠ ⟨.addEntry tenant e, .ok ()⟩)
      (unwritten : ∀ tenant e, v ≠ ⟨.updateEntry tenant e, .ok ()⟩)
      (undeleted : ∀ tenant id, v ≠ ⟨.deleteEntry tenant id, .ok ()⟩) : Turn s v s
  | added {tenant : Tenant} {e : Entry} {s' : Store} (added : s.add tenant e = (.ok (), s')) :
      Turn s ⟨.addEntry tenant e, .ok ()⟩ s'
  | updated {tenant : Tenant} {e : Entry} {s' : Store} (updated : s.update tenant e = (.ok (), s')) :
      Turn s ⟨.updateEntry tenant e, .ok ()⟩ s'
  | deleted {tenant : Tenant} {id : String} {s' : Store} (deleted : s.delete tenant id = (.ok (), s')) :
      Turn s ⟨.deleteEntry tenant id, .ok ()⟩ s'

theorem turn_of_world {v : Event} (answered : world .clean v.call s v.answer s') : Turn s v s' := by
  obtain ⟨c, x⟩ := v
  cases c with
  | addEntry tenant e =>
    have admitted : Fault.clean.Admits (s.add tenant e) s x s' := answered
    cases x with
    | ok _ => exact .added admitted.ok
    | error _ =>
      obtain rfl := admitted.error fun _ => add_error
      exact .idle nofun nofun nofun
  | updateEntry tenant e =>
    have admitted : Fault.clean.Admits (s.update tenant e) s x s' := answered
    cases x with
    | ok _ => exact .updated admitted.ok
    | error _ =>
      obtain rfl := admitted.error fun _ => update_error
      exact .idle nofun nofun nofun
  | deleteEntry tenant id =>
    have admitted : Fault.clean.Admits (s.delete tenant id) s x s' := answered
    cases x with
    | ok _ => exact .deleted admitted.ok
    | error _ =>
      obtain rfl := admitted.error fun _ => delete_error
      exact .idle nofun nofun nofun
  | getEntry tenant id =>
    have admitted : Fault.clean.Admits (s.get tenant id, s) s x s' := answered
    obtain rfl := admitted.lookup.1
    exact .idle nofun nofun nofun
  | _ =>
    obtain rfl : s' = s := answered
    exact .idle nofun nofun nofun

theorem Turn.after {v : Event} (h : Turn s v s') : s' = s.after v := by
  cases h with
  | idle unadded unwritten undeleted =>
    obtain ⟨c, x⟩ := v
    cases c with
    | addEntry tenant e => cases x with | ok _ => exact absurd rfl (unadded tenant e) | error _ => rfl
    | updateEntry tenant e => cases x with | ok _ => exact absurd rfl (unwritten tenant e) | error _ => rfl
    | deleteEntry tenant id => cases x with | ok _ => exact absurd rfl (undeleted tenant id) | error _ => rfl
    | _ => rfl
  | added added => exact (congrArg Prod.snd added).symm
  | updated updated => exact (congrArg Prod.snd updated).symm
  | deleted deleted => exact (congrArg Prod.snd deleted).symm

theorem world_after {c : Call} {x : c.Answer} (answered : world .clean c s x s') :
    s' = s.after ⟨c, x⟩ :=
  (turn_of_world (v := ⟨c, x⟩) answered).after

theorem after_of_unaltered {v : Event} (apart : v.call.altersRegistry = false) : s.after v = s := by
  obtain ⟨c, x⟩ := v
  cases c with
  | addEntry | updateEntry | deleteEntry => cases apart
  | _ => rfl

/-- Calls lead to the store that they replay to. -/
theorem path_replay (h : Path (world .clean) s t s') : s' = s.replay t := by
  induction h with
  | nil => rfl
  | cons answered _ ih => rw [ih, world_after answered, replay_cons]

/-- A run leaves the store that its trace replays to. -/
theorem run_replay {α : Type} {p : Action α} {a : α} (h : Run (world .clean) p s t a s') :
    s' = s.replay t :=
  path_replay h.path

theorem sound_after (sound : s.Sound) (v : Event) : (s.after v).Sound := by
  obtain same | ⟨tenant, e, -, added⟩ | ⟨tenant, e, -, updated⟩ | ⟨tenant, id, -, same⟩ := s.after_cases v
  · rwa [same]
  · exact (enters_add added).sound sound
  · exact (enters_update updated).sound sound
  · rw [same]
    exact sound_delete sound

theorem sound_replay (sound : s.Sound) : (s.replay t).Sound := by
  induction t generalizing s with
  | nil => exact sound
  | cons v t ih => exact ih (sound_after sound v)

theorem isMap_after {v : Event} : (s.after v).isMap = s.isMap := by
  obtain ⟨c, x⟩ := v
  cases c with
  | addEntry => cases x with | ok _ => exact isMap_add | error _ => rfl
  | updateEntry => cases x with | ok _ => exact isMap_update | error _ => rfl
  | deleteEntry => cases x with | ok _ => exact isMap_delete | error _ => rfl
  | _ => rfl

theorem isMap_of_path (h : Path (world .clean) s t s') : s'.isMap = s.isMap := by
  refine h.along (fun _ s' => s'.isMap = s.isMap) [] ?_ rfl
  rintro _ s₁ v s₂ - same answered
  rw [world_after answered]
  exact isMap_after.trans same

/-- Only a map takes an update of an entry that does not stand. -/
theorem isMap_of_update (absent : s.live? tenant e.issuedId = none)
    (h : s.update tenant e = (.ok (), s')) : s.isMap = true := by
  obtain ⟨rows, rows', rfl, rfl, updated⟩ | ⟨entries, entries', rfl, rfl, -⟩ := update_ok h
  · obtain ⟨-, live, -⟩ := Table.update_ok updated
    have none : rows.live? tenant e.issuedId = none := absent
    rw [Table.any_isLive, none] at live
    cases live
  · rfl

end Registry.Store

end KeyCustody

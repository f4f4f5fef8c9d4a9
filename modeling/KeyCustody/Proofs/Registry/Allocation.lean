import KeyCustody.Proofs.Keystore.Frame
import KeyCustody.Proofs.Registry.Lookup
import KeyCustody.Proofs.World

/-!
# Runs of allocations

Candidates that are found to be taken, and then the end of the search: too many of them, a lookup that
fails, or the entry added under a candidate that is free.
-/

namespace KeyCustody

open Program

/-- The calls of an allocation: it draws candidates, looks them up, and adds its entry. -/
def Call.searches : Call → Bool
  | drawIdentifier | getEntry .. | addEntry .. => true
  | _ => false

namespace Registry

variable {f : Fault} {tenant : Tenant} {e : Entry} {tries left : Nat} {s s' : Store} {t : Trace}
  {r : Except Error String}

/-- The calls that draw a candidate and look it up. -/
def probe (tenant : Tenant) (id : String) (x : Except Error Entry) : Trace :=
  [⟨.drawIdentifier, id⟩, ⟨.getEntry tenant id, x⟩]

/-- The calls that find candidates taken by entries. -/
def probes (tenant : Tenant) (found : List (String × Entry)) : Trace :=
  found.flatMap fun p => probe tenant p.1 (.ok p.2)

/-- How the search for a free identifier goes on after the candidates that are taken. -/
inductive Search (f : Fault) (tenant : Tenant) (e : Entry) (tries : Nat) (s : Store) :
    Nat → Trace → Except Error String → Store → Prop
  | noneLeft : Search f tenant e tries s 0 [] (.error (noneFree tries)) s
  | failed {left : Nat} {error : Error} (id : String) (other : error.isNotFound = false) :
    Search f tenant e tries s left (probe tenant id (.error error)) (.error error) s
  | added {left : Nat} {error : Error} {s' : Store} (id : String) (x : Except Error Unit)
    (free : error.isNotFound = true)
    (answered : f.Admits (s.add tenant { e with issuedId := id }) s x s') :
    Search f tenant e tries s left
      (probe tenant id (.error error) ++ [⟨.addEntry tenant { e with issuedId := id }, x⟩])
      (x.map fun () => id) s'

theorem run_allocateWithin
    (h : Run (Store.world f) (allocateWithin tries Action.registry
      (Call.candidates Action.make tries).draw tenant e left).run s t r s') :
    ∃ found last rest, t = probes tenant found ++ last ∧ left = found.length + rest ∧
      Search f tenant e tries s rest last r s' := by
  induction left generalizing t with
  | zero =>
    obtain ⟨rfl, rfl, rfl⟩ := Run.throw_iff.1 h
    exact ⟨[], [], 0, rfl, rfl, .noneLeft⟩
  | succ left ih =>
    unfold allocateWithin at h
    obtain ⟨_, id, s, _, rfl, drawn, looked⟩ := Run.bind_iff.1 h
    obtain ⟨rfl, rfl⟩ := Run.ask_iff.1 drawn
    obtain ⟨_, x, s₁, _, rfl, asked, ended⟩ := Run.bind_iff.1 looked
    obtain ⟨rfl, answered⟩ := Run.ask_iff.1 asked
    have kept : f.Admits (s.get tenant id, s) s x s₁ := answered
    obtain ⟨rfl, -⟩ := kept.lookup
    cases x with
    | ok e' =>
      obtain ⟨found, last, rest, rfl, rfl, search⟩ := ih ended
      exact ⟨(id, e') :: found, last, rest, rfl, by simp; omega, search⟩
    | error error =>
      by_cases free : error.isNotFound = true
      · simp only [free, if_true] at ended
        obtain ⟨_, x, _, _, rfl, asked, passed⟩ := Run.bind_iff.1 ended
        obtain ⟨rfl, added⟩ := Run.ask_iff.1 asked
        obtain ⟨rfl, rfl, rfl⟩ := Run.pure_iff.1 passed
        exact ⟨[], _, left + 1, rfl, by simp, .added id x free added⟩
      · simp only [free, Bool.false_eq_true, if_false] at ended
        obtain ⟨rfl, rfl, rfl⟩ := Run.pure_iff.1 ended
        exact ⟨[], _, left + 1, rfl, by simp, .failed id (by simpa using free)⟩

/-- An allocation finds candidates taken, and then its search ends. -/
theorem run_allocate
    (h : Run (Store.world f) (Action.registry.allocate (Call.candidates Action.make tries) tenant
      e).run s t r s') :
    ∃ found last rest, t = probes tenant found ++ last ∧ tries = found.length + rest ∧
      Search f tenant e tries s rest last r s' :=
  run_allocateWithin h

/-- An allocation that ends well has added the entry under the identifier that it returns. -/
theorem add_of_run_allocate {id : String}
    (h : Run (Store.world f) (Action.registry.allocate (Call.candidates Action.make tries) tenant
      e).run s t (.ok id) s') : s.add tenant { e with issuedId := id } = (.ok (), s') := by
  obtain ⟨found, last, rest, -, -, search⟩ := run_allocate h
  generalize ended : (.ok id : Except Error String) = r at search
  cases search with
  | noneLeft => cases ended
  | failed => cases ended
  | added id' x free answered =>
    cases x with
    | error _ => cases ended
    | ok _ =>
      obtain rfl := Except.ok.inj ended
      exact answered.ok

/-- An allocation that fails leaves the store. -/
theorem store_of_run_allocate {error : Error}
    (h : Run (Store.world .clean) (Action.registry.allocate (Call.candidates Action.make tries) tenant
      e).run s t (.error error) s') : s' = s := by
  obtain ⟨found, last, rest, -, -, search⟩ := run_allocate h
  generalize ended : (.error error : Except Error String) = r at search
  cases search with
  | noneLeft | failed => rfl
  | added id x free answered =>
    cases x with
    | ok _ => cases ended
    | error _ => exact answered.error fun _ => Store.add_error

/-! ## What an allocation calls -/

theorem searches_allocateWithin :
    (allocateWithin tries Action.registry (Call.candidates Action.make tries).draw tenant e
      left).run.Keeps (Call.searches · = true) fun _ => True :=
  keeps_allocateWithin rfl (fun _ => rfl) fun _ => rfl

end Registry

end KeyCustody

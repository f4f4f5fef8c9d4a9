import KeyCustody.Ledger
import KeyCustody.Proofs.Run
import Mathlib.Data.List.DropRight
import Mathlib.Data.List.Nodup

/-!
# Ledgers in use

A ledger is entered into, completed and cleaned in any order, and every compensation may succeed or fail
whenever it runs. What is pending is what has been entered and has neither run nor been dropped, the latest
first: so nothing runs twice, and a cleaning goes on where one that was halted left off.
-/

namespace KeyCustody.Ledger

open Program

inductive Command where
  | enter
  | complete
  | clean
  deriving DecidableEq

/-- Programs in which compensations run: each run is a call, answered by how it ends. -/
abbrev Running := Program Nat fun _ => Except Error Unit

/-- The number of a compensation that ran, with its outcome. -/
abbrev Undoing := Program.Event Nat fun _ => Except Error Unit

/-- Compensations are numbered in the order in which they are entered. -/
def compensation (label : Nat → String) (n : Nat) : Compensation Running :=
  ⟨label n, ExceptT.mk (ask n)⟩

/-- Does what is commanded; a compensation that is entered gets the number given. -/
def obey (label : Nat → String) (n : Nat) (l : Ledger Running) :
    Command → Running (Option Outcome × Ledger Running)
  | .enter => return (none, l.enter (compensation label n))
  | .complete => return (none, l.complete)
  | .clean => return (← l.clean).map some id

/-- A command with the compensations that ran for it, and how a cleaning ended. -/
structure Deed where
  command : Command
  ran : List Undoing
  outcome : Option Outcome

abbrev History := List Deed

namespace History

variable (h : History)

def entered : Nat := h.countP (·.command = .enter)

/-- Those who have run, in the order in which they have. -/
def ran : List Nat := (h.flatMap Deed.ran).map (·.call)

def Completed : Prop := ∃ d ∈ h, d.command = .complete

/-- How many had been entered when the ledger was completed last. -/
def dropped : Nat := entered (h.rdropWhile (·.command ≠ .complete))

/-- Those who are yet to run, the latest first. -/
def waiting : List Nat := (List.range h.entered).reverse.filter fun n => h.dropped ≤ n ∧ n ∉ h.ran

end History

/-- The histories of a ledger that is empty at first. -/
inductive Uses {σ : Type} (w : Program.World Nat (fun _ => Except Error Unit) σ) (label : Nat → String) (s₀ : σ) :
    History → σ → Ledger Running → Prop
  | start : Uses w label s₀ [] s₀ .empty
  | obey {h : History} {s s' : σ} {l l' : Ledger Running} {command : Command} {t : List Undoing}
      {outcome : Option Outcome} (uses : Uses w label s₀ h s l)
      (obeyed : Run w (obey label h.entered l command) s t (outcome, l') s') :
      Uses w label s₀ (h ++ [⟨command, t, outcome⟩]) s' l'

/-- How a cleaning goes where some are waiting: each in its turn, up to the first that fails; those behind
it go on waiting. -/
inductive Cleaned (waiting : List Nat) : List Undoing → Option Outcome → List Nat → Prop
  | undone : Cleaned waiting (waiting.map fun n => ⟨n, .ok ()⟩) (some .undone) []
  | halted {later earlier : List Nat} {n : Nat} {error : Error} (split : waiting = later ++ n :: earlier) :
      Cleaned waiting ((later.map fun n => ⟨n, .ok ()⟩) ++ [⟨n, .error error⟩]) (some (.halted error)) earlier

/-! ## What is waiting -/

namespace History

variable {h : History} {d : Deed} {n : Nat}

theorem entered_snoc : entered (h ++ [d]) = h.entered + if d.command = .enter then 1 else 0 := by
  simp [entered, List.countP_append, List.countP_singleton]

theorem entered_le : h.entered ≤ entered (h ++ [d]) :=
  (Nat.le_add_right _ _).trans_eq entered_snoc.symm

theorem ran_snoc : ran (h ++ [d]) = h.ran ++ d.ran.map (·.call) := by
  simp [ran]

theorem completed_snoc : Completed (h ++ [d]) ↔ h.Completed ∨ d.command = .complete := by
  simp [Completed, or_and_right, exists_or]

theorem dropped_snoc : dropped (h ++ [d]) = if d.command = .complete then h.entered else h.dropped := by
  by_cases completes : d.command = .complete <;> simp [dropped, completes, entered_snoc]

theorem dropped_le : h.dropped ≤ h.entered :=
  (List.rdropWhile_prefix _ _).sublist.countP_le

theorem mem_waiting : n ∈ h.waiting ↔ n < h.entered ∧ h.dropped ≤ n ∧ n ∉ h.ran := by
  simp [waiting]

theorem nodup_waiting : h.waiting.Nodup :=
  (List.nodup_reverse.2 List.nodup_range).filter _

theorem waiting_enter {outcome : Option Outcome} (known : ∀ n ∈ h.ran, n < h.entered) :
    waiting (h ++ [⟨.enter, [], outcome⟩]) = h.entered :: h.waiting := by
  have fresh : h.entered ∉ h.ran := fun member => Nat.lt_irrefl _ (known _ member)
  have entered : entered (h ++ [⟨.enter, [], outcome⟩]) = h.entered + 1 := entered_snoc
  have dropped : dropped (h ++ [⟨.enter, [], outcome⟩]) = h.dropped := dropped_snoc
  have ran : ran (h ++ [⟨.enter, [], outcome⟩]) = h.ran := ran_snoc.trans (List.append_nil _)
  unfold waiting
  rw [entered, dropped, ran, List.range_succ, List.reverse_append, List.reverse_singleton,
    List.singleton_append]
  exact List.filter_cons_of_pos (by simp [fresh, dropped_le])

theorem waiting_complete {outcome : Option Outcome} : waiting (h ++ [⟨.complete, [], outcome⟩]) = [] := by
  refine List.eq_nil_iff_forall_not_mem.2 fun n member => ?_
  obtain ⟨entered, dropped, -⟩ := mem_waiting.1 member
  rw [entered_snoc] at entered
  rw [dropped_snoc] at dropped
  exact absurd entered (Nat.not_lt.2 dropped)

theorem waiting_clean {t : List Undoing} {outcome : Option Outcome} :
    waiting (h ++ [⟨.clean, t, outcome⟩]) = h.waiting.filter (· ∉ t.map (·.call)) := by
  have entered : entered (h ++ [⟨.clean, t, outcome⟩]) = h.entered := entered_snoc
  have dropped : dropped (h ++ [⟨.clean, t, outcome⟩]) = h.dropped := dropped_snoc
  unfold waiting
  rw [entered, dropped, ran_snoc, List.filter_filter]
  refine List.filter_congr fun n _ => ?_
  rw [← Bool.decide_and]
  exact decide_eq_decide.2 (by rw [List.mem_append, not_or]; tauto)

end History

/-! ## Cleaning -/

section
variable {ns ns' : List Nat} {t : List Undoing} {outcome : Option Outcome}

theorem Cleaned.ran_prefix (h : Cleaned ns t outcome ns') : t.map (·.call) <+: ns := by
  cases h with
  | undone => simp [Function.comp_def]
  | halted split =>
    subst split
    simp [Function.comp_def]

theorem Cleaned.waiting (h : Cleaned ns t outcome ns') (nodup : ns.Nodup) :
    ns.filter (· ∉ t.map (·.call)) = ns' := by
  have ran : ∀ later : List Nat, (later.map fun n => (⟨n, .ok ()⟩ : Undoing)).map (·.call) = later := by
    simp [Function.comp_def]
  cases h with
  | undone =>
    rw [ran]
    exact List.filter_eq_nil_iff.2 (by simp)
  | @halted later earlier n error split =>
    subst split
    have apart := List.disjoint_of_nodup_append nodup
    rw [List.map_append, ran, List.map_singleton, List.filter_append, List.filter_cons_of_neg (by simp)]
    have none : later.filter (· ∉ later ++ [n]) = [] := List.filter_eq_nil_iff.2 (by simp +contextual)
    rw [none, List.nil_append]
    refine List.filter_eq_self.2 fun k member => ?_
    have other : k ≠ n := fun same => (List.nodup_cons.1 nodup.of_append_right).1 (same ▸ member)
    have earlier : k ∉ later := fun member' => apart member' (List.mem_cons_of_mem n member)
    simp [other, earlier]

variable {σ : Type} {w : Program.World Nat (fun _ => Except Error Unit) σ} {label : Nat → String} {s s' : σ}

theorem run_undoAll_compensations {rest : List (Compensation Running)} {last : Outcome}
    (h : Run w (undoAll (ns.map (compensation label))) s t (last, rest) s') :
    ∃ ns', rest = ns'.map (compensation label) ∧ Cleaned ns t (some last) ns' := by
  induction ns generalizing s t with
  | nil =>
    obtain ⟨rfl, same, -⟩ := Run.pure_iff.1 h
    obtain ⟨rfl, rfl⟩ := Prod.mk.inj same
    exact ⟨[], rfl, .undone⟩
  | cons n ns ih =>
    rw [List.map_cons] at h
    unfold undoAll at h
    obtain ⟨_, x, s₁, t₂, rfl, undone, others⟩ := Run.bind_iff.1 h
    obtain ⟨rfl, -⟩ := Run.ask_iff.1 undone
    cases x with
    | error error =>
      obtain ⟨rfl, same, -⟩ := Run.pure_iff.1 others
      obtain ⟨rfl, rfl⟩ := Prod.mk.inj same
      exact ⟨ns, rfl, @Cleaned.halted _ [] ns n error rfl⟩
    | ok _ =>
      obtain ⟨ns', rfl, cleaned⟩ := ih others
      refine ⟨ns', rfl, ?_⟩
      cases cleaned with
      | undone => exact .undone
      | @halted later _ n' error split => exact @Cleaned.halted _ (n :: later) ns' n' error (congrArg (n :: ·) split)

theorem run_clean {l l' : Ledger Running} {last : Outcome} (incomplete : l.completed = false)
    (pending : l.pending = ns.map (compensation label)) (h : Run w l.clean s t (last, l') s') :
    ∃ ns', l' = ⟨ns'.map (compensation label), false⟩ ∧ Cleaned ns t (some last) ns' := by
  unfold clean at h
  rw [incomplete, if_neg Bool.false_ne_true, pending] at h
  obtain ⟨t₁, ⟨outcome, rest⟩, _, _, rfl, undone, passed⟩ := Run.bind_iff.1 h
  obtain ⟨rfl, same, -⟩ := Run.pure_iff.1 passed
  obtain ⟨rfl, rfl⟩ := Prod.mk.inj same
  obtain ⟨ns', rfl, cleaned⟩ := run_undoAll_compensations undone
  rw [List.append_nil]
  exact ⟨ns', rfl, cleaned⟩

theorem run_clean_completed {l l' : Ledger Running} {last : Outcome} (completed : l.completed = true)
    (h : Run w l.clean s t (last, l') s') : t = [] ∧ last = .refused ∧ l' = l := by
  unfold clean at h
  rw [completed, if_pos rfl] at h
  obtain ⟨rfl, same, -⟩ := Run.pure_iff.1 h
  obtain ⟨rfl, rfl⟩ := Prod.mk.inj same
  exact ⟨rfl, rfl, rfl⟩

end

/-! ## Commands in any order -/

/-- How a command is obeyed after others, and who is waiting then. -/
inductive Obeyed (before : History) : Deed → Prop
  | entered (waiting : History.waiting (before ++ [⟨.enter, [], none⟩]) = before.entered :: before.waiting) :
      Obeyed before ⟨.enter, [], none⟩
  | completed (waiting : History.waiting (before ++ [⟨.complete, [], none⟩]) = []) :
      Obeyed before ⟨.complete, [], none⟩
  | cleaned {t : List Undoing} {outcome : Option Outcome} (incomplete : ¬ before.Completed)
      (waiting : Cleaned before.waiting t outcome (History.waiting (before ++ [⟨.clean, t, outcome⟩]))) :
      Obeyed before ⟨.clean, t, outcome⟩
  | refused (completed : before.Completed)
      (waiting : History.waiting (before ++ [⟨.clean, [], some .refused⟩]) = before.waiting) :
      Obeyed before ⟨.clean, [], some .refused⟩

/-- A ledger after a history in which no compensation has run twice. -/
structure OneShot (label : Nat → String) (h : History) (l : Ledger Running) : Prop where
  once : h.ran.Nodup
  /-- Only those who were entered have run. -/
  known : ∀ n ∈ h.ran, n < h.entered
  pending : l.pending = h.waiting.map (compensation label)
  completed : l.completed = true ↔ h.Completed
  obeyed : ∀ before d after, h = before ++ d :: after → Obeyed before d

section
variable {σ : Type} {w : Program.World Nat (fun _ => Except Error Unit) σ} {label : Nat → String}
  {s₀ s s' : σ} {h : History} {l l' : Ledger Running} {command : Command} {t : List Undoing}
  {outcome : Option Outcome} {d : Deed}

theorem oneShot_empty : OneShot label [] .empty where
  once := List.nodup_nil
  known := List.forall_mem_nil _
  pending := rfl
  completed := by simp [empty, History.Completed]
  obeyed before d after same := by simp at same

theorem OneShot.obeyed_snoc (tidy : OneShot label h l) (last : Obeyed h d) (before : History) (e : Deed)
    (after : History) (same : h ++ [d] = before ++ e :: after) : Obeyed before e := by
  obtain ⟨rest, rfl, split⟩ | ⟨rest, rfl, split⟩ := List.append_eq_append_iff.1 same
  · cases rest with
    | nil =>
      obtain ⟨rfl, -⟩ := List.cons.inj split
      rwa [List.append_nil]
    | cons _ _ => simp at split
  · cases rest with
    | nil =>
      obtain ⟨rfl, -⟩ := List.cons.inj split
      rwa [List.append_nil] at last
    | cons x rest =>
      obtain ⟨rfl, -⟩ := List.cons.inj split
      exact tidy.obeyed before _ rest rfl

theorem OneShot.enter (tidy : OneShot label h l) :
    OneShot label (h ++ [⟨.enter, [], none⟩]) (l.enter (compensation label h.entered)) := by
  have ran : History.ran (h ++ [⟨.enter, [], none⟩]) = h.ran := History.ran_snoc.trans (List.append_nil _)
  have waiting : History.waiting (h ++ [⟨.enter, [], none⟩]) = h.entered :: h.waiting :=
    History.waiting_enter tidy.known
  refine ⟨ran ▸ tidy.once, fun n member => ?_, ?_, ?_, tidy.obeyed_snoc (.entered waiting)⟩
  · rw [ran] at member
    exact (tidy.known n member).trans_le History.entered_le
  · rw [waiting, List.map_cons, ← tidy.pending]
    rfl
  · rw [History.completed_snoc]
    exact tidy.completed.trans (or_iff_left nofun).symm

theorem OneShot.complete (tidy : OneShot label h l) :
    OneShot label (h ++ [⟨.complete, [], none⟩]) l.complete := by
  have ran : History.ran (h ++ [⟨.complete, [], none⟩]) = h.ran := History.ran_snoc.trans (List.append_nil _)
  have waiting : History.waiting (h ++ [⟨.complete, [], none⟩]) = [] := History.waiting_complete
  refine ⟨ran ▸ tidy.once, fun n member => ?_, ?_, ?_, tidy.obeyed_snoc (.completed waiting)⟩
  · rw [ran] at member
    exact (tidy.known n member).trans_le History.entered_le
  · rw [waiting]
    rfl
  · rw [History.completed_snoc]
    exact iff_of_true rfl (.inr rfl)

theorem OneShot.refuse (tidy : OneShot label h l) (completed : l.completed = true) :
    OneShot label (h ++ [⟨.clean, [], some .refused⟩]) l := by
  have ran : History.ran (h ++ [⟨.clean, [], some .refused⟩]) = h.ran :=
    History.ran_snoc.trans (List.append_nil _)
  have waiting : History.waiting (h ++ [⟨.clean, [], some .refused⟩]) = h.waiting :=
    History.waiting_clean.trans (List.filter_eq_self.2 (by simp))
  refine ⟨ran ▸ tidy.once, fun n member => ?_, waiting ▸ tidy.pending, ?_,
    tidy.obeyed_snoc (.refused (tidy.completed.1 completed) waiting)⟩
  · rw [ran] at member
    exact (tidy.known n member).trans_le History.entered_le
  · rw [History.completed_snoc]
    exact tidy.completed.trans (or_iff_left nofun).symm

theorem OneShot.clean (tidy : OneShot label h l) (incomplete : l.completed = false) {ns : List Nat}
    (cleaned : Cleaned h.waiting t outcome ns) :
    OneShot label (h ++ [⟨.clean, t, outcome⟩]) ⟨ns.map (compensation label), false⟩ := by
  have waiting : History.waiting (h ++ [⟨.clean, t, outcome⟩]) = ns :=
    History.waiting_clean.trans (cleaned.waiting History.nodup_waiting)
  have ran : ∀ n ∈ t.map (·.call), n ∈ h.waiting := fun n => (cleaned.ran_prefix.subset ·)
  have open_ : ¬ h.Completed := fun completed => by simp [tidy.completed.2 completed] at incomplete
  refine ⟨?_, fun n member => ?_, by rw [waiting], ?_, tidy.obeyed_snoc (.cleaned open_ (waiting ▸ cleaned))⟩
  · rw [History.ran_snoc]
    refine tidy.once.append (cleaned.ran_prefix.sublist.nodup History.nodup_waiting) fun n before now => ?_
    exact (History.mem_waiting.1 (ran n now)).2.2 before
  · rw [History.ran_snoc, List.mem_append] at member
    have earlier : n < h.entered := member.elim (tidy.known n) fun now => (History.mem_waiting.1 (ran n now)).1
    exact earlier.trans_le History.entered_le
  · rw [History.completed_snoc]
    exact iff_of_false Bool.false_ne_true (not_or.2 ⟨open_, nofun⟩)

theorem OneShot.obey (tidy : OneShot label h l)
    (obeyed : Run w (obey label h.entered l command) s t (outcome, l') s') :
    OneShot label (h ++ [⟨command, t, outcome⟩]) l' := by
  cases command with
  | enter =>
    obtain ⟨rfl, same, -⟩ := Run.pure_iff.1 obeyed
    obtain ⟨rfl, rfl⟩ := Prod.mk.inj same
    exact tidy.enter
  | complete =>
    obtain ⟨rfl, same, -⟩ := Run.pure_iff.1 obeyed
    obtain ⟨rfl, rfl⟩ := Prod.mk.inj same
    exact tidy.complete
  | clean =>
    obtain ⟨_, ⟨last, l'⟩, _, _, rfl, cleaned, passed⟩ := Run.bind_iff.1 obeyed
    obtain ⟨rfl, same, -⟩ := Run.pure_iff.1 passed
    obtain ⟨rfl, rfl⟩ := Prod.mk.inj same
    rw [List.append_nil]
    cases completed : l.completed with
    | true =>
      obtain ⟨rfl, rfl, rfl⟩ := run_clean_completed completed cleaned
      exact tidy.refuse completed
    | false =>
      obtain ⟨_, rfl, ran⟩ := run_clean completed tidy.pending cleaned
      exact tidy.clean completed ran

/-- However a ledger is used, no compensation runs twice. A cleaning runs those that are waiting, the latest
first and up to the first that fails, and is refused once the ledger is completed. -/
theorem compensations_run_once (uses : Uses w label s₀ h s l) : OneShot label h l := by
  induction uses with
  | start => exact oneShot_empty
  | obey _ obeyed ih => exact ih.obey obeyed

/-- What comes of more commands where a state answers for the compensations. -/
def play (label : Nat → String) (answer : σ → (n : Nat) → Except Error Unit × σ) :
    History → σ → Ledger Running → List Command → History × σ × Ledger Running
  | h, s, l, [] => (h, s, l)
  | h, s, l, c :: rest =>
    let p := Ledger.obey label h.entered l c
    let ended := p.run answer s
    play label answer (h ++ [⟨c, p.trace answer s, ended.1.1⟩]) ended.2 ended.1.2 rest

theorem uses_play {answer : σ → (n : Nat) → Except Error Unit × σ}
    (allowed : ∀ s n, w n s (answer s n).1 (answer s n).2) (commands : List Command)
    (uses : Uses w label s₀ h s l) :
    Uses w label s₀ (play label answer h s l commands).1 (play label answer h s l commands).2.1
      (play label answer h s l commands).2.2 := by
  induction commands generalizing h s l with
  | nil => exact uses
  | cons c commands ih => exact ih (.obey uses (Run.of_answers allowed _ _))

/-- The second of three compensations fails, so that the first waits for the next cleaning, which comes when
a fourth has been entered. What is entered after that and completed never runs. -/
theorem compensations_run_once_of_halted :
    let down : Error := .internal "down"
    let answer (_ : Unit) (n : Nat) : Except Error Unit × Unit := (if n = 1 then .error down else .ok (), ())
    let played := play (fun _ => "undo") answer [] () .empty
      [.enter, .enter, .enter, .clean, .enter, .clean, .enter, .complete, .enter, .clean]
    played.1.ran = [2, 1, 3, 0] ∧
      played.1.filterMap Deed.outcome = [.halted down, .undone, .refused] ∧
      OneShot (fun _ => "undo") played.1 played.2.2 := by
  intro down answer played
  have uses : Uses (fun n s x s' => (x, s') = answer s n) (fun _ => "undo") () played.1 played.2.1 played.2.2 :=
    uses_play (fun _ _ => rfl) _ .start
  exact ⟨by decide +kernel, by decide +kernel, compensations_run_once uses⟩

end

end KeyCustody.Ledger

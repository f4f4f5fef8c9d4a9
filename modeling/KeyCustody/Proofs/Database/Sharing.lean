import KeyCustody.Database.Pool
import KeyCustody.Proofs.Run
import Mathlib.Data.Set.Basic

/-!
# The shared pool

Whoever asks for the shared pool gets the one that is in its place, as long as that is open. Of all pools that have been
handed out only the last one can be open.
-/

namespace KeyCustody.Database

open Program

variable {P : Type}

/-! ## What databases are asked -/

namespace Sqlite

/-- The operations as what databases are asked. -/
inductive Question (P : Type) where
  | connect (d : Settings.Database) (l : Location)
  | isClosed (pool : P)
  | ping (pool : P)
  | createTable (pool : P)

def Question.Answer : Question P → Type
  | connect .. => Option P
  | isClosed _ | ping _ | createTable _ => Bool

abbrev Dialogue (P : Type) := Program (Question P) Question.Answer

abbrev Calls (P : Type) := List (Program.Event (Question P) Question.Answer)

def asked : Sqlite (Dialogue P) P where
  connect d l := ask (Question.connect d l)
  isClosed pool := ask (Question.isClosed pool)
  ping pool := ask (Question.ping pool)
  createTable pool := ask (Question.createTable pool)

/-- How databases may answer, by the pools that are closed. Meanwhile more pools may be closed, but none is opened
again. -/
def world : Program.World (Question P) Question.Answer (Set P)
  | .isClosed pool, closed, x, closed' => (x = true ↔ pool ∈ closed) ∧ closed' = closed
  | .connect .., closed, _, closed' => closed ⊆ closed'
  | .ping _, closed, _, closed' => closed ⊆ closed'
  | .createTable _, closed, _, closed' => closed ⊆ closed'

variable {α : Type} {p : Dialogue P α} {t : Calls P} {a : α} {closed closed' : Set P}

theorem world_closed {c : Question P} {x : c.Answer} (answered : world c closed x closed') : closed ⊆ closed' := by
  cases c with
  | isClosed pool => exact answered.2 ▸ subset_rfl
  | connect | ping | createTable => exact answered

theorem closed_of_run (h : Run world p closed t a closed') : closed ⊆ closed' := by
  have kept : ∀ (c : Question P) s x s', closed ⊆ s → world c s x s' → closed ⊆ s' :=
    fun _ _ _ _ sofar answered => sofar.trans (world_closed answered)
  exact h.invariant kept subset_rfl

end Sqlite

open Sqlite

/-! ## One request -/

/-- What is in the place of the shared pool after an attempt to open one. -/
def placed (slot : Option P) : Except Error P → Option P
  | .ok pool => some pool
  | .error _ => slot

section
variable {m : Type → Type} [Monad m] [LawfulMonad m] (sqlite : Sqlite m P) (d : Settings.Database)

theorem sharedPool_none :
    sharedPool sqlite none d = (fun x => (x, placed none x)) <$> (openPool sqlite d).run := by
  rw [sharedPool, pure_bind, map_eq_pure_bind]
  refine bind_congr fun x => ?_
  cases x <;> rfl

theorem sharedPool_some (pool : P) : sharedPool sqlite (some pool) d = sqlite.isClosed pool >>= fun isClosed =>
    if isClosed then (fun x => (x, placed (some pool) x)) <$> (openPool sqlite d).run
    else pure (.ok pool, some pool) := by
  rw [sharedPool]
  refine bind_congr fun isClosed => ?_
  cases isClosed with
  | false => rw [if_neg (by decide), pure_bind]; rfl
  | true =>
    rw [if_pos rfl, if_pos rfl, pure_bind, map_eq_pure_bind]
    refine bind_congr fun x => ?_
    cases x <;> rfl

end

section
variable {slot slot' : Option P} {d : Settings.Database} {t : Calls P} {x : Except Error P}
  {closed closed' closed₁ : Set P} {pool : P}

/-- The look at a pool that is in the place and turns out to be closed. -/
def looks (slot : Option P) : Calls P :=
  slot.toList.map fun pool => ⟨Question.isClosed pool, true⟩

theorem run_sharedPool_of_open (isOpen : pool ∉ closed) :
    Run world (sharedPool asked (some pool) d) closed t (x, slot') closed' ↔
      t = [⟨Question.isClosed pool, false⟩] ∧ x = .ok pool ∧ slot' = some pool ∧ closed' = closed := by
  rw [sharedPool_some, Run.bind_iff]
  constructor
  · rintro ⟨t₁, told, closed₁, t₂, rfl, look, rest⟩
    obtain ⟨rfl, tells, rfl⟩ := Run.ask_iff.1 look
    cases told with
    | true => exact absurd (tells.1 rfl) isOpen
    | false =>
      obtain ⟨rfl, same, rfl⟩ := Run.pure_iff.1 rest
      obtain ⟨rfl, rfl⟩ := Prod.mk.inj same
      exact ⟨rfl, rfl, rfl, rfl⟩
  · rintro ⟨rfl, rfl, rfl, rfl⟩
    have look : Run world (asked.isClosed pool) closed' [⟨Question.isClosed pool, false⟩] false closed' :=
      Run.ask_iff.2 ⟨rfl, ⟨nofun, fun closed => absurd closed isOpen⟩, rfl⟩
    exact ⟨_, false, closed', [], rfl, look, Run.pure_iff.2 ⟨rfl, rfl, rfl⟩⟩

theorem run_sharedPool_of_closed (isClosed : ∀ pool, slot = some pool → pool ∈ closed) :
    Run world (sharedPool asked slot d) closed t (x, slot') closed' ↔
      ∃ t', t = looks slot ++ t' ∧ Run world (openPool asked d).run closed t' x closed' ∧ slot' = placed slot x := by
  have opened : ∀ t, Run world ((fun x => (x, placed slot x)) <$> (openPool asked d).run) closed t (x, slot') closed' ↔
      Run world (openPool asked d).run closed t x closed' ∧ slot' = placed slot x := fun t => by
    rw [Run.map_iff]
    constructor
    · rintro ⟨_, same, run⟩
      obtain ⟨rfl, rfl⟩ := Prod.mk.inj same
      exact ⟨run, rfl⟩
    · rintro ⟨run, rfl⟩
      exact ⟨x, rfl, run⟩
  cases slot with
  | none =>
    rw [sharedPool_none, opened]
    exact ⟨fun h => ⟨t, rfl, h⟩, fun ⟨_, same, h⟩ => same ▸ h⟩
  | some pool =>
    have closed := isClosed pool rfl
    rw [sharedPool_some, Run.bind_iff]
    constructor
    · rintro ⟨t₁, told, closed₁, t₂, rfl, look, rest⟩
      obtain ⟨rfl, tells, rfl⟩ := Run.ask_iff.1 look
      obtain rfl : told = true := tells.2 closed
      exact ⟨t₂, rfl, (opened t₂).1 rest⟩
    · rintro ⟨t', rfl, rest⟩
      exact ⟨_, true, _, t', rfl, Run.ask_iff.2 ⟨rfl, ⟨fun _ => closed, fun _ => rfl⟩, rfl⟩, (opened t').2 rest⟩

/-- A pool that is open is handed out again; otherwise one is opened. -/
theorem run_sharedPool_iff : Run world (sharedPool asked slot d) closed t (x, slot') closed' ↔
    (∃ pool, slot = some pool ∧ pool ∉ closed ∧ t = [⟨Question.isClosed pool, false⟩] ∧ x = .ok pool ∧
      slot' = some pool ∧ closed' = closed) ∨
    (∀ pool, slot = some pool → pool ∈ closed) ∧ ∃ t', t = looks slot ++ t' ∧
      Run world (openPool asked d).run closed t' x closed' ∧ slot' = placed slot x := by
  by_cases found : ∃ pool, slot = some pool ∧ pool ∉ closed
  · obtain ⟨pool, rfl, isOpen⟩ := found
    rw [run_sharedPool_of_open isOpen]
    constructor
    · exact fun reused => .inl ⟨pool, rfl, isOpen, reused⟩
    · rintro (⟨_, ⟨⟩, -, reused⟩ | ⟨isClosed, -⟩)
      · exact reused
      · exact absurd (isClosed pool rfl) isOpen
  · have isClosed : ∀ pool, slot = some pool → pool ∈ closed := fun pool there =>
      not_not.1 fun isOpen => found ⟨pool, there, isOpen⟩
    rw [run_sharedPool_of_closed isClosed, or_iff_right fun ⟨pool, there, isOpen, _⟩ => isOpen (isClosed pool there),
      and_iff_right isClosed]

end

/-! ## One request after the other -/

structure Asking (P : Type) where
  settings : Settings.Database
  answer : Except Error P

/-- Requests for the shared pool, between which pools are closed: what is in its place at first and in the end, and
which pools are closed then. -/
inductive Shares : Option P → Set P → List (Asking P) → Option P → Set P → Prop
  | nil (slot : Option P) (closed : Set P) : Shares slot closed [] slot closed
  | closes {slot slot' : Option P} {closed closed₁ closed' : Set P} {h : List (Asking P)} (more : closed ⊆ closed₁)
    (rest : Shares slot closed₁ h slot' closed') : Shares slot closed h slot' closed'
  | asks {slot slot₁ slot' : Option P} {closed closed₁ closed' : Set P} {d : Settings.Database} {t : Calls P}
    {x : Except Error P} {h : List (Asking P)} (first : Run world (sharedPool asked slot d) closed t (x, slot₁) closed₁)
    (rest : Shares slot₁ closed₁ h slot' closed') : Shares slot closed (⟨d, x⟩ :: h) slot' closed'

/-- The pools that have been handed out. -/
def handedOut (h : List (Asking P)) : List P := h.filterMap fun a => a.answer.toOption

/-- The last pool handed out is in its place, and all others are closed. -/
structure OnlyLast (given : List P) (slot : Option P) (closed : Set P) : Prop where
  last : given.getLast? = slot
  others : ∀ pool ∈ given, pool ∉ closed → slot = some pool

section
variable {slot slot' : Option P} {d : Settings.Database} {t : Calls P} {x : Except Error P}
  {closed closed' : Set P} {given : List P} {h : List (Asking P)}

theorem OnlyLast.closes (only : OnlyLast given slot closed) (more : closed ⊆ closed') : OnlyLast given slot closed' :=
  ⟨only.last, fun pool member isOpen => only.others pool member fun sooner => isOpen (more sooner)⟩

theorem OnlyLast.asks (only : OnlyLast given slot closed)
    (run : Run world (sharedPool asked slot d) closed t (x, slot') closed') :
    OnlyLast (given ++ x.toOption.toList) slot' closed' := by
  obtain ⟨pool, rfl, isOpen, -, rfl, rfl, rfl⟩ | ⟨isClosed, t', -, opened, rfl⟩ := run_sharedPool_iff.1 run
  · refine ⟨List.getLast?_concat, fun other member isOpen => ?_⟩
    obtain before | same := List.mem_append.1 member
    · exact only.others other before isOpen
    · exact congrArg some (List.mem_singleton.1 same).symm
  · have grown := closed_of_run opened
    -- None that was handed out before is open, so that all are closed but the new one.
    have before : ∀ pool ∈ given, pool ∈ closed' := fun pool member =>
      not_not.1 fun isOpen => by
        have there := only.others pool member fun sooner => isOpen (grown sooner)
        exact isOpen (grown (isClosed pool there))
    cases x with
    | error error =>
      refine ⟨(congrArg _ (List.append_nil given)).trans only.last, fun pool member isOpen => ?_⟩
      rw [Except.toOption, Option.toList_none, List.append_nil] at member
      exact absurd (before pool member) isOpen
    | ok new =>
      refine ⟨List.getLast?_concat, fun pool member isOpen => ?_⟩
      obtain earlier | same := List.mem_append.1 member
      · exact absurd (before pool earlier) isOpen
      · exact congrArg some (List.mem_singleton.1 same).symm

theorem OnlyLast.shares (only : OnlyLast given slot closed) (history : Shares slot closed h slot' closed') :
    OnlyLast (given ++ handedOut h) slot' closed' := by
  induction history generalizing given with
  | nil => rwa [handedOut, List.filterMap_nil, List.append_nil]
  | closes more _ ih => exact ih (only.closes more)
  | @asks _ _ _ _ _ _ d t x h first _ ih =>
    have rest := ih (only.asks first)
    have parts : handedOut (⟨d, x⟩ :: h) = x.toOption.toList ++ handedOut h := by
      cases x <;> rfl
    rwa [parts, ← List.append_assoc]

end

/-- However requests for the shared pool and the closing of pools follow one another, the last pool handed out is in its
place and all others are closed. As long as it is open, a request gets it, whatever settings it brings. Otherwise the
request comes to what opening a pool with its settings comes to, and only success changes what is in the place; after a
failure that is still closed, so that the next request opens a pool again. -/
theorem only_last_shared_pool_open {slot : Option P} {closed₀ closed : Set P} {h : List (Asking P)}
    (history : Shares none closed₀ h slot closed) :
    ((handedOut h).getLast? = slot ∧ ∀ pool ∈ handedOut h, pool ∉ closed → slot = some pool) ∧
      (∀ d t x slot' closed', Run world (sharedPool asked slot d) closed t (x, slot') closed' ↔
        (∃ pool, slot = some pool ∧ pool ∉ closed ∧ t = [⟨Question.isClosed pool, false⟩] ∧ x = .ok pool ∧
          slot' = some pool ∧ closed' = closed) ∨
        (∀ pool, slot = some pool → pool ∈ closed) ∧ ∃ t', t = looks slot ++ t' ∧
          Run world (openPool asked d).run closed t' x closed' ∧ slot' = placed slot x) ∧
      ∀ d t error slot' closed', Run world (sharedPool asked slot d) closed t (.error error, slot') closed' →
        slot' = slot ∧ ∀ pool, slot' = some pool → pool ∈ closed' := by
  have before : OnlyLast [] none closed₀ := ⟨rfl, nofun⟩
  have only : OnlyLast (handedOut h) slot closed := before.shares history
  refine ⟨⟨only.last, only.others⟩, fun d t x slot' closed' => run_sharedPool_iff, ?_⟩
  intro d t error slot' closed' run
  obtain ⟨_, -, -, -, ⟨⟩, -⟩ | ⟨isClosed, _, -, opened, rfl⟩ := run_sharedPool_iff.1 run
  exact ⟨rfl, fun pool there => closed_of_run opened (isClosed pool there)⟩

section
variable {closed : Set P} {d : Settings.Database} {l : Location}

theorem run_openPool_ok (sound : checkSettings d = .ok ()) (located : Location.read? d.url = some l)
    (creates : d.createsTable = true) (pool : P) :
    Run world (openPool asked d).run closed [⟨Question.connect d l, some pool⟩, ⟨Question.createTable pool, true⟩]
      (.ok pool) closed := by
  rw [openPool, sound, located]
  have connected : world (Question.connect d l) closed (some pool) closed := subset_rfl (a := closed)
  have made : world (Question.createTable pool) closed true closed := subset_rfl (a := closed)
  refine Run.call connected ?_
  simp only [creates]
  exact Run.call made (.done _ _)

end

def inMemory : Settings.Database := { Settings.Database.defaults with url := "sqlite::memory:" }

/-- Settings that no pool is opened with. -/
def unconnected : Settings.Database := { inMemory with maxConnections := 0 }

/-- A pool is handed out twice; after it has been closed, one request fails, and the next one gets another pool. -/
def replacement : List (Asking Nat) :=
  [⟨inMemory, .ok 0⟩, ⟨unconnected, .ok 0⟩,
    ⟨unconnected, .error (.validation "max_connections must be greater than 0" none)⟩, ⟨inMemory, .ok 1⟩]

theorem shares_replacement : Shares none ∅ replacement (some 1) {0} := by
  have located : Location.read? inMemory.url = some .unnamed := by decide +kernel
  have open₀ : ∀ closed : Set Nat, ∀ pool, Run world (openPool asked inMemory).run closed _ (.ok pool) closed :=
    fun closed pool => run_openPool_ok rfl located rfl pool
  have closed₀ : ∀ pool, some 0 = some pool → pool ∈ ({0} : Set Nat) := fun _ same => (Option.some.inj same).symm
  have refused : Run world (openPool asked unconnected).run ({0} : Set Nat) []
      (.error (.validation "max_connections must be greater than 0" none)) {0} := .done _ _
  refine .asks (run_sharedPool_of_closed nofun |>.2 ⟨_, rfl, open₀ ∅ 0, rfl⟩) ?_
  refine .asks ((run_sharedPool_of_open (Set.notMem_empty 0)).2 ⟨rfl, rfl, rfl, rfl⟩) ?_
  refine .closes (Set.empty_subset {0}) ?_
  refine .asks (run_sharedPool_of_closed closed₀ |>.2 ⟨_, rfl, refused, rfl⟩) ?_
  exact .asks (run_sharedPool_of_closed closed₀ |>.2 ⟨_, rfl, open₀ {0} 1, rfl⟩) (.nil _ _)

theorem only_last_shared_pool_open_of_replacement : Shares none ∅ replacement (some 1) {0} ∧
    (handedOut replacement).getLast? = some 1 ∧
      ∀ pool ∈ handedOut replacement, pool ∉ ({0} : Set Nat) → some 1 = some pool :=
  ⟨shares_replacement, (only_last_shared_pool_open shares_replacement).1⟩

end KeyCustody.Database

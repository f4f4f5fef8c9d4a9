import KeyCustody.Proofs.Custodian.Settling

/-!
# Pages are settled secret by secret

What is called about a secret concerns its record alone. Then a page of different secrets comes out as if
each had been settled by itself, in whatever order they stand, and what fails for one does nothing to
another.
-/

namespace KeyCustody

open Program
open KeyCustody.Action (LeavesCatalog)
open Time (Instant)

/-! ## Programs on one record -/

section
variable {α β σ ρ : Type} {record : σ → String → ρ} {answer answer' : σ → (c : Call) → c.Answer × σ}
  {id : String}

/-- Where two environments hold a record alike, the program does the same to it in both, and in the first
it leaves the other records. -/
structure OnRecord (record : σ → String → ρ) (id : String) (answer answer' : σ → (c : Call) → c.Answer × σ)
    (p : Action α) : Prop where
  alike : ∀ s s', record s id = record s' id → (p.run answer s).1 = (p.run answer' s').1 ∧
    record (p.run answer s).2 id = record (p.run answer' s').2 id
  others : ∀ s other, other ≠ id → record (p.run answer s).2 other = record s other

namespace OnRecord

theorem pure (a : α) : OnRecord record id answer answer' (Pure.pure a : Action α) :=
  ⟨fun _ _ same => ⟨rfl, same⟩, fun _ _ _ => rfl⟩

theorem bind {p : Action α} {f : α → Action β} (first : OnRecord record id answer answer' p)
    (rest : ∀ a, OnRecord record id answer answer' (f a)) : OnRecord record id answer answer' (p >>= f) where
  alike s s' same := by
    obtain ⟨value, after⟩ := first.alike s s' same
    rw [run_bind, run_bind, value]
    exact (rest _).alike _ _ after
  others s other different := by
    rw [run_bind, (rest _).others _ other different, first.others s other different]

/-- A program is on any record if it ends in the same way everywhere and leaves all records. -/
theorem of_fixed {p : Action α} {a : α} (value : ∀ s, (p.run answer s).1 = a)
    (value' : ∀ s, (p.run answer' s).1 = a) (kept : ∀ s, record (p.run answer s).2 = record s)
    (kept' : ∀ s, record (p.run answer' s).2 = record s) : OnRecord record id answer answer' p where
  alike s s' same := by
    rw [value, value', kept, kept']
    exact ⟨rfl, same⟩
  others s other _ := congrFun (kept s) other

theorem of_call {c : Call} {x : c.Answer} (answered : ∀ s, answer s c = (x, s))
    (answered' : ∀ s, answer' s c = (x, s)) : OnRecord record id answer answer' (Action.make c) :=
  have ran : ∀ s, (Action.make c).run answer s = (x, s) := answered
  have ran' : ∀ s, (Action.make c).run answer' s = (x, s) := answered'
  .of_fixed (a := x) (fun s => by rw [ran]) (fun s => by rw [ran']) (fun s => by rw [ran]) fun s => by rw [ran']

theorem of_keeps {p : Action α} {result : α → Prop}
    (h : p.Keeps (fun c => OnRecord record id answer answer' (Action.make c)) result) :
    OnRecord record id answer answer' p := by
  induction p with
  | done a => exact .pure a
  | call c next ih => exact OnRecord.bind h.1 fun x => ih x (h.2 x)

end OnRecord

/-- Programs on different records, one after the other, come out as each does alone. -/
theorem run_mapM_onRecord {key : α → String} {f : α → Action β} {l : List α}
    (each : ∀ a ∈ l, OnRecord record (key a) answer answer (f a)) (once : (l.map key).Nodup) (s : σ) :
    ((l.mapM f).run answer s).1 = l.map (fun a => ((f a).run answer s).1) ∧
      (∀ a ∈ l, record ((l.mapM f).run answer s).2 (key a) = record ((f a).run answer s).2 (key a)) ∧
      ∀ id, id ∉ l.map key → record ((l.mapM f).run answer s).2 id = record s id := by
  induction l generalizing s with
  | nil => exact ⟨rfl, List.forall_mem_nil _, fun _ _ => rfl⟩
  | cons a l ih =>
    obtain ⟨mine, others⟩ := List.forall_mem_cons.1 each
    obtain ⟨fresh, once⟩ := List.nodup_cons.1 once
    obtain ⟨values, own, left⟩ := ih others once ((f a).run answer s).2
    have ran : ((a :: l).mapM f).run answer s =
        (((f a).run answer s).1 :: ((l.mapM f).run answer ((f a).run answer s).2).1,
          ((l.mapM f).run answer ((f a).run answer s).2).2) := by
      rw [List.mapM_cons, run_bind, run_bind]
      rfl
    -- The first program leaves the records of the others, so these do what they do from the start.
    have later : ∀ b ∈ l, ((f b).run answer ((f a).run answer s).2).1 = ((f b).run answer s).1 ∧
        record ((f b).run answer ((f a).run answer s).2).2 (key b) =
          record ((f b).run answer s).2 (key b) := by
      intro b member
      have different : key b ≠ key a := fun same => fresh (List.mem_map.2 ⟨b, member, same⟩)
      exact (others b member).alike _ _ (mine.others s (key b) different)
    rw [ran]
    refine ⟨?_, List.forall_mem_cons.2 ⟨left _ fresh, fun b member => ?_⟩, fun id absent => ?_⟩
    · rw [values, List.map_cons, List.map_congr_left fun b member => (later b member).1]
    · exact (own b member).trans (later b member).2
    · obtain ⟨different, absent⟩ := not_or.1 (mt List.mem_cons.2 absent)
      exact (left id absent).trans (mine.others s id different)

end

namespace Lifecycle

/-! ## Settling a secret by itself -/

section
variable {m : Type → Type} [Monad m] (check : String → ExceptT Error m Phase) (catalog : Catalog m)
  (count : Counter → m Unit) (caller : Caller) (now : Instant)

/-- Settles a verdict, and returns the secret as it then stands. -/
def bring (s : Secret) (observed : Option Phase) : m Secret :=
  return (← settle catalog count caller s (s.assess observed now)).2

/-- Brings one secret up to date: a check if it waits for its material, then a verdict that is settled. -/
def settleAlone (s : Secret) : m Secret := do
  bring catalog count caller now s (← observe check s)

/-- A page of one secret is that secret by itself. -/
theorem settlePage_singleton [LawfulMonad m] {s : Secret} :
    settlePage check catalog count caller [s] now =
      (fun s => [s]) <$> settleAlone check catalog count caller now s := by
  simp [settlePage, settleAlone, bring]

end

variable {σ ρ : Type}

/-- In two environments, what is called about a secret concerns its record alone: the check, the writes to
the record, and the counters. A check that is answered by the identifier alone, and leaves the records, is
such a one. -/
structure Apiece (record : σ → String → ρ) (caller : Caller) (check : String → ExceptT Error Action Phase)
    (id : String) (answer answer' : σ → (c : Call) → c.Answer × σ) : Prop where
  checked : OnRecord record id answer answer' (check id).run
  deleted : OnRecord record id answer answer' (Action.make (.deleteRecord caller id))
  changed : ∀ c, OnRecord record id answer answer' (Action.make (.changeRecord caller id c))
  counted : ∀ c, OnRecord record id answer answer' (Action.make (.count c))

section
variable {record : σ → String → ρ} {answer answer' : σ → (c : Call) → c.Answer × σ} {caller : Caller}
  {check : String → ExceptT Error Action Phase} {x : Secret}

theorem Apiece.observe (h : Apiece record caller check x.id answer answer') :
    OnRecord record x.id answer answer' (observe check x) := by
  unfold Lifecycle.observe
  by_cases waiting : x.phase ≠ .preactivation
  · rw [if_pos waiting]
    exact .pure _
  · rw [if_neg waiting]
    exact h.checked.bind fun _ => .pure _

theorem Apiece.bring (h : Apiece record caller check x.id answer answer') (now : Instant)
    (observed : Option Phase) :
    OnRecord record x.id answer answer' (bring Action.catalog Action.count caller now x observed) :=
  (OnRecord.of_keeps (Action.keeps_settling h.changed h.deleted h.counted)).bind fun _ => .pure _

theorem Apiece.settleAlone (h : Apiece record caller check x.id answer answer') (now : Instant) :
    OnRecord record x.id answer answer' (settleAlone check Action.catalog Action.count caller now x) :=
  h.observe.bind fun observed => h.bring now observed

end

/-! ## Records in memory -/

section
open Catalog (Records)

variable {refuses refuses' : Call → Bool} {error : Error} {others : (c : Call) → c.Answer} {caller : Caller}
  {id : String}

/-- Records in memory, where some calls are refused without effect, and any other call is answered without
regard to the records. -/
def answerUnless (refuses : Call → Bool) (error : Error) (others : (c : Call) → c.Answer) (r : Records)
    (c : Call) : c.Answer × Records :=
  if refuses c then (c.refused error, r) else r.answer others c

def recordOf (caller : Caller) (r : Records) (id : String) : Option Secret := r.get caller.tenant id

section
variable {c : Call} (agree : refuses' c = refuses c)
include agree

theorem onRecord_refused (refused : refuses c = true) :
    OnRecord (recordOf caller) id (answerUnless refuses error others) (answerUnless refuses' error others)
      (Action.make c) :=
  .of_call (fun _ => if_pos refused) fun _ => if_pos (agree.trans refused)

theorem onRecord_apart (apart : c.isOnCatalog = false) :
    OnRecord (recordOf caller) id (answerUnless refuses error others) (answerUnless refuses' error others)
      (Action.make c) := by
  by_cases refused : refuses c = true
  · exact onRecord_refused agree refused
  have answered : ∀ r : Records, r.answer others c = (others c, r) := by
    intro r
    cases c with
    | createRecord | getRecord | changeRecord | deleteRecord => cases apart
    | listRecords | totalRecords => cases apart
    | _ => rfl
  exact .of_call (fun r => (if_neg refused).trans (answered r))
    fun r => (if_neg (agree ▸ refused)).trans (answered r)

/-- What is made of a record, if there is one, goes by that record and is put in its place. -/
theorem onRecord_put (found : Secret → c.Answer × Secret) (missing : c.Answer)
    (puts : ∀ r : Records, r.answer others c =
      match r.lookup (caller.tenant, id) with
      | some s => ((found s).1, r.put (caller.tenant, id) (found s).2)
      | none => (missing, r)) :
    OnRecord (recordOf caller) id (answerUnless refuses error others) (answerUnless refuses' error others)
      (Action.make c) := by
  by_cases refused : refuses c = true
  · exact onRecord_refused agree refused
  have ran : ∀ r, (Action.make c).run (answerUnless refuses error others) r = r.answer others c :=
    fun _ => if_neg refused
  have ran' : ∀ r, (Action.make c).run (answerUnless refuses' error others) r = r.answer others c :=
    fun _ => if_neg (agree ▸ refused)
  refine ⟨fun r r' same => ?_, fun r other different => ?_⟩
  · have same : r.lookup (caller.tenant, id) = r'.lookup (caller.tenant, id) := same
    rw [ran, ran', puts, puts, ← same]
    cases stands : r.lookup (caller.tenant, id) with
    | none => exact ⟨rfl, same⟩
    | some s => exact ⟨rfl, Keyed.lookup_put_self.trans Keyed.lookup_put_self.symm⟩
  · rw [ran, puts]
    cases stands : r.lookup (caller.tenant, id) with
    | none => rfl
    | some s => exact Keyed.lookup_put_other (by simp [different])

end

/-- Where calls are refused by what they say, a secret is dealt with on its own record, however the writes to
other records are answered. -/
theorem apiece_answerUnless {check : String → ExceptT Error Action Phase}
    (apart : LeavesCatalog (check id).run)
    (agree : ∀ c : Call, c.isOnCatalog = false → refuses' c = refuses c)
    (deletes : refuses' (.deleteRecord caller id) = refuses (.deleteRecord caller id))
    (changes : ∀ change, refuses' (.changeRecord caller id change) = refuses (.changeRecord caller id change)) :
    Apiece (recordOf caller) caller check id (answerUnless refuses error others)
      (answerUnless refuses' error others) where
  checked := .of_keeps (apart.widen fun c off => onRecord_apart (agree c off) off)
  deleted := by
    refine onRecord_put deletes (fun s => (.ok { s with deleted := true, phase := .destroyed },
      { s with deleted := true, phase := .destroyed })) (.error (.noSecret id)) fun r => ?_
    change r.delete caller.tenant id = _
    unfold Records.delete
    cases r.lookup (caller.tenant, id) <;> rfl
  changed change := by
    refine onRecord_put (changes change) (fun s => (.ok (), s.enter change)) (.error (.noSecret id)) fun r => ?_
    change r.change caller.tenant id change = _
    unfold Records.change
    cases r.lookup (caller.tenant, id) <;> rfl
  counted c := onRecord_apart (agree _ rfl) rfl

end

/-! ## Pages -/

section
variable (record : σ → String → ρ) (caller : Caller) (check : String → ExceptT Error Action Phase)
  (now : Instant) (answer : σ → (c : Call) → c.Answer × σ)

/-- A page brought up to date, and the state that leaves. -/
def settledPage (page : List Secret) (s : σ) : List Secret × σ :=
  (settlePage check Action.catalog Action.count caller page now).run answer s

/-- A secret brought up to date by itself, and the state that leaves. -/
def settledAlone (x : Secret) (s : σ) : Secret × σ :=
  (settleAlone check Action.catalog Action.count caller now x).run answer s

/-- A page is settled secret by secret. -/
structure SettledApiece (page : List Secret) (s : σ) : Prop where
  secrets : (settledPage caller check now answer page s).1 =
    page.map fun x => (settledAlone caller check now answer x s).1
  ids : (settledPage caller check now answer page s).1.map Secret.id = page.map Secret.id
  records : ∀ x ∈ page, record (settledPage caller check now answer page s).2 x.id =
    record (settledAlone caller check now answer x s).2 x.id
  others : ∀ id, id ∉ page.map Secret.id →
    record (settledPage caller check now answer page s).2 id = record s id
  /-- Whatever is answered about the other secrets, a secret and its record come out the same. -/
  isolated : ∀ (answer' : σ → (c : Call) → c.Answer × σ) (s' : σ),
    (∀ x ∈ page, Apiece record caller check x.id answer' answer') →
    ∀ (i : Nat) (x : Secret), page[i]? = some x → Apiece record caller check x.id answer answer' →
      record s x.id = record s' x.id →
      (settledPage caller check now answer' page s').1[i]? = (settledPage caller check now answer page s).1[i]? ∧
        record (settledPage caller check now answer' page s').2 x.id =
          record (settledPage caller check now answer page s).2 x.id
  permuted : ∀ other : List Secret, other.Perm page →
    (settledPage caller check now answer other s).1 =
        other.map (fun x => (settledAlone caller check now answer x s).1) ∧
      record (settledPage caller check now answer other s).2 =
        record (settledPage caller check now answer page s).2

end

section
variable {record : σ → String → ρ} {caller : Caller} {check : String → ExceptT Error Action Phase}
  {now : Instant} {answer : σ → (c : Call) → c.Answer × σ} {page : List Secret} {x : Secret} {s : σ}

theorem id_settledAlone : (settledAlone caller check now answer x s).1.id = x.id := by
  have run : Run (answering answer) (settleAlone check Action.catalog Action.count caller now x) s _
    (settledAlone caller check now answer x s).1 _ := Run.of_eval rfl
  obtain ⟨_, observed, _, _, -, -, brought⟩ := Run.bind_iff.1 run
  obtain ⟨_, settled, _, _, -, settling, passed⟩ := Run.bind_iff.1 brought
  obtain ⟨-, same, -⟩ := Run.pure_iff.1 passed
  rw [same]
  exact (run_settle_shown settling).1

/-- A page is brought up to date by what each of its checks would have found by itself. -/
theorem settledPage_eq (once : (page.map Secret.id).Nodup)
    (apiece : ∀ x ∈ page, Apiece record caller check x.id answer answer) (s : σ) :
    settledPage caller check now answer page s =
      (page.mapM fun x => bring Action.catalog Action.count caller now x ((observe check x).run answer s).1).run
        answer ((page.mapM (observe check)).run answer s).2 := by
  have found := (run_mapM_onRecord (fun x member => (apiece x member).observe) once s).1
  have ran : settledPage caller check now answer page s =
      ((page.zip ((page.mapM (observe check)).run answer s).1).mapM fun p =>
        bring Action.catalog Action.count caller now p.1 p.2).run answer
          ((page.mapM (observe check)).run answer s).2 := by
    unfold settledPage settlePage
    rw [run_bind]
    rfl
  rw [ran, found, ← List.map_prod_left_eq_zip, List.mapM_map]
  rfl

/-- The checks are each on its own record, and then the verdicts are. -/
theorem run_settlePage (now : Instant) (once : (page.map Secret.id).Nodup)
    (apiece : ∀ x ∈ page, Apiece record caller check x.id answer answer) (s : σ) :
    (settledPage caller check now answer page s).1 =
        page.map (fun x => (settledAlone caller check now answer x s).1) ∧
      (∀ x ∈ page, record (settledPage caller check now answer page s).2 x.id =
        record (settledAlone caller check now answer x s).2 x.id) ∧
      ∀ id, id ∉ page.map Secret.id →
        record (settledPage caller check now answer page s).2 id = record s id := by
  obtain ⟨-, checked, spared⟩ := run_mapM_onRecord (fun x member => (apiece x member).observe) once s
  obtain ⟨secrets, own, left⟩ := run_mapM_onRecord (fun x member => (apiece x member).bring now
    ((observe check x).run answer s).1) once ((page.mapM (observe check)).run answer s).2
  -- A secret's own check leaves its record as all the checks together do, so its verdict goes alike.
  have each : ∀ x ∈ page,
      ((bring Action.catalog Action.count caller now x ((observe check x).run answer s).1).run answer
          ((page.mapM (observe check)).run answer s).2).1 = (settledAlone caller check now answer x s).1 ∧
        record ((bring Action.catalog Action.count caller now x ((observe check x).run answer s).1).run answer
          ((page.mapM (observe check)).run answer s).2).2 x.id =
            record (settledAlone caller check now answer x s).2 x.id := by
    intro x member
    have alone : settledAlone caller check now answer x s =
        (bring Action.catalog Action.count caller now x ((observe check x).run answer s).1).run answer
          ((observe check x).run answer s).2 :=
      run_bind ..
    rw [alone]
    exact ((apiece x member).bring now _).alike _ _ (checked x member)
  rw [settledPage_eq once apiece]
  refine ⟨?_, fun x member => (own x member).trans (each x member).2, fun id absent => ?_⟩
  · rw [secrets]
    exact List.map_congr_left fun x member => (each x member).1
  · exact (left id absent).trans (spared id absent)

/-- A page of different secrets is settled secret by secret, if what is called about each is on its own
record. -/
theorem settled_apiece (once : (page.map Secret.id).Nodup)
    (apiece : ∀ x ∈ page, Apiece record caller check x.id answer answer) (s : σ) :
    SettledApiece record caller check now answer page s := by
  obtain ⟨secrets, records, others⟩ := run_settlePage now once apiece s
  refine ⟨secrets, ?_, records, others, ?_, ?_⟩
  · rw [secrets, List.map_map]
    exact List.map_congr_left fun x _ => id_settledAlone
  · intro answer' s' apiece' i x here shared same
    have member : x ∈ page := List.mem_of_getElem? here
    obtain ⟨secrets', records', -⟩ := run_settlePage now once apiece' s'
    obtain ⟨value, after⟩ := (shared.settleAlone now).alike s s' same
    rw [secrets, secrets', records x member, records' x member, List.getElem?_map, List.getElem?_map, here]
    exact ⟨congrArg some value.symm, after.symm⟩
  · intro other perm
    have once' : (other.map Secret.id).Nodup := (perm.map Secret.id).nodup_iff.2 once
    obtain ⟨secrets', records', others'⟩ :=
      run_settlePage now once' (fun x member => apiece x (perm.mem_iff.1 member)) s
    refine ⟨secrets', funext fun id => ?_⟩
    by_cases listed : id ∈ page.map Secret.id
    · obtain ⟨x, member, rfl⟩ := List.mem_map.1 listed
      exact (records' x (perm.mem_iff.2 member)).trans (records x member).symm
    · have unlisted : id ∉ other.map Secret.id := fun member => listed ((perm.map Secret.id).mem_iff.1 member)
      exact (others' id unlisted).trans (others id listed).symm

/-- A keystore that has each secret on order, of which one is ready, one is lost, and others are unknown. -/
def onOrder : (c : Call) → c.Answer
  | .getEntry _ id => .ok ⟨id, none, some id⟩
  | .checkOrder _ ref =>
    if ref = "ready" then .ok (.active "secret")
    else if ref = "lost" then .ok (.failed none)
    else .error (.backend "unknown" (some 404))
  | c => c.refused (.transport "down")

/-- One record cannot be changed. -/
def refusesChange : Call → Bool
  | .changeRecord _ id _ => id = "unchanged"
  | _ => false

/-- Secrets that come out in every way, one beside the other; the one that cannot be written hinders none. -/
theorem settled_apiece_of_five :
    let caller : Caller := ⟨⟨"s", "o"⟩, "c", none⟩
    let check := (Action.barbicanKeystore 1).check caller
    let waiting (id : String) : Secret := { Secret.named "key" with id := id }
    let expired (id : String) : Secret :=
      { waiting id with phase := .activation, reason := some .keyActive, expiration := some ⟨10, 0⟩ }
    let page := [waiting "ready", waiting "lost", waiting "unknown", expired "changed", expired "unchanged"]
    let answer := answerUnless refusesChange (.transport "down") onOrder
    let unhindered := answerUnless (fun _ => false) (.transport "down") onOrder
    let r := page.map fun x => ((caller.tenant, x.id), x)
    let settled := settledPage caller check ⟨100, 0⟩ answer page r
    (page.map Secret.id).Nodup ∧
      (∀ x ∈ page, Apiece (recordOf caller) caller check x.id answer answer) ∧
      settled.1.map Secret.phase = [.activation, .destroyed, .preactivation, .deactivated, .activation] ∧
      page.map (fun x => (recordOf caller settled.2 x.id).map Secret.phase) =
        [some .activation, some .destroyed, some .preactivation, some .deactivated, some .activation] ∧
      SettledApiece (recordOf caller) caller check ⟨100, 0⟩ answer page r ∧
      ∀ (i : Nat) (x : Secret), page[i]? = some x → x.id ≠ "unchanged" →
        (settledPage caller check ⟨100, 0⟩ unhindered page r).1[i]? = settled.1[i]? := by
  intro caller check waiting expired page answer unhindered r settled
  have apart : ∀ id, LeavesCatalog (check id).run := fun _ => Keystore.Networked.check_leavesCatalog
  have once : (page.map Secret.id).Nodup := by decide
  have apiece : ∀ x ∈ page, Apiece (recordOf caller) caller check x.id answer answer :=
    fun x _ => apiece_answerUnless (apart x.id) (fun _ _ => rfl) rfl fun _ => rfl
  have eased : ∀ x ∈ page, Apiece (recordOf caller) caller check x.id unhindered unhindered :=
    fun x _ => apiece_answerUnless (apart x.id) (fun _ _ => rfl) rfl fun _ => rfl
  have held : SettledApiece (recordOf caller) caller check ⟨100, 0⟩ answer page r :=
    settled_apiece once apiece r
  refine ⟨once, apiece, by decide +kernel, by decide +kernel, held, fun i x here different => ?_⟩
  have unrefused : ∀ c : Call, c.isOnCatalog = false → false = refusesChange c := by
    intro c off
    cases c with
    | changeRecord => cases off
    | _ => rfl
  have shared : Apiece (recordOf caller) caller check x.id answer unhindered :=
    apiece_answerUnless (apart x.id) unrefused rfl fun _ => (decide_eq_false different).symm
  exact (held.isolated unhindered r eased i x here shared rfl).1

end

end Lifecycle

end KeyCustody

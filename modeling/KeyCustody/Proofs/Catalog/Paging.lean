import KeyCustody.Proofs.Catalog.Listing
import KeyCustody.Proofs.Custodian.Consistency

/-!
# Paging

Read page by page, a tenant's part of a catalog is each of its records that are not deleted, once, in
the order of dates and identifiers. What else the catalog holds, and how it came to hold it, shows in no
page.
-/

namespace KeyCustody.Catalog

open Time (Instant)

/-! ## Ahead and behind -/

/-- No date comes before any date, and a date before those after it. -/
inductive Sooner : Option Instant → Option Instant → Prop
  | undated (t : Instant) : Sooner none (some t)
  | dated {s t : Instant} (before : s < t) : Sooner (some s) (some t)

/-- One record is listed before another: it was created sooner, or at the same time under an
identifier that comes first. -/
def Ahead (a b : Secret) : Prop :=
  Sooner a.creation b.creation ∨ a.creation = b.creation ∧ a.id < b.id

variable {a b : Secret} {x y : Option Instant}

theorem Sooner.asymm (before : Sooner x y) : ¬ Sooner y x := by
  intro after
  cases before with
  | undated t => cases after
  | dated first =>
    cases after with
    | dated last => exact Instant.lt_irrefl _ (Instant.lt_trans first last)

theorem Sooner.ne (before : Sooner x y) : x ≠ y := by
  rintro rfl
  exact before.asymm before

theorem Ahead.asymm (before : Ahead a b) : ¬ Ahead b a := by
  rintro (after | ⟨same, after⟩)
  · obtain sooner | ⟨same, -⟩ := before
    · exact sooner.asymm after
    · exact after.ne same.symm
  · obtain sooner | ⟨-, first⟩ := before
    · exact sooner.ne same.symm
    · exact String.lt_irrefl _ (String.lt_trans first after)

theorem ahead_of_earlier (before : Earlier (place a) (place b) = true) (different : a.id ≠ b.id) :
    Ahead a b := by
  have first (le : a.id ≤ b.id) : a.id < b.id := Std.lt_of_le_of_ne le different
  unfold place at before
  unfold Ahead
  cases created : a.creation with
  | none =>
    cases created' : b.creation with
    | none =>
      simp only [created, created', Earlier, decide_eq_true_eq] at before
      exact .inr ⟨rfl, first before⟩
    | some t => exact .inl (.undated t)
  | some s =>
    cases created' : b.creation with
    | none => simp [created, created', Earlier] at before
    | some t =>
      simp only [created, created', Earlier, Bool.or_eq_true, Bool.and_eq_true,
        decide_eq_true_eq] at before
      obtain sooner | ⟨rfl, le⟩ := before
      · exact .inl (.dated sooner)
      · exact .inr ⟨rfl, first le⟩

namespace Records

variable {r r' : Records} {tenant : Tenant}

/-! ## The listing as a whole -/

theorem Filed.ahead (h : r.Filed) (tenant : Tenant) : (r.live tenant).Pairwise Ahead := by
  have sorted := List.pairwise_map.1 (live_sorted tenant r)
  have once : (r.live tenant).Pairwise fun a b => a.id ≠ b.id := List.pairwise_map.1 (h.live tenant).2
  exact (sorted.and once).imp fun ⟨before, different⟩ => ahead_of_earlier before different

/-- What is listed is settled by which records that are not deleted the tenant has. -/
theorem Filed.live_congr (h : r.Filed) (h' : r'.Filed)
    (same : ∀ s : Secret, s.deleted = false →
      (r'.lookup (tenant, s.id) = some s ↔ r.lookup (tenant, s.id) = some s)) :
    r'.live tenant = r.live tenant := by
  obtain ⟨shown, once⟩ := h.live tenant
  obtain ⟨shown', once'⟩ := h'.live tenant
  refine List.Perm.eq_of_pairwise (fun a b _ _ before after => absurd after before.asymm)
    (h'.ahead tenant) (h.ahead tenant) ?_
  refine (List.perm_ext_iff_of_nodup once'.of_map once.of_map).2 fun s => ?_
  rw [shown, shown']
  exact and_congr_left (same s)

theorem Filed.perm (h : r.Filed) (order : r'.Perm r) : r'.Filed where
  unique := (order.map _).nodup_iff.2 h.unique
  own p member := h.own p (order.mem_iff.1 member)

theorem Filed.lookup_perm (h : r.Filed) (order : r'.Perm r) (key : Tenant × String) (s : Secret) :
    r'.lookup key = some s ↔ r.lookup key = some s := by
  rw [Keyed.lookup_eq_some_iff (h.perm order).unique, Keyed.lookup_eq_some_iff h.unique, order.mem_iff]

/-! ## How a catalog comes about -/

/-- What can be done to a catalog. -/
inductive Edit where
  | create (tenant : Tenant) (now : Instant) (s : Secret)
  | seed (tenant : Tenant) (s : Secret)
  | change (tenant : Tenant) (id : String) (c : PhaseChange)
  | delete (tenant : Tenant) (id : String)

def Edit.apply : Edit → Records → Records
  | .create tenant now s, r => (r.create tenant now s).2
  | .seed tenant s, r => r.seed tenant s
  | .change tenant id c, r => (r.change tenant id c).2
  | .delete tenant id, r => (r.delete tenant id).2

/-- A catalog, from the first, after what has been done to it. -/
def after (edits : List Edit) : Records :=
  edits.foldl (fun r e => e.apply r) []

theorem Filed.apply (h : r.Filed) (e : Edit) : (e.apply r).Filed := by
  cases e with
  | create tenant now s => exact h.create
  | seed tenant s => exact h.put rfl
  | change tenant id c => exact h.change
  | delete tenant id => exact h.delete

theorem filed_after (edits : List Edit) : (after edits).Filed := by
  refine List.foldlRecOn edits _ sound_empty.toFiled ?_
  intro r h e _
  exact h.apply e

/-! ## Pages -/

/-- The first `n` pages of a tenant, one after the other. -/
def pages (r : Records) (tenant : Tenant) (limit n : Nat) : List Secret :=
  (List.range n).flatMap fun i => r.list tenant ⟨limit, i * limit⟩

theorem pages_eq (limit n : Nat) : r.pages tenant limit n = (r.live tenant).take (n * limit) :=
  flatMap_pages _ limit n

theorem pages_eq_live {limit n : Nat} (positive : 1 ≤ limit)
    (enough : (r.total tenant + (limit - 1)) / limit ≤ n) : r.pages tenant limit n = r.live tenant := by
  rw [pages_eq]
  apply List.take_of_length_le
  have last : (r.live tenant).length + (limit - 1) < (n + 1) * limit :=
    (Nat.div_lt_iff_lt_mul positive).1 (Nat.lt_succ_of_le enough)
  rw [Nat.succ_mul] at last
  omega

/-- Page after page, a tenant reads each of its records that are not deleted, once and in order. Their
number is the total. The pages are the same of any catalog that has the same such records for the tenant,
whatever has been done to it, and in whatever order it keeps them. -/
theorem pages_partition (edits : List Edit) (tenant : Tenant) {limit : Nat} (positive : 1 ≤ limit) :
    ∃ all : List Secret,
      (∀ n, ((after edits).total tenant + (limit - 1)) / limit ≤ n →
        (after edits).pages tenant limit n = all) ∧
      (all.map Secret.id).Nodup ∧
      (∀ s, s ∈ all ↔ (after edits).lookup (tenant, s.id) = some s ∧ s.deleted = false) ∧
      all.Pairwise Ahead ∧
      all.length = (after edits).total tenant ∧
      (∀ edits', (∀ s : Secret, s.deleted = false →
          ((after edits').lookup (tenant, s.id) = some s ↔ (after edits).lookup (tenant, s.id) = some s)) →
        ∀ q, (after edits').list tenant q = (after edits).list tenant q) ∧
      ∀ r', r'.Perm (after edits) → ∀ q, list tenant q r' = (after edits).list tenant q := by
  have filed := filed_after edits
  obtain ⟨shown, once⟩ := filed.live tenant
  refine ⟨(after edits).live tenant, fun n enough => pages_eq_live positive enough, once, shown,
    filed.ahead tenant, rfl, ?_, ?_⟩
  · intro edits' same q
    rw [list, list, filed.live_congr (filed_after edits') same]
  · intro r' order q
    have same : live tenant r' = (after edits).live tenant :=
      filed.live_congr (filed.perm order) fun s _ => filed.lookup_perm order _ s
    rw [list, list, same]

/-- Two pages of a catalog in which one record has no date, two have the same, one is deleted and one
belongs to another tenant. -/
theorem pages_partition_of_five :
    let mine : Tenant := ⟨"s", "o"⟩
    let key (id : String) : Secret := { Secret.named "key" with id := id }
    let dated (id : String) : Secret := { key id with creation := some ⟨0, 0⟩ }
    let edits : List Edit := [.create mine ⟨0, 0⟩ (key "b"), .create mine ⟨0, 0⟩ (key "a"),
      .create mine ⟨0, 0⟩ (key "d"), .create ⟨"t", "o"⟩ ⟨0, 0⟩ (key "a"), .delete mine "d", .seed mine (key "c")]
    ∃ all, (after edits).pages mine 2 2 = all ∧ all.Pairwise Ahead ∧ all.length = 3 ∧
      ∀ s ∈ [key "c", dated "a", dated "b"], s ∈ all := by
  intro mine key dated edits
  obtain ⟨all, whole, -, shown, ordered, number, -⟩ := pages_partition edits mine (show 1 ≤ 2 by decide)
  have three : (after edits).total mine = 3 := by
    rw [total_eq]
    decide +kernel
  have enough : ((after edits).total mine + (2 - 1)) / 2 ≤ 2 := by omega
  refine ⟨all, whole 2 enough, ordered, number.trans three, fun s member => (shown s).2 ?_⟩
  have found : ∀ s ∈ [key "c", dated "a", dated "b"],
      (after edits).lookup (mine, s.id) = some s ∧ s.deleted = false := by
    decide +kernel
  exact found s member

end Records

end KeyCustody.Catalog

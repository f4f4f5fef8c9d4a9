import KeyCustody.Catalog.Records
import KeyCustody.Proofs.Keyed
import Mathlib.Data.List.Basic

/-!
# Listings

A tenant's records that are not deleted, in the order of their dates and identifiers. How many there are
changes with what is filed and with what is marked as deleted; which stand where does not change with
anything else.
-/

namespace KeyCustody.Catalog

open Time (Instant)

/-! ## The order -/

/-- Where a record is listed: by its date of creation, then by its identifier. -/
def place (s : Secret) : Option Instant × String := (s.creation, s.id)

/-- The order of places. -/
def Earlier : Option Instant × String → Option Instant × String → Bool
  | (none, _), (some _, _) => true
  | (some _, _), (none, _) => false
  | (none, a), (none, b) => a ≤ b
  | (some s, a), (some t, b) => s < t || (s = t && a ≤ b)

variable {p q o : Option Instant × String}

theorem precedes_eq (a b : Secret) : precedes a b = Earlier (place a) (place b) := by
  unfold precedes place Earlier
  cases a.creation <;> cases b.creation <;> rfl

theorem earlier_total (p q : Option Instant × String) : (Earlier p q || Earlier q p) = true := by
  obtain ⟨_ | s, a⟩ := p <;> obtain ⟨_ | t, b⟩ := q
  · simpa [Earlier] using String.le_total a b
  · rfl
  · rfl
  · by_cases before : s < t
    · simp [Earlier, before]
    by_cases after : t < s
    · simp [Earlier, after]
    obtain rfl := Instant.eq_of_not_lt before after
    simpa [Earlier, Instant.lt_irrefl] using String.le_total a b

theorem earlier_trans (first : Earlier p q = true) (rest : Earlier q o = true) : Earlier p o = true := by
  obtain ⟨_ | s, a⟩ := p <;> obtain ⟨_ | t, b⟩ := q <;> obtain ⟨_ | u, c⟩ := o
  · simp only [Earlier, decide_eq_true_eq] at first rest ⊢
    exact String.le_trans first rest
  · rfl
  · cases rest
  · rfl
  · cases first
  · cases first
  · cases rest
  · simp only [Earlier, Bool.or_eq_true, Bool.and_eq_true, decide_eq_true_eq] at first rest ⊢
    rcases first with before | ⟨rfl, le⟩
    · rcases rest with after | ⟨rfl, -⟩
      · exact .inl (Instant.lt_trans before after)
      · exact .inl before
    · rcases rest with after | ⟨rfl, le'⟩
      · exact .inl after
      · exact .inr ⟨rfl, String.le_trans le le'⟩

theorem earlier_antisymm (before : Earlier p q = true) (after : Earlier q p = true) : p = q := by
  obtain ⟨_ | s, a⟩ := p <;> obtain ⟨_ | t, b⟩ := q
  · simp only [Earlier, decide_eq_true_eq] at before after
    rw [String.le_antisymm before after]
  · cases after
  · cases before
  · simp only [Earlier, Bool.or_eq_true, Bool.and_eq_true, decide_eq_true_eq] at before after
    rcases before with before | ⟨rfl, le⟩
    · rcases after with after | ⟨rfl, -⟩
      · exact absurd (Instant.lt_trans before after) (Instant.lt_irrefl s)
      · exact absurd before (Instant.lt_irrefl _)
    · rcases after with after | ⟨-, le'⟩
      · exact absurd after (Instant.lt_irrefl _)
      · rw [String.le_antisymm le le']

namespace Records

variable {r r' : Records} {tenant : Tenant} {id : String} {s s' : Secret}

/-! ## What is listed -/

/-- Whether an entry is among those listed to a tenant. -/
def isListed (tenant : Tenant) (e : (Tenant × String) × Secret) : Bool :=
  e.1.1 = tenant && !e.2.deleted

theorem live_perm (tenant : Tenant) (r : Records) :
    (r.live tenant).Perm ((r.filter (isListed tenant)).map (·.2)) :=
  List.mergeSort_perm _ _

theorem live_sorted (tenant : Tenant) (r : Records) :
    ((r.live tenant).map place).Pairwise fun p q => Earlier p q = true := by
  rw [List.pairwise_map]
  refine (List.pairwise_mergeSort ?_ ?_ _).imp fun {a b} before => precedes_eq a b ▸ before
  · intro a b c first rest
    rw [precedes_eq] at first rest ⊢
    exact earlier_trans first rest
  · intro a b
    rw [precedes_eq, precedes_eq]
    exact earlier_total _ _

/-- The places listed are those of the entries that are listed. -/
theorem live_place_congr
    (same : ((r'.filter (isListed tenant)).map fun e => place e.2).Perm
      ((r.filter (isListed tenant)).map fun e => place e.2)) :
    (r'.live tenant).map place = (r.live tenant).map place := by
  have places : ∀ r : Records, ((r.live tenant).map place).Perm
      ((r.filter (isListed tenant)).map fun e => place e.2) := by
    intro r
    have listed := (live_perm tenant r).map place
    rwa [List.map_map] at listed
  refine List.Perm.eq_of_pairwise (fun p q _ _ => earlier_antisymm) (live_sorted tenant r')
    (live_sorted tenant r) ?_
  exact ((places r').trans same).trans (places r).symm

theorem total_eq (tenant : Tenant) (r : Records) : r.total tenant = (r.filter (isListed tenant)).length := by
  rw [total, (live_perm tenant r).length_eq, List.length_map]

/-! ## Changes -/

theorem lookup_put_self {key : Tenant × String} : (r.put key s).lookup key = some s := Keyed.lookup_put_self

theorem lookup_put_other {key key' : Tenant × String} (different : key' ≠ key) :
    (r.put key s).lookup key' = r.lookup key' :=
  Keyed.lookup_put_other different

/-- A record that takes the place of another is listed where that was, if both are. -/
theorem live_put_place (unique : (r.map (·.1)).Nodup) (found : r.lookup (tenant, id) = some s)
    (deleted : s'.deleted = s.deleted) (own : place s' = place s) (owner : Tenant) :
    ((r.put (tenant, id) s').live owner).map place = (r.live owner).map place := by
  apply live_place_congr
  have before := ((Keyed.perm_cons_erase unique found).filter (isListed owner)).map fun e => place e.2
  refine List.Perm.trans (List.Perm.of_eq ?_) before.symm
  have both : isListed owner ((tenant, id), s') = isListed owner ((tenant, id), s) := by
    simp only [isListed, deleted]
  show (((tenant, id), s') :: r.filter (·.1 ≠ (tenant, id)) |>.filter (isListed owner)).map _ = _
  cases shown : isListed owner ((tenant, id), s) with
  | true =>
    rw [List.filter_cons_of_pos (both.trans shown), List.filter_cons_of_pos shown, List.map_cons,
      List.map_cons, own]
  | false => rw [List.filter_cons_of_neg (by simp [both, shown]), List.filter_cons_of_neg (by simp [shown])]

/-- A new record counts, unless it is said to be deleted. -/
theorem total_put_new (unused : r.lookup (tenant, id) = none) :
    (r.put (tenant, id) s).total tenant = r.total tenant + if s.deleted then 0 else 1 := by
  have others : r.filter (·.1 ≠ (tenant, id)) = r := by
    refine Keyed.erase_unused fun e member same => ?_
    exact bne_iff_ne.1 (List.lookup_eq_none_iff.1 unused e member) same.symm
  rw [total_eq, total_eq]
  show (((tenant, id), s) :: r.filter (·.1 ≠ (tenant, id)) |>.filter (isListed tenant)).length = _
  rw [others]
  cases deleted : s.deleted with
  | true => rw [List.filter_cons_of_neg (by simp [isListed, deleted])]; rfl
  | false => rw [List.filter_cons_of_pos (by simp [isListed, deleted])]; rfl

/-- A record counts no longer once it is deleted. -/
theorem total_put_deleted (unique : (r.map (·.1)).Nodup) (found : r.lookup (tenant, id) = some s)
    (standing : s.deleted = false) (deleted : s'.deleted = true) :
    (r.put (tenant, id) s').total tenant + 1 = r.total tenant := by
  have before := ((Keyed.perm_cons_erase unique found).filter (isListed tenant)).length_eq
  rw [List.filter_cons_of_pos (by simp [isListed, standing])] at before
  rw [total_eq, total_eq, before]
  show (((tenant, id), s') :: r.filter (·.1 ≠ (tenant, id)) |>.filter (isListed tenant)).length + 1 = _
  rw [List.filter_cons_of_neg (by simp [isListed, deleted])]
  rfl

end Records

/-! ## Pages -/

/-- As many pages as it takes, one after the other, are the whole list. -/
theorem flatMap_pages {α : Type} (l : List α) (limit n : Nat) :
    ((List.range n).flatMap fun i => (l.drop (i * limit)).take limit) = l.take (n * limit) := by
  induction n with
  | zero => simp
  | succ n ih =>
    rw [List.range_succ, List.flatMap_append, ih, Nat.succ_mul, List.take_add]
    simp

end KeyCustody.Catalog

import Mathlib.Algebra.BigOperators.Group.Finset.Piecewise
import Mathlib.Algebra.BigOperators.Ring.Finset
import Mathlib.Algebra.Order.BigOperators.Group.Finset
import PxHost.Lib.Table

/-! What the evolution of a table can do to a total over its rows. -/

namespace Store.Table

variable {K V M : Type*} [DecidableEq K]

def keys (t : Table K V) : Finset K := (t.rows.map Prod.fst).toFinset

theorem mem_keys_iff {t : Table K V} {k : K} : k ∈ t.keys ↔ ∃ v, t.get? k = some v := by
  simp [keys, get?_eq_some_iff]

section Totals

variable [AddCommMonoid M]

def measure (t : Table K V) (g : K → V → M) (k : K) : M := (t.get? k).elim 0 (g k)

theorem measure_of_get? {t : Table K V} {k : K} {v : V} (stored : t.get? k = some v)
    (g : K → V → M) : t.measure g k = g k v := by
  simp [measure, stored]

theorem sum_eq_sum_keys (t : Table K V) (g : K → V → M) : t.sum g = ∑ k ∈ t.keys, t.measure g k := by
  rw [keys, List.sum_toFinset _ t.keysNodup, List.map_map, sum]
  refine congrArg List.sum (List.map_congr_left ?_)
  rintro ⟨k, v⟩ member
  exact (measure_of_get? (get?_eq_some_iff.mpr member) g).symm

omit [DecidableEq K] in
theorem sum_map_filter (t : Table K V) (p : K → V → Bool) (f : K × V → M) :
    ((t.filter p).map f).sum = t.sum fun k v => if p k v then f (k, v) else 0 := by
  obtain ⟨rows, distinct⟩ := t
  simp only [filter, sum]
  clear distinct
  induction rows with
  | nil => rfl
  | cons row rest ih =>
    by_cases selected : p row.1 row.2
    · simp [selected, ih]
    · simp [selected, ih]

omit [DecidableEq K] in
theorem sum_add_measure (t : Table K V) (g h : K → V → M) :
    (t.sum fun k v => g k v + h k v) = t.sum g + t.sum h :=
  List.sum_map_add

end Totals

omit [DecidableEq K] in
theorem cast_sum (t : Table K V) (g : K → V → ℕ) :
    ((t.sum g : ℕ) : ℤ) = t.sum fun k v => (g k v : ℤ) := by
  rw [sum, Nat.cast_list_sum, List.map_map]
  rfl

omit [DecidableEq K] in
theorem sum_eraseWhere_le (t : Table K V) (p : K → V → Bool) (g : K → V → ℕ) :
    (t.eraseWhere p).sum g ≤ t.sum g :=
  (List.filter_sublist.map _).sum_le_sum (by simp)

section Ordered

variable [AddCommMonoid M] [PartialOrder M] [IsOrderedAddMonoid M]
variable {Move : K → V → V → Prop} {New : K → V → Prop} {t t' : Table K V} {g : K → V → M}

/-- If new rows weigh nothing, the total grows by no more than the old rows do. -/
theorem Evolves.sum_le_add_sum (evolves : Evolves Move New t t') {gain : K → M}
    (moves : ∀ k v v', t.get? k = some v → Move k v v' → g k v' ≤ g k v + gain k)
    (news : ∀ k v', New k v' → g k v' ≤ 0) : t'.sum g ≤ t.sum g + ∑ k ∈ t.keys, gain k := by
  have kept : t.keys ⊆ t'.keys := by
    intro k used
    obtain ⟨v, stored⟩ := mem_keys_iff.mp used
    obtain ⟨v', stored', -⟩ := evolves.moved stored
    exact mem_keys_iff.mpr ⟨v', stored'⟩
  have appeared : ∑ k ∈ t'.keys \ t.keys, t'.measure g k ≤ 0 := by
    refine Finset.sum_nonpos ?_
    intro k new
    obtain ⟨used, unused⟩ := Finset.mem_sdiff.mp new
    obtain ⟨v', stored'⟩ := mem_keys_iff.mp used
    rw [measure_of_get? stored']
    refine news k v' (evolves.created ?_ stored')
    rw [mem_keys_iff] at unused
    exact Option.eq_none_iff_forall_ne_some.mpr fun v stored => unused ⟨v, stored⟩
  have moved : ∑ k ∈ t.keys, t'.measure g k ≤ ∑ k ∈ t.keys, (t.measure g k + gain k) := by
    refine Finset.sum_le_sum ?_
    intro k used
    obtain ⟨v, stored⟩ := mem_keys_iff.mp used
    obtain ⟨v', stored', move⟩ := evolves.moved stored
    rw [measure_of_get? stored, measure_of_get? stored']
    exact moves k v v' stored move
  calc t'.sum g
      = ∑ k ∈ t'.keys \ t.keys, t'.measure g k + ∑ k ∈ t.keys, t'.measure g k := by
        rw [sum_eq_sum_keys, Finset.sum_sdiff kept]
    _ ≤ 0 + ∑ k ∈ t.keys, (t.measure g k + gain k) := add_le_add appeared moved
    _ = t.sum g + ∑ k ∈ t.keys, gain k := by
        rw [zero_add, Finset.sum_add_distrib, sum_eq_sum_keys]

theorem Evolves.sum_le (evolves : Evolves Move New t t')
    (moves : ∀ k v v', t.get? k = some v → Move k v v' → g k v' ≤ g k v)
    (news : ∀ k v', New k v' → g k v' ≤ 0) : t'.sum g ≤ t.sum g := by
  have bound : t'.sum g ≤ t.sum g + ∑ _k ∈ t.keys, (0 : M) :=
    evolves.sum_le_add_sum (fun k v v' stored move => by
      simpa using moves k v v' stored move) news
  simpa using bound

theorem Evolves.sum_le_add (evolves : Evolves Move New t t') {grown : K} {gain : M}
    (gains : 0 ≤ gain)
    (moves : ∀ k v v', t.get? k = some v → Move k v v' →
      g k v' ≤ g k v + if k = grown then gain else 0)
    (news : ∀ k v', New k v' → g k v' ≤ 0) : t'.sum g ≤ t.sum g + gain := by
  refine le_trans (evolves.sum_le_add_sum moves news) ?_
  rw [Finset.sum_ite_eq']
  split
  · exact le_rfl
  · rw [add_zero]
    exact le_add_of_nonneg_right gains

end Ordered

end Store.Table

import Mathlib.Data.List.Find
import Mathlib.Data.List.Nodup
import Mathlib.Algebra.BigOperators.Group.List.Basic

/-! Keyed tables: finite row lists whose primary keys are pairwise distinct. -/

namespace Store

/-- The rows of one table in creation order, with the primary-key constraint built in. -/
structure Table (K V : Type*) where
  /-- Each row under its primary key. -/
  rows : List (K × V)
  /-- No two rows share a key. -/
  keysNodup : (rows.map Prod.fst).Nodup

namespace Table

variable {K V M : Type*}

def empty : Table K V := ⟨[], List.nodup_nil⟩

instance : Inhabited (Table K V) := ⟨empty⟩

@[ext] theorem ext {left right : Table K V} (same : left.rows = right.rows) : left = right := by
  -- The key constraint is a proposition, so only the rows carry information.
  cases left
  cases right
  simp_all

instance [DecidableEq K] [DecidableEq V] : DecidableEq (Table K V) := fun left right =>
  decidable_of_iff (left.rows = right.rows) ⟨ext, fun same => congrArg rows same⟩

/-- The first row satisfying a condition on its key and columns. -/
def find? (t : Table K V) (p : K → V → Bool) : Option (K × V) :=
  t.rows.find? fun row => p row.1 row.2

def filter (t : Table K V) (p : K → V → Bool) : List (K × V) :=
  t.rows.filter fun row => p row.1 row.2

def count (t : Table K V) (p : K → V → Bool) : Nat :=
  t.rows.countP fun row => p row.1 row.2

def sum [AddCommMonoid M] (t : Table K V) (g : K → V → M) : M :=
  (t.rows.map fun row => g row.1 row.2).sum

/-- Rewrite the columns of every row satisfying a condition, keeping all keys. -/
def updateWhere (t : Table K V) (p : K → V → Bool) (f : V → V) : Table K V where
  rows := t.rows.map fun row => (row.1, if p row.1 row.2 then f row.2 else row.2)
  keysNodup := by simpa [List.map_map, Function.comp_def] using t.keysNodup

def eraseWhere (t : Table K V) (p : K → V → Bool) : Table K V where
  rows := t.rows.filter fun row => !p row.1 row.2
  keysNodup := t.keysNodup.sublist (List.filter_sublist.map Prod.fst)

variable [DecidableEq K]

def get? (t : Table K V) (k : K) : Option V :=
  (t.find? fun key _ => key == k).map Prod.snd

def modify (t : Table K V) (k : K) (f : V → V) : Table K V :=
  t.updateWhere (fun key _ => key == k) f

def erase (t : Table K V) (k : K) : Table K V :=
  t.eraseWhere fun key _ => key == k

def add (t : Table K V) (k : K) (v : V) (fresh : t.get? k = none) : Table K V where
  rows := t.rows ++ [(k, v)]
  keysNodup := by
    have absent : ∀ row ∈ t.rows, row.1 ≠ k := by
      simpa [get?, find?] using fresh
    simp only [List.map_append, List.map_cons, List.map_nil]
    refine List.nodup_append.mpr ⟨t.keysNodup, by simp, ?_⟩
    intro key listed other single
    obtain ⟨row, member, rfl⟩ := List.mem_map.mp listed
    simp only [List.mem_singleton] at single
    subst single
    exact absent row member

def insert? (t : Table K V) (k : K) (v : V) : Option (Table K V) :=
  if fresh : t.get? k = none then some (t.add k v fresh) else none

/-- Update the row under a key, or append one where there is none. -/
def upsert (t : Table K V) (k : K) (create : V) (update : V → V) : Table K V :=
  if fresh : t.get? k = none then t.add k create fresh else t.modify k update

variable {t : Table K V} {k : K} {v : V}

theorem get?_eq_some_iff :
    t.get? k = some v ↔ (k, v) ∈ t.rows := by
  -- Distinct keys make the first row found under a key the only one.
  obtain ⟨rows, distinct⟩ := t
  simp only [get?, find?]
  induction rows with
  | nil => simp
  | cons row rest ih =>
    obtain ⟨key, value⟩ := row
    simp only [List.map_cons, List.nodup_cons] at distinct
    have tail := ih distinct.2
    by_cases same : key = k
    · subst same
      have absent : (key, v) ∉ rest := fun member =>
        distinct.1 (List.mem_map.mpr ⟨(key, v), member, rfl⟩)
      simp [absent, eq_comm]
    · simp [same, Ne.symm same, tail]

theorem key_mem (stored : t.get? k = some v) :
    k ∈ t.rows.map Prod.fst :=
  List.mem_map.mpr ⟨(k, v), get?_eq_some_iff.mp stored, rfl⟩

theorem get?_eq_none_iff :
    t.get? k = none ↔ ∀ row ∈ t.rows, row.1 ≠ k := by
  simp [get?, find?]

@[simp] theorem get?_empty (k : K) : (empty : Table K V).get? k = none := rfl

@[simp] theorem get?_updateWhere (t : Table K V) (p : K → V → Bool) (f : V → V) (k : K) :
    (t.updateWhere p f).get? k = (t.get? k).map fun v => if p k v then f v else v := by
  -- Both sides agree on which rows exist, since rewriting keeps every key.
  cases found : t.get? k with
  | none =>
    rw [get?_eq_none_iff] at found
    rw [Option.map_none, get?_eq_none_iff]
    intro row member
    obtain ⟨old, listed, rfl⟩ := List.mem_map.mp member
    exact found old listed
  | some v =>
    rw [get?_eq_some_iff] at found
    rw [Option.map_some, get?_eq_some_iff]
    exact List.mem_map.mpr ⟨(k, v), found, rfl⟩

@[simp] theorem get?_modify (t : Table K V) (k k' : K) (f : V → V) :
    (t.modify k f).get? k' = if k' = k then (t.get? k').map f else t.get? k' := by
  by_cases same : k' = k
  · simp [modify, same]
  · cases found : t.get? k' <;> simp [modify, same, found]

theorem get?_modify_stored (stored : t.get? k = some v) (f : V → V) :
    (t.modify k f).get? k = some (f v) := by
  simp [stored]

theorem modify_modify (t : Table K V) (k : K) (f g : V → V) :
    (t.modify k f).modify k g = t.modify k fun v => g (f v) := by
  -- Row by row, both rewrites fire on the same key or neither does.
  refine ext ?_
  simp only [modify, updateWhere, List.map_map]
  refine List.map_congr_left ?_
  rintro ⟨key, value⟩ -
  by_cases same : key = k
  · simp [same]
  · simp [same]

variable {f : V → V}

theorem modify_congr {g : V → V} (agree : ∀ v, t.get? k = some v → f v = g v) :
    t.modify k f = t.modify k g := by
  refine ext ?_
  refine List.map_congr_left ?_
  rintro ⟨key, value⟩ member
  by_cases here : key = k
  · subst here
    simp [agree value (get?_eq_some_iff.mpr member)]
  · simp [here]

theorem modify_self (same : ∀ v, t.get? k = some v → f v = v) : t.modify k f = t := by
  rw [modify_congr (g := id) same]
  refine ext ?_
  simp [modify, updateWhere]

theorem modify_stored (stored : t.get? k = some v) (f : V → V) :
    t.modify k f = t.modify k fun _ => f v := by
  refine modify_congr ?_
  intro row found
  obtain rfl : v = row := by simpa [stored] using found
  rfl

theorem modify_same (stored : t.get? k = some v) :
    t.modify k (fun _ => v) = t := by
  refine modify_self ?_
  intro row found
  simpa [stored] using found

@[simp] theorem get?_eraseWhere (t : Table K V) (p : K → V → Bool) (k : K) :
    (t.eraseWhere p).get? k = (t.get? k).filter fun v => !p k v := by
  -- Membership in the filtered list is membership together with the negated condition.
  apply Option.ext
  intro v
  simp only [get?_eq_some_iff, Option.filter_eq_some_iff, eraseWhere, List.mem_filter]

@[simp] theorem get?_erase (t : Table K V) (k k' : K) :
    (t.erase k).get? k' = if k' = k then none else t.get? k' := by
  by_cases same : k' = k
  · cases found : t.get? k' <;> simp [erase, same]
  · cases found : t.get? k' <;> simp [erase, same, found]

@[simp] theorem get?_add (t : Table K V) (k k' : K) (v : V) (fresh : t.get? k = none) :
    (t.add k v fresh).get? k' = if k' = k then some v else t.get? k' := by
  by_cases same : k' = k
  · subst same
    rw [if_pos rfl, get?_eq_some_iff]
    simp [add]
  · rw [if_neg same]
    apply Option.ext
    intro value
    simp [get?_eq_some_iff, add, same]

theorem modify_add (t : Table K V) (k : K) (v : V) (fresh : t.get? k = none) (f : V → V) :
    (t.add k v fresh).modify k f = t.add k (f v) fresh := by
  refine ext ?_
  simp only [modify, updateWhere, add, List.map_append, List.map_cons, List.map_nil, beq_self_eq_true,
    if_true, List.append_cancel_right_eq]
  -- No older row carries the key, so only the appended one is rewritten.
  refine (List.map_congr_left ?_).trans (List.map_id _)
  rintro ⟨key, value⟩ member
  simp [get?_eq_none_iff.mp fresh _ member]

theorem insert?_eq_some {grown : Table K V} (inserted : t.insert? k v = some grown) :
    ∃ fresh : t.get? k = none, grown = t.add k v fresh := by
  unfold insert? at inserted
  split at inserted
  · rename_i fresh
    exact ⟨fresh, by simpa using inserted.symm⟩
  · cases inserted

theorem get?_insert? {grown : Table K V} (inserted : t.insert? k v = some grown) (k' : K) :
    grown.get? k' = if k' = k then some v else t.get? k' := by
  obtain ⟨fresh, rfl⟩ := insert?_eq_some inserted
  exact get?_add ..

@[simp] theorem get?_upsert (t : Table K V) (k k' : K) (create : V) (update : V → V) :
    (t.upsert k create update).get? k' =
      if k' = k then some ((t.get? k).elim create update) else t.get? k' := by
  unfold upsert
  split
  · rename_i fresh
    simp [fresh]
  · rename_i taken
    obtain ⟨v, found⟩ := Option.ne_none_iff_exists'.mp taken
    by_cases same : k' = k
    · simp [same, found]
    · simp [same]

variable {p : K → V → Bool}

theorem find?_some (found : t.find? p = some (k, v)) : t.get? k = some v ∧ p k v := by
  refine ⟨get?_eq_some_iff.mpr (List.mem_of_find?_eq_some found), ?_⟩
  simpa using List.find?_some found

theorem find?_none (missing : t.find? p = none) (stored : t.get? k = some v) : p k v = false := by
  have listed := get?_eq_some_iff.mp stored
  simpa using List.find?_eq_none.mp missing (k, v) listed

theorem find?_unique (stored : t.get? k = some v) (meets : p k v)
    (only : ∀ k' v', t.get? k' = some v' → p k' v' → k' = k) :
    t.find? p = some (k, v) := by
  cases found : t.find? p with
  | none => simp [find?_none found stored] at meets
  | some row =>
    obtain ⟨k', v'⟩ := row
    obtain ⟨stored', meets'⟩ := find?_some found
    obtain rfl := only k' v' stored' meets'
    obtain rfl : v = v' := by simpa [stored] using stored'
    rfl

theorem find?_modify (unseen : ∀ v, t.get? k = some v → p k (f v) = p k v) :
    (t.modify k f).find? p = (t.find? p).map fun row =>
      (row.1, if row.1 == k then f row.2 else row.2) := by
  -- On every listed row the condition answers the same before and after the rewrite.
  have agree : ∀ row ∈ t.rows, p row.1 (if row.1 == k then f row.2 else row.2) = p row.1 row.2 := by
    rintro ⟨key, value⟩ member
    by_cases same : key = k
    · subst same
      simpa using unseen value (get?_eq_some_iff.mpr member)
    · simp [same]
  simp only [find?, modify, updateWhere, List.find?_map]
  congr 1
  exact List.find?_congr agree

theorem find?_add (t : Table K V) (k : K) (v : V) (fresh : t.get? k = none) (p : K → V → Bool) :
    (t.add k v fresh).find? p = (t.find? p).or (if p k v then some (k, v) else none) := by
  simp only [find?, add, List.find?_append, List.find?_singleton]

theorem mem_filter_iff :
    (k, v) ∈ t.filter p ↔ t.get? k = some v ∧ p k v := by
  simp [filter, List.mem_filter, get?_eq_some_iff]

/-- Rows only move and appear: none is lost, and each new one meets a condition. -/
structure Evolves (Move : K → V → V → Prop) (New : K → V → Prop) (t t' : Table K V) : Prop where
  moved : ∀ {k v}, t.get? k = some v → ∃ v', t'.get? k = some v' ∧ Move k v v'
  created : ∀ {k v'}, t.get? k = none → t'.get? k = some v' → New k v'

namespace Evolves

variable {Move : K → V → V → Prop} {New : K → V → Prop} {t : Table K V}

theorem refl (still : ∀ k v, Move k v v) (t : Table K V) : Evolves Move New t t where
  moved := fun {k v} stored => ⟨v, stored, still k v⟩
  created := fun missing stored => by simp [missing] at stored

theorem mono {Move' : K → V → V → Prop} {New' : K → V → Prop} {t' : Table K V}
    (evolves : Evolves Move New t t') (moves : ∀ k v v', Move k v v' → Move' k v v')
    (news : ∀ k v, New k v → New' k v) : Evolves Move' New' t t' where
  moved := fun stored => (evolves.moved stored).imp fun v' ⟨kept, move⟩ => ⟨kept, moves _ _ v' move⟩
  created := fun missing stored => news _ _ (evolves.created missing stored)

/-- Whatever is there afterwards was there before, or is new. -/
theorem origin {t' : Table K V} (evolves : Evolves Move New t t') {v' : V}
    (stored' : t'.get? k = some v') :
    (∃ v, t.get? k = some v ∧ Move k v v') ∨ t.get? k = none ∧ New k v' := by
  cases stored : t.get? k with
  | none => exact .inr ⟨rfl, evolves.created stored stored'⟩
  | some v =>
    obtain ⟨_, same, move⟩ := evolves.moved stored
    obtain rfl := Option.mem_unique same stored'
    exact .inl ⟨v, rfl, move⟩

theorem updateWhere (still : ∀ k v, Move k v v)
    (moves : ∀ k v, t.get? k = some v → p k v → Move k v (f v)) :
    Evolves Move New t (t.updateWhere p f) where
  moved := fun {k v} stored => by
    refine ⟨if p k v then f v else v, by simp [stored], ?_⟩
    split
    · rename_i selected
      exact moves k v stored selected
    · exact still k v
  created := fun missing stored => by simp [missing] at stored

theorem modify (still : ∀ k v, Move k v v) (moves : ∀ v, t.get? k = some v → Move k v (f v)) :
    Evolves Move New t (t.modify k f) :=
  updateWhere still fun key v stored selected => by
    obtain rfl : key = k := by simpa using selected
    exact moves v stored

theorem add (fresh : t.get? k = none) (still : ∀ k v, Move k v v) (new : New k v) :
    Evolves Move New t (t.add k v fresh) where
  moved := fun {key row} stored => by
    have other : key ≠ k := by
      rintro rfl
      simp [fresh] at stored
    exact ⟨row, by simp [other, stored], still key row⟩
  created := fun {key row} missing stored => by
    by_cases same : key = k
    · subst same
      simp only [get?_add, if_true, Option.some.injEq] at stored
      exact stored ▸ new
    · simp [same, missing] at stored

/-- One evolution after another, where a new row may still move in the second. -/
theorem trans {t' t'' : Table K V} {Move' : K → V → V → Prop} {New' : K → V → Prop}
    {Both : K → V → V → Prop} (first : Evolves Move New t t') (second : Evolves Move' New' t' t'')
    (composes : ∀ k v v' v'', Move k v v' → Move' k v' v'' → Both k v v'')
    (survives : ∀ k v v', New k v → Move' k v v' → New' k v') : Evolves Both New' t t'' where
  moved := fun {k v} stored => by
    obtain ⟨v', kept, move⟩ := first.moved stored
    obtain ⟨v'', kept', move'⟩ := second.moved kept
    exact ⟨v'', kept', composes k v v' v'' move move'⟩
  created := fun {k v''} missing stored => by
    rcases second.origin stored with ⟨v', between, move⟩ | ⟨-, new⟩
    · exact survives k v' v'' (first.created missing between) move
    · exact new

end Evolves

section Sums

variable [AddCommMonoid M]

omit [DecidableEq K] in
theorem sum_updateWhere (t : Table K V) (p : K → V → Bool) (f : V → V) (g : K → V → M) :
    (t.updateWhere p f).sum g = t.sum fun k v => g k (if p k v then f v else v) := by
  simp [sum, updateWhere, List.map_map, Function.comp_def]

theorem sum_congr {g h : K → V → M} (agree : ∀ k v, t.get? k = some v → g k v = h k v) :
    t.sum g = t.sum h := by
  refine congrArg List.sum (List.map_congr_left ?_)
  rintro ⟨k, v⟩ member
  exact agree k v (get?_eq_some_iff.mpr member)

theorem sum_add (t : Table K V) (k : K) (v : V) (fresh : t.get? k = none) (g : K → V → M) :
    (t.add k v fresh).sum g = t.sum g + g k v := by
  simp [sum, add, List.map_append]

theorem sum_erase (stored : t.get? k = some v) (g : K → V → M) :
    (t.erase k).sum g + g k v = t.sum g := by
  -- Only the one row under the key is dropped, wherever in the list it stands.
  rw [get?_eq_some_iff] at stored
  obtain ⟨rows, distinct⟩ := t
  simp only [sum, erase, eraseWhere]
  induction rows with
  | nil => simp at stored
  | cons row rest ih =>
    obtain ⟨key, value⟩ := row
    have apart : key ∉ rest.map Prod.fst ∧ (rest.map Prod.fst).Nodup := by
      simpa only [List.map_cons, List.nodup_cons] using distinct
    rcases List.mem_cons.mp stored with same | member
    · cases same
      have kept : rest.filter (fun row => !row.1 == k) = rest := by
        refine List.filter_eq_self.mpr ?_
        intro row listed
        have : row.1 ≠ k := fun same => apart.1 (same ▸ List.mem_map_of_mem listed)
        simpa using this
      simp [kept, add_comm]
    · have other : key ≠ k := by
        rintro rfl
        exact apart.1 (List.mem_map.mpr ⟨(key, v), member, rfl⟩)
      have tail := ih apart.2 member
      simp [other, add_assoc, tail]

theorem sum_modify (stored : t.get? k = some v) (f : V → V) (g : K → V → M) :
    (t.modify k f).sum g + g k v = t.sum g + g k (f v) := by
  -- Both totals split into the row under the key and the untouched remainder.
  have rest : ((t.modify k f).erase k).sum g = (t.erase k).sum g := by
    simp only [sum, erase, eraseWhere, modify, updateWhere, List.filter_map, List.map_map]
    refine congrArg List.sum (List.map_congr_left ?_)
    rintro ⟨key, value⟩ member
    have other : key ≠ k := by simpa using (List.mem_filter.mp member).2
    simp [other]
  have changed : (t.modify k f).get? k = some (f v) := by simp [stored]
  rw [← sum_erase changed g, ← sum_erase stored g, rest]
  rw [add_assoc, add_assoc, add_comm (g k (f v))]

end Sums

omit [DecidableEq K] in
theorem count_eq_sum (t : Table K V) (p : K → V → Bool) :
    t.count p = t.sum fun k v => if p k v then 1 else 0 := by
  obtain ⟨rows, distinct⟩ := t
  simp only [count, sum]
  clear distinct
  induction rows with
  | nil => rfl
  | cons row rest ih =>
    simp only [List.countP_cons, List.map_cons, List.sum_cons, ih]
    exact Nat.add_comm ..

theorem count_le_one_iff :
    t.count p ≤ 1 ↔ ∀ k v k' v', t.get? k = some v → p k v → t.get? k' = some v' → p k' v' →
      k = k' := by
  have listed (k : K) (v : V) (stored : t.get? k = some v) (meets : p k v) :
      (k, v) ∈ t.filter p := mem_filter_iff.mpr ⟨stored, meets⟩
  have distinct : ((t.filter p).map Prod.fst).Nodup :=
    t.keysNodup.sublist (List.filter_sublist.map Prod.fst)
  rw [count, List.countP_eq_length_filter]
  change (t.filter p).length ≤ 1 ↔ _
  constructor
  · intro few k v k' v' stored meets stored' meets'
    have member := listed k v stored meets
    have member' := listed k' v' stored' meets'
    match rows : t.filter p, few with
    | [], _ => simp [rows] at member
    | [row], _ =>
      simp only [rows, List.mem_singleton] at member member'
      exact congrArg Prod.fst (member.trans member'.symm)
  · intro same
    match rows : t.filter p with
    | [] | [_] => simp
    | (k, v) :: (k', v') :: rest =>
      -- Two listed rows would share their key.
      have first : t.get? k = some v ∧ p k v := mem_filter_iff.mp (by simp [rows])
      have second : t.get? k' = some v' ∧ p k' v' := mem_filter_iff.mp (by simp [rows])
      simp [rows, same k v k' v' first.1 first.2 second.1 second.2] at distinct

theorem count_eq_one_iff :
    t.count p = 1 ↔ ∃ k v, t.get? k = some v ∧ p k v ∧
      ∀ k' v', t.get? k' = some v' → p k' v' → k' = k := by
  have positive : 0 < t.count p ↔ ∃ k v, t.get? k = some v ∧ p k v := by
    simp [count, List.countP_pos_iff, get?_eq_some_iff]
  constructor
  · intro one
    obtain ⟨k, v, stored, meets⟩ := positive.mp (by omega)
    exact ⟨k, v, stored, meets, fun k' v' stored' meets' =>
      count_le_one_iff.mp (Nat.le_of_eq one) k' v' k v stored' meets' stored meets⟩
  · rintro ⟨k, v, stored, meets, only⟩
    have some := positive.mpr ⟨k, v, stored, meets⟩
    have most : t.count p ≤ 1 := count_le_one_iff.mpr fun k₁ v₁ k₂ v₂ stored₁ meets₁ stored₂ meets₂ =>
      (only k₁ v₁ stored₁ meets₁).trans (only k₂ v₂ stored₂ meets₂).symm
    omega

end Table

end Store

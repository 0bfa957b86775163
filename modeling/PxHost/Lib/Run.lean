import Mathlib.Order.Basic

/-! Runs of a deterministic step function, and the rules that carry an invariant along them. -/

namespace Machine

variable {State Op : Type*} (step : State → Op → State)

/-- The state after performing every operation of a run, first to last. -/
def run (s : State) (ops : List Op) : State := ops.foldl step s

/-- Every operation of a run meets a condition in the very state it is performed in. -/
def Guarded (guard : State → Op → Prop) : State → List Op → Prop
  | _, [] => True
  | s, op :: rest => guard s op ∧ Guarded guard (step s op) rest

instance Guarded.decidable (guard : State → Op → Prop) [∀ s op, Decidable (guard s op)] :
    ∀ s ops, Decidable (Guarded step guard s ops)
  | _, [] => inferInstanceAs (Decidable True)
  | s, op :: rest =>
    have := Guarded.decidable guard (step s op) rest
    inferInstanceAs (Decidable (guard s op ∧ Guarded step guard (step s op) rest))

@[simp] theorem run_nil (s : State) : run step s [] = s := rfl

@[simp] theorem run_cons (s : State) (op : Op) (rest : List Op) :
    run step s (op :: rest) = run step (step s op) rest := rfl

theorem run_append (s : State) (pre post : List Op) :
    run step s (pre ++ post) = run step (run step s pre) post := by
  simp [run, List.foldl_append]

variable {step} {guard : State → Op → Prop} {s : State}

theorem guarded_append {pre post : List Op} :
    Guarded step guard s (pre ++ post) ↔
      Guarded step guard s pre ∧ Guarded step guard (run step s pre) post := by
  induction pre generalizing s with
  | nil => simp [Guarded]
  | cons op rest ih => simp [Guarded, ih, and_assoc]

variable {ops : List Op} {guard' : State → Op → Prop}

theorem Guarded.and (guarded : Guarded step guard s ops) (guarded' : Guarded step guard' s ops) :
    Guarded step (fun s op => guard s op ∧ guard' s op) s ops := by
  induction ops generalizing s with
  | nil => trivial
  | cons op rest ih => exact ⟨⟨guarded.1, guarded'.1⟩, ih guarded.2 guarded'.2⟩

theorem Guarded.mono (guarded : Guarded step guard s ops)
    (weaker : ∀ s op, guard s op → guard' s op) :
    Guarded step guard' s ops := by
  induction ops generalizing s with
  | nil => trivial
  | cons op rest ih => exact ⟨weaker s op guarded.1, ih guarded.2⟩

/-- What every guarded step preserves holds at the end of a guarded run. -/
theorem invariant_run (Inv : State → Prop)
    (preserved : ∀ s op, Inv s → guard s op → Inv (step s op)) (initially : Inv s)
    (guarded : Guarded step guard s ops) :
    Inv (run step s ops) := by
  -- The invariant moves one operation forward before the rest of the run takes over.
  induction ops generalizing s with
  | nil => exact initially
  | cons op rest ih => exact ih (preserved s op initially guarded.1) guarded.2

theorem invariant_always (Inv : State → Prop) (preserved : ∀ s op, Inv s → Inv (step s op))
    (initially : Inv s) (ops : List Op) : Inv (run step s ops) := by
  induction ops generalizing s with
  | nil => exact initially
  | cons op rest ih => exact ih (preserved s op initially)

/--
A condition that keeps an invariant, and whose violation breaks something for good, is met by a run
exactly when nothing is broken at its end.
-/
theorem guarded_iff_run (Inv Broken : State → Prop)
    (preserved : ∀ s op, Inv s → guard s op → Inv (step s op))
    (breaks : ∀ s op, Inv s → ¬ guard s op → Broken (step s op))
    (remains : ∀ s op, Broken s → Broken (step s op)) (sound : ∀ s, Inv s → ¬ Broken s)
    (initially : Inv s) (ops : List Op) :
    Guarded step guard s ops ↔ ¬ Broken (run step s ops) := by
  constructor
  · exact fun guarded => sound _ (invariant_run Inv preserved initially guarded)
  · intro intact
    induction ops generalizing s with
    | nil => trivial
    | cons op rest ih =>
      -- A violation here would still show at the end of the rest of the run.
      have allowed : guard s op := by
        by_contra refused
        exact intact (invariant_always Broken remains (breaks s op initially refused) rest)
      exact ⟨allowed, ih (preserved s op initially allowed) intact⟩

theorem le_run {α : Type*} [Preorder α] {f : State → α}
    (rises : ∀ s op, guard s op → f s ≤ f (step s op)) (guarded : Guarded step guard s ops) :
    f s ≤ f (run step s ops) := by
  have preserved : ∀ s' op, f s ≤ f s' → guard s' op → f s ≤ f (step s' op) :=
    fun s' op reached allowed => le_trans reached (rises s' op allowed)
  exact invariant_run (fun s' => f s ≤ f s') preserved le_rfl guarded

section Observations

variable {Obs : Type*} {see : State → Op → Obs}

variable (step) in
/-- What is seen of every operation of a run, in the state it is performed in. -/
def observed (see : State → Op → Obs) : State → List Op → List Obs
  | _, [] => []
  | s, op :: rest => see s op :: observed see (step s op) rest

/-- States that look alike, and whose operations keep them so, cannot be told apart by any run. -/
theorem observed_eq_of_alike (Alike : State → State → Prop)
    (same : ∀ s s' op, Alike s s' → see s op = see s' op)
    (kept : ∀ s s' op, Alike s s' → Alike (step s op) (step s' op)) {s' : State}
    (alike : Alike s s') (ops : List Op) : observed step see s ops = observed step see s' ops := by
  induction ops generalizing s s' with
  | nil => rfl
  | cons op rest ih => rw [observed, observed, same s s' op alike, ih (kept s s' op alike)]

end Observations

section Levels

variable {α : Type*} [PartialOrder α] [DecidableEq α]

variable (step) in
/-- How often a run enters one level of a measure. -/
def entries (f : State → α) (level : α) : State → List Op → Nat
  | _, [] => 0
  | s, op :: rest =>
    (if f s ≠ level ∧ f (step s op) = level then 1 else 0) + entries f level (step s op) rest

variable {f : State → α} {level : α}

theorem entries_eq_zero (rises : ∀ s op, f s ≤ f (step s op)) (reached : level ≤ f s)
    (ops : List Op) : entries step f level s ops = 0 := by
  induction ops generalizing s with
  | nil => rfl
  | cons op rest ih =>
    have outside : ¬ (f s ≠ level ∧ f (step s op) = level) := by
      rintro ⟨below, enters⟩
      exact below (le_antisymm (enters ▸ rises s op) reached)
    rw [entries, if_neg outside, ih (le_trans reached (rises s op))]

theorem entries_le_one (rises : ∀ s op, f s ≤ f (step s op)) (s : State) (ops : List Op) :
    entries step f level s ops ≤ 1 := by
  induction ops generalizing s with
  | nil => exact Nat.zero_le 1
  | cons op rest ih =>
    rw [entries]
    split
    · -- From the level on, nothing that follows can enter it again.
      rename_i enters
      have later := entries_eq_zero rises (le_of_eq enters.2.symm) rest
      omega
    · simpa using ih (step s op)

end Levels

section Changes

variable {α : Type*} [DecidableEq α]

variable (step) in
/-- How often a run changes the value of a measure. -/
def changes (f : State → α) : State → List Op → Nat
  | _, [] => 0
  | s, op :: rest => (if f (step s op) = f s then 0 else 1) + changes f (step s op) rest

variable {f : State → α} {guard : State → Op → Prop} (Final : α → Prop)

theorem changes_eq_zero (kept : ∀ s op, guard s op → Final (f s) → f (step s op) = f s)
    (final : Final (f s)) (guarded : Guarded step guard s ops) :
    changes step f s ops = 0 := by
  induction ops generalizing s with
  | nil => rfl
  | cons op rest ih =>
    have same := kept s op guarded.1 final
    rw [changes, if_pos same, ih (same ▸ final) guarded.2]

/-- A value that is final once it has changed is changed at most once. -/
theorem changes_le_one (kept : ∀ s op, guard s op → Final (f s) → f (step s op) = f s)
    (reached : ∀ s op, guard s op → f (step s op) ≠ f s → Final (f (step s op)))
    (guarded : Guarded step guard s ops) : changes step f s ops ≤ 1 := by
  induction ops generalizing s with
  | nil => exact Nat.zero_le 1
  | cons op rest ih =>
    rw [changes]
    split
    · simpa using ih guarded.2
    · -- The first change leads to a final value, which nothing that follows changes.
      rename_i changed
      have rest := changes_eq_zero Final kept (reached s op guarded.1 changed) guarded.2
      omega

end Changes

end Machine

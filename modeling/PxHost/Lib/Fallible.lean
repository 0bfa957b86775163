import Mathlib.Data.List.Forall2

/-! Reading back what a successful fallible computation did, one bind at a time. -/

namespace Fallible

universe u v

variable {ε : Type u} {α β : Type v}

@[simp] theorem ok_bind (a : α) (f : α → Except ε β) : Except.ok a >>= f = f a := rfl

@[simp] theorem error_bind (e : ε) (f : α → Except ε β) :
    Except.error e >>= f = Except.error e := rfl

def require (condition : Prop) [Decidable condition] (e : ε) : Except ε Unit :=
  if condition then .ok () else .error e

variable {e : ε}

@[simp] theorem require_eq_ok_iff {condition : Prop} [Decidable condition] {u : Unit} :
    require condition e = .ok u ↔ condition := by
  unfold require
  split <;> simp_all

variable {x : Except ε α} {f : α → Except ε β}

theorem bind_eq_ok_iff {b : β} :
    x >>= f = .ok b ↔ ∃ a, x = .ok a ∧ f a = .ok b := by
  cases x with
  | error e => simp
  | ok a => simp

theorem bind_eq_error_iff :
    x >>= f = .error e ↔ x = .error e ∨ ∃ a, x = .ok a ∧ f a = .error e := by
  cases x with
  | error e => simp
  | ok a => simp

theorem forM_eq_ok_iff {f : α → Except ε PUnit} {l : List α} :
    forM l f = .ok ⟨⟩ ↔ ∀ a ∈ l, f a = .ok ⟨⟩ := by
  induction l with
  | nil => exact iff_of_true rfl nofun
  | cons a l ih =>
    rw [List.forM_cons, bind_eq_ok_iff, List.forall_mem_cons, ← ih]
    exact ⟨fun ⟨_, first, rest⟩ => ⟨first, rest⟩, fun ⟨first, rest⟩ => ⟨⟨⟩, first, rest⟩⟩

/-- A loop fails as one of its rounds does. -/
theorem forM_eq_error {f : α → Except ε PUnit} {l : List α} (failed : forM l f = .error e) :
    ∃ a ∈ l, f a = .error e := by
  induction l with
  | nil => cases failed
  | cons a l ih =>
    rw [List.forM_cons, bind_eq_error_iff] at failed
    rcases failed with first | ⟨_, -, rest⟩
    · exact ⟨a, List.mem_cons_self, first⟩
    · obtain ⟨b, member, fails⟩ := ih rest
      exact ⟨b, List.mem_cons_of_mem _ member, fails⟩

/-- A loop keeps what each of its rounds keeps of the part already walked, or fails as a round does. -/
theorem foldlM_ok_or_error {σ : Type v} {step : σ → α → Except ε σ} {kept : List α → σ → Prop}
    {fault : ε → Prop} {l : List α} {s : σ} (start : kept [] s)
    (steps : ∀ done a rest s, l = done ++ a :: rest → kept done s →
      (∃ s', step s a = .ok s' ∧ kept (done ++ [a]) s') ∨ ∃ e, step s a = .error e ∧ fault e) :
    (∃ s', l.foldlM step s = .ok s' ∧ kept l s') ∨ ∃ e, l.foldlM step s = .error e ∧ fault e := by
  have walk (rest done : List α) (s : σ) (split : l = done ++ rest) (holds : kept done s) :
      (∃ s', rest.foldlM step s = .ok s' ∧ kept l s') ∨ ∃ e, rest.foldlM step s = .error e ∧ fault e := by
    induction rest generalizing done s with
    | nil => exact .inl ⟨s, rfl, by simpa [split] using holds⟩
    | cons a rest ih =>
      rw [List.foldlM_cons]
      rcases steps done a rest s split holds with ⟨s', goes, holds'⟩ | ⟨e, fails, found⟩
      · rw [goes]
        exact ih (done ++ [a]) s' (by simp [split]) holds'
      · exact .inr ⟨e, by rw [fails]; rfl, found⟩
  exact walk l [] s rfl start

theorem isOk_iff : x.isOk ↔ ∃ a, x = .ok a := by
  cases x with
  | error e => simp [Except.isOk, Except.toBool]
  | ok a => simp [Except.isOk, Except.toBool]

theorem map_eq_ok_iff {f : α → β} {b : β} :
    x.map f = .ok b ↔ ∃ a, x = .ok a ∧ b = f a := by
  cases x with
  | error e => simp [Except.map]
  | ok a => simp [Except.map, eq_comm]

theorem map_fst_eq_ok_iff {x : Except ε (α × β)} {a : α} :
    x.map Prod.fst = .ok a ↔ ∃ b, x = .ok (a, b) := by
  cases x with
  | error e => simp [Except.map]
  | ok both => simp [Except.map, Prod.ext_iff]

/-- A computation that never fails in a certain way, although it may fail otherwise. -/
def Avoids (bad : ε → Prop) (x : Except ε α) : Prop := ∀ e, x = .error e → ¬ bad e

namespace Avoids

variable {bad : ε → Prop}

theorem ok (a : α) : Avoids bad (.ok a : Except ε α) := nofun

theorem error (other : ¬ bad e) : Avoids bad (.error e : Except ε α) := by
  intro e' same
  cases same
  exact other

theorem bind (first : Avoids bad x) (rest : ∀ a, Avoids bad (f a)) : Avoids bad (x >>= f) := by
  intro e fails
  rcases bind_eq_error_iff.mp fails with here | ⟨a, -, later⟩
  · exact first e here
  · exact rest a e later

end Avoids

def Succeeds (x : Except ε α) : Prop := ∃ a, x = .ok a

theorem not_succeeds_error (e : ε) : ¬ Succeeds (.error e : Except ε α) := by
  rintro ⟨a, same⟩
  cases same

instance decidableSucceeds : (x : Except ε α) → Decidable (Succeeds x)
  | .ok a => isTrue ⟨a, rfl⟩
  | .error e => isFalse (not_succeeds_error e)

/-- The answer is as wanted, or the failure has its excuse. -/
def Yields (wanted : α → Prop) (excuse : Prop) : Except ε α → Prop
  | .ok a => wanted a
  | .error _ => excuse

namespace Yields

variable {wanted : α → Prop} {wanted' : β → Prop} {excuse : Prop}

theorem of_ok (yields : Yields wanted excuse x) {a : α} (answers : x = .ok a) : wanted a := by
  subst answers
  exact yields

theorem answers (yields : Yields wanted excuse x) (inexcusable : ¬excuse) :
    ∃ a, x = .ok a ∧ wanted a := by
  cases x with
  | error e => exact absurd yields inexcusable
  | ok a => exact ⟨a, rfl, yields⟩

theorem bind (first : Yields wanted excuse x) (rest : ∀ a, wanted a → Yields wanted' excuse (f a)) :
    Yields wanted' excuse (x >>= f) := by
  cases x with
  | error e => exact first
  | ok a => exact rest a first

end Yields

end Fallible

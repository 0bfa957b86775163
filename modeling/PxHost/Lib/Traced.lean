import Mathlib.Data.List.Basic

/-! Programs that change a state, may fail halfway and leave a trace of what they touched. -/

universe u

/-- A failure keeps the state and the trace as they are at that point. -/
def Traced (State Error Event : Type*) (α : Type u) :=
  State → Except Error α × State × List Event

namespace Traced

variable {State Error Event : Type*} {α β : Type u}

instance : Monad (Traced State Error Event) where
  pure result := fun s => (.ok result, s, [])
  bind m next := fun s =>
    match m s with
    | (.ok result, s', trace) =>
      let later := next result s'
      (later.1, later.2.1, trace ++ later.2.2)
    | (.error error, s', trace) => (.error error, s', trace)

def fail (error : Error) : Traced State Error Event α := fun s => (.error error, s, [])

/-- Hand the outcome of a program to the caller, who decides what a failure means. -/
def attempt (m : Traced State Error Event α) : Traced State Error Event (Except Error α) :=
  fun s => (.ok (m s).1, (m s).2)

def liftExcept : Except Error α → Traced State Error Event α
  | .ok result => pure result
  | .error error => fail error

/-- Everything a program touches from a state is allowed, and a condition holds in the end. -/
def Obeys (allowed : Event → Prop) (m : Traced State Error Event α) (s : State)
    (post : Except Error α → State → Prop) : Prop :=
  (∀ event ∈ (m s).2.2, allowed event) ∧ post (m s).1 (m s).2.1

variable {allowed : Event → Prop} {s : State} {m : Traced State Error Event α}

theorem obeys_true :
    Obeys allowed m s (fun _ _ => True) ↔ ∀ event ∈ (m s).2.2, allowed event :=
  and_iff_left trivial

variable {post : Except Error α → State → Prop}

@[simp] theorem obeys_pure {result : α} :
    Obeys allowed (pure result : Traced State Error Event α) s post ↔ post (.ok result) s := by
  simp [Obeys, pure]

@[simp] theorem obeys_fail {error : Error} :
    Obeys allowed (fail error : Traced State Error Event α) s post ↔ post (.error error) s := by
  simp [Obeys, fail]

variable {next : α → Traced State Error Event β}

theorem bind_of_ok {result : α} {s' : State} {trace : List Event}
    (first : m s = (.ok result, s', trace)) :
    (m >>= next) s = ((next result s').1, (next result s').2.1, trace ++ (next result s').2.2) := by
  simp [bind, first]

theorem bind_of_error {error : Error} {s' : State} {trace : List Event}
    (first : m s = (.error error, s', trace)) :
    (m >>= next) s = (.error error, s', trace) := by
  simp [bind, first]

theorem obeys_bind {post : Except Error β → State → Prop} :
    Obeys allowed (m >>= next) s post ↔
      Obeys allowed m s fun outcome s' => match outcome with
        | .ok result => Obeys allowed (next result) s' post
        | .error error => post (.error error) s' := by
  rcases first : m s with ⟨outcome, s', trace⟩
  cases outcome with
  | ok result => simp [Obeys, bind_of_ok first, first, or_imp, forall_and, and_assoc]
  | error error => simp [Obeys, bind_of_error first, first]

@[simp] theorem obeys_attempt {post : Except Error (Except Error α) → State → Prop} :
    Obeys allowed (attempt m) s post ↔ Obeys allowed m s fun outcome => post (.ok outcome) :=
  Iff.rfl

@[simp] theorem obeys_liftExcept {outcome : Except Error α} :
    Obeys allowed (liftExcept outcome : Traced State Error Event α) s post ↔ post outcome s := by
  cases outcome <;> simp [liftExcept]

theorem Obeys.mono {post' : Except Error α → State → Prop} (obeys : Obeys allowed m s post)
    (weaker : ∀ outcome s', post outcome s' → post' outcome s') :
    Obeys allowed m s post' :=
  ⟨obeys.1, weaker _ _ obeys.2⟩

/-- The part of the rule for sequences that needs to say nothing about failures. -/
theorem Obeys.bind {middle : Except Error α → State → Prop} {post : Except Error β → State → Prop}
    (first : Obeys allowed m s middle)
    (rest : ∀ result s', middle (.ok result) s' → Obeys allowed (next result) s' post)
    (failed : ∀ error s', middle (.error error) s' → post (.error error) s') :
    Obeys allowed (m >>= next) s post := by
  refine obeys_bind.mpr (first.mono ?_)
  intro outcome s' holds
  cases outcome with
  | ok result => exact rest result s' holds
  | error error => exact failed error s' holds

/-- What every round of a loop preserves of the state, whether it fails or not, the loop does. -/
theorem obeys_foldlM {γ : Type*} {body : α → γ → Traced State Error Event α}
    (Inv : State → Prop) {xs : List γ} {initial : α}
    (round : ∀ x ∈ xs, ∀ accumulated s, Inv s →
      Obeys allowed (body accumulated x) s fun _ => Inv)
    (initially : Inv s) :
    Obeys allowed (xs.foldlM body initial) s fun _ => Inv := by
  induction xs generalizing initial s with
  | nil => simpa using initially
  | cons x rest ih =>
    rw [List.foldlM_cons]
    refine (round x List.mem_cons_self initial s initially).bind ?_ fun _ _ holds => holds
    intro accumulated s' holds
    exact ih (fun y member => round y (List.mem_cons_of_mem x member)) holds

/-- From states with an invariant a program keeps it, and its results meet a condition. -/
def Keeps (Inv : State → Prop) (m : Traced State Error Event α) (result : α → Prop) : Prop :=
  ∀ s, Inv s → Inv (m s).2.1 ∧ ∀ a, (m s).1 = .ok a → result a

namespace Keeps

variable {Inv : State → Prop} {result : α → Prop}

theorem pure {a : α} (meets : result a) :
    Keeps Inv (Pure.pure a : Traced State Error Event α) result :=
  fun _ holds => ⟨holds, fun _ same => Except.ok.inj same ▸ meets⟩

theorem fail {error : Error} :
    Keeps Inv (Traced.fail error : Traced State Error Event α) result :=
  fun _ holds => ⟨holds, nofun⟩

theorem liftExcept {outcome : Except Error α} :
    Keeps Inv (Traced.liftExcept outcome : Traced State Error Event α) (outcome = .ok ·) := by
  cases outcome with
  | ok a => exact pure rfl
  | error error => exact fail

theorem attempt (keeps : Keeps Inv m result) :
    Keeps Inv (Traced.attempt m) fun outcome => ∀ a, outcome = .ok a → result a :=
  fun s holds => ⟨(keeps s holds).1, fun _ same => Except.ok.inj same ▸ (keeps s holds).2⟩

theorem bind {result' : β → Prop} (first : Keeps Inv m result)
    (rest : ∀ a, result a → Keeps Inv (next a) result') : Keeps Inv (m >>= next) result' := by
  intro s holds
  have after := first s holds
  rcases ran : m s with ⟨outcome, s', trace⟩
  rw [ran] at after
  cases outcome with
  | ok a =>
    rw [bind_of_ok ran]
    exact rest a (after.2 a rfl) s' after.1
  | error error =>
    rw [bind_of_error ran]
    exact ⟨after.1, nofun⟩

end Keeps

end Traced

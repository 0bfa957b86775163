import PxHost.Lib.Interleaving

/-! Programs that may be stopped before any call and begun anew, and what they keep all along. -/

namespace Interrupted

open Interleaving

variable {Call State Choice Task : Type} {Answer : Call → Type} {α β : Type}

/-- What the world holds, and what is left of the program that runs. -/
structure Process (State : Type) {Call : Type} (Answer : Call → Type) where
  state : State
  program : Program Answer Unit

/-- The program makes its next call, or is stopped and another one begins. -/
inductive Event (Task Choice : Type) where
  | call (choice : Choice)
  | restart (task : Task)
deriving DecidableEq

section Rules

variable (answer : (call : Call) → Choice → State → Answer call × State)
  (allowed : State → Call → Choice → Bool) (Inv : State → Prop)

/-- Wherever the program is stopped the invariant holds, and where it ends the rest does too. -/
def Keeps : Program Answer α → State → (α → State → Prop) → Prop
  | .done result, s, post => Inv s ∧ post result s
  | .ask call next, s, post => Inv s ∧ ∀ choice, allowed s call choice →
      Keeps (next (answer call choice s).1) (answer call choice s).2 post

variable {answer allowed Inv} {s : State} {program : Program Answer α} {post : α → State → Prop}

theorem Keeps.here (keeps : Keeps answer allowed Inv program s post) : Inv s := by
  cases program with
  | done result => exact keeps.1
  | ask call next => exact keeps.1

@[simp] theorem keeps_bind {next : α → Program Answer β} {post : β → State → Prop} :
    Keeps answer allowed Inv (program >>= next) s post ↔
      Keeps answer allowed Inv program s fun result s' =>
        Keeps answer allowed Inv (next result) s' post := by
  change Keeps answer allowed Inv (program.bind next) s post ↔ _
  -- By induction on the first program; where it ends, the rest begins in the state it has left.
  induction program generalizing s with
  | done result => exact ⟨fun keeps => ⟨keeps.here, keeps⟩, fun keeps => keeps.2⟩
  | ask call rest ih =>
    exact and_congr_right fun _ => forall_congr' fun choice => imp_congr_right fun _ => ih _

theorem keeps_perform {call : Call} {post : Answer call → State → Prop} (before : Inv s)
    (after : ∀ choice, allowed s call choice →
      Inv (answer call choice s).2 ∧ post (answer call choice s).1 (answer call choice s).2) :
    Keeps answer allowed Inv (Program.perform call : Program Answer (Answer call)) s post :=
  ⟨before, after⟩

theorem Keeps.mono {post' : α → State → Prop} (keeps : Keeps answer allowed Inv program s post)
    (weaker : ∀ result s', Inv s' → post result s' → post' result s') :
    Keeps answer allowed Inv program s post' := by
  induction program generalizing s with
  | done result => exact ⟨keeps.1, weaker result s keeps.1 keeps.2⟩
  | ask call rest ih =>
    exact ⟨keeps.1, fun choice permitted => ih _ (keeps.2 choice permitted)⟩

/-- The rule for a sequence: the rest begins where the first part may have ended. -/
theorem Keeps.bind {next : α → Program Answer β} {mid : α → State → Prop} {post : β → State → Prop}
    (first : Keeps answer allowed Inv program s mid)
    (rest : ∀ result s', Inv s' → mid result s' → Keeps answer allowed Inv (next result) s' post) :
    Keeps answer allowed Inv (program >>= next) s post :=
  keeps_bind.mpr (first.mono rest)

theorem keeps_forM {xs : List β} {body : β → Program Answer PUnit}
    (round : ∀ x ∈ xs, ∀ s, Inv s → Keeps answer allowed Inv (body x) s fun _ _ => True)
    (before : Inv s) : Keeps answer allowed Inv (xs.forM body) s fun _ _ => True := by
  induction xs generalizing s with
  | nil => exact ⟨before, trivial⟩
  | cons x rest ih =>
    rw [List.forM_eq_forM, List.forM_cons]
    refine (round x List.mem_cons_self s before).bind fun _ s' holds _ => ?_
    exact ih (fun y member => round y (List.mem_cons_of_mem x member)) holds

end Rules

section Runs

variable (code : Task → Program Answer Unit)
  (answer : (call : Call) → Choice → State → Answer call × State)

def Process.step (process : Process State Answer) : Event Task Choice → Process State Answer
  | .call choice =>
    match process.program with
    | .done _ => process
    | .ask call next =>
      ⟨(answer call choice process.state).2, next (answer call choice process.state).1⟩
  | .restart task => ⟨process.state, code task⟩

def Process.allows (allowed : State → Call → Choice → Bool) (process : Process State Answer) :
    Event Task Choice → Bool
  | .call choice =>
    match process.program with
    | .done _ => true
    | .ask call _ => allowed process.state call choice
  | .restart _ => true

variable {code answer} {allowed : State → Call → Choice → Bool} {Inv : State → Prop}

/-- What every program keeps from wherever it begins holds in every state of a run. -/
theorem Process.invariant {process : Process State Answer} {events : List (Event Task Choice)}
    (codes : ∀ task s, Inv s → Keeps answer allowed Inv (code task) s fun _ _ => True)
    (initially : Keeps answer allowed Inv process.program process.state fun _ _ => True)
    (guarded : Machine.Guarded (Process.step code answer)
      (fun process event => process.allows allowed event = true) process events) :
    Inv (Machine.run (Process.step code answer) process events).state := by
  -- What is left of the program, kept from here on, is what every event preserves.
  have preserved : ∀ (process : Process State Answer) (event : Event Task Choice),
      Keeps answer allowed Inv process.program process.state (fun _ _ => True) →
      process.allows allowed event = true →
      Keeps answer allowed Inv (Process.step code answer process event).program
        (Process.step code answer process event).state fun _ _ => True := by
    intro process event keeps permitted
    cases event with
    | restart task => exact codes task process.state keeps.here
    | call choice =>
      simp only [Process.step, Process.allows] at permitted ⊢
      cases running : process.program with
      | done result => simpa [running] using keeps
      | ask call next =>
        simp only [running] at keeps permitted ⊢
        exact keeps.2 choice permitted
  exact (Machine.invariant_run
    (fun process => Keeps answer allowed Inv process.program process.state fun _ _ => True)
    preserved initially guarded).here

end Runs

end Interrupted

import Mathlib.Logic.Function.Basic
import PxHost.Lib.Run

/-! Programs on a shared state, interleaved call by call, and a discipline of modes for them. -/

namespace Interleaving

open Function

/-- What a thread still has to do; a call continues with the answer of the environment. -/
inductive Program {Call : Type} (Answer : Call → Type) (α : Type) where
  | done (result : α)
  | ask (call : Call) (next : Answer call → Program Answer α)

section Programs

variable {Call : Type} {Answer : Call → Type} {α β : Type}

namespace Program

def bind : Program Answer α → (α → Program Answer β) → Program Answer β
  | done result, next => next result
  | ask call rest, next => ask call fun answer => (rest answer).bind next

instance : Monad (Program Answer) where
  pure := done
  bind := bind

def isDone : Program Answer α → Bool
  | done _ => true
  | ask .. => false

def perform (call : Call) : Program Answer (Answer call) := ask call done

end Program

/--
The modes a thread can be in: which calls each permits, and where a call with its answer leads.
The mode of a thread is no part of the state; it says what the thread may rely on.
-/
structure Discipline (Task Mode : Type) (Answer : Call → Type) where
  permits : Mode → Call → Prop
  moves : Task → Mode → (call : Call) → Answer call → Mode → Prop

variable {Task Mode : Type} (discipline : Discipline Task Mode Answer)

/-- From a mode on, a program makes only permitted calls, and ends in a mode as wanted. -/
def Follows (task : Task) : Mode → Program Answer α → (α → Mode → Prop) → Prop
  | mode, .done result, post => post result mode
  | mode, .ask call next, post =>
    discipline.permits mode call ∧
      ∀ answer after, discipline.moves task mode call answer after →
        Follows task after (next answer) post

variable {discipline} {task : Task} {mode : Mode}

@[simp] theorem follows_pure {result : α} {post : α → Mode → Prop} :
    Follows discipline task mode (pure result : Program Answer α) post ↔ post result mode :=
  Iff.rfl

variable {call : Call}

@[simp] theorem follows_ask {next : Answer call → Program Answer α} {post : α → Mode → Prop} :
    Follows discipline task mode (.ask call next) post ↔
      discipline.permits mode call ∧
        ∀ answer after, discipline.moves task mode call answer after →
          Follows discipline task after (next answer) post := Iff.rfl

@[simp] theorem follows_perform {post : Answer call → Mode → Prop} :
    Follows discipline task mode (Program.perform call) post ↔
      discipline.permits mode call ∧
        ∀ answer after, discipline.moves task mode call answer after → post answer after := Iff.rfl

@[simp] theorem follows_ite {condition : Prop} [Decidable condition] {yes no : Program Answer α}
    {post : α → Mode → Prop} :
    Follows discipline task mode (if condition then yes else no) post ↔
      (condition → Follows discipline task mode yes post) ∧
        (¬condition → Follows discipline task mode no post) := by
  split <;> simp_all

theorem follows_perform_eq {post : Answer call → Mode → Prop} {next : Answer call → Mode}
    (decided : ∀ answer after, discipline.moves task mode call answer after ↔ after = next answer) :
    Follows discipline task mode (Program.perform call) post ↔
      discipline.permits mode call ∧ ∀ answer, post answer (next answer) := by
  refine Iff.trans follows_perform (and_congr_right fun _ => ?_)
  simp only [decided, forall_eq]

variable {post : β → Mode → Prop}

@[simp] theorem follows_bind {program : Program Answer α} {next : α → Program Answer β} :
    Follows discipline task mode (program >>= next) post ↔
      Follows discipline task mode program fun result after =>
        Follows discipline task after (next result) post := by
  change Follows discipline task mode (program.bind next) post ↔ _
  induction program generalizing mode with
  | done result => rfl
  | ask call rest ih =>
    simp only [Program.bind, follows_ask]
    exact and_congr_right fun _ => forall_congr' fun answer => forall_congr' fun after =>
      imp_congr_right fun _ => ih answer

theorem Follows.mono {program : Program Answer α} {post post' : α → Mode → Prop}
    (follows : Follows discipline task mode program post)
    (weaker : ∀ result after, post result after → post' result after) :
    Follows discipline task mode program post' := by
  induction program generalizing mode with
  | done result => exact weaker result mode follows
  | ask call rest ih =>
    exact ⟨follows.1, fun answer after move => ih answer (follows.2 answer after move)⟩

/-- After a part that leaves the mode as it was, the rest goes on from the same mode. -/
theorem follows_after {program : Program Answer α} {next : α → Program Answer β}
    (first : Follows discipline task mode program fun _ after => after = mode)
    (rest : ∀ result, Follows discipline task mode (next result) post) :
    Follows discipline task mode (program >>= next) post :=
  follows_bind.mpr (first.mono fun result _ same => same ▸ rest result)

section Failing

variable {ε : Type} {program : ExceptT ε (Program Answer) α} {post : Except ε β → Mode → Prop}

theorem forall_except {ε α : Type} {holds : Except ε α → Prop} :
    (∀ outcome, holds outcome) ↔
      (∀ value, holds (.ok value)) ∧ ∀ error, holds (.error error) := by
  refine ⟨fun all => ⟨fun _ => all _, fun _ => all _⟩, fun ⟨ok, error⟩ outcome => ?_⟩
  cases outcome with
  | ok value => exact ok value
  | error reason => exact error reason

@[simp] theorem follows_run_ite {condition : Prop} [Decidable condition]
    {yes no : ExceptT ε (Program Answer) β} :
    Follows discipline task mode (if condition then yes else no).run post ↔
      (condition → Follows discipline task mode yes.run post) ∧
        (¬condition → Follows discipline task mode no.run post) := by
  split <;> simp_all

@[simp] theorem follows_run_bind {next : α → ExceptT ε (Program Answer) β} :
    Follows discipline task mode (program >>= next).run post ↔
      Follows discipline task mode program.run fun result after =>
        match result with
        | .ok value => Follows discipline task after (next value).run post
        | .error error => post (.error error) after := by
  refine Iff.trans follows_bind ⟨fun follows => ?_, fun follows => ?_⟩ <;>
    refine follows.mono fun result after holds => ?_ <;> cases result <;> exact holds

@[simp] theorem follows_run_tryCatch {handler : ε → ExceptT ε (Program Answer) α}
    {post : Except ε α → Mode → Prop} :
    Follows discipline task mode (tryCatch program handler).run post ↔
      Follows discipline task mode program.run fun result after =>
        match result with
        | .ok value => post (.ok value) after
        | .error error => Follows discipline task after (handler error).run post := by
  refine Iff.trans follows_bind ⟨fun follows => ?_, fun follows => ?_⟩ <;>
    refine follows.mono fun result after holds => ?_ <;> cases result <;> exact holds

theorem follows_run_after {next : α → ExceptT ε (Program Answer) β}
    (first : Follows discipline task mode program.run fun _ after => after = mode)
    (failed : ∀ error, post (.error error) mode)
    (rest : ∀ value, Follows discipline task mode (next value).run post) :
    Follows discipline task mode (program >>= next).run post := by
  refine follows_run_bind.mpr (first.mono fun result after same => ?_)
  subst same
  cases result with
  | ok value => exact rest value
  | error error => exact failed error

theorem follows_run_catch {handler : ε → ExceptT ε (Program Answer) α}
    {post : Except ε α → Mode → Prop}
    (first : Follows discipline task mode program.run fun _ after => after = mode)
    (succeeded : ∀ value, post (.ok value) mode)
    (handled : ∀ error, Follows discipline task mode (handler error).run post) :
    Follows discipline task mode (tryCatch program handler).run post := by
  refine follows_run_tryCatch.mpr (first.mono fun result after same => ?_)
  subst same
  cases result with
  | ok value => exact succeeded value
  | error error => exact handled error

end Failing

theorem follows_forM {xs : List β} {body : β → Program Answer PUnit}
    (round : ∀ x ∈ xs, Follows discipline task mode (body x) fun _ after => after = mode) :
    Follows discipline task mode (xs.forM body) fun _ after => after = mode := by
  induction xs with
  | nil => simp
  | cons x rest ih =>
    rw [List.forM_eq_forM, List.forM_cons, follows_bind]
    refine (round x List.mem_cons_self).mono ?_
    rintro _ _ rfl
    exact ih fun y member => round y (List.mem_cons_of_mem x member)

/-- A discipline in which the answer to a call decides the next mode. -/
def Discipline.decided (permits : Mode → Call → Prop)
    (next : Mode → (call : Call) → Answer call → Mode) : Discipline Task Mode Answer where
  permits
  moves := fun _ mode call answer after => after = next mode call answer

section Decided

variable {permits : Mode → Call → Prop} {next : Mode → (call : Call) → Answer call → Mode}

@[simp] theorem decided_permits :
    (Discipline.decided permits next : Discipline Task Mode Answer).permits = permits := rfl

@[simp] theorem decided_moves {answer : Answer call} {after : Mode} :
    (Discipline.decided permits next).moves task mode call answer after ↔
      after = next mode call answer := Iff.rfl

end Decided

end Programs

section Faults

variable {ε State α : Type}

/-- A call may be lost before it does anything, or after, when it is done all the same. -/
inductive Fault (ε : Type) where
  | unsent (error : ε)
  | unheard (error : ε)

/-- What comes of a call that starts in a state and would end with an outcome. -/
def Fault.befall (s : State) (outcome : Except ε α × State) :
    Option (Fault ε) → Except ε α × State
  | none => outcome
  | some (.unsent error) => (.error error, s)
  | some (.unheard error) => (.error error, outcome.2)

/-- A call is lost before it has done anything, or it has its outcome, heard of or not. -/
theorem Fault.befall_cases {s s' : State} {outcome : Except ε α × State} {fault : Option (Fault ε)}
    {answer : Except ε α} (befalls : befall s outcome fault = (answer, s')) :
    (s' = s ∧ ∃ error, answer = .error error) ∨
      s' = outcome.2 ∧ (answer = outcome.1 ∨ ∃ error, answer = .error error) := by
  rcases fault with _ | error | error
  · exact .inr ⟨(congrArg Prod.snd befalls).symm, .inl (congrArg Prod.fst befalls).symm⟩
  · exact .inl ⟨(congrArg Prod.snd befalls).symm, error, (congrArg Prod.fst befalls).symm⟩
  · exact .inr ⟨(congrArg Prod.snd befalls).symm, .inr ⟨error, (congrArg Prod.fst befalls).symm⟩⟩

/-- A call that waits for a condition has it met when it is answered, and may still be lost. -/
theorem Fault.answer_cases {condition : Prop} [Decidable condition] {s s' : State}
    {outcome : Except ε α × State} {fault : Option (Fault ε)} {answer : Except ε α}
    (answers : (if condition then some (befall s outcome fault) else none) = some (answer, s')) :
    condition ∧ ((s' = s ∧ ∃ error, answer = .error error) ∨
      s' = outcome.2 ∧ (answer = outcome.1 ∨ ∃ error, answer = .error error)) := by
  split at answers
  · next holds => exact ⟨holds, befall_cases (Option.some.inj answers)⟩
  · cases answers

theorem Fault.befall_ok {s s' : State} {outcome : Except ε α × State} {fault : Option (Fault ε)}
    {value : α} (heard : befall s outcome fault = (.ok value, s')) : outcome = (.ok value, s') := by
  rcases fault with _ | _ | _
  · exact heard
  · cases heard
  · cases heard

end Faults

section Pools

variable {Call State Choice Task Mode : Type} {Answer : Call → Type}

/-- A shared state and the threads that work on it, each with the task it was started for. -/
structure Pool (State Task : Type) {Call : Type} (Answer : Call → Type) where
  shared : State
  threads : List (Task × Program Answer Unit)

/-- A new thread starts, or a thread makes its next call and the environment chooses the answer. -/
inductive Move (Task Choice : Type) where
  | start (task : Task)
  | turn (thread : Nat) (choice : Choice)
deriving DecidableEq

variable (code : Task → Program Answer Unit)
  (answer? : Nat → (call : Call) → Choice → State → Option (Answer call × State))

/-- A call that has no answer blocks its thread. -/
def Pool.step (pool : Pool State Task Answer) : Move Task Choice → Pool State Task Answer
  | .start task => { pool with threads := pool.threads ++ [(task, code task)] }
  | .turn thread choice =>
    match pool.threads[thread]? with
    | some (task, .ask call next) =>
      match answer? thread call choice pool.shared with
      | some (answer, shared) => ⟨shared, pool.threads.set thread (task, next answer)⟩
      | none => pool
    | _ => pool

/-- A condition on the calls of a run: the state, the task, the call and the choice made for it. -/
def Pool.allows (guard : State → Task → Call → Choice → Bool) (pool : Pool State Task Answer) :
    Move Task Choice → Bool
  | .start _ => true
  | .turn thread choice =>
    match pool.threads[thread]? with
    | some (task, .ask call _) => guard pool.shared task call choice
    | _ => true

variable {guard : State → Task → Call → Choice → Bool} {pool : Pool State Task Answer}
  {move : Move Task Choice}

theorem Pool.allows_and {guard' : State → Task → Call → Choice → Bool}
    (allowed : pool.allows guard move) (allowed' : pool.allows guard' move) :
    pool.allows (fun s task call choice => guard s task call choice && guard' s task call choice)
      move := by
  cases move with
  | start task => rfl
  | turn thread choice =>
    simp only [Pool.allows] at *
    split
    · next found =>
      simp only [found] at allowed allowed'
      rw [allowed, allowed', Bool.and_self]
    · rfl

variable (discipline : Discipline Task Mode Answer) (idle : Mode)
  (Linked : State → (Nat → Mode) → Prop)

/-- The threads can be given modes that fit the state and that their programs follow. -/
def Pool.Moded (pool : Pool State Task Answer) : Prop :=
  ∃ modes : Nat → Mode, Linked pool.shared modes ∧
    (∀ thread task program, pool.threads[thread]? = some (task, program) →
      Follows discipline task (modes thread) program fun _ after => after = idle) ∧
    ∀ thread, pool.threads.length ≤ thread → modes thread = idle

variable (guard) in
/-- Every answered call that meets the condition leads to a mode that fits the new state. -/
def Sustained : Prop :=
  ∀ s modes thread task call choice answer s', Linked s modes → guard s task call choice →
    discipline.permits (modes thread) call → answer? thread call choice s = some (answer, s') →
    ∃ after, discipline.moves task (modes thread) call answer after ∧
      Linked s' (update modes thread after)

variable {code answer? discipline idle Linked}

theorem Pool.Moded.of_idle {shared : State} (linked : Linked shared fun _ => idle) :
    (⟨shared, []⟩ : Pool State Task Answer).Moded discipline idle Linked :=
  ⟨fun _ => idle, linked, by simp, fun _ _ => rfl⟩

/-- A move keeps the modes when every answered call leads to a mode that fits the new state. -/
theorem Pool.Moded.step
    (codes : ∀ task, Follows discipline task idle (code task) fun _ after => after = idle)
    (answered : Sustained answer? guard discipline Linked) (moded : pool.Moded discipline idle Linked)
    (allowed : pool.allows guard move) :
    (pool.step code answer? move).Moded discipline idle Linked := by
  obtain ⟨modes, linked, follow, resting⟩ := moded
  cases move with
  | start task =>
    -- The new thread gets the first index that no thread had, whose mode is still the idle one.
    refine ⟨modes, linked, ?_, fun thread beyond => resting thread ?_⟩
    · intro thread task' program found
      simp only [Pool.step, List.getElem?_append] at found
      split at found
      · exact follow thread task' program found
      · rename_i beyond
        have last := List.getElem?_eq_some_iff.mp found
        simp only [List.length_singleton, Nat.lt_one_iff] at last
        obtain ⟨_, same⟩ := last
        simp only [List.getElem_singleton, Prod.mk.injEq] at same
        obtain ⟨rfl, rfl⟩ := same
        rw [resting thread (Nat.le_of_not_lt beyond)]
        exact codes task
    · simp only [Pool.step, List.length_append, List.length_singleton] at beyond
      omega
  | turn thread choice =>
    simp only [Pool.step]
    split
    case h_2 => exact ⟨modes, linked, follow, resting⟩
    case h_1 task call next found =>
      split
      case h_2 => exact ⟨modes, linked, follow, resting⟩
      case h_1 answer shared answers =>
        have permitted : guard pool.shared task call choice := by
          simpa [Pool.allows, found] using allowed
        have own := follow thread task _ found
        obtain ⟨after, move, linked'⟩ :=
          answered _ modes thread task call choice answer shared linked permitted own.1 answers
        have inside := (List.getElem?_eq_some_iff.mp found).1
        refine ⟨update modes thread after, linked', ?_, ?_⟩
        · intro other task' program found'
          rw [List.getElem?_set] at found'
          split at found'
          · next same =>
            subst same
            simp only [Option.some.injEq, Prod.mk.injEq] at found'
            obtain ⟨rfl, rfl⟩ := found'
            simpa using own.2 answer after move
          · next differs =>
            rw [update_of_ne (Ne.symm differs)]
            exact follow other task' program found'
        · intro other beyond
          rw [List.length_set] at beyond
          rw [update_of_ne (by omega)]
          exact resting other beyond

theorem Pool.Moded.allows
    (sound : ∀ s modes thread task call choice, Linked s modes →
      discipline.permits (modes thread) call → guard s task call choice)
    (moded : pool.Moded discipline idle Linked) (move : Move Task Choice) :
    pool.allows guard move := by
  obtain ⟨modes, linked, follow, -⟩ := moded
  cases move with
  | start task => rfl
  | turn thread choice =>
    simp only [Pool.allows]
    split
    · next task call next found =>
      exact sound _ modes thread task call choice linked (follow thread task _ found).1
    · rfl

variable {moves : List (Move Task Choice)}

/-- Along a run whose calls all meet the condition, the threads keep having modes that fit. -/
theorem Pool.Moded.run
    (codes : ∀ task, Follows discipline task idle (code task) fun _ after => after = idle)
    (answered : Sustained answer? guard discipline Linked) (moded : pool.Moded discipline idle Linked)
    (guarded : Machine.Guarded (Pool.step code answer?)
      (fun pool move => pool.allows guard move = true) pool moves) :
    (Machine.run (Pool.step code answer?) pool moves).Moded discipline idle Linked :=
  Machine.invariant_run (Pool.Moded discipline idle Linked)
    (fun _ _ holds allowed => holds.step codes answered allowed) moded guarded

theorem Pool.step_shared (allowed : pool.allows guard move) :
    (pool.step code answer? move).shared = pool.shared ∨
      ∃ thread task call choice answer, guard pool.shared task call choice ∧
        answer? thread call choice pool.shared =
          some (answer, (pool.step code answer? move).shared) := by
  cases move with
  | start task => exact .inl rfl
  | turn thread choice =>
    simp only [Pool.step]
    split
    · next task call next found =>
      split
      · next answer shared answers =>
        refine .inr ⟨thread, task, call, choice, answer, ?_, answers⟩
        simpa [Pool.allows, found] using allowed
      · exact .inl rfl
    · exact .inl rfl

/-- What every allowed call preserves holds of the shared state along every run. -/
theorem Pool.shared_run (Inv : State → Prop)
    (preserved : ∀ s thread task call choice answer s', Inv s → guard s task call choice →
      answer? thread call choice s = some (answer, s') → Inv s') (initially : Inv pool.shared)
    (guarded : Machine.Guarded (Pool.step code answer?)
      (fun pool move => pool.allows guard move = true) pool moves) :
    Inv (Machine.run (Pool.step code answer?) pool moves).shared := by
  refine Machine.invariant_run (fun pool => Inv pool.shared) ?_ initially guarded
  intro pool move holds allowed
  rcases Pool.step_shared allowed with same | ⟨thread, task, call, choice, answer, ok, answers⟩
  · rwa [same]
  · exact preserved _ thread task call choice answer _ holds ok answers

theorem Pool.step_refused (refused : ¬ pool.allows guard move) :
    ∃ thread task call choice, ¬ guard pool.shared task call choice ∧
      ∀ answer shared, answer? thread call choice pool.shared = some (answer, shared) →
        (pool.step code answer? move).shared = shared := by
  cases move with
  | start task => exact (refused rfl).elim
  | turn thread choice =>
    simp only [Pool.allows] at refused
    split at refused
    · next task call next found =>
      refine ⟨thread, task, call, choice, refused, fun answer shared answers => ?_⟩
      simp [Pool.step, found, answers]
    · exact (refused rfl).elim

theorem Pool.allows_true (pool : Pool State Task Answer) (move : Move Task Choice) :
    pool.allows (fun _ _ _ _ => true) move := by
  cases move with
  | start task => rfl
  | turn thread choice =>
    simp only [Pool.allows]
    split <;> rfl

/-- A condition on the calls whose every violation breaks something for good is exact. -/
theorem Pool.guarded_iff_run (Inv Broken : State → Prop)
    (preserved : ∀ s thread task call choice answer s', Inv s → guard s task call choice →
      answer? thread call choice s = some (answer, s') → Inv s')
    (breaks : ∀ s thread task call choice, Inv s → ¬ guard s task call choice →
      ∃ answer s', answer? thread call choice s = some (answer, s') ∧ Broken s')
    (remains : ∀ s thread call choice answer s', Broken s →
      answer? thread call choice s = some (answer, s') → Broken s')
    (sound : ∀ s, Inv s → ¬ Broken s) (initially : Inv pool.shared)
    (moves : List (Move Task Choice)) :
    Machine.Guarded (Pool.step code answer?) (fun pool move => pool.allows guard move = true)
        pool moves ↔
      ¬ Broken (Machine.run (Pool.step code answer?) pool moves).shared := by
  refine Machine.guarded_iff_run (fun pool : Pool State Task Answer => Inv pool.shared)
    (fun pool => Broken pool.shared) ?_ ?_ ?_ (fun pool => sound pool.shared) initially moves
  · intro pool move holds allowed
    rcases Pool.step_shared allowed with same | ⟨thread, task, call, choice, answer, ok, answers⟩
    · rwa [same]
    · exact preserved _ thread task call choice answer _ holds ok answers
  · intro pool move holds refused
    obtain ⟨thread, task, call, choice, wrong, reached⟩ := Pool.step_refused refused
    obtain ⟨answer, shared, answers, broken⟩ := breaks _ thread task call choice holds wrong
    rwa [reached answer shared answers]
  · intro pool move broken
    -- Every move is allowed here, and even so only an answer changes the state.
    rcases Pool.step_shared (pool.allows_true move) with same |
      ⟨thread, task, call, choice, answer, -, answers⟩
    · rwa [same]
    · exact remains _ thread call choice answer _ broken answers

section Alone

variable (answer?) (guard : State → Task → Call → Choice → Bool)

/-- Whatever allowed answers a program is given on its own, it ends as wanted. -/
def Ensures (thread : Nat) (task : Task) {α : Type} :
    State → Program Answer α → (α → State → Prop) → Prop
  | s, .done result, post => post result s
  | s, .ask call next, post =>
    ∀ choice answer s', guard s task call choice → answer? thread call choice s = some (answer, s') →
      Ensures thread task s' (next answer) post

variable {answer? guard} {thread : Nat} {task : Task} {α β : Type}

@[simp] theorem ensures_perform {s : State} {call : Call} {post : Answer call → State → Prop} :
    Ensures answer? guard thread task s (Program.perform call) post ↔
      ∀ choice answer s', guard s task call choice →
        answer? thread call choice s = some (answer, s') → post answer s' := Iff.rfl

theorem ensures_bind {s : State} {program : Program Answer α} {next : α → Program Answer β}
    {post : β → State → Prop} :
    Ensures answer? guard thread task s (program >>= next) post ↔
      Ensures answer? guard thread task s program fun result s' =>
        Ensures answer? guard thread task s' (next result) post := by
  change Ensures answer? guard thread task s (program.bind next) post ↔ _
  induction program generalizing s with
  | done result => rfl
  | ask call rest ih =>
    exact forall_congr' fun choice => forall_congr' fun answer => forall_congr' fun s' =>
      imp_congr_right fun _ => imp_congr_right fun _ => ih answer

theorem Ensures.mono {s : State} {program : Program Answer α} {post post' : α → State → Prop}
    (ensures : Ensures answer? guard thread task s program post)
    (weaker : ∀ result s', post result s' → post' result s') :
    Ensures answer? guard thread task s program post' := by
  induction program generalizing s with
  | done result => exact weaker result s ensures
  | ask call rest ih =>
    exact fun choice answer s' allowed answers => ih answer (ensures choice answer s' allowed answers)

theorem ensures_run_bind {ε : Type} {s : State} {program : ExceptT ε (Program Answer) α}
    {next : α → ExceptT ε (Program Answer) β} {post : Except ε β → State → Prop} :
    Ensures answer? guard thread task s (program >>= next).run post ↔
      Ensures answer? guard thread task s program.run fun result s' =>
        match result with
        | .ok value => Ensures answer? guard thread task s' (next value).run post
        | .error error => post (.error error) s' := by
  refine Iff.trans ensures_bind ⟨fun ensures => ?_, fun ensures => ?_⟩ <;>
    refine ensures.mono fun result s' holds => ?_ <;> cases result <;> exact holds

theorem ensures_run_tryCatch {ε : Type} {s : State} {program : ExceptT ε (Program Answer) α}
    {handler : ε → ExceptT ε (Program Answer) α} {post : Except ε α → State → Prop} :
    Ensures answer? guard thread task s (tryCatch program handler).run post ↔
      Ensures answer? guard thread task s program.run fun result s' =>
        match result with
        | .ok value => post (.ok value) s'
        | .error error => Ensures answer? guard thread task s' (handler error).run post := by
  refine Iff.trans ensures_bind ⟨fun ensures => ?_, fun ensures => ?_⟩ <;>
    refine ensures.mono fun result s' holds => ?_ <;> cases result <;> exact holds

/-- A thread of a pool that alone makes its moves ends as its program ensures. -/
theorem Ensures.alone {program : Program Answer Unit} {post : Unit → State → Prop}
    (found : pool.threads[thread]? = some (task, program))
    (ensures : Ensures answer? guard thread task pool.shared program post) {choices : List Choice}
    (guarded : Machine.Guarded (Pool.step code answer?)
      (fun pool move => pool.allows guard move = true) pool (choices.map (Move.turn thread)))
    (ended : (Machine.run (Pool.step code answer?) pool
      (choices.map (Move.turn thread))).threads[thread]?.map (·.2.isDone) = some true) :
    post () (Machine.run (Pool.step code answer?) pool (choices.map (Move.turn thread))).shared := by
  induction choices generalizing pool program with
  | nil =>
    cases program with
    | done result => exact ensures
    | ask call next => simp [Machine.run, found, Program.isDone] at ended
  | cons choice rest ih =>
    simp only [List.map_cons, Machine.run_cons] at ended ⊢
    obtain ⟨allowed, guarded⟩ := guarded
    cases program with
    | done result =>
      -- A thread that has ended makes no more calls, so its turn changes nothing.
      have still : pool.step code answer? (.turn thread choice) = pool := by
        simp [Pool.step, found]
      rw [still] at guarded ended ⊢
      exact ih found ensures guarded ended
    | ask call next =>
      cases answers : answer? thread call choice pool.shared with
      | none =>
        have still : pool.step code answer? (.turn thread choice) = pool := by
          simp [Pool.step, found, answers]
        rw [still] at guarded ended ⊢
        exact ih found ensures guarded ended
      | some result =>
        obtain ⟨answer, shared⟩ := result
        have moved : pool.step code answer? (.turn thread choice) =
            ⟨shared, pool.threads.set thread (task, next answer)⟩ := by
          simp [Pool.step, found, answers]
        have inside := (List.getElem?_eq_some_iff.mp found).1
        rw [moved] at guarded ended ⊢
        refine ih ?_ (ensures choice answer shared ?_ answers) guarded ended
        · simp [inside]
        · simpa [Pool.allows, found] using allowed

end Alone

end Pools

section Restarts

variable {Call State Choice Reset Task Mode : Type} {Answer : Call → Type}

/-- Threads move, or all of them are lost at once and the state is set up anew. -/
inductive Event (Task Choice Reset : Type) where
  | move (move : Move Task Choice)
  | restart (reset : Reset)
deriving DecidableEq

variable (code : Task → Program Answer Unit)
  (answer? : Nat → (call : Call) → Choice → State → Option (Answer call × State))
  (reset : Reset → State → State)

def Pool.advance (pool : Pool State Task Answer) : Event Task Choice Reset → Pool State Task Answer
  | .move move => pool.step code answer? move
  | .restart choice => ⟨reset choice pool.shared, []⟩

/-- A condition on the calls of a run and one on its restarts. -/
def Pool.permits (guard : State → Task → Call → Choice → Bool) (restarts : State → Reset → Bool)
    (pool : Pool State Task Answer) : Event Task Choice Reset → Bool
  | .move move => pool.allows guard move
  | .restart choice => restarts pool.shared choice

variable {code answer? reset} {discipline : Discipline Task Mode Answer} {idle : Mode}
  {Linked : State → (Nat → Mode) → Prop} {pool : Pool State Task Answer}
  {events : List (Event Task Choice Reset)}

theorem Pool.permits_and {guard guard' : State → Task → Call → Choice → Bool}
    {restarts restarts' : State → Reset → Bool}
    (guarded : Machine.Guarded (Pool.advance code answer? reset)
      (fun pool event => pool.permits guard restarts event = true) pool events)
    (guarded' : Machine.Guarded (Pool.advance code answer? reset)
      (fun pool event => pool.permits guard' restarts' event = true) pool events) :
    Machine.Guarded (Pool.advance code answer? reset)
      (fun pool event => pool.permits
        (fun s task call choice => guard s task call choice && guard' s task call choice)
        (fun s choice => restarts s choice && restarts' s choice) event = true) pool events := by
  refine (guarded.and guarded').mono ?_
  rintro pool event ⟨allowed, allowed'⟩
  cases event with
  | move move => exact Pool.allows_and allowed allowed'
  | restart choice => exact Bool.and_eq_true_iff.mpr ⟨allowed, allowed'⟩

theorem Pool.Moded.run_restarts {guard : State → Task → Call → Choice → Bool}
    {restarts : State → Reset → Bool}
    (codes : ∀ task, Follows discipline task idle (code task) fun _ after => after = idle)
    (answered : Sustained answer? guard discipline Linked)
    (renewed : ∀ s modes choice, Linked s modes → restarts s choice →
      Linked (reset choice s) fun _ => idle) (moded : pool.Moded discipline idle Linked)
    (guarded : Machine.Guarded (Pool.advance code answer? reset)
      (fun pool event => pool.permits guard restarts event = true) pool events) :
    (Machine.run (Pool.advance code answer? reset) pool events).Moded discipline idle Linked := by
  refine Machine.invariant_run (Pool.Moded discipline idle Linked) ?_ moded guarded
  intro pool event holds allowed
  cases event with
  | move move => exact holds.step codes answered allowed
  | restart choice =>
    obtain ⟨modes, linked, -⟩ := holds
    exact .of_idle (renewed _ modes choice linked allowed)

end Restarts

end Interleaving

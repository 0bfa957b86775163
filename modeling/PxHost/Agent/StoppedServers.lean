import PxHost.Agent.LifecycleInvariant

/-! When a stopped state means that the container is not running, and who relies on it. -/

namespace PxHost.Lifecycle

open Interleaving Machine Function

section Conditions

/--
A stop leaves nothing running whatever it reports, a start that is reported as failed has not
happened, and a watcher writes a stopped state only for a container that is not running.
-/
def reportsTruly (s : State) (_ : Task) (call : Call) (choice : Choice) : Bool :=
  match call with
  | .stopContainer id => !s.isRunning || (s.has id && choice.acts)
  | .startContainer _ => choice != .lost
  | .setState (.watcher _) state => !state.isStopped || !s.isRunning
  | _ => true

/-- The container is started only while no request works on the files without the mutex. -/
def startsUndisturbed (s : State) (_ : Task) (call : Call) (_ : Choice) : Bool :=
  match call with
  | .startContainer _ => s.requests.isEmpty
  | _ => true

/-- The calls that are gated on a stopped state, in the methods and requests that make them. -/
def Call.needsStopped : Call → Bool
  | replaceFiles | removeContainer _ | startInstaller _ | archive => true
  | _ => false

/-- Nothing that is gated on a stopped state happens to a running server. -/
def sparesRunning (s : State) (_ : Task) (call : Call) (_ : Choice) : Bool :=
  !(call.needsStopped && s.isRunning)

end Conditions

section Containers

variable {s s' : State} {thread : Nat} {call : Call} {choice : Choice} {answer : call.Answer}

@[simp] theorem isRunning_setRunning (running : Bool) (exitCode : Int) :
    (s.setRunning running exitCode).isRunning = (s.container.isSome && running) := by
  cases container : s.container <;> simp [State.isRunning, State.setRunning, container]

theorem answer_notRunning (answers : answer? thread call choice s = some (answer, s'))
    (known : ∀ id, call ≠ .startContainer id) (down : s.isRunning = false) :
    s'.isRunning = false := by
  -- What Docker does to a container besides leaves it down: it is new, gone, stopped or unchanged.
  have frame := answer_frame answers
  cases call with
  | startContainer id => exact absurd rfl (known id)
  | createContainer | removeContainer | removeByName =>
    cases answers
    split
    · rfl
    · exact down
  | stopContainer | killContainer =>
    cases answers
    split
    · simp
    · exact down
  | exit =>
    cases answers
    simp
  | _ => rwa [State.isRunning, frame.container (by simp [Call.part])]

end Containers

section Mutex

/-- A free mutex leaves a stopped state only to a container that is down, and so does its holder. -/
structure Still (s : State) (modes : Nat → Mode) : Prop where
  free : s.holder = none → s.handle.state.isStopped → s.isRunning = false
  seen : ∀ thread view, (modes thread).view = some view → view.still → s.isRunning = false

variable {s s' : State} {thread : Nat} {task : Task} {call : Call} {choice : Choice}
  {answer : call.Answer} {modes : Nat → Mode} {mode : Mode} {view' : View}

/-- The calls from which a goroutine can learn that the container is down. -/
def Call.tells : Call → Bool
  | lock | unlock | setState .. | createContainer | startContainer _ | stopContainer _
  | killContainer .. => true
  | _ => false

theorem next_still (silent : call.tells = false)
    (after : (mode.next call answer).view = some view') :
    ∃ view, mode.view = some view ∧ view'.still = view.still := by
  have kept (f : View → View) (found : mode.view.map f = some view')
      (same : ∀ v, (f v).still = v.still) :
      ∃ view, mode.view = some view ∧ view'.still = view.still := by
    obtain ⟨view, seen, rfl⟩ := Option.map_eq_some_iff.mp found
    exact ⟨view, seen, same view⟩
  cases call with
  | lock | unlock | setState | createContainer | startContainer | stopContainer
  | killContainer => cases silent
  | setContainerId | setSuspended => exact kept _ after fun _ => rfl
  | attach =>
    cases answer with
    | none => exact ⟨view', after, rfl⟩
    | some run => exact kept _ after fun _ => rfl
  | createInstaller => cases answer <;> exact ⟨view', after, rfl⟩
  | _ => exact ⟨view', after, rfl⟩

/-- What the goroutine of a call knows about the container afterwards is true. -/
theorem Still.own (still : Still s modes) (truly : reportsTruly s task call choice)
    (answers : answer? thread call choice s = some (answer, s'))
    (after : ((modes thread).next call answer).view = some view') (stopped : view'.still) :
    s'.isRunning = false := by
  -- What was known before stays true unless the container is started.
  have before (view : View) (seen : (modes thread).view = some view)
      (known : ∀ id, call ≠ .startContainer id) (knew : view.still) : s'.isRunning = false :=
    answer_notRunning answers known (still.seen thread view seen knew)
  cases call with
  -- Under a free mutex a stopped state was true, so it is for the one who takes it.
  | lock =>
    simp only [answer?] at answers
    split at answers
    · cases answers
    · rename_i free
      cases answers
      obtain rfl := Option.some.inj after
      exact still.free (by simpa using free) stopped
  | unlock => cases after
  | setState actor state =>
    cases answers
    obtain ⟨view, seen, rfl⟩ := Option.map_eq_some_iff.mp after
    simp only [View.write, Bool.or_eq_true, Bool.and_eq_true, bne_iff_ne] at stopped
    -- A watcher's word is good by the condition; an operation has to have known it before.
    rcases stopped with knew | ⟨watcher, down⟩
    · exact still.seen thread view seen knew
    · cases actor with
      | operation => contradiction
      | watcher run =>
        have true : s.isRunning = false := by simpa [reportsTruly, down] using truly
        exact true
  | createContainer =>
    cases found : answer with
    | none =>
      subst found
      exact before view' after (by simp) stopped
    | some id =>
      subst found
      have created : s.container.isNone && choice.ok := by
        by_contra refused
        simp [answer?, refused] at answers
      have acts : s.container.isNone && choice.acts := by
        cases choice <;> simp_all [Choice.ok, Choice.acts]
      obtain rfl : _ = s' := congrArg Prod.snd (Option.some.inj answers)
      simp [acts, State.isRunning]
  -- After a start nothing is known, and a start that failed has not happened.
  | startContainer id =>
    cases found : answer with
    | true =>
      subst found
      obtain ⟨view, seen, rfl⟩ := Option.map_eq_some_iff.mp after
      cases stopped
    | false =>
      subst found
      have knew := still.seen thread view' after stopped
      have undone : (s.has id && choice.acts) = false := by
        have failed : (s.has id && choice.ok) = false := congrArg Prod.fst (Option.some.inj answers)
        cases choice <;> simp_all [Choice.ok, Choice.acts, reportsTruly]
      obtain rfl : _ = s' := congrArg Prod.snd (Option.some.inj answers)
      simpa [undone] using knew
  -- The stop counts whatever it reports.
  | stopContainer id =>
    cases answers
    by_cases acts : s.has id && choice.acts
    · simp [acts]
    · have down : s.isRunning = false := by simpa [reportsTruly, acts] using truly
      simpa [acts] using down
  -- A kill is believed only when it reports success.
  | killContainer actor id =>
    cases found : answer with
    | false =>
      subst found
      exact before view' after (by simp) stopped
    | true =>
      subst found
      have killed : (s.has id && s.isRunning && choice.ok) = true :=
        congrArg Prod.fst (Option.some.inj answers)
      have acts : s.has id && s.isRunning && choice.acts := by
        cases choice <;> simp_all [Choice.ok, Choice.acts]
      obtain rfl : _ = s' := congrArg Prod.snd (Option.some.inj answers)
      simp [acts]
  | _ =>
    obtain ⟨view, seen, same⟩ := next_still rfl after
    exact before view seen (by simp) (same ▸ stopped)

/-- A state that says stopped is only written while the container is down. -/
theorem Still.answered (known : Known s modes) (still : Still s modes)
    (truly : reportsTruly s task call choice) (permitted : (modes thread).permits call)
    (answers : answer? thread call choice s = some (answer, s')) :
    Still s' (update modes thread ((modes thread).next call answer)) where
  free := by
    have frame := answer_frame answers
    intro free stopped
    -- The goroutine that writes the state or starts the container holds the mutex.
    have held (isHeld : (modes thread).view.isSome) (part : call.part ≠ .mutex) :
        s'.isRunning = false := by
      obtain ⟨view, seen⟩ := Option.isSome_iff_exists.mp isHeld
      rw [frame.holder part, (known.view thread view seen).1] at free
      cases free
    cases call with
    | lock =>
      simp only [answer?] at answers
      split at answers <;> cases answers
      cases free
    -- A settled view with a stopped state knows the container down.
    | unlock =>
      obtain ⟨view, seen, -, settled⟩ := permitted
      obtain ⟨-, same, -⟩ := known.view thread view seen
      cases answers
      exact still.seen thread view seen (settled (same ▸ stopped))
    | setState | setSuspended => exact held permitted.1 (by simp [Call.part])
    | setContainerId => exact held permitted (by simp [Call.part])
    | startContainer =>
      obtain ⟨view, seen, -⟩ := permitted
      exact held (by simp [seen]) (by simp [Call.part])
    | lift =>
      cases answers
      exact still.free free stopped
    | endSuspension =>
      cases answers
      split at free <;> rename_i h <;> simp only [h] at stopped ⊢ <;>
        exact still.free free stopped
    | _ =>
      rw [frame.holder (by simp [Call.part])] at free
      rw [frame.handle (by simp [Call.part]) (by simp [Call.part])] at stopped
      exact answer_notRunning answers (by simp) (still.free free stopped)
  seen := by
    intro other view' found stopped
    by_cases same : other = thread
    · subst same
      exact still.own truly answers (by simpa using found) stopped
    · -- Nobody starts the container while another goroutine holds the mutex.
      rw [update_of_ne same] at found
      refine answer_notRunning answers ?_ (still.seen other view' found stopped)
      rintro id rfl
      obtain ⟨view, seen, -⟩ := permitted
      exact same (known.toHeld.alone seen found)

theorem still_reboot (s : State) : Still (reboot () s) fun _ => .idle where
  free := by
    intro _ stopped
    -- Adoption calls the server offline only if it finds the container down.
    by_contra up
    have running : s.container.any (·.running) := by simpa [reboot, State.isRunning] using up
    simp [reboot, adopt, running, PowerState.isStopped] at stopped
  seen := by simp

end Mutex

section Files

/-- A request has seen the container down and is at work on the files. -/
def Stage.clear : Stage → Bool
  | cleared _ | installing _ | archiving => true
  | idle | watching _ | requested _ | suspending .. => false

/-- No request works on the files of a running server. -/
def Clear (s : State) (modes : Nat → Mode) : Prop :=
  ∀ thread, (modes thread).stage.clear → s.isRunning = false

variable {s s' : State} {thread : Nat} {task : Task} {call : Call} {choice : Choice}
  {answer : call.Answer} {modes : Nat → Mode} {mode : Mode}

theorem Stage.purpose?_of_clear {stage : Stage} (clear : stage.clear) :
    ∃ purpose, stage.purpose? = some purpose := by
  cases stage with
  | cleared purpose => exact ⟨purpose, rfl⟩
  | installing => exact ⟨.install, rfl⟩
  | archiving => exact ⟨.archive, rfl⟩
  | idle | watching | requested | suspending => cases clear

/-- A request turns to the files when it gives back the mutex, knowing the container down. -/
theorem next_clear (permitted : mode.permits call)
    (after : (mode.next call answer).stage.clear) :
    mode.stage.clear ∨ ∃ view, mode.view = some view ∧ view.still := by
  cases call with
  -- This is the only way to become clear; the steps of the work itself keep a request there.
  | unlock =>
    obtain ⟨view, seen, -⟩ := permitted
    by_cases still : view.still
    · exact .inr ⟨view, seen, still⟩
    · refine .inl ?_
      simp only [Mode.next, seen, Option.any_some, still] at after
      cases stage : mode.stage <;> simp_all [Stage.released]
  | setSuspended =>
    simp only [Mode.next] at after
    cases stage : mode.stage <;> simp_all [Stage.wroteSuspended, Stage.clear]
  | begin | finish | arrive | leave | beginSuspension | endSuspension => cases after
  | createInstaller | removeInstaller | beginArchive | endArchive =>
    exact .inl (by rw [permitted]; rfl)
  | _ => exact .inl (by rwa [next_stage rfl] at after)

theorem Clear.answered (known : Known s modes) (still : Still s modes) (clear : Clear s modes)
    (undisturbed : startsUndisturbed s task call choice) (permitted : (modes thread).permits call)
    (answers : answer? thread call choice s = some (answer, s')) :
    Clear s' (update modes thread ((modes thread).next call answer)) := by
  intro other after
  cases call with
  | startContainer id =>
    -- Whoever works on the files is among the requests, of which there are none.
    have before : (modes other).stage.clear := by
      by_cases same : other = thread
      · subst same
        rwa [update_self, next_stage rfl] at after
      · rwa [update_of_ne same] at after
    obtain ⟨purpose, works⟩ := Stage.purpose?_of_clear before
    have none : s.requests = [] := by simpa [startsUndisturbed] using undisturbed
    have member := known.request other purpose works
    simp [none] at member
  | _ =>
    refine answer_notRunning answers (by simp) ?_
    by_cases same : other = thread
    · subst same
      rw [update_self] at after
      rcases next_clear permitted after with before | ⟨view, seen, stopped⟩
      · exact clear other before
      · exact still.seen other view seen stopped
    · rw [update_of_ne same] at after
      exact clear other after

theorem clear_idle (s : State) : Clear s fun _ => .idle := by
  intro thread clear
  cases clear

/-- What is gated on a stopped state is spared a running container by the gate. -/
theorem sparesRunning_of_permits (still : Still s modes) (clear : Clear s modes)
    (permitted : (modes thread).permits call) : sparesRunning s task call choice := by
  have spared (down : s.isRunning = false) : sparesRunning s task call choice := by
    simp [sparesRunning, down]
  cases call with
  | replaceFiles | removeContainer =>
    obtain ⟨view, seen, stopped⟩ := permitted
    exact spared (still.seen thread view seen stopped)
  | startInstaller | archive =>
    exact spared (clear thread (by rw [permitted]; rfl))
  | _ => rfl

end Files

/--
While nobody holds the mutex, a stopped state means that the container is not running, in every
run whose calls report truly; and if the container is started only while no request works on the
files, nothing that is gated on a stopped state happens to a running server.
-/
theorem stopped_servers_do_not_run (container : Option Container) (events : List AgentEvent)
    (truly : Guarded step
      (fun agent event => agent.permits reportsTruly (fun _ _ => true) event = true)
      (booted container) events) :
    ((run step (booted container) events).shared.holder = none →
      (run step (booted container) events).shared.handle.state.isStopped →
      (run step (booted container) events).shared.isRunning = false) ∧
    (Guarded step
        (fun agent event => agent.permits startsUndisturbed (fun _ _ => true) event = true)
        (booted container) events →
      ∀ move, (run step (booted container) events).allows sparesRunning move) := by
  constructor
  -- The first part needs nothing but what the mutex protects.
  · have moded : Moded Still (run step (booted container) events) := by
      refine known_run ?_ ?_ (still_reboot _) truly
      · intro s modes thread task call choice answer s' known still truly permitted answers
        exact still.answered known truly permitted answers
      · intro s modes _ _ _
        exact still_reboot s
    obtain ⟨modes, ⟨-, still⟩, -⟩ := moded
    exact still.free
  · intro undisturbed move
    -- The second part is about work outside the mutex, so the requests have to be counted in.
    have moded : Moded (fun s modes => Still s modes ∧ Clear s modes)
        (run step (booted container) events) := by
      refine known_run ?_ ?_ ⟨still_reboot _, clear_idle _⟩ (Pool.permits_and truly undisturbed)
      · rintro s modes thread task call choice answer s' known ⟨still, clear⟩ allowed permitted
          answers
        obtain ⟨truly, undisturbed⟩ := Bool.and_eq_true_iff.mp allowed
        exact ⟨still.answered known truly permitted answers,
          clear.answered known still undisturbed permitted answers⟩
      · intro s modes _ _ _
        exact ⟨still_reboot s, clear_idle _⟩
    refine moded.allows ?_ move
    rintro s modes thread task call choice ⟨-, still, clear⟩ permitted
    exact sparesRunning_of_permits still clear permitted

section Samples

/-- A server that was started and stopped is about to have its files replaced. -/
theorem sample_stopped_servers_do_not_run :
    let events := startsUp 0 ++ stopsDown 1 ++ begins .restoreBackup :: makesAll 2 2
    ((run step (booted (some ⟨7, false, 0⟩)) events).shared.holder = none →
      (run step (booted (some ⟨7, false, 0⟩)) events).shared.handle.state.isStopped →
      (run step (booted (some ⟨7, false, 0⟩)) events).shared.isRunning = false) ∧
    (run step (booted (some ⟨7, false, 0⟩)) events).allows sparesRunning (.turn 2 .succeeds) :=
  have settled := stopped_servers_do_not_run (some ⟨7, false, 0⟩)
    (startsUp 0 ++ stopsDown 1 ++ begins .restoreBackup :: makesAll 2 2) (by decide +kernel)
  ⟨settled.1, settled.2 (by decide +kernel) _⟩

def failedStop : Agent :=
  run step (booted (some ⟨7, false, 0⟩)) (startsUp 0 ++
    begins (.power .stop) :: makes 1 [.succeeds, .succeeds, .fails, .succeeds, .succeeds])

/-- A start is reported as failed although the container is running. -/
def lostStart : Agent :=
  run step (booted (some ⟨7, false, 0⟩)) (begins (.power .start) ::
    makes 0 [.succeeds, .succeeds, .succeeds, .succeeds, .lost, .succeeds, .succeeds, .succeeds])

def failedKill : Agent :=
  run step (booted (some ⟨7, false, 0⟩)) (startsUp 0 ++
    begins (.output Console.fatalBootErrorMarker) :: makesAll 1 1 ++
    begins (.watch (.boot 1 0) []) :: makesAll 2 6 ++ makes 2 [.fails, .succeeds])

/-- A server is started while an archive of its files is being written. -/
def startedDuringExport : Agent :=
  run step (booted (some ⟨7, false, 0⟩)) (begins (.exportFiles 1) :: makesAll 0 4 ++ startsUp 1)

/--
A server whose stop, start or kill failed is crashed while it is running, its files can be
replaced then, and an archive is written while the server runs.
-/
theorem crashed_servers_run :
    (∀ agent ∈ [failedStop, lostStart, failedKill], agent.shared.holder = none ∧
      agent.shared.handle.state = .crashed ∧ agent.shared.isRunning) ∧
    (run step failedStop (begins .restoreBackup :: makesAll 2 2)).allows sparesRunning
      (.turn 2 .succeeds) = false ∧
    startedDuringExport.allows sparesRunning (.turn 0 .succeeds) = false := by
  decide +kernel

end Samples

end PxHost.Lifecycle

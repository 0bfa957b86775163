import PxHost.Agent.LifecycleInvariant

/-! The watchers of a run know which run they belong to only by the state they expect. -/

namespace PxHost.Lifecycle

open Interleaving Machine

def Call.watcherRun? : Call → Option Nat
  | setState (.watcher run) _ | teardown (.watcher run) | killContainer (.watcher run) _ => some run
  | _ => none

/-- A watcher acts only while its run is the latest one. -/
def actsInOwnRun (s : State) (_ : Task) (call : Call) (_ : Choice) : Bool :=
  call.watcherRun?.all (· == s.run)

def State.watchers (s : State) : List Watcher := s.spawned ++ s.watching.map (·.2)

/-- A run begins only when all watchers of the runs before it have returned. -/
def startsAlone (s : State) (_ : Task) (call : Call) (choice : Choice) : Bool :=
  call != .attach || !choice.ok || s.watchers.isEmpty

section Invariant

/-- Every watcher was set up in the current run. -/
def WatchersCurrent (s : State) (_ : Nat → Mode) : Prop :=
  ∀ watcher ∈ s.watchers, watcher.run = s.run

variable {s s' : State} {thread : Nat} {task : Task} {call : Call} {choice : Choice}
  {answer : call.Answer} {modes modes' : Nat → Mode}

theorem WatchersCurrent.frame (current : WatchersCurrent s modes) (sameRun : s'.run = s.run)
    (fewer : s'.watchers ⊆ s.watchers) : WatchersCurrent s' modes' := by
  intro watcher member
  rw [sameRun]
  exact current watcher (fewer member)

/-- The watchers are those of the current run: a new run starts without any. -/
theorem WatchersCurrent.answered (known : Known s modes) (current : WatchersCurrent s modes)
    (alone : startsAlone s task call choice) (permitted : (modes thread).permits call)
    (answers : answer? thread call choice s = some (answer, s')) :
    WatchersCurrent s' modes' := by
  have frame := answer_frame answers
  cases call with
  | attach =>
    simp only [answer?] at answers
    split at answers
    · -- The run begins without any watcher.
      rename_i attached
      have none : s.watchers = [] := by simpa [startsAlone, attached] using alone
      cases answers
      intro watcher member
      have found : watcher ∈ s.watchers := member
      simp [none] at found
    · cases answers
      exact current
  | spawn watcher =>
    -- The goroutine that spawns a watcher has itself begun the run.
    obtain ⟨view, seen, began⟩ := permitted
    have own := (known.view thread view seen).2.2 watcher.run began
    cases answers
    intro other member
    rcases List.mem_cons.mp member with rfl | before
    · exact own.symm
    · exact current other before
  -- A watcher that begins or returns changes its list, not its run.
  | begin watcher =>
    simp only [answer?] at answers
    split at answers <;> cases answers
    rename_i spawned
    refine current.frame rfl fun other member => ?_
    simp only [State.watchers, List.map_cons, List.mem_append, List.mem_cons] at member ⊢
    rcases member with waiting | rfl | begun
    · exact .inl (List.mem_of_mem_erase waiting)
    · exact .inl spawned
    · exact .inr begun
  | finish =>
    cases answers
    refine current.frame rfl fun other member => ?_
    simp only [State.watchers, List.mem_append, List.mem_map, List.mem_filter] at member ⊢
    rcases member with waiting | ⟨entry, ⟨begun, -⟩, rfl⟩
    · exact .inl waiting
    · exact .inr ⟨entry, begun, rfl⟩
  | _ =>
    obtain ⟨spawned, watching⟩ := frame.watchers (by simp [Call.part])
    refine current.frame (frame.run (by simp [Call.part])) ?_
    simp [State.watchers, spawned, watching]

theorem watchersCurrent_reboot (s : State) : WatchersCurrent (reboot () s) modes := by
  intro watcher member
  -- The goroutines of the old process are gone with their watchers.
  by_cases up : s.isRunning
  · simp only [reboot, State.watchers, up, if_true, Option.toList_some, List.map_cons,
      List.map_nil, List.append_nil, List.mem_singleton] at member
    rw [member]
    simp [reboot, up, Watcher.run]
  · simp [reboot, State.watchers, up] at member

end Invariant

/--
A watcher promotes, marks, tears down and kills only while its own run is the latest one, in every
run of the agent in which each run of the server begins after the watchers of the earlier runs
have returned.
-/
theorem watchers_act_in_their_own_run (container : Option Container) (events : List AgentEvent)
    (alone : Guarded step
      (fun agent event => agent.permits startsAlone (fun _ _ => true) event = true)
      (booted container) events) (move : Move Task Choice) :
    (run step (booted container) events).allows actsInOwnRun move := by
  -- Only the beginning of a run could leave watchers behind.
  have moded : Moded WatchersCurrent (run step (booted container) events) := by
    refine known_run ?_ ?_ (watchersCurrent_reboot _) alone
    · intro s modes thread task call choice answer s' known current alone permitted answers
      exact current.answered known alone permitted answers
    · intro s modes _ _ _
      exact watchersCurrent_reboot s
  refine moded.allows ?_ move
  rintro s modes thread task call choice ⟨known, current⟩ permitted
  -- A watcher that acts is listed with its run.
  have listed (run : Nat) (fits : (Actor.watcher run).fits (modes thread).stage) :
      run = s.run := by
    obtain ⟨watcher, stage, rfl⟩ := fits
    have member := known.watcher thread watcher stage
    exact current watcher (List.mem_append_right _ (List.mem_map_of_mem member))
  cases call with
  | setState actor | teardown actor =>
    cases actor with
    | operation => rfl
    | watcher run => simp [actsInOwnRun, Call.watcherRun?, listed run permitted.2]
  | killContainer actor =>
    cases actor with
    | operation => rfl
    | watcher run => simp [actsInOwnRun, Call.watcherRun?, listed run permitted]
  | _ => rfl

section Samples

/-- Both watchers return between the stop and the next start. -/
theorem sample_watchers_act_in_their_own_run :
    (run step (booted (some ⟨7, false, 0⟩)) (startsUp 0 ++
      begins (.watch (.boot 1 0) []) :: makesAll 1 6 ++ stopsDown 2 ++
      begins (.watch (.stats 1) []) :: makesAll 3 4 ++ startsUp 4 ++
      begins (.watch (.boot 2 0) []) :: makesAll 5 3)).allows actsInOwnRun (.turn 5 .succeeds) :=
  watchers_act_in_their_own_run (some ⟨7, false, 0⟩) _ (by decide +kernel) _

/-- The deadline of the first run passes after the second run has begun. -/
def lateDeadline : Agent :=
  run step (booted (some ⟨7, false, 0⟩)) (startsUp 0 ++
    begins (.watch (.boot 1 0) []) :: makesAll 1 1 ++ stopsDown 2 ++ startsUp 3 ++ makesAll 1 2)

/-- The inspection of the first run is looked at after the second run has begun. -/
def lateInspection : Agent :=
  run step (booted (some ⟨7, false, 0⟩)) (startsUp 0 ++ begins (.exit 1) :: makesAll 1 1 ++
    begins (.watch (.stats 1) []) :: makesAll 2 4 ++ stopsDown 3 ++ startsUp 4 ++ makesAll 2 1)

/-- The first run fails to boot, and this is acted on after the second run has begun. -/
def lateFatalLine : Agent :=
  run step (booted (some ⟨7, false, 0⟩)) (startsUp 0 ++
    begins (.output Console.fatalBootErrorMarker) :: makesAll 1 1 ++
    begins (.watch (.boot 1 0) []) :: makesAll 2 2 ++ stopsDown 3 ++ startsUp 4 ++ makesAll 2 4)

/-- A watcher of the first run promotes the second run, marks it crashed, or kills it. -/
theorem watchers_change_a_newer_run :
    (lateDeadline.shared.run = 2 ∧ lateDeadline.allows actsInOwnRun (.turn 1 .succeeds) = false ∧
      (run step lateDeadline (makesAll 1 1)).shared.handle.state = .running) ∧
    (lateInspection.shared.run = 2 ∧
      lateInspection.allows actsInOwnRun (.turn 2 .succeeds) = false ∧
      (run step lateInspection (makesAll 2 1)).shared.handle.state = .crashed) ∧
    (lateFatalLine.shared.run = 2 ∧ lateFatalLine.shared.isRunning ∧
      lateFatalLine.allows actsInOwnRun (.turn 2 .succeeds) = false ∧
      (run step lateFatalLine (makesAll 2 1)).shared.isRunning = false) := by
  decide +kernel

end Samples

end PxHost.Lifecycle

import PxHost.Agent.Lifecycle

/-! What a goroutine may do to a server, and that the agent's goroutines keep to it. -/

namespace PxHost.Lifecycle

open Interleaving

/-- What the holder of the mutex knows, as nobody else may change it. -/
structure View where
  handle : Handle
  /-- The container is known not to be running. -/
  still : Bool
  /-- The run this goroutine has begun. -/
  run : Option Nat

/-- The mutex is given back in no transitional state, and stopped means not running. -/
def View.Settled (view : View) : Prop :=
  view.handle.state ≠ .stopping ∧ (view.handle.state.isStopped → view.still)

/-- What a goroutine is about, whether it holds the mutex or not. -/
inductive Stage where
  | idle
  | watching (watcher : Watcher)
  | requested (purpose : Purpose)
  /-- The container was seen not to be running since the request came. -/
  | cleared (purpose : Purpose)
  | installing (installer : Nat)
  | archiving
  | suspending (ticket : Nat) (written : Bool)

structure Mode where
  stage : Stage
  view : Option View

namespace Mode

abbrev idle : Mode := ⟨.idle, none⟩

end Mode

/-- Where a request is once it has given back the mutex. -/
def Stage.released : Stage → Bool → Stage
  | requested purpose, true => cleared purpose
  | stage, _ => stage

def Stage.wroteSuspended (flag : Bool) : Stage → Stage
  | suspending ticket written => suspending ticket (written || flag)
  | stage => stage

def Actor.fits (stage : Stage) : Actor → Prop
  | operation => True
  | watcher run => ∃ watcher, stage = .watching watcher ∧ watcher.run = run

/-- A state written by a watcher counts as true; that it can be wrong is for others to say. -/
def View.write (view : View) (actor : Actor) (state : PowerState) : View :=
  { view with
    handle := { view.handle with state }
    still := view.still || (actor != .operation && state.isStopped) }

def View.setStill (still : Bool) (view : View) : View := { view with still }

namespace Mode

def permits (mode : Mode) : Call → Prop
  | .lock => mode.view = none
  | .unlock => ∃ view, mode.view = some view ∧ view.Settled
  | .setState actor _ | .teardown actor => mode.view.isSome ∧ actor.fits mode.stage
  | .setContainerId _ | .attach | .closePump | .startCollector _ | .createContainer
  | .stopContainer _ | .removeByName => mode.view.isSome
  | .setSuspended flag =>
    mode.view.isSome ∧ (flag → ∃ ticket written, mode.stage = .suspending ticket written)
  | .startContainer _ => ∃ view, mode.view = some view ∧ view.handle.state = .starting ∧
      view.handle.isSuspended = false
  | .killContainer actor _ => actor.fits mode.stage
  | .removeContainer _ | .replaceFiles => ∃ view, mode.view = some view ∧ view.still
  | .spawn watcher => ∃ view, mode.view = some view ∧ view.run = some watcher.run
  | .begin _ | .arrive _ | .beginSuspension => mode = idle
  | .finish => ∃ watcher, mode = ⟨.watching watcher, none⟩
  | .createInstaller => mode = ⟨.cleared .install, none⟩
  | .startInstaller installer | .waitInstaller installer | .removeInstaller installer =>
    mode = ⟨.installing installer, none⟩
  | .leave => ∃ purpose, mode = ⟨.requested purpose, none⟩ ∨ mode = ⟨.cleared purpose, none⟩
  | .beginArchive => mode = ⟨.cleared .archive, none⟩
  | .archive | .endArchive => mode = ⟨.archiving, none⟩
  | .endSuspension ticket _ => mode = ⟨.suspending ticket true, none⟩
  | .peek | .inspect _ | .lastSeq | .ringSince _ | .publish _ | .exit _ | .lift | .attempt _ => True

/-- Where a call leads if everything it reports is true. -/
def next (mode : Mode) : (call : Call) → call.Answer → Mode
  | .lock, handle => { mode with view := some ⟨handle, handle.state.isStopped, none⟩ }
  | .unlock, _ => ⟨mode.stage.released (mode.view.any (·.still)), none⟩
  | .setState actor state, _ => { mode with view := mode.view.map (·.write actor state) }
  | .setContainerId containerId, _ =>
    { mode with view := mode.view.map fun v => { v with handle := { v.handle with containerId } } }
  | .setSuspended flag, _ =>
    { stage := mode.stage.wroteSuspended flag
      view := mode.view.map fun v => { v with handle := { v.handle with isSuspended := flag } } }
  | .attach, some run => { mode with view := mode.view.map fun v => { v with run := some run } }
  | .createContainer, some _ | .stopContainer _, _ | .killContainer .., true =>
    { mode with view := mode.view.map (·.setStill true) }
  | .startContainer _, true => { mode with view := mode.view.map (·.setStill false) }
  | .begin watcher, _ => { mode with stage := .watching watcher }
  | .finish, _ | .leave, _ | .endSuspension .., _ => { mode with stage := .idle }
  | .createInstaller, some installer => { mode with stage := .installing installer }
  | .removeInstaller _, _ => { mode with stage := .cleared .install }
  | .arrive purpose, _ => { mode with stage := .requested purpose }
  | .beginArchive, _ => { mode with stage := .archiving }
  | .endArchive, _ => { mode with stage := .cleared .archive }
  | .beginSuspension, ticket => { mode with stage := .suspending ticket false }
  | _, _ => mode

def Learns : (call : Call) → call.Answer → Prop
  | .lock, handle => handle.state ≠ .stopping
  | _, _ => True

end Mode

def discipline : Discipline Task Mode Call.Answer where
  permits := Mode.permits
  moves _ mode call answer after := after = mode.next call answer ∧ Mode.Learns call answer

abbrev Obeys {α : Type} (task : Task) (mode : Mode) (program : Routine α)
    (post : α → Mode → Prop) : Prop :=
  Follows discipline task mode program post

abbrev Keeps {α : Type} (task : Task) (mode : Mode) (program : Routine α) : Prop :=
  Obeys task mode program fun _ after => after = mode

/-- A method under the mutex that settles the fields before it gives the mutex back. -/
abbrev Settles {α : Type} (task : Task) (stage : Stage) (handle : Handle) (body : Routine α)
    (post : α → View → Prop) : Prop :=
  Obeys task ⟨stage, some ⟨handle, handle.state.isStopped, none⟩⟩ body fun result after =>
    ∃ view, after = ⟨stage, some view⟩ ∧ view.Settled ∧ post result view

@[simp] theorem discipline_permits : discipline.permits = Mode.permits := rfl

@[simp] theorem discipline_moves {task : Task} {mode after : Mode} {call : Call}
    {answer : call.Answer} : discipline.moves task mode call answer after ↔
      after = mode.next call answer ∧ Mode.Learns call answer := Iff.rfl

attribute [local simp] Mode.permits Mode.next Mode.Learns Actor.fits View.Settled
  View.write View.setStill Option.forall Bool.forall_bool

section Rules

variable {α : Type} {task : Task} {stage : Stage} {body : Handle → Routine α}

/-- A method under the mutex begins with the fields as they are and ends in a settled view. -/
theorem obeys_locked {post : α → Mode → Prop}
    (follows : ∀ handle : Handle, handle.state ≠ .stopping →
      Obeys task ⟨stage, some ⟨handle, handle.state.isStopped, none⟩⟩ (body handle)
        fun result after => ∃ stage' view, after = ⟨stage', some view⟩ ∧ view.Settled ∧
          post result ⟨stage'.released view.still, none⟩) :
    Obeys task ⟨stage, none⟩ (locked body) post := by
  simp only [locked, ask, follows_bind, follows_perform]
  refine ⟨rfl, fun handle _ step => step.1 ▸ (follows handle step.2).mono ?_⟩
  rintro result _ ⟨stage', view, rfl, settled, holds⟩
  simpa using ⟨settled, holds⟩

/-- Nothing is learned from the mutex unless a request waits for it. -/
def Stage.IsCalm (stage : Stage) : Prop := ∀ still, stage.released still = stage

theorem keeps_locked (calm : stage.IsCalm)
    (settles : ∀ handle : Handle, handle.state ≠ .stopping →
      Settles task stage handle (body handle) fun _ _ => True) :
    Keeps task ⟨stage, none⟩ (locked body) := by
  refine obeys_locked fun handle free => (settles handle free).mono ?_
  rintro _ _ ⟨view, rfl, settled, -⟩
  exact ⟨stage, view, rfl, settled, by rw [calm]⟩

end Rules

section Operations

variable {task : Task} {stage : Stage} {handle : Handle}

theorem keeps_read (calm : stage.IsCalm) : Keeps task ⟨stage, none⟩ read :=
  keeps_locked calm fun handle free => by simpa [Settles] using free

/-- What is neither running nor starting is stopped, so nothing runs until the container starts. -/
theorem settles_startLocked (free : handle.state ≠ .stopping) :
    Settles task stage handle (startLocked handle) fun _ _ => True := by
  cases id : handle.containerId with
  | none => simp [startLocked, id, free]
  | some id' =>
    simp [startLocked, launch, id, free, Watcher.run]
    cases state : handle.state <;> simp_all [PowerState.isStopped]

theorem keeps_start (calm : stage.IsCalm) : Keeps task ⟨stage, none⟩ start :=
  keeps_locked calm fun _ => settles_startLocked

/-- Whatever the stop reports, both states written after it count as stopped. -/
theorem settles_stopLocked (free : handle.state ≠ .stopping) :
    Settles task stage handle (stopLocked handle) fun _ _ => True := by
  cases id : handle.containerId <;> simp [stopLocked, id, free]

theorem keeps_stop (calm : stage.IsCalm) : Keeps task ⟨stage, none⟩ stop :=
  keeps_locked calm fun _ => settles_stopLocked

theorem settles_killLocked (free : handle.state ≠ .stopping) :
    Settles task stage handle (killLocked handle) fun _ _ => True := by
  cases id : handle.containerId <;> simp [killLocked, id, free]

theorem keeps_kill (calm : stage.IsCalm) : Keeps task ⟨stage, none⟩ kill :=
  keeps_locked calm fun _ => settles_killLocked

theorem settles_createLocked (free : handle.state ≠ .stopping) :
    Settles task stage handle (createLocked handle) fun created view => created → view.still := by
  simp [createLocked, free]

/-- The container is known not to be running, and the state is none in between. -/
def View.IsStill (view : View) : Prop := view.still ∧ view.handle.state ≠ .stopping

variable {view : View}

theorem View.IsStill.settled (still : view.IsStill) : view.Settled :=
  ⟨still.2, fun _ => still.1⟩

theorem obeys_discardContainer (still : view.IsStill) (id : Option Nat) :
    Obeys task ⟨stage, some view⟩ (discardContainer id)
      fun _ after => ∃ view, after = ⟨stage, some view⟩ ∧ view.IsStill := by
  obtain ⟨down, free⟩ := still
  cases id <;> simp [discardContainer, View.IsStill, down, free]

theorem obeys_recreateContainerLocked (still : view.IsStill) :
    Obeys task ⟨stage, some view⟩ (recreateContainerLocked handle)
      fun _ after => ∃ view, after = ⟨stage, some view⟩ ∧ view.IsStill := by
  -- The container is down throughout: it is removed, and a new one does not run by itself.
  refine follows_bind.mpr ((obeys_discardContainer still _).mono ?_)
  rintro discarded _ ⟨view, rfl, down, free⟩
  simp [View.IsStill, down, free]

theorem settles_recreateStopped (free : handle.state ≠ .stopping) :
    Settles task stage handle (recreateStopped handle) fun made view => made → view.still := by
  unfold recreateStopped
  split
  · simp [free]
  · rename_i down
    refine (obeys_recreateContainerLocked ⟨by simpa using down, free⟩).mono ?_
    rintro _ _ ⟨view, rfl, still⟩
    exact ⟨view, rfl, still.settled, fun _ => still.1⟩

theorem keeps_updateVariables (calm : stage.IsCalm) : Keeps task ⟨stage, none⟩ updateVariables :=
  keeps_locked calm fun _ free => (settles_recreateStopped free).mono fun _ _ =>
    fun ⟨view, same, settled, _⟩ => ⟨view, same, settled, trivial⟩

theorem settles_replaceStopped (work : Work) (free : handle.state ≠ .stopping) :
    Settles task stage handle (replaceStopped work handle) fun _ _ => True := by
  simp +contextual [replaceStopped, free]

theorem keeps_restore (calm : stage.IsCalm) : Keeps task ⟨stage, none⟩ restore :=
  keeps_locked calm fun _ => settles_replaceStopped .extract

theorem keeps_installModpack (calm : stage.IsCalm) : Keeps task ⟨stage, none⟩ installModpack :=
  keeps_locked calm fun _ => settles_replaceStopped .download

end Operations

section Suspension

variable {task : Task}

theorem keeps_setSuspended (flag : Bool) : Keeps task .idle (setSuspended flag) := by
  cases flag with
  | true =>
    -- The mutex is given back between the flag and the kill, so the ticket has to last.
    have written (ticket : Nat) : Obeys task ⟨.suspending ticket false, none⟩ (writeSuspended true)
        fun _ after => after = ⟨.suspending ticket true, none⟩ :=
      obeys_locked fun handle free => by simp [Stage.wroteSuspended, Stage.released, free]
    have killed (ticket : Nat) (handle : Handle) :
        Keeps task ⟨.suspending ticket true, none⟩ (killUp handle) := by
      unfold killUp
      split
      · exact keeps_kill fun _ => rfl
      · rfl
    simp only [setSuspended, follows_bind]
    refine ⟨rfl, fun ticket _ step => step.1 ▸ (written ticket).mono ?_⟩
    rintro handle _ rfl
    refine (killed ticket handle).mono ?_
    rintro successful _ rfl
    simp
  | false =>
    have written : Keeps task .idle (writeSuspended false) :=
      keeps_locked (fun _ => rfl) fun handle free => by
        simp [Settles, Stage.wroteSuspended, free]
    simpa [setSuspended] using written

end Suspension

section Watchers

variable {task : Task} {watcher : Watcher} {handle : Handle}

theorem keeps_promoteStartingTo :
    Keeps task ⟨.watching watcher, none⟩ (promoteStartingTo watcher.run .running) :=
  keeps_locked (fun _ => rfl) fun handle free => by
    simp [Settles, free, PowerState.isStopped]

theorem settles_settle {state : PowerState} (settled : state ≠ .stopping) :
    Settles task (.watching watcher) handle (settle watcher.run state) fun _ _ => True := by
  simp +contextual [settle, settled]

theorem keeps_handleFatalBootError :
    Keeps task ⟨.watching watcher, none⟩ (handleFatalBootError watcher.run) := by
  -- The mutex is given back before the container is killed.
  have marked : Keeps task ⟨.watching watcher, none⟩ (locked (markFatal watcher.run)) :=
    keeps_locked (fun _ => rfl) fun handle free => by
      simp [Settles, markFatal, free, PowerState.isStopped]
  refine follows_after marked fun found => ?_
  cases found <;> simp

theorem keeps_actThen {since : Nat} {next : Nat → Routine Unit}
    (goesOn : ∀ seq, Keeps task ⟨.watching watcher, none⟩ (next seq)) :
    Keeps task ⟨.watching watcher, none⟩ (actThen watcher.run since next) := by
  simp only [actThen, ask, follows_bind, follows_perform]
  refine ⟨trivial, fun lines _ step => step.1 ▸ ?_⟩
  split
  · exact keeps_promoteStartingTo
  · exact keeps_handleFatalBootError
  · exact goesOn _

theorem keeps_awaitReady (wakes : List Wake) (since : Nat) :
    Keeps task ⟨.watching watcher, none⟩ (awaitReady watcher.run wakes since) := by
  -- Every wake-up either decides the boot or leads back to waiting, with the scanner further on.
  induction wakes generalizing since with
  | nil => exact keeps_actThen fun _ => keeps_promoteStartingTo
  | cons wake rest ih =>
    cases wake with
    | closed => rfl
    | line => exact keeps_actThen ih
    | tick =>
      have asked : Keeps task ⟨.watching watcher, none⟩ isStarting :=
        follows_after (keeps_read fun _ => rfl) fun _ => rfl
      refine follows_after asked fun starting => ?_
      cases starting with
      | false => rfl
      | true => exact keeps_actThen ih

theorem keeps_handleStatsStreamEnded :
    Keeps task ⟨.watching watcher, none⟩ (handleStatsStreamEnded watcher.run) := by
  refine follows_after (keeps_read fun _ => rfl) fun seen => ?_
  -- What the inspection finds is put together with the state of a later moment.
  have settled (found : Option (Bool × Int)) :
      Keeps task ⟨.watching watcher, none⟩ (locked (settleStreamEnd watcher.run found)) := by
    refine keeps_locked (fun _ => rfl) fun handle free => ?_
    unfold settleStreamEnd
    split
    · simpa [Settles] using free
    · exact settles_settle (by decide)
    · exact settles_settle (by decide)
  cases seen.containerId with
  | none => rfl
  | some id => simpa using fun _ => settled

theorem keeps_watch (wakes : List Wake) :
    Keeps task ⟨.watching watcher, none⟩ (watch wakes watcher) := by
  cases watcher with
  | boot run fromSeq => exact keeps_awaitReady wakes fromSeq
  | stats run => exact keeps_handleStatsStreamEnded

end Watchers

section Requests

variable {task : Task}

/-- The deferred removal of an installer comes whether it has ended or not. -/
theorem keeps_install : Keeps task ⟨.cleared .install, none⟩ install := by
  simp [install, runInstaller]

/-- A container that was made for an installation is not running. -/
def Prepares (task : Task) (prepare : Routine Bool) : Prop :=
  Obeys task ⟨.requested .install, none⟩ prepare fun result after =>
    after = ⟨.cleared .install, none⟩ ∨ result = false ∧ after = ⟨.requested .install, none⟩

theorem prepares_locked {body : Handle → Routine Bool}
    (settles : ∀ handle : Handle, handle.state ≠ .stopping →
      Settles task (.requested .install) handle (body handle) fun made view =>
        made → view.still) : Prepares task (locked body) := by
  refine obeys_locked fun handle free => (settles handle free).mono ?_
  rintro result _ ⟨view, rfl, settled, still⟩
  refine ⟨_, view, rfl, settled, ?_⟩
  cases known : view.still with
  | true => exact .inl rfl
  | false => exact .inr ⟨by simpa [known] using still, rfl⟩

theorem keeps_installAfter {prepare : Routine Bool} (prepares : Prepares task prepare) :
    Keeps task .idle (installAfter prepare) := by
  have pulled : Prepares task (pullThen prepare) := by
    simpa [Prepares, pullThen] using prepares
  simp only [installAfter, ask, follows_bind, follows_perform]
  refine ⟨rfl, fun _ _ step => step.1 ▸ pulled.mono ?_⟩
  rintro result _ (rfl | ⟨rfl, rfl⟩)
  · have installed : Keeps task ⟨.cleared .install, none⟩ install := keeps_install
    cases result <;> simp
    exact installed.mono fun _ _ same => by simp [same]
  · simp

theorem prepares_create : Prepares task create := prepares_locked fun _ => settles_createLocked

theorem prepares_reinstall : Prepares task reinstall :=
  prepares_locked fun _ => settles_recreateStopped

theorem keeps_exportFiles (parts : Nat) : Keeps task .idle (exportFiles parts) := by
  have seen : Obeys task ⟨.requested .archive, none⟩ read fun handle after =>
      after = ⟨(Stage.requested .archive).released handle.state.isStopped, none⟩ :=
    obeys_locked fun handle free => ⟨_, _, rfl, ⟨free, id⟩, rfl⟩
  have archived : Keeps task ⟨.archiving, none⟩ ((List.range parts).forM fun _ => ask .archive) :=
    follows_forM fun _ _ => by simp
  simp only [exportFiles, ask, follows_bind, follows_perform]
  refine ⟨rfl, fun _ _ step => step.1 ▸ seen.mono ?_⟩
  rintro handle _ rfl
  cases stopped : handle.state.isStopped with
  | true => simpa [Stage.released] using archived.mono fun _ _ same => by simp [same]
  | false => simp [Stage.released]

theorem keeps_waitForBoot (polls : Nat) : Keeps task .idle (waitForBoot polls) := by
  induction polls with
  | zero => exact follows_after (keeps_read fun _ => rfl) fun _ => rfl
  | succ polls ih =>
    refine follows_after (keeps_read fun _ => rfl) fun handle => ?_
    split
    · rfl
    · exact ih

theorem keeps_validateBoot (polls : Nat) : Keeps task .idle (validateBoot polls) := by
  refine follows_after (keeps_start fun _ => rfl) fun started => ?_
  split
  · rfl
  · exact follows_after (keeps_waitForBoot polls) fun _ => rfl

theorem keeps_runModpackInstall (polls : Nat) : Keeps task .idle (runModpackInstall polls) := by
  have restored : Keeps task .idle (do let _ ← restore) :=
    follows_after (keeps_restore fun _ => rfl) fun _ => rfl
  have installed : Keeps task .idle (do
      if ← installModpack then
        if ← validateBoot polls then return
        let _ ← kill
        let _ ← restore
      else
        let _ ← restore) := by
    refine follows_after (keeps_installModpack fun _ => rfl) fun installed => ?_
    cases installed with
    | false => exact restored
    | true =>
      refine follows_after (keeps_validateBoot polls) fun valid => ?_
      cases valid with
      | true => rfl
      | false => exact follows_after (keeps_kill fun _ => rfl) fun _ => restored
  simpa [runModpackInstall] using fun _ _ => installed

theorem keeps_performPower (action : Action) : Keeps task .idle (performPower action) := by
  cases action with
  | start => exact follows_after (keeps_start fun _ => rfl) fun _ => rfl
  | stop => exact follows_after (keeps_stop fun _ => rfl) fun _ => rfl
  | kill => exact follows_after (keeps_kill fun _ => rfl) fun _ => rfl
  | restart =>
    have stopped : Keeps task .idle stopUp := by
      simpa [stopUp] using fun _ _ => keeps_stop fun _ => rfl
    refine follows_after stopped fun down => ?_
    cases down with
    | true => exact follows_after (keeps_start fun _ => rfl) fun _ => rfl
    | false => rfl

/-- Every goroutine of the agent keeps to the discipline. -/
theorem obeys_code (task : Task) : Keeps task .idle task.code := by
  cases task with
  | power action => exact keeps_performPower action
  | suspend flag => exact keeps_setSuspended flag
  | createServer registered =>
    cases registered with
    | true => exact keeps_installAfter prepares_reinstall
    | false => exact keeps_installAfter prepares_create
  | reinstallServer =>
    simpa [Task.code, handleReinstallServer] using fun _ _ => keeps_installAfter prepares_reinstall
  | updateVariables => exact follows_after (keeps_updateVariables fun _ => rfl) fun _ => rfl
  | exportFiles parts => exact keeps_exportFiles parts
  | restoreBackup => exact follows_after (keeps_restore fun _ => rfl) fun _ => rfl
  | installModpack polls => exact keeps_runModpackInstall polls
  | watch watcher wakes =>
    simpa [Task.code] using (keeps_watch wakes).mono fun _ _ same => by simp [same]
  | output data | exit code => simp [Task.code]

end Requests

end PxHost.Lifecycle

import PxHost.Agent.LifecycleModes

/-! What every call leaves alone, and what the modes of the goroutines say about the state. -/

namespace PxHost.Lifecycle

open Interleaving Function

section Frames

/-- The part of the state that a call can change. -/
inductive Part where
  | nothing
  | mutex
  | fields
  | run
  | runtime
  | container
  | console
  | watchers
  | installers
  | requests
  | archives
  | suspension
deriving DecidableEq

def Call.part : Call → Part
  | lock | unlock => .mutex
  | setState .. | setContainerId _ => .fields
  | attach => .run
  | closePump | startCollector _ | teardown _ => .runtime
  | createContainer | startContainer _ | stopContainer _ | killContainer .. | removeContainer _
  | removeByName | exit _ => .container
  | publish _ => .console
  | spawn _ | begin _ | finish => .watchers
  | createInstaller | startInstaller _ | waitInstaller _ | removeInstaller _ => .installers
  | arrive _ | leave => .requests
  | beginArchive | endArchive => .archives
  -- The flag is one of the fields, and its fall lifts the suspension.
  | setSuspended _ | endSuspension .. | lift => .suspension
  | peek | inspect _ | lastSeq | ringSince _ | archive | replaceFiles | beginSuspension
  | attempt _ => .nothing

/-- What a call of another part leaves as it was. -/
structure Frame (part : Part) (s s' : State) : Prop where
  holder : part ≠ .mutex → s'.holder = s.holder
  handle : part ≠ .fields → part ≠ .suspension → s'.handle = s.handle
  run : part ≠ .run → s'.run = s.run
  container : part ≠ .container → s'.container = s.container
  watchers : part ≠ .watchers → s'.spawned = s.spawned ∧ s'.watching = s.watching
  installers : part ≠ .installers → s'.installers = s.installers
  requests : part ≠ .requests → s'.requests = s.requests
  archiving : part ≠ .archives → s'.archiving = s.archiving
  suspension : part ≠ .suspension → s'.lifts = s.lifts ∧ s'.suspension = s.suspension

variable {s s' : State} {thread : Nat} {call : Call} {choice : Choice} {answer : call.Answer}

theorem answer_frame (answers : answer? thread call choice s = some (answer, s')) :
    Frame call.part s s' := by
  -- Each call has one shape of answer; once it is known, the fields can be read off.
  cases call with
  | lock | attach | begin | createInstaller =>
    simp only [answer?] at answers
    split at answers <;> cases answers <;>
      constructor <;> intros <;> first | rfl | exact ⟨rfl, rfl⟩ | contradiction
  | createContainer | startContainer | stopContainer | killContainer | removeContainer
  | removeByName | startInstaller | waitInstaller | removeInstaller | endSuspension =>
    cases answers
    split <;> constructor <;> intros <;> first | rfl | exact ⟨rfl, rfl⟩ | contradiction
  | setSuspended flag =>
    cases answers
    cases flag <;> constructor <;> intros <;> first | rfl | exact ⟨rfl, rfl⟩ | contradiction
  | _ =>
    cases answers
    constructor <;> intros <;> first | rfl | exact ⟨rfl, rfl⟩ | contradiction

end Frames

section Mutex

/-- The holder of the mutex knows the fields, and a free mutex leaves no state in between. -/
structure Held (s : State) (modes : Nat → Mode) : Prop where
  view : ∀ thread view, (modes thread).view = some view →
    s.holder = some thread ∧ s.handle = view.handle ∧ ∀ run, view.run = some run → s.run = run
  free : s.holder = none → s.handle.state ≠ .stopping

variable {s s' : State} {thread other : Nat} {call : Call} {choice : Choice} {answer : call.Answer}
  {modes : Nat → Mode} {mode : Mode} {view view' : View}

theorem Held.alone (held : Held s modes) (mine : (modes thread).view = some view)
    (theirs : (modes other).view = some view') : other = thread :=
  Option.some.inj ((held.view other view' theirs).1.symm.trans (held.view thread view mine).1)

theorem answer_blind (answers : answer? thread call choice s = some (answer, s'))
    (permitted : mode.permits call) (blind : mode.view = none) (waits : call ≠ .lock) :
    s'.holder = s.holder ∧ s'.handle = s.handle ∧ s'.run = s.run := by
  -- Every other call that changes the fields or the run is made under the mutex.
  have frame := answer_frame answers
  cases call with
  | lock => contradiction
  | unlock =>
    obtain ⟨view, seen, -⟩ := permitted
    simp [blind] at seen
  | setState | setContainerId | attach | setSuspended => simp [Mode.permits, blind] at permitted
  | lift =>
    cases answers
    exact ⟨rfl, rfl, rfl⟩
  | endSuspension =>
    cases answers
    split <;> exact ⟨rfl, rfl, rfl⟩
  | _ =>
    exact ⟨frame.holder (by simp [Call.part]),
      frame.handle (by simp [Call.part]) (by simp [Call.part]), frame.run (by simp [Call.part])⟩

theorem next_view (reads : call.part ≠ .fields) (flagless : call.part ≠ .suspension)
    (mutexless : call.part ≠ .mutex) (runless : call.part ≠ .run)
    (after : (mode.next call answer).view = some view') :
    ∃ view, mode.view = some view ∧ view'.handle = view.handle ∧ view'.run = view.run := by
  -- What is learned about the container touches neither the fields nor the run.
  have kept (still : Bool) (found : mode.view.map (·.setStill still) = some view') :
      ∃ view, mode.view = some view ∧ view'.handle = view.handle ∧ view'.run = view.run := by
    obtain ⟨view, seen, rfl⟩ := Option.map_eq_some_iff.mp found
    exact ⟨view, seen, rfl, rfl⟩
  cases call with
  | lock | unlock | setState | setContainerId | setSuspended | attach | endSuspension | lift =>
    contradiction
  | stopContainer => exact kept true after
  | createContainer | killContainer =>
    cases answer <;> first | exact kept true after | exact ⟨view', after, rfl, rfl⟩
  | startContainer =>
    cases answer <;> first | exact kept false after | exact ⟨view', after, rfl, rfl⟩
  | createInstaller => cases answer <;> exact ⟨view', after, rfl, rfl⟩
  | _ => exact ⟨view', after, rfl, rfl⟩

theorem Held.learns (held : Held s modes)
    (answers : answer? thread call choice s = some (answer, s')) : Mode.Learns call answer := by
  cases call with
  -- Whoever takes the mutex finds what the last holder has left.
  | lock =>
    simp only [answer?] at answers
    split at answers
    · cases answers
    · rename_i free
      cases answers
      exact held.free (by simpa using free)
  | _ => trivial

/-- What the goroutine of a call knows afterwards. -/
theorem Held.own (held : Held s modes) (permitted : (modes thread).permits call)
    (answers : answer? thread call choice s = some (answer, s'))
    (after : ((modes thread).next call answer).view = some view') :
    s'.holder = some thread ∧ s'.handle = view'.handle ∧
      ∀ run, view'.run = some run → s'.run = run := by
  have frame := answer_frame answers
  -- A field is written in the state and in the view alike.
  have writes (f : View → View) (found : (modes thread).view.map f = some view')
      (same : ∀ v, s.handle = v.handle → s'.handle = (f v).handle)
      (runs : ∀ v run, (f v).run = some run → v.run = some run)
      (still : s'.holder = s.holder) (sameRun : s'.run = s.run) :
      s'.holder = some thread ∧ s'.handle = view'.handle ∧
        ∀ run, view'.run = some run → s'.run = run := by
    obtain ⟨view, seen, rfl⟩ := Option.map_eq_some_iff.mp found
    obtain ⟨mine, known, ran⟩ := held.view thread view seen
    refine ⟨still.trans mine, same view known, fun run began => ?_⟩
    exact sameRun.trans (ran run (runs view run began))
  cases call with
  | lock =>
    simp only [answer?] at answers
    split at answers
    · cases answers
    · cases answers
      obtain rfl := Option.some.inj after
      exact ⟨rfl, rfl, by simp⟩
  | unlock => cases after
  | setState | setContainerId =>
    cases answers
    exact writes _ after (fun v known => by simp [State.setHandle, known, View.write])
      (fun _ _ => id) rfl rfl
  | setSuspended flag =>
    cases answers
    refine writes _ after (fun v known => ?_) (fun _ _ => id) ?_ ?_
    · simp [State.setHandle, known]
    · cases flag <;> rfl
    · cases flag <;> rfl
  -- A run that begins gets its number from the state, and its goroutine remembers it.
  | attach =>
    simp only [answer?] at answers
    split at answers
    · cases answers
      obtain ⟨view, seen, rfl⟩ := Option.map_eq_some_iff.mp after
      obtain ⟨mine, known, -⟩ := held.view thread view seen
      exact ⟨mine, known, fun run began => Option.some.inj began⟩
    · cases answers
      exact held.view thread view' after
  | lift =>
    cases answers
    exact held.view thread view' after
  | endSuspension =>
    cases answers
    split <;> exact held.view thread view' after
  | _ =>
    obtain ⟨view, seen, sameHandle, sameRun⟩ := next_view (by simp [Call.part])
      (by simp [Call.part]) (by simp [Call.part]) (by simp [Call.part]) after
    obtain ⟨mine, known, ran⟩ := held.view thread view seen
    rw [frame.holder (by simp [Call.part]),
      frame.handle (by simp [Call.part]) (by simp [Call.part]), frame.run (by simp [Call.part]),
      sameHandle, sameRun]
    exact ⟨mine, known, ran⟩

/-- Only the holder of the mutex writes to the fields, and it knows what it writes. -/
theorem Held.answered (held : Held s modes) (permitted : (modes thread).permits call)
    (answers : answer? thread call choice s = some (answer, s')) :
    Held s' (update modes thread ((modes thread).next call answer)) where
  view := by
    -- The holder's own view follows its call; nobody else has a view.
    intro other view' found
    by_cases same : other = thread
    · subst same
      exact held.own permitted answers (by simpa using found)
    · -- Another goroutine holds the mutex, so this one cannot have changed anything it knows.
      rw [update_of_ne same] at found
      obtain ⟨theirs, known, ran⟩ := held.view other view' found
      have blind : (modes thread).view = none := by
        by_contra seen
        obtain ⟨view, mine⟩ := Option.ne_none_iff_exists'.mp seen
        exact same (held.alone mine found)
      have waits : call ≠ .lock := by
        rintro rfl
        simp [answer?, theirs] at answers
      obtain ⟨sameHolder, sameHandle, sameRun⟩ := answer_blind answers permitted blind waits
      rw [sameHolder, sameHandle, sameRun]
      exact ⟨theirs, known, ran⟩
  free := by
    intro free
    have frame := answer_frame answers
    cases call with
    | lock =>
      simp only [answer?] at answers
      split at answers <;> cases answers
      cases free
    -- The mutex is given back in a settled view only.
    | unlock =>
      obtain ⟨view, seen, settled⟩ := permitted
      obtain ⟨-, known, -⟩ := held.view thread view seen
      cases answers
      exact known ▸ settled.1
    | setState | setContainerId | setSuspended =>
      -- The goroutine that writes holds the mutex.
      have mine : (modes thread).view.isSome := by
        first | exact permitted | exact permitted.1
      obtain ⟨view, seen⟩ := Option.isSome_iff_exists.mp mine
      rw [frame.holder (by simp [Call.part]), (held.view thread view seen).1] at free
      cases free
    | lift =>
      cases answers
      exact held.free free
    | endSuspension =>
      cases answers
      split at free <;> rename_i h <;> simp only [h] <;> exact held.free free
    | _ =>
      rw [frame.handle (by simp [Call.part]) (by simp [Call.part])]
      exact held.free (by rwa [frame.holder (by simp [Call.part])] at free)

end Mutex

section Enrolment

def Stage.purpose? : Stage → Option Purpose
  | requested purpose | cleared purpose => some purpose
  | installing _ => some .install
  | archiving => some .archive
  | idle | watching _ | suspending .. => none

/-- The state lists the requests, the watchers and the archives that the modes tell of. -/
structure Enrolled (s : State) (modes : Nat → Mode) : Prop where
  request : ∀ thread purpose, (modes thread).stage.purpose? = some purpose →
    (thread, purpose) ∈ s.requests
  watcher : ∀ thread watcher, (modes thread).stage = .watching watcher →
    (thread, watcher) ∈ s.watching
  archive : ∀ thread ∈ s.archiving, (modes thread).stage = .archiving

/-- The calls with which a goroutine can come to another stage. -/
def Call.advances : Call → Bool
  | unlock | setSuspended _ | begin _ | finish | createInstaller | removeInstaller _ | arrive _
  | leave | beginArchive | endArchive | beginSuspension | endSuspension .. => true
  | _ => false

variable {s s' : State} {thread : Nat} {call : Call} {choice : Choice} {answer : call.Answer}
  {modes : Nat → Mode} {mode : Mode} {purpose : Purpose} {watcher : Watcher}

theorem next_stage (stays : call.advances = false) :
    (mode.next call answer).stage = mode.stage := by
  cases call with
  | attach | createContainer | startContainer | killContainer => cases answer <;> rfl
  | unlock | setSuspended | begin | finish | createInstaller | removeInstaller | arrive | leave
  | beginArchive | endArchive | beginSuspension | endSuspension => cases stays
  | _ => rfl

theorem Stage.purpose?_released (stage : Stage) (still : Bool) :
    (stage.released still).purpose? = stage.purpose? := by
  cases stage <;> cases still <;> rfl

theorem Stage.purpose?_wroteSuspended (stage : Stage) (flag : Bool) :
    (stage.wroteSuspended flag).purpose? = stage.purpose? := by
  cases stage <;> rfl

theorem Stage.released_eq_watching {stage : Stage} {still : Bool} :
    stage.released still = .watching watcher ↔ stage = .watching watcher := by
  cases stage <;> cases still <;> simp [Stage.released]

theorem Stage.wroteSuspended_eq_watching {stage : Stage} {flag : Bool} :
    stage.wroteSuspended flag = .watching watcher ↔ stage = .watching watcher := by
  cases stage <;> simp [Stage.wroteSuspended]

theorem next_purpose (permitted : mode.permits call) (known : ∀ purpose, call ≠ .arrive purpose)
    (after : (mode.next call answer).stage.purpose? = some purpose) :
    mode.stage.purpose? = some purpose := by
  cases call with
  | arrive purpose => exact absurd rfl (known purpose)
  | unlock => exact (Stage.purpose?_released _ _).symm.trans after
  | setSuspended => exact (Stage.purpose?_wroteSuspended _ _).symm.trans after
  | begin | finish | leave | endSuspension | beginSuspension => cases after
  -- The steps of an installation and of an export belong to the same request.
  | createInstaller =>
    obtain rfl : mode = ⟨.cleared .install, none⟩ := permitted
    cases answer <;> exact after
  | removeInstaller installer =>
    obtain rfl : mode = ⟨.installing installer, none⟩ := permitted
    exact after
  | beginArchive =>
    obtain rfl : mode = ⟨.cleared .archive, none⟩ := permitted
    exact after
  | endArchive =>
    obtain rfl : mode = ⟨.archiving, none⟩ := permitted
    exact after
  | _ => rwa [next_stage rfl] at after

theorem next_watching (known : ∀ watcher, call ≠ .begin watcher)
    (after : (mode.next call answer).stage = .watching watcher) :
    mode.stage = .watching watcher ∧ call ≠ .finish := by
  refine ⟨?_, ?_⟩
  · cases call with
    | begin watcher => exact absurd rfl (known watcher)
    | unlock => exact Stage.released_eq_watching.mp after
    | setSuspended => exact Stage.wroteSuspended_eq_watching.mp after
    | arrive | finish | leave | endSuspension | beginSuspension | removeInstaller | beginArchive
    | endArchive => cases after
    | createInstaller =>
      cases answer with
      | none => exact after
      | some installer => cases after
    | _ => rwa [next_stage rfl] at after
  · rintro rfl
    cases after

/-- An installer is being run, or an archive is being written. -/
def Stage.works : Stage → Bool
  | installing _ | archiving => true
  | _ => false

/-- A goroutine at work on the files does nothing else until that is finished. -/
theorem next_works (permitted : mode.permits call) (archives : call ≠ .endArchive)
    (installs : ∀ installer, call ≠ .removeInstaller installer) (works : mode.stage.works) :
    (mode.next call answer).stage = mode.stage := by
  cases call with
  | endArchive => contradiction
  | removeInstaller installer => exact absurd rfl (installs installer)
  | unlock | setSuspended =>
    simp only [Mode.next]
    cases stage : mode.stage <;> simp_all [Stage.works, Stage.released, Stage.wroteSuspended]
  | begin | arrive | beginSuspension | createInstaller | beginArchive | endSuspension =>
    simp only [Mode.permits] at permitted
    simp [permitted, Stage.works] at works
  | finish =>
    obtain ⟨watcher, rfl⟩ := permitted
    cases works
  | leave =>
    obtain ⟨purpose, rfl | rfl⟩ := permitted <;> cases works
  | _ => exact next_stage rfl

/-- A goroutine that comes to another stage is entered in the list of that stage. -/
theorem Enrolled.answered (enrolled : Enrolled s modes) (permitted : (modes thread).permits call)
    (answers : answer? thread call choice s = some (answer, s')) :
    Enrolled s' (update modes thread ((modes thread).next call answer)) where
  request := by
    have frame := answer_frame answers
    intro other purpose found
    by_cases same : other = thread
    · subst same
      rw [update_self] at found
      cases call with
      | arrive purpose' =>
        cases answers
        obtain rfl := Option.some.inj found
        exact List.mem_cons_self
      -- No other call begins a request, and only the end of this one would strike it off.
      | leave => cases found
      | _ =>
        have before := enrolled.request other purpose (next_purpose permitted (by simp) found)
        rwa [frame.requests (by simp [Call.part])]
    · rw [update_of_ne same] at found
      have before := enrolled.request other purpose found
      cases call with
      | arrive purpose' =>
        cases answers
        exact List.mem_cons_of_mem _ before
      -- A request that leaves strikes off itself, not this one.
      | leave =>
        cases answers
        exact List.mem_filter.mpr ⟨before, by simpa using same⟩
      | _ => rwa [frame.requests (by simp [Call.part])]
  watcher := by
    have frame := answer_frame answers
    intro other watcher found
    by_cases same : other = thread
    · subst same
      rw [update_self] at found
      cases call with
      | begin watcher' =>
        simp only [answer?] at answers
        split at answers <;> cases answers
        cases found
        exact List.mem_cons_self
      | finish => cases found
      | spawn =>
        cases answers
        exact enrolled.watcher other watcher (next_watching (by simp) found).1
      | _ =>
        have before := enrolled.watcher other watcher (next_watching (by simp) found).1
        rwa [(frame.watchers (by simp [Call.part])).2]
    · rw [update_of_ne same] at found
      have before := enrolled.watcher other watcher found
      cases call with
      | begin =>
        simp only [answer?] at answers
        split at answers <;> cases answers
        exact List.mem_cons_of_mem _ before
      | finish =>
        cases answers
        exact List.mem_filter.mpr ⟨before, by simpa using same⟩
      | spawn =>
        cases answers
        exact before
      | _ => rwa [(frame.watchers (by simp [Call.part])).2]
  archive := by
    have frame := answer_frame answers
    intro other writes
    by_cases same : other = thread
    · subst same
      rw [update_self]
      cases call with
      | beginArchive => rfl
      | endArchive =>
        cases answers
        simp at writes
      -- Who removes an installer is not writing an archive.
      | removeInstaller installer =>
        have writing := enrolled.archive other (frame.archiving (by simp [Call.part]) ▸ writes)
        simp only [Mode.permits] at permitted
        simp [permitted] at writing
      | _ =>
        rw [frame.archiving (by simp [Call.part])] at writes
        have writing := enrolled.archive other writes
        rw [next_works permitted (by simp) (by simp) (by rw [writing]; rfl), writing]
    · rw [update_of_ne same]
      cases call with
      | beginArchive =>
        cases answers
        exact enrolled.archive other (by simpa [same] using writes)
      | endArchive =>
        cases answers
        exact enrolled.archive other (List.mem_filter.mp writes).1
      | _ =>
        rw [frame.archiving (by simp [Call.part])] at writes
        exact enrolled.archive other writes

end Enrolment

section Runs

open Machine

structure Known (s : State) (modes : Nat → Mode) : Prop extends Held s modes, Enrolled s modes

/-- The goroutines have modes of which an invariant holds. -/
def Moded (Inv : State → (Nat → Mode) → Prop) (agent : Agent) : Prop :=
  Pool.Moded discipline .idle (fun s modes => Known s modes ∧ Inv s modes) agent

variable {Inv : State → (Nat → Mode) → Prop} {guard : State → Task → Call → Choice → Bool}
  {restarts : State → Unit → Bool}

theorem known_reboot (s : State) : Known (reboot () s) fun _ => .idle where
  view := by simp
  free := by
    intro
    simp only [reboot, adopt]
    split <;> simp
  request := by simp [Stage.purpose?]
  watcher := by simp
  archive := by simp [reboot]

/--
An invariant that every permitted call and every restart keeps holds after every run, together
with modes that the goroutines follow.
-/
theorem known_run
    (kept : ∀ s modes thread task call choice answer s', Known s modes → Inv s modes →
      guard s task call choice → (modes thread).permits call →
      answer? thread call choice s = some (answer, s') →
      Inv s' (update modes thread ((modes thread).next call answer)))
    (renewed : ∀ s modes, Known s modes → Inv s modes → restarts s () →
      Inv (reboot () s) fun _ => .idle)
    {container : Option Container} (initially : Inv (booted container).shared fun _ => .idle)
    {events : List AgentEvent}
    (guarded : Guarded step (fun agent event => agent.permits guard restarts event = true)
      (booted container) events) :
    Moded Inv (run step (booted container) events) := by
  -- The mode after a call is the one the answer leads to; a restart ends all goroutines.
  refine Pool.Moded.run_restarts obeys_code ?_ ?_ (.of_idle ⟨known_reboot _, initially⟩) guarded
  · rintro s modes thread task call choice answer s' ⟨known, inv⟩ allowed permitted answers
    have held := known.toHeld.answered permitted answers
    have enrolled := known.toEnrolled.answered permitted answers
    exact ⟨_, ⟨rfl, known.toHeld.learns answers⟩, ⟨held, enrolled⟩,
      kept s modes thread task call choice answer s' known inv allowed permitted answers⟩
  · rintro s modes ⟨⟩ ⟨known, inv⟩ allowed
    exact ⟨known_reboot s, renewed s modes known inv allowed⟩

end Runs

end PxHost.Lifecycle

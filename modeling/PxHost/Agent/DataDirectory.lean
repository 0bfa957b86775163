import PxHost.Agent.StoppedServers

/-! The game container, the installers and the archives of a server share one data directory. -/

namespace PxHost.Lifecycle

open Machine Function

/-- An installer is not left running when the installation is over. -/
def removesInstaller (s : State) (_ : Task) (call : Call) (choice : Choice) : Bool :=
  match call with
  | .removeInstaller installer => choice.acts || !s.installers.contains installer
  | _ => true

/--
Calls report truly, the container is started only while no request works on the files, and every
installer is gone when its installation is over.
-/
def keepsApart (s : State) (task : Task) (call : Call) (choice : Choice) : Bool :=
  reportsTruly s task call choice && startsUndisturbed s task call choice &&
    removesInstaller s task call choice

/-- No installer is running when the agent is restarted. -/
def installersDone (s : State) (_ : Unit) : Bool := s.installers.isEmpty

section Invariant

/-- Every installer that is running is waited for. -/
def Attended (s : State) (modes : Nat → Mode) : Prop :=
  ∀ installer ∈ s.installers, ∃ thread, (modes thread).stage = .installing installer

variable {s s' : State} {thread : Nat} {task : Task} {call : Call} {choice : Choice}
  {answer : call.Answer} {modes : Nat → Mode}

/-- Nothing but the end of its installation makes a goroutine leave its installer. -/
theorem Attended.frame (attended : Attended s modes) (permitted : (modes thread).permits call)
    (known : ∀ installer, call ≠ .removeInstaller installer)
    (fewer : s'.installers ⊆ s.installers) :
    Attended s' (update modes thread ((modes thread).next call answer)) := by
  intro installer member
  -- The goroutine that waited for the installer still does.
  obtain ⟨other, installs⟩ := attended installer (fewer member)
  refine ⟨other, ?_⟩
  by_cases same : other = thread
  · subst same
    have archives : call ≠ .endArchive := by
      rintro rfl
      simp only [Mode.permits] at permitted
      simp [permitted] at installs
    rw [update_self, next_works permitted archives known (by rw [installs]; rfl), installs]
  · rwa [update_of_ne same]

/-- An installer is waited for until it is gone. -/
theorem Attended.answered (attended : Attended s modes)
    (removes : removesInstaller s task call choice) (permitted : (modes thread).permits call)
    (answers : answer? thread call choice s = some (answer, s')) :
    Attended s' (update modes thread ((modes thread).next call answer)) := by
  have frame := answer_frame answers
  cases call with
  | createInstaller =>
    refine attended.frame permitted (by simp) ?_
    simp only [answer?] at answers
    split at answers <;> cases answers <;> exact List.Subset.refl _
  -- The installer that is started is the one its goroutine has created.
  | startInstaller installer =>
    have mode : modes thread = ⟨.installing installer, none⟩ := permitted
    cases answers
    intro other member
    split at member
    · rcases List.mem_cons.mp member with rfl | before
      · refine ⟨thread, ?_⟩
        rw [update_self, next_stage rfl, mode]
      · exact attended.frame permitted (by simp) (List.Subset.refl _) other before
    · exact attended.frame permitted (by simp) (List.Subset.refl _) other member
  | waitInstaller installer =>
    refine attended.frame permitted (by simp) ?_
    cases answers
    split
    · exact List.filter_subset_self _
    · exact List.Subset.refl _
  | removeInstaller installer =>
    -- The installers that are left belong to other goroutines.
    have mode : modes thread = ⟨.installing installer, none⟩ := permitted
    have left : ∀ other ∈ s'.installers, other ∈ s.installers ∧ other ≠ installer := by
      cases answers
      intro other member
      split at member
      · simpa using List.mem_filter.mp member
      · rename_i idle
        have gone : installer ∉ s.installers := by simpa [removesInstaller, idle] using removes
        exact ⟨member, fun same => gone (same ▸ member)⟩
    intro other member
    obtain ⟨before, differs⟩ := left other member
    obtain ⟨owner, installs⟩ := attended other before
    refine ⟨owner, ?_⟩
    have elsewhere : owner ≠ thread := by
      rintro rfl
      rw [mode] at installs
      cases installs
      exact differs rfl
    rwa [update_of_ne elsewhere]
  | _ =>
    refine attended.frame permitted (by simp) ?_
    rw [frame.installers (by simp [Call.part])]
    exact List.Subset.refl _

end Invariant

/--
The game container does not run while an installer runs or an archive is written, in every run
that keeps the three apart and in which no installer outlives the agent.
-/
theorem data_directory_is_exclusive (container : Option Container) (events : List AgentEvent)
    (apart : Guarded step
      (fun agent event => agent.permits keepsApart installersDone event = true)
      (booted container) events)
    (running : (run step (booted container) events).shared.isRunning) :
    (run step (booted container) events).shared.installers = [] ∧
      (run step (booted container) events).shared.archiving = [] := by
  -- Every installer and every archive belongs to a request that has seen the container down.
  have moded : Moded (fun s modes => Still s modes ∧ Clear s modes ∧ Attended s modes)
      (run step (booted container) events) := by
    refine known_run ?_ ?_ ⟨still_reboot _, clear_idle _, ?_⟩ apart
    · rintro s modes thread task call choice answer s' known ⟨still, clear, attended⟩ allowed
        permitted answers
      simp only [keepsApart, Bool.and_eq_true] at allowed
      obtain ⟨⟨truly, undisturbed⟩, removes⟩ := allowed
      exact ⟨still.answered known truly permitted answers,
        clear.answered known still undisturbed permitted answers,
        attended.answered removes permitted answers⟩
    · rintro s modes - - done
      refine ⟨still_reboot s, clear_idle _, ?_⟩
      simp_all [Attended, installersDone, reboot]
    · simp [Attended, booted, reboot]
  obtain ⟨modes, ⟨known, -, clear, attended⟩, -⟩ := moded
  -- Whoever works on the files has seen the container down.
  have absent (thread : Nat) (works : (modes thread).stage.clear) : False := by
    simp [clear thread works] at running
  constructor
  · refine List.eq_nil_iff_forall_not_mem.mpr fun installer member => ?_
    obtain ⟨thread, installs⟩ := attended installer member
    exact absent thread (by rw [installs]; rfl)
  · refine List.eq_nil_iff_forall_not_mem.mpr fun thread member => ?_
    exact absent thread (by rw [known.archive thread member]; rfl)

section Samples

/-- A reinstallation is over before the server is started. -/
theorem sample_data_directory_is_exclusive :
    let agent := run step (booted (some ⟨7, false, 0⟩))
      (begins .reinstallServer :: makesAll 0 18 ++ startsUp 1)
    agent.shared.isRunning ∧ agent.shared.installers = [] ∧ agent.shared.archiving = [] :=
  ⟨by decide +kernel, data_directory_is_exclusive (some ⟨7, false, 0⟩)
    (begins .reinstallServer :: makesAll 0 18 ++ startsUp 1) (by decide +kernel)
    (by decide +kernel)⟩

/-- A request whose container was just recreated has its installer running. -/
def duringInstall : List AgentEvent := begins .reinstallServer :: makesAll 0 15

def startedDuringInstall : Agent :=
  run step (booted (some ⟨7, false, 0⟩)) (duringInstall ++ startsUp 1)

/-- The installer outlives the agent that ran it. -/
def startedAfterRestart : Agent :=
  run step (booted (some ⟨7, false, 0⟩)) (duringInstall ++ .restart () :: startsUp 0)

/-- A server is started while an installer runs, and while an archive of its files is written. -/
theorem data_directory_is_shared :
    (∀ agent ∈ [startedDuringInstall, startedAfterRestart],
      agent.shared.isRunning ∧ agent.shared.installers = [9]) ∧
    startedDuringExport.shared.isRunning ∧ startedDuringExport.shared.archiving = [0] := by
  decide +kernel

end Samples

end PxHost.Lifecycle

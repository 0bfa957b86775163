import PxHost.Agent.Lifecycle
import PxHost.Agent.Spec

/-!
Replacing the container of a stopped server by one of another specification, and what is left when
Docker or the new specification refuses.
-/

namespace PxHost.Reinstall

open Store Spec Interleaving
open Lifecycle (PowerState)

inductive DockerError where
  | noSuchContainer
  | nameInUse
  | failed (message : String)
deriving DecidableEq

abbrev ContainerId := Nat

structure Container where
  name : String
  config : Config
  hostConfig : HostConfig
deriving DecidableEq

abbrev Containers := Table ContainerId Container

/-- A registered server, and the containers of its node. -/
structure Site where
  spec : Server
  node : Node
  state : PowerState
  containerId : Option ContainerId
  containers : Containers

def Site.containerName (s : Site) : String := "gxhost-" ++ s.spec.uuid

/-- What becomes of the calls to Docker, and the identifier it has for a new container. -/
structure Docker where
  pull : Option (Fault DockerError)
  remove : Option (Fault DockerError)
  removeByName : Option (Fault DockerError)
  create : Option (Fault DockerError)
  newId : ContainerId

inductive CallError where
  | notStopped (uuid : String)
  | pulling (image : String) (error : DockerError)
  | removingOld (error : DockerError)
  | buildingSpec (uuid : String) (error : SpecError)
  | recreating (error : DockerError)
deriving DecidableEq

section Calls

def removeContainer (id : ContainerId) (containers : Containers) :
    Except DockerError Unit × Containers :=
  match containers.get? id with
  | some _ => (.ok (), containers.erase id)
  | none => (.error .noSuchContainer, containers)

def removeContainerNamed (name : String) (containers : Containers) :
    Except DockerError Unit × Containers :=
  match containers.find? fun _ container => container.name = name with
  | some (id, _) => removeContainer id containers
  | none => (.error .noSuchContainer, containers)

/-- Docker has no two containers of one name. -/
def createContainer (id : ContainerId) (container : Container) (containers : Containers) :
    Except DockerError ContainerId × Containers :=
  match containers.find? fun _ other => other.name = container.name with
  | some _ => (.error .nameInUse, containers)
  | none =>
    match containers.insert? id container with
    | some grown => (.ok id, grown)
    | none => (.error (.failed "identifier in use"), containers)

end Calls

section Methods

variable (docker : Docker)

/-- The container of the handle goes, and then the handle forgets it. -/
def removeOld (s : Site) : Except DockerError Unit × Site :=
  match s.containerId with
  | none => (.ok (), s)
  | some id =>
    match Fault.befall s.containers (removeContainer id s.containers) docker.remove with
    | (.error e, containers) => (.error e, { s with containers })
    | (.ok (), containers) => (.ok (), { s with containers, containerId := none })

/-- What an earlier attempt left under the name of the server goes, if it is there. -/
def clearName (s : Site) : Site :=
  { s with
    containers := (Fault.befall s.containers (removeContainerNamed s.containerName s.containers)
      docker.removeByName).2 }

def recreateContainerLocked (s : Site) : Except CallError Unit × Site :=
  match removeOld docker s with
  | (.error e, s) => (.error (.removingOld e), s)
  | (.ok (), s) =>
    let s := clearName docker s
    -- The specification is built only now, when the old container is gone.
    match buildContainerSpec s.spec s.node with
    | .error e => (.error (.buildingSpec s.spec.uuid e), s)
    | .ok (config, hostConfig) =>
      match Fault.befall s.containers
          (createContainer docker.newId ⟨s.containerName, config, hostConfig⟩ s.containers)
          docker.create with
      | (.error e, containers) => (.error (.recreating e), { s with containers })
      | (.ok id, containers) => (.ok (), { s with containers, containerId := some id })

/-- A stopped server takes another specification, and its container is replaced. -/
def replaceContainer (newSpec : Server → Server) (s : Site) : Except CallError Unit × Site :=
  if !s.state.isStopped then (.error (.notStopped s.spec.uuid), s)
  else recreateContainerLocked docker { s with spec := newSpec s.spec }

def updateVariables (newEnv : Table String String) (startupTemplate : String) :
    Site → Except CallError Unit × Site :=
  replaceContainer docker fun spec =>
    { spec with
      startupTmpl := if startupTemplate ≠ "" then startupTemplate else spec.startupTmpl
      env := newEnv }

def reinstall (image startupTemplate stopSignal : String) (newEnv : Table String String) :
    Site → Except CallError Unit × Site :=
  replaceContainer docker fun spec =>
    { spec with image, startupTmpl := startupTemplate, stopSignal, env := newEnv }

/-- What `handleReinstallServer` does after it has accepted a request. -/
def pullAndReinstall (image imageDigest startupTemplate stopSignal : String)
    (newEnv : Table String String) (s : Site) : Except CallError Unit × Site :=
  let image := if imageDigest ≠ "" then image ++ "@" ++ imageDigest else image
  match Fault.befall s (.ok (), s) docker.pull with
  | (.error e, s) => (.error (.pulling image e), s)
  | (.ok (), s) => reinstall docker image startupTemplate stopSignal newEnv s

end Methods

inductive Change where
  | updateVariables (newEnv : Table String String) (startupTemplate : String)
  | reinstall (image startupTemplate stopSignal : String) (newEnv : Table String String)
  | pullAndReinstall (image imageDigest startupTemplate stopSignal : String)
      (newEnv : Table String String)

def Change.perform (docker : Docker) : Change → Site → Except CallError Unit × Site
  | updateVariables newEnv startupTemplate =>
    Reinstall.updateVariables docker newEnv startupTemplate
  | reinstall image startupTemplate stopSignal newEnv =>
    Reinstall.reinstall docker image startupTemplate stopSignal newEnv
  | pullAndReinstall image imageDigest startupTemplate stopSignal newEnv =>
    Reinstall.pullAndReinstall docker image imageDigest startupTemplate stopSignal newEnv

def Change.pulls : Change → Bool
  | updateVariables .. | reinstall .. => false
  | pullAndReinstall .. => true

section Start

inductive StartError where
  | noContainer
  | already (state : PowerState)
  | suspended
  | docker (error : DockerError)
deriving DecidableEq

def Site.start (s : Site) : Except StartError Container :=
  match s.containerId with
  | none => .error .noContainer
  | some id =>
    if s.state = .running ∨ s.state = .starting then .error (.already s.state)
    else if s.spec.isSuspended then .error .suspended
    else
      match s.containers.get? id with
      | none => .error (.docker .noSuchContainer)
      | some container => .ok container

/-- The container of the handle is there, and it is the one that a specification describes. -/
def Site.HasContainerOf (spec : Server) (s : Site) : Prop :=
  ∃ id container, s.containerId = some id ∧ s.containers.get? id = some container ∧
    buildContainerSpec spec s.node = .ok (container.config, container.hostConfig)

theorem Site.start_of_containerId_eq_none {s : Site} (forgotten : s.containerId = none) :
    s.start = .error .noContainer := by
  simp [Site.start, forgotten]

end Start

section Laws

variable {docker : Docker} {s after : Site} {spec : Server}

theorem not_hasContainerOf (forgotten : s.containerId = none) : ¬ s.HasContainerOf spec := by
  simp [Site.HasContainerOf, forgotten]

/-- Only a removal that never got to Docker fails and leaves the container. -/
theorem removeOld_error {e : DockerError} (fails : removeOld docker s = (.error e, after)) :
    after.HasContainerOf spec ↔
      s.HasContainerOf spec ∧ ∃ error, docker.remove = some (.unsent error) := by
  unfold removeOld at fails
  cases known : s.containerId with
  | none => simp [known] at fails
  | some id =>
    cases found : s.containers.get? id with
    | none =>
      -- What is not there before is not there after any removal.
      rcases fault : docker.remove with _ | error | error <;>
        simp only [known, fault, Fault.befall, removeContainer, found, Prod.mk.injEq] at fails <;>
        obtain ⟨-, rfl⟩ := fails <;> simp [Site.HasContainerOf, known, found]
    | some container =>
      rcases fault : docker.remove with _ | error | error <;>
        simp only [known, fault, Fault.befall, removeContainer, found, Prod.mk.injEq] at fails
      · simp at fails
      · obtain ⟨-, rfl⟩ := fails
        simp [Site.HasContainerOf, known]
      · -- Docker has removed it, and only its answer is lost.
        obtain ⟨-, rfl⟩ := fails
        simp [Site.HasContainerOf, known]

theorem removeOld_ok (removed : removeOld docker s = (.ok (), after)) :
    after.containerId = none := by
  unfold removeOld at removed
  cases known : s.containerId with
  | none =>
    simp only [known, Prod.mk.injEq] at removed
    rw [← removed.2, known]
  | some id =>
    simp only [known] at removed
    split at removed
    · simp at removed
    · simp only [Prod.mk.injEq, true_and] at removed
      rw [← removed]

theorem removeOld_sent {error : DockerError} (removed : removeOld docker s = (.ok (), after))
    (lost : docker.remove = some (.unsent error)) : s.containerId = none := by
  cases known : s.containerId with
  | none => rfl
  | some id => simp [removeOld, known, lost, Fault.befall] at removed

/-- After the removal every failure leaves a server whose handle knows no container. -/
theorem recreateContainerLocked_error {e : CallError}
    (fails : recreateContainerLocked docker s = (.error e, after)) :
    after.HasContainerOf spec ↔
      s.HasContainerOf spec ∧ ∃ error, docker.remove = some (.unsent error) := by
  unfold recreateContainerLocked at fails
  rcases removal : removeOld docker s with ⟨answer | _, middle⟩
  · simp only [removal, Prod.mk.injEq] at fails
    obtain ⟨-, rfl⟩ := fails
    exact removeOld_error removal
  · have cleared : (clearName docker middle).containerId = none := by
      rw [show (clearName docker middle).containerId = middle.containerId from rfl,
        removeOld_ok removal]
    have forgotten : after.containerId = none := by
      simp only [removal] at fails
      split at fails
      · simp only [Prod.mk.injEq] at fails
        rw [← fails.2, cleared]
      · split at fails
        · simp only [Prod.mk.injEq] at fails
          rw [← fails.2]
          exact cleared
        · simp at fails
    refine iff_of_false (not_hasContainerOf forgotten) ?_
    rintro ⟨present, error, lost⟩
    exact not_hasContainerOf (removeOld_sent removal lost) present

/-- A new specification that is refused is found out when the old container is gone. -/
theorem recreateContainerLocked_refused {id : ContainerId} {container : Container} {e : SpecError}
    (known : s.containerId = some id) (found : s.containers.get? id = some container)
    (answered : docker.remove = none) (refused : buildContainerSpec s.spec s.node = .error e) :
    (recreateContainerLocked docker s).1 = .error (.buildingSpec s.spec.uuid e) ∧
      (recreateContainerLocked docker s).2.containerId = none := by
  simp [recreateContainerLocked, removeOld, clearName, known, answered, Fault.befall,
    removeContainer, found, refused]

theorem replaceContainer_error {newSpec : Server → Server} {e : CallError}
    (fails : replaceContainer docker newSpec s = (.error e, after)) :
    after.HasContainerOf spec ↔ s.HasContainerOf spec ∧
      (s.state.isStopped = false ∨ ∃ error, docker.remove = some (.unsent error)) := by
  unfold replaceContainer at fails
  cases stopped : s.state.isStopped with
  | false =>
    simp only [stopped, Bool.not_false, ↓reduceIte, Prod.mk.injEq] at fails
    rw [← fails.2]
    simp
  | true =>
    simp only [stopped, Bool.not_true, Bool.false_eq_true, ↓reduceIte] at fails
    -- The specification of the handle is overwritten before anything is removed.
    simpa [Site.HasContainerOf] using recreateContainerLocked_error fails

end Laws

/-- A failed call leaves the server with the container it had exactly if it failed before Docker was
asked to remove that container, or if Docker was asked and never heard of it. -/
theorem failed_change_keeps_the_container_iff (docker : Docker) (change : Change) (s : Site)
    (e : CallError) (fails : (change.perform docker s).1 = .error e) :
    (change.perform docker s).2.HasContainerOf s.spec ↔ s.HasContainerOf s.spec ∧
      (s.state.isStopped = false ∨ (change.pulls ∧ docker.pull.isSome) ∨
        ∃ error, docker.remove = some (.unsent error)) := by
  rcases result : change.perform docker s with ⟨answer, after⟩
  rw [result] at fails
  subst fails
  cases change with
  | updateVariables newEnv startupTemplate =>
    simp only [Change.perform, updateVariables] at result
    simpa [Change.pulls] using replaceContainer_error result
  | reinstall image startupTemplate stopSignal newEnv =>
    simp only [Change.perform, reinstall] at result
    simpa [Change.pulls] using replaceContainer_error result
  | pullAndReinstall image imageDigest startupTemplate stopSignal newEnv =>
    simp only [Change.perform, pullAndReinstall] at result
    rcases lost : docker.pull with _ | error | error <;>
      simp only [lost, Fault.befall] at result
    · simpa [Change.pulls] using replaceContainer_error result
    -- The image is pulled before anything else, and a pull that fails leaves everything as it was.
    · simp only [Prod.mk.injEq] at result
      rw [← result.2]
      simp [Change.pulls]
    · simp only [Prod.mk.injEq] at result
      rw [← result.2]
      simp [Change.pulls]

section Samples

def sampleNode : Node where
  dataDir := "/d"
  uidRangeMin := 1
  uidRangeMax := 9
  ioWeightSupported := false

def sampleSpec : Server where
  uuid := "u"
  uid := 1
  image := "java"
  startupTmpl := "java"
  stopSignal := ""
  env := .empty
  limits := ⟨0, 1, 0, 1, 0, 0⟩
  allocations := []

def sampleSite (config : Config) (hostConfig : HostConfig) : Site where
  spec := sampleSpec
  node := sampleNode
  state := .offline
  containerId := some 1
  containers := Table.empty.add 1 ⟨"gxhost-u", config, hostConfig⟩ rfl

def workingDocker : Docker where
  pull := none
  remove := none
  removeByName := none
  create := none
  newId := 2

theorem sampleSpec_built :
    ∃ config hostConfig, buildContainerSpec sampleSpec sampleNode = .ok (config, hostConfig) := by
  obtain ⟨⟨config, hostConfig⟩, built⟩ :=
    Fallible.isOk_iff.mp (by decide +kernel : (buildContainerSpec sampleSpec sampleNode).isOk)
  exact ⟨config, hostConfig, built⟩

theorem sampleSite_hasContainer {config : Config} {hostConfig : HostConfig}
    (built : buildContainerSpec sampleSpec sampleNode = .ok (config, hostConfig)) :
    (sampleSite config hostConfig).HasContainerOf sampleSpec :=
  ⟨1, _, rfl, rfl, built⟩

theorem sample_failed_change_keeps_the_container_iff :
    ∃ config hostConfig,
      ((Change.reinstall "java" "java" "" .empty).perform
        { workingDocker with remove := some (.unsent (.failed "timeout")) }
        (sampleSite config hostConfig)).2.HasContainerOf sampleSpec := by
  obtain ⟨config, hostConfig, built⟩ := sampleSpec_built
  have kept := failed_change_keeps_the_container_iff
    { workingDocker with remove := some (.unsent (.failed "timeout")) }
    (.reinstall "java" "java" "" .empty) (sampleSite config hostConfig)
    (.removingOld (.failed "timeout")) rfl
  exact ⟨config, hostConfig, kept.mpr ⟨sampleSite_hasContainer built, .inr (.inr ⟨_, rfl⟩)⟩⟩

/-- A startup command with a variable that nobody declared. -/
def refusedSpec : Server := { sampleSpec with startupTmpl := "\x7b\x7bX\x7d\x7d" }

def refusedChange : Change := .reinstall "java" refusedSpec.startupTmpl "" .empty

/-- The command is refused after the old container was removed, and the server cannot be started. -/
theorem refused_specification_leaves_no_container :
    ∃ config hostConfig, (sampleSite config hostConfig).HasContainerOf sampleSpec ∧
      (refusedChange.perform workingDocker (sampleSite config hostConfig)).1 =
        .error (.buildingSpec "u" (.undeclaredVariable "X")) ∧
      ¬ (refusedChange.perform workingDocker
        (sampleSite config hostConfig)).2.HasContainerOf sampleSpec ∧
      (refusedChange.perform workingDocker (sampleSite config hostConfig)).2.start =
        .error .noContainer := by
  obtain ⟨config, hostConfig, built⟩ := sampleSpec_built
  have refused : buildContainerSpec refusedSpec sampleNode = .error (.undeclaredVariable "X") := by
    decide +kernel
  have gone : (recreateContainerLocked workingDocker
      { sampleSite config hostConfig with spec := refusedSpec }).1 = _ ∧ _ :=
    recreateContainerLocked_refused rfl rfl rfl refused
  obtain ⟨fails, forgotten⟩ := gone
  exact ⟨config, hostConfig, sampleSite_hasContainer built, fails, not_hasContainerOf forgotten,
    Site.start_of_containerId_eq_none forgotten⟩

end Samples

end PxHost.Reinstall

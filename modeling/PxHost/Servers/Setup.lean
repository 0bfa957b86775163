import PxHost.Lib.Fallible
import PxHost.Lib.Table
import PxHost.Schema.Types
import PxHost.Servers.Variables

/-! The software of a server and its variables (`server-setup.service.ts`, `variable-resolution.ts`). -/

namespace PxHost.Setup

open Store Fallible

structure TemplateVariable where
  name : String := ""
  envVariable : String
  defaultValue : String := ""
  rules : String := "nullable|string"
  isUserViewable : Bool := true
  isUserEditable : Bool := true

/-- A template as it is published; the table keeps the names of its variables apart. -/
structure Template where
  dockerImages : List (String × String)
  softwareKind : Option String
  startupCommand : String
  vars : Table Nat TemplateVariable
  envs : (vars.rows.map (·.2.envVariable)).Nodup

inductive SetupError where
  | missingPermission | notInstalled | notReady | agentUnreachable | mustBeOffline
  | templateNotFound | noImages
  | unknownVariable (key : String)
  | notConfigurable (key : String)
  | invalidVariable (name message : String)
  deriving DecidableEq

structure ServerRow where
  name : String := ""
  status : ServerStatus
  templateId : Option Nat
  dockerImage : Option String
  startupCommand : Option String
  powerState : String := "offline"
  memoryMb : Nat := 2048
  deriving DecidableEq

/-- How a request ends: refused with nothing done, failed at the agent, or well. -/
inductive Outcome where
  | refused (e : SetupError)
  | agentFailed
  | done
  deriving DecidableEq

/-- A server, the values stored for it, and the variables of the last request to the agent. -/
structure Panel where
  server : ServerRow
  stored : Nat → Option String
  sent : Option (List (String × String)) := none

/-- What a request finds: its permissions, the published templates, and the agent. -/
structure Site where
  can : String → Bool
  template : Nat → Option Template
  runtimeState : Option String
  accepts : Bool

structure Plan where
  templateId : Nat
  template : Template
  dockerImage : String
  startupCommand : String
  value : TemplateVariable → String

def isStoppedState (state : String) : Bool := state == "offline" || state == "crashed"

section Service

variable (runtime : Runtime) (site : Site)

def checkVariable (vars : Table Nat TemplateVariable) (entry : String × String) :
    Except SetupError Unit :=
  match vars.find? fun _ tv => tv.envVariable == entry.1 with
  | none => .error (.unknownVariable entry.1)
  | some (_, tv) =>
    if !tv.isUserViewable || !tv.isUserEditable then .error (.notConfigurable entry.1)
    else match validateVariableValue runtime entry.2 tv.rules with
      | some message => .error (.invalidVariable tv.name message)
      | none => .ok ()

def resolveDeclaredVariables (vars : Table Nat TemplateVariable) (requested : Table String String) :
    Except SetupError (TemplateVariable → String) := do
  forM requested.rows (checkVariable runtime vars)
  return fun tv => (requested.get? tv.envVariable).getD tv.defaultValue

def applyPlanManagedVariables (value : TemplateVariable → String) (memoryMb : Nat)
    (tv : TemplateVariable) : String :=
  if tv.envVariable = "SERVER_MEMORY" then toString (jvmHeapMb memoryMb) else value tv

/-- The part that a first installation and a change of version have in common. -/
def plan (p : Panel) (templateId : Nat) (requested : Table String String) :
    Except SetupError Plan := do
  let some template := site.template templateId | throw .templateNotFound
  let some dockerImage :=
    pickDockerImage runtime template.dockerImages (requested.get? "MINECRAFT_VERSION") | throw .noImages
  let resolved ← resolveDeclaredVariables runtime template.vars requested
  let value := applyPlanManagedVariables resolved p.server.memoryMb
  let version := template.vars.find? fun _ tv => tv.envVariable == "MINECRAFT_VERSION"
  let startupCommand := pickStartupCommand template.softwareKind template.startupCommand
    (version.map (value ·.2))
  return { templateId, template, dockerImage, startupCommand, value }

/-- The transaction writes the row and a value for every variable, and the agent is sent the same. -/
def Panel.install (p : Panel) (plan : Plan) : Panel where
  server := { p.server with
    status := .installing
    templateId := some plan.templateId
    dockerImage := some plan.dockerImage
    startupCommand := some plan.startupCommand }
  stored := fun id => match plan.template.vars.get? id with
    | some tv => some (plan.value tv)
    | none => p.stored id
  sent := some (plan.template.vars.rows.map fun row => (row.2.envVariable, plan.value row.2))

/-- Commit an installation that passes its checks, and have the agent carry it out. -/
def dispatch (p : Panel) (checked : Except SetupError (ServerRow → ServerRow))
    (admitted : List ServerStatus) (revert : ServerRow → ServerRow) (templateId : Nat)
    (requested : Table String String) : Outcome × Panel :=
  let planned := do
    let edit ← checked
    let plan ← plan runtime site p templateId requested
    require (p.server.status ∈ admitted) .notReady
    return (edit, plan)
  match planned with
  | .error e => (.refused e, p)
  | .ok (edit, plan) =>
    let p' := { p with server := edit p.server }.install plan
    if site.accepts then (.done, p') else (.agentFailed, { p' with server := revert p'.server })

def complete (p : Panel) (name : String) : Nat → Table String String → Outcome × Panel :=
  dispatch runtime site p
    (do
      require (site.can "server.read") .missingPermission
      return fun row => { row with name })
    [.setupPending, .installFailed] fun row => { row with status := .installFailed }

/-- When the agent fails, the row goes back to what it was, and nothing else does. -/
def changeVersion (p : Panel) : Nat → Table String String → Outcome × Panel :=
  dispatch runtime site p
    (do
      require (site.can "startup.update") .missingPermission
      require (p.server.status = .ready) .notReady
      let some powerState := site.runtimeState | throw .agentUnreachable
      require (isStoppedState powerState) .mustBeOffline
      return fun row => { row with powerState })
    [.ready] fun row => { row with
      status := .ready
      templateId := p.server.templateId
      dockerImage := p.server.dockerImage
      startupCommand := p.server.startupCommand }

/-- The stored values under the names they have in the environment. -/
def Panel.current (p : Panel) (template : Template) : Table String String where
  rows := (template.vars.rows.filter fun row => (p.stored row.1).isSome).map fun row =>
    (row.2.envVariable, (p.stored row.1).getD "")
  keysNodup := by
    simpa [Function.comp_def] using template.envs.sublist (List.filter_sublist.map _)

def reinstallCurrent (p : Panel) : Outcome × Panel :=
  match site.can "startup.update", p.server.templateId with
  | false, _ => (.refused .missingPermission, p)
  | true, none => (.refused .notInstalled, p)
  | true, some templateId =>
    let requested := (site.template templateId).elim .empty p.current
    if p.server.status = .installFailed then complete runtime site p p.server.name templateId requested
    else changeVersion runtime site p templateId requested

end Service

section Laws

variable {runtime : Runtime} {site : Site} {p : Panel} {templateId : Nat} {template : Template}

/-- What an installation stores is what the request, the defaults and the plan say. -/
structure AlreadyStored (template : Template) (requested : Table String String) (p : Panel) :
    Prop where
  managed : ∀ row ∈ template.vars.rows, row.2.envVariable = "SERVER_MEMORY" →
    p.stored row.1 = some (toString (jvmHeapMb p.server.memoryMb))
  submitted : ∀ row ∈ template.vars.rows, row.2.envVariable ≠ "SERVER_MEMORY" →
    ∀ value ∈ requested.get? row.2.envVariable, p.stored row.1 = some value
  omitted : ∀ row ∈ template.vars.rows, row.2.envVariable ≠ "SERVER_MEMORY" →
    requested.get? row.2.envVariable = none → p.stored row.1 = some row.2.defaultValue

/-- A plan is made for a published template, and gives its variables the values as requested. -/
theorem plan_ok {requested : Table String String} {made : Plan}
    (published : site.template templateId = some template)
    (planned : plan runtime site p templateId requested = .ok made) :
    made.template = template ∧ ∀ tv, made.value tv =
      if tv.envVariable = "SERVER_MEMORY" then toString (jvmHeapMb p.server.memoryMb)
      else (requested.get? tv.envVariable).getD tv.defaultValue := by
  unfold plan at planned
  simp only [published] at planned
  split at planned
  · simp only [resolveDeclaredVariables, bind_eq_ok_iff] at planned
    obtain ⟨_, ⟨_, -, resolved⟩, same⟩ := planned
    cases resolved
    cases same
    exact ⟨rfl, fun tv => rfl⟩
  · cases planned

/-- An installation changes no value exactly if it stores what is stored already. -/
theorem install_stored_iff {requested : Table String String} {made : Plan} {q : Panel}
    (published : site.template templateId = some template)
    (planned : plan runtime site p templateId requested = .ok made) (same : q.stored = p.stored) :
    (q.install made).stored = p.stored ↔ AlreadyStored template requested p := by
  obtain ⟨rfl, values⟩ := plan_ok published planned
  have each : (q.install made).stored = p.stored ↔
      ∀ row ∈ made.template.vars.rows, p.stored row.1 = some (made.value row.2) := by
    rw [funext_iff]
    constructor
    · intro stored row listed
      rw [← stored row.1]
      simp [Panel.install, Table.get?_eq_some_iff.mpr listed]
    · intro stored id
      -- A variable of the template has got a new value, and any other one its old one.
      simp only [Panel.install, same]
      cases listed : made.template.vars.get? id with
      | none => rfl
      | some tv => exact (stored (id, tv) (Table.get?_eq_some_iff.mp listed)).symm
  rw [each]
  constructor
  · intro stored
    refine ⟨fun row listed memory => ?_, fun row listed other value given => ?_,
      fun row listed other missing => ?_⟩
    · rw [stored row listed, values, if_pos memory]
    · rw [stored row listed, values, if_neg other, given, Option.getD_some]
    · rw [stored row listed, values, if_neg other, missing, Option.getD_none]
  · intro already row listed
    rw [values]
    split
    · next memory => exact already.managed row listed memory
    · next other =>
      cases given : requested.get? row.2.envVariable with
      | none => exact already.omitted row listed other given
      | some value => exact already.submitted row listed other value given

/-- The status, the template, the image and the command of a server, and its stored values. -/
def SameSetup (p p' : Panel) : Prop :=
  p'.server.status = p.server.status ∧ p'.server.templateId = p.server.templateId ∧
    p'.server.dockerImage = p.server.dockerImage ∧
    p'.server.startupCommand = p.server.startupCommand ∧ p'.stored = p.stored

/--
A change that the agent refuses leaves no trace exactly if the value stored for every variable of
the requested template was the one requested, or the default where none was, and for the memory the
one of the plan.
-/
theorem refused_change_leaves_no_trace_iff (requested : Table String String)
    (published : site.template templateId = some template)
    (failed : (changeVersion runtime site p templateId requested).1 = .agentFailed) :
    SameSetup p (changeVersion runtime site p templateId requested).2 ↔
      AlreadyStored template requested p := by
  unfold changeVersion dispatch at failed ⊢
  dsimp only at failed ⊢
  split at failed
  · cases failed
  next edit made planned =>
  simp only [bind_eq_ok_iff, require_eq_ok_iff, List.mem_singleton] at planned
  obtain ⟨_, -, _, planned, -, ready, same⟩ := planned
  cases same
  split at failed
  · cases failed
  next refused =>
  rw [if_neg refused, ← install_stored_iff published planned (q := { p with server := edit p.server })
    rfl]
  -- The four columns go back by hand, and nobody puts the values back.
  exact ⟨fun kept => kept.2.2.2.2, fun stored => ⟨ready.symm, rfl, rfl, rfl, stored⟩⟩

/-- Every stored value is one that the customer could also have submitted. -/
def Submittable (runtime : Runtime) (template : Template) (p : Panel) : Prop :=
  ∀ row ∈ template.vars.rows, ∀ value ∈ p.stored row.1,
    row.2.isUserViewable ∧ row.2.isUserEditable ∧
      validateVariableValue runtime value row.2.rules = none

instance : Decidable (Submittable runtime template p) :=
  inferInstanceAs (Decidable (∀ row ∈ template.vars.rows, _))

theorem mem_current {entry : String × String} :
    entry ∈ (p.current template).rows ↔ ∃ row ∈ template.vars.rows,
      p.stored row.1 = some entry.2 ∧ row.2.envVariable = entry.1 := by
  simp only [Panel.current, List.mem_map, List.mem_filter]
  constructor
  · rintro ⟨row, ⟨listed, there⟩, rfl⟩
    obtain ⟨value, stored⟩ := Option.isSome_iff_exists.mp there
    exact ⟨row, listed, by simp [stored], rfl⟩
  · rintro ⟨row, listed, stored, env⟩
    exact ⟨row, ⟨listed, by simp [stored]⟩, by simp [stored, env]⟩

/-- A stored value passes the check exactly if it could have been submitted. -/
theorem checkVariable_ok_iff {row : Nat × TemplateVariable} {value : String}
    (listed : row ∈ template.vars.rows) :
    checkVariable runtime template.vars (row.2.envVariable, value) = .ok () ↔
      row.2.isUserViewable ∧ row.2.isUserEditable ∧
        validateVariableValue runtime value row.2.rules = none := by
  -- No two variables share a name, so the value is checked against its own variable.
  have found : template.vars.find? (fun _ tv => tv.envVariable == row.2.envVariable) = some row := by
    refine Table.find?_unique (Table.get?_eq_some_iff.mpr listed) (by simp) fun id' tv' listed' same => ?_
    have rows := List.inj_on_of_nodup_map template.envs (Table.get?_eq_some_iff.mp listed') listed
      (beq_iff_eq.mp same)
    exact congrArg Prod.fst rows
  simp only [checkVariable, found]
  cases row.2.isUserViewable <;> cases row.2.isUserEditable <;>
    cases validateVariableValue runtime value row.2.rules <;> simp

/-- The stored values pass as a request exactly if each could have been submitted. -/
theorem checks_current_iff :
    forM (p.current template).rows (checkVariable runtime template.vars) = .ok () ↔
      Submittable runtime template p := by
  rw [forM_eq_ok_iff]
  constructor
  · intro checks row listed value stored
    exact (checkVariable_ok_iff listed).mp
      (checks (row.2.envVariable, value) (mem_current.mpr ⟨row, listed, stored, rfl⟩))
  · rintro submittable ⟨env, value⟩ member
    obtain ⟨row, listed, stored, rfl⟩ := mem_current.mp member
    exact (checkVariable_ok_iff listed).mpr (submittable row listed value stored)

/-- A refusal that is about the values of the variables. -/
def SetupError.blamesVariables : SetupError → Bool
  | .unknownVariable _ | .notConfigurable _ | .invalidVariable .. => true
  | _ => false

theorem checkVariable_blames {vars : Table Nat TemplateVariable} {entry : String × String}
    {e : SetupError} (failed : checkVariable runtime vars entry = .error e) : e.blamesVariables := by
  unfold checkVariable at failed
  split at failed
  · cases failed
    rfl
  · split at failed
    · cases failed
      rfl
    · split at failed
      · cases failed
        rfl
      · cases failed

/-- What was stored is stored again and sent to the agent, but for what the plan decides. -/
def Kept (template : Template) (p p' : Panel) : Prop :=
  ∀ id tv value, template.vars.get? id = some tv → p.stored id = some value →
    tv.envVariable ≠ "SERVER_MEMORY" →
    p'.stored id = some value ∧ ∃ sent, p'.sent = some sent ∧ (tv.envVariable, value) ∈ sent

/-- A refusal is not the fault of the variables, and an installation keeps them. -/
def KeepsConfiguration (template : Template) (p : Panel) (result : Outcome × Panel) : Prop :=
  match result.1 with
  | .refused e => ¬ e.blamesVariables
  | _ => Kept template p result.2

theorem kept_install {made : Plan} {q : Panel}
    (published : site.template templateId = some template)
    (planned : plan runtime site p templateId (p.current template) = .ok made) :
    Kept template p (q.install made) := by
  obtain ⟨rfl, values⟩ := plan_ok published planned
  intro id tv value listed stored other
  have given : (p.current made.template).get? tv.envVariable = some value :=
    Table.get?_eq_some_iff.mpr
      (mem_current.mpr ⟨(id, tv), Table.get?_eq_some_iff.mp listed, stored, rfl⟩)
  have kept : made.value tv = value := by rw [values, if_neg other, given, Option.getD_some]
  refine ⟨by simp [Panel.install, listed, kept], _, rfl, ?_⟩
  exact List.mem_map.mpr ⟨(id, tv), Table.get?_eq_some_iff.mp listed, by simp [kept]⟩

/-- With an image to choose, the plan fails over the variables or not at all. -/
theorem plan_current (published : site.template templateId = some template)
    (images : template.dockerImages ≠ []) :
    if Submittable runtime template p then
      ∃ made, plan runtime site p templateId (p.current template) = .ok made
    else ∃ e, plan runtime site p templateId (p.current template) = .error e ∧
      e.blamesVariables := by
  obtain ⟨image, picked⟩ := Option.isSome_iff_exists.mp
    ((pickDockerImage_isSome runtime template.dockerImages
      ((p.current template).get? "MINECRAFT_VERSION")).mpr images)
  simp only [plan, published, picked, resolveDeclaredVariables]
  split
  · next submittable =>
    rw [checks_current_iff.mpr submittable]
    exact ⟨_, rfl⟩
  · next blamed =>
    have failed := mt checks_current_iff.mp blamed
    cases checked : forM (p.current template).rows (checkVariable runtime template.vars) with
    | ok u => exact absurd checked failed
    | error e =>
      obtain ⟨entry, -, fails⟩ := forM_eq_error checked
      exact ⟨e, rfl, checkVariable_blames fails⟩

/-- The call comes as far as looking at the variables. -/
def ReachesVariables (site : Site) (template : Template) (p : Panel) : Prop :=
  template.dockerImages ≠ [] ∧
    if p.server.status = .installFailed then site.can "server.read"
    else p.server.status = .ready ∧ ∃ state ∈ site.runtimeState, isStoppedState state

/-- A call that gets so far keeps the values if they are the customer's to submit, or if there is no
image to choose and it ends for that reason. -/
theorem dispatch_keeps_iff {checked : Except SetupError (ServerRow → ServerRow)}
    (edit : ServerRow → ServerRow) {revert : ServerRow → ServerRow} {admitted : List ServerStatus}
    (published : site.template templateId = some template) (passes : checked = .ok edit) :
    KeepsConfiguration template p
        (dispatch runtime site p checked admitted revert templateId (p.current template)) ↔
      Submittable runtime template p ∨ template.dockerImages = [] := by
  subst passes
  by_cases images : template.dockerImages = []
  · refine iff_of_true ?_ (.inr images)
    have refused : plan runtime site p templateId (p.current template) = .error .noImages := by
      simp [plan, published, images, pickDockerImage, throw, throwThe, MonadExceptOf.throw]
    simp [dispatch, refused, KeepsConfiguration, SetupError.blamesVariables]
  have planned := @plan_current runtime _ p _ _ published images
  simp only [images, or_false]
  split at planned
  next submittable =>
    refine iff_of_true ?_ submittable
    obtain ⟨made, planned⟩ := planned
    by_cases status : p.server.status ∈ admitted
    · simp only [dispatch, planned, require, status, if_true, ok_bind, pure, Except.pure]
      -- Whether the agent accepts or not, the values are stored and were sent.
      split
      · exact kept_install published planned
      · exact kept_install published planned
    · simp [dispatch, planned, require, status, KeepsConfiguration, SetupError.blamesVariables]
  next blamed =>
    refine iff_of_false ?_ blamed
    obtain ⟨e, failed, blames⟩ := planned
    simp [dispatch, failed, KeepsConfiguration, blames]

/--
Reinstalling keeps the configuration exactly if every stored value is one that the customer could
have submitted, or if the call ends before it looks at the variables.
-/
theorem reinstall_keeps_configuration_iff (installed : p.server.templateId = some templateId)
    (published : site.template templateId = some template)
    (permitted : site.can "startup.update") :
    KeepsConfiguration template p (reinstallCurrent runtime site p) ↔
      Submittable runtime template p ∨ ¬ ReachesVariables site template p := by
  simp only [reinstallCurrent, permitted, installed, published, Option.elim_some, ReachesVariables]
  split
  · -- A failed installation is tried again, for which reading is enough.
    cases readable : site.can "server.read" with
    | false =>
      simp [complete, dispatch, require, readable, KeepsConfiguration, SetupError.blamesVariables]
    | true =>
      rw [complete, dispatch_keeps_iff (fun row => { row with name := p.server.name }) published
        (by simp [require, readable])]
      simp
  · -- Otherwise the server must be ready, and the agent say that it is stopped.
    by_cases ready : p.server.status = .ready
    swap
    · simp [changeVersion, dispatch, require, permitted, ready, KeepsConfiguration,
        SetupError.blamesVariables]
    cases asked : site.runtimeState with
    | none =>
      simp [changeVersion, dispatch, require, permitted, ready, asked, KeepsConfiguration,
        SetupError.blamesVariables, throw, throwThe, MonadExceptOf.throw]
    | some state =>
      by_cases stopped : isStoppedState state
      · rw [changeVersion, dispatch_keeps_iff (fun row => { row with powerState := state }) published
          (by simp only [require, permitted, ready, asked, stopped, if_true, ok_bind]; rfl)]
        simp [ready, stopped]
      · simp [changeVersion, dispatch, require, permitted, ready, asked, stopped, KeepsConfiguration,
          SetupError.blamesVariables]

/-- A runtime that reads numbers without a sign and writes all of them alike. -/
def sampleRuntime : Runtime where
  number text := (Decimal.parseNat text.toList).elim .nan fun n => .finite n
  text _ := ""

/-- A preset: the version is chosen by the customer, and the memory set by the plan. -/
def sampleTemplate : Template where
  dockerImages := [("Java 21", "java_21")]
  softwareKind := "vanilla"
  startupCommand := "java"
  vars := ⟨[(1, { envVariable := "MINECRAFT_VERSION", defaultValue := "latest" }),
    (2, { envVariable := "SERVER_MEMORY", defaultValue := "1024", isUserEditable := false })], by decide⟩
  envs := by decide

/-- A template of the administrator's own that leaves the memory alone. -/
def samplePlainTemplate : Template where
  dockerImages := [("Java 21", "java_21")]
  softwareKind := none
  startupCommand := "java"
  vars := ⟨[(1, { envVariable := "MINECRAFT_VERSION", defaultValue := "latest" })], by decide⟩
  envs := by decide

def sampleSite (template : Template) (accepts : Bool) : Site where
  can _ := true
  template _ := some template
  runtimeState := some "offline"
  accepts

def sampleRequest (version : String) : Table String String := ⟨[("MINECRAFT_VERSION", version)], by simp⟩

/-- A server that its owner has set up with a version, once the agent is done with it. -/
def samplePanel (template : Template) : Panel :=
  let result := complete sampleRuntime (sampleSite template true)
    { server := ⟨"", .setupPending, none, none, none, "offline", 2048⟩, stored := fun _ => none } "lobby" 1
    (sampleRequest "1.20")
  { result.2 with server := { result.2.server with status := .ready } }

/-- Asking again for the version that is stored leaves no trace. -/
theorem sample_refused_change_leaves_no_trace :
    let p := samplePanel sampleTemplate
    let result := changeVersion sampleRuntime (sampleSite sampleTemplate false) p 1 (sampleRequest "1.20")
    result.1 = .agentFailed ∧ SameSetup p result.2 := by
  refine ⟨by decide +kernel,
    (refused_change_leaves_no_trace_iff (sampleRequest "1.20") rfl (by decide +kernel)).mpr ?_⟩
  exact ⟨by decide +kernel, by decide +kernel, by decide +kernel⟩

/-- The row is as it was, but the version that was asked for is stored. -/
theorem refused_change_leaves_variables :
    let p := samplePanel sampleTemplate
    let result := changeVersion sampleRuntime (sampleSite sampleTemplate false) p 1 (sampleRequest "1.21")
    result.1 = .agentFailed ∧ result.2.server = p.server ∧
      result.2.stored 1 = some "1.21" ∧ p.stored 1 = some "1.20" := by
  decide +kernel

theorem sample_reinstall_keeps_configuration :
    let p := samplePanel samplePlainTemplate
    let result := reinstallCurrent sampleRuntime (sampleSite samplePlainTemplate true) p
    result.1 = .done ∧ KeepsConfiguration samplePlainTemplate p result :=
  ⟨by decide +kernel,
    (@reinstall_keeps_configuration_iff _ _ _ 1 _ rfl rfl rfl).mpr (.inl (by decide +kernel))⟩

/-- The memory that the plan has set is stored, and may not be submitted. -/
theorem reinstall_refuses_own_variables :
    let p := samplePanel sampleTemplate
    (reinstallCurrent sampleRuntime (sampleSite sampleTemplate true) p).1 =
      .refused (.notConfigurable "SERVER_MEMORY") := by
  decide +kernel

end Laws

end PxHost.Setup

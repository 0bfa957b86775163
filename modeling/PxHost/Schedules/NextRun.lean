import PxHost.Lib.Interleaving

/-!
The runs of a schedule (`schedule-runner.service.ts`) and the updates of its definition
(`schedules.service.ts`), which both write its next run.
-/

namespace PxHost.Schedules

open Interleaving Machine

structure CronFields where
  (cronMinute cronHour cronDayOfMonth cronMonth cronDayOfWeek timezone : String)
  deriving DecidableEq

/-- The cron library: the next occurrence after a moment, unless the expression is refused. -/
structure Cron where
  Occurs : CronFields → Int → Prop
  computeNextRunAt : CronFields → Int → Option Int
  occurs : ∀ fields now next, computeNextRunAt fields now = some next → Occurs fields next

inductive TaskAction where
  | power | backup

structure TaskRow where
  action : TaskAction
  payload : String := ""
  timeOffsetSeconds : Nat := 0
  continueOnFailure : Bool := false

inductive RunStatus where
  | success | failed | skipped
  deriving DecidableEq

structure Schedule where
  name : String := ""
  fields : CronFields
  isActive : Bool := true
  onlyWhenOnline : Bool := false
  isProcessing : Bool := false
  lastRunAt : Option Int := none
  lastRunStatus : Option RunStatus := none
  nextRunAt : Int
  tasks : List TaskRow := []

structure UpdateScheduleDto where
  (name cronMinute cronHour cronDayOfMonth cronMonth cronDayOfWeek timezone : Option String)
  (isActive onlyWhenOnline : Option Bool)
  deriving Inhabited

def UpdateScheduleDto.merge (dto : UpdateScheduleDto) (read : CronFields) : CronFields where
  cronMinute := dto.cronMinute.getD read.cronMinute
  cronHour := dto.cronHour.getD read.cronHour
  cronDayOfMonth := dto.cronDayOfMonth.getD read.cronDayOfMonth
  cronMonth := dto.cronMonth.getD read.cronMonth
  cronDayOfWeek := dto.cronDayOfWeek.getD read.cronDayOfWeek
  timezone := dto.timezone.getD read.timezone

inductive Failure where
  /-- A statement or a request to another service does not go through, or is refused. -/
  | failed
  | invalidSchedule

/-- A write computes the next run from the fields it is given, right before the statement. -/
inductive Call where
  | findSchedule
  | sleep (seconds : Nat)
  | runTask (task : TaskRow)
  | finish (read : CronFields) (status : RunStatus)
  | update (dto : UpdateScheduleDto) (fields : CronFields)

@[reducible] def Call.Result : Call → Type
  | .findSchedule => Schedule × Bool
  | _ => Unit

@[reducible] def Call.Answer (call : Call) : Type := Except Failure call.Result

abbrev Routine := ExceptT Failure (Program Call.Answer)

def ask (call : Call) : Routine call.Result := ExceptT.mk (Program.perform call)

/-- The loop over the tasks of a run. -/
def runTasks : List TaskRow → RunStatus → Routine RunStatus
  | [], status => pure status
  | task :: rest, status => do
    if task.timeOffsetSeconds > 0 then ask (.sleep task.timeOffsetSeconds)
    let succeeded ← try (do ask (.runTask task); pure true) catch _ => pure false
    if succeeded then runTasks rest status
    else if task.continueOnFailure then runTasks rest .failed
    else pure .failed

def run : Routine Unit := do
  let (schedule, nodeOffline) ← ask .findSchedule
  if !schedule.isActive then ask (.finish schedule.fields .skipped)
  else if schedule.onlyWhenOnline && nodeOffline then ask (.finish schedule.fields .skipped)
  else
    let status ← runTasks schedule.tasks .success
    ask (.finish schedule.fields status)

def update (dto : UpdateScheduleDto) : Routine Unit := do
  let (schedule, _) ← ask .findSchedule
  ask (.update dto (dto.merge schedule.fields))

/-- A run of the schedule, or a request to change it. -/
inductive Job where
  | run
  | update (dto : UpdateScheduleDto)

def code : Job → Program Call.Answer Unit
  | .run => do let _ ← run.run
  | .update dto => do let _ ← (update dto).run

/-- The moment of a call, what it is answered from elsewhere, and whether it is lost. -/
structure Choice where
  now : Int
  nodeOffline : Bool := false
  refused : Bool := false
  fault : Option (Fault Failure) := none

def perform (cron : Cron) (row : Schedule) (choice : Choice) : (call : Call) → call.Answer × Schedule
  | .findSchedule => (.ok (row, choice.nodeOffline), row)
  | .sleep _ => (.ok (), row)
  | .runTask _ => (if choice.refused then .error .failed else .ok (), row)
  | .finish read status =>
    match cron.computeNextRunAt read choice.now with
    | none => (.error .invalidSchedule, row)
    | some nextRunAt =>
      (.ok (), { row with
        isProcessing := false, lastRunAt := some choice.now, lastRunStatus := some status, nextRunAt })
  | .update dto fields =>
    match cron.computeNextRunAt fields choice.now with
    | none => (.error .invalidSchedule, row)
    | some nextRunAt =>
      (.ok (), { row with
        name := dto.name.getD row.name
        fields, nextRunAt
        isActive := dto.isActive.getD row.isActive
        onlyWhenOnline := dto.onlyWhenOnline.getD row.onlyWhenOnline })

def answer? (cron : Cron) (_ : Nat) (call : Call) (choice : Choice) (row : Schedule) :
    Option (call.Answer × Schedule) :=
  some (Fault.befall row (perform cron row choice call) choice.fault)

abbrev step (cron : Cron) :
    Pool Schedule Job Call.Answer → Move Job Choice → Pool Schedule Job Call.Answer :=
  Pool.step code (answer? cron)

/-- The definition is still the one that a run has read when it finishes. -/
def unchanged (row : Schedule) (_ : Job) (call : Call) (_ : Choice) : Bool :=
  match call with
  | .finish read _ => read = row.fields
  | _ => true

/--
As long as no definition changes under a run, the next run is an occurrence of the fields that are
stored, whatever updates and runs there are and wherever they fail.
-/
theorem next_run_follows_definition (cron : Cron) (schedule : Schedule) (moves : List (Move Job Choice))
    (planned : cron.Occurs schedule.fields schedule.nextRunAt)
    (ok : Guarded (step cron) (fun pool move => pool.allows unchanged move) ⟨schedule, []⟩ moves) :
    let row := (Machine.run (step cron) ⟨schedule, []⟩ moves).shared
    cron.Occurs row.fields row.nextRunAt := by
  refine Pool.shared_run (fun row => cron.Occurs row.fields row.nextRunAt) ?_ planned ok
  intro row thread job call choice answer row' occurs ok answers
  -- Both writes compute from the fields they leave stored; for a run that is the condition.
  have outcome : cron.Occurs (perform cron row choice call).2.fields
      (perform cron row choice call).2.nextRunAt := by
    cases call with
    | finish read status =>
      obtain rfl : read = row.fields := by simpa [unchanged] using ok
      simp only [perform]
      split
      · exact occurs
      · next computed => exact cron.occurs _ _ _ computed
    | update dto fields =>
      simp only [perform]
      split
      · exact occurs
      · next computed => exact cron.occurs _ _ _ computed
    | _ => exact occurs
  rcases Fault.befall_cases (Option.some.inj answers) with ⟨rfl, -⟩ | ⟨rfl, -⟩
  · exact occurs
  · exact outcome

def sampleHour (fields : CronFields) : Int := if fields.cronHour = "4" then 4 else 5

/-- Once a day, at one of two hours. -/
def sampleCron : Cron where
  Occurs fields time := time % 86400 = 3600 * sampleHour fields
  computeNextRunAt fields now := some ((now / 86400 + 1) * 86400 + 3600 * sampleHour fields)
  occurs := by
    intro fields now next computed
    cases computed
    dsimp only [sampleHour]
    split <;> omega

instance (fields : CronFields) (time : Int) : Decidable (sampleCron.Occurs fields time) :=
  inferInstanceAs (Decidable (_ = _))

def sampleSchedule : Schedule :=
  { fields := ⟨"0", "4", "*", "*", "*", "America/Sao_Paulo"⟩, nextRunAt := 14400 }

/-- A run in the night, and an update of the hour that begins with the given number of its calls done. -/
def sampleMoves (before after : Nat) : List (Move Job Choice) :=
  let dto := { (default : UpdateScheduleDto) with cronHour := some "5" }
  [.start .run] ++ List.replicate before (.turn 0 { now := 14400 }) ++ [.start (.update dto)] ++
    List.replicate 2 (.turn 1 { now := 14401 }) ++ List.replicate after (.turn 0 { now := 14402 })

theorem sample_next_run_follows_definition :
    let row := (Machine.run (step sampleCron) ⟨sampleSchedule, []⟩ (sampleMoves 2 0)).shared
    sampleCron.Occurs row.fields row.nextRunAt :=
  next_run_follows_definition sampleCron sampleSchedule (sampleMoves 2 0) (by decide +kernel)
    (by decide +kernel)

/-- A run that finishes after the update plans the next one for the old hour. -/
theorem next_run_misses_update :
    let pool := Machine.run (step sampleCron) ⟨sampleSchedule, []⟩ (sampleMoves 1 1)
    let row := pool.shared
    pool.threads.all (·.2.isDone) ∧ row.fields.cronHour = "5" ∧ row.nextRunAt = 100800 ∧
      row.lastRunStatus = some .success ∧ ¬ sampleCron.Occurs row.fields row.nextRunAt := by
  decide +kernel

end PxHost.Schedules

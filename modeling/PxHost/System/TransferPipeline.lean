import PxHost.System.NodeCapacity

/-! The worker that carries a transfer out, and what becomes of a transfer that has ended. -/

namespace PxHost

open Machine

/-- What an execution of the transfer worker is about to do. -/
inductive PipelineNext where
  | gather
  | setStatus (stage : PipelineStage)
  | exportArchive
  | importArchive
  | fail (message : String)
deriving DecidableEq

/-- An execution of the transfer worker, with the row it started from. -/
structure PipelineJob where
  id : TransferId
  transfer : ServerTransfer
  next : PipelineNext
deriving DecidableEq

/-- The rows the worker loads before it starts, or the first that is missing. -/
def gatherTransfer (db : Db) (transfer : ServerTransfer) : Except String Unit :=
  if (db.server? transfer.serverId).isNone then .error "No Server found"
  else if (db.nodes.get? transfer.sourceNodeId).isNone then .error "No Node found"
  else if (db.nodes.get? transfer.targetNodeId).isNone then .error "No Node found"
  else match transfer.targetAllocationId with
    | none => .error "transfer has no target allocation"
    | some allocation =>
      if (db.allocations.get? allocation).isNone then .error "No Allocation found" else .ok ()

/-- The database and the executions of the transfer worker. -/
structure Pipelines where
  db : Db
  jobs : List PipelineJob := []

inductive PipelineOp where
  /-- The queue hands a transfer to the worker. -/
  | start (id : TransferId)
  /-- What an execution waits for goes through, or is refused by the database. -/
  | proceed (job : PipelineJob) (now : Time)
  /-- A call to an agent fails. -/
  | interrupt (job : PipelineJob) (message : String)
  /-- The worker dies. -/
  | crash (job : PipelineJob)
  /-- Any other transaction, the report of an agent among them. -/
  | call (tx : Tx)

def pipelineIssues (w : Pipelines) : PipelineOp → Option Tx
  | .proceed job now =>
    if job ∈ w.jobs then
      match job.next with
      | .setStatus stage => some (.setTransferStatus job.id stage
          (if stage = .archiving then some now else none))
      | .fail message => some (.failTransfer now job.id message)
      | .gather | .exportArchive | .importArchive => none
    else none
  | .call tx => some tx
  | .start _ | .interrupt .. | .crash _ => none

def PipelineStage.next : PipelineStage → Option PipelineNext
  | .archiving => some .exportArchive
  | .uploading => some .importArchive
  | .restoring => none

/-- What an execution does next once what it waited for is over; nothing when it has ended. -/
def PipelineJob.proceed (db : Db) (now : Time) (job : PipelineJob) : Option PipelineNext :=
  match job.next with
  | .gather =>
    match gatherTransfer db job.transfer with
    | .ok () => some (.setStatus .archiving)
    | .error message => some (.fail message)
  | .setStatus stage =>
    match setTransferStatus db job.id stage.status
        (if stage = .archiving then some now else none) with
    | .ok _ => stage.next
    | .error refusal => some (.fail refusal.message)
  | .exportArchive => some (.setStatus .uploading)
  | .importArchive => some (.setStatus .restoring)
  -- Whether giving up goes through or not, the execution ends with it.
  | .fail _ => none

def Pipelines.advance (w : Pipelines) (job : PipelineJob) (next : Option PipelineNext) :
    List PipelineJob :=
  if job ∈ w.jobs then w.jobs.erase job ++ (next.map fun next => { job with next }).toList
  else w.jobs

def pipelineJobs (w : Pipelines) : PipelineOp → List PipelineJob
  | .start id =>
    match w.db.transfers.get? id with
    | none => w.jobs
    | some transfer => w.jobs ++ [⟨id, transfer, .gather⟩]
  | .proceed job now => w.advance job (job.proceed w.db now)
  | .interrupt job message =>
    match job.next with
    | .exportArchive | .importArchive => w.advance job (some (.fail message))
    | .gather | .setStatus _ | .fail _ => w.jobs
  | .crash job => w.jobs.erase job
  | .call _ => w.jobs

def pipelineStep (w : Pipelines) (op : PipelineOp) : Pipelines where
  db := match pipelineIssues w op with
    | none => w.db
    | some tx => commit w.db tx
  jobs := pipelineJobs w op

def Tx.transfer? : Tx → Option TransferId
  | .setTransferStatus id .. | .failTransfer _ id _ | .handleResult _ _ id .. => some id
  | _ => none

/-- A status write, a failure or a report comes while its transfer is still under way. -/
def Tx.isTimely (db : Db) : Tx → Bool
  | .setTransferStatus id .. | .failTransfer _ id _ =>
    (db.transfers.get? id).all (·.status.isActive)
  -- Only the target node is listened to.
  | .handleResult _ node id .. =>
    (db.transfers.get? id).all fun t => t.targetNodeId != node || t.status.isActive
  | _ => true

variable {db after : Db} {tx : Tx} {id : TransferId} {t : ServerTransfer}

theorem Tx.isTimely.staged {stage : PipelineStage} {startedAt : Option Time}
    (timely : (Tx.setTransferStatus id stage startedAt).isTimely db)
    (found : db.placement.transfer id = some t) : t.status.isActive := by
  have stored : db.transfers.get? id = some t := found
  simpa [Tx.isTimely, stored] using timely

theorem Tx.isTimely.arrived {now : Time} {error : Option String}
    (timely : (Tx.handleResult now t.targetNodeId id true error).isTimely db)
    (found : db.placement.transfer id = some t) : t.status.isActive := by
  have stored : db.transfers.get? id = some t := found
  simpa [Tx.isTimely, stored] using timely

theorem Tx.isTimely.givenUp (timely : tx.isTimely db) (called : tx.GivesUp id t)
    (found : db.placement.transfer id = some t) : t.status.isActive := by
  have stored : db.transfers.get? id = some t := found
  cases called <;> simpa [Tx.isTimely, stored] using timely

/-- Where every call is timely, a transfer that has ended keeps its row, as its server is kept. -/
theorem PlacementMove.ended_transfer {placement : Placement} (move : PlacementMove db tx placement)
    (stored : db.transfers.get? id = some t) (ended : t.status.isActive = false)
    (timely : tx.isTimely db) (spares : tx.removes ≠ some t.serverId) :
    placement.transfer id = some t := by
  have before : db.placement.transfer id = some t := stored
  -- A timely call on a transfer finds it active, so it is not this one.
  have other {transfer : TransferId} {row : ServerTransfer}
      (found : db.placement.transfer transfer = some row) (active : row.status.isActive) :
      id ≠ transfer := by
    rintro rfl
    obtain rfl : row = t := Option.mem_unique found before
    simp [ended] at active
  cases move with
  | kept => exact before
  | created => exact before
  | removed =>
    have survives : t.serverId ≠ _ := fun same => spares (by rw [same]; rfl)
    simp [Placement.forgotten, before, survives]
  | @departed _ _ _ _ _ transfer _ _ _ _ unused =>
    have distinct : id ≠ transfer := by
      rintro rfl
      simp [before] at unused
    simp [Placement.assigned, Placement.tracked, distinct, before]
  | staged found =>
    have distinct := other found (Tx.isTimely.staged timely found)
    simp [Placement.tracked, distinct, before]
  | givenUp called found =>
    have distinct := other found (Tx.isTimely.givenUp timely called found)
    simp [Placement.tracked, Placement.released, distinct, before]
  | arrived found | arrivedPortless found =>
    have distinct := other found (Tx.isTimely.arrived timely found)
    simp [Placement.tracked, Placement.settled, Placement.assigned, Placement.evacuated,
      Placement.vacated, distinct, before]

theorem commit_ended_transfer (stored : db.transfers.get? id = some t)
    (ended : t.status.isActive = false) (timely : tx.isTimely db)
    (spares : tx.removes ≠ some t.serverId) : (commit db tx).transfers.get? id = some t :=
  commit_preserves (P := fun after => after.transfers.get? id = some t) stored
    fun _ executed => (exec_placement executed).ended_transfer stored ended timely spares

theorem commit_of_ended (stored : db.transfers.get? id = some t)
    (ended : t.status.isActive = false) (timely : tx.isTimely db)
    (about : tx.transfer? = some id) : commit db tx = db := by
  cases tx with
  | setTransferStatus | failTransfer =>
    cases about
    simp [Tx.isTimely, stored, ended] at timely
  | handleResult now node transfer successful error =>
    cases about
    have elsewhere : t.targetNodeId ≠ node := by simpa [Tx.isTimely, stored, ended] using timely
    simp [commit, exec, handleResult, stored, elsewhere]
  | _ => cases about

def StepTimely (w : Pipelines) (op : PipelineOp) : Prop :=
  ∀ tx ∈ pipelineIssues w op, tx.isTimely w.db

instance (w : Pipelines) (op : PipelineOp) : Decidable (StepTimely w op) :=
  inferInstanceAs (Decidable (∀ tx ∈ pipelineIssues w op, tx.isTimely w.db))

def PipelineOp.removes (server : ServerId) : PipelineOp → Prop
  | .call tx => tx.removes = some server
  | _ => False

theorem pipelineStep_ended {w : Pipelines} {op : PipelineOp}
    (stored : w.db.transfers.get? id = some t) (ended : t.status.isActive = false)
    (timely : StepTimely w op) (spares : ¬ op.removes t.serverId) :
    (pipelineStep w op).db.transfers.get? id = some t := by
  unfold pipelineStep
  dsimp only
  split
  · exact stored
  · rename_i tx issues
    refine commit_ended_transfer stored ended (timely tx issues) ?_
    cases op with
    | call =>
      cases issues
      exact spares
    | proceed job =>
      -- The worker itself deletes nothing.
      simp only [pipelineIssues] at issues
      split at issues
      · split at issues <;> cases issues <;> simp [Tx.removes]
      · cases issues
    | _ => cases issues

theorem run_ended {w : Pipelines} {ops : List PipelineOp}
    (stored : w.db.transfers.get? id = some t) (ended : t.status.isActive = false)
    (spared : ∀ op ∈ ops, ¬ op.removes t.serverId)
    (timely : Guarded pipelineStep StepTimely w ops) :
    (run pipelineStep w ops).db.transfers.get? id = some t := by
  induction ops generalizing w with
  | nil => exact stored
  | cons op rest ih =>
    have kept := pipelineStep_ended stored ended timely.1 (spared op (by simp))
    exact ih kept (fun later member => spared later (by simp [member])) timely.2

/--
A transfer that has ended keeps its row as long as its server is there, and no later call about it
changes anything, in every run in which status writes, failures and reports come while their
transfer is still under way.
-/
theorem ended_transfer_is_final (w : Pipelines) (ops : List PipelineOp) (id : TransferId)
    (t : ServerTransfer) (stored : w.db.transfers.get? id = some t)
    (ended : t.status.isActive = false) (spared : ∀ op ∈ ops, ¬ op.removes t.serverId)
    (timely : Guarded pipelineStep StepTimely w ops) :
    (run pipelineStep w ops).db.transfers.get? id = some t ∧
      ∀ pre op post tx, ops = pre ++ op :: post →
        pipelineIssues (run pipelineStep w pre) op = some tx → tx.transfer? = some id →
        (pipelineStep (run pipelineStep w pre) op).db = (run pipelineStep w pre).db := by
  refine ⟨run_ended stored ended spared timely, ?_⟩
  rintro pre op post tx rfl issues about
  obtain ⟨timelyPre, timelyOp, -⟩ := guarded_append.mp timely
  have kept := run_ended stored ended (fun earlier member => spared earlier (by simp [member]))
    timelyPre
  have refused := commit_of_ended kept ended (timelyOp tx issues) about
  simp [pipelineStep, issues, refused]

/-- The worker's execution for the transfer of the sample server. -/
def sampleJob (next : PipelineNext) : PipelineJob where
  id := 1
  transfer := ((run commit samplePanel sampleTransfer).transfers.get? 1).get (by decide +kernel)
  next := next

def sampleShipped : Pipelines :=
  run pipelineStep ⟨run commit samplePanel sampleTransfer, []⟩ [
    .start 1, .proceed (sampleJob .gather) 11, .proceed (sampleJob (.setStatus .archiving)) 12,
    .proceed (sampleJob .exportArchive) 13, .proceed (sampleJob (.setStatus .uploading)) 14]

/-- The target node reports in before or after the worker is done. -/
def sampleReport : PipelineOp := .call (.handleResult 16 2 1 true none)

/-- Reported after the worker's last write, the transfer stays as it ended. -/
theorem sample_ended_transfer_is_final :
    let w := run pipelineStep sampleShipped [.proceed (sampleJob .importArchive) 15,
      .proceed (sampleJob (.setStatus .restoring)) 16, sampleReport]
    (run pipelineStep w [.call (.handleResult 20 1 1 true none),
        .call (.suspend 21 1 "abuse" .admin)]).db.transfers.get? 1 =
      some ((w.db.transfers.get? 1).get (by decide +kernel)) := by
  intro w
  exact (ended_transfer_is_final w [.call (.handleResult 20 1 1 true none),
    .call (.suspend 21 1 "abuse" .admin)] 1 _ (Option.some_get _).symm (by decide +kernel)
    (by simp [PipelineOp.removes, Tx.removes]) (by decide +kernel)).1

/--
Reported before the worker's last write, a transfer that has succeeded is `restoring` again. When
the worker takes the archive's arrival for a failure instead, the moved server loses its port.
-/
theorem ended_transfer_is_revived :
    let ended := (pipelineStep sampleShipped sampleReport).db
    let revived := (run pipelineStep sampleShipped [sampleReport,
      .proceed (sampleJob .importArchive) 17, .proceed (sampleJob (.setStatus .restoring)) 18]).db
    let failed := (run pipelineStep sampleShipped [sampleReport,
      .interrupt (sampleJob .importArchive) "timeout", .proceed (sampleJob (.fail "timeout")) 18]).db
    (ended.transfers.get? 1).map (·.status) = some .success ∧
    (ended.server? 1).map (·.nodeId) = some 2 ∧
    (ended.allocations.get? 2).map (·.val.serverId) = some (some 1) ∧
    (revived.transfers.get? 1).map (·.status) = some .restoring ∧
    (failed.transfers.get? 1).map (·.status) = some .failed ∧
    (failed.server? 1).map (·.nodeId) = some 2 ∧
    (failed.allocations.get? 2).map (·.val.serverId) = some none := by
  decide +kernel

end PxHost

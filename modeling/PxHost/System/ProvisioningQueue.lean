import Mathlib.Logic.Function.Basic
import PxHost.System.Settlement

/-! The queue of provisioning jobs, and what an administrator's retry adds to it. -/

namespace PxHost.ProvisioningQueue

open Machine

inductive JobState where
  | waiting | active | delayed | completed | failed
deriving DecidableEq

structure Job where
  state : JobState
  attemptsMade : Nat
deriving DecidableEq

/-- How often the queue tries a job before it gives it up. -/
def attempts : Nat := 5

/-- Jobs are kept when they are through, so the id of a job is never free again. -/
structure State where
  db : Db
  jobs : OrderId → Option Job := fun _ => none

/-- The job will be run without anybody asking, at once or when its backoff has passed. -/
def Job.waits (job : Job) : Bool := job.state == .waiting || job.state == .delayed

def Job.start (job : Job) : Job := if job.waits then { job with state := .active } else job

/-- The attempt ends; after one that threw the job backs off, as long as it has attempts left. -/
def Job.finish (threw : Bool) (job : Job) : Job :=
  if job.state ≠ .active then job
  else if threw then
    ⟨if job.attemptsMade + 1 < attempts then .delayed else .failed, job.attemptsMade + 1⟩
  else ⟨.completed, job.attemptsMade + 1⟩

/-- The id of a job is made from the order alone. -/
def State.change (s : State) (orderId : OrderId) (f : Option Job → Option Job) : State :=
  { s with jobs := Function.update s.jobs orderId (f (s.jobs orderId)) }

/-- A job is added unless its id exists already, in whatever state. -/
def State.enqueue (s : State) (orderId : OrderId) : State :=
  s.change orderId (·.or (some ⟨.waiting, 0⟩))

inductive Event where
  | transact (tx : Tx)
  | enqueue (orderId : OrderId)
  | start (orderId : OrderId)
  | finish (orderId : OrderId) (threw : Bool)
  | retryProvisioning (orderId : OrderId)

/-- What an attempt writes is committed between its start and its finish. -/
def step (s : State) : Event → State
  | .transact tx => { s with db := commit s.db tx }
  | .enqueue orderId => s.enqueue orderId
  | .start orderId => s.change orderId (·.map .start)
  | .finish orderId threw => s.change orderId (·.map (.finish threw))
  | .retryProvisioning orderId =>
    match retryProvisioningAsAdmin s.db orderId with
    | .ok _ => s.enqueue orderId
    | .error _ => s

/-- A job fails for good with its last attempt, and is not run after it. -/
def Job.Counted (job : Job) : Prop :=
  (job.state = .failed → job.attemptsMade = attempts) ∧
    (job.waits ∨ job.state = .active → job.attemptsMade < attempts)

theorem Job.Counted.start {job : Job} (counted : job.Counted) : job.start.Counted := by
  unfold Job.start
  split
  · rename_i waits
    exact ⟨nofun, fun _ => counted.2 (.inl waits)⟩
  · exact counted

theorem Job.Counted.finish {job : Job} (threw : Bool) (counted : job.Counted) :
    (job.finish threw).Counted := by
  unfold Job.finish
  split
  · exact counted
  rename_i active
  have left : job.attemptsMade < attempts := counted.2 (.inr (not_not.mp active))
  cases threw with
  | false => exact ⟨nofun, by simp [Job.waits]⟩
  | true =>
    rw [if_pos rfl]
    split
    · rename_i more
      exact ⟨nofun, fun _ => more⟩
    · rename_i last
      exact ⟨fun _ => (le_antisymm left (not_lt.mp last)), by simp [Job.waits]⟩

def Sound (s : State) : Prop := ∀ orderId, ∀ job ∈ s.jobs orderId, job.Counted

theorem Sound.change {s : State} (sound : Sound s) (orderId : OrderId)
    {f : Option Job → Option Job}
    (keeps : ∀ before : Option Job, (∀ job ∈ before, job.Counted) → ∀ job ∈ f before, job.Counted) :
    Sound (s.change orderId f) :=
  (Function.forall_update_iff s.jobs fun _ found => ∀ job ∈ found, job.Counted).mpr
    ⟨keeps _ (sound orderId), fun other _ => sound other⟩

theorem Sound.advance {s : State} (sound : Sound s) (orderId : OrderId) {f : Job → Job}
    (keeps : ∀ {job : Job}, job.Counted → (f job).Counted) :
    Sound (s.change orderId (·.map f)) := by
  refine sound.change orderId fun before counted job moved => ?_
  obtain ⟨job, stored, rfl⟩ := Option.map_eq_some_iff.mp moved
  exact keeps (counted job stored)

theorem Sound.enqueue {s : State} (sound : Sound s) (orderId : OrderId) :
    Sound (s.enqueue orderId) := by
  refine sound.change orderId fun before counted job queued => ?_
  cases before with
  | some _ => exact counted job queued
  | none =>
    obtain rfl := Option.some.inj queued
    exact ⟨nofun, fun _ => by decide⟩

theorem Sound.step {s : State} (sound : Sound s) (event : Event) : Sound (step s event) := by
  cases event with
  | transact _ => exact sound
  | enqueue orderId => exact sound.enqueue orderId
  | start orderId => exact sound.advance orderId Job.Counted.start
  | finish orderId threw => exact sound.advance orderId (Job.Counted.finish threw)
  | retryProvisioning orderId =>
    unfold ProvisioningQueue.step
    dsimp only
    split
    · exact sound.enqueue orderId
    · exact sound

/--
After an administrator's retry a job of the order waits exactly when the job from before, if there
is one, has attempts left and none of them is under way; the retry itself never adds a second one.
-/
theorem retried_order_waits_iff (db : Db) (events : List Event) (orderId : OrderId)
    (accepted : (retryProvisioningAsAdmin (run step { db } events).db orderId).isOk) :
    (((step (run step { db } events) (.retryProvisioning orderId)).jobs orderId).any Job.waits ↔
      ∀ job ∈ (run step { db } events).jobs orderId, job.attemptsMade < attempts ∧
        job.state ≠ .active ∧ job.state ≠ .completed) ∧
    ((run step { db } events).jobs orderId ≠ none →
      (step (run step { db } events) (.retryProvisioning orderId)).jobs orderId =
        (run step { db } events).jobs orderId) := by
  have sound : Sound (run step { db } events) :=
    invariant_always Sound (fun _ event before => before.step event) (by simp [Sound]) events
  generalize run step { db } events = s at sound accepted
  have retried : step s (.retryProvisioning orderId) = s.enqueue orderId := by
    unfold step
    dsimp only
    split
    · rfl
    · rename_i refused
      rw [refused] at accepted
      cases accepted
  have queued : (s.enqueue orderId).jobs orderId = (s.jobs orderId).or (some ⟨.waiting, 0⟩) :=
    Function.update_self ..
  rw [retried, queued]
  cases found : s.jobs orderId with
  | none => simp [Job.waits]
  | some job =>
    have counted := sound orderId job found
    simp only [Option.some_or, Option.any_some, Option.mem_some_iff, forall_eq', and_true,
      implies_true]
    constructor
    · intro waits
      exact ⟨counted.2 (.inl waits), by rintro active; simp [Job.waits, active] at waits,
        by rintro completed; simp [Job.waits, completed] at waits⟩
    · rintro ⟨left, idle, open_⟩
      cases state : job.state with
      | waiting | delayed => simp [Job.waits, state]
      | active => exact absurd state idle
      | completed => exact absurd state open_
      | failed => exact absurd (counted.1 state) left.ne

def sampleSold : Db := (run PxHost.step sampleShop (sampleCheckout ++ samplePaid 1000)).db

def sampleAttempt : List Event := [
  .start 10, .transact (.markProvisioningRunning 10),
  .transact (.failProvisioning 10 "no node has room"), .finish 10 true]

/-- The job got lost, and with it all that is known of the attempt that failed. -/
def sampleLost : List Event := [
  .transact (.markProvisioningRunning 10), .transact (.failProvisioning 10 "no node has room")]

/-- Where the queue has no job of the order, the retry adds a new one. -/
theorem sample_retried_order_waits :
    (run step { db := sampleSold } sampleLost).jobs 10 = none ∧
    ((step (run step { db := sampleSold } sampleLost) (.retryProvisioning 10)).jobs 10).any
      Job.waits :=
  ⟨by decide, (retried_order_waits_iff sampleSold sampleLost 10 (by decide)).1.mpr (by decide)⟩

/-- After the fifth the retry is accepted, and nothing will run. -/
theorem retried_order_is_never_run :
    (retryProvisioningAsAdmin (run step { db := sampleSold }
      (.enqueue 10 :: (List.replicate 5 sampleAttempt).flatten)).db 10).isOk ∧
    (step (run step { db := sampleSold } (.enqueue 10 :: (List.replicate 5 sampleAttempt).flatten))
      (.retryProvisioning 10)).jobs 10 = some ⟨.failed, 5⟩ := by
  decide

end PxHost.ProvisioningQueue

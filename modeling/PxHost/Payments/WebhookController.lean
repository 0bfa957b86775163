import PxHost.Lib.Run
import PxHost.Schema.Database

/-! The endpoint that takes notifications in: a row to recognise them by, then a job. -/

namespace PxHost

open Store Machine

inductive WebhookResource where
  | payment | authorizedPayment | preapproval
deriving DecidableEq, Repr

/-- A notification whose signature has been verified. -/
structure ParsedWebhook where
  notificationId : NotificationId
  rawEvent : String
  resourceKind : Option WebhookResource := none
  resourceId : Option String := none
deriving DecidableEq

/-- The queue refuses colons in the name of a job. -/
def webhookJobId (parsed : ParsedWebhook) : String :=
  s!"webhook-mercadopago-{parsed.notificationId}".map fun c => if c = ':' then '-' else c

/-- The events table, the queue, and the requests in between. -/
structure Intake where
  db : Db := {}
  /-- Requests whose row is committed and whose job has still to be added. -/
  inserted : List ParsedWebhook := []
  /-- The jobs by name; a name that is taken adds nothing. -/
  queue : Table String ParsedWebhook := .empty
  /-- The notifications of requests that ended between the row and the job. -/
  unqueued : List NotificationId := []
  /-- The notifications answered with success. -/
  acknowledged : List NotificationId := []

/-- The two points at which a request waits for another system, which may fail it. -/
inductive IntakeOp where
  | insertEvent (request : Except ApiError ParsedWebhook) (fails : Bool)
  | enqueue (parsed : ParsedWebhook) (fails : Bool)

/-- The name of a job is taken up at most once. -/
def addJob (queue : Table String ParsedWebhook) (parsed : ParsedWebhook) :
    Table String ParsedWebhook :=
  queue.upsert (webhookJobId parsed) parsed id

def receive (w : Intake) : IntakeOp → Intake
  -- Without a valid signature nothing is recorded.
  | .insertEvent (.error _) _ => w
  | .insertEvent (.ok parsed) fails =>
    if fails then w
    else match w.db.webhookEvents.insert? parsed.notificationId {} with
      | none => { w with acknowledged := w.acknowledged ++ [parsed.notificationId] }
      | some events =>
        { w with
          db := { w.db with webhookEvents := events }
          inserted := w.inserted ++ [parsed] }
  | .enqueue parsed fails =>
    if parsed ∉ w.inserted then w
    else if fails then
      { w with
        inserted := w.inserted.erase parsed
        unqueued := w.unqueued ++ [parsed.notificationId] }
    else
      { w with
        inserted := w.inserted.erase parsed
        queue := addJob w.queue parsed
        acknowledged := w.acknowledged ++ [parsed.notificationId] }

def Intake.Queued (w : Intake) (id : NotificationId) : Prop :=
  ∃ name parsed, w.queue.get? name = some parsed ∧ parsed.notificationId = id

/--
A notification that has a row is not delivered again before its job has been added, nor after the
request that should have added it has ended; and no other notification has taken the job's name.
-/
def IntakeInOrder (w : Intake) : IntakeOp → Bool
  | .insertEvent (.ok parsed) false =>
    (w.db.webhookEvents.get? parsed.notificationId).isNone ||
      (w.inserted.all (·.notificationId != parsed.notificationId)
        && !w.unqueued.contains parsed.notificationId)
  | .enqueue parsed false =>
    (w.queue.get? (webhookJobId parsed)).all (·.notificationId == parsed.notificationId)
  | _ => true

/-- Every notification with a row is in the queue, on its way there, or was dropped. -/
structure Intake.Accounted (w : Intake) : Prop where
  recorded : ∀ {id event}, w.db.webhookEvents.get? id = some event →
    w.Queued id ∨ (∃ parsed ∈ w.inserted, parsed.notificationId = id) ∨ id ∈ w.unqueued
  acknowledged : ∀ id ∈ w.acknowledged, w.Queued id

variable {queue : Table String ParsedWebhook} {parsed : ParsedWebhook}

theorem addJob_keeps {name : String} {job : ParsedWebhook} (stored : queue.get? name = some job) :
    (addJob queue parsed).get? name = some job := by
  unfold addJob
  by_cases same : name = webhookJobId parsed
  · subst same
    simp [stored]
  · simp [same, stored]

theorem addJob_queues
    (free : (queue.get? (webhookJobId parsed)).all (·.notificationId == parsed.notificationId)) :
    ∃ job, (addJob queue parsed).get? (webhookJobId parsed) = some job ∧
      job.notificationId = parsed.notificationId := by
  cases taken : queue.get? (webhookJobId parsed) with
  | none => exact ⟨parsed, by simp [addJob, taken], rfl⟩
  | some job => exact ⟨job, addJob_keeps taken, by simpa [taken] using free⟩

variable {w : Intake}

/-- The row of a notification is committed before its job, or recognises a redelivery. -/
theorem insertEvent_accounted (before : w.Accounted)
    (ordered : IntakeInOrder w (.insertEvent (.ok parsed) false)) :
    (receive w (.insertEvent (.ok parsed) false)).Accounted := by
  simp only [receive, Bool.false_eq_true, if_false]
  split
  · -- The row was there: its notification is neither on its way nor dropped, so it is queued.
    rename_i refused
    have taken : w.db.webhookEvents.get? parsed.notificationId ≠ none := by
      intro fresh
      simp [Table.insert?, fresh] at refused
    obtain ⟨event, stored⟩ := Option.ne_none_iff_exists'.mp taken
    simp only [IntakeInOrder, stored, Option.isNone_some, Bool.false_or, Bool.and_eq_true,
      List.all_eq_true, bne_iff_ne, ne_eq, Bool.not_eq_true', List.contains_eq_mem,
      decide_eq_false_iff_not] at ordered
    have queued : w.Queued parsed.notificationId := by
      rcases before.recorded stored with queued | ⟨other, waiting, same⟩ | dropped
      · exact queued
      · exact absurd same (ordered.1 other waiting)
      · exact absurd dropped ordered.2
    refine ⟨before.recorded, ?_⟩
    intro id answered
    rcases List.mem_append.mp answered with earlier | now
    · exact before.acknowledged id earlier
    · obtain rfl : id = parsed.notificationId := by simpa using now
      exact queued
  · rename_i events inserted
    refine ⟨?_, before.acknowledged⟩
    intro id event stored
    rw [Table.get?_insert? inserted] at stored
    split at stored
    · rename_i same
      exact .inr (.inl ⟨parsed, by simp, same.symm⟩)
    · rcases before.recorded stored with queued | ⟨other, waiting, same⟩ | dropped
      · exact .inl queued
      · exact .inr (.inl ⟨other, by simp [waiting], same⟩)
      · exact .inr (.inr dropped)

/-- A notification is queued, or dropped when the queue fails. -/
theorem enqueue_accounted {fails : Bool} (before : w.Accounted)
    (ordered : IntakeInOrder w (.enqueue parsed fails)) :
    (receive w (.enqueue parsed fails)).Accounted := by
  simp only [receive]
  split
  · exact before
  cases fails with
  | true =>
    simp only [if_true]
    refine ⟨?_, before.acknowledged⟩
    intro id event stored
    rcases before.recorded stored with queued | ⟨other, waiting, same⟩ | dropped
    · exact .inl queued
    · by_cases own : other = parsed
      · exact .inr (.inr (by simp [← same, own]))
      · exact .inr (.inl ⟨other, (List.mem_erase_of_ne own).mpr waiting, same⟩)
    · exact .inr (.inr (by simp [dropped]))
  | false =>
    simp only [Bool.false_eq_true, if_false]
    obtain ⟨job, added, same⟩ := addJob_queues ordered
    have kept {id : NotificationId} (queued : w.Queued id) :
        ∃ name job, (addJob w.queue parsed).get? name = some job ∧ job.notificationId = id := by
      obtain ⟨name, job, stored, named⟩ := queued
      exact ⟨name, job, addJob_keeps stored, named⟩
    constructor
    · intro id event stored
      rcases before.recorded stored with queued | ⟨other, waiting, named⟩ | dropped
      · exact .inl (kept queued)
      · by_cases own : other = parsed
        · exact .inl ⟨_, job, added, by rw [same, ← named, own]⟩
        · exact .inr (.inl ⟨other, (List.mem_erase_of_ne own).mpr waiting, named⟩)
      · exact .inr (.inr dropped)
    · intro id answered
      rcases List.mem_append.mp answered with earlier | now
      · exact kept (before.acknowledged id earlier)
      · obtain rfl : id = parsed.notificationId := by simpa using now
        exact ⟨_, job, added, same⟩

theorem receive_accounted (op : IntakeOp) (before : w.Accounted) (ordered : IntakeInOrder w op) :
    (receive w op).Accounted := by
  cases op with
  | insertEvent request fails =>
    cases request with
    | error e => exact before
    | ok parsed =>
      cases fails with
      | true => exact before
      | false => exact insertEvent_accounted before ordered
  | enqueue parsed fails => exact enqueue_accounted before ordered

/--
A notification that was answered with success has a job, in every run in which no notification is
delivered again while its first delivery has not added the job yet or has failed to add it.
-/
theorem acknowledged_webhook_is_queued (ops : List IntakeOp) (id : NotificationId)
    (ordered : Guarded receive (fun w op => IntakeInOrder w op) {} ops)
    (answered : id ∈ (run receive {} ops).acknowledged) : (run receive {} ops).Queued id := by
  have accounted : (run receive {} ops).Accounted := by
    refine invariant_run Intake.Accounted (fun w op => receive_accounted op) ?_ ordered
    exact ⟨nofun, nofun⟩
  exact accounted.acknowledged id answered

def sampleNotification : ParsedWebhook where
  notificationId := "n1"
  rawEvent := "payment.updated"
  resourceKind := some .payment
  resourceId := some "pix-1"

/-- Delivered twice in a row, the notification has its job when it is answered. -/
theorem sample_acknowledged_webhook_is_queued :
    (run receive {} [.insertEvent (.ok sampleNotification) false, .enqueue sampleNotification false,
      .insertEvent (.ok sampleNotification) false]).Queued "n1" :=
  acknowledged_webhook_is_queued _ "n1" (by decide) (by decide)

/-- The job cannot be added; the redelivery finds the row and is answered with success. -/
theorem acknowledged_webhook_is_lost :
    "n1" ∈ (run receive {} [.insertEvent (.ok sampleNotification) false,
      .enqueue sampleNotification true, .insertEvent (.ok sampleNotification) false]).acknowledged ∧
    ¬ (run receive {} [.insertEvent (.ok sampleNotification) false,
      .enqueue sampleNotification true, .insertEvent (.ok sampleNotification) false]).Queued "n1" := by
  refine ⟨by decide, ?_⟩
  rintro ⟨name, job, stored, -⟩
  cases stored

end PxHost

import PxHost.Lib.Interleaving
import PxHost.System.History
import PxHost.System.Recovery

/-! The suspension of debtors by the daily job, next to everything else that commits. -/

namespace PxHost.BillingCycle

open Interleaving
open Calendar (dayMs)

/-- A stretch of time in which a subscription had one status, and whether the job began it. -/
structure Phase where
  since : Time
  status : Option SubscriptionStatus
  byJob : Bool
deriving DecidableEq

/-- A committed write of the job, with the phases of its subscription by then, the latest first. -/
structure Write where
  subscription : SubscriptionId
  server : Option ServerId
  now : Time
  phases : List Phase
deriving DecidableEq

structure State where
  db : Db
  clock : Time
  /-- What really was the status of each subscription; no code reads it, nor the job's writes. -/
  phases : SubscriptionId → List Phase
  writes : List Write

inductive Call where
  | transact (tx : Tx)
  | now
  | listPastDue
  | pastGracePeriod (start : Time) (id : SubscriptionId)
  | suspendSubscription (id : SubscriptionId)
  | suspendServer (id : SubscriptionId) (server : ServerId)

@[reducible] def Call.Result : Call → Type
  | transact _ | suspendSubscription _ | suspendServer .. => Unit
  | now => Time
  | listPastDue => List ListedSubscription
  | pastGracePeriod .. => Bool

@[reducible] def Call.Answer (call : Call) : Type := Except ApiError call.Result

/-- The time by which a call is made, and what may happen to it. -/
structure Choice where
  now : Time
  fault : Option (Fault ApiError) := none

/-- Commit a transaction; a subscription whose status it changes begins a new phase. -/
def State.commit (s : State) (byJob : Bool) (tx : Tx) : Except ApiError State :=
  (exec s.db tx).map fun db => { s with
    db
    phases := fun id =>
      if db.statusOf id = s.db.statusOf id then s.phases id
      else ⟨s.clock, db.statusOf id, byJob⟩ :: s.phases id }

def State.note (s : State) (write : Write) : State := { s with writes := write :: s.writes }

/-- A call that fails changes nothing. -/
def State.settle (s : State) : Except ApiError State → Except ApiError Unit × State
  | .error error => (.error error, s)
  | .ok committed => (.ok (), committed)

section Job

variable (graceDays : Int)

def perform (s : State) : (call : Call) → call.Answer × State
  | .transact tx => s.settle (s.commit false tx)
  | .now => (.ok s.clock, s)
  | .listPastDue => (.ok (listPastDue s.db), s)
  | .pastGracePeriod start id => (.ok (pastGracePeriod s.db start graceDays id), s)
  | .suspendSubscription id =>
    s.settle ((s.commit true (.suspendOverdue s.clock graceDays id)).map
      (·.note ⟨id, none, s.clock, s.phases id⟩))
  | .suspendServer id server =>
    s.settle ((s.commit false (.suspend s.clock server
        s!"billing: past_due for more than {graceDays} day(s)" .billing)).map
      (·.note ⟨id, some server, s.clock, s.phases id⟩))

/-- A transaction that goes by the clock commits at its own time. -/
def Call.timely (now : Time) : Call → Bool
  | .transact tx => tx.time.all (· == now)
  | _ => true

/-- The clock never runs backwards. -/
def answer? (_thread : Nat) (call : Call) (choice : Choice) (s : State) :
    Option (call.Answer × State) :=
  if s.clock ≤ choice.now ∧ call.timely choice.now then
    some (Fault.befall { s with clock := choice.now }
      (perform graceDays { s with clock := choice.now } call) choice.fault)
  else none

abbrev Routine := ExceptT ApiError (Program Call.Answer)

@[simp] def ask (call : Call) : Routine call.Result := ExceptT.mk (Program.perform call)

/-- One round of the loop; what it throws ends the whole run. -/
def suspendOverdue (start : Time) (listed : ListedSubscription) : Routine Unit := do
  if ← ask (.pastGracePeriod start listed.id) then
    ask (.suspendSubscription listed.id)
    match listed.serverId with
    | none => return
    | some server => ask (.suspendServer listed.id server)

def suspendOverdueSubscriptions : Routine Unit := do
  let start ← ask .now
  let pastDue ← ask .listPastDue
  pastDue.forM (suspendOverdue start)

/-- A run of the job, or a transaction of anything else. -/
inductive Task where
  | suspendOverdueSubscriptions
  | transaction (tx : Tx)

def code : Task → Program Call.Answer Unit
  | .suspendOverdueSubscriptions => do
    let _ ← suspendOverdueSubscriptions.run
  | .transaction tx => do
    let _ ← (ask (.transact tx)).run

abbrev Panel := Pool State Task Call.Answer

def step : Panel → Move Task Choice → Panel := Pool.step code (answer? graceDays)

/-- The phases of all subscriptions are known from the moment the panel is opened. -/
def Panel.opened (db : Db) (clock : Time) : Panel := ⟨⟨db, clock, fun _ => [], []⟩, []⟩

/--
What the writes of the job are for: the subscription had been past due all through the grace period,
and a server is only suspended while the suspension of its subscription on that ground stands.
-/
def Write.ofDebtor (write : Write) : Bool :=
  match write.server, write.phases with
  | none, current :: _ =>
    current.status == some .pastDue && current.since ≤ write.now - graceDays * dayMs
  | some _, suspension :: before :: _ =>
    suspension.status == some .suspended && before.status == some .pastDue &&
      before.since ≤ suspension.since - graceDays * dayMs
  | _, _ => false

/--
The check of the job would succeed again when its write commits, and a server is suspended while
the job's own suspension of the subscription is its latest change of status.
-/
def stillOverdue (s : State) (_ : Task) (call : Call) (choice : Choice) : Bool :=
  match call with
  | .suspendSubscription id =>
    s.db.statusOf id == some .pastDue && pastGracePeriod s.db choice.now graceDays id
  | .suspendServer id _ => (s.phases id).head?.any (·.byJob)
  | _ => true

end Job

section Invariant

variable {graceDays : Int} {s s' : State} {id : SubscriptionId} {tx : Tx}

/-- What the events of a subscription and the writes of the job say about its phases. -/
structure Honest (graceDays : Int) (s : State) : Prop where
  overdue : ∀ id, s.db.statusOf id = some .pastDue → ∃ phase rest, s.phases id = phase :: rest ∧
    phase.status = some .pastDue ∧
      ∃ event ∈ s.db.history id, event.toStatus = .pastDue ∧ phase.since ≤ event.createdAt
  byJob : ∀ id phase rest, s.phases id = phase :: rest → phase.byJob →
    phase.status = some .suspended ∧ ∃ before rest', rest = before :: rest' ∧
      before.status = some .pastDue ∧ before.since ≤ phase.since - graceDays * dayMs
  writes : ∀ write ∈ s.writes, write.ofDebtor graceDays

theorem State.commit_ok_iff {byJob : Bool} : s.commit byJob tx = .ok s' ↔
    ∃ db, exec s.db tx = .ok db ∧ s' = { s with
      db
      phases := fun id =>
        if db.statusOf id = s.db.statusOf id then s.phases id
        else ⟨s.clock, db.statusOf id, byJob⟩ :: s.phases id } :=
  Fallible.map_eq_ok_iff

theorem exec_history_mono {db after : Db} {now : Time} {event : SubscriptionEvent}
    (timed : ∀ time, tx.time = some time → time = now) (executed : exec db tx = .ok after)
    (member : event ∈ db.history id) : event ∈ after.history id := by
  obtain ⟨added, appended, -⟩ := exec_eventsAt timed executed
  simp only [Db.history, appended, List.filter_append, List.mem_append]
  exact .inl member

section Honest

variable (honest : Honest graceDays s)
include honest

/-- The events go on to tell since when a subscription is overdue, whoever commits. -/
theorem Honest.overdue_commit {byJob : Bool}
    (timed : ∀ time, tx.time = some time → time = s.clock) (commits : s.commit byJob tx = .ok s')
    (overdue : s'.db.statusOf id = some .pastDue) :
    ∃ phase rest, s'.phases id = phase :: rest ∧ phase.status = some .pastDue ∧
      ∃ event ∈ s'.db.history id, event.toStatus = .pastDue ∧ phase.since ≤ event.createdAt := by
  obtain ⟨db, executed, rfl⟩ := State.commit_ok_iff.mp commits
  by_cases same : db.statusOf id = s.db.statusOf id
  · -- The phase goes on, and the event that opened it is still there.
    obtain ⟨phase, rest, phases, status, event, member, target, since⟩ :=
      honest.overdue id (same.symm.trans overdue)
    exact ⟨phase, rest, by simp [same, phases], status, event,
      exec_history_mono timed executed member, target, since⟩
  · -- A phase that begins now has its event from the same transaction, at the same time.
    obtain ⟨event, member, target, dated⟩ :=
      exec_overdue_event timed executed overdue fun before => same (overdue.trans before.symm)
    refine ⟨⟨s.clock, db.statusOf id, byJob⟩, s.phases id, by simp [same], overdue, event, member,
      target, ?_⟩
    exact le_of_eq dated.symm

theorem Honest.commit
    (timed : ∀ time, tx.time = some time → time = s.clock) (commits : s.commit false tx = .ok s') :
    Honest graceDays s' := by
  refine ⟨fun id overdue => honest.overdue_commit timed commits overdue, ?_, ?_⟩
  · obtain ⟨db, -, rfl⟩ := State.commit_ok_iff.mp commits
    intro id phase rest phases begun
    dsimp only at phases
    split at phases
    · exact honest.byJob id phase rest phases begun
    · -- A phase that someone else begins is none of the job's.
      cases phases
      cases begun
  · obtain ⟨db, -, rfl⟩ := State.commit_ok_iff.mp commits
    exact honest.writes

theorem Honest.note {write : Write} (debtor : write.ofDebtor graceDays) :
    Honest graceDays (s.note write) :=
  ⟨honest.overdue, honest.byJob, List.forall_mem_cons.mpr ⟨debtor, honest.writes⟩⟩

omit honest in
theorem Honest.opened {db : Db} {clock : Time} (unsold : db.subscriptions = .empty) :
    Honest graceDays (Panel.opened db clock).shared where
  overdue id overdue := by simp [Panel.opened, Db.statusOf, unsold] at overdue
  byJob id phase rest begun := by cases begun
  writes write member := by cases member

omit honest in
theorem settle_state {P : State → Prop} (before : P s) (result : Except ApiError State)
    (committed : ∀ s', result = .ok s' → P s') : P (s.settle result).2 := by
  cases result with
  | error error => exact before
  | ok s' => exact committed s' rfl

/-- Past the grace period, the phase of an overdue subscription has lasted as long. -/
theorem Honest.since (overdue : s.db.statusOf id = some .pastDue)
    {now : Time} (past : pastGracePeriod s.db now graceDays id) :
    ∃ phase rest, s.phases id = phase :: rest ∧ phase.status = some .pastDue ∧
      phase.since ≤ now - graceDays * dayMs := by
  obtain ⟨phase, rest, phases, status, event, member, target, since⟩ := honest.overdue id overdue
  refine ⟨phase, rest, phases, status, Int.le_trans since ?_⟩
  -- The job looks at the latest event, so that each of them is older than the cutoff.
  simp only [Db.history, List.mem_filter, beq_iff_eq] at member
  simp only [pastGracePeriod, Bool.and_eq_true, List.all_eq_true, decide_eq_true_eq] at past
  exact past.2 event (by simp [member, target])

theorem Honest.suspendSubscription (overdue : s.db.statusOf id = some .pastDue)
    (past : pastGracePeriod s.db s.clock graceDays id)
    (commits : s.commit true (.suspendOverdue s.clock graceDays id) = .ok s') :
    Honest graceDays (s'.note ⟨id, none, s.clock, s.phases id⟩) := by
  -- The check that still holds tells how long the phase before this write has lasted.
  obtain ⟨phase, rest, phases, status, since⟩ := honest.since overdue past
  have kept (other : SubscriptionId) (late : s'.db.statusOf other = some .pastDue) :=
    honest.overdue_commit (by simp [Tx.time]) commits late
  obtain ⟨db, executed, rfl⟩ := State.commit_ok_iff.mp commits
  obtain ⟨row, stored, -, rfl⟩ := applyTransition_ok_iff.mp executed
  refine Honest.note ⟨kept, ?_, honest.writes⟩ ?_
  · intro other latest rest' begun byJob
    dsimp only at begun
    by_cases same : other = id
    · -- The new phase follows the one that has lasted through the grace period.
      subst same
      have moved : (s.db.transitioned s.clock other row.status .suspended none
          (some s!"billing-cycle: past_due for more than {graceDays} day(s)")).statusOf other =
          some .suspended := by
        simp [Db.statusOf, Db.transitioned, stored]
      simp only [moved, overdue, Option.some.injEq, reduceCtorEq, if_false, List.cons.injEq]
        at begun
      obtain ⟨rfl, rfl⟩ := begun
      exact ⟨rfl, phase, rest, phases, status, since⟩
    · -- No other subscription changes its status.
      have unmoved : (s.db.transitioned s.clock id row.status .suspended none
          (some s!"billing-cycle: past_due for more than {graceDays} day(s)")).statusOf other =
          s.db.statusOf other := by
        simp [Db.statusOf, Db.transitioned, same]
      rw [if_pos unmoved] at begun
      exact honest.byJob other latest rest' begun byJob
  · simp [Write.ofDebtor, phases, status, since]

theorem Honest.suspendServer {server : ServerId} {reason : String}
    (standing : (s.phases id).head?.any (·.byJob))
    (commits : s.commit false (.suspend s.clock server reason .billing) = .ok s') :
    Honest graceDays (s'.note ⟨id, some server, s.clock, s.phases id⟩) := by
  refine (honest.commit (by simp [Tx.time]) commits).note ?_
  -- A phase that the job began comes right after the one it was based on.
  cases phases : s.phases id with
  | nil => simp [phases] at standing
  | cons phase rest =>
    obtain ⟨status, before, rest', rfl, overdue, since⟩ :=
      honest.byJob id phase rest phases (by simpa [phases] using standing)
    simp [Write.ofDebtor, status, overdue, since]

theorem Honest.answered {thread : Nat} {task : Task} {call : Call} {choice : Choice}
    {answer : call.Answer}
    (still : stillOverdue graceDays s task call choice)
    (answers : answer? graceDays thread call choice s = some (answer, s')) :
    Honest graceDays s' := by
  obtain ⟨punctual, outcome⟩ := Fault.answer_cases answers
  -- Phases are dated by when they began, so that they do not depend on the clock.
  have later : Honest graceDays { s with clock := choice.now } :=
    ⟨honest.overdue, honest.byJob, honest.writes⟩
  rcases outcome with ⟨rfl, -⟩ | ⟨rfl, -⟩
  · -- A call that never arrives changes nothing.
    exact later
  cases call with
  | transact tx =>
    refine settle_state later _ fun s' commits => later.commit ?_ commits
    intro time timed
    simpa [Call.timely, timed] using punctual.2
  | now | listPastDue | pastGracePeriod => exact later
  | suspendSubscription id =>
    -- Here the condition on the run says what the job's own check said earlier.
    simp only [stillOverdue, Bool.and_eq_true, beq_iff_eq] at still
    refine settle_state later _ fun s' noted => ?_
    obtain ⟨committed, commits, rfl⟩ := Fallible.map_eq_ok_iff.mp noted
    exact later.suspendSubscription still.1 still.2 commits
  | suspendServer id server =>
    refine settle_state later _ fun s' noted => ?_
    obtain ⟨committed, commits, rfl⟩ := Fallible.map_eq_ok_iff.mp noted
    exact later.suspendServer still commits

end Honest

end Invariant

/--
On a panel that is opened without subscriptions, every write of the job is about a debtor, in every
run in which the job's check would succeed again whenever one of its writes commits.
-/
theorem job_suspends_only_debtors (graceDays : Int) (db : Db) (clock : Time)
    (moves : List (Move Task Choice)) (unsold : db.subscriptions = .empty)
    (still : Machine.Guarded (step graceDays)
      (fun panel move => panel.allows (stillOverdue graceDays) move) (Panel.opened db clock) moves) :
    ∀ write ∈ (Machine.run (step graceDays) (Panel.opened db clock) moves).shared.writes,
      write.ofDebtor graceDays := by
  -- The account of the phases is what every call keeps; the writes are a part of it.
  have honest : Honest graceDays
      (Machine.run (step graceDays) (Panel.opened db clock) moves).shared := by
    refine Pool.shared_run (Honest graceDays) ?_ (.opened unsold) still
    intro s thread task call choice answer s' honest ok answers
    exact honest.answered ok answers
  exact honest.writes

def sampleSequence (first : Nat) (txs : List Tx) : List (Move Task Choice) :=
  (txs.zipIdx first).flatMap fun (tx, thread) =>
    [.start (.transaction tx), .turn thread ⟨tx.time.getD 0, none⟩]

/-- So many calls of the job, run by the eighth thread after the grace period of three days. -/
def sampleJob (calls : Nat) : List (Move Task Choice) :=
  List.replicate calls (.turn 7 ⟨3300000000, none⟩)

/-- The customer whose renewal charge ran out unpaid, when the job is started. -/
def sampleArrears : List (Move Task Choice) :=
  sampleSequence 0 (sampleCustomerServer ++ sampleDebt.take 2) ++ [.start .suspendOverdueSubscriptions]

/-- After the grace period the job suspends the subscription and then its server. -/
theorem sample_job_suspends_only_debtors : (Machine.run (step 3) (Panel.opened samplePanel 0)
      (sampleArrears ++ sampleJob 5)).shared.writes.map (·.server) = [some 1, none] ∧
    ∀ write ∈ (Machine.run (step 3) (Panel.opened samplePanel 0)
      (sampleArrears ++ sampleJob 5)).shared.writes, write.ofDebtor 3 :=
  ⟨by decide +kernel,
    job_suspends_only_debtors 3 samplePanel 0 (sampleArrears ++ sampleJob 5) rfl (by decide +kernel)⟩

/--
A payment between the job's check and its first write has the job suspend a subscription that is
paid for, and a recovery between its two writes has it suspend the server of an active one.
-/
theorem job_suspends_a_paying_customer :
    (Machine.run (step 3) (Panel.opened samplePanel 0) (sampleArrears ++ sampleJob 3 ++
      sampleSequence 8 [.applyPaymentOutcome 3300000000 20 .paymentConfirmed sampleLatePix
        .mercadopago ⟨13, "ord_d"⟩] ++ sampleJob 1)).shared.writes.head?.map
          (fun write => (write.server, write.phases.head?.bind (·.status), write.ofDebtor 3)) =
        some (none, some .active, false) ∧
    (Machine.run (step 3) (Panel.opened samplePanel 0) (sampleArrears ++ sampleJob 4 ++
      sampleSequence 8 [.updateStatusAsAdmin 3300000000 20 .active none 2] ++
        sampleJob 1)).shared.writes.head?.map
          (fun write => (write.server, write.phases.head?.bind (·.status), write.ofDebtor 3)) =
        some (some 1, some .active, false) := by
  decide +kernel

end PxHost.BillingCycle

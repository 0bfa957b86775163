import PxHost.System.ConfirmedMoney
import PxHost.System.SingleServer

/-! Refunds that meet the provisioning of their own order. -/

namespace PxHost.Provisioning

open Interleaving Fallible

/-- The transaction may lift the suspension of this server, in whatever name. -/
def mayLift (db : Db) (id : ServerId) (tx : Tx) : Bool :=
  tx.lifts db id none || tx.lifts db id (some .billing) || tx.lifts db id (some .admin)

variable {db : Db}

theorem lifts_of_not_mayLift {id : ServerId} {tx : Tx} (spares : ¬ mayLift db id tx)
    (required : Option SuspensionSource) : ¬ tx.lifts db id required := by
  simp only [mayLift, Bool.or_eq_true, not_or] at spares
  rcases required with _ | _ | _
  · exact spares.1.1
  · exact spares.2
  · exact spares.1.2

/-- A returned charge finds its order under its own subscription, and the server there set up. -/
def returnsCleanly (db : Db) : Tx → Bool
  | .applyPaymentOutcome _ id event payment provider fresh =>
    !(event == .paymentRefunded || event == .paymentChargeback) ||
      (resolvedOrder db id payment provider fresh).all (·.2.subscriptionId == some id) &&
        (db.serverOf id).all fun server => db.serverStatus server != some .setupPending
  | _ => true

/--
A server is only committed for an order that is not refunded by then, a refund finds the server of
its own subscription set up, and nothing else deletes a server or lifts its suspension.
-/
def respectsRefunds (s : State) (_ : Task) (call : Call) (choice : Choice) : Bool :=
  (call.transaction choice).all fun (order, tx) =>
    tx.removes.isNone && s.created.all (fun creation => !mayLift s.db creation.server tx) &&
      order.all (fun id => s.db.orderStatus id != some .refunded) && returnsCleanly s.db tx

/-- What is known of a server that was committed for an order. -/
structure Accounted (s : State) (creation : Creation) : Prop where
  ordered : ∀ id, creation.order = some id →
    ∃ order, s.db.orders.get? id = some order ∧ order.subscriptionId = creation.subscription
  attached : ∀ id, creation.subscription = some id → s.db.serverOf id = some creation.server
  stored : ∃ row, s.db.servers.get? creation.server = some row
  stopped : ∀ id, creation.order = some id → s.db.orderStatus id = some .refunded →
    s.db.serverStatus creation.server = some .suspended

section Transactions

variable {s s' : State} {order : Option OrderId} {tx : Tx} {creation : Creation} {now : Time}
  {id : SubscriptionId} {event : InternalPaymentEvent} {payment : GatewayPayment}
  {provider : PaymentProviderName} {fresh : FreshOrder} {orderId : OrderId}

theorem of_returnsCleanly {o : Order}
    (returned : event = .paymentRefunded ∨ event = .paymentChargeback)
    (resolves : resolvedOrder db id payment provider fresh = some (orderId, o))
    (clean : returnsCleanly db (.applyPaymentOutcome now id event payment provider fresh)) :
    o.subscriptionId = some id ∧
      ∀ server, db.serverOf id = some server → db.serverStatus server ≠ some .setupPending := by
  have back : (event == .paymentRefunded || event == .paymentChargeback) = true := by
    simpa using returned
  simp only [returnsCleanly, back, resolves, Bool.not_true, Bool.false_or, Bool.and_eq_true,
    Option.all_some, beq_iff_eq] at clean
  refine ⟨clean.1, fun server held => ?_⟩
  simpa [held] using clean.2

/-- A refund that turns an order suspends the server of its subscription, once that is set up. -/
theorem refund_suspends {after : Db} {answer : Option OrderId} {o o' : Order} {server : ServerId}
    {row : ServerRow} (returned : event = .paymentRefunded ∨ event = .paymentChargeback)
    (clean : returnsCleanly db (.applyPaymentOutcome now id event payment provider fresh))
    (applies : applyPaymentOutcome db now id event payment provider fresh = .ok (after, answer))
    (known : db.orders.get? orderId = some o) (known' : after.orders.get? orderId = some o')
    (unrefunded : o.status ≠ .refunded) (refunded : o'.status = .refunded)
    (attached : ∀ subscription, o.subscriptionId = some subscription →
      db.serverOf subscription = some server) (stored : db.servers.get? server = some row) :
    after.serverStatus server = some .suspended := by
  have turned : o.status ≠ o'.status := by rwa [refunded]
  obtain ⟨holder, mid, held, resolves, settled⟩ :=
    applyPaymentOutcome_turns applies known known' turned
  obtain ⟨found, -, servers⟩ := (resolved_of_found resolves).frame
  have effective : after ≠ mid := by
    rintro rfl
    obtain rfl : o = o' := by simpa [found] using known'
    exact turned rfl
  -- The order is one of the subscription, so that the server is the one that is stopped.
  have resolves' := resolvedOrder_eq_some_iff.mpr ⟨holder, mid, held, resolves⟩
  obtain ⟨own, ready⟩ := of_returnsCleanly returned resolves' clean
  have serves := attached id own
  have held' : holder.serverId = some server := by simpa [Db.serverOf, held] using serves
  have chosen : row.val.status ≠ .setupPending := fun waiting =>
    ready server serves (serverStatus_eq_some_iff.mpr ⟨row, stored, waiting⟩)
  exact settled.stops_server returned effective held' (servers ▸ stored) chosen

/-- Every transaction that respects refunds keeps the account of what was created before. -/
theorem accounted_transact (accounted : Accounted s creation) (spares : tx.removes = none)
    (unlifted : ¬ mayLift s.db creation.server tx) (clean : returnsCleanly s.db tx)
    (transacts : s.transact order tx = .ok s') : Accounted s' creation := by
  obtain ⟨db, executed, rfl⟩ := State.transact_ok_iff.mp transacts
  obtain ⟨row, stored⟩ := accounted.stored
  obtain ⟨row', stored', move⟩ := (exec_servers spares executed).moved stored
  refine ⟨?_, ?_, ⟨row', stored'⟩, ?_⟩
  · -- An order stays with its subscription.
    intro id placed
    obtain ⟨o, known, own⟩ := accounted.ordered id placed
    obtain ⟨o', known', step⟩ := (exec_orders executed).moved known
    exact ⟨o', known', step.subscriptionId.trans own⟩
  · -- A subscription that has a server keeps it, as no server is deleted.
    intro id asked
    have held := accounted.attached id asked
    exact (exec_serverOf_kept executed spares (by simp [held])).trans held
  · intro id placed refunded
    obtain ⟨o, known, own⟩ := accounted.ordered id placed
    obtain ⟨o', known', step⟩ := (exec_orders executed).moved known
    have refunded' : o'.status = .refunded := by simpa [Db.orderStatus, known'] using refunded
    by_cases before : o.status = .refunded
    · -- The server was suspended with the refund, and nothing has lifted it.
      obtain ⟨same, found, suspended⟩ := serverStatus_eq_some_iff.mp
        (accounted.stopped id placed (by simp [Db.orderStatus, known, before]))
      obtain rfl := Option.mem_unique stored found
      exact serverStatus_eq_some_iff.mpr
        ⟨row', stored', move.keeps_suspended (lifts_of_not_mayLift unlifted) suspended⟩
    · -- The order is refunded just now, and only a payment outcome can do that.
      cases step.move with
      | refunded called returned =>
        subst called
        obtain ⟨answer, applies⟩ := map_fst_eq_ok_iff.mp executed
        refine refund_suspends returned clean applies known known' before refunded' ?_ stored
        exact fun subscription held => accounted.attached subscription (own.symm.trans held)
      | kept status | provisioned _ status | delivered _ status =>
        exact absurd (status.symm.trans refunded') before
      | confirmed _ _ status => simp [refunded'] at status
      | closed _ status | overwritten _ status => simp [refunded'] at status

theorem accounted_created {dto : CreateOnNodeInput} {node : NodeId}
    {context : Option TemplateContext} {fresh : FreshServer}
    (known : ∀ id, order = some id → ∃ o, s.db.orders.get? id = some o ∧
      o.subscriptionId = dto.attachSubscriptionId ∧ o.status ≠ .refunded)
    (transacts : s.transact order (.createOnNode now dto node context fresh) = .ok s') :
    Accounted s' ⟨order, dto.attachSubscriptionId, fresh.id⟩ := by
  obtain ⟨db, executed, rfl⟩ := State.transact_ok_iff.mp transacts
  have attached (id : SubscriptionId) (asked : dto.attachSubscriptionId = some id) :
      db.serverOf id = some fresh.id := (createOnNode_attaches executed asked).2
  obtain ⟨plan, created⟩ := createOnNode_ok executed
  obtain ⟨server, unused, allocations, subscriptions, -, -, rfl⟩ := created.rows
  refine ⟨?_, attached, ⟨server, by simp⟩, ?_⟩
  · intro id placed
    obtain ⟨o, stored, own, -⟩ := known id placed
    exact ⟨o, stored, own⟩
  · -- Creating a server writes to no order, so that the order is still not refunded.
    intro id placed refunded
    obtain ⟨o, stored, -, unrefunded⟩ := known id placed
    exact absurd (by simpa [Db.orderStatus, stored] using refunded) unrefunded

end Transactions

section Discipline

/-- The order a worker has read and is provisioning, if it has one. -/
abbrev Reading := Option (OrderId × Order)

/-- A worker is done with its order when it could not mark it, or has finished or failed it. -/
def endsProvisioning (ok : Bool) : Tx → Bool
  | .markProvisioningRunning _ => !ok
  | .finishProvisioning .. | .failProvisioning .. => true
  | _ => false

/-- What a worker goes by after a call: it reads one order, and is done with it in the end. -/
def remembers (reading : Reading) : (call : Call) → call.Answer → Reading
  | .readOrder id, .ok (some order) => some (id, order)
  | .transact tx, answer => if endsProvisioning answer.isOk tx then none else reading
  | _, _ => reading

/-- A worker creates servers only for the order it has read. -/
def discipline : Discipline Task Reading Call.Answer where
  permits reading call := ∀ id dto node context, call = .createOnNode id dto node context →
    ∃ order, reading = some (id, order) ∧ dto = provisionInput order
  moves _ reading call answer after := after = remembers reading call answer

variable {task : Task} {reading : Reading}

theorem follows_ask {call : Call} {post : call.Answer → Reading → Prop} :
    Follows discipline task reading (ask call).run post ↔ discipline.permits reading call ∧
      ∀ answer, post answer (remembers reading call answer) :=
  follows_perform_eq fun _ _ => Iff.rfl

theorem follows_ask_kept {call : Call} (permitted : discipline.permits reading call)
    (kept : ∀ answer, remembers reading call answer = reading) :
    Follows discipline task reading (ask call).run fun _ after => after = reading :=
  follows_ask.mpr ⟨permitted, kept⟩

theorem follows_dispatchToAgent (server : ServerId) :
    Follows discipline task reading (dispatchToAgent server).run fun _ after => after = reading := by
  refine follows_run_catch ?_ (fun _ => rfl) fun _ => ?_
  · exact follows_ask_kept nofun fun _ => rfl
  · exact follows_ask_kept nofun fun _ => rfl

theorem follows_createOn {id : OrderId} {order : Order} (context : Option TemplateContext)
    (node : NodeId) :
    Follows discipline task (some (id, order))
      (createOn id (provisionInput order) context node).run
      fun _ after => after = some (id, order) := by
  have permitted : discipline.permits (some (id, order))
      (.createOnNode id (provisionInput order) node context) := by
    rintro _ _ _ _ ⟨⟩
    exact ⟨order, rfl, rfl⟩
  refine follows_run_after (follows_ask_kept permitted fun _ => rfl) (fun _ => rfl) fun server => ?_
  split
  · exact follows_run_after (follows_dispatchToAgent server) (fun _ => rfl) fun _ => rfl
  · rfl

theorem follows_withSchedulerRetry {plan : PlanId} {attempt : NodeId → Routine ServerId}
    (tried : ∀ node, Follows discipline task reading (attempt node).run
      fun _ after => after = reading) (attempts : Nat) (excluded : List NodeId) :
    Follows discipline task reading (withSchedulerRetry plan attempt attempts excluded).run
      fun _ after => after = reading := by
  -- The nodes that have refused are what grows from one attempt to the next.
  induction attempts generalizing excluded with
  | zero => rfl
  | succ attempts ih =>
    refine follows_run_after (follows_ask_kept nofun fun _ => rfl) (fun _ => rfl) fun found => ?_
    split
    · rfl
    · refine follows_run_catch (tried _) (fun _ => rfl) fun error => ?_
      split
      · rfl
      · exact ih _

theorem follows_createServer {id : OrderId} {order : Order} :
    Follows discipline task (some (id, order)) (createServer id order).run
      fun _ after => after = some (id, order) := by
  refine follows_run_after (follows_ask_kept nofun fun _ => rfl) (fun _ => rfl) fun _ => ?_
  refine follows_run_after ?_ (fun _ => rfl) fun context => ?_
  · unfold findContext
    split
    · rfl
    · exact follows_run_after (follows_ask_kept nofun fun _ => rfl) (fun _ => rfl) fun _ => rfl
  · refine follows_run_after (follows_ask_kept nofun fun _ => rfl) (fun _ => rfl) fun _ => ?_
    exact follows_withSchedulerRetry (follows_createOn context) _ _

/-- An execution creates servers for the order it has read and has put it away in the end. -/
theorem follows_provisionOrder (id : OrderId) :
    Follows discipline task none (provisionOrder id).run fun _ after => after = none := by
  refine follows_run_bind.mpr (follows_ask.mpr ⟨nofun, fun read => ?_⟩)
  match read with
  | .error _ | .ok none => rfl
  | .ok (some order) =>
    refine follows_run_bind.mpr (follows_ask.mpr ⟨nofun, fun marked => ?_⟩)
    match marked with
    | .error _ => rfl
    | .ok () =>
      -- Creation and the final update fail into the same handler, which ends the provisioning.
      have failed (reading : Reading) (error : ApiError) :
          Follows discipline task reading (do
            ask (.transact (.failProvisioning id error.message))
            throw error : Routine Unit).run fun _ after => after = none := by
        refine follows_run_bind.mpr (follows_ask.mpr ⟨nofun, fun answer => ?_⟩)
        cases answer <;> rfl
      refine follows_run_tryCatch.mpr (follows_run_bind.mpr (follows_createServer.mono ?_))
      rintro created _ rfl
      match created with
      | .error error => exact failed _ error
      | .ok server =>
        refine follows_ask.mpr ⟨nofun, fun answer => ?_⟩
        match answer with
        | .error error => exact failed _ error
        | .ok () => rfl

theorem follows_code (task : Task) :
    Follows discipline task none (code task) fun _ after => after = none := by
  cases task with
  | provisionOrder order => exact follows_bind.mpr (follows_provisionOrder order)
  | transaction tx =>
    refine follows_bind.mpr (follows_ask.mpr ⟨nofun, fun answer => ?_⟩)
    -- Whatever transaction it is, it makes nobody go by an order.
    simp [remembers]

end Discipline

section Invariant

variable {s s' : State} {thread : Nat} {call : Call} {choice : Choice} {answer : call.Answer}

/-- The order a worker goes by is still there, and still for the same subscription. -/
def Stands (s : State) (reading : Reading) : Prop :=
  ∀ id order, reading = some (id, order) →
    ∃ o, s.db.orders.get? id = some o ∧ o.subscriptionId = order.subscriptionId

theorem stands_none : Stands s none := by
  intro id order held
  cases held

variable {reading : Reading}

theorem stands_answered (stands : Stands s reading)
    (answers : answer? thread call choice s = some (answer, s')) : Stands s' reading := by
  rcases answer?_state answers with rfl | ⟨order, tx, -, transacts⟩
  · exact stands
  · -- No transaction deletes an order or hands it to another subscription.
    intro id read held
    obtain ⟨db, executed, rfl⟩ := State.transact_ok_iff.mp transacts
    obtain ⟨o, stored, own⟩ := stands id read held
    obtain ⟨o', stored', step⟩ := (exec_orders executed).moved stored
    exact ⟨o', stored', step.subscriptionId.trans own⟩

theorem checkProvisionable_stored {id : OrderId} {order : Order}
    (checked : checkProvisionable db id = .ok (some order)) : db.orders.get? id = some order := by
  -- Each of the refusals answers something else than the order.
  unfold checkProvisionable at checked
  split at checked
  · cases checked
  · rename_i found stored
    split at checked
    · cases checked
    · split at checked
      · cases checked
      · split at checked
        · cases checked
        · cases checked
          exact stored

theorem stands_remembers (stands : Stands s reading)
    (answers : answer? thread call choice s = some (answer, s')) :
    Stands s' (remembers reading call answer) := by
  have kept := stands_answered stands answers
  cases call with
  | readOrder id =>
    match answer with
    | .error _ | .ok none => exact kept
    | .ok (some order) =>
      rintro _ _ ⟨⟩
      -- The answer is the row that was just read, and reading it has changed nothing.
      have heard := Fault.befall_ok (Option.some.inj answers)
      obtain ⟨checked, rfl⟩ := Prod.mk.inj heard
      exact ⟨order, checkProvisionable_stored checked, rfl⟩
  | transact tx =>
    simp only [remembers]
    split
    · exact stands_none
    · exact kept
  | findOwner | findTemplate | findPlan | selectNode | createOnNode | createServer => exact kept

/-- Every server committed so far is accounted for, and every worker goes by an order that stands. -/
def Sound (s : State) (readings : Nat → Reading) : Prop :=
  (∀ creation ∈ s.created, Accounted s creation) ∧ ∀ thread, Stands s (readings thread)

/-- A call that respects refunds leaves everything accounted for, what it creates included. -/
theorem accounted_answered {task : Task} (accounted : ∀ creation ∈ s.created, Accounted s creation)
    (stands : Stands s reading) (respects : respectsRefunds s task call choice)
    (permitted : discipline.permits reading call)
    (answers : answer? thread call choice s = some (answer, s')) :
    ∀ creation ∈ s'.created, Accounted s' creation := by
  rcases answer?_state answers with rfl | ⟨order, tx, called, transacts⟩
  · exact accounted
  simp only [respectsRefunds, called, Option.all_some, Bool.and_eq_true, Option.isNone_iff_eq_none,
    List.all_eq_true, Bool.not_eq_true'] at respects
  obtain ⟨⟨⟨spares, unlifted⟩, unrefunded⟩, clean⟩ := respects
  intro made member
  obtain ⟨db, -, rfl⟩ := State.transact_ok_iff.mp transacts
  rcases List.mem_append.mp member with new | old
  · -- What is new was created by this transaction, for the order its worker has read.
    cases tx with
    | createOnNode now dto node context fresh =>
      obtain rfl : ⟨order, dto.attachSubscriptionId, fresh.id⟩ = made := by
        simpa [creation, eq_comm] using new
      refine accounted_created (fun id placed => ?_) transacts
      subst placed
      -- Only one call creates a server for an order, and the discipline knows which order that is.
      have asked : call = .createOnNode id dto node context := by
        cases call with
        | createOnNode id' dto' node' context' =>
          obtain ⟨rfl, -, rfl, rfl, rfl, -⟩ := called
          rfl
        | transact => simp [Call.transaction] at called
        | _ => cases called
      obtain ⟨order, held, rfl⟩ := permitted id dto node context asked
      obtain ⟨o, stored, own⟩ := stands id order held
      exact ⟨o, stored, own, by simpa [Db.orderStatus, stored] using unrefunded⟩
    | _ => cases new
  · exact accounted_transact (accounted made old) spares (by simp [unlifted made old]) clean
      transacts

end Invariant

/--
In every run of provisioning and refunds in which a server is only committed for an order that is
not refunded by then, and a refund finds the server of its subscription set up, no server that was
created for a refunded order is in any status but suspended.
-/
theorem refunded_order_has_no_usable_server (db : Db) (id : OrderId)
    (moves : List (Move Task Choice))
    (respected : Machine.Guarded step (fun panel move => panel.allows respectsRefunds move)
      (Panel.opened db) moves)
    (refunded : (Machine.run step (Panel.opened db) moves).shared.db.orderStatus id =
      some .refunded) :
    ∀ creation ∈ (Machine.run step (Panel.opened db) moves).shared.created,
      creation.order = some id →
        (Machine.run step (Panel.opened db) moves).shared.db.serverStatus creation.server =
          some .suspended := by
  -- At first nothing has been created and nobody has read an order.
  have moded : (Panel.opened db).Moded discipline none Sound :=
    .of_idle ⟨nofun, fun _ => stands_none⟩
  have answered : Sustained answer? respectsRefunds discipline Sound := by
    intro s readings thread task call choice answer s' sound respects permitted answers
    refine ⟨_, rfl, accounted_answered sound.1 (sound.2 thread) respects permitted answers, ?_⟩
    intro other
    by_cases same : other = thread
    · subst same
      simpa using stands_remembers (sound.2 other) answers
    · simpa [same] using stands_answered (sound.2 other) answers
  obtain ⟨readings, sound, -⟩ := moded.run follows_code answered respected
  exact fun creation member placed => (sound.1 creation member).stopped id placed refunded

/-- An order from when the checkout still asked for the software. -/
def sampleNamedSoftware : Db :=
  { samplePurchase with
    orders := samplePurchase.orders.modify 10 fun o => { o with config := { template := some (1, "Paper") } } }

def sampleReturn : List (Move Task Choice) := [
  .start (.transaction (.applyPaymentOutcome 6000 20 .paymentRefunded
    { samplePix with status := "refunded" } .mercadopago ⟨12, "ord_c"⟩)),
  .turn 1 (sampleChoice 9 "c3d4e5f6" 1)]

/-- An execution for the order, with the refund after that many of its calls. -/
def sampleRefunded (db : Db) (before after : Nat) : Panel :=
  Machine.run step (Panel.opened db) (.start (.provisionOrder 10) ::
    List.replicate before (.turn 0 (sampleChoice 1 "a1b2c3d4" 1)) ++ sampleReturn ++
    List.replicate after (.turn 0 (sampleChoice 1 "a1b2c3d4" 1)))

/-- A refund that comes once the server is being installed suspends it. -/
theorem sample_refunded_order_has_no_usable_server :
    (sampleRefunded sampleNamedSoftware 9 0).shared.created = [⟨some 10, some 20, 1⟩] ∧
      (sampleRefunded sampleNamedSoftware 9 0).shared.db.serverStatus 1 = some .suspended :=
  ⟨by decide +kernel, refunded_order_has_no_usable_server sampleNamedSoftware 10 _
    (by decide +kernel) (by decide +kernel) ⟨some 10, some 20, 1⟩ (by decide +kernel) rfl⟩

/--
A refund between the reading of the order and the creation of its server finds nothing to suspend,
and one that finds the server waiting for its software is not allowed to suspend it.
-/
theorem refund_leaves_a_usable_server :
    (∀ panel ∈ [sampleRefunded sampleNamedSoftware 6 3, sampleRefunded samplePurchase 7 0],
      panel.threads.all (·.2.isDone) ∧ panel.shared.db.orderStatus 10 = some .refunded ∧
        panel.shared.created = [⟨some 10, some 20, 1⟩]) ∧
      (sampleRefunded sampleNamedSoftware 6 3).shared.db.serverStatus 1 = some .installing ∧
      (sampleRefunded samplePurchase 7 0).shared.db.serverStatus 1 = some .setupPending := by
  decide +kernel

end PxHost.Provisioning

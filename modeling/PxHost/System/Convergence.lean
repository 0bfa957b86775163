import PxHost.System.SingleServer

/-! When an execution of provisioning brings an order that was left half done to its end. -/

namespace PxHost.Provisioning

open Interleaving Fallible Store

def Converged (db : Db) (orderId : OrderId) (subscription : SubscriptionId) : Prop :=
  ∃ order, db.orders.get? orderId = some order ∧ order.provisioningStatus = .done ∧
    order.serverId = db.serverOf subscription

instance (db : Db) (orderId : OrderId) (subscription : SubscriptionId) :
    Decidable (Converged db orderId subscription) :=
  decidable_of_iff ((db.orders.get? orderId).any fun order =>
      order.provisioningStatus = .done ∧ order.serverId = db.serverOf subscription) (by
    simp [Converged, Option.any_eq_true_iff_get, Option.eq_some_iff_get_eq])

/-- Nothing of the order has been provisioned yet, and its customer's subscription has no server. -/
def Untouched (db : Db) (order : Order) (subscription : SubscriptionId) : Prop :=
  order.serverId = none ∧ order.provisioningStatus ≠ .done ∧
    order.provisioningStatus ≠ .notRequired ∧ db.Awaits order.userId subscription

/--
Nothing fails by itself: the call is heard, the rows it looks for are there, a node is found at
first, and that node would take the server if it were for nobody.
-/
def healthy (s : State) (_ : Task) (call : Call) (choice : Choice) : Bool :=
  choice.fault.isNone &&
    match call with
    | .findOwner _ | .findTemplate _ | .findPlan _ => (perform s choice call).1.isOk
    | .selectNode _ excludeNodeIds => !excludeNodeIds.isEmpty || choice.node.isSome
    | .createOnNode _ dto node context =>
      (createOnNode s.db choice.now { dto with attachSubscriptionId := none } node context
        choice.fresh).isOk
    | _ => true

section Alone

variable {thread : Nat} {task : Task} {s : State} {orderId : OrderId} {order : Order}
  {subscription : SubscriptionId} {context : Option TemplateContext}

/-- Where nothing fails by itself, a call is answered with what it finds. -/
theorem ensures_ask {call : Call} {post : call.Answer → State → Prop} :
    Ensures answer? healthy thread task s (ask call).run post ↔
      ∀ choice, healthy s task call choice →
        post (perform s choice call).1 (perform s choice call).2 := by
  -- The only answer that no fault has touched is what the call itself comes to.
  refine Iff.trans ensures_perform ⟨fun ensures choice ok => ?_, ?_⟩
  · have heard : choice.fault = none := by
      simp only [healthy, Bool.and_eq_true, Option.isNone_iff_eq_none] at ok
      exact ok.1
    exact ensures choice _ _ ok (by simp [answer?, heard, Fault.befall])
  · intro ensures choice answer s' ok answers
    have heard : choice.fault = none := by
      simp only [healthy, Bool.and_eq_true, Option.isNone_iff_eq_none] at ok
      exact ok.1
    simp only [answer?, heard, Fault.befall, Option.some.injEq] at answers
    have found := ensures choice ok
    rwa [answers] at found

variable {post : Except ApiError Unit → State → Prop}

theorem ensures_transact {tx : Tx} {db : Db} (executed : exec s.db tx = .ok db)
    (holds : post (.ok ()) ⟨db, (creation none tx).toList ++ s.created⟩) :
    Ensures answer? healthy thread task s (ask (.transact tx)).run post := by
  refine ensures_ask.mpr fun choice _ => ?_
  simpa only [perform, State.transact_ok none executed] using holds

theorem ensures_dispatchToAgent {server : ServerId} (holds : post (.ok ()) s) :
    Ensures answer? healthy thread task s (dispatchToAgent server).run post := by
  unfold dispatchToAgent
  rw [ensures_run_tryCatch]
  exact ensures_ask.mpr fun _ _ => holds

variable {post : Except ApiError ServerId → State → Prop}

section Paid

variable (paid : order.subscriptionId = some subscription)
include paid

/-- For a subscription that waits for its server, the first attempt creates and attaches it. -/
theorem ensures_createOn {node : NodeId} (waiting : s.db.Awaits order.userId subscription)
    (holds : ∀ s' server, s'.db.orders = s.db.orders → s'.db.serverOf subscription = some server →
      post (.ok server) s') :
    Ensures answer? healthy thread task s
      (createOn orderId (provisionInput order) context node).run post := by
  unfold createOn
  rw [ensures_run_bind, ensures_ask]
  intro choice ok
  simp only [healthy, Bool.and_eq_true] at ok
  -- The node would take the server for nobody, and so it does for one who waits for it.
  obtain ⟨bare, creates⟩ := isOk_iff.mp ok.2
  obtain ⟨holder, stored, own, unserved⟩ := waiting
  obtain ⟨after, creates⟩ := createOnNode_attachable paid stored own unserved creates
  have executed : exec s.db (.createOnNode choice.now (provisionInput order) node context
    choice.fresh) = .ok after := creates
  have attached := (createOnNode_attaches creates paid).2
  have orders : after.orders = s.db.orders := by
    obtain ⟨plan, created⟩ := createOnNode_ok creates
    obtain ⟨_, _, _, _, -, -, rfl⟩ := created.rows
    rfl
  simp only [perform, State.transact_ok (some orderId) executed]
  cases context with
  | none => exact holds _ _ orders attached
  | some template =>
    -- With software, the agent is told about the server, which changes nothing here.
    simp only [Option.isSome_some, if_true]
    rw [ensures_run_bind]
    exact ensures_dispatchToAgent (holds _ _ orders attached)

/-- Where no subscription of the customer waits for it, an attempt fails and changes nothing. -/
theorem ensures_createOn_unawaited {node : NodeId}
    (unawaited : ¬s.db.Awaits order.userId subscription) (holds : ∀ error, post (.error error) s) :
    Ensures answer? healthy thread task s
      (createOn orderId (provisionInput order) context node).run post := by
  unfold createOn
  rw [ensures_run_bind, ensures_ask]
  intro choice _
  cases transacts : s.transact (some orderId)
    (.createOnNode choice.now (provisionInput order) node context choice.fresh) with
  | error error =>
    simp only [perform, transacts]
    exact holds error
  | ok committed =>
    -- The attachment would have found the subscription without a server.
    obtain ⟨db, creates, -⟩ := State.transact_ok_iff.mp transacts
    exact absurd (createOnNode_attaches creates paid).1 unawaited

theorem ensures_withSchedulerRetry {attempts : Nat}
    (waiting : s.db.Awaits order.userId subscription)
    (holds : ∀ s' server, s'.db.orders = s.db.orders → s'.db.serverOf subscription = some server →
      post (.ok server) s') :
    Ensures answer? healthy thread task s (withSchedulerRetry order.planId
      (createOn orderId (provisionInput order) context) (attempts + 1) []).run post := by
  -- No node has refused yet, so that whichever is offered is taken.
  rw [withSchedulerRetry, ensures_run_bind, ensures_ask]
  intro choice ok
  obtain ⟨node, found⟩ : ∃ node, choice.node = some node := by
    simp only [healthy, Bool.and_eq_true] at ok
    simpa [Option.isSome_iff_exists] using ok.2
  simp only [perform, found, Option.filter_some, List.not_mem_nil, not_false_eq_true, decide_true,
    if_true]
  rw [ensures_run_tryCatch]
  exact ensures_createOn paid waiting holds

theorem ensures_withSchedulerRetry_unawaited
    (unawaited : ¬s.db.Awaits order.userId subscription) (holds : ∀ error, post (.error error) s)
    (attempts : Nat) (excluded : List NodeId) :
    Ensures answer? healthy thread task s (withSchedulerRetry order.planId
      (createOn orderId (provisionInput order) context) attempts excluded).run post := by
  -- Each attempt ends in an error; what it was decides only whether another one is made.
  induction attempts generalizing excluded with
  | zero => exact holds _
  | succ attempts ih =>
    rw [withSchedulerRetry, ensures_run_bind, ensures_ask]
    intro choice _
    simp only [perform]
    split
    · exact holds _
    · rename_i node _
      rw [ensures_run_tryCatch]
      refine ensures_createOn_unawaited paid unawaited fun error => ?_
      dsimp only
      split
      · exact holds error
      · exact ih _

end Paid

theorem ensures_lookup {call : Call} {post : call.Answer → State → Prop}
    (lookup : call matches .findOwner _ | .findTemplate _ | .findPlan _)
    (holds : ∀ value, post (.ok value) s) :
    Ensures answer? healthy thread task s (ask call).run post := by
  refine ensures_ask.mpr fun choice ok => ?_
  -- Looking something up changes nothing.
  have same : (perform s choice call).2 = s := by
    rcases perform_state s choice call with same | ⟨order, tx, called, -⟩
    · exact same
    · cases call with
      | findOwner | findTemplate | findPlan => cases called
      | _ => cases lookup
  have found : (perform s choice call).1.isOk := by
    simp only [healthy, Bool.and_eq_true] at ok
    cases call with
    | findOwner | findTemplate | findPlan => exact ok.2
    | _ => cases lookup
  obtain ⟨value, found⟩ := isOk_iff.mp found
  rw [found, same]
  exact holds value

theorem ensures_findContext {post : Except ApiError (Option TemplateContext) → State → Prop}
    (holds : ∀ context, post (.ok context) s) :
    Ensures answer? healthy thread task s (findContext order).run post := by
  unfold findContext
  split
  · exact holds none
  · rw [ensures_run_bind]
    exact ensures_lookup rfl fun context => holds (some context)

theorem ensures_createServer
    (chosen : ∀ context, Ensures answer? healthy thread task s (withSchedulerRetry order.planId
      (createOn orderId (provisionInput order) context) maxSchedulerAttempts []).run post) :
    Ensures answer? healthy thread task s (createServer orderId order).run post := by
  unfold createServer
  rw [ensures_run_bind]
  refine ensures_lookup rfl fun _ => ?_
  dsimp only
  rw [ensures_run_bind]
  refine ensures_findContext fun context => ?_
  dsimp only
  rw [ensures_run_bind]
  exact ensures_lookup rfl fun _ => chosen context

end Alone

section Execution

variable {thread : Nat} {task : Task} {s : State} {orderId : OrderId} {order : Order}
  {subscription : SubscriptionId}

section Found

variable (found : s.db.orders.get? orderId = some order)
include found

/-- An order that was updated to be done with the server attached has converged. -/
theorem ensures_finishProvisioning {server : ServerId} {post : Except ApiError Unit → State → Prop}
    (attached : s.db.serverOf subscription = some server)
    (holds : ∀ s', Converged s'.db orderId subscription → post (.ok ()) s') :
    Ensures answer? healthy thread task s
      (ask (.transact (.finishProvisioning orderId server))).run post := by
  refine ensures_transact (Db.updateOrder_ok_iff.mpr ⟨⟨order, found⟩, rfl⟩) (holds _ ?_)
  exact ⟨_, Table.get?_modify_stored found _, rfl, attached.symm⟩

theorem ensures_failProvisioning {error : ApiError} {post : Except ApiError Unit → State → Prop}
    (holds : ∀ s', (∀ subscription, ¬ Converged s'.db orderId subscription) →
      post (.error error) s') :
    Ensures answer? healthy thread task s (do
      ask (.transact (.failProvisioning orderId error.message))
      throw error : Routine Unit).run post := by
  rw [ensures_run_bind]
  refine ensures_transact (Db.updateOrder_ok_iff.mpr ⟨⟨order, found⟩, rfl⟩) (holds _ ?_)
  rintro subscription ⟨failed, stored, done, -⟩
  obtain rfl := Option.mem_unique (Table.get?_modify_stored found _) stored
  cases done

/-- An execution that nothing disturbs converges where it has converged or nothing was done yet. -/
theorem ensures_provisionOrder
    (settled : order.status = .paid) (paid : order.subscriptionId = some subscription) :
    Ensures answer? healthy thread task s (provisionOrder orderId).run
      fun _ s' => Converged s'.db orderId subscription ↔
        Converged s.db orderId subscription ∨ Untouched s.db order subscription := by
  unfold provisionOrder
  rw [ensures_run_bind, ensures_ask]
  intro choice _
  simp only [perform, checkProvisionable, found]
  by_cases finished : order.serverId.isSome ∨ order.provisioningStatus = .done
  · -- The order looks finished, so that nothing is done.
    rw [if_pos finished]
    show _ ↔ _ ∨ _
    rw [or_iff_left]
    rintro ⟨unserved, unfinished, -⟩
    simp [unserved, unfinished] at finished
  by_cases unrequired : order.provisioningStatus = .notRequired
  · -- A renewal keeps the server it renews.
    rw [if_neg finished, if_pos unrequired]
    show _ ↔ _ ∨ _
    rw [or_iff_left]
    rintro ⟨-, -, required, -⟩
    exact required unrequired
  have unconverged : ¬ Converged s.db orderId subscription := by
    rintro ⟨other, same, done, -⟩
    obtain rfl : order = other := by simpa [found] using same
    exact finished (.inr done)
  simp only [if_neg finished, if_neg unrequired, settled, ne_eq, not_true_eq_false, if_false]
  rw [ensures_run_bind]
  refine ensures_transact (Db.updateOrder_ok_iff.mpr ⟨⟨order, found⟩, rfl⟩) ?_
  dsimp only
  rw [ensures_run_tryCatch, ensures_run_bind]
  by_cases waiting : s.db.Awaits order.userId subscription
  · -- The server is created and attached, and the order updated with it.
    refine ensures_createServer fun context =>
      ensures_withSchedulerRetry paid (by exact waiting) ?_
    intro s' server orders attached
    have running := (congrArg (·.get? orderId) orders).trans (Table.get?_modify_stored found _)
    refine ensures_finishProvisioning running attached ?_
    intro s'' converged
    refine iff_of_true converged (.inr ⟨?_, mt Or.inr finished, unrequired, waiting⟩)
    simpa using mt Or.inl finished
  · -- The attachment is refused on every node, and the order is left failed.
    refine ensures_createServer fun context =>
      ensures_withSchedulerRetry_unawaited paid (by exact waiting) ?_ _ _
    intro error
    refine ensures_failProvisioning (Table.get?_modify_stored found _) ?_
    intro s' unconverged'
    refine iff_of_false (unconverged' subscription) ?_
    rintro (converged | ⟨-, -, -, awaited⟩)
    · exact unconverged converged
    · exact waiting awaited

end Found

end Execution

/--
A later execution of provisioning for a paid order that runs to its end with nothing failing by
itself ends with the order done and holding its subscription's server exactly where that was so
before, or where the order is to be provisioned and neither it nor its customer's subscription had a
server yet.
-/
theorem interrupted_provisioning_converges_iff (panel : Panel) (orderId : OrderId) (order : Order)
    (subscription : SubscriptionId) (choices : List Choice)
    (found : panel.shared.db.orders.get? orderId = some order) (settled : order.status = .paid)
    (paid : order.subscriptionId = some subscription)
    (undisturbed : Machine.Guarded step (fun panel move => panel.allows healthy move)
      (step panel (.start (.provisionOrder orderId)))
      (choices.map (.turn panel.threads.length)))
    (ended : (Machine.run step (step panel (.start (.provisionOrder orderId)))
      (choices.map (.turn panel.threads.length))).threads[panel.threads.length]?.map
        (·.2.isDone) = some true) :
    Converged (Machine.run step (step panel (.start (.provisionOrder orderId)))
        (choices.map (.turn panel.threads.length))).shared.db orderId subscription ↔
      Converged panel.shared.db orderId subscription ∨
        Untouched panel.shared.db order subscription := by
  have started : (step panel (.start (.provisionOrder orderId))).threads[panel.threads.length]? =
      some (.provisionOrder orderId, code (.provisionOrder orderId)) := by
    simp [step, Pool.step]
  have ensures : Ensures answer? healthy panel.threads.length (.provisionOrder orderId)
      panel.shared (code (.provisionOrder orderId)) fun _ s' =>
        Converged s'.db orderId subscription ↔ Converged panel.shared.db orderId subscription ∨
          Untouched panel.shared.db order subscription :=
    ensures_bind.mpr (ensures_provisionOrder found settled paid)
  exact ensures.alone started undisturbed ended

/-- A first execution that was stopped after so many of its calls. -/
def sampleStopped (calls : Nat) : Panel :=
  Machine.run step (Panel.opened samplePurchase) (.start (.provisionOrder 10) ::
    List.replicate calls (.turn 0 (sampleChoice 1 "a1b2c3d4" 1)))

def sampleSecond (calls : Nat) : List Choice :=
  List.replicate calls (sampleChoice 2 "b2c3d4e5" 2)

/-- Stopped before the server was created, the order is provisioned by the next execution. -/
theorem sample_interrupted_provisioning_converges :
    Converged (Machine.run step (step (sampleStopped 4) (.start (.provisionOrder 10)))
      ((sampleSecond 7).map (.turn 1))).shared.db 10 20 := by
  have untouched : Untouched (sampleStopped 4).shared.db
      (((sampleStopped 4).shared.db.orders.get? 10).get (by decide +kernel)) 20 := by
    refine ⟨by decide +kernel, by decide +kernel, by decide +kernel, ?_⟩
    exact ⟨((sampleStopped 4).shared.db.subscriptions.get? 20).get (by decide +kernel),
      (Option.some_get _).symm, by decide +kernel, by decide +kernel⟩
  exact (interrupted_provisioning_converges_iff (sampleStopped 4) 10
    (((sampleStopped 4).shared.db.orders.get? 10).get (by decide +kernel)) 20
    (sampleSecond 7) (Option.some_get _).symm (by decide +kernel) (by decide +kernel)
    (by decide +kernel) (by decide +kernel)).mpr
    (.inr untouched)

/--
Stopped after the server was created and before the order was updated, the order is refused its own
server: the next execution, with nothing failing by itself, ends with a failed order.
-/
theorem attached_server_strands_its_order : let before := sampleStopped 6
    let moves := (sampleSecond 8).map (Move.turn 1)
    let after := Machine.run step (step before (.start (.provisionOrder 10))) moves
    (before.shared.db.orders.get? 10).map (·.status) = some .paid ∧
      before.shared.db.serverOf 20 = some 1 ∧
      Machine.Guarded step (fun panel move => panel.allows healthy move)
        (step before (.start (.provisionOrder 10))) moves ∧
      after.threads[1]?.map (·.2.isDone) = some true ∧
      ¬ Converged after.shared.db 10 20 ∧
      (after.shared.db.orders.get? 10).map (fun o => (o.provisioningStatus, o.serverId)) =
        some (.failed, none) := by
  decide +kernel

end PxHost.Provisioning

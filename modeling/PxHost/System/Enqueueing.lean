import PxHost.System.Settlement

/-! Between the commit of a payment and the queue that provisions its order. -/

namespace PxHost

open Store Fallible Machine

variable {db after : Db} {tx : Tx} {now : Time} {w : World} {op : Op}

/-- The order is paid and nobody has tried to set up its server yet. -/
def Order.IsOwed (o : Order) : Prop := o.status = .paid ∧ o.provisioningStatus = .pending

/--
No execution is cut off between its commit and the queue, and a notification is only marked
while no other execution still has to enqueue the order it found.
-/
def EnqueuesFirst (w : World) : Op → Bool
  | .abortWebhook id _ _ =>
    match w.webhooks.get? id with
    | some (.toEnqueue _) => false
    | _ => true
  | .finishWebhook id _ =>
    match w.webhooks.get? id with
    | some (.done (some order)) => (w.webhooks.find? fun _ stage => stage == .toEnqueue order).isNone
    | _ => true
  | _ => true

variable {subscription : SubscriptionId} {event : InternalPaymentEvent} {payment : GatewayPayment}
  {provider : PaymentProviderName} {fresh : FreshOrder}

/-- A payment that turns an order paid, and finds it without a server, answers with it. -/
theorem applyPaymentOutcome_answers {answer : Option OrderId} {id : OrderId} {o o' : Order}
    (applies : applyPaymentOutcome db now subscription event payment provider fresh =
      .ok (after, answer)) (stored : db.orders.get? id = some o) (unpaid : o.status ≠ .paid)
    (stored' : after.orders.get? id = some o') (owed : o'.IsOwed) : answer = some id := by
  obtain ⟨paid, waits⟩ := owed
  have turned : o.status ≠ o'.status := by rwa [paid]
  obtain ⟨s, mid, known, resolves, -⟩ := applyPaymentOutcome_turns applies stored stored' turned
  rcases applyPaymentOutcome_resolves applies with ⟨rfl, -⟩ | ⟨_, _, _, _, known', resolves', settled⟩
  · simp [stored] at stored'
    exact absurd (congrArg Order.status stored') turned
  obtain rfl := Option.mem_unique known known'
  obtain ⟨rfl, rfl, rfl⟩ : mid = _ ∧ id = _ ∧ o = _ := by simpa [resolves] using resolves'
  have found := (resolved_of_found resolves).frame.1
  obtain ⟨_, orders, booked⟩ := settled.booked found
  obtain rfl : _ = o' := by simpa [orders, found] using stored'
  -- Unless the payment is confirmed, the order ends up in another status.
  cases booked with
  | kept => exact absurd rfl turned
  | paid unsettled confirmed amount answers => rwa [answers, if_pos]
  | refunded => cases paid
  | closed pending closes => rcases closes with rfl | rfl <;> cases paid

/-- An order that is owed a server was owed it before, or a payment has just answered with it. -/
theorem exec_isOwed (executed : exec db tx = .ok after) {id : OrderId} {o' : Order}
    (stored' : after.orders.get? id = some o') (owed : o'.IsOwed) :
    (∃ o, db.orders.get? id = some o ∧ o.IsOwed) ∨
      ∃ now subscription event payment provider fresh,
        tx = .applyPaymentOutcome now subscription event payment provider fresh ∧
        applyPaymentOutcome db now subscription event payment provider fresh =
          .ok (after, some id) := by
  obtain ⟨paid, waits⟩ := owed
  rcases (exec_orders executed).origin stored' with ⟨o, stored, step⟩ | ⟨-, new⟩
  · cases step.move with
    | kept status server => exact .inl ⟨o, stored, status ▸ paid, server ▸ waits⟩
    | confirmed called unsettled status server =>
      subst called
      obtain ⟨answer, applies⟩ := map_fst_eq_ok_iff.mp executed
      obtain rfl := applyPaymentOutcome_answers applies stored unsettled.1 stored' ⟨paid, waits⟩
      exact .inr ⟨_, _, _, _, _, _, rfl, applies⟩
    | refunded called returned status => simp [status] at paid
    | closed pending status => rcases status with status | status <;> simp [status] at paid
    | overwritten blind status => rcases status with status | status <;> simp [status] at paid
    | provisioned serves status server => exact absurd waits server
    | delivered serves status server => simp [server] at waits
  · cases new with
    | first status => simp [status] at paid
    | renewal kind server => simp [server] at waits

/-- Every order that is owed a server is in the queue, or some execution is about to put it there. -/
def NoneForgotten (w : World) : Prop :=
  ∀ order o, w.db.orders.get? order = some o → o.IsOwed →
    order ∈ w.enqueued ∨ ∃ id, w.webhooks.get? id = some (.toEnqueue order)

theorem issued_applies
    (issues : issued w op =
      some (.applyPaymentOutcome now subscription event payment provider fresh)) :
    ∃ id, op = .applyWebhook id now fresh ∧
      w.webhooks.get? id = some (.resolved subscription event payment provider) := by
  cases op with
  | applyWebhook id now' fresh' =>
    simp only [issued] at issues
    split at issues
    · rename_i stage
      cases issues
      exact ⟨id, rfl, stage⟩
    · cases issues
  | issue tx =>
    simp only [issued] at issues
    split at issues
    · rename_i direct
      cases issues
      cases direct
    · cases issues
  | _ =>
    simp only [issued] at issues
    (repeat' split at issues) <;> cases issues

variable {order : OrderId}

theorem enqueued_remember (queued : order ∈ w.enqueued) :
    order ∈ (remember w op).enqueued := by
  cases op with
  | enqueueWebhook | retryProvisioning =>
    simp only [remember]
    split
    · exact List.mem_append_left _ queued
    · exact queued
  | _ =>
    simp only [remember]
    (repeat' split) <;> exact queued

/-- An order that is due is enqueued first, or stays due. -/
theorem toEnqueue_remember {id : NotificationId}
    (pending : w.webhooks.get? id = some (.toEnqueue order)) (guard : EnqueuesFirst w op) :
    order ∈ (remember w op).enqueued ∨
      (remember w op).webhooks.get? id = some (.toEnqueue order) := by
  cases op with
  | resolveWebhook other provider payment =>
    refine .inr ?_
    simp only [remember]
    split
    · exact pending
    · rename_i unknown
      have different : id ≠ other := by
        rintro rfl
        simp [pending] at unknown
      simp [different, pending]
  | applyWebhook other now fresh =>
    refine .inr ?_
    by_cases same : id = other
    · simp [remember, ← same, pending, nextStage]
    · simp [remember, same, pending]
  | enqueueWebhook other =>
    simp only [remember]
    split
    · rename_i queued stage
      by_cases same : id = other
      · obtain rfl : order = queued := by simpa [← same, pending] using stage
        exact .inl (by simp)
      · exact .inr (by simp [same, pending])
    · exact .inr pending
  | finishWebhook other now =>
    refine .inr ?_
    simp only [remember]
    split
    · rename_i stage
      have different : id ≠ other := by
        rintro rfl
        simp [pending] at stage
      simp [different, pending]
    · exact pending
  | abortWebhook other now error =>
    have different : id ≠ other := by
      rintro rfl
      simp [EnqueuesFirst, pending] at guard
    exact .inr (by simp [remember, different, pending])
  | _ =>
    refine .inr ?_
    simp only [remember]
    (repeat' split) <;> exact pending

theorem step_noneForgotten (before : NoneForgotten w) (guard : EnqueuesFirst w op) :
    NoneForgotten (step w op) := by
  intro order o' stored' owed'
  have kept {o : Order} (stored : w.db.orders.get? order = some o) (owed : o.IsOwed) :
      order ∈ (step w op).enqueued ∨
        ∃ id, (step w op).webhooks.get? id = some (.toEnqueue order) := by
    rcases before order o stored owed with queued | ⟨id, pending⟩
    · exact .inl (enqueued_remember queued)
    · exact (toEnqueue_remember pending guard).imp_right fun still => ⟨id, still⟩
  rcases step_db_cases w op with same | ⟨tx, issues, executed⟩
  · rw [same] at stored'
    exact kept stored' owed'
  rcases exec_isOwed executed stored' owed' with ⟨o, stored, owed⟩ |
    ⟨now, subscription, event, payment, provider, fresh, rfl, applies⟩
  · exact kept stored owed
  · -- The execution whose transaction answered with the order goes on to enqueue it.
    obtain ⟨id, rfl, stage⟩ := issued_applies issues
    refine .inr ⟨id, ?_⟩
    simp [step, remember, stage, nextStage, applies]

/--
A notification that ends up processed leaves no paid order behind that was not enqueued, in any
run from an empty shop in which no execution is cut off before the queue, and none is overtaken.
-/
theorem found_order_is_enqueued (w : World) (ops : List Op) (id : NotificationId) (now : Time)
    (order : OrderId) (o : Order) (unsold : w.db.orders = .empty)
    (guarded : Guarded step (fun w op => EnqueuesFirst w op) w (ops ++ [.finishWebhook id now]))
    (found : (run step w ops).webhooks.get? id = some (.done (some order)))
    (stored : (run step w ops).db.orders.get? order = some o) (owed : o.IsOwed) :
    order ∈ (run step w (ops ++ [.finishWebhook id now])).enqueued := by
  rw [guarded_append] at guarded
  have none := invariant_run NoneForgotten
    (fun _ _ before guard => step_noneForgotten before guard) (by simp [NoneForgotten, unsold])
    guarded.1
  have queued : order ∈ (run step w ops).enqueued := by
    refine (none order o stored owed).resolve_right ?_
    rintro ⟨other, pending⟩
    have alone := guarded.2.1
    simp only [EnqueuesFirst, found, Option.isNone_iff_eq_none] at alone
    simpa using Table.find?_none alone pending
  rw [run_append]
  exact enqueued_remember queued

/-- The shop once the first notification has been received. -/
def sampleNotified : World :=
  { sampleShop with
    db := { sampleShop.db with webhookEvents := Table.empty.add "n1" {} rfl } }

/-- The payment is applied, enqueued and marked. -/
theorem sample_found_order_is_enqueued :
    10 ∈ (run step sampleNotified (sampleCheckout ++ samplePaid 1000 ++ [.enqueueWebhook "n1"] ++
      [.finishWebhook "n1" 1001])).enqueued :=
  found_order_is_enqueued sampleNotified _ "n1" 1001 10 _ rfl (by decide) (by decide)
    (Option.some_get (by decide)).symm ⟨by decide, by decide⟩

/--
The enqueueing fails after the commit, and the retry meets an order that is already paid:
the notification is marked processed, and the order was never enqueued.
-/
theorem paid_order_is_forgotten :
    let w := run step sampleNotified (sampleCheckout ++ samplePaid 1000 ++ [
      .abortWebhook "n1" 1001 (some "redis unavailable")] ++ samplePaid 2000 ++ [
      .finishWebhook "n1" 2001])
    (w.db.webhookEvents.get? "n1").map (·.status) = some .processed ∧
    (w.db.orders.get? 10).map (fun o => (o.status, o.provisioningStatus)) =
      some (.paid, .pending) ∧
    w.enqueued = [] := by
  decide

end PxHost

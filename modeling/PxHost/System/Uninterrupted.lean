import PxHost.System.SubscriptionLaws
import PxHost.System.TerminalStatus

/-! Transactions on a subscription whose statements nobody interrupts do what they do at once. -/

namespace PxHost.Statements

open Fallible Machine ReadCommitted ReadCommitted.Program

variable {db after : Db} {now : Time} {id : SubscriptionId} {s : Subscription}

theorem written_self (target : SubscriptionStatus) (reason : Option String) :
    written now target reason s s = s.transitioned now target reason := by
  cases target <;> rfl

/-- The row that a program leaves by itself, unless it gives up. -/
def alone (program : RowProgram) (s : Subscription) : Option Subscription :=
  (program.solo s).map Prod.snd

@[simp] theorem alone_pure : alone (pure ()) s = some s := rfl

@[simp] theorem alone_read (next : Subscription → RowProgram) :
    alone (read >>= next) s = alone (next s) s := rfl

@[simp] theorem alone_write (f : Subscription → Subscription) :
    alone (do let _ ← write f) s = some (f s) := rfl

@[simp] theorem alone_ensure (condition : Bool) (next : RowProgram) :
    alone (do ensure condition; next) s = if condition then alone next s else none := by
  cases condition <;> rfl

theorem alone_bind (program next : RowProgram) :
    alone (do program; next) s = (alone program s).bind (alone next) := by
  simp only [alone, solo_bind]
  cases program.solo s <;> rfl

@[simp] theorem alone_applyTransition (target : SubscriptionStatus) (reason : Option String) :
    alone (applyTransition now target reason) s =
      if canTransition s.status target then some (s.transitioned now target reason) else none := by
  simp [applyTransition, written_self]

@[simp] theorem alone_transitionIfAllowed (target : SubscriptionStatus) (reason : String) :
    alone (transitionIfAllowed now s target reason) s = some
      (if canTransition s.status target then s.transitioned now target (some reason) else s) := by
  unfold transitionIfAllowed
  split
  · simp_all
  · simp

@[simp] theorem alone_applyRenewal : alone (applyRenewal now) s = some (s.renewed now) := by
  unfold applyRenewal Subscription.renewed
  rw [alone_read]
  dsimp only
  split
  · rename_i overdue
    rw [alone_bind, alone_applyTransition, if_pos (by rw [overdue]; rfl)]
    rfl
  · rfl

variable {orderId : OrderId}

section Stored

variable (stored : db.subscriptions.get? id = some s)
include stored

theorem restoreService_alone {order : Order} (restored : Restored db now id s orderId order after) :
    alone (restoreService now s order) s = after.subscriptions.get? id := by
  have recovers (first : order.kind ≠ .planRenewal)
      (lapsed : s.status = .pastDue ∨ s.status = .suspended) :
      alone (restoreService now s order) s =
        (db.recovered now id s.status orderId).subscriptions.get? id := by
    have started : s.status ≠ .pending := by rcases lapsed with held | held <;> simp [held]
    have legal : canTransition s.status .active := by
      rcases lapsed with held | held <;> rw [held] <;> rfl
    simp [restoreService, first, started, lapsed, legal, Db.recovered, Db.record,
      Db.transitioned, stored]
  cases restored with
  | renewed renewal => simp [restoreService, renewal, Db.record, Db.renewed, stored]
  | activated first pending =>
    simp only [restoreService, if_neg first, if_pos pending]
    rw [alone_bind, alone_applyTransition, if_pos (by rw [pending]; rfl)]
    simp [stored, Subscription.activated]
  | recovered first lapsed => exact recovers first (lapsed.imp_right And.left)
  | @resumed after lifted serverId first lapsed server resumes =>
    have same : (if lifted then after.record (.serverReactivated serverId) else after).subscriptions =
        (db.recovered now id s.status orderId).subscriptions := by
      rw [← (unsuspend_frame resumes).1.subscriptions]
      split <;> rfl
    rw [same]
    exact recovers first (.inr lapsed)
  | untouched first other current running =>
    simp [restoreService, first, other, current, running, stored]

theorem transitionedIfAllowed_row (target : SubscriptionStatus) (reason : String) :
    (db.transitionedIfAllowed now id s target reason).subscriptions.get? id =
      alone (transitionIfAllowed now s target reason) s := by
  rw [alone_transitionIfAllowed, Db.transitionedIfAllowed]
  split <;> simp [Db.transitioned, stored]

variable {event : InternalPaymentEvent} {payment : GatewayPayment} {answer : Option OrderId}

/-- A settled order leaves the row that the statements of its transaction leave in a row. -/
theorem settleOrder_alone {order : Order}
    (settled : Settled db now id s event payment orderId order after answer) :
    alone (settleOrder now s event payment order) s = after.subscriptions.get? id := by
  cases settled with
  | absorbed closed => simp [settleOrder, closed, stored]
  | repeated paid kept undisputed =>
    simp [settleOrder, paid, kept, undisputed, recordFromGateway, stored]
  | noted unsettled waiting =>
    subst waiting
    simp [settleOrder, recordFromGateway, stored]
  | mismatched unsettled confirmed amount =>
    subst confirmed
    simp [settleOrder, amount, Db.record, stored]
  | confirmed unsettled confirmed amount restored =>
    subst confirmed
    have booked : (db.markedPaid now s payment orderId).subscriptions.get? id = some s := stored
    have settles : settleOrder now s .paymentConfirmed payment order =
        restoreService now s order := by
      simp [settleOrder, unsettled.1, unsettled.2.1, unsettled.2.2, amount]
    rw [settles]
    exact restoreService_alone booked restored
  | refunded unsettled returned reason stopped =>
    have settles : settleOrder now s event payment order =
        transitionIfAllowed now s .suspended s!"payment webhook: {event.text}" := by
      rcases returned with rfl | rfl <;> simp [settleOrder, unsettled.1, unsettled.2]
    have moved : (db.refunded now id s event payment orderId).subscriptions.get? id =
        alone (transitionIfAllowed now s .suspended s!"payment webhook: {event.text}") s :=
      transitionedIfAllowed_row (by exact stored) ..
    rw [settles, ← moved]
    -- The server is stopped afterwards, and stopping it leaves the row alone.
    cases stopped with
    | without | refused => rfl
    | suspended serverId server suspends =>
      obtain ⟨row, -, ok, rfl⟩ := suspend_ok_iff.mp suspends
      rfl
  | cancelled pending called =>
    subst called
    simp [settleOrder, pending, stored]
  | rejected unsettled failed =>
    subst failed
    have settles : settleOrder now s .paymentFailed payment order =
        if order.kind = .planRenewal then
          transitionIfAllowed now s .pastDue "payment webhook: renewal charge rejected"
        else pure () := by
      simp [settleOrder, unsettled.1, unsettled.2.1, unsettled.2.2]
    rw [settles, Db.rejected]
    by_cases renewal : order.kind = .planRenewal
    · rw [if_pos renewal, if_pos renewal, transitionedIfAllowed_row (by exact stored)]
    · rw [if_neg renewal, if_neg renewal, alone_pure]
      exact stored.symm
  | unmoved unsettled idle =>
    have passes : settleOrder now s event payment order = pure () := by
      rcases idle with ⟨rfl, -⟩ | other
      · simp [settleOrder]
      · cases event <;> simp_all [settleOrder, InternalPaymentEvent.aboutMoney]
    rw [passes, alone_pure, stored]

theorem applyPaymentOutcome_alone {provider : PaymentProviderName} {fresh : FreshOrder}
    (applies : PxHost.applyPaymentOutcome db now id event payment provider fresh =
      .ok (after, answer)) :
    alone (applyPaymentOutcome now s.planId event payment
        ((resolvedOrder db id payment provider fresh).map Prod.snd)) s =
      after.subscriptions.get? id := by
  simp only [PxHost.applyPaymentOutcome, stored, bind_eq_ok_iff] at applies
  obtain ⟨⟨mid, found⟩, resolves, settles⟩ := applies
  have resolved : resolvedOrder db id payment provider fresh = found := by
    simp [resolvedOrder, stored, resolves, Except.toOption]
  rw [resolved]
  rcases findOrCreateOrderForPayment_ok resolves with ⟨rfl, rfl⟩ | ⟨orderId, order, rfl, opened⟩
  · cases settles
    exact stored.symm
  · -- An order that is opened on the way leaves the subscription as it was.
    obtain ⟨booked, same, -⟩ := opened.frame
    have stored : mid.subscriptions.get? id = some s := by rwa [same]
    exact settleOrder_alone stored ((settleOrder_yields stored booked event).of_ok settles)

variable {reason : Option String}

theorem applyTransition_alone {target : SubscriptionStatus} {actor : Option UserId}
    (applies : PxHost.applyTransition db now id target actor reason = .ok after) :
    alone (applyTransition now target reason) s = after.subscriptions.get? id := by
  obtain ⟨row, found, legal, rfl⟩ := applyTransition_ok_iff.mp applies
  obtain rfl : s = row := by simpa [stored] using found
  simp [legal, Db.transitioned, stored]

theorem cancelForUser_alone {userId : UserId}
    (cancels : PxHost.cancelForUser db now userId id reason = .ok after) :
    alone (cancelForUser now userId reason) s = after.subscriptions.get? id := by
  have own : s.userId = userId := by
    simp only [PxHost.cancelForUser, stored] at cancels
    split at cancels
    · cases cancels
    · simp_all
  obtain ⟨row, found, legal, rfl⟩ := cancelForUser_ok cancels
  obtain rfl : s = row := by simpa [stored] using found
  simp [cancelForUser, own, legal, written_self, Db.transitioned, stored]

end Stored

theorem expireStaleOrder_alone {stale : StaleOrder} (held : stale.subscriptionId = some id)
    (stored : db.subscriptions.get? id = some s)
    (expires : PxHost.expireStaleOrder db now stale = .ok after) :
    alone (expireStaleOrder now stale.kind) s = after.subscriptions.get? id := by
  simp only [PxHost.expireStaleOrder, bind_eq_ok_iff, Db.updateOrder_ok_iff, held] at expires
  obtain ⟨_, ⟨-, rfl⟩, expires⟩ := expires
  simp only [stored] at expires
  rw [expireStaleOrder, alone_read]
  split at expires
  · rw [transitionIfAllowed_ok_iff (by exact stored)] at expires
    rw [if_pos ‹_›, expires, transitionedIfAllowed_row (by exact stored)]
  · rw [transitionIfAllowed_ok_iff (by exact stored)] at expires
    rw [if_neg ‹_›, expires, transitionedIfAllowed_row (by exact stored)]

/-- The subscription a transaction is about, and its statements on the row. -/
def statements (db : Db) (s : Subscription) : Tx → Option (SubscriptionId × RowTx)
  | .cancelForUser now user id reason => some (id, .cancelForUser now user reason)
  | .updateStatusAsAdmin now id status reason _ => some (id, .updateStatusAsAdmin now status reason)
  | .applyPaymentOutcome now id event payment provider fresh =>
    some (id, .applyPaymentOutcome now s.planId event payment
      ((resolvedOrder db id payment provider fresh).map Prod.snd))
  | .expireStaleOrder now stale => stale.subscriptionId.map (·, .expireStaleOrder now stale.kind)
  | .suspendOverdue now graceDays id => some (id, .suspendOverdue now graceDays)
  | .finishCancellation now ended => some (ended.id, .finishCancellation now ended.cancelReason)
  | _ => none

theorem statements_alone {tx : Tx} {rowTx : RowTx} (stored : db.subscriptions.get? id = some s)
    (named : statements db s tx = some (id, rowTx)) (executed : exec db tx = .ok after) :
    alone rowTx.program s = after.subscriptions.get? id := by
  cases tx with
  | cancelForUser =>
    cases named
    exact cancelForUser_alone stored executed
  | applyPaymentOutcome =>
    cases named
    obtain ⟨_, applies⟩ := map_fst_eq_ok_iff.mp executed
    exact applyPaymentOutcome_alone stored applies
  | expireStaleOrder now stale =>
    obtain ⟨_, held, found⟩ := Option.map_eq_some_iff.mp named
    cases found
    exact expireStaleOrder_alone held stored executed
  | updateStatusAsAdmin | suspendOverdue | finishCancellation =>
    cases named
    exact applyTransition_alone stored executed
  | _ => cases named

/--
A transaction that comes upon no other one in the middle, and is not interrupted, commits statement
by statement the row that it leaves all at once.
-/
theorem uninterrupted_statements_commit (db after : Db) (tx : Tx) (id : SubscriptionId)
    (s : Subscription) (rowTx : RowTx) (state : Concurrent) (sid : Nat)
    (stored : db.subscriptions.get? id = some s)
    (named : statements db s tx = some (id, rowTx)) (executed : exec db tx = .ok after)
    (free : state.Free sid) (begins : (state.session sid).program = rowTx.program)
    (current : state.version sid = s) :
    ∃ n, after.subscriptions.get? id =
      some (run State.step state (List.replicate n (.statement sid))).committed := by
  obtain ⟨row, kept, -⟩ := (exec_subscriptions executed).moved stored
  have leaves : (rowTx.program.solo s).map Prod.snd = some row :=
    (statements_alone stored named executed).trans kept
  obtain ⟨n, ends⟩ := run_alone sid rowTx.program state free begins
  rw [current, leaves] at ends
  exact ⟨n, by rw [kept, ends]; rfl⟩

def samplePendingShop : Db := { subscriptions := Store.Table.empty.add 1 samplePending rfl }

theorem sample_uninterrupted_statements_commit :
    ∃ n, (commit samplePendingShop (.cancelForUser 1000 1 1 none)).subscriptions.get? 1 =
      some (run State.step (concurrent samplePending fun _ => .cancelForUser 1000 1 none)
        (List.replicate n (.statement 0))).committed :=
  uninterrupted_statements_commit samplePendingShop _ (.cancelForUser 1000 1 1 none) 1 samplePending
    _ _ 0 rfl rfl rfl ⟨by simp [concurrent, start], by simp [concurrent, start]⟩ rfl rfl

end PxHost.Statements

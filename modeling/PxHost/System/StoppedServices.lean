import PxHost.System.History
import PxHost.System.Recovery

/-! A server is stopped once the subscription it was sold with is not live any more. -/

namespace PxHost

open Store Machine Fallible

/-- The customer is not entitled to the service any more, or for now. -/
def SubscriptionStatus.hasEnded : SubscriptionStatus → Bool
  | .suspended | .cancelled | .expired => true
  | _ => false

def Db.isServed (db : Db) (id : SubscriptionId) : Bool :=
  (db.serverOf id).any fun server => db.serverStatus server != some .suspended

/-- The server is held by a subscription that has ended. -/
def Db.isForfeited (db : Db) (server : ServerId) : Bool :=
  (db.subscriptions.find? fun _ s => s.status.hasEnded && s.serverId == some server).isSome

/--
The transaction leaves no server running behind: a refund finds the server set up, what an ended
subscription holds is not let go, nothing is attached to one that has ended, and whatever else ends
a subscription ends one that is not served.
-/
def Tx.stopsService (db : Db) : Tx → Bool
  | .applyPaymentOutcome _ id event _ _ _ =>
    !(event == .paymentRefunded || event == .paymentChargeback) ||
      (db.serverOf id).all fun server => db.serverStatus server != some .setupPending
  | .unsuspend server _ => !db.isForfeited server
  | .createOnNode _ dto _ _ _ =>
    dto.attachSubscriptionId.all fun id => !(db.statusOf id).any (·.hasEnded)
  | tx => (tx.halts.toList ++ (tx.closes db).toList).all fun id => !db.isServed id

section Transactions

variable {db after : Db} {tx : Tx} {id : SubscriptionId} {s s' : Subscription} {server : ServerId}

theorem SubscriptionMove.ends (move : SubscriptionMove db tx id s s') (live : ¬s.status.hasEnded)
    (ended : s'.status.hasEnded) : tx.halts = some id ∨ tx.closes db = some id := by
  -- Of all moves only a lapse and a closing lead into a status that has ended.
  cases move with
  | kept _ status => exact absurd (status ▸ ended) live
  | opened _ _ _ status => simp [status, SubscriptionStatus.hasEnded] at ended
  | lapsed _ _ status asked =>
    rcases status with status | status
    · simp [status, SubscriptionStatus.hasEnded] at ended
    · exact .inl (asked status)
  | closed _ asked => exact .inr asked
  | attached _ _ _ row | detached _ _ row =>
    subst row
    exact absurd ended live

theorem suspended_of_not_isServed (unserved : ¬db.isServed id)
    (stored : db.subscriptions.get? id = some s) (held : s.serverId = some server) :
    db.serverStatus server = some .suspended := by
  simpa [Db.isServed, Db.serverOf, stored, held] using unserved

theorem stays_suspended (executed : exec db tx = .ok after)
    (spared : tx.removes ≠ some server) (unlifted : ∀ required, ¬ tx.lifts db server required)
    (suspended : db.serverStatus server = some .suspended) :
    after.serverStatus server = some .suspended := by
  obtain ⟨row, stored, status⟩ := serverStatus_eq_some_iff.mp suspended
  obtain ⟨row', stored', move⟩ := exec_servers_stored executed stored spared
  exact serverStatus_eq_some_iff.mpr ⟨row', stored', move.keeps_suspended unlifted status⟩

variable {payment : GatewayPayment} {provider : PaymentProviderName} {fresh : FreshOrder}
  {answer : Option OrderId}

/-- A confirmed payment lets a server go only together with its subscription. -/
theorem confirmed_servers_or_active {now : Time}
    (applies : applyPaymentOutcome db now id .paymentConfirmed payment provider fresh =
      .ok (after, answer)) :
    after.servers = db.servers ∨ after.statusOf id = some .active := by
  rcases applyPaymentOutcome_ok applies with
    ⟨rfl, -⟩ | ⟨s, mid, orderId, order, stored, resolved, settled⟩
  · exact .inl rfl
  obtain ⟨-, subscriptions, servers⟩ := resolved.frame
  rw [← servers]
  -- Only a confirmation that resumes the subscription lifts a suspension.
  cases settled with
  | absorbed | repeated | mismatched | unmoved => exact .inl rfl
  | noted _ other | cancelled _ other | rejected _ other => cases other
  | refunded _ other => simp at other
  | confirmed unsettled confirmed amount restored =>
    have stored' : (mid.markedPaid now s payment orderId).subscriptions.get? id = some s := by
      rw [← stored, ← subscriptions]
      rfl
    have status := restored.status stored'
    cases restored with
    | renewed | activated | recovered | untouched => exact .inl rfl
    | resumed serverId first lapsed =>
      right
      unfold Db.statusOf
      rw [status, lapsed]
      simp [restoredStatus, first, SubscriptionStatus.isAlive]

/-- What an ended subscription holds stays suspended as long as the subscription has ended. -/
theorem stays_stopped (linked : Linked db) (executed : exec db tx = .ok after)
    (stops : tx.stopsService db) (spared : tx.removes ≠ some server)
    (stored : db.subscriptions.get? id = some s) (ended : s.status.hasEnded)
    (held : s.serverId = some server) (suspended : db.serverStatus server = some .suspended)
    (stored' : after.subscriptions.get? id = some s') (ended' : s'.status.hasEnded) :
    after.serverStatus server = some .suspended := by
  -- Only an administrator and a confirmed payment can lift the suspension at all.
  by_cases lifting : ∃ required, tx.lifts db server required
  · obtain ⟨required, lifts⟩ := lifting
    cases tx with
    | unsuspend other source =>
      simp only [Tx.lifts, Bool.and_eq_true, beq_iff_eq] at lifts
      obtain ⟨rfl, -⟩ := lifts
      -- The subscription itself is what forfeits the server.
      have free := Option.not_isSome_iff_eq_none.mp (by simpa [Tx.stopsService, Db.isForfeited] using stops)
      simpa [ended, held] using Table.find?_none free stored
    | applyPaymentOutcome now subscription event payment provider fresh =>
      simp only [Tx.lifts, Bool.and_eq_true, beq_iff_eq] at lifts
      obtain ⟨⟨-, rfl⟩, own⟩ := lifts
      -- A server has one holder, so that the payment is one of this subscription.
      obtain ⟨other, found, held'⟩ := Option.bind_eq_some_iff.mp own
      obtain rfl := linked.exclusive stored found held held'
      obtain ⟨answer, applies⟩ := map_fst_eq_ok_iff.mp executed
      rcases confirmed_servers_or_active applies with same | active
      · simpa [Db.serverStatus, Db.server?, same] using suspended
      · have status : s'.status = .active := by simpa [Db.statusOf, stored'] using active
        simp [status, SubscriptionStatus.hasEnded] at ended'
    | _ => cases lifts
  · exact stays_suspended executed spared (not_exists.mp lifting) suspended

theorem refund_stops {now : Time} {event : InternalPaymentEvent} (linked : Linked db)
    (returned : event = .paymentRefunded ∨ event = .paymentChargeback)
    (applies : applyPaymentOutcome db now id event payment provider fresh = .ok (after, answer))
    (stored : db.subscriptions.get? id = some s) (live : ¬s.status.hasEnded)
    (held : s.serverId = some server) (chosen : db.serverStatus server ≠ some .setupPending)
    (stored' : after.subscriptions.get? id = some s') (ended' : s'.status.hasEnded) :
    after.serverStatus server = some .suspended := by
  -- The subscription has ended only now, so that the refund was not without effect.
  have turned : after.subscriptions ≠ db.subscriptions := by
    intro same
    rw [same, stored] at stored'
    cases stored'
    exact live ended'
  rcases applyPaymentOutcome_ok applies with
    ⟨rfl, -⟩ | ⟨_, mid, orderId, order, found, resolved, settled⟩
  · exact (turned rfl).elim
  obtain rfl := Option.mem_unique stored found
  obtain ⟨-, subscriptions, servers⟩ := resolved.frame
  obtain ⟨row, known⟩ := linked.attached stored held
  have effective : after ≠ mid := by
    rintro rfl
    exact turned subscriptions
  exact settled.stops_server returned effective held (servers ▸ known) fun waiting =>
    chosen (serverStatus_eq_some_iff.mpr ⟨row, known, waiting⟩)

/-- A subscription that a transaction ends has its server suspended afterwards. -/
theorem ends_stopped (linked : Linked db) (executed : exec db tx = .ok after)
    (stops : tx.stopsService db) (stored : db.subscriptions.get? id = some s)
    (live : ¬s.status.hasEnded) (held : s.serverId = some server)
    (stored' : after.subscriptions.get? id = some s') (ended' : s'.status.hasEnded) :
    after.serverStatus server = some .suspended := by
  -- The transaction asks for the end, which makes it one of those the condition speaks of.
  obtain ⟨_, same, move⟩ := (exec_subscriptions executed).moved stored
  obtain rfl := Option.mem_unique same stored'
  have asked := move.ends live ended'
  have listed : id ∈ tx.halts.toList ++ (tx.closes db).toList := by
    rcases asked with asked | asked <;> simp [asked]
  cases tx with
  | applyPaymentOutcome now subscription event payment provider fresh =>
    obtain ⟨answer, applies⟩ := map_fst_eq_ok_iff.mp executed
    obtain ⟨returned, rfl⟩ : (event = .paymentRefunded ∨ event = .paymentChargeback) ∧
        subscription = id := by
      cases event <;> simp [Tx.halts, Tx.closes] at asked ⊢ <;> exact asked
    -- A refund stops the server by itself, unless that still waits for its software.
    refine refund_stops linked returned applies stored live held ?_ stored' ended'
    have back : (event == .paymentRefunded || event == .paymentChargeback) = true := by
      simpa using returned
    simpa [Tx.stopsService, back, Db.serverOf, stored, held] using stops
  | unsuspend | createOnNode => simp [Tx.halts, Tx.closes] at asked
  | removeServer => simp [Tx.halts, Tx.closes] at asked
  | _ =>
    -- What else ends a subscription finds its server suspended, and leaves it so.
    have unserved := List.all_eq_true.mp stops id listed
    have suspended := suspended_of_not_isServed (by simpa using unserved) stored held
    refine stays_suspended executed ?_ ?_ suspended
    · intro removed
      cases removed
    · intro required lifts
      cases lifts

end Transactions

/-- Nothing that was started is still under way. -/
def World.isQuiet (w : World) : Bool :=
  w.webhooks.rows.isEmpty && w.charges.isEmpty && w.staleOrders.isEmpty && w.pastDue.isEmpty &&
    w.overdue.isEmpty && w.ended.isEmpty && w.cancelling.isEmpty && w.suspensions.isEmpty &&
    w.provisioning.isEmpty && w.provisioned.isEmpty && w.transfers.isEmpty

/--
No step leaves a server running behind: whoever ends a subscription knows the server it has, and a
server is set up by the time it is suspended for billing.
-/
def stopsServices (w : World) (op : Op) : Bool :=
  match op with
  | .suspendOverdue _ _ listed | .finishCancellation _ listed =>
    !w.db.isServed listed.id || w.db.serverOf listed.id == listed.serverId
  | .cancelSubscription _ request =>
    !w.db.isServed request.subscription || w.db.serverOf request.subscription == request.server
  | .suspendForBilling _ pending => w.db.serverStatus pending.server != some .setupPending
  | _ => (issued w op).all (·.stopsService w.db)

section Runs

variable {w : World} {op : Op} {server : ServerId}

/-- The server is suspended, or some process is about to suspend it. -/
def World.IsStopping (w : World) (server : ServerId) : Prop :=
  w.db.serverStatus server = some .suspended ∨ ∃ pending ∈ w.suspensions, pending.server = server

/-- Whatever an ended subscription holds is being stopped. -/
structure Stops (w : World) : Prop where
  linked : Linked w.db
  stopping : ∀ {id s server}, w.db.subscriptions.get? id = some s → s.status.hasEnded →
    s.serverId = some server → w.IsStopping server

variable {pending : PendingSuspension}

theorem suspensions_kept (due : pending ∈ w.suspensions)
    (other : ∀ now done, op ≠ .suspendForBilling now done) :
    pending ∈ (step w op).suspensions := by
  -- The list is appended to by three kinds of steps, and shortened by the one that is ruled out.
  change pending ∈ (remember w op).suspensions
  cases op with
  | suspendForBilling now done => exact absurd rfl (other now done)
  | suspendOverdue | finishCancellation | cancelSubscription => exact List.mem_append_left _ due
  | _ =>
    simp only [remember]
    (repeat' split) <;> exact due

theorem step_linked (linked : Linked w.db) (op : Op) : Linked (step w op).db := by
  rcases step_db_cases w op with same | ⟨tx, -, executed⟩
  · rwa [same]
  · exact exec_linked linked executed

/--
Whatever happens to a shop that starts without servers, a server that a transfer or a subscription
names exists, none is left half deleted, and none belongs to two subscriptions.
-/
theorem rows_stay_linked (w : World) (ops : List Op) :
    let bare := { w.db with servers := .empty, transfers := .empty, subscriptions := .empty }
    Linked (run step { w with db := bare } ops).db :=
  invariant_always (fun w : World => Linked w.db) (fun _ op linked => step_linked linked op)
    (.of_empty rfl rfl rfl) ops

theorem Stops.suspendForBilling {now : Time} (stops : Stops w)
    (ready : w.db.serverStatus pending.server ≠ some .setupPending) :
    Stops (step w (.suspendForBilling now pending)) := by
  refine ⟨step_linked stops.linked _, fun {id s server} stored ended held => ?_⟩
  have committed : (step w (.suspendForBilling now pending)).db = w.db ∨
      exec w.db (.suspend now pending.server pending.reason .billing) =
        .ok (step w (.suspendForBilling now pending)).db := by
    rcases step_db_cases w (.suspendForBilling now pending) with same | ⟨tx, asked, executed⟩
    · exact .inl same
    · simp only [issued, Option.ite_none_right_eq_some, Option.some.injEq] at asked
      obtain ⟨-, rfl⟩ := asked
      exact .inr executed
  -- The subscriptions are as before, so that the question is what became of the server.
  have subscriptions : (step w (.suspendForBilling now pending)).db.subscriptions =
      w.db.subscriptions := by
    rcases committed with same | executed
    · rw [same]
    · exact (exec_machines_frame rfl executed).1.subscriptions
  rw [subscriptions] at stored
  rcases stops.stopping stored ended held with suspended | ⟨due, member, rfl⟩
  · -- A server that is suspended already stays so, for whatever reason this one is.
    left
    rcases committed with same | executed
    · rwa [same]
    · exact stays_suspended executed nofun nofun suspended
  · by_cases same : due = pending
    · -- The server is there and set up, so that this is the suspension that was due.
      subst same
      obtain ⟨row, known⟩ := stops.linked.attached stored held
      obtain ⟨after, suspends⟩ := suspend_succeeds known (fun waiting =>
        ready (serverStatus_eq_some_iff.mpr ⟨row, known, waiting⟩)) now due.reason .billing
      have done : (step w (.suspendForBilling now due)).db = after := by
        have executed : exec w.db (.suspend now due.server due.reason .billing) = .ok after := suspends
        simp [step_db, issued, member, commit, executed]
      left
      rw [done]
      exact suspend_serverStatus suspends
    · -- Another suspension than the one carried out is still due.
      exact .inr ⟨due, (List.mem_erase_of_ne same).mpr member, rfl⟩

section Commits

variable {tx : Tx} (stops : Stops w) (other : ∀ now done, op ≠ .suspendForBilling now done)
  (executed : exec w.db tx = .ok (step w op).db)

include stops other executed

theorem Stops.committed (ok : tx.stopsService w.db) : Stops (step w op) := by
  refine ⟨exec_linked stops.linked executed, fun {id s' server} stored' ended' held' => ?_⟩
  rcases exec_serverId executed stored' held' with ⟨s, stored, held, spared⟩ |
    ⟨now, dto, node, context, fresh, rfl, attaches, rfl⟩
  · -- The link was there before; the subscription had ended, or it ends with this step.
    by_cases ended : s.status.hasEnded
    · rcases stops.stopping stored ended held with suspended | ⟨due, member, own⟩
      · exact .inl (stays_stopped stops.linked executed ok spared stored ended held suspended stored'
          ended')
      · exact .inr ⟨due, suspensions_kept member other, own⟩
    · exact .inl (ends_stopped stops.linked executed ok stored ended held stored' ended')
  · -- The server is attached to a subscription that goes on, and creating it ends none.
    rcases (exec_subscriptions executed).origin stored' with ⟨s, stored, move⟩ | ⟨-, new⟩
    · have live : ¬s.status.hasEnded := by
        simpa [Tx.stopsService, attaches, Db.statusOf, stored] using ok
      rcases move.ends live ended' with asked | asked <;> cases asked
    · simp [new.status, SubscriptionStatus.hasEnded] at ended'

theorem Stops.informed {target : SubscriptionId} {known : Option ServerId}
    (unlifted : ∀ server required, ¬tx.lifts w.db server required) (spares : tx.removes = none)
    (creates : ∀ now dto node context fresh, tx ≠ .createOnNode now dto node context fresh)
    (only : ∀ id, tx.halts = some id ∨ tx.closes w.db = some id → id = target)
    (knows : !w.db.isServed target || w.db.serverOf target == known)
    (due : ∃ reason, (PxHost.step w op).suspensions =
      w.suspensions ++ dueSuspension known reason) :
    Stops (PxHost.step w op) := by
  refine ⟨exec_linked stops.linked executed, fun {id s' server} stored' ended' held' => ?_⟩
  have stays (suspended : w.db.serverStatus server = some .suspended) :
      (PxHost.step w op).db.serverStatus server = some .suspended :=
    stays_suspended executed (by simp [spares]) (unlifted server) suspended
  rcases exec_serverId executed stored' held' with ⟨s, stored, held, -⟩ |
    ⟨now, dto, node, context, fresh, called, -⟩
  · by_cases ended : s.status.hasEnded
    · rcases stops.stopping stored ended held with suspended | ⟨pending, member, own⟩
      · exact .inl (stays suspended)
      · exact .inr ⟨pending, suspensions_kept member other, own⟩
    · obtain ⟨_, same, move⟩ := (exec_subscriptions executed).moved stored
      obtain rfl := Option.mem_unique same stored'
      obtain rfl := only id (move.ends ended ended')
      simp only [Bool.or_eq_true, Bool.not_eq_true', beq_iff_eq] at knows
      -- Either there was nothing left to stop, or what is made due is the server in question.
      rcases knows with unserved | own
      · exact .inl (stays (suspended_of_not_isServed (by simpa using unserved) stored held))
      · obtain rfl : known = some server := by simpa [← own, Db.serverOf, stored] using held
        obtain ⟨reason, due⟩ := due
        exact .inr ⟨⟨server, reason⟩, by simp [due, dueSuspension], rfl⟩
  · exact (creates _ _ _ _ _ called).elim

end Commits

/-- Whatever ends a subscription leaves its server suspended or about to be. -/
theorem Stops.step (stops : Stops w) (ok : stopsServices w op) : Stops (step w op) := by
  by_cases billing : ∃ now pending, op = .suspendForBilling now pending
  · obtain ⟨now, pending, rfl⟩ := billing
    exact stops.suspendForBilling (by simpa [stopsServices] using ok)
  -- Of the other steps, three end a subscription and leave it to a later one to stop the server.
  have other : ∀ now done, op ≠ .suspendForBilling now done :=
    fun now done same => billing ⟨now, done, same⟩
  rcases step_db_cases w op with same | ⟨tx, asked, executed⟩
  · -- Nothing is committed, so that what was due has stayed due.
    refine ⟨same ▸ stops.linked, fun {id s server} stored ended held => ?_⟩
    rw [same] at stored
    rcases stops.stopping stored ended held with suspended | ⟨due, member, own⟩
    · exact .inl (by rwa [same])
    · exact .inr ⟨due, suspensions_kept member other, own⟩
  cases op with
  | suspendForBilling now done => exact absurd rfl (other now done)
  | suspendOverdue now graceDays listed =>
    simp only [issued, Option.ite_none_right_eq_some, Option.some.injEq] at asked
    obtain ⟨member, rfl⟩ := asked
    have done : (suspendOverdueSubscription w.db now graceDays listed.id).isOk :=
      isOk_iff.mpr ⟨_, executed⟩
    refine stops.informed other executed (by simp [Tx.lifts]) rfl (by simp) ?_ ok ?_
    · simp [Tx.halts, Tx.closes, eq_comm]
    · exact ⟨_, congrArg (w.suspensions ++ ·) (if_pos ⟨member, done⟩)⟩
  | finishCancellation now listed =>
    simp only [issued, Option.ite_none_right_eq_some, Option.some.injEq] at asked
    obtain ⟨member, rfl⟩ := asked
    have done : (PxHost.finishCancellation w.db now listed).isOk := isOk_iff.mpr ⟨_, executed⟩
    refine stops.informed other executed (by simp [Tx.lifts]) rfl (by simp) ?_ ok ?_
    · simp [Tx.halts, Tx.closes, eq_comm]
    · exact ⟨_, congrArg (w.suspensions ++ ·) (if_pos ⟨member, done⟩)⟩
  | cancelSubscription now request =>
    simp only [issued] at asked
    split at asked
    · cases asked
    rename_i known
    split at asked
    · -- A cancellation at the end of the period ends nothing yet.
      cases asked
      exact stops.committed other executed rfl
    · rename_i immediate
      cases asked
      have done : (cancelForUser w.db now request.user request.subscription request.reason).isOk :=
        isOk_iff.mpr ⟨_, executed⟩
      refine stops.informed other executed (by simp [Tx.lifts]) rfl (by simp) ?_ ok ?_
      · simp [Tx.halts, Tx.closes, eq_comm]
      · exact ⟨_, congrArg (w.suspensions ++ ·)
          (if_pos ⟨Decidable.not_not.mp known, immediate, done⟩)⟩
  | _ => exact stops.committed other executed (by simpa [stopsServices, asked] using ok)

end Runs

def sampleHost : World where
  db := commit samplePanel (.updatePlan 1 { maxSlots := some (some 2) })

/-- Whether nothing is under way at the end, and what then becomes of subscription and server. -/
def sampleOutcome (ops : List Op) :
    Bool × Option SubscriptionStatus × Option ServerId × Option ServerStatus :=
  let w := run step sampleHost ops
  (w.isQuiet, w.db.statusOf 20, w.db.serverOf 20, w.db.serverStatus 1)

end PxHost

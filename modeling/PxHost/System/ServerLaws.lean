import PxHost.System.Frames

/-! What a transaction can do to a server, said once for all of them. -/

namespace PxHost

open Store Fallible

def Tx.removes : Tx → Option ServerId
  | .removeServer id => some id
  | _ => none

def Db.serverOf (db : Db) (subscription : SubscriptionId) : Option ServerId :=
  (db.subscriptions.get? subscription).bind (·.serverId)

def Tx.suspends (db : Db) (id : ServerId) (source : SuspensionSource) : Tx → Bool
  | .suspend _ server _ suspender => server == id && suspender == source
  | .applyPaymentOutcome _ subscription event _ _ _ =>
    source == .billing && (event == .paymentRefunded || event == .paymentChargeback) &&
      db.serverOf subscription == some id
  | _ => false

/-- The transaction may lift the suspension of this server, if it has the required source. -/
def Tx.lifts (db : Db) (id : ServerId) (requireSource : Option SuspensionSource) : Tx → Bool
  | .unsuspend server required => server == id && required == requireSource
  | .applyPaymentOutcome _ subscription event _ _ _ =>
    requireSource == some .billing && event == .paymentConfirmed &&
      db.serverOf subscription == some id
  | _ => false

inductive ServerMove (db : Db) (tx : Tx) (id : ServerId) (s : Server) : Server → Prop where
  | kept : ServerMove db tx id s s
  | suspended {now : Time} {reason : String} {source : SuspensionSource}
      (asked : tx.suspends db id source) :
    ServerMove db tx id s (s.suspended now reason source)
  | lifted {requireSource : Option SuspensionSource} (asked : tx.lifts db id requireSource)
      (matching : requireSource = none ∨ s.suspensionSource = requireSource) :
    ServerMove db tx id s s.unsuspended
  | reported {now : Time} {node : NodeId} {successful : Bool}
      (called : tx = .reportInstallResult now node id successful) :
    ServerMove db tx id s (s.reported now successful)
  | undispatched (called : tx = .dispatchFailed id) :
    ServerMove db tx id s { s with status := .installFailed }
  | departed {now : Time} {read : Server} {target : NodeId} {allocation : Option AllocationId}
      {transfer : TransferId}
      (called : tx = .initiateTransfer now id read target allocation transfer) :
    ServerMove db tx id s { s with status := .transferring }
  | stayed {transfer : TransferId} {t : ServerTransfer}
      (stored : db.transfers.get? transfer = some t) (own : t.serverId = id) :
    ServerMove db tx id s { s with status := .ready }
  | moved {now : Time} {node : NodeId} {transfer : TransferId} {error : Option String}
      {t : ServerTransfer} (called : tx = .handleResult now node transfer true error)
      (stored : db.transfers.get? transfer = some t) (own : t.serverId = id) :
    ServerMove db tx id s (s.movedTo t)
  | resized {now : Time} {planId : PlanId} {plan : Plan}
      (called : tx = .applyToServers now planId) (planned : db.plans.get? planId = some plan)
      (drifted : s.drifted planId plan.limits) :
    ServerMove db tx id s { s with limits := plan.limits }

/-- A server is born in one of two statuses, and not suspended. -/
structure NewServer (tx : Tx) (id : ServerId) (s : Server) : Prop where
  called : ∃ now dto node context fresh,
    tx = .createOnNode now dto node context fresh ∧ fresh.id = id ∧ s.planId = some dto.planId
  status : s.status = .installing ∨ s.status = .setupPending

abbrev ServersEvolve (tx : Tx) (db after : Db) : Prop :=
  Table.Evolves (fun id row row' => ServerMove db tx id row.val row'.val)
    (fun id row => NewServer tx id row.val) db.servers after.servers

variable {db after : Db} {now : Time} {tx : Tx}

theorem ServersEvolve.of_eq (same : after.servers = db.servers) : ServersEvolve tx db after := by
  unfold ServersEvolve
  rw [same]
  exact .refl (fun _ _ => .kept) _

theorem ServersEvolve.of_set {id : ServerId} {row row' : ServerRow}
    (one : after.servers = db.servers.modify id fun _ => row')
    (stored : db.servers.get? id = some row) (move : ServerMove db tx id row.val row'.val) :
    ServersEvolve tx db after := by
  unfold ServersEvolve
  rw [one]
  refine .modify (fun _ _ => .kept) ?_
  intro other found
  obtain rfl : row = other := by simpa [stored] using found
  exact move

section Webhook

variable {base : Db} {id : SubscriptionId} {s : Subscription} {orderId : OrderId} {order : Order}
  {payment : GatewayPayment}

theorem Restored.servers_evolve (same : base.servers = db.servers)
    (asked : ∀ server, s.serverId = some server → tx.lifts db server (some .billing))
    (restored : Restored base now id s orderId order after) : ServersEvolve tx db after := by
  cases restored with
  | renewed | activated | recovered | untouched => exact .of_eq same
  | @resumed resumed lifted serverId first lapsed server resumes =>
    have rows : (if lifted then resumed.record (.serverReactivated serverId) else resumed).servers =
        resumed.servers := by
      split <;> rfl
    rcases unsuspend_ok resumes with rfl | ⟨row, stored, matching, ok, rfl⟩
    · exact .of_eq (rows.trans same)
    · have stored' : db.servers.get? serverId = some row := same ▸ stored
      exact .of_set (rows.trans (by rw [← same]; rfl)) stored' (.lifted (asked serverId server) matching)

theorem Stopped.servers_evolve {reason : String} (same : base.servers = db.servers)
    (asked : ∀ server, s.serverId = some server → tx.suspends db server .billing)
    (stopped : Stopped base now s reason after) : ServersEvolve tx db after := by
  cases stopped with
  | without | refused => exact .of_eq same
  | suspended serverId server suspends =>
    obtain ⟨row, stored, ok, rfl⟩ := suspend_ok_iff.mp suspends
    have stored' : db.servers.get? serverId = some row := same ▸ stored
    exact .of_set (by rw [← same]; rfl) stored' (.suspended (asked serverId server))

theorem applyPaymentOutcome_servers {event : InternalPaymentEvent}
    {provider : PaymentProviderName} {fresh : FreshOrder} {answer : Option OrderId}
    (applies : applyPaymentOutcome db now id event payment provider fresh = .ok (after, answer)) :
    ServersEvolve (.applyPaymentOutcome now id event payment provider fresh) db after := by
  rcases applyPaymentOutcome_ok applies with ⟨rfl, -⟩ | ⟨s, mid, orderId, order, stored, resolved,
    settled⟩
  · exact .of_eq rfl
  have same : mid.servers = db.servers := by cases resolved <;> rfl
  cases settled with
  | absorbed | repeated | noted | mismatched | unmoved | cancelled => exact .of_eq same
  | confirmed unsettled confirmed amount restored =>
    exact restored.servers_evolve (by exact same) fun server held => by
      simp [Tx.lifts, confirmed, Db.serverOf, stored, held]
  | refunded unsettled returned reason stopped =>
    refine stopped.servers_evolve ?_ fun server held => by
      simp [Tx.suspends, returned, Db.serverOf, stored, held]
    exact (transitionedIfAllowed_frame ..).1.servers.trans same
  | rejected unsettled failed => exact .of_eq ((rejected_frame ..).1.servers.trans same)

end Webhook

theorem Ended.servers_evolve {transfer : TransferId} {t : ServerTransfer} {f : Server → Server}
    {status : TransferStatus} (ended : Ended db transfer t f status after)
    (move : ∀ s, ServerMove db tx t.serverId s (f s)) : ServersEvolve tx db after := by
  obtain ⟨row, ok, allocations, g, stored, rfl, -⟩ := ended.rows
  exact .of_set rfl stored (move row.val)

/-- A transaction that removes no server only adds servers and moves them. -/
theorem exec_servers (spares : tx.removes = none) (executed : exec db tx = .ok after) :
    ServersEvolve tx db after := by
  cases tx with
  | applyPaymentOutcome now subscription event payment provider fresh =>
    obtain ⟨_, applies⟩ := map_fst_eq_ok_iff.mp executed
    exact applyPaymentOutcome_servers applies
  | createOnNode now dto node context fresh =>
    obtain ⟨plan, created⟩ := createOnNode_ok executed
    obtain ⟨server, unused, allocations, subscriptions, new, -, rfl⟩ := created.rows
    refine .add unused (fun _ _ => .kept) ⟨⟨_, _, _, _, _, rfl, rfl, new.planId⟩, ?_⟩
    rw [new.status]
    split
    · exact .inl rfl
    · exact .inr rfl
  | removeServer id => cases spares
  | suspend now id reason source =>
    obtain ⟨row, stored, ok, rfl⟩ := suspend_ok_iff.mp executed
    exact .of_set rfl stored (.suspended (by simp [Tx.suspends]))
  | unsuspend id requireSource =>
    obtain ⟨_, lifts⟩ := map_fst_eq_ok_iff.mp executed
    rcases unsuspend_ok lifts with rfl | ⟨row, stored, matching, ok, rfl⟩
    · exact .of_eq rfl
    · exact .of_set rfl stored (.lifted (by simp [Tx.lifts]) matching)
  | reportInstallResult now node id successful =>
    obtain ⟨row, stored, ok, rfl⟩ := reportInstallResult_ok executed
    exact .of_set rfl stored (.reported rfl)
  | dispatchFailed id =>
    obtain ⟨row, stored, ok, rfl⟩ := dispatchFailed_ok executed
    exact .of_set rfl stored (.undispatched rfl)
  | initiateTransfer now id read target allocation transfer =>
    obtain ⟨t, unused, row, ok, allocations, -, -, -, stored, rfl⟩ := (initiate_ok executed).rows
    exact .of_set rfl stored (.departed rfl)
  | setTransferStatus transfer stage startedAt =>
    obtain ⟨t, g, -, rfl, -⟩ := setTransferStatus_ok executed
    exact .of_eq rfl
  | failTransfer now transfer message =>
    obtain ⟨t, ended, -⟩ := failTransfer_ok executed
    exact ended.servers_evolve fun s => .stayed ended.stored rfl
  | handleResult now node transfer successful error =>
    obtain ⟨t, f, status, outcome, ended⟩ := handleResult_ok executed
    refine ended.servers_evolve fun s => ?_
    cases successful with
    | true =>
      obtain ⟨rfl, -⟩ := outcome
      exact .moved rfl ended.stored rfl
    | false =>
      obtain ⟨rfl, -⟩ := outcome
      exact .stayed ended.stored rfl
  | updatePlan plan dto =>
    obtain ⟨f, -, rfl⟩ := updatePlanRow_ok executed
    exact .of_eq rfl
  | applyToServers now plan =>
    obtain ⟨row, planned, -, rfl⟩ := applyToServers_ok executed
    simp only [ServersEvolve]
    refine .updateWhere (fun _ _ => .kept) fun id server _ drifted => ?_
    exact .resized rfl planned drifted
  | _ => exact .of_eq (exec_ledger_frame rfl executed).1.servers

end PxHost

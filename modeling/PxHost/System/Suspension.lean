import PxHost.System.ServerLaws
import PxHost.System.Settlement

/-! Who keeps a server suspended, and what can let it go. -/

namespace PxHost

open Store Machine

def Db.serverStatus (db : Db) (id : ServerId) : Option ServerStatus :=
  (db.server? id).map (·.status)

def Db.suspendedBy (db : Db) (id : ServerId) : Option SuspensionSource :=
  (db.server? id).bind (·.suspensionSource)

variable {db : Db} {id : ServerId}

theorem serverStatus_eq_some_iff {status : ServerStatus} :
    db.serverStatus id = some status ↔
      ∃ row, db.servers.get? id = some row ∧ row.val.status = status := by
  unfold Db.serverStatus Db.server?
  cases db.servers.get? id with
  | none => simp
  | some row => simp

variable {now : Time} {after : Db} {reason : String} {source : SuspensionSource}

theorem suspend_serverStatus (suspends : suspend db now id reason source = .ok after) :
    after.serverStatus id = some .suspended := by
  obtain ⟨row, stored, ok, rfl⟩ := suspend_ok_iff.mp suspends
  exact serverStatus_eq_some_iff.mpr ⟨⟨_, ok⟩, Table.get?_modify_stored stored _, rfl⟩

variable {row : ServerRow}

theorem suspend_succeeds (stored : db.servers.get? id = some row)
    (chosen : row.val.status ≠ .setupPending) (now : Time) (reason : String)
    (source : SuspensionSource) :
    ∃ after, suspend db now id reason source = .ok after :=
  ⟨_, suspend_ok_iff.mpr ⟨row, stored, suspended_checked row chosen now reason source, rfl⟩⟩

variable {s : Subscription} {server : ServerId}

theorem Stopped.stops_server (stopped : Stopped db now s reason after)
    (held : s.serverId = some server) (stored : db.servers.get? server = some row)
    (chosen : row.val.status ≠ .setupPending) :
    after.serverStatus server = some .suspended := by
  cases stopped with
  | without none => simp [held] at none
  | suspended serverId same suspends =>
    obtain rfl : server = serverId := by simpa [held] using same
    exact suspend_serverStatus suspends
  | refused serverId same refuses =>
    -- The row is there and set up, so that its check cannot have refused the suspension.
    obtain rfl : server = serverId := by simpa [held] using same
    obtain ⟨_, suspends⟩ := suspend_succeeds stored chosen now reason .billing
    cases refuses.symm.trans suspends

/-- A returned charge that has any effect stops the server, once that is set up. -/
theorem Settled.stops_server {id : SubscriptionId} {event : InternalPaymentEvent}
    {payment : GatewayPayment} {orderId : OrderId} {order : Order} {answer : Option OrderId}
    (settled : Settled db now id s event payment orderId order after answer)
    (returned : event = .paymentRefunded ∨ event = .paymentChargeback) (effective : after ≠ db)
    (held : s.serverId = some server) (stored : db.servers.get? server = some row)
    (chosen : row.val.status ≠ .setupPending) : after.serverStatus server = some .suspended := by
  obtain ⟨reason, stopped⟩ :=
    settled.stops returned fun closed => effective (settled.eq_of_closed closed)
  -- Marking the order and moving the subscription come first, and touch no server.
  have servers : (db.refunded now id s event payment orderId).servers = db.servers :=
    (transitionedIfAllowed_frame ..).1.servers
  exact stopped.stops_server held (servers ▸ stored) chosen

theorem serverStatus_of_suspendedBy (held : db.suspendedBy id = some source) :
    db.serverStatus id = some .suspended := by
  unfold Db.suspendedBy Db.server? at held
  cases stored : db.servers.get? id with
  | none => simp [stored] at held
  | some row =>
    simp only [stored, Option.map_some, Option.bind_some] at held
    have suspended := row.property.source.mpr (by simp [held])
    simp [Db.serverStatus, Db.server?, stored, suspended]

/--
The transaction neither deletes the server, nor suspends it for billing,
nor lifts its suspension in an administrator's name.
-/
def KeepsAdminSuspension (id : ServerId) (db : Db) (tx : Tx) : Prop :=
  tx.removes ≠ some id ∧ ¬ tx.suspends db id .billing ∧ ¬ tx.lifts db id none ∧
    ¬ tx.lifts db id (some .admin)

instance (id : ServerId) (db : Db) (tx : Tx) : Decidable (KeepsAdminSuspension id db tx) :=
  inferInstanceAs (Decidable (_ ∧ _ ∧ _ ∧ _))

variable {tx : Tx}

theorem ServerMove.keeps_admin {s s' : Server} (spares : KeepsAdminSuspension id db tx)
    (held : s.suspensionSource = some .admin) (move : ServerMove db tx id s s') :
    s'.suspensionSource = some .admin := by
  obtain ⟨-, unbilled, unlifted, unclaimed⟩ := spares
  cases move with
  | @suspended now reason source asked =>
    cases source with
    | admin => rfl
    | billing => exact absurd asked unbilled
  | lifted asked matching =>
    rcases matching with rfl | same
    · exact absurd asked unlifted
    · rw [held] at same
      exact absurd (same ▸ asked) unclaimed
  | reported called =>
    unfold Server.reported
    split <;> exact held
  -- No other move touches the source on record.
  | kept | undispatched | departed | stayed | moved | resized => exact held

/-- Only lifting a suspension takes the source on record away. -/
theorem ServerMove.source_isSome {s s' : Server} (unlifted : ∀ required, ¬ tx.lifts db id required)
    (held : s.suspensionSource.isSome) (move : ServerMove db tx id s s') :
    s'.suspensionSource.isSome := by
  cases move with
  | suspended => rfl
  | lifted asked => exact absurd asked (unlifted _)
  | reported called =>
    unfold Server.reported
    split <;> exact held
  | kept | undispatched | departed | stayed | moved | resized => exact held

theorem ServerMove.keeps_suspended {row' : ServerRow}
    (unlifted : ∀ required, ¬ tx.lifts db id required) (held : row.val.status = .suspended)
    (move : ServerMove db tx id row.val row'.val) : row'.val.status = .suspended :=
  row'.property.source.mpr (move.source_isSome unlifted (row.property.source.mp held))

theorem commit_suspendedBy (held : db.suspendedBy id = some .admin)
    (spares : KeepsAdminSuspension id db tx) :
    (commit db tx).suspendedBy id = some .admin := by
  refine commit_preserves (P := fun after => after.suspendedBy id = some .admin) held ?_
  intro after executed
  have stored : ∃ row, db.servers.get? id = some row ∧ row.val.suspensionSource = some .admin := by
    unfold Db.suspendedBy Db.server? at held
    cases found : db.servers.get? id with
    | none => simp [found] at held
    | some row => exact ⟨row, rfl, by simpa [found] using held⟩
  obtain ⟨row, found, source⟩ := stored
  cases removal : tx.removes with
  | some other =>
    -- Deleting another server leaves this row where it is.
    obtain rfl : tx = .removeServer other := by
      cases tx <;> simp_all [Tx.removes]
    obtain ⟨-, rfl⟩ := removeServer_ok executed
    have different : id ≠ other := by
      rintro rfl
      exact spares.1 rfl
    simp [Db.suspendedBy, Db.server?, Db.removeServer, different, found, source]
  | none =>
    obtain ⟨row', moved, move⟩ := (exec_servers removal executed).moved found
    simp [Db.suspendedBy, Db.server?, moved, move.keeps_admin spares source]

/--
A server an administrator suspended stays suspended in every run of transactions that do not
suspend it for billing on top, delete it, or lift it in an administrator's name.
-/
theorem admin_suspension_stays (db : Db) (txs : List Tx) (id : ServerId)
    (held : db.suspendedBy id = some .admin)
    (spared : Guarded commit (KeepsAdminSuspension id) db txs) :
    (run commit db txs).serverStatus id = some .suspended := by
  -- The administrator staying on record is what every step preserves.
  have stays := invariant_run (fun db => db.suspendedBy id = some .admin)
    (fun _ _ held spares => commit_suspendedBy held spares) held spared
  exact serverStatus_of_suspendedBy stays

def samplePanel : Db :=
  { sampleShop.db with
    nodes := (Table.empty.add 1 { name := "node-a", memoryTotalMb := 10000, diskTotalMb := 100000 }
      rfl).add 2 { name := "node-b", memoryTotalMb := 2500, diskTotalMb := 100000 } rfl
    allocations := (Table.empty.add 1 ⟨{ nodeId := 1 }, by decide⟩ rfl).add 2
      ⟨{ nodeId := 2 }, by decide⟩ rfl }

def sampleTemplate : TemplateContext where
  templateId := 1
  dockerImage := "java:21"
  startupCommand := "java -jar server.jar"
  resolvedStartupCommand := .ok "java -jar server.jar"

def sampleInstalled : List Tx := [
  .createOnNode 0 { ownerId := 1, planId := 1, name := some "survival" } 1 (some sampleTemplate)
    ⟨1, ["a1b2c3d4"]⟩,
  .reportInstallResult 1 1 1 true]

/-- A recovered payment and a second suspension by the administrator leave the server down. -/
theorem sample_admin_suspension_stays :
    (run commit (run commit samplePanel (sampleInstalled ++ [.suspend 2 1 "abuse" .admin]))
      [.unsuspend 1 (some .billing), .suspend 3 1 "abuse again" .admin]).serverStatus 1 =
        some .suspended :=
  admin_suspension_stays _ _ 1 (by decide +kernel) (by decide +kernel)

/-- A billing suspension replaces the administrator on record, and the recovery then lifts it. -/
theorem billing_lifts_admin_suspension :
    (run commit samplePanel (sampleInstalled ++ [.suspend 2 1 "abuse" .admin])).suspendedBy 1 =
      some .admin ∧
    (run commit samplePanel (sampleInstalled ++ [.suspend 2 1 "abuse" .admin,
      .suspend 3 1 "billing: past_due for more than 3 day(s)" .billing,
      .unsuspend 1 (some .billing)])).serverStatus 1 = some .ready := by
  decide +kernel

end PxHost

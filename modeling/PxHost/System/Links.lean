import PxHost.System.Placement
import PxHost.System.SubscriptionLaws

/-! The references between tables that the schema's constraints maintain. -/

namespace PxHost

open Store Function

/-- A server exists, is not being deleted, and belongs to one subscription at most. -/
structure Linked (db : Db) : Prop where
  running : ∀ {id row}, db.servers.get? id = some row → row.val.status ≠ .deleting
  carried : ∀ {id t}, db.transfers.get? id = some t → ∃ row, db.servers.get? t.serverId = some row
  attached : ∀ {id s server}, db.subscriptions.get? id = some s → s.serverId = some server →
    ∃ row, db.servers.get? server = some row
  exclusive : ∀ {id id' s s' server}, db.subscriptions.get? id = some s →
    db.subscriptions.get? id' = some s' → s.serverId = some server → s'.serverId = some server →
    id = id'

variable {db after : Db} {tx : Tx}

theorem removeServer_of_removes {id : ServerId} (removal : tx.removes = some id) :
    tx = .removeServer id := by
  cases tx with
  | removeServer other => simpa [Tx.removes] using removal
  | _ => cases removal

/-- No transaction starts the deletion of a server; a deletion is done in one. -/
theorem ServerMove.running {id : ServerId} {s s' : Server} (running : s.status ≠ .deleting)
    (move : ServerMove db tx id s s') : s'.status ≠ .deleting := by
  cases move with
  | kept | resized => exact running
  | suspended | lifted | undispatched | departed | stayed | moved => exact nofun
  | reported =>
    unfold Server.reported
    split <;> exact nofun

/-- A server that is not removed stays stored, and moves only as a transaction may move it. -/
theorem exec_servers_stored (executed : exec db tx = .ok after) {id : ServerId} {row : ServerRow}
    (stored : db.servers.get? id = some row) (spared : tx.removes ≠ some id) :
    ∃ row', after.servers.get? id = some row' ∧ ServerMove db tx id row.val row'.val := by
  cases removal : tx.removes with
  | none => exact (exec_servers removal executed).moved stored
  | some other =>
    obtain rfl := removeServer_of_removes removal
    obtain ⟨-, rfl⟩ := removeServer_ok executed
    have different : id ≠ other := by
      rintro rfl
      exact spared rfl
    exact ⟨row, by simp [Db.removeServer, different, stored], .kept⟩

/-- A stored server was stored before, or the transaction has created it. -/
theorem exec_servers_origin (executed : exec db tx = .ok after) {id : ServerId} {row' : ServerRow}
    (stored' : after.servers.get? id = some row') :
    (∃ row, db.servers.get? id = some row ∧ ServerMove db tx id row.val row'.val) ∨
      db.servers.get? id = none ∧ NewServer tx id row'.val := by
  cases removal : tx.removes with
  | none =>
    exact (exec_servers removal executed).origin stored'
  | some other =>
    obtain rfl := removeServer_of_removes removal
    obtain ⟨-, rfl⟩ := removeServer_ok executed
    have stored : db.servers.get? id = some row' := by
      by_cases same : id = other
      · simp [Db.removeServer, same] at stored'
      · simpa [Db.removeServer, same] using stored'
    exact .inl ⟨row', stored, .kept⟩

/-- A transfer was stored before, or it has just begun for a stored server. -/
theorem exec_transfers_origin (executed : exec db tx = .ok after) {id : TransferId}
    {t' : ServerTransfer} (stored' : after.transfers.get? id = some t') :
    (∃ t, db.transfers.get? id = some t ∧ t'.serverId = t.serverId ∧
        tx.removes ≠ some t.serverId) ∨
      ∃ row, db.servers.get? t'.serverId = some row ∧ tx.removes = none := by
  cases removal : tx.removes with
  | some server =>
    obtain rfl := removeServer_of_removes removal
    obtain ⟨-, rfl⟩ := removeServer_ok executed
    simp only [Db.removeServer, Table.get?_eraseWhere, Option.filter_eq_some_iff] at stored'
    have other : t'.serverId ≠ server := by simpa using stored'.2
    exact .inl ⟨t', stored'.1, rfl, by simpa using Ne.symm other⟩
  | none =>
    have move := exec_placement executed
    replace stored' : after.placement.transfer id = some t' := stored'
    generalize after.placement = p at move stored'
    -- A transfer that is written to keeps its server, whatever status it is given.
    have rewritten {written : TransferId} {t row : ServerTransfer}
        (stored : db.placement.transfer written = some t)
        (found : update db.placement.transfer written (some row) id = some t')
        (same : row.serverId = t.serverId) :
        ∃ t, db.transfers.get? id = some t ∧ t'.serverId = t.serverId ∧ none ≠ some t.serverId := by
      rw [update_apply] at found
      split at found
      · next here =>
        cases found
        exact ⟨t, here ▸ stored, same, by simp⟩
      · exact ⟨t', found, rfl, by simp⟩
    cases move with
    | kept | created => exact .inl ⟨t', stored', rfl, by simp⟩
    | removed => cases removal
    | departed known unused alone stored onNode free started =>
      simp only [Placement.assigned, Placement.tracked, update_apply] at stored'
      split at stored'
      · cases stored'
        obtain ⟨row, found⟩ : ∃ row, db.servers.get? _ = some row := by
          simpa [Db.placement, Db.server?, Option.isSome_iff_exists] using known
        exact .inr ⟨row, by rwa [started], rfl⟩
      · exact .inl ⟨t', stored', rfl, by simp⟩
    | staged stored | givenUp called stored | arrived stored | arrivedPortless stored =>
      exact .inl (rewritten stored stored' rfl)

variable {id : SubscriptionId}

/-- Where the server of a subscription comes from after a transaction. -/
theorem exec_serverId (executed : exec db tx = .ok after) {s' : Subscription} {server : ServerId}
    (stored' : after.subscriptions.get? id = some s') (held' : s'.serverId = some server) :
    (∃ s, db.subscriptions.get? id = some s ∧ s.serverId = some server ∧
        tx.removes ≠ some server) ∨
      ∃ now dto node context fresh, tx = .createOnNode now dto node context fresh ∧
        dto.attachSubscriptionId = some id ∧ fresh.id = server := by
  cases removal : tx.removes with
  | some removed =>
    obtain rfl := removeServer_of_removes removal
    obtain ⟨-, rfl⟩ := removeServer_ok executed
    -- The deletion detached its server, so a server still held is another one.
    cases stored : db.subscriptions.get? id with
    | none => simp [Db.removeServer, stored] at stored'
    | some s =>
      simp only [Db.removeServer, Table.get?_updateWhere, stored, Option.map_some,
        Option.some.injEq] at stored'
      subst stored'
      split at held'
      · cases held'
      · rename_i other
        refine .inl ⟨s, rfl, held', ?_⟩
        rintro same
        cases same
        simp [held'] at other
  | none =>
    rcases (exec_subscriptions executed).origin stored' with ⟨s, stored, move⟩ | ⟨-, new⟩
    · cases move with
      | kept holder | opened holder | lapsed holder | closed holder =>
        exact .inl ⟨s, stored, by rw [← holder.serverId, held'], by simp⟩
      | attached called asked waiting row =>
        subst row
        exact .inr ⟨_, _, _, _, _, called, asked, by simpa using held'⟩
      | detached called =>
        subst called
        cases removal
    · simp [new.serverId] at held'

theorem exec_serverOf_kept (executed : exec db tx = .ok after) (spares : tx.removes = none)
    (held : (db.serverOf id).isSome) : after.serverOf id = db.serverOf id := by
  cases stored : db.subscriptions.get? id with
  | none => simp [Db.serverOf, stored] at held
  | some s =>
    obtain ⟨s', stored', move⟩ := (exec_subscriptions executed).moved stored
    simp only [Db.serverOf, stored, stored', Option.bind_some] at held ⊢
    cases move with
    | kept holder | opened holder | lapsed holder | closed holder => exact holder.serverId
    | attached called asked waiting row => simp [waiting] at held
    | detached called =>
      subst called
      cases spares

def Db.Awaits (db : Db) (user : UserId) (id : SubscriptionId) : Prop :=
  ∃ s, db.subscriptions.get? id = some s ∧ s.userId = user ∧ s.serverId = none

theorem Db.Awaits.serverOf {user : UserId} (waiting : db.Awaits user id) :
    db.serverOf id = none := by
  obtain ⟨s, stored, -, unserved⟩ := waiting
  simp [Db.serverOf, stored, unserved]

variable {dto : CreateOnNodeInput} {context : Option TemplateContext} {fresh : FreshServer}

/-- A server is only ever attached to a subscription of its owner that had none. -/
theorem createOnNode_attaches {now : Time} {node : NodeId}
    (creates : createOnNode db now dto node context fresh = .ok after)
    (asked : dto.attachSubscriptionId = some id) :
    db.Awaits dto.ownerId id ∧ after.serverOf id = some fresh.id := by
  obtain ⟨plan, created⟩ := createOnNode_ok creates
  obtain ⟨server, unused, allocations, subscriptions, -, attached, rfl⟩ := created.rows
  cases attached with
  | without unpaid => simp [asked] at unpaid
  | attached asked' stored own waiting =>
    obtain rfl := Option.mem_unique asked asked'
    exact ⟨⟨_, stored, own, waiting⟩, by simp [Db.serverOf, stored]⟩

theorem Linked.unheld (linked : Linked db) {now : Time} {node : NodeId}
    (creates : createOnNode db now dto node context fresh = .ok after) {s : Subscription}
    (stored : db.subscriptions.get? id = some s) :
    s.serverId ≠ some fresh.id := by
  intro held
  obtain ⟨row, found⟩ := linked.attached stored held
  obtain ⟨plan, created⟩ := createOnNode_ok creates
  obtain ⟨server, unused, -⟩ := created.rows
  simp [unused] at found

/-- Every transaction keeps the rows linked. -/
theorem exec_linked (linked : Linked db) (executed : exec db tx = .ok after) : Linked after where
  running := fun {id row'} stored' => by
    rcases exec_servers_origin executed stored' with ⟨row, stored, move⟩ | ⟨-, new⟩
    · exact move.running (linked.running stored)
    · rcases new.status with status | status <;> rw [status] <;> exact nofun
  carried := fun {id t'} stored' => by
    rcases exec_transfers_origin executed stored' with ⟨t, stored, same, spared⟩ |
      ⟨row, found, spares⟩
    · obtain ⟨row, found⟩ := linked.carried stored
      obtain ⟨row', found', -⟩ := exec_servers_stored executed found spared
      exact ⟨row', by rwa [same]⟩
    · obtain ⟨row', found', -⟩ := exec_servers_stored executed found (by simp [spares])
      exact ⟨row', found'⟩
  attached := fun {id s' server} stored' held' => by
    rcases exec_serverId executed stored' held' with ⟨s, stored, held, spared⟩ |
      ⟨now, dto, node, context, fresh, rfl, asked, rfl⟩
    · obtain ⟨row, found⟩ := linked.attached stored held
      obtain ⟨row', found', -⟩ := exec_servers_stored executed found spared
      exact ⟨row', found'⟩
    · obtain ⟨plan, created⟩ := createOnNode_ok executed
      obtain ⟨server, unused, allocations, subscriptions, -, -, rfl⟩ := created.rows
      exact ⟨server, by simp⟩
  exclusive := fun {id id' s s' server} stored stored' held held' => by
    rcases exec_serverId executed stored held with ⟨t, known, kept, -⟩ |
        ⟨now, dto, node, context, fresh, rfl, asked, rfl⟩ <;>
      rcases exec_serverId executed stored' held' with ⟨t', known', kept', -⟩ |
        ⟨now', dto', node', context', fresh', called, asked', same⟩
    · exact linked.exclusive known known' kept kept'
    · subst called same
      exact absurd kept (linked.unheld executed known)
    · exact absurd kept' (linked.unheld executed known')
    · cases called
      exact Option.mem_unique asked asked'

theorem commit_linked (linked : Linked db) (tx : Tx) : Linked (commit db tx) :=
  commit_preserves linked fun _ executed => exec_linked linked executed

theorem run_linked (linked : Linked db) (txs : List Tx) : Linked (Machine.run commit db txs) :=
  Machine.invariant_always Linked (fun _ tx before => commit_linked before tx) linked txs

theorem Linked.of_empty (servers : db.servers = .empty) (transfers : db.transfers = .empty)
    (subscriptions : db.subscriptions = .empty) : Linked db where
  running := by simp [servers]
  carried := by simp [transfers]
  attached := by simp [subscriptions]
  exclusive := by simp [subscriptions]

/-- The subscription is still the same customer's, and on the same plan. -/
def Subscription.SameSale (s s' : Subscription) : Prop :=
  s'.userId = s.userId ∧ s'.planId = s.planId

theorem SubscriptionMove.sameSale {id : SubscriptionId} {s s' : Subscription}
    (move : SubscriptionMove db tx id s s') : s.SameSale s' := by
  cases move with
  | kept holder | opened holder | lapsed holder | closed holder =>
    exact ⟨holder.userId, holder.planId⟩
  | attached _ _ _ row | detached _ _ row => simp [row, Subscription.SameSale]

/--
No order or subscription is lost between two states, each is still what was sold, and the history of
the subscriptions is only continued.
-/
structure KeepsBooks (db after : Db) : Prop where
  orders : Table.Evolves (fun _ => Order.SamePurchase) (fun _ _ => True) db.orders after.orders
  subscriptions : Table.Evolves (fun _ => Subscription.SameSale) (fun _ _ => True)
    db.subscriptions after.subscriptions
  history : db.subscriptionEvents <+: after.subscriptionEvents

theorem exec_keepsBooks (executed : exec db tx = .ok after) : KeepsBooks db after where
  orders := (exec_purchases executed).mono (fun _ _ _ move => move.toSamePurchase)
    fun _ _ _ => trivial
  subscriptions := (exec_subscriptions executed).mono (fun _ _ _ move => move.sameSale)
    fun _ _ _ => trivial
  history := by
    cases exec_written executed with
    | nothing _ same | detached _ _ same => simp [same]
    | row _ _ appended | born _ _ _ _ _ appended => simp [appended]

theorem KeepsBooks.trans {last : Db} (first : KeepsBooks db after) (next : KeepsBooks after last) :
    KeepsBooks db last where
  orders := first.orders.trans next.orders
    (fun _ _ _ _ ⟨own, kind, amount⟩ ⟨own', kind', amount'⟩ =>
      ⟨own'.trans own, kind'.trans kind, amount'.trans amount⟩) fun _ _ _ _ _ => trivial
  subscriptions := first.subscriptions.trans next.subscriptions
    (fun _ _ _ _ ⟨user, plan⟩ ⟨user', plan'⟩ => ⟨user'.trans user, plan'.trans plan⟩)
    fun _ _ _ _ _ => trivial
  history := first.history.trans next.history

/-- Whatever the customers, the provider, the daily job and the workers do, the books are kept. -/
theorem books_are_kept (w : World) (ops : List Op) : KeepsBooks w.db (Machine.run step w ops).db := by
  refine Machine.invariant_always (fun w' : World => KeepsBooks w.db w'.db) ?step ?start ops
  case start =>
    exact ⟨.refl (fun _ _ => ⟨rfl, rfl, rfl⟩) _, .refl (fun _ _ => ⟨rfl, rfl⟩) _, List.prefix_rfl⟩
  case step =>
    intro w' op kept
    rcases step_db_cases w' op with same | ⟨tx, -, executed⟩
    · rwa [same]
    · exact kept.trans (exec_keepsBooks executed)

end PxHost

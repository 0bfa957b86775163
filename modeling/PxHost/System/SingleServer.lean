import PxHost.System.ProvisionOrder
import PxHost.System.Slots

/-! One purchase yields one server, however often and by however many workers it is provisioned. -/

namespace PxHost.Provisioning

open Interleaving

def deletesNothing (_ : State) (_ : Task) (call : Call) (choice : Choice) : Bool :=
  (call.transaction choice).all fun (_, tx) => tx.removes.isNone

def State.serversFor (s : State) (id : SubscriptionId) : Nat :=
  s.created.countP (·.subscription == some id)

variable {s s' : State} {id : SubscriptionId} {order : Option OrderId} {tx : Tx}

theorem serversFor_transact (transacts : s.transact order tx = .ok s') :
    s'.serversFor id = s.serversFor id ∨
      s'.serversFor id = s.serversFor id + 1 ∧ s.db.serverOf id = none ∧
        (s'.db.serverOf id).isSome := by
  obtain ⟨db, executed, rfl⟩ := State.transact_ok_iff.mp transacts
  cases tx with
  | createOnNode now dto node context fresh =>
    by_cases asked : dto.attachSubscriptionId = some id
    · -- The attachment found the subscription without a server, and left it with one.
      obtain ⟨waiting, held⟩ := createOnNode_attaches executed asked
      exact .inr ⟨by simp [State.serversFor, creation, asked], waiting.serverOf, by simp [held]⟩
    · exact .inl (by simp [State.serversFor, creation, asked])
  | _ => exact .inl rfl

/-- A server is committed for a subscription at most once, and only where it is then attached. -/
def Single (id : SubscriptionId) (s : State) : Prop :=
  s.serversFor id = 0 ∨ s.serversFor id = 1 ∧ (s.db.serverOf id).isSome

theorem single_transact (single : Single id s) (spares : tx.removes = none)
    (transacts : s.transact order tx = .ok s') : Single id s' := by
  rcases serversFor_transact transacts with same | ⟨more, waiting, held⟩
  · -- Where no server is counted, one that was attached before is still there.
    refine single.imp (same.trans ·) ?_
    rintro ⟨one, held⟩
    obtain ⟨db, executed, rfl⟩ := State.transact_ok_iff.mp transacts
    exact ⟨same.trans one, by rwa [exec_serverOf_kept executed spares held]⟩
  · -- A second server would have found the subscription with its first one.
    rcases single with none | ⟨-, held'⟩
    · exact .inr ⟨by omega, held⟩
    · simp [waiting] at held'

theorem answered_serverOf {thread : Nat} {task : Task} {call : Call} {choice : Choice}
    {answer : call.Answer} (spared : deletesNothing s task call choice)
    (answers : answer? thread call choice s = some (answer, s')) :
    s' = s ∨ ∃ order tx, tx.removes = none ∧ s.transact order tx = .ok s' := by
  rcases answer?_state answers with same | ⟨order, tx, called, transacts⟩
  · exact .inl same
  · refine .inr ⟨order, tx, ?_, transacts⟩
    simpa [deletesNothing, called] using spared

/-- A server once attached stays attached. -/
theorem serverOf_final {panel : Panel} {move : Move Task Choice}
    (spared : panel.allows deletesNothing move) (held : (panel.shared.db.serverOf id).isSome) :
    (step panel move).shared.db.serverOf id = panel.shared.db.serverOf id := by
  rcases (Pool.step_shared spared : (step panel move).shared = panel.shared ∨ _) with same |
    ⟨thread, task, call, choice, answer, ok, answers⟩
  · exact congrArg (·.db.serverOf id) same
  · rcases answered_serverOf ok answers with same | ⟨order, tx, spares, transacts⟩
    · exact congrArg (·.db.serverOf id) same
    · obtain ⟨db, executed, same⟩ := State.transact_ok_iff.mp transacts
      have kept := exec_serverOf_kept executed spares held
      rw [← kept]
      exact congrArg (·.db.serverOf id) same

/--
Over any executions of provisioning, whole or broken off, and any other transactions that delete no
server, at most one server is committed for a subscription, and the server of the subscription
changes at most once.
-/
theorem purchase_yields_one_server (db : Db) (id : SubscriptionId) (moves : List (Move Task Choice))
    (spared : Machine.Guarded step (fun panel move => panel.allows deletesNothing move)
      (Panel.opened db) moves) :
    (Machine.run step (Panel.opened db) moves).shared.serversFor id ≤ 1 ∧
      Machine.changes step (fun panel : Panel => panel.shared.db.serverOf id) (Panel.opened db)
        moves ≤ 1 := by
  constructor
  · -- Each call keeps the count at what the subscription holds.
    have single : Single id (Machine.run step (Panel.opened db) moves).shared := by
      refine Pool.shared_run (Single id) ?_ (.inl rfl) spared
      intro s thread task call choice answer s' single ok answers
      rcases answered_serverOf ok answers with rfl | ⟨order, tx, spares, transacts⟩
      · exact single
      · exact single_transact single spares transacts
    rcases single with none | ⟨one, -⟩ <;> omega
  · refine Machine.changes_le_one (·.isSome) ?_ ?_ spared
    · exact fun panel move ok held => serverOf_final ok held
    · -- What changes was not final before, so it was no server.
      intro panel move ok changed
      cases held : (step panel move).shared.db.serverOf id with
      | some server => rfl
      | none =>
        cases before : panel.shared.db.serverOf id with
        | none => exact absurd (held.trans before.symm) changed
        | some server => exact absurd (serverOf_final ok (by simp [before])) changed

/-- A customer who has paid and waits for the server, on a plan with room for it. -/
def samplePurchase : Db :=
  Machine.run commit samplePanel (.updatePlan 1 { maxSlots := some (some 2) } :: sampleSold)

/-- A call that goes well; a server it creates gets this id and goes to this node. -/
def sampleChoice (server : ServerId) (shortId : String) (node : NodeId) : Choice where
  now := 2000
  fresh := ⟨server, [shortId]⟩
  node := some node
  template := .ok sampleTemplate

/-- Two workers read the same order before either of them creates its server. -/
def sampleRivalry : List (Move Task Choice) :=
  [.start (.provisionOrder 10), .start (.provisionOrder 10)] ++
    List.replicate 5 (.turn 0 (sampleChoice 1 "a1b2c3d4" 1)) ++
    List.replicate 6 (.turn 1 (sampleChoice 2 "b2c3d4e5" 2)) ++
    List.replicate 2 (.turn 0 (sampleChoice 1 "a1b2c3d4" 1)) ++
    List.replicate 3 (.turn 1 (sampleChoice 2 "b2c3d4e5" 2))

theorem sample_purchase_yields_one_server :
    (Machine.run step (Panel.opened samplePurchase) sampleRivalry).shared.created =
        [⟨some 10, some 20, 2⟩] ∧
      Machine.changes step (fun panel : Panel => panel.shared.db.serverOf 20)
        (Panel.opened samplePurchase) sampleRivalry ≤ 1 :=
  ⟨by decide +kernel,
    (purchase_yields_one_server samplePurchase 20 sampleRivalry (by decide +kernel)).2⟩

end PxHost.Provisioning

import PxHost.Lib.Interleaving
import PxHost.System.Transactions

/-! Provisioning as a program of separate calls, next to everything else that commits. -/

namespace PxHost.Provisioning

open Interleaving

/-- A server that was committed, for the order and the subscription it was created for. -/
structure Creation where
  order : Option OrderId
  subscription : Option SubscriptionId
  server : ServerId
deriving DecidableEq

structure State where
  db : Db
  /-- The servers committed so far, the latest first; no code reads it. -/
  created : List Creation

/-- The server a transaction creates, on behalf of an order or of nobody's. -/
def creation (order : Option OrderId) : Tx → Option Creation
  | .createOnNode _ dto _ _ fresh => some ⟨order, dto.attachSubscriptionId, fresh.id⟩
  | _ => none

/-- Commit a transaction, and remember the server it created. -/
def State.transact (s : State) (order : Option OrderId) (tx : Tx) : Except ApiError State :=
  (exec s.db tx).map fun db => ⟨db, (creation order tx).toList ++ s.created⟩

inductive Call where
  | transact (tx : Tx)
  | readOrder (order : OrderId)
  | findOwner (user : UserId)
  | findTemplate (template : TemplateId)
  | findPlan (plan : PlanId)
  | selectNode (plan : PlanId) (excludeNodeIds : List NodeId)
  | createOnNode (order : OrderId) (dto : CreateOnNodeInput) (node : NodeId)
      (context : Option TemplateContext)
  | createServer (server : ServerId)

@[reducible] def Call.Result : Call → Type
  | transact _ | findOwner _ | findPlan _ | createServer _ => Unit
  | readOrder _ => Option Order
  | findTemplate _ => TemplateContext
  | selectNode .. => Option NodeId
  | createOnNode .. => ServerId

@[reducible] def Call.Answer (call : Call) : Type := Except ApiError call.Result

structure Choice where
  fault : Option (Fault ApiError) := none
  now : Time
  fresh : FreshServer
  node : Option NodeId
  template : Except ApiError TemplateContext

def Call.transaction (choice : Choice) : Call → Option (Option OrderId × Tx)
  | .transact tx => some (none, tx)
  | .createOnNode order dto node context =>
    some (some order, .createOnNode choice.now dto node context choice.fresh)
  | _ => none

/-- What a call finds and does when nothing comes between. -/
def perform (s : State) (choice : Choice) : (call : Call) → call.Answer × State
  | .transact tx =>
    match s.transact none tx with
    | .error error => (.error error, s)
    | .ok committed => (.ok (), committed)
  | .readOrder order => (checkProvisionable s.db order, s)
  | .findOwner user =>
    match (s.db.users.get? user).filter (·.deletedAt.isNone) with
    | some _ => (.ok (), s)
    | none => (.error (.notFound "Owner not found"), s)
  | .findTemplate _ => (choice.template, s)
  | .findPlan plan =>
    match (s.db.plans.get? plan).filter (·.deletedAt.isNone) with
    | some _ => (.ok (), s)
    | none => (.error (.notFound "Plan not found"), s)
  | .selectNode _ excludeNodeIds => (.ok (choice.node.filter (· ∉ excludeNodeIds)), s)
  | .createOnNode order dto node context =>
    match s.transact (some order) (.createOnNode choice.now dto node context choice.fresh) with
    | .error error => (.error error, s)
    | .ok committed => (.ok choice.fresh.id, committed)
  | .createServer _ => (.ok (), s)

def answer? (_thread : Nat) (call : Call) (choice : Choice) (s : State) :
    Option (call.Answer × State) :=
  some (Fault.befall s (perform s choice call) choice.fault)

abbrev Routine := ExceptT ApiError (Program Call.Answer)

@[simp] def ask (call : Call) : Routine call.Result := ExceptT.mk (Program.perform call)

/-- A server the agent does not take over is left as one that failed to install. -/
def dispatchToAgent (server : ServerId) : Routine Unit :=
  tryCatch (ask (.createServer server)) fun _ => ask (.transact (.dispatchFailed server))

/-- The method `createOnNode` with what follows its transaction. -/
def createOn (order : OrderId) (dto : CreateOnNodeInput) (context : Option TemplateContext)
    (node : NodeId) : Routine ServerId := do
  let server ← ask (.createOnNode order dto node context)
  -- Without software there is nothing yet that an agent could run.
  if context.isSome then dispatchToAgent server
  return server

def maxSchedulerAttempts : Nat := 3

def noEligibleNode : ApiError := .conflict "No eligible node found for this plan"

/-- The plan is sold out everywhere, so that no other node can help. -/
def isSoldOut : ApiError → Bool
  | .noSlots .. => true
  | _ => false

/-- Another node is tried after every failure but that of a plan that is sold out. -/
def withSchedulerRetry (plan : PlanId) (attempt : NodeId → Routine ServerId) :
    Nat → List NodeId → Routine ServerId
  | 0, _ => throw noEligibleNode
  | attempts + 1, excluded => do
    match ← ask (.selectNode plan excluded) with
    | none => throw noEligibleNode
    | some node =>
      tryCatch (attempt node) fun error =>
        if isSoldOut error || attempts == 0 then throw error
        else withSchedulerRetry plan attempt attempts (excluded ++ [node])

/-- The software of a server; only an order that names its own has any. -/
def findContext (order : Order) : Routine (Option TemplateContext) :=
  match order.config.template with
  | none => return none
  | some template => do
    let context ← ask (.findTemplate template.1)
    return some context

/-- The methods `create` and `createSetupPending`, by whether the order names its software. -/
def createServer (orderId : OrderId) (order : Order) : Routine ServerId := do
  ask (.findOwner order.userId)
  let context ← findContext order
  ask (.findPlan order.planId)
  withSchedulerRetry order.planId (createOn orderId (provisionInput order) context)
    maxSchedulerAttempts []

def provisionOrder (orderId : OrderId) : Routine Unit := do
  -- The order is looked at once; everything after goes by what was read here.
  match ← ask (.readOrder orderId) with
  | none => return
  | some order =>
    ask (.transact (.markProvisioningRunning orderId))
    tryCatch (do
      let created ← createServer orderId order
      ask (.transact (.finishProvisioning orderId created)))
      fun error => do
        -- The order stays paid, and the queue decides about another attempt.
        ask (.transact (.failProvisioning orderId error.message))
        throw error

/-- An execution of `provisionOrder`, or a transaction of anything else. -/
inductive Task where
  | provisionOrder (order : OrderId)
  | transaction (tx : Tx)

def code : Task → Program Call.Answer Unit
  | .provisionOrder order => do
    let _ ← (provisionOrder order).run
  | .transaction tx => do
    let _ ← (ask (.transact tx)).run

/-- The panel with the executions and transactions under way in it. -/
abbrev Panel := Pool State Task Call.Answer

def step : Panel → Move Task Choice → Panel := Pool.step code answer?

/-- Nothing has been provisioned yet, and nothing is under way. -/
def Panel.opened (db : Db) : Panel := ⟨⟨db, []⟩, []⟩

section Laws

variable {s s' : State} {order : Option OrderId} {tx : Tx}

theorem State.transact_ok_iff : s.transact order tx = .ok s' ↔
    ∃ db, exec s.db tx = .ok db ∧ s' = ⟨db, (creation order tx).toList ++ s.created⟩ :=
  Fallible.map_eq_ok_iff

theorem State.transact_ok {db : Db} (order : Option OrderId) (executed : exec s.db tx = .ok db) :
    s.transact order tx = .ok ⟨db, (creation order tx).toList ++ s.created⟩ :=
  State.transact_ok_iff.mpr ⟨db, executed, rfl⟩

theorem perform_state (s : State) (choice : Choice) (call : Call) :
    (perform s choice call).2 = s ∨ ∃ order tx, call.transaction choice = some (order, tx) ∧
      s.transact order tx = .ok (perform s choice call).2 := by
  -- Two calls are transactions, which are committed or change nothing; the others only look.
  cases call with
  | transact tx | createOnNode order dto node context =>
    simp only [perform]
    split
    · exact .inl rfl
    · rename_i committed transacts
      exact .inr ⟨_, _, rfl, transacts⟩
  | findOwner user | findPlan plan =>
    simp only [perform]
    split <;> exact .inl rfl
  | readOrder | findTemplate | selectNode | createServer => exact .inl rfl

theorem answer?_state {thread : Nat} {call : Call} {choice : Choice} {answer : call.Answer}
    (answers : answer? thread call choice s = some (answer, s')) :
    s' = s ∨ ∃ order tx, call.transaction choice = some (order, tx) ∧
      s.transact order tx = .ok s' := by
  rcases Fault.befall_cases (Option.some.inj answers) with ⟨rfl, -⟩ | ⟨rfl, -⟩
  · exact .inl rfl
  · -- Whether or not the answer arrived, the call was carried out.
    exact perform_state s choice call

end Laws

end PxHost.Provisioning

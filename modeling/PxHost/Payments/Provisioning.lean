import PxHost.Servers.Service

/-! Turning a paid order into a server, one transaction at a time. -/

namespace PxHost

/-- Whether there is anything to provision: `none` is a silent return, an error a refusal. -/
def checkProvisionable (db : Db) (orderId : OrderId) : Except ApiError (Option Order) :=
  match db.orders.get? orderId with
  | none => .error (.notFound "Order not found")
  | some order =>
    if order.serverId.isSome ∨ order.provisioningStatus = .done then .ok none
    else if order.provisioningStatus = .notRequired then .ok none
    else if order.status ≠ .paid then .error (.conflict
      s!"Order {orderId} is not paid (status={order.status.text}) — refusing to provision")
    else .ok (some order)

def markProvisioningRunning (db : Db) (orderId : OrderId) : Except ApiError Db :=
  db.updateOrder orderId fun o =>
    { o with
      provisioningStatus := .running
      provisioningAttempts := o.provisioningAttempts + 1 }

/-- The server an order asks for; only an old order still names its software. -/
def provisionInput (order : Order) : CreateOnNodeInput where
  ownerId := order.userId
  planId := order.planId
  name := order.config.template.map fun template => order.config.serverName.getD template.2
  attachSubscriptionId := order.subscriptionId

def finishProvisioning (db : Db) (orderId : OrderId) (serverId : ServerId) :
    Except ApiError Db :=
  db.updateOrder orderId fun o =>
    { o with
      serverId := some serverId
      provisioningStatus := .done
      provisioningError := none }

/-- A failed provisioning never touches the money side of the order. -/
def failProvisioning (db : Db) (orderId : OrderId) (message : String) : Except ApiError Db :=
  db.updateOrder orderId fun o =>
    { o with
      provisioningStatus := .failed
      provisioningError := some (String.ofList (message.toList.take 1000)) }

end PxHost

import Mathlib.Data.Nat.Basic
import PxHost.System.OrderLaws

/-! How far the money of an order has come, and which steps can take it back. -/

namespace PxHost

open Store Machine

/-- Unpaid, paid and refunded, in the order in which money moves. -/
def OrderStatus.settlement : OrderStatus → Nat
  | .paid => 1
  | .refunded => 2
  | .pending | .failed | .cancelled | .expired => 0

def Db.orderStatus (db : Db) (id : OrderId) : Option OrderStatus :=
  (db.orders.get? id).map (·.status)

/-- How far the money of an order has come; an order that does not exist is unpaid. -/
def Db.settlement (db : Db) (id : OrderId) : Nat :=
  ((db.orderStatus id).map (·.settlement)).getD 0

/-- The transaction does not overwrite an order whose money has moved. -/
def SparesSettled (db : Db) (tx : Tx) : Prop :=
  ∀ id ∈ tx.overwrites, db.settlement id = 0

instance (db : Db) (tx : Tx) : Decidable (SparesSettled db tx) :=
  inferInstanceAs (Decidable (∀ id ∈ tx.overwrites, db.settlement id = 0))

/-- Every way an order moves forwards, but for the blind overwrites. -/
theorem OrderMove.settlement_le {tx : Tx} {id : OrderId} {o o' : Order}
    (move : OrderMove tx id o o')
    (spared : tx.overwrites = some id → o.status.settlement = 0) :
    o.status.settlement ≤ o'.status.settlement := by
  cases move with
  | kept status | provisioned serves status | delivered serves status => exact le_of_eq (by rw [status])
  | confirmed called unsettled status =>
    -- An open order is neither paid nor refunded, so it starts at the bottom.
    obtain ⟨unpaid, unrefunded, -⟩ := unsettled
    have start : o.status.settlement = 0 := by
      cases held : o.status <;> simp_all [OrderStatus.settlement]
    omega
  | refunded called returned status =>
    rw [status]
    cases o.status <;> decide
  | closed pending =>
    rw [pending]
    exact Nat.zero_le _
  | overwritten blind =>
    rw [spared blind]
    exact Nat.zero_le _

/-- No transaction takes the money of an order back, unless it overwrites the order blindly. -/
theorem commit_settlement_le {db : Db} {tx : Tx} (spares : SparesSettled db tx) (id : OrderId) :
    db.settlement id ≤ (commit db tx).settlement id := by
  refine commit_preserves (P := fun after => db.settlement id ≤ after.settlement id) le_rfl ?_
  intro after executed
  cases stored : db.orders.get? id with
  | none => simp [Db.settlement, Db.orderStatus, stored]
  | some o =>
    obtain ⟨o', moved, step⟩ := (exec_orders executed).moved stored
    simp only [Db.settlement, Db.orderStatus, stored, moved, Option.map_some, Option.getD_some]
    refine step.move.settlement_le fun blind => ?_
    simpa [Db.settlement, Db.orderStatus, stored] using spares id blind

/-- The step overwrites no order whose money has moved. -/
def StepSparesSettled (w : World) (op : Op) : Prop :=
  ∀ tx ∈ issued w op, SparesSettled w.db tx

instance (w : World) (op : Op) : Decidable (StepSparesSettled w op) :=
  inferInstanceAs (Decidable (∀ tx ∈ issued w op, SparesSettled w.db tx))

theorem step_settlement_le {w : World} {op : Op} (spares : StepSparesSettled w op) (id : OrderId) :
    w.db.settlement id ≤ (step w op).db.settlement id := by
  rw [step_db]
  split
  · exact le_rfl
  · rename_i tx issues
    exact commit_settlement_le (spares tx issues) id

/--
An order that is paid stays paid or is refunded, in every run in which neither the expiry job nor
the handler of a failed charge writes over an order that was paid in the meantime.
-/
theorem paid_order_stays_settled (w : World) (ops : List Op) (id : OrderId)
    (paid : w.db.orderStatus id = some .paid) (spared : Guarded step StepSparesSettled w ops) :
    (run step w ops).db.orderStatus id = some .paid ∨
      (run step w ops).db.orderStatus id = some .refunded := by
  have rises : w.db.settlement id ≤ (run step w ops).db.settlement id :=
    le_run (f := fun w => w.db.settlement id)
      (fun _ _ allowed => step_settlement_le allowed id) spared
  simp only [Db.settlement, paid, Option.map_some, Option.getD_some] at rises
  cases status : (run step w ops).db.orderStatus id with
  | none => simp [status, OrderStatus.settlement] at rises
  | some status' =>
    rw [status] at rises
    cases status' <;> simp_all [OrderStatus.settlement]

def sampleCustomer : User where
  cpf := some "52998224725"
  billingPostalCode := some "01310-100"
  billingAddressLine := some "Avenida Paulista"
  billingAddressNumber := some "1000"
  billingNeighborhood := some "Bela Vista"
  billingCity := some "Sao Paulo"
  billingState := some "SP"

def samplePlan : Plan where
  name := "Basic"
  limits := { memoryMb := 2048, diskMb := 10240 }
  maxSlots := some 1
  priceCents := 2990

def sampleShop : World where
  db := { users := Table.empty.add 1 sampleCustomer rfl, plans := Table.empty.add 1 samplePlan rfl }

def samplePix : GatewayPayment :=
  { id := "pix-1", status := "pending", externalReference := some "ord_a", amountCents := some 2990 }

def sampleCheckout : List Op := [
  .checkout 0 1 { planId := 1, paymentMethod := .pix } 20 ⟨10, "ord_a"⟩ none,
  .chargeRecorded ⟨10, 20⟩ samplePix]

/-- The notification that the code was paid, worked off at some instant. -/
def samplePaid (now : Time) : List Op := [
  .resolveWebhook "n1" .mercadopago { samplePix with status := "approved" },
  .applyWebhook "n1" now ⟨11, "ord_b"⟩]

/-- The money goes back, and the daily job runs before and after. -/
def sampleRefund (now : Time) : List Op := [
  .listStaleOrders now,
  .resolveWebhook "n2" .mercadopago { samplePix with status := "refunded" },
  .applyWebhook "n2" now ⟨12, "ord_c"⟩,
  .listStaleOrders now]

/-- A paid order that is refunded later on has been settled all the way. -/
theorem sample_paid_order_stays_settled :
    (run step (run step sampleShop (sampleCheckout ++ samplePaid 1000)) (sampleRefund 2000)
        ).db.orderStatus 10 = some .paid ∨
      (run step (run step sampleShop (sampleCheckout ++ samplePaid 1000)) (sampleRefund 2000)
        ).db.orderStatus 10 = some .refunded :=
  paid_order_stays_settled _ _ 10 (by decide) (by decide)

/--
The daily job lists the unpaid order, the payment is confirmed, and the job then expires it.
On the other path the payment arrives while the charge is still being written down,
and the handler of the failing write marks the order failed.
-/
theorem paid_order_is_overwritten :
    (run step sampleShop (sampleCheckout ++ [.chargePresented ⟨10, 20⟩ (.pix "qr" "b64"),
        .listStaleOrders 200000000] ++ samplePaid 200000000)).db.orderStatus 10 = some .paid ∧
    (run step sampleShop (sampleCheckout ++ [.chargePresented ⟨10, 20⟩ (.pix "qr" "b64"),
        .listStaleOrders 200000000] ++ samplePaid 200000000 ++
        [.expireStaleOrder 200000000 ⟨10, some 20, .planInitial⟩])).db.orderStatus 10 =
      some .expired ∧
    (run step sampleShop (sampleCheckout ++ samplePaid 1000)).db.orderStatus 10 = some .paid ∧
    (run step sampleShop (sampleCheckout ++ samplePaid 1000 ++ [.chargeFailed ⟨10, 20⟩])
      ).db.orderStatus 10 = some .failed := by
  decide

end PxHost

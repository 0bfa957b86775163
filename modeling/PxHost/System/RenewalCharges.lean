import PxHost.Lib.Interleaving
import PxHost.System.Lapse
import PxHost.System.Recovery

/-! The charges for the next cycle, opened by calls that may overlap. -/

namespace PxHost

open Store
open Calendar (dayMs)

def Order.asksFor (id : SubscriptionId) (now : Time) (o : Order) : Bool :=
  o.subscriptionId == some id && o.kind == .planRenewal && o.status == .pending
    && o.expiresAt.any (· > now)

structure PixCharge extends GatewayPayment where
  qrCode : String
  qrCodeBase64 : String

/-- A new boleto; the provider may have moved its expiry. -/
structure BoletoCharge extends GatewayPayment where
  ticketUrl : String
  digitableLine : Option String
  expiresAt : Option Time

namespace Renewals

open Interleaving

structure State where
  db : Db
  clock : Time

/-- The calls of `createOfflineRenewalCharge` and of the daily job, each on its own. -/
inductive Call where
  | transact (tx : Tx)
  | now
  | listDue (horizon : Time)
  | findSubscription (id : SubscriptionId)
  | hasOpenRenewal (id : SubscriptionId) (date : Time)
  | createOrder (id : SubscriptionId) (s : Subscription) (method : PaymentMethod) (expiresAt : Time)
  | createPixCharge (order : OrderId)
  | createBoletoCharge (order : OrderId)

@[reducible] def Call.Result : Call → Type
  | transact _ => Unit
  | now => Time
  | listDue _ => List SubscriptionId
  | findSubscription _ => Option Subscription
  | hasOpenRenewal .. => Bool
  | createOrder .. => OrderId
  | createPixCharge _ => PixCharge
  | createBoletoCharge _ => BoletoCharge

@[reducible] def Call.Answer (call : Call) : Type := Except ApiError call.Result

/-- What the environment of a call decides: the time, the identifiers and the provider's charge. -/
structure Choice where
  now : Time
  fault : Option (Fault ApiError) := none
  fresh : FreshOrder
  pixCharge : Except ApiError PixCharge
  boletoCharge : Except ApiError BoletoCharge

/-- The subscriptions whose period ends before a horizon and that no card pays. -/
def listDue (db : Db) (horizon : Time) : List SubscriptionId :=
  (db.subscriptions.filter fun _ s =>
    (s.paymentMethod == some .pix || s.paymentMethod == some .boleto)
      && (s.status == .active || s.status == .pastDue) && !s.cancelAtPeriodEnd
      && s.currentPeriodEndsAt.any (· ≤ horizon)).map Prod.fst

def hasOpenRenewal (db : Db) (now : Time) (id : SubscriptionId) : Bool :=
  (db.orders.find? fun _ o => o.asksFor id now).isSome

/-- What the transaction commits after its check, by what it read of the subscription. -/
def openRenewal (db : Db) (id : SubscriptionId) (s : Subscription) (method : PaymentMethod)
    (expiresAt : Time) (fresh : FreshOrder) : Except ApiError Db := do
  let db ← db.createOrder fresh.id (newRenewalOrder id s fresh.externalReference method expiresAt)
  let some _ := db.users.get? s.userId | .error (.notFound "No User found")
  return db

/-- Through the grace period the customer can still pay. -/
def renewalExpiry (now : Time) (graceDays : Option Int) (method : PaymentMethod)
    (s : Subscription) : Time :=
  clampOfflineExpiry now method (s.currentPeriodEndsAt.getD now + graceDays.getD 3 * dayMs)

def perform (s : State) (choice : Choice) : (call : Call) → call.Answer × State
  | .transact tx =>
    match exec s.db tx with
    | .error error => (.error error, s)
    | .ok db => (.ok (), { s with db })
  | .now => (.ok s.clock, s)
  | .listDue horizon => (.ok (listDue s.db horizon), s)
  | .findSubscription id => (.ok (s.db.subscriptions.get? id), s)
  | .hasOpenRenewal id date => (.ok (hasOpenRenewal s.db date id), s)
  | .createOrder id row method expiresAt =>
    match openRenewal s.db id row method expiresAt choice.fresh with
    | .error error => (.error error, s)
    | .ok db => (.ok choice.fresh.id, { s with db })
  | .createPixCharge _ => (choice.pixCharge, s)
  | .createBoletoCharge _ => (choice.boletoCharge, s)

/-- A transaction that goes by the clock commits at its own time. -/
def Call.timely (now : Time) : Call → Bool
  | .transact tx => tx.time.all (· == now)
  | _ => true

/-- The clock never runs backwards. -/
def answer? (_thread : Nat) (call : Call) (choice : Choice) (s : State) :
    Option (call.Answer × State) :=
  if s.clock ≤ choice.now ∧ call.timely choice.now then
    some (Fault.befall { s with clock := choice.now }
      (perform { s with clock := choice.now } choice call) choice.fault)
  else none

abbrev Routine := ExceptT ApiError (Program Call.Answer)

@[simp] def ask (call : Call) : Routine call.Result := ExceptT.mk (Program.perform call)

/-- Have the provider charge an order, and show the customer what to pay with. -/
def startCharge (order : OrderId) (method : PaymentMethod) (expiresAt : Time) : Routine Unit := do
  if method = .pix then
    let charge ← ask (.createPixCharge order)
    ask (.transact (.recordCharge order charge.toGatewayPayment))
    ask (.transact (.presentCharge order (.pix charge.qrCode charge.qrCodeBase64)))
  else
    let charge ← ask (.createBoletoCharge order)
    ask (.transact (.recordCharge order charge.toGatewayPayment))
    ask (.transact (.presentCharge order
      (.boleto charge.digitableLine charge.ticketUrl (charge.expiresAt <|> some expiresAt))))

section Code

variable (graceDays : Option Int)

/-- The statements of the first transaction see what has been committed before each of them. -/
def createOfflineRenewalCharge (id : SubscriptionId) : Routine (Option OrderId) := do
  let some s ← ask (.findSubscription id) | return none
  let some method := s.paymentMethod | return none
  if method = .card then return none
  let date ← ask .now
  if ← ask (.hasOpenRenewal id date) then return none
  let date ← ask .now
  let expiresAt := renewalExpiry date graceDays method s
  let order ← ask (.createOrder id s method expiresAt)
  tryCatch (do
    startCharge order method expiresAt
    return some order)
    fun error => do
      -- A failed order does not keep the next run from trying again.
      ask (.transact (.failCharge order))
      throw error

def offlineRenewalLookaheadDays : Int := 3

/-- One charge for each subscription that is due; a failure of one is left to the next run. -/
def generateOfflineRenewalCharges : Routine Nat := do
  let start ← ask .now
  let due ← ask (.listDue (start + offlineRenewalLookaheadDays * dayMs))
  due.foldlM (fun created id =>
    tryCatch (do
      let order ← createOfflineRenewalCharge graceDays id
      return if order.isSome then created + 1 else created)
      fun _ => return created) 0

/-- A run of the daily job, another call for one subscription, or a transaction of anything else. -/
inductive Task where
  | generateOfflineRenewalCharges
  | createOfflineRenewalCharge (id : SubscriptionId)
  | transaction (tx : Tx)

def code : Task → Program Call.Answer Unit
  | .generateOfflineRenewalCharges => do
    let _ ← (generateOfflineRenewalCharges graceDays).run
  | .createOfflineRenewalCharge id => do
    let _ ← (createOfflineRenewalCharge graceDays id).run
  | .transaction tx => do
    let _ ← (ask (.transact tx)).run

abbrev Panel := Pool State Task Call.Answer

def step : Panel → Move Task Choice → Panel := Pool.step (code graceDays) answer?

end Code

def Panel.opened (db : Db) (clock : Time) : Panel := ⟨⟨db, clock⟩, []⟩

/-- At most one charge for the next cycle is open for each subscription. -/
def OneOpen (s : State) : Prop :=
  ∀ id, s.db.orders.count (fun _ o => o.asksFor id s.clock) ≤ 1

/-- Another order of the same subscription is one the customer is asked to pay. -/
def othersOpen (db : Db) (now : Time) (order : OrderId) (o : Order) : Bool :=
  (db.orders.find? fun other o' =>
    other != order && o.subscriptionId.any fun id => o'.asksFor id now).isSome

/--
The check of a call would still find nothing when its order is committed, and a boleto gives a
renewal a new expiry only while no other charge of the subscription is open.
-/
def unrivalled (s : State) (_ : Task) (call : Call) (choice : Choice) : Bool :=
  match call with
  | .createOrder id .. => !hasOpenRenewal s.db choice.now id
  | .transact (.presentCharge order (.boleto _ _ (some _))) =>
    (s.db.orders.get? order).all fun o =>
      o.kind != .planRenewal || !othersOpen s.db choice.now order o
  | _ => true

section Laws

variable {db after : Db} {tx : Tx} {now : Time} {id : SubscriptionId} {fresh : FreshOrder}
  {o : Order}

theorem asksFor_iff : o.asksFor id now ↔ o.subscriptionId = some id ∧
    o.kind = .planRenewal ∧ o.status = .pending ∧ ∃ expiry, o.expiresAt = some expiry ∧
      now < expiry := by
  cases expires : o.expiresAt <;> simp [Order.asksFor, expires, and_assoc]

theorem asksFor_earlier {now' : Time} (later : now ≤ now') (asks : o.asksFor id now') :
    o.asksFor id now := by
  -- The clock only takes away from what is still in the future.
  obtain ⟨own, kind, pending, expiry, expires, future⟩ := asksFor_iff.mp asks
  exact asksFor_iff.mpr ⟨own, kind, pending, expiry, expires, Int.lt_of_le_of_lt later future⟩

variable {order : OrderId}

theorem hasOpenRenewal_false (none : hasOpenRenewal db now id = false)
    (stored : db.orders.get? order = some o) : ¬o.asksFor id now := by
  have missing := Option.not_isSome_iff_eq_none.mp (Bool.eq_false_iff.mp none)
  simpa using Table.find?_none missing stored

theorem othersOpen_false {other : OrderId} {o' : Order} (none : othersOpen db now order o = false)
    (own : o.subscriptionId = some id) (stored : db.orders.get? other = some o')
    (asks : o'.asksFor id now) : other = order := by
  have missing := Option.not_isSome_iff_eq_none.mp (Bool.eq_false_iff.mp none)
  simpa [own, asks] using Table.find?_none missing stored

variable {graceDays : Option Int} {s : Subscription} {method : PaymentMethod} {expiresAt : Time}

theorem openRenewal_ok (opens : openRenewal db id s method expiresAt fresh = .ok after) :
    ∃ unused : db.orders.get? fresh.id = none, after.orders = db.orders.add fresh.id
      (newRenewalOrder id s fresh.externalReference method expiresAt) unused := by
  simp only [openRenewal, Fallible.bind_eq_ok_iff, Db.createOrder_ok_iff] at opens
  obtain ⟨_, ⟨-, unused, rfl⟩, loads⟩ := opens
  split at loads
  · cases loads
    exact ⟨unused, rfl⟩
  · cases loads

/-- The customer can still pay by this date, and the provider accepts it. -/
def payable (now : Time) (expiresAt : Option Time) : Bool :=
  expiresAt.any fun date => now < date ∧ date ≤ now + 30 * dayMs

/-- The expiry is clamped from above for every charge, but from below for a boleto only. -/
theorem payable_renewalExpiry : payable now (some (renewalExpiry now graceDays method s)) ↔
    method = .boleto ∨ now < s.currentPeriodEndsAt.getD now + graceDays.getD 3 * dayMs := by
  have soon : now < now + 3 * dayMs := Int.lt_add_of_pos_right now (by decide)
  have ahead : now < now + 29 * dayMs := Int.lt_add_of_pos_right now (by decide)
  have accepted : now + 29 * dayMs ≤ now + 30 * dayMs := Int.add_le_add_left (by decide) now
  simp only [payable, renewalExpiry, Option.any_some, decide_eq_true_eq, clampOfflineExpiry,
    clampToMercadoPagoMaxExpiry, lt_min_iff, lt_max_iff, min_le_iff, ahead, accepted, or_true,
    and_true]
  by_cases boleto : method = .boleto
  · simp [boleto, soon]
  · simp [boleto]

def ownExpiry : ChargeDetails → Option Time
  | .pix .. => none
  | .boleto _ _ expiresAt => expiresAt

/--
A new renewal charge and its order can be paid, from within now to thirty days ahead, exactly if it
is a boleto or the period ended less than the grace window ago, and if a date that the provider put
on it in place of the one it was asked for is such a date as well.
-/
theorem renewal_charge_is_payable_iff (db opened after : Db) (now : Time) (id : SubscriptionId)
    (fresh : FreshOrder) (graceDays : Option Int) (order : OrderId) (details : ChargeDetails)
    (opens : PxHost.createOfflineRenewalCharge db now id fresh graceDays = .ok (opened, some order))
    (presents : presentCharge opened order details = .ok after) :
    ∃ s o o', db.subscriptions.get? id = some s ∧ opened.orders.get? order = some o ∧
      after.orders.get? order = some o' ∧
      (payable now o.expiresAt ∧ payable now o'.expiresAt ↔
        (s.paymentMethod = some .boleto ∨
          now < s.currentPeriodEndsAt.getD now + graceDays.getD 3 * dayMs) ∧
        (ownExpiry details).all fun date => payable now (some date)) := by
  rcases createOfflineRenewalCharge_ok opens with ⟨-, none⟩ |
    ⟨-, s, method, stored, chosen, same, unused, rfl⟩
  · cases none
  obtain rfl := Option.some.inj same
  obtain ⟨-, rfl⟩ := Db.updateOrder_ok_iff.mp presents
  have first := (Table.get?_add db.orders fresh.id fresh.id (newRenewalOrder id s
    fresh.externalReference method (renewalExpiry now graceDays method s)) unused).trans (if_pos rfl)
  refine ⟨s, _, _, stored, first, Table.get?_modify_stored first _, ?_⟩
  rw [chosen, Option.some.injEq, ← payable_renewalExpiry]
  -- Only a date of the provider's own replaces the one that the charge was asked for with.
  cases details with
  | pix => simp [newRenewalOrder, ownExpiry]
  | boleto digitableLine ticketUrl expiresAt =>
    cases expiresAt <;> simp [newRenewalOrder, ownExpiry]

variable {s s' : State}

/-- What opens at most one order, and only where no other is open, keeps charges single. -/
theorem OneOpen.gains (gained : Option OrderId) (single : OneOpen s)
    (gains : ∀ id order o', s'.db.orders.get? order = some o' → o'.asksFor id s'.clock →
      (∃ o, s.db.orders.get? order = some o ∧ o.asksFor id s.clock) ∨
        some order = gained ∧ ∀ other o, s.db.orders.get? other = some o → o.asksFor id s.clock →
          some other = gained) : OneOpen s' := by
  intro id
  refine Table.count_le_one_iff.mpr fun order o order' o' stored asks stored' asks' => ?_
  -- Each of two open orders was open before or was gained; a gained one tolerates no other.
  rcases gains id order o stored asks with ⟨_, before, open₁⟩ | ⟨new, alone⟩ <;>
    rcases gains id order' o' stored' asks' with ⟨_, before', open₂⟩ | ⟨new', alone'⟩
  · exact Table.count_le_one_iff.mp (single id) _ _ _ _ before open₁ before' open₂
  · exact Option.some.inj ((alone' order _ before open₁).trans new'.symm)
  · exact Option.some.inj (new.trans (alone order' _ before' open₂).symm)
  · exact Option.some.inj (new.trans new'.symm)

theorem OneOpen.opens {row : Subscription} {reference : String} (single : OneOpen s)
    (none : hasOpenRenewal s.db s.clock id = false) (unused : s.db.orders.get? fresh.id = .none)
    (orders : after.orders = s.db.orders.add fresh.id
      (newRenewalOrder id row reference method expiresAt) unused) :
    OneOpen { s with db := after } := by
  refine single.gains (some fresh.id) fun other order o' stored asks => ?_
  rw [orders, Table.get?_add] at stored
  split at stored
  · -- The new order asks for its own subscription, for which no order was open.
    rename_i same
    cases stored
    obtain rfl : id = other := by simpa [newRenewalOrder] using (asksFor_iff.mp asks).1
    exact .inr ⟨congrArg some same, fun _ _ before asks => (hasOpenRenewal_false none before asks).elim⟩
  · exact .inl ⟨o', stored, asks⟩

theorem asksFor_before (executed : exec db tx = .ok after)
    (other : ∀ now id fresh graceDays, tx ≠ .createOfflineRenewalCharge now id fresh graceDays)
    {o' : Order} (stored' : after.orders.get? order = some o') (asks : o'.asksFor id now) :
    ∃ o, db.orders.get? order = some o ∧
      (o.asksFor id now ∨
        tx.reschedules = some order ∧ o.kind = .planRenewal ∧ o.subscriptionId = some id) := by
  -- The order is followed back to its row before, and each condition of being open with it.
  obtain ⟨own, kind, pending, expiry, expires, future⟩ := asksFor_iff.mp asks
  cases stored : db.orders.get? order with
  | none =>
    -- A first order is no renewal, and one the provider charged by itself has no expiry.
    cases (exec_purchases executed).created stored stored' with
    | checkout _ first => simp [kind] at first
    | renewal called => exact (other _ _ _ _ called).elim
    | recurring _ _ _ _ _ _ endless => simp [expires] at endless
  | some o =>
    obtain ⟨_, moved, bought⟩ := (exec_purchases executed).moved stored
    obtain rfl := Option.mem_unique moved stored'
    obtain ⟨_, moved', step⟩ := (exec_orders executed).moved stored
    obtain rfl := Option.mem_unique moved' stored'
    refine ⟨o, rfl, ?_⟩
    -- What is pending was pending before, so that only a new expiry can have opened the order.
    rcases bought.expiresAt with rescheduled | kept
    · exact .inr ⟨rescheduled, bought.kind ▸ kind, bought.subscriptionId ▸ own⟩
    · exact .inl (asksFor_iff.mpr ⟨bought.subscriptionId ▸ own, bought.kind ▸ kind,
        step.move.pending pending, expiry, kept ▸ expires, future⟩)

/-- A transaction of anything else, when a boleto that it shows has no rival. -/
theorem OneOpen.exec (single : OneOpen s) (timed : ∀ time, tx.time = some time → time = s.clock)
    (alone : ∀ order o, tx.reschedules = some order → s.db.orders.get? order = some o →
      o.kind = .planRenewal → othersOpen s.db s.clock order o = false)
    (executed : PxHost.exec s.db tx = .ok after) : OneOpen { s with db := after } := by
  by_cases renewal : ∃ now id fresh graceDays, tx = .createOfflineRenewalCharge now id fresh graceDays
  · -- A renewal charge in one transaction checks and inserts at the same moment.
    obtain ⟨now, id, fresh, graceDays, rfl⟩ := renewal
    obtain rfl := timed now rfl
    obtain ⟨_, charges⟩ := Fallible.map_fst_eq_ok_iff.mp executed
    rcases createOfflineRenewalCharge_ok charges with ⟨rfl, -⟩ | ⟨none, _, _, -, -, -, unused, rfl⟩
    · exact single
    · exact single.opens (Option.isSome_eq_false_iff.mpr (Option.isNone_iff_eq_none.mpr none)) unused rfl
  · -- Any other one opens at most the order that it gives a new expiry.
    refine single.gains tx.reschedules fun id order o' stored asks => ?_
    obtain ⟨o, before, asked | ⟨rescheduled, kind, own⟩⟩ :=
      asksFor_before executed (fun now id fresh graceDays called =>
        renewal ⟨now, id, fresh, graceDays, called⟩) stored asks
    · exact .inl ⟨o, before, asked⟩
    · refine .inr ⟨rescheduled.symm, fun other o₂ before' asked => ?_⟩
      rw [rescheduled]
      exact congrArg some (othersOpen_false (alone order o rescheduled before kind) own before' asked)

/-- A call opens no second charge while one is open. -/
theorem OneOpen.answered {thread : Nat} {task : Task} {call : Call} {choice : Choice}
    {answer : call.Answer} (single : OneOpen s) (alone : unrivalled s task call choice)
    (answers : answer? thread call choice s = some (answer, s')) : OneOpen s' := by
  obtain ⟨punctual, outcome⟩ := Fault.answer_cases answers
  -- The passing of time opens nothing.
  have later : OneOpen { s with clock := choice.now } :=
    single.gains none fun id order o stored asks =>
      .inl ⟨o, stored, asksFor_earlier punctual.1 asks⟩
  rcases outcome with ⟨rfl, -⟩ | ⟨rfl, -⟩
  · -- A call that never arrives changes nothing.
    exact later
  cases call with
  | now | listDue | findSubscription | hasOpenRenewal | createPixCharge | createBoletoCharge =>
    exact later
  | createOrder id row method expiresAt =>
    simp only [perform]
    split
    · exact later
    · -- The condition repeats the check at the moment of the insertion.
      rename_i opens
      obtain ⟨unused, orders⟩ := openRenewal_ok opens
      exact later.opens (by simpa [unrivalled] using alone) unused orders
  | transact tx =>
    simp only [perform]
    split
    · exact later
    · rename_i executed
      refine later.exec ?_ ?_ executed
      · intro time timed
        simpa [Call.timely, timed] using punctual.2
      · -- Only a boleto with an expiry reschedules, and the condition speaks of just that.
        intro order o rescheduled stored kind
        unfold Tx.reschedules at rescheduled
        split at rescheduled
        · cases rescheduled
          simpa [unrivalled, stored, kind] using alone
        · cases rescheduled

end Laws

/--
Over any runs of the daily job, other calls and other transactions, overlapping or not, every
subscription has at most one open renewal charge, when no call commits an order that its own check
would now reject and no boleto reopens a charge next to another one.
-/
theorem renewal_charges_stay_single (graceDays : Option Int) (db : Db) (clock : Time)
    (moves : List (Move Task Choice)) (single : OneOpen (Panel.opened db clock).shared)
    (alone : Machine.Guarded (step graceDays) (fun panel move => panel.allows unrivalled move)
      (Panel.opened db clock) moves) :
    OneOpen (Machine.run (step graceDays) (Panel.opened db clock) moves).shared := by
  -- The invariant is the conclusion itself, and each call that is answered keeps it.
  refine Pool.shared_run OneOpen ?_ single alone
  intro s thread task call choice answer s' single ok answers
  exact single.answered ok answers

def sampleSubscribed (method : PaymentMethod) : Db :=
  Machine.run commit samplePanel [
    .createCheckoutOrder 0 1 { planId := 1, paymentMethod := method } 20 ⟨10, "ord_a"⟩ none,
    .applyPaymentOutcome 1000 20 .paymentConfirmed { samplePix with status := "approved" }
      .mercadopago ⟨11, "ord_b"⟩]

def sampleCalls (thread calls : Nat) (now : Time) (fresh : FreshOrder) : List (Move Task Choice) :=
  List.replicate calls (.turn thread {
    now, fresh
    pixCharge := .ok { samplePix with id := "pix-2", qrCode := "00020126", qrCodeBase64 := "iVBO" }
    boletoCharge := .ok { samplePix with
      id := "boleto-2", ticketUrl := "boleto.pdf", digitableLine := none
      expiresAt := some (now + 5 * dayMs) } })

/-- The orders that a customer is asked to pay at the end of a run. -/
def sampleOpen (method : PaymentMethod) (moves : List (Move Task Choice)) : List OrderId :=
  let s := (Machine.run (step none) (Panel.opened (sampleSubscribed method) 0) moves).shared
  (s.db.orders.filter fun _ o => o.asksFor 20 s.clock).map Prod.fst

/-- Two runs of the job, of which the second starts after the first has finished. -/
def sampleRuns : List (Move Task Choice) :=
  [.start .generateOfflineRenewalCharges, .start .generateOfflineRenewalCharges] ++
    sampleCalls 0 10 2600000000 ⟨12, "ord_c"⟩ ++ sampleCalls 1 5 2600000000 ⟨13, "ord_d"⟩

theorem sample_renewal_charges_stay_single :
    sampleOpen .pix sampleRuns = [12] ∧
      OneOpen (Machine.run (step none) (Panel.opened (sampleSubscribed .pix) 0) sampleRuns).shared :=
  ⟨by decide +kernel, renewal_charges_stay_single none (sampleSubscribed .pix) 0 sampleRuns
    (fun _ => Nat.le_trans List.countP_le_length (by decide +kernel)) (by decide +kernel)⟩

/--
Two runs of the job that both look before either commits open two charges for the same cycle, and a
boleto that comes back after its order ran out reopens it next to the charge made in the meantime.
-/
theorem renewal_is_charged_twice :
    sampleOpen .pix ([.start .generateOfflineRenewalCharges, .start .generateOfflineRenewalCharges] ++
      sampleCalls 0 5 2600000000 ⟨12, "ord_c"⟩ ++ sampleCalls 1 10 2600000000 ⟨13, "ord_d"⟩ ++
      sampleCalls 0 5 2600000000 ⟨12, "ord_c"⟩) = [13, 12] ∧
    sampleOpen .boleto ([.start (.createOfflineRenewalCharge 20),
        .start (.createOfflineRenewalCharge 20)] ++
      sampleCalls 0 5 2600000000 ⟨12, "ord_c"⟩ ++ sampleCalls 1 8 3000000000 ⟨13, "ord_d"⟩ ++
      sampleCalls 0 3 3000000000 ⟨12, "ord_c"⟩) = [12, 13] := by
  decide +kernel

/-- The database and the order once a customer has been charged for the next cycle. -/
def sampleRenewal (method : PaymentMethod) (now : Time) : Db × Option OrderId :=
  (PxHost.createOfflineRenewalCharge (sampleSubscribed method) now 20 ⟨12, "ord_c"⟩ none).toOption.getD
    (sampleSubscribed method, none)

/-- The same once the customer is shown what to pay with. -/
def samplePresented (method : PaymentMethod) (now : Time) : Db :=
  (presentCharge (sampleRenewal method now).1 12 (.pix "00020126" "iVBO")).toOption.getD {}

theorem sample_renewal_charge_is_payable_iff :
    ((sampleRenewal .pix 2600000000).1.orders.get? 12).any (payable 2600000000 ·.expiresAt) ∧
      ∃ s o o', (sampleSubscribed .pix).subscriptions.get? 20 = some s ∧
        (sampleRenewal .pix 2600000000).1.orders.get? 12 = some o ∧
        (samplePresented .pix 2600000000).orders.get? 12 = some o' ∧
        (payable 2600000000 o.expiresAt ∧ payable 2600000000 o'.expiresAt ↔
          (s.paymentMethod = some .boleto ∨
            2600000000 < s.currentPeriodEndsAt.getD 2600000000 + (none : Option Int).getD 3 * dayMs) ∧
          (ownExpiry (.pix "00020126" "iVBO")).all fun date => payable 2600000000 (some date)) :=
  ⟨by decide +kernel, renewal_charge_is_payable_iff (sampleSubscribed .pix)
    (sampleRenewal .pix 2600000000).1 (samplePresented .pix 2600000000) 2600000000 20 ⟨12, "ord_c"⟩
    none 12 (.pix "00020126" "iVBO") (by decide +kernel) (by decide +kernel)⟩

/-- A customer whose period ended before the grace window is charged with a Pix that has run out. -/
theorem debtor_is_charged_in_the_past :
    (sampleRenewal .pix 3000000000).2 = some 12 ∧
      ((sampleRenewal .pix 3000000000).1.orders.get? 12).map (·.expiresAt) =
        some (some 2937601000) := by
  decide +kernel

end Renewals

end PxHost

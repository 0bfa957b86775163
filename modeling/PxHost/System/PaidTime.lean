import PxHost.Lib.CalendarLaws
import PxHost.System.History

/-! How long a subscription is paid for, and the two writes that can take paid time back. -/

namespace PxHost

open Machine
open Calendar (dayMs)

def Db.paidUntil (db : Db) (id : SubscriptionId) : Option Time :=
  (db.subscriptions.get? id).bind (·.currentPeriodEndsAt)

/-- The transaction counts the period anew, or takes over a due date, and ends it earlier so. -/
def Tx.shortens (db : Db) (id : SubscriptionId) (tx : Tx) : Bool :=
  (db.subscriptions.get? id).any fun s => s.currentPeriodEndsAt.any fun paid =>
    ((tx.restarts db).any fun restart => restart.2 == id && canTransition s.status .active
      && nextPeriodEnd restart.1 s.billingPeriod < paid)
    || ((tx.syncs db).any fun sync => sync.1 == id && sync.2 < paid)

theorem le_nextPeriodEnd (start : Time) (period : BillingPeriod) :
    start ≤ nextPeriodEnd start period := by
  -- Every billing period is a whole number of months, so the calendar's law applies.
  apply Calendar.le_addMonths
  cases period <;> decide

variable {s : Subscription} {paid : Time}

theorem le_renewalAnchor (held : s.currentPeriodEndsAt = some paid) (now : Time) :
    paid ≤ renewalAnchor now s := by
  simp only [renewalAnchor, held]
  split
  · exact Int.le_refl paid
  · rename_i passed
    exact Int.not_lt.mp passed

variable {id : SubscriptionId}

/-- Of all the ways to move the period, only those named by `shortens` end it earlier. -/
theorem PeriodMove.later {db : Db} {tx : Tx} {reached : Option Time}
    (stored : db.subscriptions.get? id = some s) (held : s.currentPeriodEndsAt = some paid)
    (spared : ¬tx.shortens db id) (move : PeriodMove db tx id s reached) :
    ∃ later, reached = some later ∧ paid ≤ later := by
  simp only [Tx.shortens, stored, held, Option.any_some, Bool.or_eq_true, not_or,
    Bool.not_eq_true] at spared
  cases move with
  | kept => exact ⟨paid, held, Int.le_refl paid⟩
  | extended now =>
    exact ⟨_, rfl, Int.le_trans (le_renewalAnchor held now) (le_nextPeriodEnd _ _)⟩
  | restarted asked legal =>
    have later := spared.1
    simp only [asked, Option.any_some, beq_self_eq_true, legal, Bool.true_and,
      decide_eq_false_iff_not] at later
    exact ⟨_, rfl, Int.not_lt.mp later⟩
  | synced asked =>
    have later := spared.2
    simp only [asked, Option.any_some, beq_self_eq_true, Bool.true_and,
      decide_eq_false_iff_not] at later
    exact ⟨_, rfl, Int.not_lt.mp later⟩

theorem commit_paidUntil {db : Db} {tx : Tx} (held : db.paidUntil id = some paid)
    (spared : ¬tx.shortens db id) :
    ∃ later, (commit db tx).paidUntil id = some later ∧ paid ≤ later := by
  refine commit_preserves (P := fun after => ∃ later, after.paidUntil id = some later ∧
    paid ≤ later) ⟨paid, held, Int.le_refl paid⟩ ?_
  intro after executed
  obtain ⟨s, stored, period⟩ := Option.bind_eq_some_iff.mp held
  obtain ⟨s', stored', move⟩ := (exec_terms executed).moved stored
  obtain ⟨later, reached, ordered⟩ := move.period.later stored period spared
  exact ⟨later, Option.bind_eq_some_iff.mpr ⟨s', stored', reached⟩, ordered⟩

/--
The paid period of a subscription never ends earlier than it did, in every run of transactions none
of which restarts it or syncs it to a date before its end.
-/
theorem paid_time_is_never_shortened (db : Db) (txs : List Tx) (id : SubscriptionId) (paid : Time)
    (held : db.paidUntil id = some paid)
    (spared : Guarded commit (fun db tx => ¬tx.shortens db id) db txs) :
    ∃ later, (run commit db txs).paidUntil id = some later ∧ paid ≤ later := by
  -- The invariant is the conclusion itself; each transaction moves the end on or leaves it.
  refine invariant_run (fun db => ∃ later, db.paidUntil id = some later ∧ paid ≤ later) ?_
    ⟨paid, held, Int.le_refl paid⟩ spared
  rintro db tx ⟨reached, held, ordered⟩ spared
  obtain ⟨later, held', ordered'⟩ := commit_paidUntil held spared
  exact ⟨later, held', Int.le_trans ordered ordered'⟩

def samplePaidPix (id reference : String) : GatewayPayment :=
  { id, status := "approved", externalReference := some reference, amountCents := some 2990 }

/-- A subscription bought on 1 March 1970, and so paid until 1 April. -/
def sampleMarch : Db :=
  run commit sampleShop.db [samplePixCheckout (59 * dayMs) 20 ⟨10, "ord_a"⟩,
    .applyPaymentOutcome (59 * dayMs) 20 .paymentConfirmed (samplePaidPix "pix-1" "ord_a")
      .mercadopago ⟨11, "ord_b"⟩]

/-- On 29 March the next period is charged and paid at once. -/
def sampleRenewal : List Tx := [
  .createOfflineRenewalCharge (87 * dayMs) 20 ⟨12, "ord_r"⟩ none,
  .applyPaymentOutcome (87 * dayMs) 20 .paymentConfirmed (samplePaidPix "pix-2" "ord_r")
    .mercadopago ⟨13, "ord_c"⟩]

/-- An administrator stops and reopens the subscription on a day. -/
def sampleReopened (day : Time) : List Tx := [
  .updateStatusAsAdmin (day * dayMs) 20 .suspended none 2,
  .updateStatusAsAdmin (day * dayMs) 20 .active none 2]

/-- Reopened on 2 May, when everything paid for has run out, the subscription is paid for longer. -/
theorem sample_paid_time_is_never_shortened :
    ∃ later, (run commit sampleMarch (sampleRenewal ++ sampleReopened 121)).paidUntil 20 =
      some later ∧ 90 * dayMs ≤ later :=
  paid_time_is_never_shortened sampleMarch _ 20 (90 * dayMs) (by decide +kernel) (by decide +kernel)

/-- The same purchase by card, charged by the provider. -/
def sampleMarchCard : Db :=
  run commit sampleShop.db [
    .createCheckoutOrder (59 * dayMs) 1 { planId := 1, paymentMethod := .card } 20 ⟨10, "ord_a"⟩
      none,
    .authorizeCard 10 20 "pre-1" "init",
    .applyPaymentOutcome (59 * dayMs) 20 .paymentConfirmed
      { id := "card-1", status := "approved", subscriptionExternalId := some "pre-1"
        amountCents := some 2990 } .mercadopago ⟨11, "ord_b"⟩]

/-- The provider reports a due date for the card. -/
def sampleSynced (due : Time) : Tx :=
  .preapprovalEvent (60 * dayMs) "pre-1"
    { id := "pre-1", status := "authorized", nextDueDate := some due } .mercadopago

/--
Paid until 1 May, the subscription is stopped and reopened on 29 March and then ends on 29 April.
Paid until 1 April, the subscription by card ends with the due date reported for 15 March.
-/
theorem reopening_shortens_paid_time :
    (run commit sampleMarch sampleRenewal).paidUntil 20 = some (120 * dayMs) ∧
    (run commit sampleMarch (sampleRenewal ++ sampleReopened 87)).paidUntil 20 =
      some (118 * dayMs) ∧
    sampleMarchCard.paidUntil 20 = some (90 * dayMs) ∧
    (run commit sampleMarchCard [sampleSynced (73 * dayMs)]).paidUntil 20 =
      some (73 * dayMs) := by
  decide +kernel

end PxHost

import PxHost.Lib.Journal
import PxHost.System.Settlement
import PxHost.System.SubscriptionLaws

/-! The history of a subscription, and the one write of its status that bypasses it. -/

namespace PxHost

open Store Journal Machine

/-- A life opens as pending and then follows the state machine. -/
def lifeCycle : Grammar SubscriptionStatus SubscriptionEvent where
  source := (·.fromStatus)
  target := (·.toStatus)
  allowed
    | none, target => target == .pending
    | some current, target => canTransition current target

def Db.history (db : Db) (id : SubscriptionId) : List SubscriptionEvent :=
  db.subscriptionEvents.filter (·.subscriptionId == id)

def Db.statusOf (db : Db) (id : SubscriptionId) : Option SubscriptionStatus :=
  (db.subscriptions.get? id).map (·.status)

/-- The events of every subscription lead from nothing to the status it has. -/
def HistoryFaithful (db : Db) : Prop :=
  ∀ row ∈ db.subscriptions.rows, Traces lifeCycle none (db.history row.1) (some row.2.status)

instance (db : Db) : Decidable (HistoryFaithful db) :=
  inferInstanceAs (Decidable (∀ row ∈ db.subscriptions.rows, _))

/-- Every status changed along the way the new events tell. -/
def Recorded (db after : Db) : Prop :=
  ∀ id, ∃ entries, after.history id = db.history id ++ entries ∧
    Traces lifeCycle (db.statusOf id) entries (after.statusOf id)

variable {db base after : Db} {tx : Tx} {now : Time}

namespace Recorded

theorem trans (first : Recorded db base) (second : Recorded base after) : Recorded db after := by
  intro id
  obtain ⟨earlier, written, told⟩ := first id
  obtain ⟨later, rewritten, retold⟩ := second id
  exact ⟨earlier ++ later, by rw [rewritten, written, List.append_assoc], told.append retold⟩

theorem of_kept (events : after.subscriptionEvents = db.subscriptionEvents)
    (kept : ∀ id, after.statusOf id = db.statusOf id) : Recorded db after := by
  intro id
  exact ⟨[], by simp [Db.history, events], traces_nil.mpr (kept id)⟩

theorem of_same (subscriptions : after.subscriptions = db.subscriptions)
    (events : after.subscriptionEvents = db.subscriptionEvents) : Recorded db after :=
  of_kept events fun _ => by rw [Db.statusOf, subscriptions, Db.statusOf]

variable {id : SubscriptionId} {f : Subscription → Subscription}

theorem of_modify (subscriptions : after.subscriptions = db.subscriptions.modify id f)
    (events : after.subscriptionEvents = db.subscriptionEvents)
    (kept : ∀ s, db.subscriptions.get? id = some s → (f s).status = s.status) :
    Recorded db after := by
  refine of_kept events fun other => ?_
  simp only [Db.statusOf, subscriptions, Table.get?_modify]
  split
  · rename_i own
    subst own
    cases stored : db.subscriptions.get? other with
    | none => rfl
    | some s => simp [kept s stored]
  · rfl

/-- One event that leads from the status its subscription had to the one it has. -/
theorem of_told {event : SubscriptionEvent}
    (events : after.subscriptionEvents = db.subscriptionEvents ++ [event])
    (own : event.subscriptionId = id)
    (legal : Traces lifeCycle (db.statusOf id) [event] (after.statusOf id))
    (others : ∀ other ≠ id, after.statusOf other = db.statusOf other) : Recorded db after := by
  intro other
  by_cases same : other = id
  · subst same
    exact ⟨[event], by simp [Db.history, events, own], legal⟩
  · refine ⟨[], ?_, traces_nil.mpr (others other same)⟩
    simp [Db.history, events, own, Ne.symm same]

end Recorded

/-- The checkout a new one replaces has lost its subscription already. -/
def Tx.sparesHistory (db : Db) (tx : Tx) : Prop :=
  ∀ id ∈ tx.replaces db, ∀ s ∈ db.subscriptions.get? id, s.status = .cancelled

instance (db : Db) (tx : Tx) : Decidable (tx.sparesHistory db) :=
  inferInstanceAs (Decidable (∀ id ∈ tx.replaces db, ∀ s ∈ db.subscriptions.get? id, _))

theorem statusOf_removeServer {server : ServerId} (id : SubscriptionId) :
    (db.removeServer server).statusOf id = db.statusOf id := by
  simp only [Db.statusOf, Db.removeServer, Table.get?_updateWhere, Option.map_map]
  congr 1
  funext s
  simp only [Function.comp_apply]
  split <;> rfl

/-- Every transaction that replaces no living checkout tells of every status it changes. -/
theorem exec_recorded (spared : tx.sparesHistory db) (executed : exec db tx = .ok after) :
    Recorded db after := by
  cases exec_written executed with
  | nothing rows history => exact .of_same rows history
  | @row id s f events stored rows history move terms told =>
    cases told with
    | kept same nothing =>
      refine .of_modify rows (by simp [history, nothing]) fun s' found => ?_
      obtain rfl : s = s' := by simpa [stored] using found
      exact same
    | changed one own left reached legal time =>
      subst one
      refine .of_told history own ?_ fun other different => by simp [Db.statusOf, rows, different]
      simpa [Db.statusOf, rows, stored, lifeCycle, left, reached] using legal
  | detached called rows history =>
    refine .of_kept history fun other => ?_
    rw [Db.statusOf, rows]
    exact statusOf_removeServer other
  | @born base id s event cleaned fresh rows new unpaid history own first pending =>
    -- The overwritten status is the one the row has.
    have cleared : Recorded db { db with subscriptions := base } := by
      rcases cleaned with rfl | ⟨old, replaced, rfl⟩
      · exact .of_same rfl rfl
      · refine .of_modify (f := fun s => { s with status := .cancelled }) rfl rfl fun s stored => ?_
        exact (spared old replaced s stored).symm
    refine cleared.trans (.of_told history own ?_ fun other different => ?_)
    · simp [Db.statusOf, rows, show base.get? id = none from fresh, lifeCycle, first, pending,
        new.status]
    · simp [Db.statusOf, rows, different]

def EventsAt (now : Time) (db after : Db) : Prop :=
  ∃ entries, after.subscriptionEvents = db.subscriptionEvents ++ entries ∧
    ∀ entry ∈ entries, entry.createdAt = now

namespace EventsAt

theorem of_eq (same : after.subscriptionEvents = db.subscriptionEvents) : EventsAt now db after :=
  ⟨[], by rw [same, List.append_nil], nofun⟩

theorem of_one {entry : SubscriptionEvent}
    (one : after.subscriptionEvents = db.subscriptionEvents ++ [entry])
    (written : entry.createdAt = now) : EventsAt now db after :=
  ⟨[entry], one, by simpa using written⟩

end EventsAt

theorem exec_eventsAt (timed : ∀ time, tx.time = some time → time = now)
    (executed : exec db tx = .ok after) : EventsAt now db after := by
  cases exec_written executed with
  | nothing _ history | detached _ _ history => exact .of_eq history
  | row _ _ history _ _ told =>
    cases told with
    | kept _ nothing => exact .of_eq (by simp [history, nothing])
    | changed one _ _ _ _ time =>
      subst one
      exact .of_one history (timed _ time)
  | born _ _ _ _ _ history _ _ _ time => exact .of_one history (timed _ time)

/-- A subscription does not fall overdue without an event that says when. -/
theorem exec_overdue_event {id : SubscriptionId} (timed : ∀ time, tx.time = some time → time = now)
    (executed : exec db tx = .ok after) (overdue : after.statusOf id = some .pastDue)
    (entered : db.statusOf id ≠ some .pastDue) :
    ∃ event ∈ after.history id, event.toStatus = .pastDue ∧ event.createdAt = now := by
  cases exec_written executed with
  | nothing rows => exact absurd (by simpa [Db.statusOf, rows] using overdue) entered
  | @row changed s f events stored rows history move terms told =>
    by_cases own : id = changed
    · subst own
      have reached : (f s).status = .pastDue := by simpa [Db.statusOf, rows, stored] using overdue
      cases told with
      | kept same => exact absurd (by simpa [Db.statusOf, stored, ← same] using reached) entered
      | @changed event one own left target legal time =>
        refine ⟨event, ?_, target.trans reached, timed _ time⟩
        simp [Db.history, history, one, own]
    · exact absurd (by simpa [Db.statusOf, rows, own] using overdue) entered
  | detached called rows =>
    rw [Db.statusOf, rows] at overdue
    exact absurd ((statusOf_removeServer id).symm.trans overdue) entered
  | @born base new s event cleaned fresh rows pending =>
    -- The new subscription is pending and the one it replaces is cancelled, so neither is overdue.
    have before : (base.get? id).map (·.status) = some .pastDue := by
      by_cases own : id = new
      · simp [Db.statusOf, rows, own, pending.status] at overdue
      · simpa [Db.statusOf, rows, own] using overdue
    rcases cleaned with rfl | ⟨old, -, rfl⟩
    · exact absurd before entered
    · by_cases own : id = old
      · subst own
        cases stored : db.subscriptions.get? id <;> simp [stored] at before
      · exact absurd (by simpa [Db.statusOf, own] using before) entered

/-- The history tells the status of every subscription, and of no other. -/
def Tracked (db : Db) : Prop :=
  ∀ id, Traces lifeCycle none (db.history id) (db.statusOf id)

theorem Tracked.faithful (tracked : Tracked db) : HistoryFaithful db := by
  rintro ⟨id, s⟩ stored
  have told := tracked id
  rwa [Db.statusOf, Table.get?_eq_some_iff.mpr stored] at told

theorem commit_tracked (before : Tracked db) (spared : tx.sparesHistory db) :
    Tracked (commit db tx) := by
  refine commit_preserves before fun after executed id => ?_
  obtain ⟨entries, written, told⟩ := exec_recorded spared executed id
  rw [written]
  exact (before id).append told

/--
From a panel without subscriptions, the events of every subscription form a chain of legal moves
from pending to its present status, as long as no checkout replaces one with a living subscription.
-/
theorem subscription_history_is_faithful (db : Db) (txs : List Tx)
    (subscriptions : db.subscriptions = .empty) (events : db.subscriptionEvents = [])
    (spared : Guarded commit (fun db tx => tx.sparesHistory db) db txs) :
    HistoryFaithful (run commit db txs) := by
  have initially : Tracked db := by
    intro id
    simp [Db.history, Db.statusOf, subscriptions, events]
  have tracked := invariant_run Tracked (fun _ _ before spared => commit_tracked before spared)
    initially spared
  exact tracked.faithful

def samplePixCheckout (now : Time) (id : SubscriptionId) (fresh : FreshOrder) : Tx :=
  .createCheckoutOrder now 1 { planId := 1, paymentMethod := .pix } id fresh none

/-- A checkout is resumed, given up by its customer, and then replaced by a card. -/
theorem sample_subscription_history_is_faithful :
    HistoryFaithful (run commit sampleShop.db [
      samplePixCheckout 0 20 ⟨10, "ord_a"⟩, samplePixCheckout 1 21 ⟨11, "ord_b"⟩,
      .cancelForUser 2 1 20 none,
      .createCheckoutOrder 3 1 { planId := 1, paymentMethod := .card } 22 ⟨12, "ord_c"⟩ none]) :=
  subscription_history_is_faithful sampleShop.db _ rfl rfl (by decide)

/-- Changing the payment method cancels a subscription whose last event still says pending. -/
theorem replaced_checkout_leaves_no_event :
    let opened := run commit sampleShop.db [samplePixCheckout 0 20 ⟨10, "ord_a"⟩]
    let replaced := commit opened
      (.createCheckoutOrder 1 1 { planId := 1, paymentMethod := .card } 21 ⟨11, "ord_b"⟩ none)
    HistoryFaithful opened ∧ ¬ HistoryFaithful replaced ∧
      replaced.statusOf 20 = some .cancelled ∧
      (replaced.history 20).map (fun event => (event.fromStatus, event.toStatus)) =
        [(none, .pending)] := by
  decide

end PxHost

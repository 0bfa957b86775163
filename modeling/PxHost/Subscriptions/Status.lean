import PxHost.Schema.Types

/-! The subscription state machine and its billing periods. -/

namespace PxHost

def allowedTransitions : SubscriptionStatus → List SubscriptionStatus
  | .pending => [.active, .cancelled]
  | .active => [.pastDue, .suspended, .cancelled, .expired]
  | .pastDue => [.active, .suspended, .cancelled, .expired]
  | .suspended => [.active, .cancelled, .expired]
  | .cancelled => []
  | .expired => []

def canTransition (current target : SubscriptionStatus) : Bool :=
  (allowedTransitions current).contains target

def assertTransition (current target : SubscriptionStatus) : Except ApiError Unit :=
  if canTransition current target then .ok () else .error (.invalidTransition current target)

def periodMonths : BillingPeriod → Int
  | .monthly => 1
  | .quarterly => 3
  | .semiannual => 6
  | .annual => 12

def nextPeriodEnd (start : Time) (period : BillingPeriod) : Time :=
  Calendar.addMonths start (periodMonths period)

/-- A subscription in one of these statuses can still change. -/
def SubscriptionStatus.isAlive (s : SubscriptionStatus) : Bool :=
  s != .cancelled && s != .expired

theorem isAlive_of_canTransition {current target : SubscriptionStatus}
    (legal : canTransition current target) : current.isAlive := by
  -- The two dead statuses allow no target, so the membership test has already failed there.
  cases current <;> first | rfl | simp [canTransition, allowedTransitions] at legal

end PxHost

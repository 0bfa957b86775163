import PxHost.Capacity.Service

/-! The storefront: which plans a visitor sees, and whether they are still to be had. -/

namespace PxHost

inductive AvailabilityStatus where
  | available | limited | soldOut
deriving DecidableEq

structure PlanAvailability where
  status : AvailabilityStatus
  remaining : Option Int
deriving DecidableEq

/-- From this many slots downwards a plan is shown as running out. -/
def LOW_STOCK_THRESHOLD : Int := 3

def occupancyForPlans (db : Db) (planIds : List PlanId) (planId : PlanId) : Nat :=
  if planId ∈ planIds then occupiedSlots db planId else 0

/--
What the nodes have left for each listed plan: `none` when no node is healthy, so that they are not
asked at all.
-/
def derivedSlotsForPlans (db : Db) (now : Time) (planId : PlanId) (limits : Limits) :
    Option (Option Int) :=
  if hasAnyHealthyNode db now then some (derivedSlotsForPlan db now planId limits) else none

/-- The bound shown to a visitor: the smaller of the plan's own and the nodes'. -/
def effectiveSlots (maxSlots : Option Nat) (derivedSlots : Option (Option Int)) : Option Int :=
  match derivedSlots, maxSlots with
  | none, max => max.map (↑)
  | some derived, none => derived
  | some none, some max => some max
  | some (some derived), some max => some (min (max : Int) derived)

def computeAvailability (maxSlots : Option Nat) (occupied : Nat)
    (derivedSlots : Option (Option Int)) : PlanAvailability :=
  match effectiveSlots maxSlots derivedSlots with
  | none => ⟨.available, none⟩
  | some slots =>
    let remaining := slots - occupied
    if remaining ≤ 0 then ⟨.soldOut, some 0⟩
    else ⟨if remaining ≤ LOW_STOCK_THRESHOLD then .limited else .available, some remaining⟩

def publicPlans (db : Db) : List (PlanId × Plan) :=
  db.plans.filter fun _ plan => plan.deletedAt.isNone && plan.isPublic

/-- The catalog: every public plan with its availability. -/
def listPublicPlans (db : Db) (now : Time) : List (PlanId × PlanAvailability) :=
  let plans := publicPlans db
  let occupied := occupancyForPlans db (plans.map Prod.fst)
  plans.map fun (id, plan) => (id,
    computeAvailability plan.maxSlots (occupied id) (derivedSlotsForPlans db now id plan.limits))

end PxHost

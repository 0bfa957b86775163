import PxHost.Lib.TableTotals
import PxHost.System.Links
import PxHost.System.Suspension

/-! The slots of a plan: who takes them, and which transactions ask first. -/

namespace PxHost

open Store Fallible Machine

variable {db after : Db} {tx : Tx} {planId : PlanId}

def serverSlots (planId : PlanId) (_ : ServerId) (row : ServerRow) : Nat :=
  if row.val.holdsSlot planId then 1 else 0

def subscriptionSlots (planId : PlanId) (_ : SubscriptionId) (s : Subscription) : Nat :=
  if s.holdsSlot planId then 1 else 0

theorem occupiedSlots_eq_sums (db : Db) (planId : PlanId) :
    occupiedSlots db planId =
      db.servers.sum (serverSlots planId) + db.subscriptions.sum (subscriptionSlots planId) := by
  simp only [occupiedSlots, Table.count_eq_sum]
  rfl

variable {plan : Plan}

theorem Server.IsNew.slots {row : ServerRow} {dto : CreateOnNodeInput} {node : NodeId}
    {installs : Bool} (new : row.val.IsNew dto node plan installs) (id : ServerId) (planId : PlanId) :
    serverSlots planId id row = if dto.planId = planId then 1 else 0 := by
  have status : row.val.status ≠ .deleting := by
    rw [new.status]
    split <;> exact nofun
  simp [serverSlots, Server.holdsSlot, new.planId, status]

section Creation

variable {now : Time} {dto : CreateOnNodeInput} {node : NodeId} {context : Option TemplateContext}
  {fresh : FreshServer}

def IsNoSlots (e : ApiError) : Prop := ∃ would limit, e = .noSlots would limit

theorem assertCapacity_avoids_noSlots {label unit : String}
    {used requested total reserved overallocatePct : Int} :
    Avoids IsNoSlots
      (assertCapacity label used requested total reserved overallocatePct unit) := by
  unfold assertCapacity
  split
  · exact .ok ()
  · split
    · exact .error nofun
    · exact .ok ()

theorem admitOnNode_avoids_noSlots {texts : AdmissionTexts} {request : ResourceRequest}
    {requested : Option AllocationId} :
    Avoids IsNoSlots (admitOnNode texts db now node request requested) := by
  unfold admitOnNode
  cases (db.nodes.get? node).filter (·.deletedAt.isNone) with
  | none => exact .error nofun
  | some row =>
    dsimp only
    split
    · exact .error nofun
    · -- A resource that does not fit and a port that is not free have refusals of their own.
      refine .bind ?_ fun _ => ?_
      · exact .bind assertCapacity_avoids_noSlots fun _ =>
          .bind assertCapacity_avoids_noSlots fun _ => assertCapacity_avoids_noSlots
      · split
        · exact .ok _
        · exact .error nofun

theorem updateServer_avoids_noSlots {id : ServerId} {f : Server → Server} :
    Avoids IsNoSlots (db.updateServer id f) := by
  unfold Db.updateServer
  split
  · exact .error nofun
  · split
    · exact .ok _
    · exact .error nofun

/-- Past its gate, creation does not fail for want of slots any more. -/
theorem placeOnNode_avoids_noSlots :
    Avoids IsNoSlots (placeOnNode db now dto node plan context fresh) := by
  unfold placeOnNode
  refine .bind admitOnNode_avoids_noSlots fun allocation => .bind ?_ fun shortId =>
    .bind ?_ fun created => .bind ?_ fun placed => .bind ?_ fun attached => ?_
  · unfold generateUniqueShortId
    split
    · exact .ok _
    · exact .error nofun
  · unfold Db.createServer
    split
    · split
      · exact .ok _
      · exact .error nofun
    · exact .error nofun
  · unfold Db.updateAllocation
    split
    · exact .error nofun
    · split
      · split
        · exact .ok _
        · exact .error nofun
      · exact .error nofun
  · unfold attachSubscription
    split
    · exact .ok _
    · split
      · exact .error nofun
      · split
        · exact .error nofun
        · exact .ok _
  · unfold resolveTemplate
    split
    · exact .ok _
    · split
      · rename_i refusal _
        cases refusal <;> exact .error nofun
      · exact updateServer_avoids_noSlots

/-- On a live plan, creation fails for want of slots exactly when they are all taken. -/
theorem createOnNode_noSlots_iff {max : Nat} (planned : db.plans.get? dto.planId = some plan)
    (live : plan.deletedAt = none) (bounded : plan.maxSlots = some max) :
    (∃ would limit, createOnNode db now dto node context fresh = .error (.noSlots would limit)) ↔
      max ≤ occupiedSlots db dto.planId := by
  have found : (db.plans.get? dto.planId).filter (·.deletedAt.isNone) = some plan := by
    simp [planned, live]
  by_cases full : max ≤ occupiedSlots db dto.planId
  · simp [createOnNode, found, assertSlots, bounded, full]
  · have past : Avoids IsNoSlots (createOnNode db now dto node context fresh) := by
      simp only [createOnNode, found, assertSlots, bounded, ge_iff_le, full, if_false, ok_bind]
      split
      · exact .error (by rintro ⟨_, _, ⟨⟩⟩)
      · exact placeOnNode_avoids_noSlots
    simp only [full, iff_false]
    rintro ⟨would, limit, refuses⟩
    exact past _ refuses ⟨would, limit, rfl⟩

/-- The customer a server is created for gives up the slot it held for the server's own. -/
theorem createOnNode_keeps_occupied {subscription : SubscriptionId} {s : Subscription}
    (asked : dto.attachSubscriptionId = some subscription)
    (stored : db.subscriptions.get? subscription = some s) (own : s.planId = dto.planId)
    (active : s.status = .active) (waiting : s.serverId = none)
    (creates : createOnNode db now dto node context fresh = .ok after) :
    occupiedSlots after dto.planId = occupiedSlots db dto.planId := by
  obtain ⟨plan, created⟩ := createOnNode_ok creates
  obtain ⟨server, unused, allocations, subscriptions, new, attached, rfl⟩ := created.rows
  cases attached with
  | without unpaid => simp [asked] at unpaid
  | @attached id row asked' stored' =>
    obtain rfl : id = subscription := by simpa [asked] using asked'.symm
    have servers := Table.sum_add db.servers fresh.id server unused (serverSlots dto.planId)
    have waiters := Table.sum_modify stored (fun s => { s with serverId := some fresh.id })
      (subscriptionSlots dto.planId)
    have held : subscriptionSlots dto.planId id s = 1 := by
      simp [subscriptionSlots, Subscription.holdsSlot, own, active, waiting]
    have freed : subscriptionSlots dto.planId id { s with serverId := some fresh.id } = 0 := by
      simp [subscriptionSlots, Subscription.holdsSlot]
    rw [new.slots, if_pos rfl] at servers
    rw [held, freed] at waiters
    simp only [occupiedSlots_eq_sums]
    omega

/--
A customer who paid for a slot can turn it into a server exactly when the plan has another slot
left, or is gone.
-/
theorem held_slot_is_usable_iff {plan : Plan} {max : Nat} {subscription : SubscriptionId}
    {s : Subscription} (planned : db.plans.get? dto.planId = some plan)
    (bounded : plan.maxSlots = some max) (asked : dto.attachSubscriptionId = some subscription)
    (stored : db.subscriptions.get? subscription = some s) (own : s.planId = dto.planId)
    (active : s.status = .active) (waiting : s.serverId = none) :
    ((∀ would limit,
        createOnNode db now dto node context fresh ≠ .error (.noSlots would limit)) ∧
      ∀ after, createOnNode db now dto node context fresh = .ok after →
        occupiedSlots after dto.planId = occupiedSlots db dto.planId) ↔
      plan.deletedAt ≠ none ∨ occupiedSlots db dto.planId < max := by
  have keeps : ∀ after, createOnNode db now dto node context fresh = .ok after →
      occupiedSlots after dto.planId = occupiedSlots db dto.planId :=
    fun after creates => createOnNode_keeps_occupied asked stored own active waiting creates
  cases live : plan.deletedAt with
  | some gone =>
    -- A deleted plan is not found, which is another refusal.
    have missing : createOnNode db now dto node context fresh =
        .error (.notFound "Plan not found") := by
      simp [createOnNode, planned, live]
    simp [missing]
  | none =>
    have refused : (∃ would limit,
          createOnNode db now dto node context fresh = .error (.noSlots would limit)) ↔
        max ≤ occupiedSlots db dto.planId :=
      createOnNode_noSlots_iff planned live bounded
    rw [and_iff_left keeps]
    constructor
    · intro accepted
      refine .inr (Nat.lt_of_not_le fun full => ?_)
      obtain ⟨would, limit, refuses⟩ := refused.mpr full
      exact accepted would limit refuses
    · rintro (gone | room) would limit refuses
      · exact gone rfl
      · exact Nat.not_le_of_lt room (refused.mp ⟨would, limit, refuses⟩)

end Creation

def sampleSold : List Tx := [
  .createCheckoutOrder 0 1 { planId := 1, paymentMethod := .pix } 20 ⟨10, "ord_a"⟩ none,
  .applyPaymentOutcome 1000 20 .paymentConfirmed { samplePix with status := "approved" }
    .mercadopago ⟨11, "ord_b"⟩]

def sampleDelivery : CreateOnNodeInput where
  ownerId := 1
  planId := 1
  attachSubscriptionId := some 20

/-- With a second slot on the plan, the customer's server is created in the slot held so far. -/
theorem sample_held_slot_is_usable :
    (∀ would limit,
      createOnNode (run commit samplePanel (.updatePlan 1 { maxSlots := some (some 2) } :: sampleSold))
        2000 sampleDelivery 1 none ⟨1, ["a1b2c3d4"]⟩ ≠ .error (.noSlots would limit)) ∧
    ∀ after,
      createOnNode (run commit samplePanel (.updatePlan 1 { maxSlots := some (some 2) } :: sampleSold))
        2000 sampleDelivery 1 none ⟨1, ["a1b2c3d4"]⟩ = .ok after →
      occupiedSlots after 1 = 1 :=
  (held_slot_is_usable_iff (Option.some_get (by decide +kernel)).symm
    (by decide +kernel : _ = some 2) rfl (Option.some_get (by decide +kernel)).symm
    (by decide +kernel) (by decide +kernel) (by decide +kernel)).mpr (.inr (by decide +kernel))

/-- Where the customer holds the last slot, the server is refused for want of that very slot. -/
theorem held_slot_is_refused :
    occupiedSlots (run commit samplePanel sampleSold) 1 = 1 ∧
    ((run commit samplePanel sampleSold).plans.get? 1).map (·.maxSlots) = some (some 1) ∧
    ((run commit samplePanel sampleSold).subscriptions.get? 20).map
      (fun s => (s.planId, s.status, s.serverId)) = some (1, .active, none) ∧
    createOnNode (run commit samplePanel sampleSold) 2000 sampleDelivery 1 none ⟨1, ["a1b2c3d4"]⟩ =
      .error (.noSlots 2 1) := by
  decide +kernel

end PxHost

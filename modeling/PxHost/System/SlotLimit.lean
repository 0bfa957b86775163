import PxHost.System.Slots

/-! The bound on a plan's slots along every run, and the transactions that can break it. -/

namespace PxHost

open Store Machine

/-- Turning this subscription active would take a slot of the plan. -/
def Subscription.claimsSlot (s : Subscription) (planId : PlanId) : Bool :=
  s.planId == planId && s.serverId.isNone && canTransition s.status .active

/-- Losing its server, this subscription would take a slot of the plan itself. -/
def Subscription.reclaimsSlot (s : Subscription) (server : ServerId) (planId : PlanId) : Bool :=
  s.serverId == some server && s.planId == planId && s.status == .active

/-- The transaction may take a slot of the plan without asking whether one is left. -/
def Tx.takesSlot (db : Db) (planId : PlanId) (tx : Tx) : Bool :=
  (tx.activates.bind db.subscriptions.get?).any (·.claimsSlot planId) ||
    tx.removes.any fun server =>
      -- A server of the plan itself gives back the slot its subscription takes.
      (db.server? server).any (·.planId != some planId) &&
        (db.subscriptions.find? fun _ s => s.reclaimsSlot server planId).isSome

def Tx.setsMaxSlots (planId : PlanId) : Tx → Bool
  | .updatePlan plan dto => plan == planId && dto.maxSlots.isSome
  | _ => false

/-- The bound stays, and whoever takes a slot without asking finds one free. -/
def RespectsSlots (planId : PlanId) (max : Nat) (db : Db) (tx : Tx) : Prop :=
  tx.setsMaxSlots planId = false ∧ (tx.takesSlot db planId → occupiedSlots db planId < max)

instance (planId : PlanId) (max : Nat) (db : Db) (tx : Tx) :
    Decidable (RespectsSlots planId max db tx) :=
  inferInstanceAs (Decidable (_ ∧ _))

variable {db after : Db} {tx : Tx} {planId : PlanId} {max : Nat}

theorem ServerMove.samePlan {id : ServerId} {s s' : Server} (move : ServerMove db tx id s s') :
    s'.planId = s.planId := by
  cases move with
  | reported =>
    unfold Server.reported
    split <;> rfl
  | _ => rfl

/-- A server that is not being deleted already holds every slot it can hold. -/
theorem ServerMove.slots_le {id : ServerId} {row row' : ServerRow}
    (running : row.val.status ≠ .deleting) (move : ServerMove db tx id row.val row'.val) :
    serverSlots planId id row' ≤ serverSlots planId id row := by
  by_cases own : row.val.planId = some planId
  · have held : serverSlots planId id row = 1 := by
      simp [serverSlots, Server.holdsSlot, own, running]
    rw [held, serverSlots]
    split <;> omega
  · simp [serverSlots, Server.holdsSlot, move.samePlan, own]

variable {id : SubscriptionId}

/-- A subscription takes a slot only by turning active or by losing its server. -/
theorem SubscriptionMove.slots_le (planId : PlanId) {s s' : Subscription}
    (move : SubscriptionMove db tx id s s') :
    subscriptionSlots planId id s' ≤ subscriptionSlots planId id s ∨
      tx.activates = some id ∧ s.claimsSlot planId ∨
      ∃ server, tx = .removeServer server ∧ s.reclaimsSlot server planId := by
  cases move with
  | kept holder status =>
    simp [subscriptionSlots, Subscription.holdsSlot, holder.planId, holder.serverId, status]
  | opened holder asked legal status =>
    by_cases claims : s.claimsSlot planId
    · exact .inr (.inl ⟨asked, claims⟩)
    · -- A subscription with a server, or of another plan, holds no slot when active either.
      have unheld : subscriptionSlots planId id s' = 0 := by
        simp only [subscriptionSlots, Subscription.holdsSlot, holder.planId, holder.serverId]
        simp_all [Subscription.claimsSlot]
      exact .inl (by omega)
  | lapsed holder legal status | closed holder asked status =>
    rcases status with status | status <;>
      simp [subscriptionSlots, Subscription.holdsSlot, status]
  | attached called asked waiting row => simp [row, subscriptionSlots, Subscription.holdsSlot]
  | @detached server called held row =>
    by_cases reclaims : s.reclaimsSlot server planId
    · exact .inr (.inr ⟨server, called, reclaims⟩)
    · refine .inl ?_
      simp_all [Subscription.reclaimsSlot, subscriptionSlots, Subscription.holdsSlot]

theorem NewSubscription.slots_le {s : Subscription} (new : NewSubscription s) :
    subscriptionSlots planId id s ≤ 0 := by
  simp [subscriptionSlots, Subscription.holdsSlot, new.status]

/-- Waiting customers take one more slot at most: whoever is activated, or has lost its server. -/
theorem exec_waiting_le (planId : PlanId) (linked : Linked db) (executed : exec db tx = .ok after) :
    after.subscriptions.sum (subscriptionSlots planId) ≤
      db.subscriptions.sum (subscriptionSlots planId) +
        if (tx.activates.bind db.subscriptions.get?).any (·.claimsSlot planId) ||
          tx.removes.any (fun server =>
            (db.subscriptions.find? fun _ s => s.reclaimsSlot server planId).isSome) then 1 else 0 := by
  have evolves := exec_subscriptions executed
  by_cases still : ∀ id s s', db.subscriptions.get? id = some s → SubscriptionMove db tx id s s' →
      subscriptionSlots planId id s' ≤ subscriptionSlots planId id s
  · exact (evolves.sum_le still fun _ _ new => new.slots_le).trans (Nat.le_add_right _ _)
  push Not at still
  obtain ⟨grown, s, s', known, move, more⟩ := still
  have cause := (move.slots_le planId).resolve_left (not_le.mpr more)
  have grows : ∀ id t t', db.subscriptions.get? id = some t → SubscriptionMove db tx id t t' →
      subscriptionSlots planId id t' ≤ subscriptionSlots planId id t +
        if id = grown then 1 else 0 := by
    intro id t t' stored move'
    have one : subscriptionSlots planId id t' ≤ 1 := by
      unfold subscriptionSlots
      split <;> omega
    -- Whoever else grows is the same subscription: one is activated, and a server has one.
    rcases move'.slots_le planId with keeps | other
    · omega
    · have same : id = grown := by
        rcases cause with ⟨asked, -⟩ | ⟨server, rfl, reclaims⟩ <;>
          rcases other with ⟨asked', -⟩ | ⟨server', called, reclaims'⟩
        · simpa [asked] using asked'.symm
        · subst called
          cases asked
        · cases asked'
        · cases called
          simp only [Subscription.reclaimsSlot, Bool.and_eq_true, beq_iff_eq] at reclaims reclaims'
          exact linked.exclusive stored known reclaims'.1.1 reclaims.1.1
      rw [if_pos same]
      omega
  rw [if_pos]
  · exact evolves.sum_le_add (Nat.zero_le 1) grows fun _ _ new => new.slots_le
  · rcases cause with ⟨asked, claims⟩ | ⟨server, rfl, reclaims⟩
    · simp [asked, known, claims]
    · cases found : db.subscriptions.find? fun _ s => s.reclaimsSlot server planId with
      | none => simp [Table.find?_none found known] at reclaims
      | some row => simp [Tx.removes, found]

variable {server : ServerId}

theorem removeServer_occupied_le (linked : Linked db) (removes : removeServer db server = .ok after) :
    occupiedSlots after planId ≤
      occupiedSlots db planId + if (Tx.removeServer server).takesSlot db planId then 1 else 0 := by
  have executed : exec db (.removeServer server) = .ok after := removes
  have waiting := exec_waiting_le planId linked executed
  simp only [Tx.activates, Tx.removes, Option.bind_none, Option.any_none, Option.any_some,
    Bool.false_or] at waiting
  obtain ⟨⟨row, stored⟩, rfl⟩ := removeServer_ok removes
  have servers : (db.removeServer server).servers.sum (serverSlots planId) +
      serverSlots planId server row = db.servers.sum (serverSlots planId) :=
    Table.sum_erase stored (serverSlots planId)
  have takes : (Tx.removeServer server).takesSlot db planId =
      (row.val.planId != some planId &&
        (db.subscriptions.find? fun _ s => s.reclaimsSlot server planId).isSome) := by
    simp [Tx.takesSlot, Tx.activates, Tx.removes, Db.server?, stored]
  simp only [occupiedSlots_eq_sums]
  by_cases own : row.val.planId = some planId
  · -- The slot given back makes up for the one taken.
    have held : serverSlots planId server row = 1 := by
      simp [serverSlots, Server.holdsSlot, own, linked.running stored]
    split at waiting <;> omega
  · have same : (Tx.removeServer server).takesSlot db planId =
        (db.subscriptions.find? fun _ s => s.reclaimsSlot server planId).isSome := by
      simp [takes, own]
    rw [same]
    omega

/-- A new server takes a slot only where one is free, and the others keep theirs. -/
theorem createOnNode_within (linked : Linked db)
    (fixed : (db.plans.get? planId).map (·.maxSlots) = some (some max))
    (within : occupiedSlots db planId ≤ max) {now : Time} {dto : CreateOnNodeInput} {node : NodeId}
    {context : Option TemplateContext} {fresh : FreshServer}
    (creates : createOnNode db now dto node context fresh = .ok after) :
    occupiedSlots after planId ≤ max := by
  have waiting : after.subscriptions.sum (subscriptionSlots planId) ≤
      db.subscriptions.sum (subscriptionSlots planId) :=
    have executed : exec db (.createOnNode now dto node context fresh) = .ok after := creates
    exec_waiting_le planId linked executed
  obtain ⟨plan, created⟩ := createOnNode_ok creates
  obtain ⟨server, unused, allocations, subscriptions, new, -, rfl⟩ := created.rows
  have servers := Table.sum_add db.servers fresh.id server unused (serverSlots planId)
  rw [new.slots] at servers
  have room : dto.planId = planId → occupiedSlots db planId < max := by
    rintro rfl
    exact created.room max (by simpa [created.planned] using fixed)
  dsimp only at waiting
  simp only [occupiedSlots_eq_sums] at within room ⊢
  split at servers
  · rename_i own
    have := room own
    omega
  · omega

/-- What is bounded: the plan's slots, by a bound that stands, among linked rows. -/
structure NotOversold (planId : PlanId) (max : Nat) (db : Db) : Prop where
  linked : Linked db
  fixed : (db.plans.get? planId).map (·.maxSlots) = some (some max)
  within : occupiedSlots db planId ≤ max

theorem exec_maxSlots (kept : tx.setsMaxSlots planId = false) (executed : exec db tx = .ok after) :
    (after.plans.get? planId).map (·.maxSlots) = (db.plans.get? planId).map (·.maxSlots) := by
  rcases (exec_fleet executed).plans with same | ⟨plan, dto, f, rfl, slots, rows⟩
  · rw [same]
  · rw [rows, Table.get?_modify]
    split
    · rename_i own
      have unset : dto.maxSlots = none := by simpa [Tx.setsMaxSlots, own] using kept
      simp [Function.comp_def, slots, unset]
    · rfl

/-- A slot is only taken while one is free, and what takes none frees some or keeps them. -/
theorem exec_notOversold (before : NotOversold planId max db)
    (respects : RespectsSlots planId max db tx) (executed : exec db tx = .ok after) :
    NotOversold planId max after where
  linked := exec_linked before.linked executed
  fixed := (exec_maxSlots respects.1 executed).trans before.fixed
  within := by
    have within := before.within
    have free := respects.2
    cases removal : tx.removes with
    | some server =>
      obtain rfl := removeServer_of_removes removal
      have bound : occupiedSlots after planId ≤ _ :=
        removeServer_occupied_le before.linked executed
      split at bound
      · rename_i takes
        have := free takes
        omega
      · omega
    | none =>
      by_cases creation : ∃ now dto node context fresh, tx = .createOnNode now dto node context fresh
      · obtain ⟨now, dto, node, context, fresh, rfl⟩ := creation
        exact createOnNode_within before.linked before.fixed within executed
      · -- No server appears, so only a subscription that turns active can add to the count.
        have servers : after.servers.sum (serverSlots planId) ≤
            db.servers.sum (serverSlots planId) := by
          refine (exec_servers removal executed).sum_le ?_ ?_
          · intro id row row' stored move
            exact move.slots_le (before.linked.running stored)
          · intro id row new
            obtain ⟨now, dto, node, context, fresh, called, -⟩ := new.called
            exact absurd ⟨now, dto, node, context, fresh, called⟩ creation
        have waiting := exec_waiting_le planId before.linked executed
        simp only [occupiedSlots_eq_sums, Tx.takesSlot, removal] at within free waiting ⊢
        split at waiting
        · rename_i takes
          have := free takes
          omega
        · omega

/--
A plan is not oversold in any run in which every payment, activation and deletion that takes a
slot without asking finds one free.
-/
theorem plan_is_not_oversold (db : Db) (txs : List Tx) (planId : PlanId) (max : Nat)
    (linked : Linked db) (fixed : (db.plans.get? planId).map (·.maxSlots) = some (some max))
    (within : occupiedSlots db planId ≤ max)
    (respected : Guarded commit (RespectsSlots planId max) db txs) :
    occupiedSlots (run commit db txs) planId ≤ max := by
  have stays := invariant_run (NotOversold planId max)
    (fun _ _ before respects => commit_preserves before fun _ executed =>
      exec_notOversold before respects executed) ⟨linked, fixed, within⟩ respected
  exact stays.within

def sampleRivals : Db :=
  { samplePanel with
    users := sampleShop.db.users.add 2 { sampleCustomer with cpf := some "11144477735" } rfl }

def sampleRivalSold : List Tx := [
  .createCheckoutOrder 0 2 { planId := 1, paymentMethod := .pix } 21 ⟨12, "ord_c"⟩ none,
  .applyPaymentOutcome 2000 21 .paymentConfirmed
    { samplePix with id := "pix-2", status := "approved", externalReference := some "ord_c" }
    .mercadopago ⟨13, "ord_d"⟩]

/-- The first customer pays for the only slot, and the second one is turned away. -/
theorem sample_plan_is_not_oversold :
    occupiedSlots (run commit sampleRivals (sampleSold ++ sampleRivalSold)) 1 ≤ 1 :=
  plan_is_not_oversold sampleRivals _ 1 1 (.of_empty rfl rfl rfl) (by decide) (by decide)
    (by decide +kernel)

/-- Two customers check out while the only slot is free, and both of them pay. -/
theorem plan_is_oversold :
    (sampleRivals.plans.get? 1).map (·.maxSlots) = some (some 1) ∧
    occupiedSlots sampleRivals 1 ≤ 1 ∧
    occupiedSlots (run commit sampleRivals [
      .createCheckoutOrder 0 1 { planId := 1, paymentMethod := .pix } 20 ⟨10, "ord_a"⟩ none,
      .createCheckoutOrder 0 2 { planId := 1, paymentMethod := .pix } 21 ⟨12, "ord_c"⟩ none,
      .applyPaymentOutcome 1000 20 .paymentConfirmed { samplePix with status := "approved" }
        .mercadopago ⟨11, "ord_b"⟩,
      .applyPaymentOutcome 2000 21 .paymentConfirmed
        { samplePix with id := "pix-2", status := "approved", externalReference := some "ord_c" }
        .mercadopago ⟨13, "ord_d"⟩]) 1 = 2 := by
  decide +kernel

end PxHost
